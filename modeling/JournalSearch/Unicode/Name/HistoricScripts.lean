import JournalSearch.Unicode.Name.Run

/-!
Names of characters from U+10000 on: scripts beyond the basic plane, most of them historic.
-/
namespace JournalSearch.Unicode

def historicScriptNames : List NameRun := [
  ⟨0x10000, "aLINEAR B SYLLABLE B008 AdB038 EdB028 IdB061 OdB010 UdB001 DAdB045 DEdB007 DI
    dB014 DOdB051 DUdB057 JAdB046 JE"⟩,
  ⟨0x1000d, "aLINEAR B SYLLABLE B036 JOdB065 JUdB077 KAdB044 KEdB067 KIdB070 KOdB081 KUdB080 MA
    dB013 MEdB073 MIdB015 MOdB023 MUdB006 NAdB024 NEdB030 NIdB052 NOdB055 NUdB003 PAdB072 PE
    dB039 PIdB011 POdB050 PUdB016 QAdB078 QEdB021 QIdB032 QO"⟩,
  ⟨0x10028, "aLINEAR B SYLLABLE B060 RAdB027 REdB053 RIdB002 ROdB026 RUdB031 SAdB009 SEdB041 SI
    dB012 SOdB058 SUdB059 TAdB004 TEdB037 TIdB005 TOdB069 TUdB054 WAdB075 WEdB040 WIdB042 WO"⟩,
  ⟨0x1003c, "aLINEAR B SYLLABLE B017 ZAdB074 ZE"⟩,
  ⟨0x1003f, "aLINEAR B SYLLABLE B020 ZOdB025 A2dB043 A3dB085 AUdB071 DWEdB090 DWOdB048 NWA
    dB029 PU2dB062 PTEdB076 RA2dB033 RA3dB068 RO2dB066 TA2dB087 TWEdB091 TWO"⟩,
  ⟨0x10050, "aLINEAR B SYMBOL B018dB019dB022dB034dB047dB049dB056dB063dB064dB079dB082dB083dB086
    dB089"⟩, ⟨0x10080, "aLINEAR B IDEOGRAM B100 MANdB102 WOMANdB104 DEERdB105 EQUIDdB105F MARE
    dB105M STALLIONdB106F EWEdB106M RAMdB107F SHE-GOATdB107M HE-GOATdB108F SOWdB108M BOAR
    dB109F COWdB109M BULLdB120 WHEATdB121 BARLEYdB122 OLIVEdB123 SPICEdB125 CYPERUS
    cMONOGRAM B127 KAPOdB128 KANAKOcIDEOGRAM B130 OILdB131 WINEdB132cMONOGRAM B133 AREPA
    dB135 MERIcIDEOGRAM B140 BRONZEdB141 GOLDdB142dB145 WOOLdB146dB150dB151 HORNdB152dB153dB154
    cMONOGRAM B156 TURO2cIDEOGRAM B157dB158dB159 CLOTHdB160dB161dB162 GARMENTdB163 ARMOURdB164
    dB165dB166dB167dB168dB169dB170dB171dB172dB173 MONTHdB174dB176 TREEdB177dB178dB179dB180dB181
    dB182dB183dB184dB185dB189dB190dB191 HELMETdB220 FOOTSTOOLdB225 BATHTUBdB230 SPEARdB231 ARROW
    dB232dB233 SWORDdB234dB236dB240 WHEELED CHARIOTdB241 CHARIOTdB242 CHARIOT FRAMEdB243 WHEEL
    dB245dB246cMONOGRAM B247 DIPTEcIDEOGRAM B248dB249dB251dB252dB253dB254 DARTdB255dB256dB257
    dB258dB259dVESSEL B155eB200eB201eB202eB203eB204eB205eB206eB207eB208eB209eB210eB211eB212eB213
    eB214eB215eB216eB217eB218eB219eB221eB222eB226eB227eB228eB229eB250eB305"⟩,
  ⟨0x10100, "aAEGEAN WORD SEPARATOR LINEdDOTbCHECK MARK"⟩,
  ⟨0x10107, "aAEGEAN NUMBER ONEcTWOcTHREEcFOURcFIVEcSIXcSEVENcEIGHTcNINEcTENcTWENTYcTHIRTYcFORTY
    cFIFTYcSIXTYcSEVENTYcEIGHTYcNINETYcONE HUNDREDcTWO HUNDREDcTHREE HUNDREDcFOUR HUNDRED
    cFIVE HUNDREDcSIX HUNDREDcSEVEN HUNDREDcEIGHT HUNDREDcNINE HUNDREDcONE THOUSANDcTWO THOUSAND
    cTHREE THOUSANDcFOUR THOUSANDcFIVE THOUSANDcSIX THOUSANDcSEVEN THOUSANDcEIGHT THOUSAND
    cNINE THOUSANDcTEN THOUSANDcTWENTY THOUSANDcTHIRTY THOUSANDcFORTY THOUSANDcFIFTY THOUSAND
    cSIXTY THOUSANDcSEVENTY THOUSANDcEIGHTY THOUSANDcNINETY THOUSAND"⟩,
  ⟨0x10137, "aAEGEAN WEIGHT BASE UNITcFIRST SUBUNITcSECOND SUBUNITcTHIRD SUBUNITcFOURTH SUBUNIT
    bDRY MEASURE FIRST SUBUNITbLIQUID MEASURE FIRST SUBUNITbMEASURE SECOND SUBUNITcTHIRD SUBUNIT
    aGREEK ACROPHONIC ATTIC ONE QUARTEReHALFeDRACHMAdFIVEdFIFTYdFIVE HUNDREDeTHOUSAND
    dFIFTY THOUSANDdFIVE TALENTSdTEN TALENTSdFIFTY TALENTSdONE HUNDRED TALENTS
    dFIVE HUNDRED TALENTSdONE THOUSAND TALENTSdFIVE THOUSAND TALENTSeSTATERSdTEN STATERS
    dFIFTY STATERSdONE HUNDRED STATERSdFIVE HUNDRED STATERSdONE THOUSAND STATERS
    dTEN THOUSAND STATERSdFIFTY THOUSAND STATERSdTEN MNAScHERAEUM ONE PLETHRONcTHESPIAN ONE
    cHERMIONIAN ONEcEPIDAUREAN TWOcTHESPIAN TWOcCYRENAIC TWO DRACHMAScEPIDAUREAN TWO DRACHMAS
    cTROEZENIAN FIVEdTENeALTERNATE FORMcHERMIONIAN TENcMESSENIAN TENcTHESPIAN TENdTHIRTY
    cTROEZENIAN FIFTYeALTERNATE FORMcHERMIONIAN FIFTYcTHESPIAN FIFTYdONE HUNDREDdTHREE HUNDRED
    cEPIDAUREAN FIVE HUNDREDcTROEZENIAN FIVE HUNDREDcTHESPIAN FIVE HUNDRED
    cCARYSTIAN FIVE HUNDREDcNAXIAN FIVE HUNDREDcTHESPIAN ONE THOUSANDdFIVE THOUSAND
    cDELPHIC FIVE MNAScSTRATIAN FIFTY MNASbONE HALF SIGNeALTERNATE FORMbTWO THIRDS SIGN
    bTHREE QUARTERS SIGNbYEAR SIGNbTALENT SIGNbDRACHMA SIGNbOBOL SIGNbTWO OBOLS SIGN
    bTHREE OBOLS SIGNbFOUR OBOLS SIGNbFIVE OBOLS SIGNbMETRETES SIGNbKYATHOS BASE SIGNbLITRA SIGN
    bOUNKIA SIGNbXESTES SIGNbARTABE SIGNbAROURA SIGNbGRAMMA SIGNbTRYBLION BASE SIGNbZERO SIGN
    bONE QUARTER SIGNbSINUSOID SIGNbINDICTION SIGNaNOMISMA SIGN"⟩,
  ⟨0x10190, "aROMAN SEXTANS SIGNbUNCIA SIGNbSEMUNCIA SIGNbSEXTULA SIGNbDIMIDIA SEXTULA SIGN
    bSILIQUA SIGNbDENARIUS SIGNbQUINARIUS SIGNbSESTERTIUS SIGNbDUPONDIUS SIGNbAS SIGN
    bCENTURIAL SIGNaASCIA SYMBOL"⟩, ⟨0x101a0, "aGREEK SYMBOL TAU RHO"⟩,
  ⟨0x101d0, "aPHAISTOS DISC SIGN PEDESTRIANdPLUMED HEADdTATTOOED HEADdCAPTIVEdCHILDdWOMANdHELMET
    dGAUNTLETdTIARAdARROWdBOWdSHIELDdCLUBdMANACLESdMATTOCKdSAWdLIDdBOOMERANGdCARPENTRY PLANE
    dDOLIUMdCOMBdSLINGdCOLUMNdBEEHIVEdSHIPdHORNdHIDEdBULLS LEGdCATdRAMdEAGLEdDOVEdTUNNYdBEE
    dPLANE TREEdVINEdPAPYRUSdROSETTEdLILYdOX BACKdFLUTEdGRATERdSTRAINERdSMALL AXEdWAVY BAND
    dCOMBINING OBLIQUE STROKE"⟩,
  ⟨0x10280, "aLYCIAN LETTER AcEcBcBHcGcDcIcWcZcTHcJcKcQcLcMcNcMMcNNcUcPcKKcRcScTcTTcANcENcHcX"⟩,
  ⟨0x102a0, "aCARIAN LETTER AcP2cDcLcUUUcRcLDcA2cQcBcMcOcD2cTcSHcSH2cScC-18cUcNNcXcNcTT2cPcSScI
    cEcUUUUcKcK2cNDcUUcGcG2cSTcST2cNGcIIcC-39cTTcUUU2cRRcMBcMB2cMB3cMB4cLD2cE2cUUU3"⟩,
  ⟨0x102e0, "aCOPTIC EPACT THOUSANDS MARKcDIGIT ONEdTWOdTHREEdFOURdFIVEdSIXdSEVENdEIGHTdNINE
    cNUMBER TENdTWENTYdTHIRTYdFORTYdFIFTYdSIXTYdSEVENTYdEIGHTYdNINETYdONE HUNDREDdTWO HUNDRED
    dTHREE HUNDREDdFOUR HUNDREDdFIVE HUNDREDdSIX HUNDREDdSEVEN HUNDREDdEIGHT HUNDRED
    dNINE HUNDRED"⟩,
  ⟨0x10300, "aOLD ITALIC LETTER AdBEdKEdDEdEdVEdZEdHEdTHEdIdKAdELdEMdENdESHdOdPEdSHEdKUdERdESdTE
    dUdEKSdPHEdKHEdEFdERSdCHEdIIdUUdESScNUMERAL ONEdFIVEdTENdFIFTY"⟩,
  ⟨0x1032d, "aOLD ITALIC LETTER YEdNORTHERN TSEdSOUTHERN TSEaGOTHIC LETTER AHSAcBAIRKANcGIBA
    cDAGScAIHVUScQAIRTHRAcIUJAcHAGLcTHIUTHcEIScKUSMAcLAGUScMANNAcNAUTHScJERcURUScPAIRTHRAcNINETY
    cRAIDAcSAUILcTEIWScWINJAcFAIHUcIGGWScHWAIRcOTHALcNINE HUNDRED"⟩,
  ⟨0x10350, "aOLD PERMIC LETTER ANdBURdGAIdDOIdEdZHOIdDZHOIdZATAdDZITAdIdKOKEdLEIdMENOEdNENOE
    dVOOIdPEEIdREIdSIIdTAIdUdCHERYdSHOOIdSHCHOOIdYRYdYERUdOdOOdEFdHAdTSIUdVERdYERdYERIdYATdIEdYU
    dYAdIAaCOMBINING OLD PERMIC LETTER ANeDOIeZATAeNENOEeSII"⟩,
  ⟨0x10380, "aUGARITIC LETTER ALPAcBETAcGAMLAcKHAcDELTAcHOcWOcZETAcHOTAcTETcYODcKAFcSHINcLAMDA
    cMEMcDHALcNUNcZUcSAMKAcAINcPUcSADEcQOPAcRASHAcTHANNAcGHAINcTOcIcUcSSU"⟩,
  ⟨0x1039f, "aUGARITIC WORD DIVIDERaOLD PERSIAN SIGN AdIdUdKAdKUdGAdGUdXAdCAdJAdJIdTAdTUdDAdDI
    dDUdTHAdPAdBAdFAdNAdNUdMAdMIdMUdYAdVAdVIdRAdRUdLAdSAdZAdSHAdSSAdHA"⟩,
  ⟨0x103c8, "aOLD PERSIAN SIGN AURAMAZDAAdAURAMAZDAA-2dAURAMAZDAAHAdXSHAAYATHIYAdDAHYAAUSH
    dDAHYAAUSH-2dBAGAdBUUMISHcWORD DIVIDERcNUMBER ONEdTWOdTENdTWENTYdHUNDRED"⟩,
  ⟨0x10400, "aDESERET CAPITAL LETTER LONG IeEeAeAHeOeOOdSHORT IeEeAeAHeOeOOdAYdOWdWUdYEEdHdPEE
    dBEEdTEEdDEEdCHEEdJEEdKAYdGAYdEFdVEEdETHdTHEEdESdZEEdESHdZHEEdERdELdEMdENdENGdOIdEW
    bSMALL LETTER LONG IeEeAeAHeOeOOdSHORT IeEeAeAHeOeOOdAYdOWdWUdYEEdHdPEEdBEEdTEEdDEEdCHEEdJEE
    dKAYdGAYdEFdVEEdETHdTHEEdESdZEEdESHdZHEEdERdELdEMdENdENGdOIdEWaSHAVIAN LETTER PEEPcTOTcKICK
    cFEEcTHIGHcSOcSUREcCHURCHcYEAcHUNGcBIBcDEADcGAGcVOWcTHEYcZOOcMEASUREcJUDGEcWOEcHA-HAcLOLL
    cMIMEcIFcEGGcASHcADOcONcWOOLcOUTcAHcROARcNUNcEATcAGEcICEcUPcOAKcOOZEcOILcAWEcAREcORcAIRcERR
    cARRAYcEARcIANcYEWaOSMANYA LETTER ALEFcBAcTAcJAcXAcKHAcDEELcRAcSAcSHIINcDHAcCAYNcGAcFAcQAAF
    cKAAFcLAANcMIINcNUUNcWAWcHAcYAcAcEcIcOcUcAAcEEcOO"⟩,
  ⟨0x104a0, "aOSMANYA DIGIT ZEROcONEcTWOcTHREEcFOURcFIVEcSIXcSEVENcEIGHTcNINE"⟩,
  ⟨0x104b0, "aOSAGE CAPITAL LETTER AdAIdAINdAHdBRAdCHAdEHCHAdEdEINdHAdHYAdIdKAdEHKAdKYAdLAdMAdNA
    dOdOINdPAdEHPAdSAdSHAdTAdEHTAdTSAdEHTSAdTSHAdDHAdUdWAdKHAdGHAdZAdZHA"⟩,
  ⟨0x104d8, "aOSAGE SMALL LETTER AdAIdAINdAHdBRAdCHAdEHCHAdEdEINdHAdHYAdIdKAdEHKAdKYAdLAdMAdNAdO
    dOINdPAdEHPAdSAdSHAdTAdEHTAdTSAdEHTSAdTSHAdDHAdUdWAdKHAdGHAdZAdZHA"⟩,
  ⟨0x10500, "aELBASAN LETTER AcBEcCEcCHEcDEcNDEcDHEcEIcEcFEcGEcGJEcHEcIcJEcKEcLEcLLEcMEcNEcNA
    cNJEcOcPEcQEcREcRREcSEcSHEcTEcTHEcUcVEcXEcYcZEcZHEcGHEcGHAMMAcKHE"⟩,
  ⟨0x10530, "aCAUCASIAN ALBANIAN LETTER ALTdBETdGIMdDATdEBdZARLdEYNdZHILdTASdCHAdYOWDdZHAdIRB
    dSHAdLANdINYAdXEYNdDYANdCARdJHOXdKARdLYITdHEYTdQAYdAORdCHOYdCHIdCYAYdMAQdQARdNOWCdDZYAYdSHAK
    dJAYNdONdTYAYdFAMdDZAYdCHATdPENdGHEYSdRATdSEYKdVEYZdTIWRdSHOYdIWNdCYAWdCAYNdYAYDdPIWRdKIW"⟩,
  ⟨0x1056f, "aCAUCASIAN ALBANIAN CITATION MARKaVITHKUQI CAPITAL LETTER AdBBEdBEdCEdCHEdDEdDHEdEI
    dEdFEdGA"⟩,
  ⟨0x1057c, "aVITHKUQI CAPITAL LETTER HAdHHAdIdIJEdJEdKAdLAdLLAdMEdNEdNJEdOdPEdQAdRE"⟩,
  ⟨0x1058c, "aVITHKUQI CAPITAL LETTER SEdSHEdTEdTHEdUdVEdXE"⟩,
  ⟨0x10594, "aVITHKUQI CAPITAL LETTER YdZE"⟩,
  ⟨0x10597, "aVITHKUQI SMALL LETTER AdBBEdBEdCEdCHEdDEdDHEdEIdEdFEdGA"⟩,
  ⟨0x105a3, "aVITHKUQI SMALL LETTER HAdHHAdIdIJEdJEdKAdLAdLLAdMEdNEdNJEdOdPEdQAdRE"⟩,
  ⟨0x105b3, "aVITHKUQI SMALL LETTER SEdSHEdTEdTHEdUdVEdXE"⟩,
  ⟨0x105bb, "aVITHKUQI SMALL LETTER YdZE"⟩,
  ⟨0x10600, "aLINEAR A SIGN AB001dAB002dAB003dAB004dAB005dAB006dAB007dAB008dAB009dAB010dAB011
    dAB013dAB016dAB017dAB020dAB021dAB021FdAB021MdAB022dAB022FdAB022MdAB023dAB023MdAB024dAB026
    dAB027dAB028dA028BdAB029dAB030dAB031dAB034dAB037dAB038dAB039dAB040dAB041dAB044dAB045dAB046
    dAB047dAB048dAB049dAB050dAB051dAB053dAB054dAB055dAB056dAB057dAB058dAB059dAB060dAB061dAB065
    dAB066dAB067dAB069dAB070dAB073dAB074dAB076dAB077dAB078dAB079dAB080dAB081dAB082dAB085dAB086
    dAB087dA100-102dAB118dAB120dA120BdAB122dAB123dAB131AdAB131BdA131CdAB164dAB171dAB180dAB188
    dAB191dA301dA302dA303dA304dA305dA306dA307dA308dA309AdA309BdA309CdA310dA311dA312dA313AdA313B
    dA313CdA314dA315dA316dA317dA318dA319dA320dA321dA322dA323dA324dA325dA326dA327dA328dA329dA330
    dA331dA332dA333dA334dA335dA336dA337dA338dA339dA340dA341dA342dA343dA344dA345dA346dA347dA348
    dA349dA350dA351dA352dA353dA354dA355dA356dA357dA358dA359dA360dA361dA362dA363dA364dA365dA366
    dA367dA368dA369dA370dA371dA400-VASdA401-VASdA402-VASdA403-VASdA404-VASdA405-VASdA406-VAS
    dA407-VASdA408-VASdA409-VASdA410-VASdA411-VASdA412-VASdA413-VASdA414-VASdA415-VASdA416-VAS
    dA417-VASdA418-VASdA501dA502dA503dA504dA505dA506dA508dA509dA510dA511dA512dA513dA515dA516
    dA520dA521dA523dA524dA525dA526dA527dA528dA529dA530dA531dA532dA534dA535dA536dA537dA538dA539
    dA540dA541dA542dA545dA547dA548dA549dA550dA551dA552dA553dA554dA555dA556dA557dA559dA563dA564
    dA565dA566dA568dA569dA570dA571dA572dA573dA574dA575dA576dA577dA578dA579dA580dA581dA582dA583
    dA584dA585dA586dA587dA588dA589dA591dA592dA594dA595dA596dA598dA600dA601dA602dA603dA604dA606
    dA608dA609dA610dA611dA612dA613dA614dA615dA616dA617dA618dA619dA620dA621dA622dA623dA624dA626
    dA627dA628dA629dA634dA637dA638dA640dA642dA643dA644dA645dA646dA648dA649dA651dA652dA653dA654
    dA655dA656dA657dA658dA659dA660dA661dA662dA663dA664"⟩,
  ⟨0x10740, "aLINEAR A SIGN A701 AdA702 BdA703 DdA704 EdA705 FdA706 HdA707 JdA708 KdA709 L
    dA709-2 L2dA709-3 L3dA709-4 L4dA709-6 L6dA710 WdA711 XdA712 YdA713 OMEGAdA714 ABBdA715 BB
    dA717 DDdA726 EYYYdA732 JE"⟩,
  ⟨0x10760, "aLINEAR A SIGN A800dA801dA802dA803dA804dA805dA806dA807"⟩,
  ⟨0x10780, "aMODIFIER LETTER SMALL CAPITAL AAcSUPERSCRIPT TRIANGULAR COLON
    dHALF TRIANGULAR COLONcSMALL AEdCAPITAL BdB WITH HOOK"⟩,
  ⟨0x10787, "aMODIFIER LETTER SMALL DZ DIGRAPHfWITH RETROFLEX HOOKgCURLdDEZH DIGRAPHdD WITH TAIL
    fHOOKgAND TAILdREVERSED EdCLOSED REVERSED OPEN EdFENG DIGRAPHdRAMS HORNdCAPITAL G
    dG WITH HOOKdCAPITAL G WITH HOOKdH WITH STROKEdCAPITAL HdHENG WITH HOOK
    dDOTLESS J WITH STROKE AND HOOKdLS DIGRAPHdLZ DIGRAPHdL WITH BELTdCAPITAL L WITH BELT
    dL WITH RETROFLEX HOOK AND BELTdLEZHeWITH RETROFLEX HOOKdTURNED YfWITH BELTdO WITH STROKE
    dCAPITAL OEdCLOSED OMEGAdQdTURNED R WITH LONG LEGiAND RETROFLEX HOOKdR WITH TAILfFISHHOOK
    dCAPITAL RdTC DIGRAPH WITH CURLdTS DIGRAPHfWITH RETROFLEX HOOKdTESH DIGRAPH
    dT WITH RETROFLEX HOOKdV WITH RIGHT HOOK"⟩,
  ⟨0x107b2, "aMODIFIER LETTER SMALL CAPITAL YcGLOTTAL STOP WITH STROKE
    cREVERSED GLOTTAL STOP WITH STROKEcBILABIAL CLICKcDENTAL CLICKcLATERAL CLICKcALVEOLAR CLICK
    cRETROFLEX CLICK WITH RETROFLEX HOOKcSMALL S WITH CURL"⟩,
  ⟨0x10800, "aCYPRIOT SYLLABLE AcEcIcOcUcJA"⟩, ⟨0x10808, "aCYPRIOT SYLLABLE JO"⟩,
  ⟨0x1080a, "aCYPRIOT SYLLABLE KAcKEcKIcKOcKUcLAcLEcLIcLOcLUcMAcMEcMIcMOcMUcNAcNEcNIcNOcNUcPAcPE
    cPIcPOcPUcRAcREcRIcROcRUcSAcSEcSIcSOcSUcTAcTEcTIcTOcTUcWAcWEcWIcWO"⟩,
  ⟨0x10837, "aCYPRIOT SYLLABLE XAcXE"⟩, ⟨0x1083c, "aCYPRIOT SYLLABLE ZA"⟩,
  ⟨0x1083f, "aCYPRIOT SYLLABLE ZOaIMPERIAL ARAMAIC LETTER ALEPHdBETHdGIMELdDALETHdHEdWAWdZAYIN
    dHETHdTETHdYODHdKAPHdLAMEDHdMEMdNUNdSAMEKHdAYINdPEdSADHEdQOPHdRESHdSHINdTAW"⟩,
  ⟨0x10857, "aIMPERIAL ARAMAIC SECTION SIGNcNUMBER ONEdTWOdTHREEdTENdTWENTYdONE HUNDREDeTHOUSAND
    dTEN THOUSANDaPALMYRENE LETTER ALEPHcBETHcGIMELcDALETHcHEcWAWcZAYINcHETHcTETHcYODHcKAPH
    cLAMEDHcMEMcFINAL NUNcNUNcSAMEKHcAYINcPEcSADHEcQOPHcRESHcSHINcTAWbLEFT-POINTING FLEURON
    bRIGHT-POINTING FLEURONbNUMBER ONEcTWOcTHREEcFOURcFIVEcTENcTWENTY
    aNABATAEAN LETTER FINAL ALEPHcALEPHcFINAL BETHcBETHcGIMELcDALETHcFINAL HEcHEcWAWcZAYINcHETH
    cTETHcFINAL YODHcYODHcFINAL KAPHcKAPHcFINAL LAMEDHcLAMEDHcFINAL MEMcMEMcFINAL NUNcNUNcSAMEKH
    cAYINcPEcSADHEcQOPHcRESHcFINAL SHINcSHINcTAW"⟩,
  ⟨0x108a7, "aNABATAEAN NUMBER ONEcTWOcTHREEcFOURbCRUCIFORM NUMBER FOURbNUMBER FIVEcTENcTWENTY
    cONE HUNDRED"⟩,
  ⟨0x108e0, "aHATRAN LETTER ALEPHcBETHcGIMELcDALETH-RESHcHEcWAWcZAYNcHETHcTETHcYODHcKAPHcLAMEDH
    cMEMcNUNcSAMEKHcAYNcPEcSADHEcQOPH"⟩, ⟨0x108f4, "aHATRAN LETTER SHINcTAW"⟩,
  ⟨0x108fb, "aHATRAN NUMBER ONEcFIVEcTENcTWENTYcONE HUNDREDaPHOENICIAN LETTER ALFcBETcGAMLcDELT
    cHEcWAUcZAIcHETcTETcYODcKAFcLAMDcMEMcNUNcSEMKcAINcPEcSADEcQOFcROSHcSHINcTAUbNUMBER ONEcTEN
    cTWENTYcONE HUNDREDcTWOcTHREE"⟩,
  ⟨0x1091f, "aPHOENICIAN WORD SEPARATORaLYDIAN LETTER AcBcGcDcEcVcIcYcKcLcMcNcOcRcSScTcUcFcQcS
    cTTcANcENcLYcNNcC"⟩, ⟨0x1093f, "aLYDIAN TRIANGULAR MARK"⟩,
  ⟨0x10980, "aMEROITIC HIEROGLYPHIC LETTER AdEdIdOdYAdWAdBAdBA-2dPAdMAdNAdNA-2dNEdNE-2dRAdRA-2
    dLAdKHAdHHAdSAdSA-2dSEdKAdQAdTAdTA-2dTEdTE-2dTOdDAcSYMBOL VIDJdVIDJ-2bCURSIVE LETTER AdEdIdO
    dYAdWAdBAdPAdMAdNAdNEdRAdLAdKHAdHHAdSAdARCHAIC SAdSEdKAdQAdTAdTEdTOdDA"⟩,
  ⟨0x109bc, "aMEROITIC CURSIVE FRACTION ELEVEN TWELFTHSdONE HALFcLOGOGRAM RMTdIMNcNUMBER ONEdTWO
    dTHREEdFOURdFIVEdSIXdSEVENdEIGHTdNINEdTENdTWENTYdTHIRTYdFORTYdFIFTYdSIXTYdSEVENTY"⟩,
  ⟨0x109d2, "aMEROITIC CURSIVE NUMBER ONE HUNDREDdTWO HUNDREDdTHREE HUNDREDdFOUR HUNDRED
    dFIVE HUNDREDdSIX HUNDREDdSEVEN HUNDREDdEIGHT HUNDREDdNINE HUNDREDdONE THOUSANDdTWO THOUSAND
    dTHREE THOUSANDdFOUR THOUSANDdFIVE THOUSANDdSIX THOUSANDdSEVEN THOUSANDdEIGHT THOUSAND
    dNINE THOUSANDdTEN THOUSANDdTWENTY THOUSANDdTHIRTY THOUSANDdFORTY THOUSANDdFIFTY THOUSAND
    dSIXTY THOUSANDdSEVENTY THOUSANDdEIGHTY THOUSANDdNINETY THOUSANDdONE HUNDRED THOUSAND
    dTWO HUNDRED THOUSANDdTHREE HUNDRED THOUSANDdFOUR HUNDRED THOUSANDdFIVE HUNDRED THOUSAND
    dSIX HUNDRED THOUSANDdSEVEN HUNDRED THOUSANDdEIGHT HUNDRED THOUSANDdNINE HUNDRED THOUSAND
    cFRACTION ONE TWELFTHdTWO TWELFTHSdTHREE TWELFTHSdFOUR TWELFTHSdFIVE TWELFTHSdSIX TWELFTHS
    dSEVEN TWELFTHSdEIGHT TWELFTHSdNINE TWELFTHSdTEN TWELFTHSaKHAROSHTHI LETTER AbVOWEL SIGN IdU
    dVOCALIC R"⟩, ⟨0x10a05, "aKHAROSHTHI VOWEL SIGN EdO"⟩,
  ⟨0x10a0c, "aKHAROSHTHI VOWEL LENGTH MARKbSIGN DOUBLE RING BELOWcANUSVARAcVISARGAbLETTER KAcKHA
    cGAcGHA"⟩, ⟨0x10a15, "aKHAROSHTHI LETTER CAcCHAcJA"⟩,
  ⟨0x10a19, "aKHAROSHTHI LETTER NYAcTTAcTTHAcDDAcDDHAcNNAcTAcTHAcDAcDHAcNAcPAcPHAcBAcBHAcMAcYA
    cRAcLAcVAcSHAcSSAcSAcZAcHAcKKAcTTTHAcTTTAcVHA"⟩,
  ⟨0x10a38, "aKHAROSHTHI SIGN BAR ABOVEcCAUDAcDOT BELOW"⟩,
  ⟨0x10a3f, "aKHAROSHTHI VIRAMAbDIGIT ONEcTWOcTHREEcFOURbNUMBER TENcTWENTYcONE HUNDREDdTHOUSAND
    bFRACTION ONE HALF"⟩,
  ⟨0x10a50, "aKHAROSHTHI PUNCTUATION DOTcSMALL CIRCLEcCIRCLEcCRESCENT BARcMANGALAMcLOTUScDANDA
    cDOUBLE DANDAcLINES"⟩,
  ⟨0x10a60, "aOLD SOUTH ARABIAN LETTER HEeLAMEDHeHETHeMEMeQOPHeWAWeSHINeRESHeBETHeTAWeSATeKAPH
    eNUNeKHETHeSADHEeSAMEKHeFEeALEFeAYNeDHADHEeGIMELeDALETHeGHAYNeTETHeZAYNeDHALETHeYODHeTHAW
    eTHETHdNUMBER ONEeFIFTYdNUMERIC INDICATORbNORTH ARABIAN LETTER HEHeLAMeHAHeMEEMeQAFeWAWeES-2
    eREHeBEHeTEHeES-1eKAFeNOONeKHAHeSADeES-3eFEHeALEFeAINeDADeGEEMeDALeGHAINeTAHeZAINeTHALeYEH
    eTHEHeZAHdNUMBER ONEeTENeTWENTY"⟩,
  ⟨0x10ac0, "aMANICHAEAN LETTER ALEPHcBETHcBHETHcGIMELcGHIMELcDALETHcHEcWAWbSIGN UDbLETTER ZAYIN
    cZHAYINcJAYINcJHAYINcHETHcTETHcYODHcKAPHcXAPHcKHAPHcLAMEDHcDHAMEDHcTHAMEDHcMEMcNUNcSAMEKH
    cAYINcAAYINcPEcFEcSADHEcQOPHcXOPHcQHOPHcRESHcSHINcSSHINcTAWbABBREVIATION MARK ABOVEdBELOW"⟩,
  ⟨0x10aeb, "aMANICHAEAN NUMBER ONEcFIVEcTENcTWENTYcONE HUNDREDbPUNCTUATION STARcFLEURON
    cDOUBLE DOT WITHIN DOTcDOT WITHIN DOTcDOTcTWO DOTScLINE FILLER"⟩,
  ⟨0x10b00, "aAVESTAN LETTER AcAAcAOcAAOcANcAANcAEcAEEcEcEEcOcOOcIcIIcUcUUcKEcXEcXYEcXVEcGEcGGE
    cGHEcCEcJEcTEcTHEcDEcDHEcTTEcPEcFEcBEcBHEcNGEcNGYEcNGVEcNEcNYEcNNEcMEcHMEcYYEcYEcVEcREcLEcSE
    cZEcSHEcZHEcSHYEcSSHEcHE"⟩,
  ⟨0x10b39, "aAVESTAN ABBREVIATION MARKaTINY TWO DOTS OVER ONE DOT PUNCTUATION
    aSMALL TWO DOTS OVER ONE DOT PUNCTUATIONaLARGE TWO DOTS OVER ONE DOT PUNCTUATION
    bONE DOT OVER TWO DOTS PUNCTUATIONbTWO RINGS OVER ONE RING PUNCTUATION
    bONE RING OVER TWO RINGS PUNCTUATIONaINSCRIPTIONAL PARTHIAN LETTER ALEPHdBETHdGIMELdDALETH
    dHEdWAWdZAYINdHETHdTETHdYODHdKAPHdLAMEDHdMEMdNUNdSAMEKHdAYINdPEdSADHEdQOPHdRESHdSHINdTAW"⟩,
  ⟨0x10b58, "aINSCRIPTIONAL PARTHIAN NUMBER ONEdTWOdTHREEdFOURdTENdTWENTYdONE HUNDREDeTHOUSAND
    bPAHLAVI LETTER ALEPHdBETHdGIMELdDALETHdHEdWAW-AYIN-RESHdZAYINdHETHdTETHdYODHdKAPHdLAMEDH
    dMEM-QOPHdNUNdSAMEKHdPEdSADHEdSHINdTAW"⟩,
  ⟨0x10b78, "aINSCRIPTIONAL PAHLAVI NUMBER ONEdTWOdTHREEdFOURdTENdTWENTYdONE HUNDREDeTHOUSAND
    aPSALTER PAHLAVI LETTER ALEPHdBETHdGIMELdDALETHdHEdWAW-AYIN-RESHdZAYINdHETHdYODHdKAPHdLAMEDH
    dMEM-QOPHdNUNdSAMEKHdPEdSADHEdSHINdTAW"⟩,
  ⟨0x10b99, "aPSALTER PAHLAVI SECTION MARKcTURNED SECTION MARKcFOUR DOTS WITH CROSSfDOT"⟩,
  ⟨0x10ba9, "aPSALTER PAHLAVI NUMBER ONEdTWOdTHREEdFOURdTENdTWENTYdONE HUNDRED"⟩,
  ⟨0x10c00, "aOLD TURKIC LETTER ORKHON AdYENISEI AeAEdORKHON IdYENISEI IeEdORKHON OeOE
    dYENISEI OEdORKHON ABdYENISEI ABdORKHON AEBdYENISEI AEBdORKHON AGdYENISEI AGdORKHON AEG
    dYENISEI AEGdORKHON ADdYENISEI ADdORKHON AEDeEZdYENISEI EZdORKHON AYdYENISEI AYdORKHON AEY
    dYENISEI AEYdORKHON AEKdYENISEI AEKdORKHON OEKdYENISEI OEKdORKHON ALdYENISEI ALdORKHON AEL
    eELTeEMeANeAENdYENISEI AENdORKHON ENTdYENISEI ENTdORKHON ENCdYENISEI ENCdORKHON ENY
    dYENISEI ENYeANGdORKHON ENGdYENISEI AENGdORKHON EPeOPeICeECdYENISEI ECdORKHON AQdYENISEI AQ
    dORKHON IQdYENISEI IQdORKHON OQdYENISEI OQdORKHON ARdYENISEI ARdORKHON AEReASeAESeASH
    dYENISEI ASHdORKHON ESHdYENISEI ESHdORKHON ATdYENISEI ATdORKHON AETdYENISEI AETdORKHON OT
    eBASH"⟩,
  ⟨0x10c80, "aOLD HUNGARIAN CAPITAL LETTER AeAAeEBeAMBeECeENCeECSeEDeANDeEeCLOSE EeEEeEFeEGeEGY
    eEHeIeIIeEJeEKeAKeUNKeELeELYeEMeENeENYeOeOOeNIKOLSBURG OEeRUDIMENTA OEeOEEeEPeEMPeER
    eSHORT EReESeESZeETeENTeETYeECHeUeUUeNIKOLSBURG UEeRUDIMENTA UEeEVeEZeEZSeENT-SHAPED SIGNeUS"⟩,
  ⟨0x10cc0, "aOLD HUNGARIAN SMALL LETTER AeAAeEBeAMBeECeENCeECSeEDeANDeEeCLOSE EeEEeEFeEGeEGYeEH
    eIeIIeEJeEKeAKeUNKeELeELYeEMeENeENYeOeOOeNIKOLSBURG OEeRUDIMENTA OEeOEEeEPeEMPeEReSHORT ER
    eESeESZeETeENTeETYeECHeUeUUeNIKOLSBURG UEeRUDIMENTA UEeEVeEZeEZSeENT-SHAPED SIGNeUS"⟩,
  ⟨0x10cfa, "aOLD HUNGARIAN NUMBER ONEdFIVEdTENdFIFTYdONE HUNDREDeTHOUSAND
    aHANIFI ROHINGYA LETTER AdBAdPAdTAdTTAdJAdCAdHAdKHAdFAdDAdDDAdRAdRRAdZAdSAdSHAdKAdGAdLAdMA
    dNAdWAdKINNA WAdYAdKINNA YAdNGAdNYAdVAcVOWEL AdIdUdEdOcMARK SAKINdNA KHONNAcSIGN HARBAHAY
    dTAHALAdTANAdTASSI"⟩,
  ⟨0x10d30, "aHANIFI ROHINGYA DIGIT ZEROdONEdTWOdTHREEdFOURdFIVEdSIXdSEVENdEIGHTdNINE"⟩,
  ⟨0x10e60, "aRUMI DIGIT ONEcTWOcTHREEcFOURcFIVEcSIXcSEVENcEIGHTcNINEbNUMBER TENcTWENTYcTHIRTY
    cFORTYcFIFTYcSIXTYcSEVENTYcEIGHTYcNINETYcONE HUNDREDcTWO HUNDREDcTHREE HUNDREDcFOUR HUNDRED
    cFIVE HUNDREDcSIX HUNDREDcSEVEN HUNDREDcEIGHT HUNDREDcNINE HUNDREDbFRACTION ONE HALFdQUARTER
    dTHIRDcTWO THIRDS"⟩,
  ⟨0x10e80, "aYEZIDI LETTER ELIFcBEcPEcPHEcTHEcSEcCIMcCHIMcCHHIMcHHAcXAcDALcZALcRAcRHAcZAcJAcSIN
    cSHINcSADcDADcTAcZEcEYNcXHEYNcFAcVAdALTERNATE FORMcQAFcKAFcKHAFcGAFcLAMcMIMcNUNcUMcWAWcOWcEW
    cHAYcYOTcET"⟩, ⟨0x10eab, "aYEZIDI COMBINING HAMZA MARKcMADDA MARKbHYPHENATION MARK"⟩,
  ⟨0x10eb0, "aYEZIDI LETTER LAM WITH DOT ABOVEcYOT WITH CIRCUMFLEX ABOVE"⟩,
  ⟨0x10f00, "aOLD SOGDIAN LETTER ALEPHdFINAL ALEPHdBETHdFINAL BETHdGIMELdHEdFINAL HEdWAWdZAYIN
    dHETHdYODHdKAPHdLAMEDHdMEMdNUNdFINAL NUNfWITH VERTICAL TAILdSAMEKHdAYINdALTERNATE AYINdPE
    dSADHEdFINAL SADHEfWITH VERTICAL TAILdRESH-AYIN-DALETHdSHINdTAWdFINAL TAWfWITH VERTICAL TAIL
    cNUMBER ONEdTWOdTHREEdFOURdFIVEdTENdTWENTYdTHIRTYdONE HUNDREDcFRACTION ONE HALF
    cLIGATURE AYIN-DALETH"⟩,
  ⟨0x10f30, "aSOGDIAN LETTER ALEPHcBETHcGIMELcHEcWAWcZAYINcHETHcYODHcKAPHcLAMEDHcMEMcNUNcSAMEKH
    cAYINcPEcSADHEcRESH-AYINcSHINcTAWcFETHcLESHbINDEPENDENT SHINbCOMBINING DOT BELOW
    cTWO DOTS BELOWcDOT ABOVEcTWO DOTS ABOVEcCURVE ABOVEdBELOWcHOOK ABOVEdBELOWcLONG HOOK BELOW
    cRESH BELOWcSTROKE BELOWbNUMBER ONEcTENcTWENTYcONE HUNDREDbPUNCTUATION TWO VERTICAL BARS
    fWITH DOTScCIRCLE WITH DOTcTWO CIRCLES WITH DOTScHALF CIRCLE WITH DOT"⟩,
  ⟨0x10f70, "aOLD UYGHUR LETTER ALEPHdBETHdGIMEL-HETHdWAWdZAYINdFINAL HETHdYODHdKAPHdLAMEDHdMEM
    dNUNdSAMEKHdPEdSADHEdRESHdSHINdTAWdLESHcCOMBINING DOT ABOVEeBELOWdTWO DOTS ABOVEfBELOW
    cPUNCTUATION BARdTWO BARSeDOTSdFOUR DOTS"⟩,
  ⟨0x10fb0, "aCHORASMIAN LETTER ALEPHcSMALL ALEPHcBETHcGIMELcDALETHcHEcWAWcCURLED WAWcZAYINcHETH
    cYODHcKAPHcLAMEDHcMEMcNUNcSAMEKHcAYINcPEcRESHcSHINcTAWbNUMBER ONEcTWOcTHREEcFOURcTENcTWENTY
    cONE HUNDRED"⟩,
  ⟨0x10fe0, "aELYMAIC LETTER ALEPHcBETHcGIMELcDALETHcHEcWAWcZAYINcHETHcTETHcYODHcKAPHcLAMEDHcMEM
    cNUNcSAMEKHcAYINcPEcSADHEcQOPHcRESHcSHINcTAWbLIGATURE ZAYIN-YODH"⟩,
  ⟨0x11000, "aBRAHMI SIGN CANDRABINDUcANUSVARAcVISARGAcJIHVAMULIYAcUPADHMANIYAbLETTER AcAAcIcII
    cUcUUcVOCALIC RdRRdLdLLcEcAIcOcAUcKAcKHAcGAcGHAcNGAcCAcCHAcJAcJHAcNYAcTTAcTTHAcDDAcDDHAcNNA
    cTAcTHAcDAcDHAcNAcPAcPHAcBAcBHAcMAcYAcRAcLAcVAcSHAcSSAcSAcHAcLLAcOLD TAMIL LLLAeRRAeNNNA
    bVOWEL SIGN AAdBHATTIPROLU AAdIdIIdUdUUdVOCALIC ReRReLeLLdEdAIdOdAUbVIRAMAbDANDA
    bDOUBLE DANDAbPUNCTUATION DOTcDOUBLE DOTcLINEcCRESCENT BARcLOTUS"⟩,
  ⟨0x11052, "aBRAHMI NUMBER ONEcTWOcTHREEcFOURcFIVEcSIXcSEVENcEIGHTcNINEcTENcTWENTYcTHIRTYcFORTY
    cFIFTYcSIXTYcSEVENTYcEIGHTYcNINETYcONE HUNDREDdTHOUSANDbDIGIT ZEROcONEcTWOcTHREEcFOURcFIVE
    cSIXcSEVENcEIGHTcNINEbSIGN OLD TAMIL VIRAMAbLETTER OLD TAMIL SHORT EfO
    bVOWEL SIGN OLD TAMIL SHORT EgObLETTER OLD TAMIL LLA"⟩,
  ⟨0x1107f, "aBRAHMI NUMBER JOINERaKAITHI SIGN CANDRABINDUcANUSVARAcVISARGAbLETTER AcAAcIcIIcU
    cUUcEcAIcOcAUcKAcKHAcGAcGHAcNGAcCAcCHAcJAcJHAcNYAcTTAcTTHAcDDAcDDDHAcDDHAcRHAcNNAcTAcTHAcDA
    cDHAcNAcPAcPHAcBAcBHAcMAcYAcRAcLAcVAcSHAcSSAcSAcHAbVOWEL SIGN AAdIdIIdUdUUdEdAIdOdAU
    bSIGN VIRAMAcNUKTAbABBREVIATION SIGNbENUMERATION SIGNbNUMBER SIGNbSECTION MARK
    bDOUBLE SECTION MARKbDANDAbDOUBLE DANDAbVOWEL SIGN VOCALIC R"⟩,
  ⟨0x110cd, "aKAITHI NUMBER SIGN ABOVE"⟩,
  ⟨0x110d0, "aSORA SOMPENG LETTER SAHdTAHdBAHdCAHdDAHdGAHdMAHdNGAHdLAHdNAHdVAHdPAHdYAHdRAHdHAH
    dKAHdJAHdNYAHdAHdEEHdIHdUHdOHdEHdMAE"⟩,
  ⟨0x110f0, "aSORA SOMPENG DIGIT ZEROdONEdTWOdTHREEdFOURdFIVEdSIXdSEVENdEIGHTdNINE"⟩,
  ⟨0x11100, "aCHAKMA SIGN CANDRABINDUcANUSVARAcVISARGAbLETTER AAcIcUcEcKAAcKHAAcGAAcGHAAcNGAA
    cCAAcCHAAcJAAcJHAAcNYAAcTTAAcTTHAAcDDAAcDDHAAcNNAAcTAAcTHAAcDAAcDHAAcNAAcPAAcPHAAcBAAcBHAA
    cMAAcYYAAcYAAcRAAcLAAcWAAcSAAcHAAbVOWEL SIGN AdIdIIdUdUUdEdAIdOdAUdOIbO MARKbAU MARKbVIRAMA
    bMAAYYAA"⟩,
  ⟨0x11136, "aCHAKMA DIGIT ZEROcONEcTWOcTHREEcFOURcFIVEcSIXcSEVENcEIGHTcNINEbSECTION MARKbDANDA
    bDOUBLE DANDAbQUESTION MARKbLETTER LHAAbVOWEL SIGN AAdEIbLETTER VAA"⟩,
  ⟨0x11150, "aMAHAJANI LETTER AcIcUcEcOcKAcKHAcGAcGHAcCAcCHAcJAcJHAcNYAcTTAcTTHAcDDAcDDHAcNNAcTA
    cTHAcDAcDHAcNAcPAcPHAcBAcBHAcMAcRAcLAcVAcSAcHAcRRAbSIGN NUKTAbABBREVIATION SIGNbSECTION MARK
    bLIGATURE SHRI"⟩,
  ⟨0x11180, "aSHARADA SIGN CANDRABINDUcANUSVARAcVISARGAbLETTER AcAAcIcIIcUcUUcVOCALIC RdRRdLdLL
    cEcAIcOcAUcKAcKHAcGAcGHAcNGAcCAcCHAcJAcJHAcNYAcTTAcTTHAcDDAcDDHAcNNAcTAcTHAcDAcDHAcNAcPAcPHA
    cBAcBHAcMAcYAcRAcLAcLLAcVAcSHAcSSAcSAcHAbVOWEL SIGN AAdIdIIdUdUUdVOCALIC ReRReLeLLdEdAIdOdAU
    bSIGN VIRAMAcAVAGRAHAcJIHVAMULIYAcUPADHMANIYAbOMbDANDAbDOUBLE DANDAbABBREVIATION SIGN
    bSEPARATORbSANDHI MARKbSIGN NUKTAbVOWEL MODIFIER MARKbEXTRA SHORT VOWEL MARKbSUTRA MARK
    bVOWEL SIGN PRISHTHAMATRA EbSIGN INVERTED CANDRABINDUbDIGIT ZEROcONEcTWOcTHREEcFOURcFIVEcSIX
    cSEVENcEIGHTcNINEbEKAMbSIGN SIDDHAMbHEADSTROKEbCONTINUATION SIGNbSECTION MARK-1cMARK-2"⟩,
  ⟨0x111e1, "aSINHALA ARCHAIC DIGIT ONEdTWOdTHREEdFOURdFIVEdSIXdSEVENdEIGHTdNINEcNUMBER TEN
    dTWENTYdTHIRTYdFORTYdFIFTYdSIXTYdSEVENTYdEIGHTYdNINETYdONE HUNDREDeTHOUSAND"⟩,
  ⟨0x11200, "aKHOJKI LETTER AcAAcIcUcEcAIcOcAUcKAcKHAcGAcGGAcGHAcNGAcCAcCHAcJAcJJA"⟩,
  ⟨0x11213, "aKHOJKI LETTER NYAcTTAcTTHAcDDAcDDHAcNNAcTAcTHAcDAcDDDAcDHAcNAcPAcPHAcBAcBBAcBHAcMA
    cYAcRAcLAcVAcSAcHAcLLAbVOWEL SIGN AAdIdIIdUdEdAIdOdAUbSIGN ANUSVARAcVIRAMAcNUKTAcSHADDA
    bDANDAbDOUBLE DANDAbWORD SEPARATORbSECTION MARKbDOUBLE SECTION MARKbABBREVIATION SIGN
    bSIGN SUKUN"⟩, ⟨0x11280, "aMULTANI LETTER AcIcUcEcKAcKHAcGA"⟩,
  ⟨0x11288, "aMULTANI LETTER GHA"⟩, ⟨0x1128a, "aMULTANI LETTER CAcCHAcJAcJJA"⟩,
  ⟨0x1128f, "aMULTANI LETTER NYAcTTAcTTHAcDDAcDDDAcDDHAcNNAcTAcTHAcDAcDHAcNAcPAcPHAcBA"⟩,
  ⟨0x1129f, "aMULTANI LETTER BHAcMAcYAcRAcLAcVAcSAcHAcRRAcRHAbSECTION MARK"⟩,
  ⟨0x112b0, "aKHUDAWADI LETTER AcAAcIcIIcUcUUcEcAIcOcAUcKAcKHAcGAcGGAcGHAcNGAcCAcCHAcJAcJJAcJHA
    cNYAcTTAcTTHAcDDAcDDDAcRRAcDDHAcNNAcTAcTHAcDAcDHAcNAcPAcPHAcBAcBBAcBHAcMAcYAcRAcLAcVAcSHAcSA
    cHAbSIGN ANUSVARAbVOWEL SIGN AAdIdIIdUdUUdEdAIdOdAUbSIGN NUKTAcVIRAMA"⟩,
  ⟨0x112f0, "aKHUDAWADI DIGIT ZEROcONEcTWOcTHREEcFOURcFIVEcSIXcSEVENcEIGHTcNINE"⟩,
  ⟨0x11300, "aGRANTHA SIGN COMBINING ANUSVARA ABOVEcCANDRABINDUcANUSVARAcVISARGA"⟩,
  ⟨0x11305, "aGRANTHA LETTER AcAAcIcIIcUcUUcVOCALIC RdL"⟩, ⟨0x1130f, "aGRANTHA LETTER EEcAI"⟩,
  ⟨0x11313, "aGRANTHA LETTER OOcAUcKAcKHAcGAcGHAcNGAcCAcCHAcJAcJHAcNYAcTTAcTTHAcDDAcDDHAcNNAcTA
    cTHAcDAcDHAcNA"⟩, ⟨0x1132a, "aGRANTHA LETTER PAcPHAcBAcBHAcMAcYAcRA"⟩,
  ⟨0x11332, "aGRANTHA LETTER LAcLLA"⟩, ⟨0x11335, "aGRANTHA LETTER VAcSHAcSSAcSAcHA"⟩,
  ⟨0x1133b, "aCOMBINING BINDU BELOWaGRANTHA SIGN NUKTAcAVAGRAHAbVOWEL SIGN AAdIdIIdUdUU
    dVOCALIC ReRR"⟩, ⟨0x11347, "aGRANTHA VOWEL SIGN EEdAI"⟩,
  ⟨0x1134b, "aGRANTHA VOWEL SIGN OOdAUbSIGN VIRAMA"⟩, ⟨0x11350, "aGRANTHA OM"⟩,
  ⟨0x11357, "aGRANTHA AU LENGTH MARK"⟩,
  ⟨0x1135d, "aGRANTHA SIGN PLUTAbLETTER VEDIC ANUSVARAdDOUBLE ANUSVARAcVOCALIC RRdLL
    bVOWEL SIGN VOCALIC LeLL"⟩,
  ⟨0x11366, "aCOMBINING GRANTHA DIGIT ZEROdONEdTWOdTHREEdFOURdFIVEdSIX"⟩,
  ⟨0x11370, "aCOMBINING GRANTHA LETTER AdKAdNAdVIdPA"⟩,
  ⟨0x11400, "aNEWA LETTER AcAAcIcIIcUcUUcVOCALIC RdRRdLdLLcEcAIcOcAUcKAcKHAcGAcGHAcNGAcNGHAcCA
    cCHAcJAcJHAcNYAcNYHAcTTAcTTHAcDDAcDDHAcNNAcTAcTHAcDAcDHAcNAcNHAcPAcPHAcBAcBHAcMAcMHAcYAcRA
    cRHAcLAcLHAcWAcSHAcSSAcSAcHAbVOWEL SIGN AAdIdIIdUdUUdVOCALIC ReRReLeLLdEdAIdOdAUbSIGN VIRAMA
    cCANDRABINDUcANUSVARAcVISARGAcNUKTAcAVAGRAHAcFINAL ANUSVARAbOMbSIDDHIbDANDAbDOUBLE DANDA
    bCOMMAbGAP FILLERbABBREVIATION SIGNbDIGIT ZEROcONEcTWOcTHREEcFOURcFIVEcSIXcSEVENcEIGHTcNINE
    bDOUBLE COMMAbPLACEHOLDER MARK"⟩,
  ⟨0x1145d, "aNEWA INSERTION SIGNbSANDHI MARKbLETTER VEDIC ANUSVARAbSIGN JIHVAMULIYAcUPADHMANIYA"⟩,
  ⟨0x11480, "aTIRHUTA ANJIbLETTER AcAAcIcIIcUcUUcVOCALIC RdRRdLdLLcEcAIcOcAUcKAcKHAcGAcGHAcNGA
    cCAcCHAcJAcJHAcNYAcTTAcTTHAcDDAcDDHAcNNAcTAcTHAcDAcDHAcNAcPAcPHAcBAcBHAcMAcYAcRAcLAcVAcSHA
    cSSAcSAcHAbVOWEL SIGN AAdIdIIdUdUUdVOCALIC ReRReLeLLdEdSHORT EdAIdOdSHORT OdAU
    bSIGN CANDRABINDUcANUSVARAcVISARGAcVIRAMAcNUKTAcAVAGRAHAbGVANGbABBREVIATION SIGNbOM"⟩,
  ⟨0x114d0, "aTIRHUTA DIGIT ZEROcONEcTWOcTHREEcFOURcFIVEcSIXcSEVENcEIGHTcNINE"⟩,
  ⟨0x11580, "aSIDDHAM LETTER AcAAcIcIIcUcUUcVOCALIC RdRRdLdLLcEcAIcOcAUcKAcKHAcGAcGHAcNGAcCAcCHA
    cJAcJHAcNYAcTTAcTTHAcDDAcDDHAcNNAcTAcTHAcDAcDHAcNAcPAcPHAcBAcBHAcMAcYAcRAcLAcVAcSHAcSSAcSA
    cHAbVOWEL SIGN AAdIdIIdUdUUdVOCALIC ReRR"⟩,
  ⟨0x115b8, "aSIDDHAM VOWEL SIGN EdAIdOdAUbSIGN CANDRABINDUcANUSVARAcVISARGAcVIRAMAcNUKTA
    cSIDDHAMbDANDAbDOUBLE DANDAbSEPARATOR DOTcBARbREPETITION MARK-1cMARK-2cMARK-3
    bEND OF TEXT MARKbSECTION MARK WITH TRIDENT AND U-SHAPED ORNAMENTSgDOTTED CRESCENTS
    eRAYS AND DOTTED CRESCENTShDOUBLE CRESCENTShTRIPLE CRESCENTSdDOUBLE RINGfWITH RAYS
    dWITH DOUBLE CRESCENTSeTRIPLE CRESCENTSeQUADRUPLE CRESCENTSeSEPTUPLE CRESCENTS
    eCIRCLES AND RAYSgTWO ENCLOSURESgFOUR ENCLOSURESbLETTER THREE-CIRCLE ALTERNATE I
    cTWO-CIRCLE ALTERNATE IeIIcALTERNATE UbVOWEL SIGN ALTERNATE UeUU"⟩,
  ⟨0x11600, "aMODI LETTER AcAAcIcIIcUcUUcVOCALIC RdRRdLdLLcEcAIcOcAUcKAcKHAcGAcGHAcNGAcCAcCHAcJA
    cJHAcNYAcTTAcTTHAcDDAcDDHAcNNAcTAcTHAcDAcDHAcNAcPAcPHAcBAcBHAcMAcYAcRAcLAcVAcSHAcSSAcSAcHA
    cLLAbVOWEL SIGN AAdIdIIdUdUUdVOCALIC ReRReLeLLdEdAIdOdAUbSIGN ANUSVARAcVISARGAcVIRAMA
    cARDHACANDRAbDANDAbDOUBLE DANDAbABBREVIATION SIGNbSIGN HUVA"⟩,
  ⟨0x11650, "aMODI DIGIT ZEROcONEcTWOcTHREEcFOURcFIVEcSIXcSEVENcEIGHTcNINE"⟩,
  ⟨0x11660, "aMONGOLIAN BIRGA WITH ORNAMENTbROTATED BIRGAbDOUBLE BIRGA WITH ORNAMENT
    bTRIPLE BIRGA WITH ORNAMENTbBIRGA WITH DOUBLE ORNAMENTbROTATED BIRGA WITH ORNAMENT
    eDOUBLE ORNAMENTbINVERTED BIRGAdWITH DOUBLE ORNAMENTbSWIRL BIRGAdWITH ORNAMENT
    eDOUBLE ORNAMENTbTURNED SWIRL BIRGA WITH DOUBLE ORNAMENT"⟩,
  ⟨0x11680, "aTAKRI LETTER AcAAcIcIIcUcUUcEcAIcOcAUcKAcKHAcGAcGHAcNGAcCAcCHAcJAcJHAcNYAcTTAcTTHA
    cDDAcDDHAcNNAcTAcTHAcDAcDHAcNAcPAcPHAcBAcBHAcMAcYAcRAcLAcVAcSHAcSAcHAcRRAbSIGN ANUSVARA
    cVISARGAbVOWEL SIGN AAdIdIIdUdUUdEdAIdOdAUbSIGN VIRAMAcNUKTAbLETTER ARCHAIC KHA
    bABBREVIATION SIGN"⟩,
  ⟨0x116c0, "aTAKRI DIGIT ZEROcONEcTWOcTHREEcFOURcFIVEcSIXcSEVENcEIGHTcNINE"⟩,
  ⟨0x11700, "aAHOM LETTER KAcKHAcNGAcNAcTAcALTERNATE TAcPAcPHAcBAcMAcJAcCHAcTHAcRAcLAcSAcNYAcHA
    cAcDAcDHAcGAcALTERNATE GAcGHAcBHAcJHAcALTERNATE BA"⟩,
  ⟨0x1171d, "aAHOM CONSONANT SIGN MEDIAL LAeRAeLIGATING RAbVOWEL SIGN AdAAdIdIIdUdUUdEdAWdOdAI
    dAMbSIGN KILLER"⟩,
  ⟨0x11730, "aAHOM DIGIT ZEROcONEcTWOcTHREEcFOURcFIVEcSIXcSEVENcEIGHTcNINEbNUMBER TENcTWENTY
    bSIGN SMALL SECTIONcSECTIONcRULAIbSYMBOL VIbLETTER CAcTTAcTTHAcDDAcDDHAcNNAcLLA"⟩,
  ⟨0x11800, "aDOGRA LETTER AcAAcIcIIcUcUUcEcAIcOcAUcKAcKHAcGAcGHAcNGAcCAcCHAcJAcJHAcNYAcTTAcTTHA
    cDDAcDDHAcNNAcTAcTHAcDAcDHAcNAcPAcPHAcBAcBHAcMAcYAcRAcLAcVAcSHAcSSAcSAcHAcRRAbVOWEL SIGN AA
    dIdIIdUdUUdVOCALIC ReRRdEdAIdOdAUbSIGN ANUSVARAcVISARGAcVIRAMAcNUKTAbABBREVIATION SIGN"⟩,
  ⟨0x118a0, "aWARANG CITI CAPITAL LETTER NGAAeAeWIeYUeYAeYOeIIeUUeEeOeANGeGAeKOeENYeYUJeUCeENN
    eODDeTTEeNUNGeDAeATeAMeBUePUeHIYOeHOLOeHORReHAReSSUUeSIIeVIYOcSMALL LETTER NGAAeAeWIeYUeYA
    eYOeIIeUUeEeOeANGeGAeKOeENYeYUJeUCeENNeODDeTTEeNUNGeDAeATeAMeBUePUeHIYOeHOLOeHORReHAReSSUU
    eSIIeVIYOcDIGIT ZEROdONEdTWOdTHREEdFOURdFIVEdSIXdSEVENdEIGHTdNINEcNUMBER TENdTWENTYdTHIRTY
    dFORTYdFIFTYdSIXTYdSEVENTYdEIGHTYdNINETY"⟩,
  ⟨0x118ff, "aWARANG CITI OMaDIVES AKURU LETTER AdAAdIdIIdUdUUdE"⟩,
  ⟨0x11909, "aDIVES AKURU LETTER O"⟩, ⟨0x1190c, "aDIVES AKURU LETTER KAdKHAdGAdGHAdNGAdCAdCHAdJA"⟩,
  ⟨0x11915, "aDIVES AKURU LETTER NYAdTTA"⟩,
  ⟨0x11918, "aDIVES AKURU LETTER DDAdDDHAdNNAdTAdTHAdDAdDHAdNAdPAdPHAdBAdBHAdMAdYAdYYAdRAdLAdVA
    dSHAdSSAdSAdHAdLLAdZAcVOWEL SIGN AAeIeIIeUeUUeE"⟩, ⟨0x11937, "aDIVES AKURU VOWEL SIGN AIeO"⟩,
  ⟨0x1193b, "aDIVES AKURU SIGN ANUSVARAdCANDRABINDUdHALANTAcVIRAMAcPREFIXED NASAL SIGNcMEDIAL YA
    cINITIAL RAcMEDIAL RAcSIGN NUKTAcDOUBLE DANDAcGAP FILLERcEND OF TEXT MARK"⟩,
  ⟨0x11950, "aDIVES AKURU DIGIT ZEROdONEdTWOdTHREEdFOURdFIVEdSIXdSEVENdEIGHTdNINE"⟩,
  ⟨0x119a0, "aNANDINAGARI LETTER AcAAcIcIIcUcUUcVOCALIC RdRR"⟩,
  ⟨0x119aa, "aNANDINAGARI LETTER EcAIcOcAUcKAcKHAcGAcGHAcNGAcCAcCHAcJAcJHAcNYAcTTAcTTHAcDDAcDDHA
    cNNAcTAcTHAcDAcDHAcNAcPAcPHAcBAcBHAcMAcYAcRAcLAcVAcSHAcSSAcSAcHAcLLAcRRAbVOWEL SIGN AAdIdII
    dUdUUdVOCALIC ReRR"⟩,
  ⟨0x119da, "aNANDINAGARI VOWEL SIGN EdAIdOdAUbSIGN ANUSVARAcVISARGAcVIRAMAcAVAGRAHAcSIDDHAM
    bHEADSTROKEbVOWEL SIGN PRISHTHAMATRA E"⟩,
  ⟨0x11a00, "aZANABAZAR SQUARE LETTER AcVOWEL SIGN IeUEeUeEeOEeOeAIeAUeREVERSED IdLENGTH MARK
    cLETTER KAdKHAdGAdGHAdNGAdCAdCHAdJAdNYAdTTAdTTHAdDDAdDDHAdNNAdTAdTHAdDAdDHAdNAdPAdPHAdBAdBHA
    dMAdTSAdTSHAdDZAdDZHAdZHAdZAd-AdYAdRAdLAdVAdSHAdSSAdSAdHAdKSSAcFINAL CONSONANT MARK
    cSIGN VIRAMAdCANDRABINDUeWITH ORNAMENTdCANDRA WITH ORNAMENTdANUSVARAdVISARGA
    cCLUSTER-INITIAL LETTER RAcCLUSTER-FINAL LETTER YAeRAeLAeVAcINITIAL HEAD MARK
    cCLOSING HEAD MARKcMARK TSHEGdSHADdDOUBLE SHADdLONG TSHEGcINITIAL DOUBLE-LINED HEAD MARK
    cCLOSING DOUBLE-LINED HEAD MARKcSUBJOINER"⟩,
  ⟨0x11a50, "aSOYOMBO LETTER AbVOWEL SIGN IdUEdUdEdOdOEdAIdAUdVOCALIC ReLcLENGTH MARKbLETTER KA
    cKHAcGAcGHAcNGAcCAcCHAcJAcJHAcNYAcTTAcTTHAcDDAcDDHAcNNAcTAcTHAcDAcDHAcNAcPAcPHAcBAcBHAcMA
    cTSAcTSHAcDZAcZHAcZAc-AcYAcRAcLAcVAcSHAcSSAcSAcHAcKSSAbSIGN JIHVAMULIYAcUPADHMANIYA
    bCLUSTER-INITIAL LETTER RAdLAdSHAdSAbFINAL CONSONANT SIGN GeKeNGeDeNeBeMeReLeSHeSe-A
    bSIGN ANUSVARAcVISARGAbGEMINATION MARKbSUBJOINERbMARK TSHEGcSHADcDOUBLE SHADcPLUTA
    bHEAD MARK WITH MOON AND SUN AND TRIPLE FLAMEiFLAMEgSUNbTERMINAL MARK-1cMARK-2"⟩,
  ⟨0x11ab0, "aCANADIAN SYLLABICS NATTILIK HIdHIIdHOdHOOdHAdHAAdSHRIdSHRIIdSHROdSHROOdSHRAdSHRAA
    cSPEcSPIcSPOcSPAaPAU CIN HAU LETTER PAeKAeLAeMAeDAeZAeVAeNGAeHAeGAeKHAeSAeBAeCAeTAeTHAeNA
    ePHAeRAeFAeCHAeAeEeIeOeUeUAeIAeFINAL PfKfTfMfNfLfWfNGfYdRISING TONE LONGeTONE
    dSANDHI GLOTTAL STOPdRISING TONE LONG FINALfFINALdSANDHI GLOTTAL STOP FINALeTONE LONGeTONE
    fLONG FINALfFINALdMID-LEVEL TONEdGLOTTAL STOP VARIANTdMID-LEVEL TONE LONG FINALfFINAL
    dLOW-FALLING TONE LONGeTONEdGLOTTAL STOPdLOW-FALLING TONE LONG FINALfFINAL
    dGLOTTAL STOP FINAL"⟩, ⟨0x11c00, "aBHAIKSUKI LETTER AcAAcIcIIcUcUUcVOCALIC RdRRdL"⟩,
  ⟨0x11c0a, "aBHAIKSUKI LETTER EcAIcOcAUcKAcKHAcGAcGHAcNGAcCAcCHAcJAcJHAcNYAcTTAcTTHAcDDAcDDHA
    cNNAcTAcTHAcDAcDHAcNAcPAcPHAcBAcBHAcMAcYAcRAcLAcVAcSHAcSSAcSAcHAbVOWEL SIGN AAdIdIIdUdUU
    dVOCALIC ReRReL"⟩,
  ⟨0x11c38, "aBHAIKSUKI VOWEL SIGN EdAIdOdAUbSIGN CANDRABINDUcANUSVARAcVISARGAcVIRAMAcAVAGRAHA
    bDANDAbDOUBLE DANDAbWORD SEPARATORbGAP FILLER-1cFILLER-2"⟩,
  ⟨0x11c50, "aBHAIKSUKI DIGIT ZEROcONEcTWOcTHREEcFOURcFIVEcSIXcSEVENcEIGHTcNINEbNUMBER ONEcTWO
    cTHREEcFOURcFIVEcSIXcSEVENcEIGHTcNINEcTENcTWENTYcTHIRTYcFORTYcFIFTYcSIXTYcSEVENTYcEIGHTY
    cNINETYbHUNDREDS UNIT MARK"⟩,
  ⟨0x11c70, "aMARCHEN HEAD MARKbMARK SHADbLETTER KAcKHAcGAcNGAcCAcCHAcJAcNYAcTAcTHAcDAcNAcPAcPHA
    cBAcMAcTSAcTSHAcDZAcWAcZHAcZAc-AcYAcRAcLAcSHAcSAcHAcA"⟩,
  ⟨0x11c92, "aMARCHEN SUBJOINED LETTER KAdKHAdGAdNGAdCAdCHAdJAdNYAdTAdTHAdDAdNAdPAdPHAdBAdMAdTSA
    dTSHAdDZAdWAdZHAdZA"⟩,
  ⟨0x11ca9, "aMARCHEN SUBJOINED LETTER YAdRAdLAdSHAdSAdHAdAbVOWEL SIGN AAdIdUdEdObSIGN ANUSVARA
    cCANDRABINDU"⟩, ⟨0x11d00, "aMASARAM GONDI LETTER AdAAdIdIIdUdUUdE"⟩,
  ⟨0x11d08, "aMASARAM GONDI LETTER AIdO"⟩,
  ⟨0x11d0b, "aMASARAM GONDI LETTER AUdKAdKHAdGAdGHAdNGAdCAdCHAdJAdJHAdNYAdTTAdTTHAdDDAdDDHAdNNA
    dTAdTHAdDAdDHAdNAdPAdPHAdBAdBHAdMAdYAdRAdLAdVAdSHAdSSAdSAdHAdLLAdKSSAdJNYAdTRAcVOWEL SIGN AA
    eIeIIeUeUUeVOCALIC R"⟩, ⟨0x11d3a, "aMASARAM GONDI VOWEL SIGN E"⟩,
  ⟨0x11d3c, "aMASARAM GONDI VOWEL SIGN AIeO"⟩,
  ⟨0x11d3f, "aMASARAM GONDI VOWEL SIGN AUcSIGN ANUSVARAdVISARGAdNUKTAdCANDRAdHALANTAcVIRAMA
    cREPHAcRA-KARA"⟩,
  ⟨0x11d50, "aMASARAM GONDI DIGIT ZEROdONEdTWOdTHREEdFOURdFIVEdSIXdSEVENdEIGHTdNINE"⟩,
  ⟨0x11d60, "aGUNJALA GONDI LETTER AdAAdIdIIdUdUU"⟩, ⟨0x11d67, "aGUNJALA GONDI LETTER EEdAI"⟩,
  ⟨0x11d6a, "aGUNJALA GONDI LETTER OOdAUdYAdVAdBAdBHAdMAdKAdKHAdTAdTHAdLAdGAdGHAdDAdDHAdNAdCA
    dCHAdTTAdTTHAdLLAdJAdJHAdDDAdDDHAdNGAdPAdPHAdHAdRAdSAcVOWEL SIGN AAeIeIIeUeUU"⟩,
  ⟨0x11d90, "aGUNJALA GONDI VOWEL SIGN EEeAI"⟩,
  ⟨0x11d93, "aGUNJALA GONDI VOWEL SIGN OOeAUcSIGN ANUSVARAdVISARGAcVIRAMAcOM"⟩,
  ⟨0x11da0, "aGUNJALA GONDI DIGIT ZEROdONEdTWOdTHREEdFOURdFIVEdSIXdSEVENdEIGHTdNINE"⟩,
  ⟨0x11ee0, "aMAKASAR LETTER KAcGAcNGAcPAcBAcMAcTAcDAcNAcCAcJAcNYAcYAcRAcLAcVAcSAcAbANGKA
    bVOWEL SIGN IdUdEdObPASSIMBANGbEND OF SECTION"⟩, ⟨0x11fb0, "aLISU LETTER YHA"⟩,
  ⟨0x11fc0, "aTAMIL FRACTION ONE THREE-HUNDRED-AND-TWENTIETHdONE-HUNDRED-AND-SIXTIETHdEIGHTIETH
    dSIXTY-FOURTHdFORTIETHdTHIRTY-SECONDcTHREE EIGHTIETHSdSIXTY-FOURTHScONE TWENTIETH
    dSIXTEENTH-1dSIXTEENTH-2dTENTHdEIGHTHcTHREE TWENTIETHSdSIXTEENTHScONE FIFTHdQUARTERdHALF-1
    dHALF-2cTHREE QUARTERScDOWNSCALING FACTOR KIIZHbSIGN NELcCEVITUcAAZHAAKKUcUZHAKKU
    cMUUVUZHAKKUcKURUNIcPATHAKKUcMUKKURUNIcKAACUcPANAMcPONcVARAAKANcPAARAMcKUZHIcVELI
    bWET CULTIVATION SIGNbDRY CULTIVATION SIGNbLAND SIGNbSALT PAN SIGNbTRADITIONAL CREDIT SIGN
    cNUMBER SIGNbCURRENT SIGNbAND ODD SIGNbSPENT SIGNbTOTAL SIGNbIN POSSESSION SIGN
    bSTARTING FROM SIGNbSIGN MUTHALIYAcVAKAIYARAA"⟩,
  ⟨0x11fff, "aTAMIL PUNCTUATION END OF TEXTaCUNEIFORM SIGN AdTIMES AeBADeGAN2 TENUeHAeIGI
    eLAGAR GUNUeMUSHeSAGcA2cABdTIMES ASH2eDUN3 GUNUeGALeGAN2 TENUeHAeIGI GUNUeIMINeLAGABeSHESH
    eU PLUS U PLUS UdGUNUcAB2dTIMES BALAGeGAN2 TENUeME PLUS ENeSHA3eTAK4cADcAKdTIMES ERIN2
    eSHITA PLUS GISHcALdTIMES ALeDIM2eGISHeHAeKAD3eKIeSHEeUSHcALANcALEPHcAMARdTIMES SHEcAN
    dOVER ANdTHREE TIMESdPLUS NAGA OPPOSING AN PLUS NAGAfSQUAREDcANSHEcAPINcARADdTIMES KURcARKAB
    cASAL2cASHdZIDA TENUdKABA TENUdOVER ASH TUG2 OVER TUG2 TUG2 OVER TUG2 PAPfOVER ASH
    hCROSSING ASH OVER ASH OVER ASHcASH2cASHGABcBAcBADcBAG3cBAHAR2cBALdOVER BALcBALAGcBARcBARA2
    cBIdTIMES AeGAReIGI GUNUcBUdOVER BU ABfUNdCROSSING BUcBULUGdOVER BULUGcBURcBUR2cDAcDAG
    dKISIM5 TIMES A PLUS MASHfAMARfBALAGfBIfGAgPLUS MASHfGIfGIR2fGUDfHAfIRgPLUS LUfKAKfLAfLU
    gPLUS MASH2fLUMfNEfPAP PLUS PAPfSIfTAK4fU2 PLUS GIR2fUSHcDAMcDARcDARA3cDARA4cDIcDIBcDIM
    dTIMES SHEcDIM2cDINdKASKAL U GUNU DISHcDISHcDUdOVER DUdGUNUdSHESHIGcDUBdTIMES ESH2cDUB2cDUG
    cDUGUDcDUHcDUNcDUN3dGUNUeGUNUcDUN4cDUR2cEdTIMES PAPdOVER E NUN OVER NUNcE2
    dTIMES A PLUS HA PLUS DAeGAReMIeSALeSHEeUcEDINcEGIRcELcENdTIMES GAN2fTENUeMEdCROSSING EN
    dOPPOSING ENdSQUAREDcERENcERIN2cESH2cEZENdTIMES AfPLUS LALhTIMES LALeANeBADeDUN3 GUNUgGUNU
    eHAfGUNUeIGI GUNUeKASKALfSQUAREDeKU3eLAeLAL TIMES LALeLIeLUeU2eUDcGAdGUNUcGA2
    dTIMES A PLUS DA PLUS HAgHAgIGIeAB2 TENU PLUS TABeANeASHeASH2 PLUS GALeBADeBAR PLUS RAeBUR
    fPLUS RAeDAeDIeDIM TIMES SHEeDUBeELfPLUS LAeENfTIMES GAN2 TENUeGAN2 TENUeGAReGIeGI4fPLUS A
    eGIR2 PLUS SUeHA PLUS LU PLUS ESH2eHALfPLUS LAeHI PLUS LIeHUB2eIGI GUNUeISH PLUS HU PLUS ASH
    eKAKeKASKALeKIDfPLUS LALeKU3 PLUS ANeLAeME PLUS ENeMIeNUNfOVER NUNePAeSALeSAReSHEfPLUS TUR
    eSHIDeSUMeTAK4eUeUDfPLUS DUdOVER GA2cGABAdCROSSING GABAcGADdOVER GAD GAR OVER GARcGAL
    dGAD OVER GAD GAR OVER GARcGALAMcGAMcGANcGAN2dTENUdOVER GAN2dCROSSING GAN2cGARcGAR3cGASHAN
    cGESHTINdTIMES KURcGIdTIMES EeUdCROSSING GIcGI4dOVER GI4dCROSSING GI4cGIDIMcGIR2dGUNUcGIR3
    dTIMES A PLUS IGIeGAN2 TENUeIGIeLU PLUS IGIePAcGISALcGISHdCROSSING GISHdTIMES BADeTAK4dTENU
    cGUdCROSSING GUcGU2dTIMES KAKfTIMES IGI GUNUeNUNeSAL PLUS TUG2dGUNUcGUDdTIMES A PLUS KUReKUR
    dOVER GUD LUGALcGULcGUMdTIMES SHEcGURcGUR7cGURUNcGURUSHcHAdTENUdGUNUcHALcHIdTIMES ASHeASH2
    eBADeDISHeGADeKINeNUNeSHEeUcHUcHUB2dTIMES ANeHALeKASKALeLISHeUDcHUL2cIdAcIBcIDIM
    dOVER IDIM BURfSQUAREDcIGcIGIdDIBdRIdOVER IGI SHIR OVER SHIR UD OVER UDdGUNUcIL
    dTIMES GAN2 TENUcIL2cIMdTIMES TAK4dCROSSING IMdOPPOSING IMdSQUAREDcIMINcINcIRcISHcKAdTIMES A
    eADfPLUS KU3eASH2eBADeBALAGeBAReBIeERIN2eESH2eGAeGALeGAN2 TENUeGARfPLUS SHA3 PLUS AeGIeGIR2
    eGISH PLUS SARfCROSSING GISHeGUeGUR7eIGIeIMeKAKeKIeKIDeLIeLUeMEfPLUS DUgGIgTEeMIfPLUS NUNUZ
    eNEeNUNePIeRUeSAeSAReSHAeSHEeSHIDeSHUeSIGeSUHUReTAReUeU2eUDeUMUM TIMES PAeUSHeZIcKA2
    dCROSSING KA2cKABcKAD2cKAD3cKAD4cKAD5dOVER KAD5cKAKdTIMES IGI GUNUcKALdTIMES BAD
    dCROSSING KALcKAM2cKAM4cKASKALdLAGAB TIMES U OVER LAGAB TIMES U
    dOVER KASKAL LAGAB TIMES U OVER LAGAB TIMES UcKESH2cKIdTIMES BADeUeUDcKIDcKINcKISALcKISH
    cKISIM5dOVER KISIM5cKUdOVER HI TIMES ASH2 KU OVER HI TIMES ASH2cKU3cKU4dVARIANT FORMcKU7cKUL
    dGUNUcKUNcKURdOPPOSING KURcKUSHU2cKWU318cLAcLAGABdTIMES AfPLUS DA PLUS HAgGARgLALeALeAN
    eASH ZIDA TENUeBADeBIeDAReENeGAeGAReGUDfPLUS GUDeHAeHALeHI TIMES NUNeIGI GUNUeIMfPLUS HAgLU
    eKIeKINeKU3eKULfPLUS HI PLUS AeLAGABeLISHeLUeLULeMEfPLUS ENeMUSHeNEeSHE PLUS SUM
    eSHITA PLUS GISH PLUS ERIN2hTENUeSHU2fPLUS SHU2eSUMeTAGeTAK4eTE PLUS A PLUS SU PLUS NAeU
    fPLUS AgU PLUS UeU2 PLUS ASHeUDeUSHdSQUAREDcLAGARdTIMES SHEfPLUS SUMdGUNU
    eOVER LAGAR GUNU SHEcLAHSHUcLALdTIMES LALcLAMdTIMES KURfPLUS RUcLIcLILcLIMMU2cLISHcLU
    dTIMES BADcLU2dTIMES ALeBADeESH2fTENUeGAN2 TENUeHI TIMES BADeIMeKAD2eKAD3fPLUS ASHeKI
    eLA PLUS ASHeLAGABeME PLUS ENeNEeNUeSI PLUS ASHeSIK2 PLUS BUeTUG2dTENUdCROSSING LU2
    dOPPOSING LU2dSQUAREDdSHESHIGcLU3cLUGALdOVER LUGALdOPPOSING LUGALdSHESHIGcLUHcLULcLUM
    dOVER LUMfGAR OVER GARcMAdTIMES TAK4dGUNUcMA2cMAHcMARcMASHcMASH2cMEcMEScMIcMINcMUdOVER MU
    cMUGdGUNUcMUNSUBcMURGU2cMUSHdTIMES AeKUReZAdOVER MUSHfTIMES A PLUS NAdCROSSING MUSHcMUSH3
    dTIMES AfPLUS DIeDIdGUNUcNAcNA2cNAGAdINVERTEDdTIMES SHU TENUdOPPOSING NAGAcNAGARcNAM NUTILLU
    cNAMcNAM2cNEdTIMES AeUDdSHESHIGcNIdTIMES EcNI2cNIMdTIMES GAN2 TENUeGAR PLUS GAN2 TENUcNINDA2
    dTIMES ANeASHfPLUS ASHeGUDeME PLUS GAN2 TENUeNEeNUNeSHEfPLUS A ANgASHhPLUS ASHeU2 PLUS ASH
    eUSHcNISAGcNUcNU11cNUNdLAGAR TIMES GARfMASHfSALgOVER NUN LAGAR TIMES SALfUSHdTENUdOVER NUN
    dCROSSING NUNfLAGAR OVER LAGARcNUNUZdAB2 TIMES ASHGABfBIfDUGfGUDfIGI GUNUfKAD3fLAfNEfSILA3
    fU2dKISIM5 TIMES BIgUcPAcPADcPANcPAPcPESH2cPIdTIMES AeABeBIeBUeEeIeIBeUeU2dCROSSING PIcPIRIG
    dTIMES KALeUDeZAdOPPOSING PIRIGcRAcRABcRIcRUcSAcSAG NUTILLUcSAGdTIMES AeDUeDUBeHAeKAKeKUR
    eLUMeMIeNUNeSALeSHIDeTABeU2eUBeUMeUReUSHdOVER SAGdGUNUcSALdLAGAB TIMES ASH2cSANGA2cSARcSHA
    cSHA3dTIMES AeBADeGISHeNEeSHU2eTUReUfPLUS AcSHA6cSHAB6cSHAR2cSHEdHU
    dOVER SHE GAD OVER GAD GAR OVER GARfTAB OVER TAB GAR OVER GARcSHEG9cSHENcSHESHcSHESH2
    cSHESHLAMcSHIDdTIMES AeIMcSHIMdTIMES AeBALeBULUGeDINeGAReIGIfGUNUeKUSHU2eLULeMUGeSALcSHINIG
    cSHIRdTENUdOVER SHIR BUR OVER BURcSHITAcSHUdOVER INVERTED SHUcSHU2cSHUBURcSIdGUNUcSIGcSIG4
    dOVER SIG4 SHU2cSIK2cSILA3cSUdOVER SUcSUDcSUD2cSUHURcSUMcSUMASHcSURcSUR9cTAdASTERISK
    dTIMES HIeMIdGUNUcTABdOVER TAB NI OVER NI DISH OVER DISHdSQUAREDcTAGdTIMES BIeGUDeSHEeSHU
    eTUG2eUDcTAK4cTARcTEdGUNUcTIdTENUcTILcTIRdTIMES TAK4dOVER TIRfGAD OVER GAD GAR OVER GARcTU
    cTUG2cTUKcTUMcTURdOVER TUR ZA OVER ZAcUdGUDdU UdOVER U PA OVER PA GAR OVER GARfSUR OVER SUR
    fU REVERSED OVER U REVERSEDcU2cUBcUDdKUSHU2dTIMES BADeMIeU PLUS U PLUS UjGUNUdGUNUdSHESHIG
    eTIMES BADcUDUGcUMdTIMES LAGABeME PLUS DAeSHA3eUcUMBINcUMUMdTIMES KASKALePAcUNdGUNUcUR
    dCROSSING URdSHESHIGcUR2dTIMES A PLUS HAgNAeALeHAeNUNeU2fPLUS ASHgBIcUR4cURIcURI3cURU
    dTIMES AeASHGABeBAReDUNeGAeGALeGAN2 TENUeGAReGUeHAeIGIeIMeISHeKIeLUMeMINePAeSHEeSIG4eTU
    eU PLUS GUDeUDeURUDAcURUDAdTIMES UcUSHdTIMES AeKUeKUReTAK4cUSHXcUSH2cUSHUMXcUTUKIcUZ3
    dTIMES KASKALcUZUcZAdTENUdSQUARED TIMES KURcZAGcZAMXcZE2cZIdOVER ZIcZI3cZIBdKABA TENUcZIG
    cZIZ2cZUcZU5dTIMES AcZUBURcZUMcKAP ELAMITEcAB TIMES NUNcAB2 TIMES AcAMAR TIMES KUG
    cDAG KISIM5 TIMES U2 PLUS MASHcDAG3cDISH PLUS SHUcDUB TIMES SHEcEZEN TIMES GUDeSHE
    cGA2 TIMES AN PLUS KAK PLUS AeASH2cGE22cGIGcHUSHcKA TIMES ANSHEeASH3eGISHeGUDeHI TIMES ASH2
    eLUMePAeSHULeTUeUR2cLAGAB TIMES GIcLU2 SHESHIG TIMES BADdTIMES ESH2 PLUS LALeSHUcMESH
    cMUSH3 TIMES ZAcNA4cNINcNIN9cNINDA2 TIMES BALeGIcNU11 ROTATED NINETY DEGREEScPESH2 ASTERISK
    cPIR2cSAG TIMES IGI GUNUcTI2cUM TIMES MEcU U"⟩,
  ⟨0x12400, "aCUNEIFORM NUMERIC SIGN TWO ASHdTHREE ASHdFOUR ASHdFIVE ASHdSIX ASHdSEVEN ASH
    dEIGHT ASHdNINE ASHdTHREE DISHdFOUR DISHdFIVE DISHdSIX DISHdSEVEN DISHdEIGHT DISHdNINE DISH
    dFOUR UdFIVE UdSIX UdSEVEN UdEIGHT UdNINE UdONE GESH2dTWO GESH2dTHREE GESH2dFOUR GESH2
    dFIVE GESH2dSIX GESH2dSEVEN GESH2dEIGHT GESH2dNINE GESH2dONE GESHUdTWO GESHUdTHREE GESHU
    dFOUR GESHUdFIVE GESHUdTWO SHAR2dTHREE SHAR2fVARIANT FORMdFOUR SHAR2dFIVE SHAR2dSIX SHAR2
    dSEVEN SHAR2dEIGHT SHAR2dNINE SHAR2dONE SHARUdTWO SHARUdTHREE SHARUfVARIANT FORMdFOUR SHARU
    dFIVE SHARUdSHAR2 TIMES GAL PLUS DISHhMINdONE BURUdTWO BURUdTHREE BURUfVARIANT FORM
    dFOUR BURUdFIVE BURUdTHREE VARIANT FORM ESH16gESH21dFOUR VARIANT FORM LIMMUgLIMMU4gLIMMU AhB
    dSIX VARIANT FORM ASH9dSEVEN VARIANT FORM IMIN3gIMIN AhBdEIGHT VARIANT FORM USSUgUSSU3
    dNINE VARIANT FORM ILIMMUgILIMMU3gILIMMU4gILIMMU AdTWO ASH TENUdTHREE ASH TENUdFOUR ASH TENU
    dFIVE ASH TENUdSIX ASH TENUdONE BAN2dTWO BAN2dTHREE BAN2dFOUR BAN2fVARIANT FORMdFIVE BAN2
    fVARIANT FORMdNIGIDAMINdNIGIDAESHdONE ESHE3dTWO ESHE3dONE THIRD DISHdTWO THIRDS DISH
    dFIVE SIXTHS DISHdONE THIRD VARIANT FORM AdTWO THIRDS VARIANT FORM AdONE EIGHTH ASH
    eQUARTER ASHdOLD ASSYRIAN ONE SIXTHgQUARTERdONE QUARTER GUReHALF GURdELAMITE ONE THIRD
    eTWO THIRDSeFORTYeFIFTYdFOUR U VARIANT FORMdFIVE U VARIANT FORMdSIX U VARIANT FORM
    dSEVEN U VARIANT FORMdEIGHT U VARIANT FORMdNINE U VARIANT FORM"⟩,
  ⟨0x12470, "aCUNEIFORM PUNCTUATION SIGN OLD ASSYRIAN WORD DIVIDERdVERTICAL COLONdDIAGONAL COLON
    eTRICOLONeQUADCOLON"⟩,
  ⟨0x12480, "aCUNEIFORM SIGN AB TIMES NUN TENUeSHU2cAD TIMES ESH2cBAD TIMES DISH TENU
    cBAHAR2 TIMES AB2eNIeZAcBU OVER BU TIMES NA2cDA TIMES TAK4cDAG TIMES KURcDIM TIMES IGIeU U U
    cDIM2 TIMES UDcDUG TIMES ANSHEeASHfAT LEFTeDINeDUNeERIN2eGAeGIeGIR2 GUNUeGISHeHAeHIeIGI GUNU
    eKASKALeKUReKUSHU2fPLUS KASKALeLAK-020eLAMfTIMES KUReLUH PLUS GISHeMASHeMESeMIeNIePIeSHE
    eSI GUNUcE2 TIMES KURePAPcERIN2 XcESH2 CROSSING ESH2cEZEN SHESHIG TIMES ASHfHIfIGI GUNUfLA
    fLALfMEfMESfSUdTIMES SUcGA2 TIMES BAHAR2eDIM GUNUeDUG TIMES IGI GUNUgKASKALeERENeGA
    eGAR PLUS DIgNEeHA PLUS AeKUSHU2 PLUS KASKALeLAMfTIMES KUReLUHeMUSHeNEfPLUS E2gGIeSHIMeZIZ2
    cGABA ROTATED NINETY DEGREEScGESHTIN TIMES UcGISH TIMES GISH CROSSING GISH
    cGU2 TIMES IGI GUNUcGUD PLUS GISH TIMES TAK4cHA TENU GUNUcHI TIMES ASH OVER HI TIMES ASH
    cKA TIMES BUeKAeU U UeURcLAGAB TIMES ZU OVER ZUcLAK-003cLAK-021cLAK-025cLAK-030cLAK-050
    cLAK-051cLAK-062cLAK-079 OVER LAK-079 GUNUcLAK-080cLAK-081 OVER LAK-081cLAK-092cLAK-130
    cLAK-142cLAK-210cLAK-219cLAK-220cLAK-225cLAK-228cLAK-238cLAK-265cLAK-266cLAK-343cLAK-347
    cLAK-348cLAK-383cLAK-384cLAK-390cLAK-441cLAK-449dTIMES GUeIGIePAP PLUS LU3gPAP PLUS LU3
    eU2 PLUS BAcLAK-450cLAK-457cLAK-470cLAK-483cLAK-490cLAK-492cLAK-493cLAK-495cLAK-550cLAK-608
    cLAK-617dTIMES ASHeBADeDUN3 GUNU GUNUeKU3eLAeTAReTEeU2eUDeURUDAcLAK-636cLAK-648dTIMES DUBeGA
    eIGIfGUNUeNIePAP PLUS PAP PLUS LU3eSHESH PLUS KIeUDeURUDAcLAK-724cLAK-749cLU2 GUNU TIMES ASH
    dTIMES DISHeHALePAPfPLUS PAP PLUS LU3eTAK4cMI PLUS ZA7cMUSH OVER MUSH TIMES GAgKAK
    cNINDA2 TIMES DIM GUNUeGISHeGULeHIeKESH2eLAK-050eMASHePAP PLUS PAPeUfPLUS UeURUDA
    cSAG GUNU TIMES HAdTIMES ENeSHE AT LEFTeTAK4cSHA6 TENUcSHE OVER SHEdPLUS HUB2eNAM2eSAR
    cSHU2 PLUS DUG TIMES NIeE2 TIMES ANcSI TIMES TAK4cTAK4 PLUS SAGcTUM TIMES GAN2 TENU
    eTHREE DISHcUR2 INVERTEDdTIMES UDcURU TIMES DARA3eLAK-668eLU3cZA7cZU OVER ZU PLUS SAR
    cZU5 TIMES THREE DISH TENU"⟩,
  ⟨0x12f90, "aCYPRO-MINOAN SIGN CM001cCM002cCM004cCM005cCM006cCM007cCM008cCM009cCM010cCM011
    cCM012cCM012BcCM013cCM015cCM017cCM019cCM021cCM023cCM024cCM025cCM026cCM027cCM028cCM029cCM030
    cCM033cCM034cCM035cCM036cCM037cCM038cCM039cCM040cCM041cCM044cCM046cCM047cCM049cCM050cCM051
    cCM052cCM053cCM054cCM055cCM056cCM058cCM059cCM060cCM061cCM062cCM063cCM064cCM066cCM067cCM068
    cCM069cCM070cCM071cCM072cCM073cCM074cCM075cCM075BcCM076cCM078cCM079cCM080cCM081cCM082cCM083
    cCM084cCM085cCM086cCM087cCM088cCM089cCM090cCM091cCM092cCM094cCM095cCM096cCM097cCM098cCM099
    cCM100cCM101cCM102cCM103cCM104cCM105cCM107cCM108cCM109cCM110cCM112cCM114cCM301cCM302"⟩,
  ⟨0x13000, "aEGYPTIAN HIEROGLYPH A001cA002cA003cA004cA005cA005AcA006cA006AcA006BcA007cA008cA009
    cA010cA011cA012cA013cA014cA014AcA015cA016cA017cA017AcA018cA019cA020cA021cA022cA023cA024cA025
    cA026cA027cA028cA029cA030cA031cA032cA032AcA033cA034cA035cA036cA037cA038cA039cA040cA040AcA041
    cA042cA042AcA043cA043AcA044cA045cA045AcA046cA047cA048cA049cA050cA051cA052cA053cA054cA055
    cA056cA057cA058cA059cA060cA061cA062cA063cA064cA065cA066cA067cA068cA069cA070cB001cB002cB003
    cB004cB005cB005AcB006cB007cB008cB009cC001cC002cC002AcC002BcC002CcC003cC004cC005cC006cC007
    cC008cC009cC010cC010AcC011cC012cC013cC014cC015cC016cC017cC018cC019cC020cC021cC022cC023cC024
    cD001cD002cD003cD004cD005cD006cD007cD008cD008AcD009cD010cD011cD012cD013cD014cD015cD016cD017
    cD018cD019cD020cD021cD022cD023cD024cD025cD026cD027cD027AcD028cD029cD030cD031cD031AcD032cD033
    cD034cD034AcD035cD036cD037cD038cD039cD040cD041cD042cD043cD044cD045cD046cD046AcD047cD048
    cD048AcD049cD050cD050AcD050BcD050CcD050DcD050EcD050FcD050GcD050HcD050IcD051cD052cD052AcD053
    cD054cD054AcD055cD056cD057cD058cD059cD060cD061cD062cD063cD064cD065cD066cD067cD067AcD067B
    cD067CcD067DcD067EcD067FcD067GcD067HcE001cE002cE003cE004cE005cE006cE007cE008cE008AcE009
    cE009AcE010cE011cE012cE013cE014cE015cE016cE016AcE017cE017AcE018cE019cE020cE020AcE021cE022
    cE023cE024cE025cE026cE027cE028cE028AcE029cE030cE031cE032cE033cE034cE034AcE036cE037cE038cF001
    cF001AcF002cF003cF004cF005cF006cF007cF008cF009cF010cF011cF012cF013cF013AcF014cF015cF016cF017
    cF018cF019cF020cF021cF021AcF022cF023cF024cF025cF026cF027cF028cF029cF030cF031cF031AcF032cF033
    cF034cF035cF036cF037cF037AcF038cF038AcF039cF040cF041cF042cF043cF044cF045cF045AcF046cF046A
    cF047cF047AcF048cF049cF050cF051cF051AcF051BcF051CcF052cF053cG001cG002cG003cG004cG005cG006
    cG006AcG007cG007AcG007BcG008cG009cG010cG011cG011AcG012cG013cG014cG015cG016cG017cG018cG019
    cG020cG020AcG021cG022cG023cG024cG025cG026cG026AcG027cG028cG029cG030cG031cG032cG033cG034cG035
    cG036cG036AcG037cG037AcG038cG039cG040cG041cG042cG043cG043AcG044cG045cG045AcG046cG047cG048
    cG049cG050cG051cG052cG053cG054cH001cH002cH003cH004cH005cH006cH006AcH007cH008cI001cI002cI003
    cI004cI005cI005AcI006cI007cI008cI009cI009AcI010cI010AcI011cI011AcI012cI013cI014cI015cK001
    cK002cK003cK004cK005cK006cK007cK008cL001cL002cL002AcL003cL004cL005cL006cL006AcL007cL008cM001
    cM001AcM001BcM002cM003cM003AcM004cM005cM006cM007cM008cM009cM010cM010AcM011cM012cM012AcM012B
    cM012CcM012DcM012EcM012FcM012GcM012HcM013cM014cM015cM015AcM016cM016AcM017cM017AcM018cM019
    cM020cM021cM022cM022AcM023cM024cM024AcM025cM026cM027cM028cM028AcM029cM030cM031cM031AcM032
    cM033cM033AcM033BcM034cM035cM036cM037cM038cM039cM040cM040AcM041cM042cM043cM044cN001cN002
    cN003cN004cN005cN006cN007cN008cN009cN010cN011cN012cN013cN014cN015cN016cN017cN018cN018AcN018B
    cN019cN020cN021cN022cN023cN024cN025cN025AcN026cN027cN028cN029cN030cN031cN032cN033cN033AcN034
    cN034AcN035cN035AcN036cN037cN037AcN038cN039cN040cN041cN042cNL001cNL002cNL003cNL004cNL005
    cNL005AcNL006cNL007cNL008cNL009cNL010cNL011cNL012cNL013cNL014cNL015cNL016cNL017cNL017AcNL018
    cNL019cNL020cNU001cNU002cNU003cNU004cNU005cNU006cNU007cNU008cNU009cNU010cNU010AcNU011cNU011A
    cNU012cNU013cNU014cNU015cNU016cNU017cNU018cNU018AcNU019cNU020cNU021cNU022cNU022AcO001cO001A
    cO002cO003cO004cO005cO005AcO006cO006AcO006BcO006CcO006DcO006EcO006FcO007cO008cO009cO010
    cO010AcO010BcO010CcO011cO012cO013cO014cO015cO016cO017cO018cO019cO019AcO020cO020AcO021cO022
    cO023cO024cO024AcO025cO025AcO026cO027cO028cO029cO029AcO030cO030AcO031cO032cO033cO033AcO034
    cO035cO036cO036AcO036BcO036CcO036DcO037cO038cO039cO040cO041cO042cO043cO044cO045cO046cO047
    cO048cO049cO050cO050AcO050BcO051cP001cP001AcP002cP003cP003AcP004cP005cP006cP007cP008cP009
    cP010cP011cQ001cQ002cQ003cQ004cQ005cQ006cQ007cR001cR002cR002AcR003cR003AcR003BcR004cR005
    cR006cR007cR008cR009cR010cR010AcR011cR012cR013cR014cR015cR016cR016AcR017cR018cR019cR020cR021
    cR022cR023cR024cR025cR026cR027cR028cR029cS001cS002cS002AcS003cS004cS005cS006cS006AcS007cS008
    cS009cS010cS011cS012cS013cS014cS014AcS014BcS015cS016cS017cS017AcS018cS019cS020cS021cS022
    cS023cS024cS025cS026cS026AcS026BcS027cS028cS029cS030cS031cS032cS033cS034cS035cS035AcS036
    cS037cS038cS039cS040cS041cS042cS043cS044cS045cS046cT001cT002cT003cT003AcT004cT005cT006cT007
    cT007AcT008cT008AcT009cT009AcT010cT011cT011AcT012cT013cT014cT015cT016cT016AcT017cT018cT019
    cT020cT021cT022cT023cT024cT025cT026cT027cT028cT029cT030cT031cT032cT032AcT033cT033AcT034cT035
    cT036cU001cU002cU003cU004cU005cU006cU006AcU006BcU007cU008cU009cU010cU011cU012cU013cU014cU015
    cU016cU017cU018cU019cU020cU021cU022cU023cU023AcU024cU025cU026cU027cU028cU029cU029AcU030cU031
    cU032cU032AcU033cU034cU035cU036cU037cU038cU039cU040cU041cU042cV001cV001AcV001BcV001CcV001D
    cV001EcV001FcV001GcV001HcV001IcV002cV002AcV003cV004cV005cV006cV007cV007AcV007BcV008cV009
    cV010cV011cV011AcV011BcV011CcV012cV012AcV012BcV013cV014cV015cV016cV017cV018cV019cV020cV020A
    cV020BcV020CcV020DcV020EcV020FcV020GcV020HcV020IcV020JcV020KcV020LcV021cV022cV023cV023AcV024
    cV025cV026cV027cV028cV028AcV029cV029AcV030cV030AcV031cV031AcV032cV033cV033AcV034cV035cV036
    cV037cV037AcV038cV039cV040cV040AcW001cW002cW003cW003AcW004cW005cW006cW007cW008cW009cW009A
    cW010cW010AcW011cW012cW013cW014cW014AcW015cW016cW017cW017AcW018cW018AcW019cW020cW021cW022
    cW023cW024cW024AcW025cX001cX002cX003cX004cX004AcX004BcX005cX006cX006AcX007cX008cX008AcY001
    cY001AcY002cY003cY004cY005cY006cY007cY008cZ001cZ002cZ002AcZ002BcZ002CcZ002DcZ003cZ003AcZ003B
    cZ004cZ004AcZ005cZ005AcZ006cZ007cZ008cZ009cZ010cZ011cZ012cZ013cZ014cZ015cZ015AcZ015BcZ015C
    cZ015DcZ015EcZ015FcZ015GcZ015HcZ015IcZ016cZ016AcZ016BcZ016CcZ016DcZ016EcZ016FcZ016GcZ016H
    cAA001cAA002cAA003cAA004cAA005cAA006cAA007cAA007AcAA007BcAA008cAA009cAA010cAA011cAA012cAA013
    cAA014cAA015cAA016cAA017cAA018cAA019cAA020cAA021cAA022cAA023cAA024cAA025cAA026cAA027cAA028
    cAA029cAA030cAA031cAA032"⟩,
  ⟨0x13430, "aEGYPTIAN HIEROGLYPH VERTICAL JOINERcHORIZONTAL JOINERcINSERT AT TOP START
    eBOTTOM STARTeTOP ENDeBOTTOM ENDcOVERLAY MIDDLEcBEGIN SEGMENTcEND SEGMENT"⟩,
  ⟨0x14400, "aANATOLIAN HIEROGLYPH A001cA002cA003cA004cA005cA006cA007cA008cA009cA010cA010AcA011
    cA012cA013cA014cA015cA016cA017cA018cA019cA020cA021cA022cA023cA024cA025cA026cA026AcA027cA028
    cA029cA030cA031cA032cA033cA034cA035cA036cA037cA038cA039cA039AcA040cA041cA041AcA042cA043cA044
    cA045cA045AcA046cA046AcA046BcA047cA048cA049cA050cA051cA052cA053cA054cA055cA056cA057cA058
    cA059cA060cA061cA062cA063cA064cA065cA066cA066AcA066BcA066CcA067cA068cA069cA070cA071cA072
    cA073cA074cA075cA076cA077cA078cA079cA080cA081cA082cA083cA084cA085cA086cA087cA088cA089cA090
    cA091cA092cA093cA094cA095cA096cA097cA097AcA098cA098AcA099cA100cA100AcA101cA101AcA102cA102A
    cA103cA104cA104AcA104BcA104CcA105cA105AcA105BcA106cA107cA107AcA107BcA107CcA108cA109cA110
    cA110AcA110BcA111cA112cA113cA114cA115cA115AcA116cA117cA118cA119cA120cA121cA122cA123cA124
    cA125cA125AcA126cA127cA128cA129cA130cA131cA132cA133cA134cA135cA135AcA136cA137cA138cA139cA140
    cA141cA142cA143cA144cA145cA146cA147cA148cA149cA150cA151cA152cA153cA154cA155cA156cA157cA158
    cA159cA160cA161cA162cA163cA164cA165cA166cA167cA168cA169cA170cA171cA172cA173cA174cA175cA176
    cA177cA178cA179cA180cA181cA182cA183cA184cA185cA186cA187cA188cA189cA190cA191cA192cA193cA194
    cA195cA196cA197cA198cA199cA200cA201cA202cA202AcA202BcA203cA204cA205cA206cA207cA207AcA208
    cA209cA209AcA210cA211cA212cA213cA214cA215cA215AcA216cA216AcA217cA218cA219cA220cA221cA222
    cA223cA224cA225cA226cA227cA227AcA228cA229cA230cA231cA232cA233cA234cA235cA236cA237cA238cA239
    cA240cA241cA242cA243cA244cA245cA246cA247cA248cA249cA250cA251cA252cA253cA254cA255cA256cA257
    cA258cA259cA260cA261cA262cA263cA264cA265cA266cA267cA267AcA268cA269cA270cA271cA272cA273cA274
    cA275cA276cA277cA278cA279cA280cA281cA282cA283cA284cA285cA286cA287cA288cA289cA289AcA290cA291
    cA292cA293cA294cA294AcA295cA296cA297cA298cA299cA299AcA300cA301cA302cA303cA304cA305cA306cA307
    cA308cA309cA309AcA310cA311cA312cA313cA314cA315cA316cA317cA318cA319cA320cA321cA322cA323cA324
    cA325cA326cA327cA328cA329cA329AcA330cA331cA332AcA332BcA332CcA333cA334cA335cA336cA336AcA336B
    cA336CcA337cA338cA339cA340cA341cA342cA343cA344cA345cA346cA347cA348cA349cA350cA351cA352cA353
    cA354cA355cA356cA357cA358cA359cA359AcA360cA361cA362cA363cA364cA364AcA365cA366cA367cA368
    cA368AcA369cA370cA371cA371AcA372cA373cA374cA375cA376cA377cA378cA379cA380cA381cA381AcA382
    cA383 RA OR RIcA383AcA384cA385cA386cA386AcA387cA388cA389cA390cA391cA392cA393 EIGHTcA394cA395
    cA396cA397cA398cA399cA400cA401cA402cA403cA404cA405cA406cA407cA408cA409
    cA410 BEGIN LOGOGRAM MARKcA410A END LOGOGRAM MARKcA411cA412cA413cA414cA415cA416cA417cA418
    cA419cA420cA421cA422cA423cA424cA425cA426cA427cA428cA429cA430cA431cA432cA433cA434cA435cA436
    cA437cA438cA439cA440cA441cA442cA443cA444cA445cA446cA447cA448cA449cA450cA450AcA451cA452cA453
    cA454cA455cA456cA457cA457AcA458cA459cA460cA461cA462cA463cA464cA465cA466cA467cA468cA469cA470
    cA471cA472cA473cA474cA475cA476cA477cA478cA479cA480cA481cA482cA483cA484cA485cA486cA487cA488
    cA489cA490cA491cA492cA493cA494cA495cA496cA497cA501cA502cA503cA504cA505cA506cA507cA508cA509
    cA510cA511cA512cA513cA514cA515cA516cA517cA518cA519cA520cA521cA522cA523cA524cA525cA526cA527
    cA528cA529cA530"⟩,
  ⟨0x16800, "aBAMUM LETTER PHASE-A NGKUE MFONdGBIEE FONdPON MFON PIPAEMGBIEEfPIPAEMBAdNAA MFON
    dSHUENSHUETdTITA MFONdNZA MFONdSHINDA PA NJIdPON PA NJI PIPAEMGBIEEgPIPAEMBAdMAEMBGBIEE
    dTU MAEMBAdNGANGUdMAEMVEUXdMANSUAEdMVEUAENGAMdSEUNYAMdNTOQPENdKEUKEUTNDAdNKINDIdSUU
    dNGKUENZEUMdLAPAQdLET KUTdNTAP MFAAdMAEKEUPdPASHAEdGHEUAERAEdPAMSHAEdMON NGGEUAETdNZUN MEUT
    dU YUQ NAEdGHEUAEGHEUAEdNTAP NTAAdSISAdMGBASAdMEUNJOMNDEUQdMOOMPUQdKAFAdPA LEERAEWA
    dNDA LEERAEWAdPETdMAEMKPENdNIKAdPUPdTUAEPdLUAEPdSONJAMdTEUTEUWENdMAENYIdKETdNDAANGGEUAET
    dKUOQdMOOMEUTdSHUMdLOMMAEdFIRIdROMdKPOQdSOQdMAP PIEETdSHIRAEdNTAPdSHOQ NSHUT YUM
    dNYIT MONGKEUAEQdPAARAEdNKAARAEdUNKNOWNdNGGENdMAESIdNJAMdMBANYIdNYETdTEUAENdSOTdPAAMdNSHIEE
    dMAEMdNYIdKAQdNSHAdVEEdLUdNENdNAQdMBAQcPHASE-B NSHUETdTU MAEMGBIEEdSIEEdSET TUdLOM NTEUM
    dMBA MAELEEdKIEEMdYEURAEdMBAARAEdKAMdPEESHIdYAFU LEERAEWAdLAM NSHUT NYAMdNTIEE SHEUOQ
    dNDU NJAAdGHEUGHEUAEMdPITdTU NSIEEdSHET NJAQdSHEUAEQTUdMFON TEUAEQdMBIT MBAAKETdNYI NTEUM
    dKEUPUQdGHEUGHENdKEUYEUXdLAANAEdPARUMdVEUMdNGKINDI MVOPdNGGEU MBUdWUAETdSAKEUAEdTAAMdMEUQ
    dNGGUOQeLARGEdMFIYAQdSUEdMBEURIdMONTIEENdNYAEMAEdPUNGAAMdMEUT NGGEETdFEUXdMBUOQdFEEdKEUAEM
    dMA NJEUAENAeNJUQAdLETdNGGAAMdNSENdMAdKIQdNGOMcPHASE-C NGKUE MAEMBAdNZAdYUMdWANGKUOQdNGGEN
    dNDEUAEREEdNGKAQdGHARAEdMBEEKEETdGBAYIdNYIR MKPARAQ MEUNdNTU MBITdMBEUMdPIRIEENdNDOMBU
    dMBAA CABBAGE-TREEdKEUSHEUAEPdGHAPdKEUKAQdYU MUOMAEdNZEUMdMBUEdNSEUAENdMBITdYEUQdKPARAQdKAA
    dSEUXdNDIDAdTAASHAEdNJUEQdTITA YUEdSUAETdNGGUAEN NYAMdVEUXdNANSANAQdMA KEUAERIdNTAAdNGGUON
    dLAPdMBIRIEENdMGBASAQdNTEUNGBAdTEUTEUXdNGGUMdFUEdNDEUTdNSAdNSHAQdBUNGdVEUAEPENdMBERAEdRU
    dNJAEMdLAMdTITUAEPdNSUOT NGOMdNJEEEEdKETdNGGUdMAESIdMBUAEMdLUdKUTdNJAMdNGOMdWUPdNGGUEETdNSOM
    dNTENdKUOP NKAARAEdNSUNdNDAMdMA NSIEEdYAAdNDAPdSHUEQdSETFONdMBIdMAEMBAdMBANYIdKEUSEUXdMBEUX
    dKEUMdMBAA PICKETdYUWOQdNJEUXdMIEEdMUAEdSHIQdKEN LAWeFATIGUEdNGAQdNAQdLIQdPINdPENdTET
    cPHASE-D MBUOdWAPdNJIdMFONdNJIEEdLIEEdNJEUTdNSHEEdNGGAAMAEdNYAMdWUAENdNGKUNdSHEEdNGKAP
    dKEUAETMEUNdTEUTdSHEUAEdNJAPdSUEdKETdYAEMMAEdKUOMdSAPdMFEUTdNDEUXdMALEERIdMEUTdSEUAEQdYEN
    dNJEUAEMdKEUOT MBUAEdNGKEURIdTUdGHAAdNGKYEEdFEUFEUAETdNDEEdMGBOFUMdLEUAEPdNDONdMONIdMGBEUN
    dPUUTdMGBIEEdMFOdLUMdNSIEEPdMBAAdKWAETdNYETdTEUAENdSOTdYUWOQdKEUMdRAEMdTEEEEdNGKEUAEQdMFEUAE
    dNSIEETdKEUPdPIPdPEUTAEdNYUEdLETdNGGAAMdMFIEEdNGGWAENdYUOMdPAPdYUOPdNDAMdNTEUMdSUAEdKUN
    dNGGEUXdNGKIEEdTUOTdMEUNdKUQdNSUMdTEUNdMAENJETdNGGAPdLEUMdNGGUOMdNSHUTdNJUEQdGHEUAEdKU
    dREN OLDdTAEdTOQdNYIdRIIdLEEEEdMEEEEdMdSUUdMUdSHIIdSHEUXdKYEEdNUdSHUdNTEEdPEEdNIdSHOQdPUQ
    dMVOPdLOQdREN MUCHdTIdNTUUdMBAA SEVENdSAQdFAAcPHASE-E NDAPdTOONdMBEUMdLAPdVOMdLOONdPAAdSOM
    dRAQdNSHUOPdNDUNdPUAEdTAMdNGKAdKPEUXdWUOdSEEdNGGEUAETdPAAMdTOOdKUOPdLOMdNSHIEEdNGOPdMAEM
    dNGKEUXdNGOQdNSHUEdRIMGBAdNJEUXdPEEMdSAAdNGGURAEdMGBAdGHEUXdNGKEUAEMdNJAEMLIdMAPdLOOT
    dNGGEEEEdNDIQdTAEN NTEUMdSETdPUMdNDAA SOFTNESSdNGGUAESHAE NYAMdYIEEdGHEUNdTUAEdYEUAEdPO
    dTUMAEdKEUAEdSUAENdTEUAEQdVEUAEdWEUXdLAAMdPUdTAAQdGHAAMAEdNGEUREUTdSHEUAEQdMGBENdMBEEdNZAQ
    dNKOMdGBETdTUMdKUETdYAPdNYI CLEAVERdYITdMFEUQdNDIAQdPIEEQdYUEQdLEUAEMdFUEdGBEUXdNGKUPdKET
    dMAEdNGKAAMIdGHETdFAdNTUMdPEUTdYEUMdNGGEUAEdNYI BETWEENdNZUQdPOONdMIEEdFUETdNAEdMUAEdGHEUAE
    dFU IdMVIdPUAQdNGKUMdKUTdPIETdNTAPdYEUAETdNGGUPdPA PEOPLEdFU CALLdFOMdNJEEdAdTOQdOdIdLAQ
    dPA PLURALdTAAdTAQdNDAA MY HOUSEdSHIQdYEUXdNGUAEdYUAENdYOQ SWIMMINGeCOVERdYUQdYUNdKEUXdPEUX
    dNJEE EPOCHdPUEdWUEdFEEdVEEdLUdMIdREUXdRAEdNGUAETdNGAdSHOdSHOQdFU REMEDYdNAdPIdLOQdKOdMENdMA
    dMAQdTEUdKIdMONdTENdFAQdGHOMcPHASE-F KAdUdKUdEEdREEdTAEdNYIdLAdRIIdRIEEdMEEEEdTAAdNDAAdNJAEM
    dMdSUUdSHIIdSIdSEUXdKYEEdKETdNUAEdNUdNJUAEdYOQdSHUdYAdNSHAdPEUXdNTEEdWUEdPEEdRUdNIdREUXdKEN
    dNGKWAENdNGGAdSHOdPUAEdFOMdWAdLIdLOQdKOdMBENdRENdMAdMOdMBAAdTETdKPAdSAMBAdVUEQ"⟩,
  ⟨0x16a40, "aMRO LETTER TAcNGIcYOcMIMcBAcDAcAcPHIcKHAIcHAOcDAIcCHUcKEAAEcOLcMAEMcNINcPAcOOcOcRO
    cSHIcTHEAcEAcWAcEcKOcLANcLAcHAIcRIcTEK"⟩,
  ⟨0x16a60, "aMRO DIGIT ZEROcONEcTWOcTHREEcFOURcFIVEcSIXcSEVENcEIGHTcNINE"⟩,
  ⟨0x16a6e, "aMRO DANDAbDOUBLE DANDAaTANGSA LETTER OZcOCcOQcOXcAZcACcAQcAXcVZcVCcVQcVXcEZcECcEQ
    cEXcIZcICcIQcIXcUZcUCcUQcUXcAWZcAWCcAWQcAWXcUIZcUICcUIQcUIXcFINAL NGcLONG UEXcSHORT UEZdAWX
    cUECcUEZcUEQcUEXcUIUZcUIUCcUIUQcUIUXcMZcMCcMQcMXcKAcKHAcGAcNGAcSAcYAcWAcPAcNYAcPHAcBAcMAcNA
    cHAcLAcHTAcTAcDAcRAcNHAcSHAcCAcTSAcGHAcHTTAcTHAcXAcFAcDHAcCHAcZA"⟩,
  ⟨0x16ac0, "aTANGSA DIGIT ZEROcONEcTWOcTHREEcFOURcFIVEcSIXcSEVENcEIGHTcNINE"⟩,
  ⟨0x16ad0, "aBASSA VAH LETTER ENNIdKAdSEdFAdMBEdYIEdGAHdDHIIdKPAHdJOdHWAHdWAdZOdGBUdDOdCEdUWU
    dTOdBAdVUdYEINdPAdWADDAdAdOdOOdUdEEdEdI"⟩,
  ⟨0x16af0, "aBASSA VAH COMBINING HIGH TONEdLOW TONEdMID TONEdLOW-MID TONEdHIGH-LOW TONE
    cFULL STOP"⟩,
  ⟨0x16b00, "aPAHAWH HMONG VOWEL KEEBdKEEVdKIBdKIVdKAUBdKAUVdKUBdKUVdKEBdKEVdKAIBdKAIVdKOOBdKOOV
    dKAWBdKAWVdKUABdKUAVdKOBdKOVdKIABdKIAVdKABdKAVdKWBdKWVdKAABdKAAVcCONSONANT VAUdNTSAUdLAUdHAU
    dNLAUdRAUdNKAUdQHAUdYAUdHLAUdMAUdCHAUdNCHAUdHNAUdPLHAUdNTHAUdNAUdAUdXAUdCAUcMARK CIM TUBeSO
    eKESeKHAVeSUAMeHOMeTAUMcSIGN VOS THOMeTSHAB CEEBdCIM CHEEMdVOS THIABeFEEMdXYEEM NTXIVeRHO
    eTOVeFAIBdVOS SEEVdMEEJ SUABdVOS NRUAdIB YAMdXAUSdCIM TSOV ROG"⟩,
  ⟨0x16b50, "aPAHAWH HMONG DIGIT ZEROdONEdTWOdTHREEdFOURdFIVEdSIXdSEVENdEIGHTdNINE"⟩,
  ⟨0x16b5b, "aPAHAWH HMONG NUMBER TENSdHUNDREDSdTEN THOUSANDSdMILLIONSdHUNDRED MILLIONS
    dTEN BILLIONSdTRILLIONS"⟩,
  ⟨0x16b63, "aPAHAWH HMONG SIGN VOS LUBdXYOOdHLIdTHIRD-STAGE HLIdZWJ THAJdHNUBdNQIGdXIABdNTUJdAV
    dTXHEEJ CEEVdMEEJ TSEEBdTAUdLOSdMUSdCIM HAIS LUS NTOG NTOGeCUAM TSHOOJeTXWVfCHWVePUB DAWB
    eNRES TOS"⟩,
  ⟨0x16b7d, "aPAHAWH HMONG CLAN SIGN TSHEEJeYEEGeLISeLAUJeXYOOJeKOOeHAWJeMUASeTHOJeTSABePHAB
    eKHABeHAMeVAJeFAJeYAJeTSWBeKWMeVWJ"⟩,
  ⟨0x16e40, "aMEDEFAIDRIN CAPITAL LETTER MdSdVdWdATIUdZdKPdPdTdGdFdIdKdAdJdEdBdCdUdYUdLdQdHPdNY
    dXdDdOEdNdRdOdAIdYbSMALL LETTER MdSdVdWdATIUdZdKPdPdTdGdFdIdKdAdJdEdBdCdUdYUdLdQdHPdNYdXdD
    dOEdNdRdOdAIdYbDIGIT ZEROcONEcTWOcTHREEcFOURcFIVEcSIXcSEVENcEIGHTcNINEbNUMBER TENcELEVEN
    cTWELVEcTHIRTEENcFOURTEENcFIFTEENcSIXTEENcSEVENTEENcEIGHTEENcNINETEEN
    bDIGIT ONE ALTERNATE FORMcTWO ALTERNATE FORMcTHREE ALTERNATE FORMbCOMMAbFULL STOP
    bSYMBOL AIVAbEXCLAMATION OH"⟩,
  ⟨0x16f00, "aMIAO LETTER PAcBAcYI PAcPLAcMAcMHAcARCHAIC MAcFAcVAcVFAcTAcDAcYI TTAdTAcTTAcDDAcNA
    cNHAcYI NNAcARCHAIC NAcNNAcNNHAcLAcLYAcLHAcLHYAcTLHAcDLHAcTLHYAcDLHYAcKAcGAcYI KAcQAcQGAcNGA
    cNGHAcARCHAIC NGAcHAcXAcGHAcGHHAcTSSAcDZZAcNYAcNYHAcTSHAcDZHAcYI TSHAdDZHAcREFORMED TSHAcSHA
    cSSAcZHAcZSHAcTSAcDZAcYI TSAcSAcZAcZSAcZZAcZZSAcARCHAIC ZZAcZZYAcZZSYAcWAcAHcHHAcBRIcSYI
    cDZYIcTEcTSEcRTE"⟩,
  ⟨0x16f4f, "aMIAO SIGN CONSONANT MODIFIER BARbLETTER NASALIZATIONbSIGN ASPIRATION
    cREFORMED VOICINGdASPIRATIONbVOWEL SIGN AdAAdAHHdANdANGdOdOOdWOdWdEdENdENGdOEYdIdIAdIANdIANG
    dIOdIEdIIdIUdINGdUdUAdUANdUANGdUUdUEIdUNGdYdYIdAEdAEEdERRdROUNDED ERRdERdROUNDED ERdAIdEIdAU
    dOUdNdNGdUOGdYUIdOGdOERdVWdIGdEAdIONGdUI"⟩,
  ⟨0x16f8f, "aMIAO TONE RIGHTcTOP RIGHTcABOVEcBELOWbLETTER TONE-2cTONE-3cTONE-4cTONE-5cTONE-6
    cTONE-7cTONE-8cREFORMED TONE-1dTONE-2dTONE-4dTONE-5dTONE-6dTONE-8"⟩,
  ⟨0x16fe0, "aTANGUT ITERATION MARKaNUSHU ITERATION MARKaOLD CHINESE HOOK MARKcITERATION MARK
    aKHITAN SMALL SCRIPT FILLER"⟩, ⟨0x16ff0, "aVIETNAMESE ALTERNATE READING MARK CAeNHAY"⟩]

end JournalSearch.Unicode
