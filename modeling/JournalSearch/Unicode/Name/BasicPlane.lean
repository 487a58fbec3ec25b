import JournalSearch.Unicode.Name.Run

/-!
Names of characters from U+2C00 on: the rest of the basic plane, with further scripts, East Asian characters and
compatibility forms.
-/
namespace JournalSearch.Unicode

def basicPlaneNames : List NameRun := [
  ⟨0x2c00, "aGLAGOLITIC CAPITAL LETTER AZUdBUKYdVEDEdGLAGOLIdDOBROdYESTUdZHIVETEdDZELOdZEMLJA
    dIZHEdINITIAL IZHEdIdDJERVIdKAKOdLJUDIJEdMYSLITEdNASHIdONUdPOKOJIdRITSIdSLOVOdTVRIDOdUKU
    dFRITUdHERUdOTUdPEdSHTAdTSIdCHRIVIdSHAdYERUdYERIdYATIdSPIDERY HAdYUdSMALL YUSfWITH TAILdYO
    dIOTATED SMALL YUSdBIG YUSdIOTATED BIG YUSdFITAdIZHITSAdSHTAPICdTROKUTASTI A
    dLATINATE MYSLITEdCAUDATE CHRIVIbSMALL LETTER AZUdBUKYdVEDEdGLAGOLIdDOBROdYESTUdZHIVETE
    dDZELOdZEMLJAdIZHEdINITIAL IZHEdIdDJERVIdKAKOdLJUDIJEdMYSLITEdNASHIdONUdPOKOJIdRITSIdSLOVO
    dTVRIDOdUKUdFRITUdHERUdOTUdPEdSHTAdTSIdCHRIVIdSHAdYERUdYERIdYATIdSPIDERY HAdYUdSMALL YUS
    fWITH TAILdYOdIOTATED SMALL YUSdBIG YUSdIOTATED BIG YUSdFITAdIZHITSAdSHTAPICdTROKUTASTI A
    dLATINATE MYSLITEdCAUDATE CHRIVIaLATIN CAPITAL LETTER L WITH DOUBLE BAR
    bSMALL LETTER L WITH DOUBLE BARbCAPITAL LETTER L WITH MIDDLE TILDEdP WITH STROKEdR WITH TAIL
    bSMALL LETTER A WITH STROKEdT WITH DIAGONAL STROKEbCAPITAL LETTER H WITH DESCENDER
    bSMALL LETTER H WITH DESCENDERbCAPITAL LETTER K WITH DESCENDERbSMALL LETTER K WITH DESCENDER
    bCAPITAL LETTER Z WITH DESCENDERbSMALL LETTER Z WITH DESCENDERbCAPITAL LETTER ALPHA
    dM WITH HOOKdTURNED AeALPHAbSMALL LETTER V WITH RIGHT HOOKbCAPITAL LETTER W WITH HOOK
    bSMALL LETTER W WITH HOOKdV WITH CURLbCAPITAL LETTER HALF HbSMALL LETTER HALF HdTAILLESS PHI
    dE WITH NOTCHdTURNED R WITH TAILdO WITH LOW RING INSIDEbLETTER SMALL CAPITAL TURNED E
    bSUBSCRIPT SMALL LETTER JaMODIFIER LETTER CAPITAL VaLATIN CAPITAL LETTER S WITH SWASH TAIL
    dZ WITH SWASH TAILaCOPTIC CAPITAL LETTER ALFAbSMALL LETTER ALFAbCAPITAL LETTER VIDA
    bSMALL LETTER VIDAbCAPITAL LETTER GAMMAbSMALL LETTER GAMMAbCAPITAL LETTER DALDA
    bSMALL LETTER DALDAbCAPITAL LETTER EIEbSMALL LETTER EIEbCAPITAL LETTER SOUbSMALL LETTER SOU
    bCAPITAL LETTER ZATAbSMALL LETTER ZATAbCAPITAL LETTER HATEbSMALL LETTER HATE
    bCAPITAL LETTER THETHEbSMALL LETTER THETHEbCAPITAL LETTER IAUDAbSMALL LETTER IAUDA
    bCAPITAL LETTER KAPAbSMALL LETTER KAPAbCAPITAL LETTER LAULAbSMALL LETTER LAULA
    bCAPITAL LETTER MIbSMALL LETTER MIbCAPITAL LETTER NIbSMALL LETTER NIbCAPITAL LETTER KSI
    bSMALL LETTER KSIbCAPITAL LETTER ObSMALL LETTER ObCAPITAL LETTER PIbSMALL LETTER PI
    bCAPITAL LETTER RObSMALL LETTER RObCAPITAL LETTER SIMAbSMALL LETTER SIMAbCAPITAL LETTER TAU
    bSMALL LETTER TAUbCAPITAL LETTER UAbSMALL LETTER UAbCAPITAL LETTER FIbSMALL LETTER FI
    bCAPITAL LETTER KHIbSMALL LETTER KHIbCAPITAL LETTER PSIbSMALL LETTER PSIbCAPITAL LETTER OOU
    bSMALL LETTER OOUbCAPITAL LETTER DIALECT-P ALEFbSMALL LETTER DIALECT-P ALEF
    bCAPITAL LETTER OLD COPTIC AINbSMALL LETTER OLD COPTIC AINbCAPITAL LETTER CRYPTOGRAMMIC EIE
    bSMALL LETTER CRYPTOGRAMMIC EIEbCAPITAL LETTER DIALECT-P KAPAbSMALL LETTER DIALECT-P KAPA
    bCAPITAL LETTER DIALECT-P NIbSMALL LETTER DIALECT-P NIbCAPITAL LETTER CRYPTOGRAMMIC NI
    bSMALL LETTER CRYPTOGRAMMIC NIbCAPITAL LETTER OLD COPTIC OOUbSMALL LETTER OLD COPTIC OOU
    bCAPITAL LETTER SAMPIbSMALL LETTER SAMPIbCAPITAL LETTER CROSSED SHEI
    bSMALL LETTER CROSSED SHEIbCAPITAL LETTER OLD COPTIC SHEIbSMALL LETTER OLD COPTIC SHEI
    bCAPITAL LETTER OLD COPTIC ESHbSMALL LETTER OLD COPTIC ESHbCAPITAL LETTER AKHMIMIC KHEI
    bSMALL LETTER AKHMIMIC KHEIbCAPITAL LETTER DIALECT-P HORIbSMALL LETTER DIALECT-P HORI
    bCAPITAL LETTER OLD COPTIC HORIbSMALL LETTER OLD COPTIC HORIbCAPITAL LETTER OLD COPTIC HA
    bSMALL LETTER OLD COPTIC HAbCAPITAL LETTER L-SHAPED HAbSMALL LETTER L-SHAPED HA
    bCAPITAL LETTER OLD COPTIC HEIbSMALL LETTER OLD COPTIC HEIbCAPITAL LETTER OLD COPTIC HAT
    bSMALL LETTER OLD COPTIC HATbCAPITAL LETTER OLD COPTIC GANGIAbSMALL LETTER OLD COPTIC GANGIA
    bCAPITAL LETTER OLD COPTIC DJAbSMALL LETTER OLD COPTIC DJAbCAPITAL LETTER OLD COPTIC SHIMA
    bSMALL LETTER OLD COPTIC SHIMAbCAPITAL LETTER OLD NUBIAN SHIMAbSMALL LETTER OLD NUBIAN SHIMA
    bCAPITAL LETTER OLD NUBIAN NGIbSMALL LETTER OLD NUBIAN NGIbCAPITAL LETTER OLD NUBIAN NYI
    bSMALL LETTER OLD NUBIAN NYIbCAPITAL LETTER OLD NUBIAN WAUbSMALL LETTER OLD NUBIAN WAU
    bSYMBOL KAIcMI ROcPI ROcSTAUROScTAU ROcKHI ROcSHIMA SIMAbCAPITAL LETTER CRYPTOGRAMMIC SHEI
    bSMALL LETTER CRYPTOGRAMMIC SHEIbCAPITAL LETTER CRYPTOGRAMMIC GANGIA
    bSMALL LETTER CRYPTOGRAMMIC GANGIAbCOMBINING NI ABOVEcSPIRITUS ASPERdLENIS
    bCAPITAL LETTER BOHAIRIC KHEIbSMALL LETTER BOHAIRIC KHEI"⟩,
  ⟨0x2cf9, "aCOPTIC OLD NUBIAN FULL STOPdDIRECT QUESTION MARKdINDIRECT QUESTION MARK
    dVERSE DIVIDERbFRACTION ONE HALFbFULL STOPbMORPHOLOGICAL DIVIDERaGEORGIAN SMALL LETTER AN
    dBANdGANdDONdENdVINdZENdTANdINdKANdLASdMANdNARdONdPARdZHARdRAEdSANdTARdUNdPHARdKHARdGHANdQAR
    dSHINdCHINdCANdJILdCILdCHARdXANdJHANdHAEdHEdHIEdWEdHARdHOE"⟩,
  ⟨0x2d27, "aGEORGIAN SMALL LETTER YN"⟩, ⟨0x2d2d, "aGEORGIAN SMALL LETTER AEN"⟩,
  ⟨0x2d30, "aTIFINAGH LETTER YAcYABcYABHcYAGcYAGHHcBERBER ACADEMY YAJcYAJcYADcYADHcYADDcYADDH
    cYEYcYAFcYAKcTUAREG YAKcYAKHHcYAHcBERBER ACADEMY YAHcTUAREG YAHcYAHHcYAAcYAKHcTUAREG YAKH
    cYAQcTUAREG YAQcYIcYAZHcAHAGGAR YAZHcTUAREG YAZHcYALcYAMcYANcTUAREG YAGNdYANGcYAPcYUcYAR
    cYARRcYAGHcTUAREG YAGHcAYER YAGHcYAScYASScYASHcYATcYATHcYACHcYATTcYAVcYAWcYAYcYAZ
    cTAWELLEMET YAZcYAZZcYEcYO"⟩,
  ⟨0x2d6f, "aTIFINAGH MODIFIER LETTER LABIALIZATION MARKbSEPARATOR MARK"⟩,
  ⟨0x2d7f, "aTIFINAGH CONSONANT JOINERaETHIOPIC SYLLABLE LOAcMOAcROAcSOAcSHOAcBOAcTOAcCOAcNOA
    cNYOAcGLOTTAL OAcZOAcDOAcDDOAcJOAcTHOAcCHOAcPHOAcPOAcGGWAcGGWIcGGWEEcGGWE"⟩,
  ⟨0x2da0, "aETHIOPIC SYLLABLE SSAcSSUcSSIcSSAAcSSEEcSSEcSSO"⟩,
  ⟨0x2da8, "aETHIOPIC SYLLABLE CCAcCCUcCCIcCCAAcCCEEcCCEcCCO"⟩,
  ⟨0x2db0, "aETHIOPIC SYLLABLE ZZAcZZUcZZIcZZAAcZZEEcZZEcZZO"⟩,
  ⟨0x2db8, "aETHIOPIC SYLLABLE CCHAcCCHUcCCHIcCCHAAcCCHEEcCCHEcCCHO"⟩,
  ⟨0x2dc0, "aETHIOPIC SYLLABLE QYAcQYUcQYIcQYAAcQYEEcQYEcQYO"⟩,
  ⟨0x2dc8, "aETHIOPIC SYLLABLE KYAcKYUcKYIcKYAAcKYEEcKYEcKYO"⟩,
  ⟨0x2dd0, "aETHIOPIC SYLLABLE XYAcXYUcXYIcXYAAcXYEEcXYEcXYO"⟩,
  ⟨0x2dd8, "aETHIOPIC SYLLABLE GYAcGYUcGYIcGYAAcGYEEcGYEcGYO"⟩,
  ⟨0x2de0, "aCOMBINING CYRILLIC LETTER BEdVEdGHEdDEdZHEdZEdKAdELdEMdENdOdPEdERdESdTEdHAdTSEdCHE
    dSHAdSHCHAdFITAdES-TEdAdIEdDJERVdMONOGRAPH UKdYATdYUdIOTIFIED AdLITTLE YUSdBIG YUS
    dIOTIFIED BIG YUSaRIGHT ANGLE SUBSTITUTION MARKERcDOTTED SUBSTITUTION MARKER
    aLEFT SUBSTITUTION BRACKETaRIGHT SUBSTITUTION BRACKETaLEFT DOTTED SUBSTITUTION BRACKET
    aRIGHT DOTTED SUBSTITUTION BRACKETaRAISED INTERPOLATION MARKERbDOTTED INTERPOLATION MARKER
    aDOTTED TRANSPOSITION MARKERaLEFT TRANSPOSITION BRACKETaRIGHT TRANSPOSITION BRACKET
    aRAISED SQUAREaLEFT RAISED OMISSION BRACKETaRIGHT RAISED OMISSION BRACKETaEDITORIAL CORONIS
    aPARAGRAPHOSaFORKED PARAGRAPHOSaREVERSED FORKED PARAGRAPHOSaHYPODIASTOLEaDOTTED OBELOS
    aDOWNWARDS ANCORAaUPWARDS ANCORAaDOTTED RIGHT-POINTING ANGLEaDOUBLE OBLIQUE HYPHEN
    aINVERTED INTERROBANGaPALM BRANCHaHYPHEN WITH DIAERESISaTILDE WITH RING ABOVE
    aLEFT LOW PARAPHRASE BRACKETaRIGHT LOW PARAPHRASE BRACKETaTILDE WITH DOT ABOVEdBELOW
    aLEFT VERTICAL BAR WITH QUILLaRIGHT VERTICAL BAR WITH QUILLaTOP LEFT HALF BRACKET
    bRIGHT HALF BRACKETaBOTTOM LEFT HALF BRACKETbRIGHT HALF BRACKETaLEFT SIDEWAYS U BRACKET
    aRIGHT SIDEWAYS U BRACKETaLEFT DOUBLE PARENTHESISaRIGHT DOUBLE PARENTHESIS
    aTWO DOTS OVER ONE DOT PUNCTUATIONaONE DOT OVER TWO DOTS PUNCTUATION
    aSQUARED FOUR DOT PUNCTUATIONaFIVE DOT MARKaREVERSED QUESTION MARKaVERTICAL TILDEaRING POINT
    aWORD SEPARATOR MIDDLE DOTaTURNED COMMAaRAISED DOTbCOMMAaTURNED SEMICOLON
    aDAGGER WITH LEFT GUARDcRIGHT GUARDaTURNED DAGGERaTOP HALF SECTION SIGNaTWO-EM DASH
    aTHREE-EM DASHaSTENOGRAPHIC FULL STOPaVERTICAL SIX DOTSaWIGGLY VERTICAL LINEaCAPITULUM
    aDOUBLE HYPHENaREVERSED COMMAaDOUBLE LOW-REVERSED-9 QUOTATION MARKaDASH WITH LEFT UPTURN
    aDOUBLE SUSPENSION MARKaINVERTED LOW KAVYKAdWITH KAVYKA ABOVEaLOW KAVYKAcWITH DOT
    aDOUBLE STACKED COMMAaDOTTED SOLIDUSaTRIPLE DAGGERaMEDIEVAL COMMAaPARAGRAPHUS MARK
    aPUNCTUS ELEVATUS MARKaCORNISH VERSE DIVIDERaCROSS PATTY WITH RIGHT CROSSBARdLEFT CROSSBAR
    aTIRONIAN SIGN CAPITAL ETaMEDIEVAL EXCLAMATION MARKbQUESTION MARK
    aLEFT SQUARE BRACKET WITH STROKEaRIGHT SQUARE BRACKET WITH STROKE
    aLEFT SQUARE BRACKET WITH DOUBLE STROKEaRIGHT SQUARE BRACKET WITH DOUBLE STROKE
    aTOP HALF LEFT PARENTHESIScRIGHT PARENTHESISaBOTTOM HALF LEFT PARENTHESIScRIGHT PARENTHESIS
    aOBLIQUE HYPHEN"⟩,
  ⟨0x2e80, "aCJK RADICAL REPEATcCLIFFcSECOND ONEdTWOdTHREEcPERSONcBOXcTABLEcKNIFE ONEdTWO
    cDIVINATIONcSEALcSMALL ONEdTWOcLAME ONEdTWOdTHREEdFOURcSNAKEcTHREADcSNOUT ONEdTWOcHEART ONE
    dTWOcHANDcRAP"⟩,
  ⟨0x2e9b, "aCJK RADICAL CHOKEcSUNcMOONcDEATHcMOTHERcCIVILIANcWATER ONEdTWOcFIREcPAW ONEdTWO
    cSIMPLIFIED HALF TREE TRUNKcCOWcDOGcJADEcBOLT OF CLOTHcEYEcSPIRIT ONEdTWOcBAMBOOcSILK
    cC-SIMPLIFIED SILKcNET ONEdTWOdTHREEdFOURcMESHcSHEEPcRAMcEWEcOLDcBRUSH ONEdTWOcMEATcMORTAR
    cGRASS ONEdTWOdTHREEcTIGERcCLOTHEScWEST ONEdTWOcC-SIMPLIFIED SEEcSIMPLIFIED HORNcHORN
    cC-SIMPLIFIED SPEECHdSHELLcFOOTcC-SIMPLIFIED CARTcSIMPLIFIED WALKcWALK ONEdTWOcCITY
    cC-SIMPLIFIED GOLDcLONG ONEdTWOcC-SIMPLIFIED LONGdGATEcMOUND ONEdTWOcRAINcBLUE
    cC-SIMPLIFIED TANNED LEATHERdLEAFdWINDdFLYcEAT ONEdTWOdTHREEcC-SIMPLIFIED EATcHEAD
    cC-SIMPLIFIED HORSEcBONEcGHOSTcC-SIMPLIFIED FISHdBIRDdSALTcSIMPLIFIED WHEATdYELLOW
    cC-SIMPLIFIED FROGcJ-SIMPLIFIED EVENcC-SIMPLIFIED EVENcJ-SIMPLIFIED TOOTHcC-SIMPLIFIED TOOTH
    cJ-SIMPLIFIED DRAGONcC-SIMPLIFIED DRAGONcTURTLEcJ-SIMPLIFIED TURTLEcC-SIMPLIFIED TURTLE"⟩,
  ⟨0x2f00, "aKANGXI RADICAL ONEcLINEcDOTcSLASHcSECONDcHOOKcTWOcLIDcMANcLEGScENTERcEIGHTcDOWN BOX
    cCOVERcICEcTABLEcOPEN BOXcKNIFEcPOWERcWRAPcSPOONcRIGHT OPEN BOXcHIDING ENCLOSUREcTEN
    cDIVINATIONcSEALcCLIFFcPRIVATEcAGAINcMOUTHcENCLOSUREcEARTHcSCHOLARcGOdSLOWLYcEVENINGcBIG
    cWOMANcCHILDcROOFcINCHcSMALLcLAMEcCORPSEcSPROUTcMOUNTAINcRIVERcWORKcONESELFcTURBANcDRY
    cSHORT THREADcDOTTED CLIFFcLONG STRIDEcTWO HANDScSHOOTcBOWcSNOUTcBRISTLEcSTEPcHEARTcHALBERD
    cDOORcHANDcBRANCHcRAPcSCRIPTcDIPPERcAXEcSQUAREcNOTcSUNcSAYcMOONcTREEcLACKcSTOPcDEATHcWEAPON
    cDO NOTcCOMPAREcFURcCLANcSTEAMcWATERcFIREcCLAWcFATHERcDOUBLE XcHALF TREE TRUNKcSLICEcFANG
    cCOWcDOGcPROFOUNDcJADEcMELONcTILEcSWEETcLIFEcUSEcFIELDcBOLT OF CLOTHcSICKNESScDOTTED TENT
    cWHITEcSKINcDISHcEYEcSPEARcARROWcSTONEcSPIRITcTRACKcGRAINcCAVEcSTANDcBAMBOOcRICEcSILKcJAR
    cNETcSHEEPcFEATHERcOLDcANDcPLOWcEARcBRUSHcMEATcMINISTERcSELFcARRIVEcMORTARcTONGUEcOPPOSE
    cBOATcSTOPPINGcCOLORcGRASScTIGERcINSECTcBLOODcWALK ENCLOSUREcCLOTHEScWESTcSEEcHORNcSPEECH
    cVALLEYcBEANcPIGcBADGERcSHELLcREDcRUNcFOOTcBODYcCARTcBITTERcMORNINGcWALKcCITYcWINE
    cDISTINGUISHcVILLAGEcGOLDcLONGcGATEcMOUNDcSLAVEcSHORT TAILED BIRDcRAINcBLUEcWRONGcFACE
    cLEATHERcTANNED LEATHERcLEEKcSOUNDcLEAFcWINDcFLYcEATcHEADcFRAGRANTcHORSEcBONEcTALLcHAIR
    cFIGHTcSACRIFICIAL WINEcCAULDRONcGHOSTcFISHcBIRDcSALTcDEERcWHEATcHEMPcYELLOWcMILLETcBLACK
    cEMBROIDERYcFROGcTRIPODcDRUMcRATcNOSEcEVENcTOOTHcDRAGONcTURTLEcFLUTE"⟩,
  ⟨0x2ff0, "aIDEOGRAPHIC DESCRIPTION CHARACTER LEFT TO RIGHTdABOVE TO BELOW
    dLEFT TO MIDDLE AND RIGHTdABOVE TO MIDDLE AND BELOWdFULL SURROUNDdSURROUND FROM ABOVEfBELOW
    fLEFTfUPPER LEFTgRIGHTfLOWER LEFTdOVERLAID"⟩,
  ⟨0x3000, "aIDEOGRAPHIC SPACEbCOMMAbFULL STOPaDITTO MARKaJAPANESE INDUSTRIAL STANDARD SYMBOL
    aIDEOGRAPHIC ITERATION MARKbCLOSING MARKbNUMBER ZEROaLEFT ANGLE BRACKETaRIGHT ANGLE BRACKET
    aLEFT DOUBLE ANGLE BRACKETaRIGHT DOUBLE ANGLE BRACKETaLEFT CORNER BRACKET
    aRIGHT CORNER BRACKETaLEFT WHITE CORNER BRACKETaRIGHT WHITE CORNER BRACKET
    aLEFT BLACK LENTICULAR BRACKETaRIGHT BLACK LENTICULAR BRACKETaPOSTAL MARKaGETA MARK
    aLEFT TORTOISE SHELL BRACKETaRIGHT TORTOISE SHELL BRACKETaLEFT WHITE LENTICULAR BRACKET
    aRIGHT WHITE LENTICULAR BRACKETaLEFT WHITE TORTOISE SHELL BRACKET
    aRIGHT WHITE TORTOISE SHELL BRACKETaLEFT WHITE SQUARE BRACKETaRIGHT WHITE SQUARE BRACKET
    aWAVE DASHaREVERSED DOUBLE PRIME QUOTATION MARKaDOUBLE PRIME QUOTATION MARK
    aLOW DOUBLE PRIME QUOTATION MARKaPOSTAL MARK FACEaHANGZHOU NUMERAL ONEcTWOcTHREEcFOURcFIVE
    cSIXcSEVENcEIGHTcNINEaIDEOGRAPHIC LEVEL TONE MARKbRISING TONE MARKbDEPARTING TONE MARK
    bENTERING TONE MARKaHANGUL SINGLE DOT TONE MARKbDOUBLE DOT TONE MARKaWAVY DASH
    aVERTICAL KANA REPEAT MARKdWITH VOICED SOUND MARKdMARK UPPER HALF
    dWITH VOICED SOUND MARK UPPER HALFdMARK LOWER HALFaCIRCLED POSTAL MARK
    aIDEOGRAPHIC TELEGRAPH LINE FEED SEPARATOR SYMBOLaHANGZHOU NUMERAL TENcTWENTYcTHIRTY
    aVERTICAL IDEOGRAPHIC ITERATION MARKaMASU MARKaPART ALTERNATION MARK
    aIDEOGRAPHIC VARIATION INDICATORbHALF FILL SPACE"⟩,
  ⟨0x3041, "aHIRAGANA LETTER SMALL AcAcSMALL IcIcSMALL UcUcSMALL EcEcSMALL OcOcKAcGAcKIcGIcKUcGU
    cKEcGEcKOcGOcSAcZAcSIcZIcSUcZUcSEcZEcSOcZOcTAcDAcTIcDIcSMALL TUcTUcDUcTEcDEcTOcDOcNAcNIcNU
    cNEcNOcHAcBAcPAcHIcBIcPIcHUcBUcPUcHEcBEcPEcHOcBOcPOcMAcMIcMUcMEcMOcSMALL YAcYAcSMALL YUcYU
    cSMALL YOcYOcRAcRIcRUcREcROcSMALL WAcWAcWIcWEcWOcNcVUcSMALL KAdKE"⟩,
  ⟨0x3099, "aCOMBINING KATAKANA-HIRAGANA VOICED SOUND MARKcSEMI-VOICED SOUND MARK
    aKATAKANA-HIRAGANA VOICED SOUND MARKbSEMI-VOICED SOUND MARKaHIRAGANA ITERATION MARK
    bVOICED ITERATION MARKbDIGRAPH YORIaKATAKANA-HIRAGANA DOUBLE HYPHENaKATAKANA LETTER SMALL A
    cAcSMALL IcIcSMALL UcUcSMALL EcEcSMALL OcOcKAcGAcKIcGIcKUcGUcKEcGEcKOcGOcSAcZAcSIcZIcSUcZU
    cSEcZEcSOcZOcTAcDAcTIcDIcSMALL TUcTUcDUcTEcDEcTOcDOcNAcNIcNUcNEcNOcHAcBAcPAcHIcBIcPIcHUcBU
    cPUcHEcBEcPEcHOcBOcPOcMAcMIcMUcMEcMOcSMALL YAcYAcSMALL YUcYUcSMALL YOcYOcRAcRIcRUcREcRO
    cSMALL WAcWAcWIcWEcWOcNcVUcSMALL KAdKEcVAcVIcVEcVObMIDDLE DOT
    aKATAKANA-HIRAGANA PROLONGED SOUND MARKaKATAKANA ITERATION MARKbVOICED ITERATION MARK
    bDIGRAPH KOTO"⟩,
  ⟨0x3105, "aBOPOMOFO LETTER BcPcMcFcDcTcNcLcGcKcHcJcQcXcZHcCHcSHcRcZcCcScAcOcEcEHcAIcEIcAUcOU
    cANcENcANGcENGcERcIcUcIUcVcNGcGNcIHcO WITH DOT ABOVEcNN"⟩,
  ⟨0x3131, "aHANGUL LETTER KIYEOKcSSANGKIYEOKcKIYEOK-SIOScNIEUNcNIEUN-CIEUCcNIEUN-HIEUHcTIKEUT
    cSSANGTIKEUTcRIEULcRIEUL-KIYEOKcRIEUL-MIEUMcRIEUL-PIEUPcRIEUL-SIOScRIEUL-THIEUTH
    cRIEUL-PHIEUPHcRIEUL-HIEUHcMIEUMcPIEUPcSSANGPIEUPcPIEUP-SIOScSIOScSSANGSIOScIEUNGcCIEUC
    cSSANGCIEUCcCHIEUCHcKHIEUKHcTHIEUTHcPHIEUPHcHIEUHcAcAEcYAcYAEcEOcEcYEOcYEcOcWAcWAEcOEcYOcU
    cWEOcWEcWIcYUcEUcYIcIbFILLERbLETTER SSANGNIEUNcNIEUN-TIKEUTcNIEUN-SIOScNIEUN-PANSIOS
    cRIEUL-KIYEOK-SIOScRIEUL-TIKEUTcRIEUL-PIEUP-SIOScRIEUL-PANSIOScRIEUL-YEORINHIEUHcMIEUM-PIEUP
    cMIEUM-SIOScMIEUM-PANSIOScKAPYEOUNMIEUMcPIEUP-KIYEOKcPIEUP-TIKEUTcPIEUP-SIOS-KIYEOK
    cPIEUP-SIOS-TIKEUTcPIEUP-CIEUCcPIEUP-THIEUTHcKAPYEOUNPIEUPcKAPYEOUNSSANGPIEUPcSIOS-KIYEOK
    cSIOS-NIEUNcSIOS-TIKEUTcSIOS-PIEUPcSIOS-CIEUCcPANSIOScSSANGIEUNGcYESIEUNGcYESIEUNG-SIOS
    cYESIEUNG-PANSIOScKAPYEOUNPHIEUPHcSSANGHIEUHcYEORINHIEUHcYO-YAcYO-YAEcYO-IcYU-YEOcYU-YEcYU-I
    cARAEAcARAEAE"⟩,
  ⟨0x3190, "aIDEOGRAPHIC ANNOTATION LINKING MARKcREVERSE MARKcONE MARKcTWO MARKcTHREE MARK
    cFOUR MARKcTOP MARKcMIDDLE MARKcBOTTOM MARKcFIRST MARKcSECOND MARKcTHIRD MARKcFOURTH MARK
    cHEAVEN MARKcEARTH MARKcMAN MARKaBOPOMOFO LETTER BUcZIcJIcGUcEEcENNcOOcONNcIRcANNcINNcUNNcIM
    cNGGcAINNcAUNNcAMcOMcONGcINNNbFINAL LETTER PdTdKdHbLETTER GHcLHcZYbFINAL LETTER GbLETTER GW
    cKWcOEcAHaCJK STROKE TcWGcXGcBXGcSWcHZZcHZGcHPcHZWGcSZWGcHZTcHZZPcHPWGcHZWcHZZZcNcHcScPcSPcD
    cHZcHGcSZcSWZcSTcSGcPDcPZcTNcSZZcSWGcHXWGcHZZZGcPGcQ"⟩,
  ⟨0x31f0, "aKATAKANA LETTER SMALL KUdSIdSUdTOdNUdHAdHIdHUdHEdHOdMUdRAdRIdRUdREdRO
    aPARENTHESIZED HANGUL KIYEOKcNIEUNcTIKEUTcRIEULcMIEUMcPIEUPcSIOScIEUNGcCIEUCcCHIEUCHcKHIEUKH
    cTHIEUTHcPHIEUPHcHIEUHcKIYEOK AcNIEUN AcTIKEUT AcRIEUL AcMIEUM AcPIEUP AcSIOS AcIEUNG A
    cCIEUC AcCHIEUCH AcKHIEUKH AcTHIEUTH AcPHIEUPH AcHIEUH AcCIEUC UbKOREAN CHARACTER OJEONdO HU"⟩,
  ⟨0x3220, "aPARENTHESIZED IDEOGRAPH ONEcTWOcTHREEcFOURcFIVEcSIXcSEVENcEIGHTcNINEcTENcMOONcFIRE
    cWATERcWOODcMETALcEARTHcSUNcSTOCKcHAVEcSOCIETYcNAMEcSPECIALcFINANCIALcCONGRATULATIONcLABOR
    cREPRESENTcCALLcSTUDYcSUPERVISEcENTERPRISEcRESOURCEcALLIANCEcFESTIVALcRESTcSELFcREACH
    aCIRCLED IDEOGRAPH QUESTIONcKINDERGARTENcSCHOOLcKOTObNUMBER TEN ON BLACK SQUARE
    cTWENTY ON BLACK SQUAREcTHIRTY ON BLACK SQUAREcFORTY ON BLACK SQUAREcFIFTY ON BLACK SQUARE
    cSIXTY ON BLACK SQUAREcSEVENTY ON BLACK SQUAREcEIGHTY ON BLACK SQUAREaPARTNERSHIP SIGN
    aCIRCLED NUMBER TWENTY ONEdTWOdTHREEdFOURdFIVEdSIXdSEVENdEIGHTdNINEcTHIRTYdONEdTWOdTHREE
    dFOURdFIVEbHANGUL KIYEOKcNIEUNcTIKEUTcRIEULcMIEUMcPIEUPcSIOScIEUNGcCIEUCcCHIEUCHcKHIEUKH
    cTHIEUTHcPHIEUPHcHIEUHcKIYEOK AcNIEUN AcTIKEUT AcRIEUL AcMIEUM AcPIEUP AcSIOS AcIEUNG A
    cCIEUC AcCHIEUCH AcKHIEUKH AcTHIEUTH AcPHIEUPH AcHIEUH AbKOREAN CHARACTER CHAMKOdJUEUI
    bHANGUL IEUNG UaKOREAN STANDARD SYMBOLaCIRCLED IDEOGRAPH ONEcTWOcTHREEcFOURcFIVEcSIXcSEVEN
    cEIGHTcNINEcTENcMOONcFIREcWATERcWOODcMETALcEARTHcSUNcSTOCKcHAVEcSOCIETYcNAMEcSPECIAL
    cFINANCIALcCONGRATULATIONcLABORcSECRETcMALEcFEMALEcSUITABLEcEXCELLENTcPRINTcATTENTIONcITEM
    cRESTcCOPYcCORRECTcHIGHcCENTREcLOWcLEFTcRIGHTcMEDICINEcRELIGIONcSTUDYcSUPERVISEcENTERPRISE
    cRESOURCEcALLIANCEcNIGHTbNUMBER THIRTY SIXdSEVENdEIGHTdNINEcFORTYdONEdTWOdTHREEdFOURdFIVE
    dSIXdSEVENdEIGHTdNINEcFIFTYaIDEOGRAPHIC TELEGRAPH SYMBOL FOR JANUARYeFEBRUARYeMARCHeAPRIL
    eMAYeJUNEeJULYeAUGUSTeSEPTEMBEReOCTOBEReNOVEMBEReDECEMBERaSQUARE HGbERGbEV
    aLIMITED LIABILITY SIGNaCIRCLED KATAKANA AcIcUcEcOcKAcKIcKUcKEcKOcSAcSIcSUcSEcSOcTAcTIcTUcTE
    cTOcNAcNIcNUcNEcNOcHAcHIcHUcHEcHOcMAcMIcMUcMEcMOcYAcYUcYOcRAcRIcRUcREcROcWAcWIcWEcWO
    aSQUARE ERA NAME REIWAbAPAATObARUHUAbANPEAbAARUbININGUbINTIbUONbESUKUUDObEEKAAbONSUbOOMU
    bKAIRIbKARATTObKARORIIbGARONbGANMAbGIGAbGINIIbKYURIIbGIRUDAAbKIRObKIROGURAMUbKIROMEETORU
    bKIROWATTObGURAMUbGURAMUTONbKURUZEIRObKUROONEbKEESUbKORUNAbKOOPObSAIKURUbSANTIIMUbSIRINGU
    bSENTIbSENTObDAASUbDESIbDORUbTONbNANObNOTTObHAITUbPAASENTObPAATUbBAARERUbPIASUTORUbPIKURU
    bPIKObBIRUbHUARADDObHUIITObBUSSYERUbHURANbHEKUTAARUbPESObPENIHIbHERUTUbPENSUbPEEZIbBEETA
    bPOINTObBORUTObHONbPONDObHOORUbHOONbMAIKURObMAIRUbMAHHAbMARUKUbMANSYONbMIKURONbMIRI
    bMIRIBAARUbMEGAbMEGATONbMEETORUbYAADObYAARUbYUANbRITTORUbRIRAbRUPIIbRUUBURUbREMUbRENTOGEN
    bWATTOaIDEOGRAPHIC TELEGRAPH SYMBOL FOR HOUR ZEROfONEfTWOfTHREEfFOURfFIVEfSIXfSEVENfEIGHT
    fNINEfTENfELEVENfTWELVEfTHIRTEENfFOURTEENfFIFTEENfSIXTEENfSEVENTEENfEIGHTEENfNINETEENfTWENTY
    fTWENTY-ONEfTWENTY-TWOfTWENTY-THREEfTWENTY-FOURaSQUARE HPAbDAbAUbBARbOVbPCbDMcSQUAREDcCUBED
    bIUbERA NAME HEISEIdSYOUWAdTAISYOUdMEIZIbCORPORATIONbPA AMPSbNAbMU AbMAbKAbKBbMBbGBbCALbKCAL
    bPFbNFbMU FcGbMGbKGbHZbKHZbMHZbGHZbTHZbMU LbMLbDLbKLbFMbNMbMU MbMMbCMbKMbMM SQUARED
    bCM SQUAREDbM SQUAREDbKM SQUAREDbMM CUBEDbCM CUBEDbM CUBEDbKM CUBEDbM OVER SeSQUAREDbPAbKPA
    bMPAbGPAbRADcOVER SeSQUAREDbPSbNSbMU SbMSbPVbNVbMU VbMVbKVbMV MEGAbPWbNWbMU WbMWbKWbMW MEGA
    bK OHMbM OHMbAMbBQbCCbCDbC OVER KGbCObDBbGYbHAbHPbINbKKbKM CAPITALbKTbLMbLNbLOGbLXbMB SMALL
    bMILbMOLbPHbPMbPPMbPRbSRbSVbWBbV OVER MbA OVER MaIDEOGRAPHIC TELEGRAPH SYMBOL FOR DAY ONE
    fTWOfTHREEfFOURfFIVEfSIXfSEVENfEIGHTfNINEfTENfELEVENfTWELVEfTHIRTEENfFOURTEENfFIFTEEN
    fSIXTEENfSEVENTEENfEIGHTEENfNINETEENfTWENTYfTWENTY-ONEfTWENTY-TWOfTWENTY-THREEfTWENTY-FOUR
    fTWENTY-FIVEfTWENTY-SIXfTWENTY-SEVENfTWENTY-EIGHTfTWENTY-NINEfTHIRTYfTHIRTY-ONEaSQUARE GAL"⟩,
  ⟨0x4dc0, "aHEXAGRAM FOR THE CREATIVE HEAVENdRECEPTIVE EARTHcDIFFICULTY AT THE BEGINNING
    cYOUTHFUL FOLLYcWAITINGcCONFLICTcTHE ARMYcHOLDING TOGETHERcSMALL TAMINGcTREADINGcPEACE
    cSTANDSTILLcFELLOWSHIPcGREAT POSSESSIONcMODESTYcENTHUSIASMcFOLLOWINGcWORK ON THE DECAYED
    cAPPROACHcCONTEMPLATIONcBITING THROUGHcGRACEcSPLITTING APARTcRETURNcINNOCENCEcGREAT TAMING
    cMOUTH CORNERScGREAT PREPONDERANCEcTHE ABYSMAL WATERdCLINGING FIREcINFLUENCEcDURATION
    cRETREATcGREAT POWERcPROGRESScDARKENING OF THE LIGHTcTHE FAMILYcOPPOSITIONcOBSTRUCTION
    cDELIVERANCEcDECREASEcINCREASEcBREAKTHROUGHcCOMING TO MEETcGATHERING TOGETHERcPUSHING UPWARD
    cOPPRESSIONcTHE WELLcREVOLUTIONcTHE CAULDRONdAROUSING THUNDERdKEEPING STILL MOUNTAIN
    cDEVELOPMENTcTHE MARRYING MAIDENcABUNDANCEcTHE WANDERERdGENTLE WINDdJOYOUS LAKEcDISPERSION
    cLIMITATIONcINNER TRUTHcSMALL PREPONDERANCEcAFTER COMPLETIONcBEFORE COMPLETION"⟩,
  ⟨0xa000, "aYI SYLLABLE ITcIXcIcIPcIETcIEXcIEcIEPcATcAXcAcAPcUOXcUOcUOPcOTcOXcOcOPcEXcEcWUcBIT
    cBIXcBIcBIPcBIETcBIEXcBIEcBIEPcBATcBAXcBAcBAPcBUOXcBUOcBUOPcBOTcBOXcBOcBOPcBEXcBEcBEPcBUT
    cBUXcBUcBUPcBURXcBURcBYTcBYXcBYcBYPcBYRXcBYRcPITcPIXcPIcPIPcPIEXcPIEcPIEPcPATcPAXcPAcPAP
    cPUOXcPUOcPUOPcPOTcPOXcPOcPOPcPUTcPUXcPUcPUPcPURXcPURcPYTcPYXcPYcPYPcPYRXcPYRcBBITcBBIXcBBI
    cBBIPcBBIETcBBIEXcBBIEcBBIEPcBBATcBBAXcBBAcBBAPcBBUOXcBBUOcBBUOPcBBOTcBBOXcBBOcBBOPcBBEXcBBE
    cBBEPcBBUTcBBUXcBBUcBBUPcBBURXcBBURcBBYTcBBYXcBBYcBBYPcNBITcNBIXcNBIcNBIPcNBIEXcNBIEcNBIEP
    cNBATcNBAXcNBAcNBAPcNBOTcNBOXcNBOcNBOPcNBUTcNBUXcNBUcNBUPcNBURXcNBURcNBYTcNBYXcNBYcNBYP
    cNBYRXcNBYRcHMITcHMIXcHMIcHMIPcHMIEXcHMIEcHMIEPcHMATcHMAXcHMAcHMAPcHMUOXcHMUOcHMUOPcHMOT
    cHMOXcHMOcHMOPcHMUTcHMUXcHMUcHMUPcHMURXcHMURcHMYXcHMYcHMYPcHMYRXcHMYRcMITcMIXcMIcMIPcMIEX
    cMIEcMIEPcMATcMAXcMAcMAPcMUOTcMUOXcMUOcMUOPcMOTcMOXcMOcMOPcMEXcMEcMUTcMUXcMUcMUPcMURXcMUR
    cMYTcMYXcMYcMYPcFITcFIXcFIcFIPcFATcFAXcFAcFAPcFOXcFOcFOPcFUTcFUXcFUcFUPcFURXcFURcFYTcFYXcFY
    cFYPcVITcVIXcVIcVIPcVIETcVIEXcVIEcVIEPcVATcVAXcVAcVAPcVOTcVOXcVOcVOPcVEXcVEPcVUTcVUXcVUcVUP
    cVURXcVURcVYTcVYXcVYcVYPcVYRXcVYRcDITcDIXcDIcDIPcDIEXcDIEcDIEPcDATcDAXcDAcDAPcDUOXcDUOcDOT
    cDOXcDOcDOPcDEXcDEcDEPcDUTcDUXcDUcDUPcDURXcDURcTITcTIXcTIcTIPcTIEXcTIEcTIEPcTATcTAXcTAcTAP
    cTUOTcTUOXcTUOcTUOPcTOTcTOXcTOcTOPcTEXcTEcTEPcTUTcTUXcTUcTUPcTURXcTURcDDITcDDIXcDDIcDDIP
    cDDIEXcDDIEcDDIEPcDDATcDDAXcDDAcDDAPcDDUOXcDDUOcDDUOPcDDOTcDDOXcDDOcDDOPcDDEXcDDEcDDEPcDDUT
    cDDUXcDDUcDDUPcDDURXcDDURcNDITcNDIXcNDIcNDIPcNDIEXcNDIEcNDATcNDAXcNDAcNDAPcNDOTcNDOXcNDO
    cNDOPcNDEXcNDEcNDEPcNDUTcNDUXcNDUcNDUPcNDURXcNDURcHNITcHNIXcHNIcHNIPcHNIETcHNIEXcHNIEcHNIEP
    cHNATcHNAXcHNAcHNAPcHNUOXcHNUOcHNOTcHNOXcHNOPcHNEXcHNEcHNEPcHNUTcNITcNIXcNIcNIPcNIEXcNIE
    cNIEPcNAXcNAcNAPcNUOXcNUOcNUOPcNOTcNOXcNOcNOPcNEXcNEcNEPcNUTcNUXcNUcNUPcNURXcNURcHLITcHLIX
    cHLIcHLIPcHLIEXcHLIEcHLIEPcHLATcHLAXcHLAcHLAPcHLUOXcHLUOcHLUOPcHLOXcHLOcHLOPcHLEXcHLEcHLEP
    cHLUTcHLUXcHLUcHLUPcHLURXcHLURcHLYTcHLYXcHLYcHLYPcHLYRXcHLYRcLITcLIXcLIcLIPcLIETcLIEXcLIE
    cLIEPcLATcLAXcLAcLAPcLUOTcLUOXcLUOcLUOPcLOTcLOXcLOcLOPcLEXcLEcLEPcLUTcLUXcLUcLUPcLURXcLUR
    cLYTcLYXcLYcLYPcLYRXcLYRcGITcGIXcGIcGIPcGIETcGIEXcGIEcGIEPcGATcGAXcGAcGAPcGUOTcGUOXcGUOcGUOP
    cGOTcGOXcGOcGOPcGETcGEXcGEcGEPcGUTcGUXcGUcGUPcGURXcGURcKITcKIXcKIcKIPcKIEXcKIEcKIEPcKATcKAX
    cKAcKAPcKUOXcKUOcKUOPcKOTcKOXcKOcKOPcKETcKEXcKEcKEPcKUTcKUXcKUcKUPcKURXcKURcGGITcGGIXcGGI
    cGGIEXcGGIEcGGIEPcGGATcGGAXcGGAcGGAPcGGUOTcGGUOXcGGUOcGGUOPcGGOTcGGOXcGGOcGGOPcGGETcGGEXcGGE
    cGGEPcGGUTcGGUXcGGUcGGUPcGGURXcGGURcMGIEXcMGIEcMGATcMGAXcMGAcMGAPcMGUOXcMGUOcMGUOPcMGOTcMGOX
    cMGOcMGOPcMGEXcMGEcMGEPcMGUTcMGUXcMGUcMGUPcMGURXcMGURcHXITcHXIXcHXIcHXIPcHXIETcHXIEXcHXIE
    cHXIEPcHXATcHXAXcHXAcHXAPcHXUOTcHXUOXcHXUOcHXUOPcHXOTcHXOXcHXOcHXOPcHXEXcHXEcHXEPcNGIEXcNGIE
    cNGIEPcNGATcNGAXcNGAcNGAPcNGUOTcNGUOXcNGUOcNGOTcNGOXcNGOcNGOPcNGEXcNGEcNGEPcHITcHIEXcHIEcHAT
    cHAXcHAcHAPcHUOTcHUOXcHUOcHUOPcHOTcHOXcHOcHOPcHEXcHEcHEPcWATcWAXcWAcWAPcWUOXcWUOcWUOPcWOXcWO
    cWOPcWEXcWEcWEPcZITcZIXcZIcZIPcZIEXcZIEcZIEPcZATcZAXcZAcZAPcZUOXcZUOcZUOPcZOTcZOXcZOcZOPcZEX
    cZEcZEPcZUTcZUXcZUcZUPcZURXcZURcZYTcZYXcZYcZYPcZYRXcZYRcCITcCIXcCIcCIPcCIETcCIEXcCIEcCIEP
    cCATcCAXcCAcCAPcCUOXcCUOcCUOPcCOTcCOXcCOcCOPcCEXcCEcCEPcCUTcCUXcCUcCUPcCURXcCURcCYTcCYXcCY
    cCYPcCYRXcCYRcZZITcZZIXcZZIcZZIPcZZIETcZZIEXcZZIEcZZIEPcZZATcZZAXcZZAcZZAPcZZOXcZZOcZZOP
    cZZEXcZZEcZZEPcZZUXcZZUcZZUPcZZURXcZZURcZZYTcZZYXcZZYcZZYPcZZYRXcZZYRcNZITcNZIXcNZIcNZIP
    cNZIEXcNZIEcNZIEPcNZATcNZAXcNZAcNZAPcNZUOXcNZUOcNZOXcNZOPcNZEXcNZEcNZUXcNZUcNZUPcNZURXcNZUR
    cNZYTcNZYXcNZYcNZYPcNZYRXcNZYRcSITcSIXcSIcSIPcSIEXcSIEcSIEPcSATcSAXcSAcSAPcSUOXcSUOcSUOPcSOT
    cSOXcSOcSOPcSEXcSEcSEPcSUTcSUXcSUcSUPcSURXcSURcSYTcSYXcSYcSYPcSYRXcSYRcSSITcSSIXcSSIcSSIP
    cSSIEXcSSIEcSSIEPcSSATcSSAXcSSAcSSAPcSSOTcSSOXcSSOcSSOPcSSEXcSSEcSSEPcSSUTcSSUXcSSUcSSUP
    cSSYTcSSYXcSSYcSSYPcSSYRXcSSYRcZHATcZHAXcZHAcZHAPcZHUOXcZHUOcZHUOPcZHOTcZHOXcZHOcZHOPcZHET
    cZHEXcZHEcZHEPcZHUTcZHUXcZHUcZHUPcZHURXcZHURcZHYTcZHYXcZHYcZHYPcZHYRXcZHYRcCHATcCHAXcCHA
    cCHAPcCHUOTcCHUOXcCHUOcCHUOPcCHOTcCHOXcCHOcCHOPcCHETcCHEXcCHEcCHEPcCHUXcCHUcCHUPcCHURXcCHUR
    cCHYTcCHYXcCHYcCHYPcCHYRXcCHYRcRRAXcRRAcRRUOXcRRUOcRROTcRROXcRROcRROPcRRETcRREXcRREcRREP
    cRRUTcRRUXcRRUcRRUPcRRURXcRRURcRRYTcRRYXcRRYcRRYPcRRYRXcRRYRcNRATcNRAXcNRAcNRAPcNROXcNRO
    cNROPcNRETcNREXcNREcNREPcNRUTcNRUXcNRUcNRUPcNRURXcNRURcNRYTcNRYXcNRYcNRYPcNRYRXcNRYRcSHAT
    cSHAXcSHAcSHAPcSHUOXcSHUOcSHUOPcSHOTcSHOXcSHOcSHOPcSHETcSHEXcSHEcSHEPcSHUTcSHUXcSHUcSHUP
    cSHURXcSHURcSHYTcSHYXcSHYcSHYPcSHYRXcSHYRcRATcRAXcRAcRAPcRUOXcRUOcRUOPcROTcROXcROcROPcREXcRE
    cREPcRUTcRUXcRUcRUPcRURXcRURcRYTcRYXcRYcRYPcRYRXcRYRcJITcJIXcJIcJIPcJIETcJIEXcJIEcJIEPcJUOT
    cJUOXcJUOcJUOPcJOTcJOXcJOcJOPcJUTcJUXcJUcJUPcJURXcJURcJYTcJYXcJYcJYPcJYRXcJYRcQITcQIXcQIcQIP
    cQIETcQIEXcQIEcQIEPcQUOTcQUOXcQUOcQUOPcQOTcQOXcQOcQOPcQUTcQUXcQUcQUPcQURXcQURcQYTcQYXcQYcQYP
    cQYRXcQYRcJJITcJJIXcJJIcJJIPcJJIETcJJIEXcJJIEcJJIEPcJJUOXcJJUOcJJUOPcJJOTcJJOXcJJOcJJOPcJJUT
    cJJUXcJJUcJJUPcJJURXcJJURcJJYTcJJYXcJJYcJJYPcNJITcNJIXcNJIcNJIPcNJIETcNJIEXcNJIEcNJIEPcNJUOX
    cNJUOcNJOTcNJOXcNJOcNJOPcNJUXcNJUcNJUPcNJURXcNJURcNJYTcNJYXcNJYcNJYPcNJYRXcNJYRcNYITcNYIX
    cNYIcNYIPcNYIETcNYIEXcNYIEcNYIEPcNYUOXcNYUOcNYUOPcNYOTcNYOXcNYOcNYOPcNYUTcNYUXcNYUcNYUPcXIT
    cXIXcXIcXIPcXIETcXIEXcXIEcXIEPcXUOXcXUOcXOTcXOXcXOcXOPcXYTcXYXcXYcXYPcXYRXcXYRcYITcYIXcYI
    cYIPcYIETcYIEXcYIEcYIEPcYUOTcYUOXcYUOcYUOPcYOTcYOXcYOcYOPcYUTcYUXcYUcYUPcYURXcYURcYYTcYYXcYY
    cYYPcYYRXcYYR"⟩,
  ⟨0xa490, "aYI RADICAL QOTcLIcKITcNYIPcCYPcSSIcGGOPcGEPcMIcHXITcLYRcBBUTcMOPcYOcPUTcHXUOcTATcGA
    cZUPcCYTcDDURcBURcGGUOcNYOPcTUcOPcJJUTcZOTcPYTcHMOcYITcVURcSHYcVEPcZAcJOcNZUPcJJYcGOTcJJIE
    cWOcDUcSHURcLIEcCYcCUOPcCIPcHXOPcSHATcZURcSHOPcCHEcZZIETcNBIEcKE"⟩,
  ⟨0xa4d0, "aLISU LETTER BAcPAcPHAcDAcTAcTHAcGAcKAcKHAcJAcCAcCHAcDZAcTSAcTSHAcMAcNAcLAcSAcZHAcZA
    cNGAcHAcXAcHHAcFAcWAcSHAcYAcGHAcAcAEcEcEUcIcOcUcUEcUHcOEcTONE MYA TIdNA POdMYA CYAeBOeNAeJEU
    bPUNCTUATION COMMAcFULL STOPaVAI SYLLABLE EEcEENcHEEcWEEcWEENcPEEcBHEEcBEEcMBEEcKPEEcMGBEE
    cGBEEcFEEcVEEcTEEcTHEEcDHEEcDHHEEcLEEcREEcDEEcNDEEcSEEcSHEEcZEEcZHEEcCEEcJEEcNJEEcYEEcKEE
    cNGGEEcGEEcMEEcNEEcNYEEcIcINcHIcHINcWIcWINcPIcBHIcBIcMBIcKPIcMGBIcGBIcFIcVIcTIcTHIcDHIcDHHI
    cLIcRIcDIcNDIcSIcSHIcZIcZHIcCIcJIcNJIcYIcKIcNGGIcGIcMIcNIcNYIcAcANcNGANcHAcHANcWAcWANcPAcBHA
    cBAcMBAcKPAcKPANcMGBAcGBAcFAcVAcTAcTHAcDHAcDHHAcLAcRAcDAcNDAcSAcSHAcZAcZHAcCAcJAcNJAcYAcKA
    cKANcNGGAcGAcMAcNAcNYAcOOcOONcHOOcWOOcWOONcPOOcBHOOcBOOcMBOOcKPOOcMGBOOcGBOOcFOOcVOOcTOO
    cTHOOcDHOOcDHHOOcLOOcROOcDOOcNDOOcSOOcSHOOcZOOcZHOOcCOOcJOOcNJOOcYOOcKOOcNGGOOcGOOcMOOcNOO
    cNYOOcUcUNcHUcHUNcWUcWUNcPUcBHUcBUcMBUcKPUcMGBUcGBUcFUcVUcTUcTHUcDHUcDHHUcLUcRUcDUcNDUcSU
    cSHUcZUcZHUcCUcJUcNJUcYUcKUcNGGUcGUcMUcNUcNYUcOcONcNGONcHOcHONcWOcWONcPOcBHOcBOcMBOcKPOcMGBO
    cGBOcGBONcFOcVOcTOcTHOcDHOcDHHOcLOcROcDOcNDOcSOcSHOcZOcZHOcCOcJOcNJOcYOcKOcNGGOcGOcMOcNOcNYO
    cEcENcNGENcHEcHENcWEcWENcPEcBHEcBEcMBEcKPEcKPENcMGBEcGBEcGBENcFEcVEcTEcTHEcDHEcDHHEcLEcREcDE
    cNDEcSEcSHEcZEcZHEcCEcJEcNJEcYEcKEcNGGEcNGGENcGEcGENcMEcNEcNYEcNGcLENGTHENERbCOMMAbFULL STOP
    bQUESTION MARKbSYLLABLE NDOLE FAdKAdSOObSYMBOL FEENGcKEENGcTINGcNIIcBANGcFAAcTAAcDANGcDOONG
    cKUNGcTONGcDO-OcJONGbDIGIT ZEROcONEcTWOcTHREEcFOURcFIVEcSIXcSEVENcEIGHTcNINE
    bSYLLABLE NDOLE MAdDO"⟩,
  ⟨0xa640, "aCYRILLIC CAPITAL LETTER ZEMLYAbSMALL LETTER ZEMLYAbCAPITAL LETTER DZELO
    bSMALL LETTER DZELObCAPITAL LETTER REVERSED DZEbSMALL LETTER REVERSED DZE
    bCAPITAL LETTER IOTAbSMALL LETTER IOTAbCAPITAL LETTER DJERVbSMALL LETTER DJERV
    bCAPITAL LETTER MONOGRAPH UKbSMALL LETTER MONOGRAPH UKbCAPITAL LETTER BROAD OMEGA
    bSMALL LETTER BROAD OMEGAbCAPITAL LETTER NEUTRAL YERbSMALL LETTER NEUTRAL YER
    bCAPITAL LETTER YERU WITH BACK YERbSMALL LETTER YERU WITH BACK YER
    bCAPITAL LETTER IOTIFIED YATbSMALL LETTER IOTIFIED YATbCAPITAL LETTER REVERSED YU
    bSMALL LETTER REVERSED YUbCAPITAL LETTER IOTIFIED AbSMALL LETTER IOTIFIED A
    bCAPITAL LETTER CLOSED LITTLE YUSbSMALL LETTER CLOSED LITTLE YUSbCAPITAL LETTER BLENDED YUS
    bSMALL LETTER BLENDED YUSbCAPITAL LETTER IOTIFIED CLOSED LITTLE YUS
    bSMALL LETTER IOTIFIED CLOSED LITTLE YUSbCAPITAL LETTER YNbSMALL LETTER YN
    bCAPITAL LETTER REVERSED TSEbSMALL LETTER REVERSED TSEbCAPITAL LETTER SOFT DE
    bSMALL LETTER SOFT DEbCAPITAL LETTER SOFT ELbSMALL LETTER SOFT ELbCAPITAL LETTER SOFT EM
    bSMALL LETTER SOFT EMbCAPITAL LETTER MONOCULAR ObSMALL LETTER MONOCULAR O
    bCAPITAL LETTER BINOCULAR ObSMALL LETTER BINOCULAR ObCAPITAL LETTER DOUBLE MONOCULAR O
    bSMALL LETTER DOUBLE MONOCULAR ObLETTER MULTIOCULAR OaCOMBINING CYRILLIC VZMET
    cTEN MILLIONS SIGNcHUNDRED MILLIONS SIGNcTHOUSAND MILLIONS SIGNaSLAVONIC ASTERISK
    aCOMBINING CYRILLIC LETTER UKRAINIAN IEdIdYIdUdHARD SIGNdYERUdSOFT SIGNdOMEGAcKAVYKAcPAYEROK
    aCYRILLIC KAVYKAbPAYEROKbCAPITAL LETTER DWEbSMALL LETTER DWEbCAPITAL LETTER DZWE
    bSMALL LETTER DZWEbCAPITAL LETTER ZHWEbSMALL LETTER ZHWEbCAPITAL LETTER CCHE
    bSMALL LETTER CCHEbCAPITAL LETTER DZZEbSMALL LETTER DZZEbCAPITAL LETTER TE WITH MIDDLE HOOK
    bSMALL LETTER TE WITH MIDDLE HOOKbCAPITAL LETTER TWEbSMALL LETTER TWEbCAPITAL LETTER TSWE
    bSMALL LETTER TSWEbCAPITAL LETTER TSSEbSMALL LETTER TSSEbCAPITAL LETTER TCHE
    bSMALL LETTER TCHEbCAPITAL LETTER HWEbSMALL LETTER HWEbCAPITAL LETTER SHWEbSMALL LETTER SHWE
    bCAPITAL LETTER DOUBLE ObSMALL LETTER DOUBLE ObCAPITAL LETTER CROSSED O
    bSMALL LETTER CROSSED OaMODIFIER LETTER CYRILLIC HARD SIGNdSOFT SIGN
    aCOMBINING CYRILLIC LETTER EFdIOTIFIED EaBAMUM LETTER AcKAcUcKUcEEcREEcTAEcOcNYIcIcLAcPAcRII
    cRIEEcLEEEEcMEEEEcTAAcNDAAcNJAEMcMcSUUcMUcSHIIcSIcSHEUXcSEUXcKYEEcKETcNUAEcNUcNJUAEcYOQcSHU
    cYUQcYAcNSHAcKEUXcPEUXcNJEEcNTEEcPUEcWUEcPEEcFEEcRUcLUcMIcNIcREUXcRAEcKENcNGKWAENcNGGAcNGA
    cSHOcPUAEcFUcFOMcWAcNAcLIcPIcLOQcKOcMBENcRENcMENcMAcTIcKIcMOcMBAAcTETcKPAcTENcNTUUcSAMBA
    cFAAMAEcKOVUUcKOGHOMbCOMBINING MARK KOQNDONdTUKWENTISbNJAEMLIbFULL STOPbCOLONbCOMMA
    bSEMICOLONbQUESTION MARK"⟩,
  ⟨0xa700, "aMODIFIER LETTER CHINESE TONE YIN PINGeYANG PINGeYIN SHANGeYANG SHANGeYIN QUeYANG QU
    eYIN RUeYANG RUcEXTRA-HIGH DOTTED TONE BARcHIGH DOTTED TONE BARcMID DOTTED TONE BAR
    cLOW DOTTED TONE BARcEXTRA-LOW DOTTED TONE BARcEXTRA-HIGH DOTTED LEFT-STEM TONE BAR
    cHIGH DOTTED LEFT-STEM TONE BARcMID DOTTED LEFT-STEM TONE BARcLOW DOTTED LEFT-STEM TONE BAR
    cEXTRA-LOW DOTTED LEFT-STEM TONE BARcEXTRA-HIGH LEFT-STEM TONE BARcHIGH LEFT-STEM TONE BAR
    cMID LEFT-STEM TONE BARcLOW LEFT-STEM TONE BARcEXTRA-LOW LEFT-STEM TONE BARcDOT VERTICAL BAR
    dSLASHdHORIZONTAL BARcLOWER RIGHT CORNER ANGLEcRAISED UP ARROWdDOWN ARROWdEXCLAMATION MARK
    dINVERTED EXCLAMATION MARKcLOW INVERTED EXCLAMATION MARKcSTRESS AND HIGH TONEeLOW TONE
    aLATIN CAPITAL LETTER EGYPTOLOGICAL ALEFbSMALL LETTER EGYPTOLOGICAL ALEF
    bCAPITAL LETTER EGYPTOLOGICAL AINbSMALL LETTER EGYPTOLOGICAL AINbCAPITAL LETTER HENG
    bSMALL LETTER HENGbCAPITAL LETTER TZbSMALL LETTER TZbCAPITAL LETTER TRESILLO
    bSMALL LETTER TRESILLObCAPITAL LETTER CUATRILLObSMALL LETTER CUATRILLO
    bCAPITAL LETTER CUATRILLO WITH COMMAbSMALL LETTER CUATRILLO WITH COMMA
    bLETTER SMALL CAPITAL FeSbCAPITAL LETTER AAbSMALL LETTER AAbCAPITAL LETTER AO
    bSMALL LETTER AObCAPITAL LETTER AUbSMALL LETTER AUbCAPITAL LETTER AVbSMALL LETTER AV
    bCAPITAL LETTER AV WITH HORIZONTAL BARbSMALL LETTER AV WITH HORIZONTAL BARbCAPITAL LETTER AY
    bSMALL LETTER AYbCAPITAL LETTER REVERSED C WITH DOTbSMALL LETTER REVERSED C WITH DOT
    bCAPITAL LETTER K WITH STROKEbSMALL LETTER K WITH STROKE
    bCAPITAL LETTER K WITH DIAGONAL STROKEbSMALL LETTER K WITH DIAGONAL STROKE
    bCAPITAL LETTER K WITH STROKE AND DIAGONAL STROKE
    bSMALL LETTER K WITH STROKE AND DIAGONAL STROKEbCAPITAL LETTER BROKEN L
    bSMALL LETTER BROKEN LbCAPITAL LETTER L WITH HIGH STROKEbSMALL LETTER L WITH HIGH STROKE
    bCAPITAL LETTER O WITH LONG STROKE OVERLAYbSMALL LETTER O WITH LONG STROKE OVERLAY
    bCAPITAL LETTER O WITH LOOPbSMALL LETTER O WITH LOOPbCAPITAL LETTER OObSMALL LETTER OO
    bCAPITAL LETTER P WITH STROKE THROUGH DESCENDERbSMALL LETTER P WITH STROKE THROUGH DESCENDER
    bCAPITAL LETTER P WITH FLOURISHbSMALL LETTER P WITH FLOURISH
    bCAPITAL LETTER P WITH SQUIRREL TAILbSMALL LETTER P WITH SQUIRREL TAIL
    bCAPITAL LETTER Q WITH STROKE THROUGH DESCENDERbSMALL LETTER Q WITH STROKE THROUGH DESCENDER
    bCAPITAL LETTER Q WITH DIAGONAL STROKEbSMALL LETTER Q WITH DIAGONAL STROKE
    bCAPITAL LETTER R ROTUNDAbSMALL LETTER R ROTUNDAbCAPITAL LETTER RUM ROTUNDA
    bSMALL LETTER RUM ROTUNDAbCAPITAL LETTER V WITH DIAGONAL STROKE
    bSMALL LETTER V WITH DIAGONAL STROKEbCAPITAL LETTER VYbSMALL LETTER VY
    bCAPITAL LETTER VISIGOTHIC ZbSMALL LETTER VISIGOTHIC ZbCAPITAL LETTER THORN WITH STROKE
    bSMALL LETTER THORN WITH STROKEbCAPITAL LETTER THORN WITH STROKE THROUGH DESCENDER
    bSMALL LETTER THORN WITH STROKE THROUGH DESCENDERbCAPITAL LETTER VENDbSMALL LETTER VEND
    bCAPITAL LETTER ETbSMALL LETTER ETbCAPITAL LETTER ISbSMALL LETTER ISbCAPITAL LETTER CON
    bSMALL LETTER CONaMODIFIER LETTER USaLATIN SMALL LETTER DUMdLUMdMUMdNUMdRUM
    bLETTER SMALL CAPITAL RUMbSMALL LETTER TUMdUMbCAPITAL LETTER INSULAR D
    bSMALL LETTER INSULAR DbCAPITAL LETTER INSULAR FbSMALL LETTER INSULAR F
    bCAPITAL LETTER INSULAR GdTURNED INSULAR GbSMALL LETTER TURNED INSULAR G
    bCAPITAL LETTER TURNED LbSMALL LETTER TURNED LbCAPITAL LETTER INSULAR R
    bSMALL LETTER INSULAR RbCAPITAL LETTER INSULAR SbSMALL LETTER INSULAR S
    bCAPITAL LETTER INSULAR TbSMALL LETTER INSULAR TaMODIFIER LETTER LOW CIRCUMFLEX ACCENTcCOLON
    cSHORT EQUALS SIGNaLATIN CAPITAL LETTER SALTILLObSMALL LETTER SALTILLO
    bCAPITAL LETTER TURNED HbSMALL LETTER L WITH RETROFLEX HOOK AND BELTbLETTER SINOLOGICAL DOT
    bCAPITAL LETTER N WITH DESCENDERbSMALL LETTER N WITH DESCENDERbCAPITAL LETTER C WITH BAR
    bSMALL LETTER C WITH BARfPALATAL HOOKdH WITH PALATAL HOOKbCAPITAL LETTER B WITH FLOURISH
    bSMALL LETTER B WITH FLOURISHbCAPITAL LETTER F WITH STROKEbSMALL LETTER F WITH STROKE
    bCAPITAL LETTER VOLAPUK AEbSMALL LETTER VOLAPUK AEbCAPITAL LETTER VOLAPUK OE
    bSMALL LETTER VOLAPUK OEbCAPITAL LETTER VOLAPUK UEbSMALL LETTER VOLAPUK UE
    bCAPITAL LETTER G WITH OBLIQUE STROKEbSMALL LETTER G WITH OBLIQUE STROKE
    bCAPITAL LETTER K WITH OBLIQUE STROKEbSMALL LETTER K WITH OBLIQUE STROKE
    bCAPITAL LETTER N WITH OBLIQUE STROKEbSMALL LETTER N WITH OBLIQUE STROKE
    bCAPITAL LETTER R WITH OBLIQUE STROKEbSMALL LETTER R WITH OBLIQUE STROKE
    bCAPITAL LETTER S WITH OBLIQUE STROKEbSMALL LETTER S WITH OBLIQUE STROKE
    bCAPITAL LETTER H WITH HOOKdREVERSED OPEN EdSCRIPT GdL WITH BELTdSMALL CAPITAL I
    bLETTER SMALL CAPITAL QbCAPITAL LETTER TURNED KeTdJ WITH CROSSED-TAILdCHIdBETA
    bSMALL LETTER BETAbCAPITAL LETTER OMEGAbSMALL LETTER OMEGAbCAPITAL LETTER U WITH STROKE
    bSMALL LETTER U WITH STROKEbCAPITAL LETTER GLOTTAL AbSMALL LETTER GLOTTAL A
    bCAPITAL LETTER GLOTTAL IbSMALL LETTER GLOTTAL IbCAPITAL LETTER GLOTTAL U
    bSMALL LETTER GLOTTAL UbCAPITAL LETTER OLD POLISH ObSMALL LETTER OLD POLISH O
    bCAPITAL LETTER ANGLICANA WbSMALL LETTER ANGLICANA WbCAPITAL LETTER C WITH PALATAL HOOK
    dS WITH HOOKdZ WITH PALATAL HOOKdD WITH SHORT STROKE OVERLAY
    bSMALL LETTER D WITH SHORT STROKE OVERLAYbCAPITAL LETTER S WITH SHORT STROKE OVERLAY
    bSMALL LETTER S WITH SHORT STROKE OVERLAY"⟩,
  ⟨0xa7d0, "aLATIN CAPITAL LETTER CLOSED INSULAR GbSMALL LETTER CLOSED INSULAR G"⟩,
  ⟨0xa7d3, "aLATIN SMALL LETTER DOUBLE THORN"⟩,
  ⟨0xa7d5, "aLATIN SMALL LETTER DOUBLE WYNNbCAPITAL LETTER MIDDLE SCOTS S
    bSMALL LETTER MIDDLE SCOTS SbCAPITAL LETTER SIGMOID SbSMALL LETTER SIGMOID S"⟩,
  ⟨0xa7f2, "aMODIFIER LETTER CAPITAL CdFdQaLATIN CAPITAL LETTER REVERSED HALF H
    bSMALL LETTER REVERSED HALF HbEPIGRAPHIC LETTER SIDEWAYS I
    aMODIFIER LETTER CAPITAL H WITH STROKEcSMALL LIGATURE OEaLATIN LETTER SMALL CAPITAL TURNED M
    bEPIGRAPHIC LETTER REVERSED FePdINVERTED MdI LONGAdARCHAIC MaSYLOTI NAGRI LETTER AdI
    cSIGN DVISVARAcLETTER UdEdOcSIGN HASANTAcLETTER KOdKHOdGOdGHOcSIGN ANUSVARAcLETTER COdCHOdJO
    dJHOdTTOdTTHOdDDOdDDHOdTOdTHOdDOdDHOdNOdPOdPHOdBOdBHOdMOdROdLOdRROdSOdHOcVOWEL SIGN AeIeUeE
    eOOcPOETRY MARK-1dMARK-2dMARK-3dMARK-4cSIGN ALTERNATE HASANTA"⟩,
  ⟨0xa830, "aNORTH INDIC FRACTION ONE QUARTEReHALFdTHREE QUARTERSdONE SIXTEENTHeEIGHTH
    dTHREE SIXTEENTHScQUARTER MARKcPLACEHOLDER MARKcRUPEE MARKcQUANTITY MARK"⟩,
  ⟨0xa840, "aPHAGS-PA LETTER KAcKHAcGAcNGAcCAcCHAcJAcNYAcTAcTHAcDAcNAcPAcPHAcBAcMAcTSAcTSHAcDZA
    cWAcZHAcZAcSMALL AcYAcRAcLAcSHAcSAcHAcAcIcUcEcOcQAcXAcFAcGGAcEEbSUBJOINED LETTER WAdYA
    bLETTER TTAcTTHAcDDAcNNAcALTERNATE YAcVOICELESS SHAcVOICED HAcASPIRATED FA
    bSUBJOINED LETTER RAbSUPERFIXED LETTER RAbLETTER CANDRABINDUbSINGLE HEAD MARK
    bDOUBLE HEAD MARKbMARK SHADcDOUBLE SHAD"⟩,
  ⟨0xa880, "aSAURASHTRA SIGN ANUSVARAcVISARGAbLETTER AcAAcIcIIcUcUUcVOCALIC RdRRdLdLLcEcEEcAIcO
    cOOcAUcKAcKHAcGAcGHAcNGAcCAcCHAcJAcJHAcNYAcTTAcTTHAcDDAcDDHAcNNAcTAcTHAcDAcDHAcNAcPAcPHAcBA
    cBHAcMAcYAcRAcLAcVAcSHAcSSAcSAcHAcLLAbCONSONANT SIGN HAARUbVOWEL SIGN AAdIdIIdUdUUdVOCALIC R
    eRReLeLLdEdEEdAIdOdOOdAUbSIGN VIRAMAcCANDRABINDU"⟩,
  ⟨0xa8ce, "aSAURASHTRA DANDAbDOUBLE DANDAbDIGIT ZEROcONEcTWOcTHREEcFOURcFIVEcSIXcSEVENcEIGHT
    cNINE"⟩,
  ⟨0xa8e0, "aCOMBINING DEVANAGARI DIGIT ZEROdONEdTWOdTHREEdFOURdFIVEdSIXdSEVENdEIGHTdNINE
    cLETTER AdUdKAdNAdPAdRAdVIcSIGN AVAGRAHAaDEVANAGARI SIGN SPACING CANDRABINDU
    cCANDRABINDU VIRAMAcDOUBLE CANDRABINDU VIRAMAcCANDRABINDU TWOdTHREEdAVAGRAHAcPUSHPIKA
    bGAP FILLERbCARETbHEADSTROKEbSIGN SIDDHAMbJAIN OMbLETTER AYbVOWEL SIGN AY
    aKAYAH LI DIGIT ZEROdONEdTWOdTHREEdFOURdFIVEdSIXdSEVENdEIGHTdNINEcLETTER KAdKHAdGAdNGAdSA
    dSHAdZAdNYAdTAdHTAdNAdPAdPHAdMAdDAdBAdRAdYAdLAdWAdTHAdHAdVAdCAdAdOEdIdOOcVOWEL UEdEdUdEEdO
    cTONE PLOPHUdCALYAePLOPHUcSIGN CWIdSHYAaREJANG LETTER KAcGAcNGAcTAcDAcNAcPAcBAcMAcCAcJAcNYA
    cSAcRAcLAcYAcWAcHAcMBAcNGGAcNDAcNYJAcAbVOWEL SIGN IdUdEdAIdOdAUdEUdEAbCONSONANT SIGN NGdNdR
    dHbVIRAMA"⟩,
  ⟨0xa95f, "aREJANG SECTION MARKaHANGUL CHOSEONG TIKEUT-MIEUMcTIKEUT-PIEUPcTIKEUT-SIOS
    cTIKEUT-CIEUCcRIEUL-KIYEOKcRIEUL-SSANGKIYEOKcRIEUL-TIKEUTcRIEUL-SSANGTIKEUTcRIEUL-MIEUM
    cRIEUL-PIEUPcRIEUL-SSANGPIEUPcRIEUL-KAPYEOUNPIEUPcRIEUL-SIOScRIEUL-CIEUCcRIEUL-KHIEUKH
    cMIEUM-KIYEOKcMIEUM-TIKEUTcMIEUM-SIOScPIEUP-SIOS-THIEUTHcPIEUP-KHIEUKHcPIEUP-HIEUH
    cSSANGSIOS-PIEUPcIEUNG-RIEULcIEUNG-HIEUHcSSANGCIEUC-HIEUHcSSANGTHIEUTHcPHIEUPH-HIEUH
    cHIEUH-SIOScSSANGYEORINHIEUH"⟩,
  ⟨0xa980, "aJAVANESE SIGN PANYANGGAcCECAKcLAYARcWIGNYANbLETTER AcI KAWIcIcIIcUcPA CEREK
    cNGA LELETeRASWADIcEcAIcOcKAdSASAKdMURDAcGAdMURDAcNGAcCAdMURDAcJAcNYA MURDAcJA MAHAPRANAcNYA
    cTTAdMAHAPRANAcDDAdMAHAPRANAcNA MURDAcTAdMURDAcDAdMAHAPRANAcNAcPAdMURDAcBAdMURDAcMAcYAcRA
    dAGUNGcLAcWAcSA MURDAdMAHAPRANAcSAcHAbSIGN CECAK TELUbVOWEL SIGN TARUNGdTOLONGdWULUeMELIK
    dSUKUeMENDUTdTALINGdDIRGA MUREdPEPETbCONSONANT SIGN KERETdPENGKALdCAKRAbPANGKON
    bLEFT RERENGGANbRIGHT RERENGGANbPADA ANDAPcMADYAcLUHURcWINDUcPANGKATcLINGSAcLUNGSIcADEGdADEG
    cPISELEHbTURNED PADA PISELEH"⟩,
  ⟨0xa9cf, "aJAVANESE PANGRANGKEPbDIGIT ZEROcONEcTWOcTHREEcFOURcFIVEcSIXcSEVENcEIGHTcNINE"⟩,
  ⟨0xa9de, "aJAVANESE PADA TIRTA TUMETEScISEN-ISENaMYANMAR LETTER SHAN GHAdCHAdJHAdNNAdBHA
    bSIGN SHAN SAWbMODIFIER LETTER SHAN REDUPLICATIONbLETTER TAI LAING NYAeFAeGAeGHAeJAeJHAeDDA
    eDDHAeNNAbTAI LAING DIGIT ZEROeONEeTWOeTHREEeFOUReFIVEeSIXeSEVENeEIGHTeNINE
    bLETTER TAI LAING LLAeDAeDHAeBAeBHA"⟩,
  ⟨0xaa00, "aCHAM LETTER AcIcUcEcAIcOcKAcKHAcGAcGHAcNGUEcNGAcCHAcCHHAcJAcJHAcNHUEcNHAcNHJAcTA
    cTHAcDAcDHAcNUEcNAcDDAcPAcPPAcPHAcBAcBHAcMUEcMAcBBAcYAcRAcLAcVAcSSAcSAcHAbVOWEL SIGN AAdIdII
    dEIdUdOEdOdAIdAUdUEbCONSONANT SIGN YAdRAdLAdWA"⟩,
  ⟨0xaa40, "aCHAM LETTER FINAL KdGdNGbCONSONANT SIGN FINAL NGbLETTER FINAL CHdTdNdPdYdRdLdSS
    bCONSONANT SIGN FINAL MeH"⟩,
  ⟨0xaa50, "aCHAM DIGIT ZEROcONEcTWOcTHREEcFOURcFIVEcSIXcSEVENcEIGHTcNINE"⟩,
  ⟨0xaa5c, "aCHAM PUNCTUATION SPIRALcDANDAcDOUBLE DANDAcTRIPLE DANDAaMYANMAR LETTER KHAMTI GAdCA
    dCHAdJAdJHAdNYAdTTAdTTHAdDDAdDDHAdDHAdNAdSAdHAdHHAdFAbMODIFIER LETTER KHAMTI REDUPLICATION
    bLETTER KHAMTI XAdZAdRAbLOGOGRAM KHAMTI OAYdQNdHMbSYMBOL AITON EXCLAMATIONdONEdTWO
    bLETTER AITON RAbSIGN PAO KAREN TONEcTAI LAING TONE-2eTONE-5bLETTER SHWE PALAUNG CHAeSHA
    aTAI VIET LETTER LOW KOdHIGH KOdLOW KHOdHIGH KHOdLOW KHHOdHIGH KHHOdLOW GOdHIGH GOdLOW NGO
    dHIGH NGOdLOW COdHIGH COdLOW CHOdHIGH CHOdLOW SOdHIGH SOdLOW NYOdHIGH NYOdLOW DOdHIGH DO
    dLOW TOdHIGH TOdLOW THOdHIGH THOdLOW NOdHIGH NOdLOW BOdHIGH BOdLOW POdHIGH POdLOW PHO
    dHIGH PHOdLOW FOdHIGH FOdLOW MOdHIGH MOdLOW YOdHIGH YOdLOW ROdHIGH ROdLOW LOdHIGH LOdLOW VO
    dHIGH VOdLOW HOdHIGH HOdLOW OdHIGH OcMAI KANGcVOWEL AAdIdUEdUdEdOcMAI KHITcVOWEL IAdUEAdUA
    dAUEdAYdANdAMcTONE MAI EKeNUENGeTHOeSONG"⟩,
  ⟨0xaadb, "aTAI VIET SYMBOL KONdNUENGdSAMdHO HOIdKOI KOIaMEETEI MAYEK LETTER EdOdCHAdNYAdTTA
    dTTHAdDDAdDDHAdNNAdSHAdSSAcVOWEL SIGN IIeUUeAAIeAUeAAUcCHEIKHANcAHANG KHUDAMcANJI
    cSYLLABLE REPETITION MARKcWORD REPETITION MARKcVOWEL SIGN VISARGAcVIRAMA"⟩,
  ⟨0xab01, "aETHIOPIC SYLLABLE TTHUcTTHIcTTHAAcTTHEEcTTHEcTTHO"⟩,
  ⟨0xab09, "aETHIOPIC SYLLABLE DDHUcDDHIcDDHAAcDDHEEcDDHEcDDHO"⟩,
  ⟨0xab11, "aETHIOPIC SYLLABLE DZUcDZIcDZAAcDZEEcDZEcDZO"⟩,
  ⟨0xab20, "aETHIOPIC SYLLABLE CCHHAcCCHHUcCCHHIcCCHHAAcCCHHEEcCCHHEcCCHHO"⟩,
  ⟨0xab28, "aETHIOPIC SYLLABLE BBAcBBUcBBIcBBAAcBBEEcBBEcBBO"⟩,
  ⟨0xab30, "aLATIN SMALL LETTER BARRED ALPHAdA REVERSED-SCHWAdBLACKLETTER EdBARRED E
    dE WITH FLOURISHdLENIS FdSCRIPT G WITH CROSSED-TAILdL WITH INVERTED LAZY S
    fDOUBLE MIDDLE TILDEfMIDDLE RINGdM WITH CROSSED-TAILdN WITH CROSSED-TAIL
    dENG WITH CROSSED-TAILdBLACKLETTER OfWITH STROKEdOPEN O WITH STROKEdINVERTED OE
    dTURNED OE WITH STROKEgHORIZONTAL STROKEeO OPEN-OgWITH STROKEdSTIRRUP R
    bLETTER SMALL CAPITAL R WITH RIGHT LEGbSMALL LETTER R WITHOUT HANDLEdDOUBLE R
    dR WITH CROSSED-TAILdDOUBLE R WITH CROSSED-TAILdSCRIPT RfWITH RINGdBASELINE ESH
    dU WITH SHORT RIGHT LEGeBAR WITH SHORT RIGHT LEGdUIdTURNED UIdU WITH LEFT HOOKdCHI
    eWITH LOW RIGHT RINGgLEFT SERIFdX WITH LOW RIGHT RINGfLONG LEFT LEGiAND LOW RIGHT RING
    iWITH SERIFdY WITH SHORT RIGHT LEGaMODIFIER BREVE WITH INVERTED BREVEbLETTER SMALL HENG
    dL WITH INVERTED LAZY SfMIDDLE TILDEdU WITH LEFT HOOKaLATIN SMALL LETTER SAKHA YAT
    dIOTIFIED EdOPEN OEdUOdINVERTED ALPHAaGREEK LETTER SMALL CAPITAL OMEGA
    aLATIN SMALL LETTER DZ DIGRAPH WITH RETROFLEX HOOKdTS DIGRAPH WITH RETROFLEX HOOK
    dTURNED R WITH MIDDLE TILDEaMODIFIER LETTER SMALL TURNED WcLEFT TACKcRIGHT TACK"⟩,
  ⟨0xab70, "aCHEROKEE SMALL LETTER AdEdIdOdUdVdGAdKAdGEdGIdGOdGUdGVdHAdHEdHIdHOdHUdHVdLAdLEdLI
    dLOdLUdLVdMAdMEdMIdMOdMUdNAdHNAdNAHdNEdNIdNOdNUdNVdQUAdQUEdQUIdQUOdQUUdQUVdSAdSdSEdSIdSOdSU
    dSVdDAdTAdDEdTEdDIdTIdDOdDUdDVdDLAdTLAdTLEdTLIdTLOdTLUdTLVdTSAdTSEdTSIdTSOdTSUdTSVdWAdWEdWI
    dWOdWUdWVdYAaMEETEI MAYEK LETTER KOKdSAMdLAIdMITdPAdNAdCHILdTILdKHOUdNGOUdTHOUdWAIdYANGdHUK
    dUNdIdPHAMdATIYAdGOKdJHAMdRAIdBAdJILdDILdGHOUdDHOUdBHAMdKOK LONSUMdLAI LONSUMdMIT LONSUM
    dPA LONSUMdNA LONSUMdTIL LONSUMdNGOU LONSUMdI LONSUMcVOWEL SIGN ONAPeINAPeANAPeYENAPeSOUNAP
    eUNAPeCHEINAPeNUNGcCHEIKHEIcLUM IYEKcAPUN IYEK"⟩,
  ⟨0xabf0, "aMEETEI MAYEK DIGIT ZEROdONEdTWOdTHREEdFOURdFIVEdSIXdSEVENdEIGHTdNINE"⟩,
  ⟨0xd7b0, "aHANGUL JUNGSEONG O-YEOcO-O-IcYO-AcYO-AEcYO-EOcU-YEOcU-I-IcYU-AEcYU-OcEU-AcEU-EO
    cEU-EcEU-OcI-YA-OcI-YAEcI-YEOcI-YEcI-O-IcI-YOcI-YUcI-IcARAEA-AcARAEA-E"⟩,
  ⟨0xd7cb, "aHANGUL JONGSEONG NIEUN-RIEULcNIEUN-CHIEUCHcSSANGTIKEUTcSSANGTIKEUT-PIEUP
    cTIKEUT-PIEUPcTIKEUT-SIOScTIKEUT-SIOS-KIYEOKcTIKEUT-CIEUCcTIKEUT-CHIEUCHcTIKEUT-THIEUTH
    cRIEUL-SSANGKIYEOKcRIEUL-KIYEOK-HIEUHcSSANGRIEUL-KHIEUKHcRIEUL-MIEUM-HIEUH
    cRIEUL-PIEUP-TIKEUTcRIEUL-PIEUP-PHIEUPHcRIEUL-YESIEUNGcRIEUL-YEORINHIEUH-HIEUHcKAPYEOUNRIEUL
    cMIEUM-NIEUNcMIEUM-SSANGNIEUNcSSANGMIEUMcMIEUM-PIEUP-SIOScMIEUM-CIEUCcPIEUP-TIKEUT
    cPIEUP-RIEUL-PHIEUPHcPIEUP-MIEUMcSSANGPIEUPcPIEUP-SIOS-TIKEUTcPIEUP-CIEUCcPIEUP-CHIEUCH
    cSIOS-MIEUMcSIOS-KAPYEOUNPIEUPcSSANGSIOS-KIYEOKcSSANGSIOS-TIKEUTcSIOS-PANSIOScSIOS-CIEUC
    cSIOS-CHIEUCHcSIOS-THIEUTHcSIOS-HIEUHcPANSIOS-PIEUPcPANSIOS-KAPYEOUNPIEUPcYESIEUNG-MIEUM
    cYESIEUNG-HIEUHcCIEUC-PIEUPcCIEUC-SSANGPIEUPcSSANGCIEUCcPHIEUPH-SIOScPHIEUPH-THIEUTH"⟩,
  ⟨0xfb00, "aLATIN SMALL LIGATURE FFdFIdFLdFFIdFFLdLONG S TdST"⟩,
  ⟨0xfb13, "aARMENIAN SMALL LIGATURE MEN NOWeECHeINIdVEW NOWdMEN XEH"⟩,
  ⟨0xfb1d, "aHEBREW LETTER YOD WITH HIRIQbPOINT JUDEO-SPANISH VARIKA
    bLIGATURE YIDDISH YOD YOD PATAHbLETTER ALTERNATIVE AYINcWIDE ALEFdDALETdHEdKAFdLAMED
    dFINAL MEMdRESHdTAVcALTERNATIVE PLUS SIGNcSHIN WITH SHIN DOTeSIN DOTeDAGESH AND SHIN DOT
    gSIN DOTcALEF WITH PATAHeQAMATSeMAPIQcBET WITH DAGESHcGIMEL WITH DAGESHcDALET WITH DAGESH
    cHE WITH MAPIQcVAV WITH DAGESHcZAYIN WITH DAGESH"⟩,
  ⟨0xfb38, "aHEBREW LETTER TET WITH DAGESHcYOD WITH DAGESHcFINAL KAF WITH DAGESHcKAF WITH DAGESH
    cLAMED WITH DAGESH"⟩, ⟨0xfb3e, "aHEBREW LETTER MEM WITH DAGESH"⟩,
  ⟨0xfb40, "aHEBREW LETTER NUN WITH DAGESHcSAMEKH WITH DAGESH"⟩,
  ⟨0xfb43, "aHEBREW LETTER FINAL PE WITH DAGESHcPE WITH DAGESH"⟩,
  ⟨0xfb46, "aHEBREW LETTER TSADI WITH DAGESHcQOF WITH DAGESHcRESH WITH DAGESHcSHIN WITH DAGESH
    cTAV WITH DAGESHcVAV WITH HOLAMcBET WITH RAFEcKAF WITH RAFEcPE WITH RAFEbLIGATURE ALEF LAMED
    aARABIC LETTER ALEF WASLA ISOLATED FORMeFINAL FORMcBEEH ISOLATED FORMdFINAL FORM
    dINITIAL FORMdMEDIAL FORMcPEH ISOLATED FORMdFINAL FORMdINITIAL FORMdMEDIAL FORM
    cBEHEH ISOLATED FORMdFINAL FORMdINITIAL FORMdMEDIAL FORMcTTEHEH ISOLATED FORMdFINAL FORM
    dINITIAL FORMdMEDIAL FORMcTEHEH ISOLATED FORMdFINAL FORMdINITIAL FORMdMEDIAL FORM
    cTTEH ISOLATED FORMdFINAL FORMdINITIAL FORMdMEDIAL FORMcVEH ISOLATED FORMdFINAL FORM
    dINITIAL FORMdMEDIAL FORMcPEHEH ISOLATED FORMdFINAL FORMdINITIAL FORMdMEDIAL FORM
    cDYEH ISOLATED FORMdFINAL FORMdINITIAL FORMdMEDIAL FORMcNYEH ISOLATED FORMdFINAL FORM
    dINITIAL FORMdMEDIAL FORMcTCHEH ISOLATED FORMdFINAL FORMdINITIAL FORMdMEDIAL FORM
    cTCHEHEH ISOLATED FORMdFINAL FORMdINITIAL FORMdMEDIAL FORMcDDAHAL ISOLATED FORMdFINAL FORM
    cDAHAL ISOLATED FORMdFINAL FORMcDUL ISOLATED FORMdFINAL FORMcDDAL ISOLATED FORMdFINAL FORM
    cJEH ISOLATED FORMdFINAL FORMcRREH ISOLATED FORMdFINAL FORMcKEHEH ISOLATED FORMdFINAL FORM
    dINITIAL FORMdMEDIAL FORMcGAF ISOLATED FORMdFINAL FORMdINITIAL FORMdMEDIAL FORM
    cGUEH ISOLATED FORMdFINAL FORMdINITIAL FORMdMEDIAL FORMcNGOEH ISOLATED FORMdFINAL FORM
    dINITIAL FORMdMEDIAL FORMcNOON GHUNNA ISOLATED FORMeFINAL FORMcRNOON ISOLATED FORM
    dFINAL FORMdINITIAL FORMdMEDIAL FORMcHEH WITH YEH ABOVE ISOLATED FORMgFINAL FORM
    dGOAL ISOLATED FORMeFINAL FORMeINITIAL FORMeMEDIAL FORMdDOACHASHMEE ISOLATED FORMeFINAL FORM
    eINITIAL FORMeMEDIAL FORMcYEH BARREE ISOLATED FORMeFINAL FORMeWITH HAMZA ABOVE ISOLATED FORM
    hFINAL FORMbSYMBOL DOT ABOVEdBELOWcTWO DOTS ABOVEeBELOWcTHREE DOTS ABOVEeBELOW
    ePOINTING DOWNWARDS ABOVEgBELOWcFOUR DOTS ABOVEeBELOWcDOUBLE VERTICAL BAR BELOW
    cTWO DOTS VERTICALLY ABOVEfBELOWcRINGcSMALL TAH ABOVEeBELOWcWASLA ABOVE"⟩,
  ⟨0xfbd3, "aARABIC LETTER NG ISOLATED FORMdFINAL FORMdINITIAL FORMdMEDIAL FORMcU ISOLATED FORM
    dFINAL FORMcOE ISOLATED FORMdFINAL FORMcYU ISOLATED FORMdFINAL FORM
    cU WITH HAMZA ABOVE ISOLATED FORMcVE ISOLATED FORMdFINAL FORMcKIRGHIZ OE ISOLATED FORM
    eFINAL FORMdYU ISOLATED FORMeFINAL FORMcE ISOLATED FORMdFINAL FORMdINITIAL FORMdMEDIAL FORM
    cUIGHUR KAZAKH KIRGHIZ ALEF MAKSURA INITIAL FORMhMEDIAL FORM
    bLIGATURE YEH WITH HAMZA ABOVE WITH ALEF ISOLATED FORMiFINAL FORMhAE ISOLATED FORM
    iFINAL FORMhWAW ISOLATED FORMiFINAL FORMhU ISOLATED FORMiFINAL FORMhOE ISOLATED FORM
    iFINAL FORMhYU ISOLATED FORMiFINAL FORMhE ISOLATED FORMiFINAL FORMiINITIAL FORM
    cUIGHUR KIRGHIZ YEH WITH HAMZA ABOVE WITH ALEF MAKSURA ISOLATED FORMlFINAL FORMlINITIAL FORM
    bLETTER FARSI YEH ISOLATED FORMeFINAL FORMeINITIAL FORMeMEDIAL FORM
    bLIGATURE YEH WITH HAMZA ABOVE WITH JEEM ISOLATED FORMhHAH ISOLATED FORMhMEEM ISOLATED FORM
    hALEF MAKSURA ISOLATED FORMhYEH ISOLATED FORMcBEH WITH JEEM ISOLATED FORMeHAH ISOLATED FORM
    eKHAH ISOLATED FORMeMEEM ISOLATED FORMeALEF MAKSURA ISOLATED FORMeYEH ISOLATED FORM
    cTEH WITH JEEM ISOLATED FORMeHAH ISOLATED FORMeKHAH ISOLATED FORMeMEEM ISOLATED FORM
    eALEF MAKSURA ISOLATED FORMeYEH ISOLATED FORMcTHEH WITH JEEM ISOLATED FORM
    eMEEM ISOLATED FORMeALEF MAKSURA ISOLATED FORMeYEH ISOLATED FORMcJEEM WITH HAH ISOLATED FORM
    eMEEM ISOLATED FORMcHAH WITH JEEM ISOLATED FORMeMEEM ISOLATED FORM
    cKHAH WITH JEEM ISOLATED FORMeHAH ISOLATED FORMeMEEM ISOLATED FORM
    cSEEN WITH JEEM ISOLATED FORMeHAH ISOLATED FORMeKHAH ISOLATED FORMeMEEM ISOLATED FORM
    cSAD WITH HAH ISOLATED FORMeMEEM ISOLATED FORMcDAD WITH JEEM ISOLATED FORMeHAH ISOLATED FORM
    eKHAH ISOLATED FORMeMEEM ISOLATED FORMcTAH WITH HAH ISOLATED FORMeMEEM ISOLATED FORM
    cZAH WITH MEEM ISOLATED FORMcAIN WITH JEEM ISOLATED FORMeMEEM ISOLATED FORM
    cGHAIN WITH JEEM ISOLATED FORMeMEEM ISOLATED FORMcFEH WITH JEEM ISOLATED FORM
    eHAH ISOLATED FORMeKHAH ISOLATED FORMeMEEM ISOLATED FORMeALEF MAKSURA ISOLATED FORM
    eYEH ISOLATED FORMcQAF WITH HAH ISOLATED FORMeMEEM ISOLATED FORMeALEF MAKSURA ISOLATED FORM
    eYEH ISOLATED FORMcKAF WITH ALEF ISOLATED FORMeJEEM ISOLATED FORMeHAH ISOLATED FORM
    eKHAH ISOLATED FORMeLAM ISOLATED FORMeMEEM ISOLATED FORMeALEF MAKSURA ISOLATED FORM
    eYEH ISOLATED FORMcLAM WITH JEEM ISOLATED FORMeHAH ISOLATED FORMeKHAH ISOLATED FORM
    eMEEM ISOLATED FORMeALEF MAKSURA ISOLATED FORMeYEH ISOLATED FORM
    cMEEM WITH JEEM ISOLATED FORMeHAH ISOLATED FORMeKHAH ISOLATED FORMeMEEM ISOLATED FORM
    eALEF MAKSURA ISOLATED FORMeYEH ISOLATED FORMcNOON WITH JEEM ISOLATED FORMeHAH ISOLATED FORM
    eKHAH ISOLATED FORMeMEEM ISOLATED FORMeALEF MAKSURA ISOLATED FORMeYEH ISOLATED FORM
    cHEH WITH JEEM ISOLATED FORMeMEEM ISOLATED FORMeALEF MAKSURA ISOLATED FORMeYEH ISOLATED FORM
    cYEH WITH JEEM ISOLATED FORMeHAH ISOLATED FORMeKHAH ISOLATED FORMeMEEM ISOLATED FORM
    eALEF MAKSURA ISOLATED FORMeYEH ISOLATED FORMcTHAL WITH SUPERSCRIPT ALEF ISOLATED FORM
    cREH WITH SUPERSCRIPT ALEF ISOLATED FORMcALEF MAKSURA WITH SUPERSCRIPT ALEF ISOLATED FORM
    cSHADDA WITH DAMMATAN ISOLATED FORMeKASRATAN ISOLATED FORMeFATHA ISOLATED FORM
    eDAMMA ISOLATED FORMeKASRA ISOLATED FORMeSUPERSCRIPT ALEF ISOLATED FORM
    cYEH WITH HAMZA ABOVE WITH REH FINAL FORMhZAIN FINAL FORMhMEEM FINAL FORMhNOON FINAL FORM
    hALEF MAKSURA FINAL FORMhYEH FINAL FORMcBEH WITH REH FINAL FORMeZAIN FINAL FORM
    eMEEM FINAL FORMeNOON FINAL FORMeALEF MAKSURA FINAL FORMeYEH FINAL FORM
    cTEH WITH REH FINAL FORMeZAIN FINAL FORMeMEEM FINAL FORMeNOON FINAL FORM
    eALEF MAKSURA FINAL FORMeYEH FINAL FORMcTHEH WITH REH FINAL FORMeZAIN FINAL FORM
    eMEEM FINAL FORMeNOON FINAL FORMeALEF MAKSURA FINAL FORMeYEH FINAL FORM
    cFEH WITH ALEF MAKSURA FINAL FORMeYEH FINAL FORMcQAF WITH ALEF MAKSURA FINAL FORM
    eYEH FINAL FORMcKAF WITH ALEF FINAL FORMeLAM FINAL FORMeMEEM FINAL FORM
    eALEF MAKSURA FINAL FORMeYEH FINAL FORMcLAM WITH MEEM FINAL FORMeALEF MAKSURA FINAL FORM
    eYEH FINAL FORMcMEEM WITH ALEF FINAL FORMeMEEM FINAL FORMcNOON WITH REH FINAL FORM
    eZAIN FINAL FORMeMEEM FINAL FORMeNOON FINAL FORMeALEF MAKSURA FINAL FORMeYEH FINAL FORM
    cALEF MAKSURA WITH SUPERSCRIPT ALEF FINAL FORMcYEH WITH REH FINAL FORMeZAIN FINAL FORM
    eMEEM FINAL FORMeNOON FINAL FORMeALEF MAKSURA FINAL FORMeYEH FINAL FORM
    eHAMZA ABOVE WITH JEEM INITIAL FORMhHAH INITIAL FORMhKHAH INITIAL FORMhMEEM INITIAL FORM
    hHEH INITIAL FORMcBEH WITH JEEM INITIAL FORMeHAH INITIAL FORMeKHAH INITIAL FORM
    eMEEM INITIAL FORMeHEH INITIAL FORMcTEH WITH JEEM INITIAL FORMeHAH INITIAL FORM
    eKHAH INITIAL FORMeMEEM INITIAL FORMeHEH INITIAL FORMcTHEH WITH MEEM INITIAL FORM
    cJEEM WITH HAH INITIAL FORMeMEEM INITIAL FORMcHAH WITH JEEM INITIAL FORMeMEEM INITIAL FORM
    cKHAH WITH JEEM INITIAL FORMeMEEM INITIAL FORMcSEEN WITH JEEM INITIAL FORMeHAH INITIAL FORM
    eKHAH INITIAL FORMeMEEM INITIAL FORMcSAD WITH HAH INITIAL FORMeKHAH INITIAL FORM
    eMEEM INITIAL FORMcDAD WITH JEEM INITIAL FORMeHAH INITIAL FORMeKHAH INITIAL FORM
    eMEEM INITIAL FORMcTAH WITH HAH INITIAL FORMcZAH WITH MEEM INITIAL FORM
    cAIN WITH JEEM INITIAL FORMeMEEM INITIAL FORMcGHAIN WITH JEEM INITIAL FORMeMEEM INITIAL FORM
    cFEH WITH JEEM INITIAL FORMeHAH INITIAL FORMeKHAH INITIAL FORMeMEEM INITIAL FORM
    cQAF WITH HAH INITIAL FORMeMEEM INITIAL FORMcKAF WITH JEEM INITIAL FORMeHAH INITIAL FORM
    eKHAH INITIAL FORMeLAM INITIAL FORMeMEEM INITIAL FORMcLAM WITH JEEM INITIAL FORM
    eHAH INITIAL FORMeKHAH INITIAL FORMeMEEM INITIAL FORMeHEH INITIAL FORM
    cMEEM WITH JEEM INITIAL FORMeHAH INITIAL FORMeKHAH INITIAL FORMeMEEM INITIAL FORM
    cNOON WITH JEEM INITIAL FORMeHAH INITIAL FORMeKHAH INITIAL FORMeMEEM INITIAL FORM
    eHEH INITIAL FORMcHEH WITH JEEM INITIAL FORMeMEEM INITIAL FORMeSUPERSCRIPT ALEF INITIAL FORM
    cYEH WITH JEEM INITIAL FORMeHAH INITIAL FORMeKHAH INITIAL FORMeMEEM INITIAL FORM
    eHEH INITIAL FORMeHAMZA ABOVE WITH MEEM MEDIAL FORMhHEH MEDIAL FORM
    cBEH WITH MEEM MEDIAL FORMeHEH MEDIAL FORMcTEH WITH MEEM MEDIAL FORMeHEH MEDIAL FORM
    cTHEH WITH MEEM MEDIAL FORMeHEH MEDIAL FORMcSEEN WITH MEEM MEDIAL FORMeHEH MEDIAL FORM
    cSHEEN WITH MEEM MEDIAL FORMeHEH MEDIAL FORMcKAF WITH LAM MEDIAL FORMeMEEM MEDIAL FORM
    cLAM WITH MEEM MEDIAL FORMcNOON WITH MEEM MEDIAL FORMeHEH MEDIAL FORM
    cYEH WITH MEEM MEDIAL FORMeHEH MEDIAL FORMcSHADDA WITH FATHA MEDIAL FORMeDAMMA MEDIAL FORM
    eKASRA MEDIAL FORMcTAH WITH ALEF MAKSURA ISOLATED FORMeYEH ISOLATED FORM
    cAIN WITH ALEF MAKSURA ISOLATED FORMeYEH ISOLATED FORMcGHAIN WITH ALEF MAKSURA ISOLATED FORM
    eYEH ISOLATED FORMcSEEN WITH ALEF MAKSURA ISOLATED FORMeYEH ISOLATED FORM
    cSHEEN WITH ALEF MAKSURA ISOLATED FORMeYEH ISOLATED FORMcHAH WITH ALEF MAKSURA ISOLATED FORM
    eYEH ISOLATED FORMcJEEM WITH ALEF MAKSURA ISOLATED FORMeYEH ISOLATED FORM
    cKHAH WITH ALEF MAKSURA ISOLATED FORMeYEH ISOLATED FORMcSAD WITH ALEF MAKSURA ISOLATED FORM
    eYEH ISOLATED FORMcDAD WITH ALEF MAKSURA ISOLATED FORMeYEH ISOLATED FORM
    cSHEEN WITH JEEM ISOLATED FORMeHAH ISOLATED FORMeKHAH ISOLATED FORMeMEEM ISOLATED FORM
    eREH ISOLATED FORMcSEEN WITH REH ISOLATED FORMcSAD WITH REH ISOLATED FORM
    cDAD WITH REH ISOLATED FORMcTAH WITH ALEF MAKSURA FINAL FORMeYEH FINAL FORM
    cAIN WITH ALEF MAKSURA FINAL FORMeYEH FINAL FORMcGHAIN WITH ALEF MAKSURA FINAL FORM
    eYEH FINAL FORMcSEEN WITH ALEF MAKSURA FINAL FORMeYEH FINAL FORM
    cSHEEN WITH ALEF MAKSURA FINAL FORMeYEH FINAL FORMcHAH WITH ALEF MAKSURA FINAL FORM
    eYEH FINAL FORMcJEEM WITH ALEF MAKSURA FINAL FORMeYEH FINAL FORM
    cKHAH WITH ALEF MAKSURA FINAL FORMeYEH FINAL FORMcSAD WITH ALEF MAKSURA FINAL FORM
    eYEH FINAL FORMcDAD WITH ALEF MAKSURA FINAL FORMeYEH FINAL FORMcSHEEN WITH JEEM FINAL FORM
    eHAH FINAL FORMeKHAH FINAL FORMeMEEM FINAL FORMeREH FINAL FORMcSEEN WITH REH FINAL FORM
    cSAD WITH REH FINAL FORMcDAD WITH REH FINAL FORMcSHEEN WITH JEEM INITIAL FORM
    eHAH INITIAL FORMeKHAH INITIAL FORMeMEEM INITIAL FORMcSEEN WITH HEH INITIAL FORM
    cSHEEN WITH HEH INITIAL FORMcTAH WITH MEEM INITIAL FORMcSEEN WITH JEEM MEDIAL FORM
    eHAH MEDIAL FORMeKHAH MEDIAL FORMcSHEEN WITH JEEM MEDIAL FORMeHAH MEDIAL FORM
    eKHAH MEDIAL FORMcTAH WITH MEEM MEDIAL FORMcZAH WITH MEEM MEDIAL FORM
    cALEF WITH FATHATAN FINAL FORMfISOLATED FORMaORNATE LEFT PARENTHESISbRIGHT PARENTHESIS
    aARABIC LIGATURE RAHIMAHU ALLAAHcRADI ALLAAHU ANHeANHAAeANHUMeANHUMAAeANHUNNA
    cSALLALLAAHU ALAYHI WA-AALIHcALAYHI AS-SALAAMcALAYHIM AS-SALAAMcALAYHIMAA AS-SALAAM
    cALAYHI AS-SALAATU WAS-SALAAMcQUDDISA SIRRAHcSALLALLAHU ALAYHI WAAALIHEE WA-SALLAM
    cALAYHAA AS-SALAAMcTABAARAKA WA-TAAALAAcRAHIMAHUM ALLAAH
    cTEH WITH JEEM WITH MEEM INITIAL FORMeHAH WITH JEEM FINAL FORMhINITIAL FORM
    gMEEM INITIAL FORMeKHAH WITH MEEM INITIAL FORMeMEEM WITH JEEM INITIAL FORMgHAH INITIAL FORM
    gKHAH INITIAL FORMcJEEM WITH MEEM WITH HAH FINAL FORMhINITIAL FORM
    cHAH WITH MEEM WITH YEH FINAL FORMgALEF MAKSURA FINAL FORM
    cSEEN WITH HAH WITH JEEM INITIAL FORMeJEEM WITH HAH INITIAL FORMgALEF MAKSURA FINAL FORM
    eMEEM WITH HAH FINAL FORMhINITIAL FORMgJEEM INITIAL FORMgMEEM FINAL FORMhINITIAL FORM
    cSAD WITH HAH WITH HAH FINAL FORMhINITIAL FORMeMEEM WITH MEEM FINAL FORM
    cSHEEN WITH HAH WITH MEEM FINAL FORMhINITIAL FORMeJEEM WITH YEH FINAL FORM
    eMEEM WITH KHAH FINAL FORMhINITIAL FORMgMEEM FINAL FORMhINITIAL FORM
    cDAD WITH HAH WITH ALEF MAKSURA FINAL FORMeKHAH WITH MEEM FINAL FORMhINITIAL FORM
    cTAH WITH MEEM WITH HAH FINAL FORMhINITIAL FORMgMEEM INITIAL FORMgYEH FINAL FORM
    cAIN WITH JEEM WITH MEEM FINAL FORMeMEEM WITH MEEM FINAL FORMhINITIAL FORM
    gALEF MAKSURA FINAL FORMcGHAIN WITH MEEM WITH MEEM FINAL FORMgYEH FINAL FORM
    gALEF MAKSURA FINAL FORMcFEH WITH KHAH WITH MEEM FINAL FORMhINITIAL FORM
    cQAF WITH MEEM WITH HAH FINAL FORMgMEEM FINAL FORMcLAM WITH HAH WITH MEEM FINAL FORM
    gYEH FINAL FORMgALEF MAKSURA FINAL FORMeJEEM WITH JEEM INITIAL FORMhFINAL FORM
    eKHAH WITH MEEM FINAL FORMhINITIAL FORMeMEEM WITH HAH FINAL FORMhINITIAL FORM
    cMEEM WITH HAH WITH JEEM INITIAL FORMgMEEM INITIAL FORMgYEH FINAL FORM
    eJEEM WITH HAH INITIAL FORMgMEEM INITIAL FORMeKHAH WITH JEEM INITIAL FORMgMEEM INITIAL FORM"⟩,
  ⟨0xfd92, "aARABIC LIGATURE MEEM WITH JEEM WITH KHAH INITIAL FORM
    cHEH WITH MEEM WITH JEEM INITIAL FORMgMEEM INITIAL FORMcNOON WITH HAH WITH MEEM INITIAL FORM
    gALEF MAKSURA FINAL FORMeJEEM WITH MEEM FINAL FORMhINITIAL FORMgALEF MAKSURA FINAL FORM
    eMEEM WITH YEH FINAL FORMgALEF MAKSURA FINAL FORMcYEH WITH MEEM WITH MEEM FINAL FORM
    hINITIAL FORMcBEH WITH KHAH WITH YEH FINAL FORMcTEH WITH JEEM WITH YEH FINAL FORM
    gALEF MAKSURA FINAL FORMeKHAH WITH YEH FINAL FORMgALEF MAKSURA FINAL FORM
    eMEEM WITH YEH FINAL FORMgALEF MAKSURA FINAL FORMcJEEM WITH MEEM WITH YEH FINAL FORM
    eHAH WITH ALEF MAKSURA FINAL FORMeMEEM WITH ALEF MAKSURA FINAL FORM
    cSEEN WITH KHAH WITH ALEF MAKSURA FINAL FORMcSAD WITH HAH WITH YEH FINAL FORM
    cSHEEN WITH HAH WITH YEH FINAL FORMcDAD WITH HAH WITH YEH FINAL FORM
    cLAM WITH JEEM WITH YEH FINAL FORMeMEEM WITH YEH FINAL FORMcYEH WITH HAH WITH YEH FINAL FORM
    eJEEM WITH YEH FINAL FORMeMEEM WITH YEH FINAL FORMcMEEM WITH MEEM WITH YEH FINAL FORM
    cQAF WITH MEEM WITH YEH FINAL FORMcNOON WITH HAH WITH YEH FINAL FORM
    cQAF WITH MEEM WITH HAH INITIAL FORMcLAM WITH HAH WITH MEEM INITIAL FORM
    cAIN WITH MEEM WITH YEH FINAL FORMcKAF WITH MEEM WITH YEH FINAL FORM
    cNOON WITH JEEM WITH HAH INITIAL FORMcMEEM WITH KHAH WITH YEH FINAL FORM
    cLAM WITH JEEM WITH MEEM INITIAL FORMcKAF WITH MEEM WITH MEEM FINAL FORM
    cLAM WITH JEEM WITH MEEM FINAL FORMcNOON WITH JEEM WITH HAH FINAL FORM
    cJEEM WITH HAH WITH YEH FINAL FORMcHAH WITH JEEM WITH YEH FINAL FORM
    cMEEM WITH JEEM WITH YEH FINAL FORMcFEH WITH MEEM WITH YEH FINAL FORM
    cBEH WITH HAH WITH YEH FINAL FORMcKAF WITH MEEM WITH MEEM INITIAL FORM
    cAIN WITH JEEM WITH MEEM INITIAL FORMcSAD WITH MEEM WITH MEEM INITIAL FORM
    cSEEN WITH KHAH WITH YEH FINAL FORMcNOON WITH JEEM WITH YEH FINAL FORM"⟩,
  ⟨0xfdcf, "aARABIC LIGATURE SALAAMUHU ALAYNAA"⟩,
  ⟨0xfdf0, "aARABIC LIGATURE SALLA USED AS KORANIC STOP SIGN ISOLATED FORM
    cQALA USED AS KORANIC STOP SIGN ISOLATED FORMcALLAH ISOLATED FORMcAKBAR ISOLATED FORM
    cMOHAMMAD ISOLATED FORMcSALAM ISOLATED FORMcRASOUL ISOLATED FORMcALAYHE ISOLATED FORM
    cWASALLAM ISOLATED FORMcSALLA ISOLATED FORMcSALLALLAHOU ALAYHE WASALLAMcJALLAJALALOUHOU
    aRIAL SIGNaARABIC LIGATURE BISMILLAH AR-RAHMAN AR-RAHEEMcSUBHAANAHU WA TAAALAAcAZZA WA JALL
    aVARIATION SELECTOR-1bSELECTOR-2bSELECTOR-3bSELECTOR-4bSELECTOR-5bSELECTOR-6bSELECTOR-7
    bSELECTOR-8bSELECTOR-9bSELECTOR-10bSELECTOR-11bSELECTOR-12bSELECTOR-13bSELECTOR-14
    bSELECTOR-15bSELECTOR-16aPRESENTATION FORM FOR VERTICAL COMMAeIDEOGRAPHIC COMMAfFULL STOP
    eCOLONeSEMICOLONeEXCLAMATION MARKeQUESTION MARKeLEFT WHITE LENTICULAR BRACKET
    eRIGHT WHITE LENTICULAR BRAKCETeHORIZONTAL ELLIPSIS"⟩,
  ⟨0xfe20, "aCOMBINING LIGATURE LEFT HALFcRIGHT HALFbDOUBLE TILDE LEFT HALFdRIGHT HALF
    bMACRON LEFT HALFcRIGHT HALFbCONJOINING MACRONbLIGATURE LEFT HALF BELOWcRIGHT HALF BELOW
    bTILDE LEFT HALF BELOWcRIGHT HALF BELOWbMACRON LEFT HALF BELOWcRIGHT HALF BELOW
    bCONJOINING MACRON BELOWbCYRILLIC TITLO LEFT HALFdRIGHT HALF
    aPRESENTATION FORM FOR VERTICAL TWO DOT LEADEReEM DASHeEN DASHeLOW LINEeWAVY LOW LINE
    eLEFT PARENTHESISeRIGHT PARENTHESISeLEFT CURLY BRACKETeRIGHT CURLY BRACKET
    eLEFT TORTOISE SHELL BRACKETeRIGHT TORTOISE SHELL BRACKETeLEFT BLACK LENTICULAR BRACKET
    eRIGHT BLACK LENTICULAR BRACKETeLEFT DOUBLE ANGLE BRACKETeRIGHT DOUBLE ANGLE BRACKET
    eLEFT ANGLE BRACKETeRIGHT ANGLE BRACKETeLEFT CORNER BRACKETeRIGHT CORNER BRACKET
    eLEFT WHITE CORNER BRACKETeRIGHT WHITE CORNER BRACKETaSESAME DOTaWHITE SESAME DOT
    aPRESENTATION FORM FOR VERTICAL LEFT SQUARE BRACKETeRIGHT SQUARE BRACKETaDASHED OVERLINE
    aCENTRELINE OVERLINEaWAVY OVERLINEaDOUBLE WAVY OVERLINEaDASHED LOW LINEaCENTRELINE LOW LINE
    aWAVY LOW LINEaSMALL COMMAbIDEOGRAPHIC COMMAbFULL STOP"⟩,
  ⟨0xfe54, "aSMALL SEMICOLONbCOLONbQUESTION MARKbEXCLAMATION MARKbEM DASHbLEFT PARENTHESIS
    bRIGHT PARENTHESISbLEFT CURLY BRACKETbRIGHT CURLY BRACKETbLEFT TORTOISE SHELL BRACKET
    bRIGHT TORTOISE SHELL BRACKETbNUMBER SIGNbAMPERSANDbASTERISKbPLUS SIGNbHYPHEN-MINUS
    bLESS-THAN SIGNbGREATER-THAN SIGNbEQUALS SIGN"⟩,
  ⟨0xfe68, "aSMALL REVERSE SOLIDUSbDOLLAR SIGNbPERCENT SIGNbCOMMERCIAL AT"⟩,
  ⟨0xfe70, "aARABIC FATHATAN ISOLATED FORMbTATWEEL WITH FATHATAN ABOVEbDAMMATAN ISOLATED FORM
    bTAIL FRAGMENTbKASRATAN ISOLATED FORM"⟩,
  ⟨0xfe76, "aARABIC FATHA ISOLATED FORMcMEDIAL FORMbDAMMA ISOLATED FORMcMEDIAL FORM
    bKASRA ISOLATED FORMcMEDIAL FORMbSHADDA ISOLATED FORMcMEDIAL FORMbSUKUN ISOLATED FORM
    cMEDIAL FORMbLETTER HAMZA ISOLATED FORMcALEF WITH MADDA ABOVE ISOLATED FORMgFINAL FORM
    eHAMZA ABOVE ISOLATED FORMgFINAL FORMcWAW WITH HAMZA ABOVE ISOLATED FORMgFINAL FORM
    cALEF WITH HAMZA BELOW ISOLATED FORMgFINAL FORMcYEH WITH HAMZA ABOVE ISOLATED FORM
    gFINAL FORMgINITIAL FORMgMEDIAL FORMcALEF ISOLATED FORMdFINAL FORMcBEH ISOLATED FORM
    dFINAL FORMdINITIAL FORMdMEDIAL FORMcTEH MARBUTA ISOLATED FORMeFINAL FORMdISOLATED FORM
    dFINAL FORMdINITIAL FORMdMEDIAL FORMcTHEH ISOLATED FORMdFINAL FORMdINITIAL FORMdMEDIAL FORM
    cJEEM ISOLATED FORMdFINAL FORMdINITIAL FORMdMEDIAL FORMcHAH ISOLATED FORMdFINAL FORM
    dINITIAL FORMdMEDIAL FORMcKHAH ISOLATED FORMdFINAL FORMdINITIAL FORMdMEDIAL FORM
    cDAL ISOLATED FORMdFINAL FORMcTHAL ISOLATED FORMdFINAL FORMcREH ISOLATED FORMdFINAL FORM
    cZAIN ISOLATED FORMdFINAL FORMcSEEN ISOLATED FORMdFINAL FORMdINITIAL FORMdMEDIAL FORM
    cSHEEN ISOLATED FORMdFINAL FORMdINITIAL FORMdMEDIAL FORMcSAD ISOLATED FORMdFINAL FORM
    dINITIAL FORMdMEDIAL FORMcDAD ISOLATED FORMdFINAL FORMdINITIAL FORMdMEDIAL FORM
    cTAH ISOLATED FORMdFINAL FORMdINITIAL FORMdMEDIAL FORMcZAH ISOLATED FORMdFINAL FORM
    dINITIAL FORMdMEDIAL FORMcAIN ISOLATED FORMdFINAL FORMdINITIAL FORMdMEDIAL FORM
    cGHAIN ISOLATED FORMdFINAL FORMdINITIAL FORMdMEDIAL FORMcFEH ISOLATED FORMdFINAL FORM
    dINITIAL FORMdMEDIAL FORMcQAF ISOLATED FORMdFINAL FORMdINITIAL FORMdMEDIAL FORM
    cKAF ISOLATED FORMdFINAL FORMdINITIAL FORMdMEDIAL FORMcLAM ISOLATED FORMdFINAL FORM
    dINITIAL FORMdMEDIAL FORMcMEEM ISOLATED FORMdFINAL FORMdINITIAL FORMdMEDIAL FORM
    cNOON ISOLATED FORMdFINAL FORMdINITIAL FORMdMEDIAL FORMcHEH ISOLATED FORMdFINAL FORM
    dINITIAL FORMdMEDIAL FORMcWAW ISOLATED FORMdFINAL FORMcALEF MAKSURA ISOLATED FORMeFINAL FORM
    cYEH ISOLATED FORMdFINAL FORMdINITIAL FORMdMEDIAL FORM
    bLIGATURE LAM WITH ALEF WITH MADDA ABOVE ISOLATED FORMiFINAL FORMgHAMZA ABOVE ISOLATED FORM
    iFINAL FORMhBELOW ISOLATED FORMiFINAL FORMfISOLATED FORMfFINAL FORM"⟩,
  ⟨0xfeff, "aZERO WIDTH NO-BREAK SPACE"⟩,
  ⟨0xff01, "aFULLWIDTH EXCLAMATION MARKbQUOTATION MARKbNUMBER SIGNbDOLLAR SIGNbPERCENT SIGN
    bAMPERSANDbAPOSTROPHEbLEFT PARENTHESISbRIGHT PARENTHESISbASTERISKbPLUS SIGNbCOMMA
    bHYPHEN-MINUSbFULL STOPbSOLIDUSbDIGIT ZEROcONEcTWOcTHREEcFOURcFIVEcSIXcSEVENcEIGHTcNINE
    bCOLONbSEMICOLONbLESS-THAN SIGNbEQUALS SIGNbGREATER-THAN SIGNbQUESTION MARKbCOMMERCIAL AT
    bLATIN CAPITAL LETTER AeBeCeDeEeFeGeHeIeJeKeLeMeNeOePeQeReSeTeUeVeWeXeYeZ
    bLEFT SQUARE BRACKETbREVERSE SOLIDUSbRIGHT SQUARE BRACKETbCIRCUMFLEX ACCENTbLOW LINE
    bGRAVE ACCENTbLATIN SMALL LETTER AeBeCeDeEeFeGeHeIeJeKeLeMeNeOePeQeReSeTeUeVeWeXeYeZ
    bLEFT CURLY BRACKETbVERTICAL LINEbRIGHT CURLY BRACKETbTILDEbLEFT WHITE PARENTHESIS
    bRIGHT WHITE PARENTHESISaHALFWIDTH IDEOGRAPHIC FULL STOPbLEFT CORNER BRACKET
    bRIGHT CORNER BRACKETbIDEOGRAPHIC COMMAbKATAKANA MIDDLE DOTcLETTER WOdSMALL AeIeUeEeOeYAeYU
    eYOeTUbKATAKANA-HIRAGANA PROLONGED SOUND MARKbKATAKANA LETTER AdIdUdEdOdKAdKIdKUdKEdKOdSAdSI
    dSUdSEdSOdTAdTIdTUdTEdTOdNAdNIdNUdNEdNOdHAdHIdHUdHEdHOdMAdMIdMUdMEdMOdYAdYUdYOdRAdRIdRUdRE
    dROdWAdNcVOICED SOUND MARKcSEMI-VOICED SOUND MARKbHANGUL FILLERcLETTER KIYEOKdSSANGKIYEOK
    dKIYEOK-SIOSdNIEUNdNIEUN-CIEUCdNIEUN-HIEUHdTIKEUTdSSANGTIKEUTdRIEULdRIEUL-KIYEOKdRIEUL-MIEUM
    dRIEUL-PIEUPdRIEUL-SIOSdRIEUL-THIEUTHdRIEUL-PHIEUPHdRIEUL-HIEUHdMIEUMdPIEUPdSSANGPIEUP
    dPIEUP-SIOSdSIOSdSSANGSIOSdIEUNGdCIEUCdSSANGCIEUCdCHIEUCHdKHIEUKHdTHIEUTHdPHIEUPHdHIEUH"⟩,
  ⟨0xffc2, "aHALFWIDTH HANGUL LETTER AdAEdYAdYAEdEOdE"⟩,
  ⟨0xffca, "aHALFWIDTH HANGUL LETTER YEOdYEdOdWAdWAEdOE"⟩,
  ⟨0xffd2, "aHALFWIDTH HANGUL LETTER YOdUdWEOdWEdWIdYU"⟩,
  ⟨0xffda, "aHALFWIDTH HANGUL LETTER EUdYIdI"⟩,
  ⟨0xffe0, "aFULLWIDTH CENT SIGNbPOUND SIGNbNOT SIGNbMACRONbBROKEN BARbYEN SIGNbWON SIGN"⟩,
  ⟨0xffe8, "aHALFWIDTH FORMS LIGHT VERTICALbLEFTWARDS ARROWbUPWARDS ARROWbRIGHTWARDS ARROW
    bDOWNWARDS ARROWbBLACK SQUAREbWHITE CIRCLE"⟩,
  ⟨0xfff9, "aINTERLINEAR ANNOTATION ANCHORcSEPARATORcTERMINATORaOBJECT REPLACEMENT CHARACTER
    aREPLACEMENT CHARACTER"⟩]

end JournalSearch.Unicode
