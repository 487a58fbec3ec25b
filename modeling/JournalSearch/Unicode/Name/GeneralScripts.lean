import JournalSearch.Unicode.Name.Run

/-!
Names of characters from U+0020 on: general scripts, which are the alphabets and syllabaries of
most living languages.
-/
namespace JournalSearch.Unicode

def generalScriptNames : List NameRun := [
  ⟨0x20, "aSPACEaEXCLAMATION MARKaQUOTATION MARKaNUMBER SIGNaDOLLAR SIGNaPERCENT SIGNaAMPERSAND
    aAPOSTROPHEaLEFT PARENTHESISaRIGHT PARENTHESISaASTERISKaPLUS SIGNaCOMMAaHYPHEN-MINUS
    aFULL STOPaSOLIDUSaDIGIT ZERObONEbTWObTHREEbFOURbFIVEbSIXbSEVENbEIGHTbNINEaCOLONaSEMICOLON
    aLESS-THAN SIGNaEQUALS SIGNaGREATER-THAN SIGNaQUESTION MARKaCOMMERCIAL AT
    aLATIN CAPITAL LETTER AdBdCdDdEdFdGdHdIdJdKdLdMdNdOdPdQdRdSdTdUdVdWdXdYdZ
    aLEFT SQUARE BRACKETaREVERSE SOLIDUSaRIGHT SQUARE BRACKETaCIRCUMFLEX ACCENTaLOW LINE
    aGRAVE ACCENTaLATIN SMALL LETTER AdBdCdDdEdFdGdHdIdJdKdLdMdNdOdPdQdRdSdTdUdVdWdXdYdZ
    aLEFT CURLY BRACKETaVERTICAL LINEaRIGHT CURLY BRACKETaTILDE"⟩,
  ⟨0xa0, "aNO-BREAK SPACEaINVERTED EXCLAMATION MARKaCENT SIGNaPOUND SIGNaCURRENCY SIGNaYEN SIGN
    aBROKEN BARaSECTION SIGNaDIAERESISaCOPYRIGHT SIGNaFEMININE ORDINAL INDICATOR
    aLEFT-POINTING DOUBLE ANGLE QUOTATION MARKaNOT SIGNaSOFT HYPHENaREGISTERED SIGNaMACRON
    aDEGREE SIGNaPLUS-MINUS SIGNaSUPERSCRIPT TWObTHREEaACUTE ACCENTaMICRO SIGNaPILCROW SIGN
    aMIDDLE DOTaCEDILLAaSUPERSCRIPT ONEaMASCULINE ORDINAL INDICATOR
    aRIGHT-POINTING DOUBLE ANGLE QUOTATION MARKaVULGAR FRACTION ONE QUARTERdHALFcTHREE QUARTERS
    aINVERTED QUESTION MARKaLATIN CAPITAL LETTER A WITH GRAVEfACUTEfCIRCUMFLEXfTILDEfDIAERESIS
    fRING ABOVEdAEdC WITH CEDILLAdE WITH GRAVEfACUTEfCIRCUMFLEXfDIAERESISdI WITH GRAVEfACUTE
    fCIRCUMFLEXfDIAERESISdETHdN WITH TILDEdO WITH GRAVEfACUTEfCIRCUMFLEXfTILDEfDIAERESIS
    aMULTIPLICATION SIGNaLATIN CAPITAL LETTER O WITH STROKEdU WITH GRAVEfACUTEfCIRCUMFLEX
    fDIAERESISdY WITH ACUTEdTHORNbSMALL LETTER SHARP SdA WITH GRAVEfACUTEfCIRCUMFLEXfTILDE
    fDIAERESISfRING ABOVEdAEdC WITH CEDILLAdE WITH GRAVEfACUTEfCIRCUMFLEXfDIAERESISdI WITH GRAVE
    fACUTEfCIRCUMFLEXfDIAERESISdETHdN WITH TILDEdO WITH GRAVEfACUTEfCIRCUMFLEXfTILDEfDIAERESIS
    aDIVISION SIGNaLATIN SMALL LETTER O WITH STROKEdU WITH GRAVEfACUTEfCIRCUMFLEXfDIAERESIS
    dY WITH ACUTEdTHORNdY WITH DIAERESISbCAPITAL LETTER A WITH MACRONbSMALL LETTER A WITH MACRON
    bCAPITAL LETTER A WITH BREVEbSMALL LETTER A WITH BREVEbCAPITAL LETTER A WITH OGONEK
    bSMALL LETTER A WITH OGONEKbCAPITAL LETTER C WITH ACUTEbSMALL LETTER C WITH ACUTE
    bCAPITAL LETTER C WITH CIRCUMFLEXbSMALL LETTER C WITH CIRCUMFLEX
    bCAPITAL LETTER C WITH DOT ABOVEbSMALL LETTER C WITH DOT ABOVEbCAPITAL LETTER C WITH CARON
    bSMALL LETTER C WITH CARONbCAPITAL LETTER D WITH CARONbSMALL LETTER D WITH CARON
    bCAPITAL LETTER D WITH STROKEbSMALL LETTER D WITH STROKEbCAPITAL LETTER E WITH MACRON
    bSMALL LETTER E WITH MACRONbCAPITAL LETTER E WITH BREVEbSMALL LETTER E WITH BREVE
    bCAPITAL LETTER E WITH DOT ABOVEbSMALL LETTER E WITH DOT ABOVEbCAPITAL LETTER E WITH OGONEK
    bSMALL LETTER E WITH OGONEKbCAPITAL LETTER E WITH CARONbSMALL LETTER E WITH CARON
    bCAPITAL LETTER G WITH CIRCUMFLEXbSMALL LETTER G WITH CIRCUMFLEXbCAPITAL LETTER G WITH BREVE
    bSMALL LETTER G WITH BREVEbCAPITAL LETTER G WITH DOT ABOVEbSMALL LETTER G WITH DOT ABOVE
    bCAPITAL LETTER G WITH CEDILLAbSMALL LETTER G WITH CEDILLAbCAPITAL LETTER H WITH CIRCUMFLEX
    bSMALL LETTER H WITH CIRCUMFLEXbCAPITAL LETTER H WITH STROKEbSMALL LETTER H WITH STROKE
    bCAPITAL LETTER I WITH TILDEbSMALL LETTER I WITH TILDEbCAPITAL LETTER I WITH MACRON
    bSMALL LETTER I WITH MACRONbCAPITAL LETTER I WITH BREVEbSMALL LETTER I WITH BREVE
    bCAPITAL LETTER I WITH OGONEKbSMALL LETTER I WITH OGONEKbCAPITAL LETTER I WITH DOT ABOVE
    bSMALL LETTER DOTLESS IbCAPITAL LIGATURE IJbSMALL LIGATURE IJ
    bCAPITAL LETTER J WITH CIRCUMFLEXbSMALL LETTER J WITH CIRCUMFLEX
    bCAPITAL LETTER K WITH CEDILLAbSMALL LETTER K WITH CEDILLAdKRAbCAPITAL LETTER L WITH ACUTE
    bSMALL LETTER L WITH ACUTEbCAPITAL LETTER L WITH CEDILLAbSMALL LETTER L WITH CEDILLA
    bCAPITAL LETTER L WITH CARONbSMALL LETTER L WITH CARONbCAPITAL LETTER L WITH MIDDLE DOT
    bSMALL LETTER L WITH MIDDLE DOTbCAPITAL LETTER L WITH STROKEbSMALL LETTER L WITH STROKE
    bCAPITAL LETTER N WITH ACUTEbSMALL LETTER N WITH ACUTEbCAPITAL LETTER N WITH CEDILLA
    bSMALL LETTER N WITH CEDILLAbCAPITAL LETTER N WITH CARONbSMALL LETTER N WITH CARON
    ePRECEDED BY APOSTROPHEbCAPITAL LETTER ENGbSMALL LETTER ENGbCAPITAL LETTER O WITH MACRON
    bSMALL LETTER O WITH MACRONbCAPITAL LETTER O WITH BREVEbSMALL LETTER O WITH BREVE
    bCAPITAL LETTER O WITH DOUBLE ACUTEbSMALL LETTER O WITH DOUBLE ACUTEbCAPITAL LIGATURE OE
    bSMALL LIGATURE OEbCAPITAL LETTER R WITH ACUTEbSMALL LETTER R WITH ACUTE
    bCAPITAL LETTER R WITH CEDILLAbSMALL LETTER R WITH CEDILLAbCAPITAL LETTER R WITH CARON
    bSMALL LETTER R WITH CARONbCAPITAL LETTER S WITH ACUTEbSMALL LETTER S WITH ACUTE
    bCAPITAL LETTER S WITH CIRCUMFLEXbSMALL LETTER S WITH CIRCUMFLEX
    bCAPITAL LETTER S WITH CEDILLAbSMALL LETTER S WITH CEDILLAbCAPITAL LETTER S WITH CARON
    bSMALL LETTER S WITH CARONbCAPITAL LETTER T WITH CEDILLAbSMALL LETTER T WITH CEDILLA
    bCAPITAL LETTER T WITH CARONbSMALL LETTER T WITH CARONbCAPITAL LETTER T WITH STROKE
    bSMALL LETTER T WITH STROKEbCAPITAL LETTER U WITH TILDEbSMALL LETTER U WITH TILDE
    bCAPITAL LETTER U WITH MACRONbSMALL LETTER U WITH MACRONbCAPITAL LETTER U WITH BREVE
    bSMALL LETTER U WITH BREVEbCAPITAL LETTER U WITH RING ABOVEbSMALL LETTER U WITH RING ABOVE
    bCAPITAL LETTER U WITH DOUBLE ACUTEbSMALL LETTER U WITH DOUBLE ACUTE
    bCAPITAL LETTER U WITH OGONEKbSMALL LETTER U WITH OGONEKbCAPITAL LETTER W WITH CIRCUMFLEX
    bSMALL LETTER W WITH CIRCUMFLEXbCAPITAL LETTER Y WITH CIRCUMFLEX
    bSMALL LETTER Y WITH CIRCUMFLEXbCAPITAL LETTER Y WITH DIAERESISdZ WITH ACUTE
    bSMALL LETTER Z WITH ACUTEbCAPITAL LETTER Z WITH DOT ABOVEbSMALL LETTER Z WITH DOT ABOVE
    bCAPITAL LETTER Z WITH CARONbSMALL LETTER Z WITH CARONdLONG SdB WITH STROKE
    bCAPITAL LETTER B WITH HOOKfTOPBARbSMALL LETTER B WITH TOPBARbCAPITAL LETTER TONE SIX
    bSMALL LETTER TONE SIXbCAPITAL LETTER OPEN OdC WITH HOOKbSMALL LETTER C WITH HOOK
    bCAPITAL LETTER AFRICAN DdD WITH HOOKfTOPBARbSMALL LETTER D WITH TOPBARdTURNED DELTA
    bCAPITAL LETTER REVERSED EdSCHWAdOPEN EdF WITH HOOKbSMALL LETTER F WITH HOOK
    bCAPITAL LETTER G WITH HOOKdGAMMAbSMALL LETTER HVbCAPITAL LETTER IOTAdI WITH STROKE
    dK WITH HOOKbSMALL LETTER K WITH HOOKdL WITH BARdLAMBDA WITH STROKEbCAPITAL LETTER TURNED M
    dN WITH LEFT HOOKbSMALL LETTER N WITH LONG RIGHT LEGbCAPITAL LETTER O WITH MIDDLE TILDEfHORN
    bSMALL LETTER O WITH HORNbCAPITAL LETTER OIbSMALL LETTER OIbCAPITAL LETTER P WITH HOOK
    bSMALL LETTER P WITH HOOKbLETTER YRbCAPITAL LETTER TONE TWObSMALL LETTER TONE TWO
    bCAPITAL LETTER ESHbLETTER REVERSED ESH LOOPbSMALL LETTER T WITH PALATAL HOOK
    bCAPITAL LETTER T WITH HOOKbSMALL LETTER T WITH HOOKbCAPITAL LETTER T WITH RETROFLEX HOOK
    dU WITH HORNbSMALL LETTER U WITH HORNbCAPITAL LETTER UPSILONdV WITH HOOKdY WITH HOOK
    bSMALL LETTER Y WITH HOOKbCAPITAL LETTER Z WITH STROKEbSMALL LETTER Z WITH STROKE
    bCAPITAL LETTER EZHeREVERSEDbSMALL LETTER EZH REVERSEDeWITH TAILbLETTER TWO WITH STROKE
    bCAPITAL LETTER TONE FIVEbSMALL LETTER TONE FIVEbLETTER INVERTED GLOTTAL STOP WITH STROKE
    cWYNNcDENTAL CLICKcLATERAL CLICKcALVEOLAR CLICKcRETROFLEX CLICKbCAPITAL LETTER DZ WITH CARON
    dD WITH SMALL LETTER Z WITH CARONbSMALL LETTER DZ WITH CARONbCAPITAL LETTER LJ
    dL WITH SMALL LETTER JbSMALL LETTER LJbCAPITAL LETTER NJdN WITH SMALL LETTER J
    bSMALL LETTER NJbCAPITAL LETTER A WITH CARONbSMALL LETTER A WITH CARON
    bCAPITAL LETTER I WITH CARONbSMALL LETTER I WITH CARONbCAPITAL LETTER O WITH CARON
    bSMALL LETTER O WITH CARONbCAPITAL LETTER U WITH CARONbSMALL LETTER U WITH CARON
    bCAPITAL LETTER U WITH DIAERESIS AND MACRONbSMALL LETTER U WITH DIAERESIS AND MACRON
    bCAPITAL LETTER U WITH DIAERESIS AND ACUTEbSMALL LETTER U WITH DIAERESIS AND ACUTE
    bCAPITAL LETTER U WITH DIAERESIS AND CARONbSMALL LETTER U WITH DIAERESIS AND CARON
    bCAPITAL LETTER U WITH DIAERESIS AND GRAVEbSMALL LETTER U WITH DIAERESIS AND GRAVEdTURNED E
    bCAPITAL LETTER A WITH DIAERESIS AND MACRONbSMALL LETTER A WITH DIAERESIS AND MACRON
    bCAPITAL LETTER A WITH DOT ABOVE AND MACRONbSMALL LETTER A WITH DOT ABOVE AND MACRON
    bCAPITAL LETTER AE WITH MACRONbSMALL LETTER AE WITH MACRONbCAPITAL LETTER G WITH STROKE
    bSMALL LETTER G WITH STROKEbCAPITAL LETTER G WITH CARONbSMALL LETTER G WITH CARON
    bCAPITAL LETTER K WITH CARONbSMALL LETTER K WITH CARONbCAPITAL LETTER O WITH OGONEK
    bSMALL LETTER O WITH OGONEKbCAPITAL LETTER O WITH OGONEK AND MACRON
    bSMALL LETTER O WITH OGONEK AND MACRONbCAPITAL LETTER EZH WITH CARON
    bSMALL LETTER EZH WITH CARONdJ WITH CARONbCAPITAL LETTER DZdD WITH SMALL LETTER Z
    bSMALL LETTER DZbCAPITAL LETTER G WITH ACUTEbSMALL LETTER G WITH ACUTEbCAPITAL LETTER HWAIR
    dWYNNdN WITH GRAVEbSMALL LETTER N WITH GRAVEbCAPITAL LETTER A WITH RING ABOVE AND ACUTE
    bSMALL LETTER A WITH RING ABOVE AND ACUTEbCAPITAL LETTER AE WITH ACUTE
    bSMALL LETTER AE WITH ACUTEbCAPITAL LETTER O WITH STROKE AND ACUTE
    bSMALL LETTER O WITH STROKE AND ACUTEbCAPITAL LETTER A WITH DOUBLE GRAVE
    bSMALL LETTER A WITH DOUBLE GRAVEbCAPITAL LETTER A WITH INVERTED BREVE
    bSMALL LETTER A WITH INVERTED BREVEbCAPITAL LETTER E WITH DOUBLE GRAVE
    bSMALL LETTER E WITH DOUBLE GRAVEbCAPITAL LETTER E WITH INVERTED BREVE
    bSMALL LETTER E WITH INVERTED BREVEbCAPITAL LETTER I WITH DOUBLE GRAVE
    bSMALL LETTER I WITH DOUBLE GRAVEbCAPITAL LETTER I WITH INVERTED BREVE
    bSMALL LETTER I WITH INVERTED BREVEbCAPITAL LETTER O WITH DOUBLE GRAVE
    bSMALL LETTER O WITH DOUBLE GRAVEbCAPITAL LETTER O WITH INVERTED BREVE
    bSMALL LETTER O WITH INVERTED BREVEbCAPITAL LETTER R WITH DOUBLE GRAVE
    bSMALL LETTER R WITH DOUBLE GRAVEbCAPITAL LETTER R WITH INVERTED BREVE
    bSMALL LETTER R WITH INVERTED BREVEbCAPITAL LETTER U WITH DOUBLE GRAVE
    bSMALL LETTER U WITH DOUBLE GRAVEbCAPITAL LETTER U WITH INVERTED BREVE
    bSMALL LETTER U WITH INVERTED BREVEbCAPITAL LETTER S WITH COMMA BELOW
    bSMALL LETTER S WITH COMMA BELOWbCAPITAL LETTER T WITH COMMA BELOW
    bSMALL LETTER T WITH COMMA BELOWbCAPITAL LETTER YOGHbSMALL LETTER YOGH
    bCAPITAL LETTER H WITH CARONbSMALL LETTER H WITH CARONbCAPITAL LETTER N WITH LONG RIGHT LEG
    bSMALL LETTER D WITH CURLbCAPITAL LETTER OUbSMALL LETTER OUbCAPITAL LETTER Z WITH HOOK
    bSMALL LETTER Z WITH HOOKbCAPITAL LETTER A WITH DOT ABOVEbSMALL LETTER A WITH DOT ABOVE
    bCAPITAL LETTER E WITH CEDILLAbSMALL LETTER E WITH CEDILLA
    bCAPITAL LETTER O WITH DIAERESIS AND MACRONbSMALL LETTER O WITH DIAERESIS AND MACRON
    bCAPITAL LETTER O WITH TILDE AND MACRONbSMALL LETTER O WITH TILDE AND MACRON
    bCAPITAL LETTER O WITH DOT ABOVEbSMALL LETTER O WITH DOT ABOVE
    bCAPITAL LETTER O WITH DOT ABOVE AND MACRONbSMALL LETTER O WITH DOT ABOVE AND MACRON
    bCAPITAL LETTER Y WITH MACRONbSMALL LETTER Y WITH MACRONdL WITH CURLdN WITH CURLdT WITH CURL
    dDOTLESS JdDB DIGRAPHdQP DIGRAPHbCAPITAL LETTER A WITH STROKEdC WITH STROKE
    bSMALL LETTER C WITH STROKEbCAPITAL LETTER L WITH BARdT WITH DIAGONAL STROKE
    bSMALL LETTER S WITH SWASH TAILdZ WITH SWASH TAILbCAPITAL LETTER GLOTTAL STOP
    bSMALL LETTER GLOTTAL STOPbCAPITAL LETTER B WITH STROKEdU BARdTURNED VdE WITH STROKE
    bSMALL LETTER E WITH STROKEbCAPITAL LETTER J WITH STROKEbSMALL LETTER J WITH STROKE
    bCAPITAL LETTER SMALL Q WITH HOOK TAILbSMALL LETTER Q WITH HOOK TAIL
    bCAPITAL LETTER R WITH STROKEbSMALL LETTER R WITH STROKEbCAPITAL LETTER Y WITH STROKE
    bSMALL LETTER Y WITH STROKEdTURNED AdALPHAdTURNED ALPHAdB WITH HOOKdOPEN OdC WITH CURL
    dD WITH TAILfHOOKdREVERSED EdSCHWAeWITH HOOKdOPEN EdREVERSED OPEN EgWITH HOOK
    dCLOSED REVERSED OPEN EdDOTLESS J WITH STROKEdG WITH HOOKdSCRIPT GbLETTER SMALL CAPITAL G
    bSMALL LETTER GAMMAdRAMS HORNdTURNED HdH WITH HOOKdHENG WITH HOOKdI WITH STROKEdIOTA
    bLETTER SMALL CAPITAL IbSMALL LETTER L WITH MIDDLE TILDEfBELTfRETROFLEX HOOKdLEZHdTURNED M
    fWITH LONG LEGdM WITH HOOKdN WITH LEFT HOOKfRETROFLEX HOOKbLETTER SMALL CAPITAL N
    bSMALL LETTER BARRED ObLETTER SMALL CAPITAL OEbSMALL LETTER CLOSED OMEGAdPHIdTURNED R
    fWITH LONG LEGgHOOKdR WITH LONG LEGfTAILfFISHHOOKdREVERSED R WITH FISHHOOK
    bLETTER SMALL CAPITAL ReINVERTED RbSMALL LETTER S WITH HOOKdESH
    dDOTLESS J WITH STROKE AND HOOKdSQUAT REVERSED ESHdESH WITH CURLdTURNED T
    dT WITH RETROFLEX HOOKdU BARdUPSILONdV WITH HOOKdTURNED VeWeYbLETTER SMALL CAPITAL Y
    bSMALL LETTER Z WITH RETROFLEX HOOKfCURLdEZHeWITH CURLbLETTER GLOTTAL STOP
    cPHARYNGEAL VOICED FRICATIVEcINVERTED GLOTTAL STOPcSTRETCHED CcBILABIAL CLICK
    cSMALL CAPITAL BbSMALL LETTER CLOSED OPEN EbLETTER SMALL CAPITAL G WITH HOOKeH
    bSMALL LETTER J WITH CROSSED-TAILdTURNED KbLETTER SMALL CAPITAL LbSMALL LETTER Q WITH HOOK
    bLETTER GLOTTAL STOP WITH STROKEcREVERSED GLOTTAL STOP WITH STROKEbSMALL LETTER DZ DIGRAPH
    dDEZH DIGRAPHdDZ DIGRAPH WITH CURLdTS DIGRAPHdTESH DIGRAPHdTC DIGRAPH WITH CURLdFENG DIGRAPH
    dLS DIGRAPHdLZ DIGRAPHbLETTER BILABIAL PERCUSSIVEcBIDENTAL PERCUSSIVE
    bSMALL LETTER TURNED H WITH FISHHOOKhAND TAILaMODIFIER LETTER SMALL HeWITH HOOKdJdRdTURNED R
    fWITH HOOKdCAPITAL INVERTED RdWdYcPRIMEcDOUBLE PRIMEcTURNED COMMAcAPOSTROPHEcREVERSED COMMA
    cRIGHT HALF RINGcLEFT HALF RINGcGLOTTAL STOPcREVERSED GLOTTAL STOPcLEFT ARROWHEAD
    cRIGHT ARROWHEADcUP ARROWHEADcDOWN ARROWHEADcCIRCUMFLEX ACCENTaCARON
    aMODIFIER LETTER VERTICAL LINEcMACRONcACUTE ACCENTcGRAVE ACCENTcLOW VERTICAL LINEdMACRON
    dGRAVE ACCENTdACUTE ACCENTcTRIANGULAR COLONcHALF TRIANGULAR COLONcCENTRED RIGHT HALF RING
    dLEFT HALF RINGcUP TACKcDOWN TACKcPLUS SIGNcMINUS SIGNaBREVEaDOT ABOVEaRING ABOVEaOGONEK
    aSMALL TILDEaDOUBLE ACUTE ACCENTaMODIFIER LETTER RHOTIC HOOKcCROSS ACCENTcSMALL GAMMAdLdSdX
    dREVERSED GLOTTAL STOPcEXTRA-HIGH TONE BARcHIGH TONE BARcMID TONE BARcLOW TONE BAR
    cEXTRA-LOW TONE BARcYIN DEPARTING TONE MARKcYANG DEPARTING TONE MARKcVOICINGcUNASPIRATED
    cDOUBLE APOSTROPHEcLOW DOWN ARROWHEADdUP ARROWHEADdLEFT ARROWHEADdRIGHT ARROWHEADdRING
    cMIDDLE GRAVE ACCENTdDOUBLE GRAVE ACCENTeACUTE ACCENTcLOW TILDEcRAISED COLONcBEGIN HIGH TONE
    cEND HIGH TONEcBEGIN LOW TONEcEND LOW TONEcSHELFcOPEN SHELFcLOW LEFT ARROW
    aCOMBINING GRAVE ACCENTbACUTE ACCENTbCIRCUMFLEX ACCENTbTILDEbMACRONbOVERLINEbBREVEbDOT ABOVE
    bDIAERESISbHOOK ABOVEbRING ABOVEbDOUBLE ACUTE ACCENTbCARONbVERTICAL LINE ABOVE
    bDOUBLE VERTICAL LINE ABOVEcGRAVE ACCENTbCANDRABINDUbINVERTED BREVEbTURNED COMMA ABOVE
    bCOMMA ABOVEbREVERSED COMMA ABOVEbCOMMA ABOVE RIGHTbGRAVE ACCENT BELOWbACUTE ACCENT BELOW
    bLEFT TACK BELOWbRIGHT TACK BELOWbLEFT ANGLE ABOVEbHORNbLEFT HALF RING BELOWbUP TACK BELOW
    bDOWN TACK BELOWbPLUS SIGN BELOWbMINUS SIGN BELOWbPALATALIZED HOOK BELOW
    bRETROFLEX HOOK BELOWbDOT BELOWbDIAERESIS BELOWbRING BELOWbCOMMA BELOWbCEDILLAbOGONEK
    bVERTICAL LINE BELOWbBRIDGE BELOWbINVERTED DOUBLE ARCH BELOWbCARON BELOW
    bCIRCUMFLEX ACCENT BELOWbBREVE BELOWbINVERTED BREVE BELOWbTILDE BELOWbMACRON BELOWbLOW LINE
    bDOUBLE LOW LINEbTILDE OVERLAYbSHORT STROKE OVERLAYbLONG STROKE OVERLAY
    bSHORT SOLIDUS OVERLAYbLONG SOLIDUS OVERLAYbRIGHT HALF RING BELOWbINVERTED BRIDGE BELOW
    bSQUARE BELOWbSEAGULL BELOWbX ABOVEbVERTICAL TILDEbDOUBLE OVERLINEbGRAVE TONE MARK
    bACUTE TONE MARKbGREEK PERISPOMENIcKORONIScDIALYTIKA TONOScYPOGEGRAMMENIbBRIDGE ABOVE
    bEQUALS SIGN BELOWbDOUBLE VERTICAL LINE BELOWbLEFT ANGLE BELOWbNOT TILDE ABOVE
    bHOMOTHETIC ABOVEbALMOST EQUAL TO ABOVEbLEFT RIGHT ARROW BELOWbUPWARDS ARROW BELOW
    bGRAPHEME JOINERbRIGHT ARROWHEAD ABOVEbLEFT HALF RING ABOVEbFERMATAbX BELOW
    bLEFT ARROWHEAD BELOWbRIGHT ARROWHEAD BELOWdAND UP ARROWHEAD BELOWcHALF RING ABOVE
    bDOT ABOVE RIGHTbASTERISK BELOWbDOUBLE RING BELOWbZIGZAG ABOVEbDOUBLE BREVE BELOWcBREVE
    cMACRONdBELOWcTILDEcINVERTED BREVEcRIGHTWARDS ARROW BELOWbLATIN SMALL LETTER AeEeIeOeUeCeDeH
    eMeReTeVeXaGREEK CAPITAL LETTER HETAbSMALL LETTER HETAbCAPITAL LETTER ARCHAIC SAMPI
    bSMALL LETTER ARCHAIC SAMPIbNUMERAL SIGNbLOWER NUMERAL SIGN
    bCAPITAL LETTER PAMPHYLIAN DIGAMMAbSMALL LETTER PAMPHYLIAN DIGAMMA"⟩,
  ⟨0x37a, "aGREEK YPOGEGRAMMENIbSMALL REVERSED LUNATE SIGMA SYMBOLcDOTTED LUNATE SIGMA SYMBOL
    cREVERSED DOTTED LUNATE SIGMA SYMBOLbQUESTION MARKbCAPITAL LETTER YOT"⟩,
  ⟨0x384, "aGREEK TONOSbDIALYTIKA TONOSbCAPITAL LETTER ALPHA WITH TONOSbANO TELEIA
    bCAPITAL LETTER EPSILON WITH TONOSdETA WITH TONOSdIOTA WITH TONOS"⟩,
  ⟨0x38c, "aGREEK CAPITAL LETTER OMICRON WITH TONOS"⟩,
  ⟨0x38e, "aGREEK CAPITAL LETTER UPSILON WITH TONOSdOMEGA WITH TONOS
    bSMALL LETTER IOTA WITH DIALYTIKA AND TONOSbCAPITAL LETTER ALPHAdBETAdGAMMAdDELTAdEPSILON
    dZETAdETAdTHETAdIOTAdKAPPAdLAMDAdMUdNUdXIdOMICRONdPIdRHO"⟩,
  ⟨0x3a3, "aGREEK CAPITAL LETTER SIGMAdTAUdUPSILONdPHIdCHIdPSIdOMEGAdIOTA WITH DIALYTIKA
    dUPSILON WITH DIALYTIKAbSMALL LETTER ALPHA WITH TONOSdEPSILON WITH TONOSdETA WITH TONOS
    dIOTA WITH TONOSdUPSILON WITH DIALYTIKA AND TONOSdALPHAdBETAdGAMMAdDELTAdEPSILONdZETAdETA
    dTHETAdIOTAdKAPPAdLAMDAdMUdNUdXIdOMICRONdPIdRHOdFINAL SIGMAdSIGMAdTAUdUPSILONdPHIdCHIdPSI
    dOMEGAdIOTA WITH DIALYTIKAdUPSILON WITH DIALYTIKAdOMICRON WITH TONOSdUPSILON WITH TONOS
    dOMEGA WITH TONOSbCAPITAL KAI SYMBOLbBETA SYMBOLbTHETA SYMBOLbUPSILON WITH HOOK SYMBOL
    dACUTE AND HOOK SYMBOLdDIAERESIS AND HOOK SYMBOLbPHI SYMBOLbPI SYMBOLbKAI SYMBOL
    bLETTER ARCHAIC KOPPAbSMALL LETTER ARCHAIC KOPPAbLETTER STIGMAbSMALL LETTER STIGMA
    bLETTER DIGAMMAbSMALL LETTER DIGAMMAbLETTER KOPPAbSMALL LETTER KOPPAbLETTER SAMPI
    bSMALL LETTER SAMPIaCOPTIC CAPITAL LETTER SHEIbSMALL LETTER SHEIbCAPITAL LETTER FEI
    bSMALL LETTER FEIbCAPITAL LETTER KHEIbSMALL LETTER KHEIbCAPITAL LETTER HORI
    bSMALL LETTER HORIbCAPITAL LETTER GANGIAbSMALL LETTER GANGIAbCAPITAL LETTER SHIMA
    bSMALL LETTER SHIMAbCAPITAL LETTER DEIbSMALL LETTER DEIaGREEK KAPPA SYMBOLbRHO SYMBOL
    bLUNATE SIGMA SYMBOLbLETTER YOTbCAPITAL THETA SYMBOLbLUNATE EPSILON SYMBOL
    bREVERSED LUNATE EPSILON SYMBOLbCAPITAL LETTER SHObSMALL LETTER SHO
    bCAPITAL LUNATE SIGMA SYMBOLcLETTER SANbSMALL LETTER SANbRHO WITH STROKE SYMBOL
    bCAPITAL REVERSED LUNATE SIGMA SYMBOLcDOTTED LUNATE SIGMA SYMBOL
    cREVERSED DOTTED LUNATE SIGMA SYMBOLaCYRILLIC CAPITAL LETTER IE WITH GRAVEdIOdDJEdGJE
    dUKRAINIAN IEdDZEdBYELORUSSIAN-UKRAINIAN IdYIdJEdLJEdNJEdTSHEdKJEdI WITH GRAVEdSHORT UdDZHE
    dAdBEdVEdGHEdDEdIEdZHEdZEdIdSHORT IdKAdELdEMdENdOdPEdERdESdTEdUdEFdHAdTSEdCHEdSHAdSHCHA
    dHARD SIGNdYERUdSOFT SIGNdEdYUdYAbSMALL LETTER AdBEdVEdGHEdDEdIEdZHEdZEdIdSHORT IdKAdELdEM
    dENdOdPEdERdESdTEdUdEFdHAdTSEdCHEdSHAdSHCHAdHARD SIGNdYERUdSOFT SIGNdEdYUdYAdIE WITH GRAVE
    dIOdDJEdGJEdUKRAINIAN IEdDZEdBYELORUSSIAN-UKRAINIAN IdYIdJEdLJEdNJEdTSHEdKJEdI WITH GRAVE
    dSHORT UdDZHEbCAPITAL LETTER OMEGAbSMALL LETTER OMEGAbCAPITAL LETTER YATbSMALL LETTER YAT
    bCAPITAL LETTER IOTIFIED EbSMALL LETTER IOTIFIED EbCAPITAL LETTER LITTLE YUS
    bSMALL LETTER LITTLE YUSbCAPITAL LETTER IOTIFIED LITTLE YUSbSMALL LETTER IOTIFIED LITTLE YUS
    bCAPITAL LETTER BIG YUSbSMALL LETTER BIG YUSbCAPITAL LETTER IOTIFIED BIG YUS
    bSMALL LETTER IOTIFIED BIG YUSbCAPITAL LETTER KSIbSMALL LETTER KSIbCAPITAL LETTER PSI
    bSMALL LETTER PSIbCAPITAL LETTER FITAbSMALL LETTER FITAbCAPITAL LETTER IZHITSA
    bSMALL LETTER IZHITSAbCAPITAL LETTER IZHITSA WITH DOUBLE GRAVE ACCENT
    bSMALL LETTER IZHITSA WITH DOUBLE GRAVE ACCENTbCAPITAL LETTER UKbSMALL LETTER UK
    bCAPITAL LETTER ROUND OMEGAbSMALL LETTER ROUND OMEGAbCAPITAL LETTER OMEGA WITH TITLO
    bSMALL LETTER OMEGA WITH TITLObCAPITAL LETTER OTbSMALL LETTER OTbCAPITAL LETTER KOPPA
    bSMALL LETTER KOPPAbTHOUSANDS SIGNaCOMBINING CYRILLIC TITLOcPALATALIZATIONcDASIA PNEUMATA
    cPSILI PNEUMATAcPOKRYTIEcHUNDRED THOUSANDS SIGNcMILLIONS SIGN
    aCYRILLIC CAPITAL LETTER SHORT I WITH TAILbSMALL LETTER SHORT I WITH TAIL
    bCAPITAL LETTER SEMISOFT SIGNbSMALL LETTER SEMISOFT SIGNbCAPITAL LETTER ER WITH TICK
    bSMALL LETTER ER WITH TICKbCAPITAL LETTER GHE WITH UPTURNbSMALL LETTER GHE WITH UPTURN
    bCAPITAL LETTER GHE WITH STROKEbSMALL LETTER GHE WITH STROKE
    bCAPITAL LETTER GHE WITH MIDDLE HOOKbSMALL LETTER GHE WITH MIDDLE HOOK
    bCAPITAL LETTER ZHE WITH DESCENDERbSMALL LETTER ZHE WITH DESCENDER
    bCAPITAL LETTER ZE WITH DESCENDERbSMALL LETTER ZE WITH DESCENDER
    bCAPITAL LETTER KA WITH DESCENDERbSMALL LETTER KA WITH DESCENDER
    bCAPITAL LETTER KA WITH VERTICAL STROKEbSMALL LETTER KA WITH VERTICAL STROKE
    bCAPITAL LETTER KA WITH STROKEbSMALL LETTER KA WITH STROKEbCAPITAL LETTER BASHKIR KA
    bSMALL LETTER BASHKIR KAbCAPITAL LETTER EN WITH DESCENDERbSMALL LETTER EN WITH DESCENDER
    bCAPITAL LIGATURE EN GHEbSMALL LIGATURE EN GHEbCAPITAL LETTER PE WITH MIDDLE HOOK
    bSMALL LETTER PE WITH MIDDLE HOOKbCAPITAL LETTER ABKHASIAN HAbSMALL LETTER ABKHASIAN HA
    bCAPITAL LETTER ES WITH DESCENDERbSMALL LETTER ES WITH DESCENDER
    bCAPITAL LETTER TE WITH DESCENDERbSMALL LETTER TE WITH DESCENDERbCAPITAL LETTER STRAIGHT U
    bSMALL LETTER STRAIGHT UbCAPITAL LETTER STRAIGHT U WITH STROKE
    bSMALL LETTER STRAIGHT U WITH STROKEbCAPITAL LETTER HA WITH DESCENDER
    bSMALL LETTER HA WITH DESCENDERbCAPITAL LIGATURE TE TSEbSMALL LIGATURE TE TSE
    bCAPITAL LETTER CHE WITH DESCENDERbSMALL LETTER CHE WITH DESCENDER
    bCAPITAL LETTER CHE WITH VERTICAL STROKEbSMALL LETTER CHE WITH VERTICAL STROKE
    bCAPITAL LETTER SHHAbSMALL LETTER SHHAbCAPITAL LETTER ABKHASIAN CHE
    bSMALL LETTER ABKHASIAN CHEbCAPITAL LETTER ABKHASIAN CHE WITH DESCENDER
    bSMALL LETTER ABKHASIAN CHE WITH DESCENDERbLETTER PALOCHKAbCAPITAL LETTER ZHE WITH BREVE
    bSMALL LETTER ZHE WITH BREVEbCAPITAL LETTER KA WITH HOOKbSMALL LETTER KA WITH HOOK
    bCAPITAL LETTER EL WITH TAILbSMALL LETTER EL WITH TAILbCAPITAL LETTER EN WITH HOOK
    bSMALL LETTER EN WITH HOOKbCAPITAL LETTER EN WITH TAILbSMALL LETTER EN WITH TAIL
    bCAPITAL LETTER KHAKASSIAN CHEbSMALL LETTER KHAKASSIAN CHEbCAPITAL LETTER EM WITH TAIL
    bSMALL LETTER EM WITH TAILdPALOCHKAbCAPITAL LETTER A WITH BREVEbSMALL LETTER A WITH BREVE
    bCAPITAL LETTER A WITH DIAERESISbSMALL LETTER A WITH DIAERESISbCAPITAL LIGATURE A IE
    bSMALL LIGATURE A IEbCAPITAL LETTER IE WITH BREVEbSMALL LETTER IE WITH BREVE
    bCAPITAL LETTER SCHWAbSMALL LETTER SCHWAbCAPITAL LETTER SCHWA WITH DIAERESIS
    bSMALL LETTER SCHWA WITH DIAERESISbCAPITAL LETTER ZHE WITH DIAERESIS
    bSMALL LETTER ZHE WITH DIAERESISbCAPITAL LETTER ZE WITH DIAERESIS
    bSMALL LETTER ZE WITH DIAERESISbCAPITAL LETTER ABKHASIAN DZEbSMALL LETTER ABKHASIAN DZE
    bCAPITAL LETTER I WITH MACRONbSMALL LETTER I WITH MACRONbCAPITAL LETTER I WITH DIAERESIS
    bSMALL LETTER I WITH DIAERESISbCAPITAL LETTER O WITH DIAERESISbSMALL LETTER O WITH DIAERESIS
    bCAPITAL LETTER BARRED ObSMALL LETTER BARRED ObCAPITAL LETTER BARRED O WITH DIAERESIS
    bSMALL LETTER BARRED O WITH DIAERESISbCAPITAL LETTER E WITH DIAERESIS
    bSMALL LETTER E WITH DIAERESISbCAPITAL LETTER U WITH MACRONbSMALL LETTER U WITH MACRON
    bCAPITAL LETTER U WITH DIAERESISbSMALL LETTER U WITH DIAERESIS
    bCAPITAL LETTER U WITH DOUBLE ACUTEbSMALL LETTER U WITH DOUBLE ACUTE
    bCAPITAL LETTER CHE WITH DIAERESISbSMALL LETTER CHE WITH DIAERESIS
    bCAPITAL LETTER GHE WITH DESCENDERbSMALL LETTER GHE WITH DESCENDER
    bCAPITAL LETTER YERU WITH DIAERESISbSMALL LETTER YERU WITH DIAERESIS
    bCAPITAL LETTER GHE WITH STROKE AND HOOKbSMALL LETTER GHE WITH STROKE AND HOOK
    bCAPITAL LETTER HA WITH HOOKbSMALL LETTER HA WITH HOOKbCAPITAL LETTER HA WITH STROKE
    bSMALL LETTER HA WITH STROKEbCAPITAL LETTER KOMI DEbSMALL LETTER KOMI DE
    bCAPITAL LETTER KOMI DJEbSMALL LETTER KOMI DJEbCAPITAL LETTER KOMI ZJEbSMALL LETTER KOMI ZJE
    bCAPITAL LETTER KOMI DZJEbSMALL LETTER KOMI DZJEbCAPITAL LETTER KOMI LJE
    bSMALL LETTER KOMI LJEbCAPITAL LETTER KOMI NJEbSMALL LETTER KOMI NJEbCAPITAL LETTER KOMI SJE
    bSMALL LETTER KOMI SJEbCAPITAL LETTER KOMI TJEbSMALL LETTER KOMI TJE
    bCAPITAL LETTER REVERSED ZEbSMALL LETTER REVERSED ZEbCAPITAL LETTER EL WITH HOOK
    bSMALL LETTER EL WITH HOOKbCAPITAL LETTER LHAbSMALL LETTER LHAbCAPITAL LETTER RHA
    bSMALL LETTER RHAbCAPITAL LETTER YAEbSMALL LETTER YAEbCAPITAL LETTER QAbSMALL LETTER QA
    bCAPITAL LETTER WEbSMALL LETTER WEbCAPITAL LETTER ALEUT KAbSMALL LETTER ALEUT KA
    bCAPITAL LETTER EL WITH MIDDLE HOOKbSMALL LETTER EL WITH MIDDLE HOOK
    bCAPITAL LETTER EN WITH MIDDLE HOOKbSMALL LETTER EN WITH MIDDLE HOOK
    bCAPITAL LETTER PE WITH DESCENDERbSMALL LETTER PE WITH DESCENDER
    bCAPITAL LETTER SHHA WITH DESCENDERbSMALL LETTER SHHA WITH DESCENDER
    bCAPITAL LETTER EN WITH LEFT HOOKbSMALL LETTER EN WITH LEFT HOOKbCAPITAL LETTER DZZHE
    bSMALL LETTER DZZHEbCAPITAL LETTER DCHEbSMALL LETTER DCHEbCAPITAL LETTER EL WITH DESCENDER
    bSMALL LETTER EL WITH DESCENDER"⟩,
  ⟨0x531, "aARMENIAN CAPITAL LETTER AYBdBENdGIMdDAdECHdZAdEHdETdTOdZHEdINIdLIWNdXEHdCAdKENdHOdJA
    dGHADdCHEHdMENdYIdNOWdSHAdVOdCHAdPEHdJHEHdRAdSEHdVEWdTIWNdREHdCOdYIWNdPIWRdKEHdOHdFEH"⟩,
  ⟨0x559, "aARMENIAN MODIFIER LETTER LEFT HALF RINGbAPOSTROPHEbEMPHASIS MARKbEXCLAMATION MARK
    bCOMMAbQUESTION MARKbABBREVIATION MARKbSMALL LETTER TURNED AYBdAYBdBENdGIMdDAdECHdZAdEHdET
    dTOdZHEdINIdLIWNdXEHdCAdKENdHOdJAdGHADdCHEHdMENdYIdNOWdSHAdVOdCHAdPEHdJHEHdRAdSEHdVEWdTIWN
    dREHdCOdYIWNdPIWRdKEHdOHdFEHcLIGATURE ECH YIWNcLETTER YI WITH STROKEbFULL STOPbHYPHEN"⟩,
  ⟨0x58d, "aRIGHT-FACING ARMENIAN ETERNITY SIGNaLEFT-FACING ARMENIAN ETERNITY SIGN
    aARMENIAN DRAM SIGN"⟩,
  ⟨0x591, "aHEBREW ACCENT ETNAHTAcSEGOLcSHALSHELETcZAQEF QATANdGADOLcTIPEHAcREVIAcZARQAcPASHTA
    cYETIVcTEVIRcGERESHdMUQDAMcGERSHAYIMcQARNEY PARAcTELISHA GEDOLAcPAZERcATNAH HAFUKHcMUNAH
    cMAHAPAKHcMERKHAdKEFULAcDARGAcQADMAcTELISHA QETANAcYERAH BEN YOMOcOLEcILUYcDEHIcZINOR
    bMARK MASORA CIRCLEbPOINT SHEVAcHATAF SEGOLdPATAHdQAMATScHIRIQcTSEREcSEGOLcPATAHcQAMATS
    cHOLAMdHASER FOR VAVcQUBUTScDAGESH OR MAPIQcMETEGbPUNCTUATION MAQAFbPOINT RAFE
    bPUNCTUATION PASEQbPOINT SHIN DOTcSIN DOTbPUNCTUATION SOF PASUQbMARK UPPER DOTcLOWER DOT
    bPUNCTUATION NUN HAFUKHAbPOINT QAMATS QATAN"⟩,
  ⟨0x5d0, "aHEBREW LETTER ALEFcBETcGIMELcDALETcHEcVAVcZAYINcHETcTETcYODcFINAL KAFcKAFcLAMED
    cFINAL MEMcMEMcFINAL NUNcNUNcSAMEKHcAYINcFINAL PEcPEcFINAL TSADIcTSADIcQOFcRESHcSHINcTAV"⟩,
  ⟨0x5ef, "aHEBREW YOD TRIANGLEbLIGATURE YIDDISH DOUBLE VAVdVAV YODdDOUBLE YOD
    bPUNCTUATION GERESHcGERSHAYIM"⟩,
  ⟨0x600, "aARABIC NUMBER SIGNbSIGN SANAHbFOOTNOTE MARKERbSIGN SAFHAcSAMVATbNUMBER MARK ABOVE
    aARABIC-INDIC CUBE ROOTbFOURTH ROOTaARABIC RAYaARABIC-INDIC PER MILLE SIGNcTEN THOUSAND SIGN
    aAFGHANI SIGNaARABIC COMMAbDATE SEPARATORbPOETIC VERSE SIGNbSIGN MISRA
    cSALLALLAHOU ALAYHE WASSALLAMcALAYHE ASSALLAMcRAHMATULLAH ALAYHEcRADI ALLAHOU ANHUcTAKHALLUS
    bSMALL HIGH TAHdLIGATURE ALEF WITH LAM WITH YEHdZAINcFATHAcDAMMAcKASRAbSEMICOLONbLETTER MARK
    bEND OF TEXT MARKbTRIPLE DOT PUNCTUATION MARKbQUESTION MARKbLETTER KASHMIRI YEHcHAMZA
    cALEF WITH MADDA ABOVEeHAMZA ABOVEcWAW WITH HAMZA ABOVEcALEF WITH HAMZA BELOW
    cYEH WITH HAMZA ABOVEcALEFcBEHcTEH MARBUTAcTEHcTHEHcJEEMcHAHcKHAHcDALcTHALcREHcZAINcSEEN
    cSHEENcSADcDADcTAHcZAHcAINcGHAINcKEHEH WITH TWO DOTS ABOVEeTHREE DOTS BELOW
    cFARSI YEH WITH INVERTED VfTWO DOTS ABOVEfTHREE DOTS ABOVEbTATWEELbLETTER FEHcQAFcKAFcLAM
    cMEEMcNOONcHEHcWAWcALEF MAKSURAcYEHbFATHATANbDAMMATANbKASRATANbFATHAbDAMMAbKASRAbSHADDA
    bSUKUNbMADDAH ABOVEbHAMZA ABOVEcBELOWbSUBSCRIPT ALEFbINVERTED DAMMAbMARK NOON GHUNNA
    bZWARAKAYbVOWEL SIGN SMALL V ABOVEdINVERTED SMALL V ABOVEdDOT BELOWbREVERSED DAMMA
    bFATHA WITH TWO DOTSbWAVY HAMZA BELOWaARABIC-INDIC DIGIT ZEROcONEcTWOcTHREEcFOURcFIVEcSIX
    cSEVENcEIGHTcNINEaARABIC PERCENT SIGNbDECIMAL SEPARATORbTHOUSANDS SEPARATOR
    bFIVE POINTED STARbLETTER DOTLESS BEHdQAFcSUPERSCRIPT ALEFcALEF WASLAdWITH WAVY HAMZA ABOVE
    gBELOWcHIGH HAMZAeALEFeWAWcU WITH HAMZA ABOVEcHIGH HAMZA YEHcTTEHcTTEHEHcBEEHcTEH WITH RING
    eTHREE DOTS ABOVE DOWNWARDScPEHcTEHEHcBEHEHcHAH WITH HAMZA ABOVEeTWO DOTS VERTICAL ABOVE
    cNYEHcDYEHcHAH WITH THREE DOTS ABOVEcTCHEHcTCHEHEHcDDALcDAL WITH RINGeDOT BELOW
    gAND SMALL TAHcDAHALcDDAHALcDULcDAL WITH THREE DOTS ABOVE DOWNWARDSeFOUR DOTS ABOVEcRREH
    cREH WITH SMALL VeRINGeDOT BELOWeSMALL V BELOWeDOT BELOW AND DOT ABOVEeTWO DOTS ABOVEcJEH
    cREH WITH FOUR DOTS ABOVEcSEEN WITH DOT BELOW AND DOT ABOVEeTHREE DOTS BELOW
    hAND THREE DOTS ABOVEcSAD WITH TWO DOTS BELOWeTHREE DOTS ABOVEcTAH WITH THREE DOTS ABOVE
    cAIN WITH THREE DOTS ABOVEcDOTLESS FEHcFEH WITH DOT MOVED BELOWfBELOWcVEH
    cFEH WITH THREE DOTS BELOWcPEHEHcQAF WITH DOT ABOVEeTHREE DOTS ABOVEcKEHEHcSWASH KAF
    cKAF WITH RINGeDOT ABOVEcNGcKAF WITH THREE DOTS BELOWcGAFdWITH RINGcNGOEH
    cGAF WITH TWO DOTS BELOWcGUEHcGAF WITH THREE DOTS ABOVEcLAM WITH SMALL VeDOT ABOVE
    eTHREE DOTS ABOVEgBELOWcNOON WITH DOT BELOWdGHUNNAcRNOONcNOON WITH RINGeTHREE DOTS ABOVE
    cHEH DOACHASHMEEcTCHEH WITH DOT ABOVEcHEH WITH YEH ABOVEdGOALeWITH HAMZA ABOVE
    cTEH MARBUTA GOALcWAW WITH RINGcKIRGHIZ OEcOEcUcYUcKIRGHIZ YUcWAW WITH TWO DOTS ABOVEcVE
    cFARSI YEHcYEH WITH TAILeSMALL VcWAW WITH DOT ABOVEcEcYEH WITH THREE DOTS BELOWdBARREE
    eWITH HAMZA ABOVEbFULL STOPbLETTER AEbSMALL HIGH LIGATURE SAD WITH LAM WITH ALEF MAKSURA
    eQAF WITH LAM WITH ALEF MAKSURAdMEEM INITIAL FORMdLAM ALEFdJEEMdTHREE DOTSdSEENbEND OF AYAH
    bSTART OF RUB EL HIZBbSMALL HIGH ROUNDED ZEROdUPRIGHT RECTANGULAR ZEROdDOTLESS HEAD OF KHAH
    dMEEM ISOLATED FORMcLOW SEENcHIGH MADDAcWAWcYEHcHIGH YEHdNOONbPLACE OF SAJDAH
    bEMPTY CENTRE LOW STOPdHIGH STOPbROUNDED HIGH STOP WITH FILLED CENTREbSMALL LOW MEEM
    bLETTER DAL WITH INVERTED VcREH WITH INVERTED VaEXTENDED ARABIC-INDIC DIGIT ZEROdONEdTWO
    dTHREEdFOURdFIVEdSIXdSEVENdEIGHTdNINEaARABIC LETTER SHEEN WITH DOT BELOWcDAD WITH DOT BELOW
    cGHAIN WITH DOT BELOWbSIGN SINDHI AMPERSANDdPOSTPOSITION MENbLETTER HEH WITH INVERTED V
    aSYRIAC END OF PARAGRAPHbSUPRALINEAR FULL STOPbSUBLINEAR FULL STOPbSUPRALINEAR COLON
    bSUBLINEAR COLONbHORIZONTAL COLONbCOLON SKEWED LEFTdRIGHTbSUPRALINEAR COLON SKEWED LEFT
    bSUBLINEAR COLON SKEWED RIGHTbCONTRACTIONbHARKLEAN OBELUScMETOBELUScASTERISCUS"⟩,
  ⟨0x70f, "aSYRIAC ABBREVIATION MARKbLETTER ALAPHcSUPERSCRIPT ALAPHcBETHcGAMALdGARSHUNIcDALATH
    cDOTLESS DALATH RISHcHEcWAWcZAINcHETHcTETHdGARSHUNIcYUDHdHEcKAPHcLAMADHcMIMcNUNcSEMKATH
    cFINAL SEMKATHcEcPEcREVERSED PEcSADHEcQAPHcRISHcSHINcTAWcPERSIAN BHETHdGHAMALdDHALATH
    bPTHAHA ABOVEcBELOWcDOTTEDbZQAPHA ABOVEcBELOWcDOTTEDbRBASA ABOVEcBELOW
    bDOTTED ZLAMA HORIZONTALdANGULARbHBASA ABOVEcBELOWbHBASA-ESASA DOTTEDbESASA ABOVEcBELOW
    bRWAHAbFEMININE DOTbQUSHSHAYAbRUKKAKHAbTWO VERTICAL DOTS ABOVEeBELOWbTHREE DOTS ABOVEdBELOW
    bOBLIQUE LINE ABOVEdBELOWbMUSICbBARREKH"⟩, ⟨0x74d, "aSYRIAC LETTER SOGDIAN ZHAINdKHAPHdFE
    aARABIC LETTER BEH WITH THREE DOTS HORIZONTALLY BELOWeDOT BELOW AND THREE DOTS ABOVE
    eTHREE DOTS POINTING UPWARDS BELOWjAND TWO DOTS ABOVEeTWO DOTS BELOW AND DOT ABOVE
    eINVERTED SMALL V BELOWeSMALL VcHAH WITH TWO DOTS ABOVEeTHREE DOTS POINTING UPWARDS BELOW
    cDAL WITH TWO DOTS VERTICALLY BELOW AND SMALL TAHeINVERTED SMALL V BELOWcREH WITH STROKE
    cSEEN WITH FOUR DOTS ABOVEcAIN WITH TWO DOTS ABOVEeTHREE DOTS POINTING DOWNWARDS ABOVE
    eTWO DOTS VERTICALLY ABOVEcFEH WITH TWO DOTS BELOWeTHREE DOTS POINTING UPWARDS BELOW
    cKEHEH WITH DOT ABOVEeTHREE DOTS ABOVEgPOINTING UPWARDS BELOWcMEEM WITH DOT ABOVEfBELOW
    cNOON WITH TWO DOTS BELOWeSMALL TAHfVcLAM WITH BARcREH WITH TWO DOTS VERTICALLY ABOVE
    eHAMZA ABOVEcSEEN WITH TWO DOTS VERTICALLY ABOVEcHAH WITH SMALL ARABIC LETTER TAH BELOW
    iAND TWO DOTScSEEN WITH SMALL ARABIC LETTER TAH AND TWO DOTS
    cREH WITH SMALL ARABIC LETTER TAH AND TWO DOTScHAH WITH SMALL ARABIC LETTER TAH ABOVE
    cALEF WITH EXTENDED ARABIC-INDIC DIGIT TWO ABOVEhTHREE ABOVE
    cFARSI YEH WITH EXTENDED ARABIC-INDIC DIGIT TWO ABOVEiTHREE ABOVEiFOUR BELOW
    cWAW WITH EXTENDED ARABIC-INDIC DIGIT TWO ABOVEhTHREE ABOVE
    cYEH BARREE WITH EXTENDED ARABIC-INDIC DIGIT TWO ABOVEiTHREE ABOVE
    cHAH WITH EXTENDED ARABIC-INDIC DIGIT FOUR BELOW
    cSEEN WITH EXTENDED ARABIC-INDIC DIGIT FOUR ABOVEeINVERTED VcKAF WITH TWO DOTS ABOVE
    aTHAANA LETTER HAAcSHAVIYANIcNOONUcRAAcBAAcLHAVIYANIcKAAFUcALIFUcVAAVUcMEEMUcFAAFUcDHAALU
    cTHAAcLAAMUcGAAFUcGNAVIYANIcSEENUcDAVIYANIcZAVIYANIcTAVIYANIcYAAcPAVIYANIcJAVIYANIcCHAVIYANI
    cTTAAcHHAAcKHAAcTHAALUcZAAcSHEENUcSAADHUcDAADHUcTOcZOcAINUcGHAINUcQAAFUcWAAVUbABAFILI
    bAABAAFILIbIBIFILIbEEBEEFILIbUBUFILIbOOBOOFILIbEBEFILIbEYBEYFILIbOBOFILIbOABOAFILIbSUKUN
    bLETTER NAA"⟩,
  ⟨0x7c0, "aNKO DIGIT ZEROcONEcTWOcTHREEcFOURcFIVEcSIXcSEVENcEIGHTcNINEbLETTER AcEEcIcEcUcOOcO
    cDAGBASINNAcNcBAcPAcTAcJAcCHAcDAcRAcRRAcSAcGBAcFAcKAcLAcNA WOLOSOcMAcNYAcNAcHAcWAcYA
    cNYA WOLOSOcJONA JAdCHAdRAbCOMBINING SHORT HIGH TONEdLOW TONEdRISING TONE
    cLONG DESCENDING TONEdHIGH TONEdLOW TONEdRISING TONEcNASALIZATION MARKcDOUBLE DOT ABOVE
    bHIGH TONE APOSTROPHEbLOW TONE APOSTROPHEbSYMBOL OO DENNENcGBAKURUNENbCOMMAbEXCLAMATION MARK
    bLAJANYALAN"⟩,
  ⟨0x7fd, "aNKO DANTAYALANbDOROME SIGNbTAMAN SIGNaSAMARITAN LETTER ALAFcBITcGAMANcDALATcIYcBAA
    cZENcITcTITcYUTcKAAFcLABATcMIMcNUNcSINGAATcINcFIcTSAADIYcQUFcRISHcSHANcTAAFbMARK INcIN-ALAF
    cOCCLUSIONcDAGESHbMODIFIER LETTER EPENTHETIC YUTbMARK EPENTHETIC YUTbVOWEL SIGN LONG EdE
    dOVERLONG AAdLONG AAdAAdOVERLONG AdLONG AdAbMODIFIER LETTER SHORT AbVOWEL SIGN SHORT A
    dLONG UdUbMODIFIER LETTER IbVOWEL SIGN LONG IdIdOdSUKUNbMARK NEQUDAA"⟩,
  ⟨0x830, "aSAMARITAN PUNCTUATION NEQUDAAcAFSAAQcANGEDcBAUcATMAAUcSHIYYAALAAbABBREVIATION MARK
    bPUNCTUATION MELODIC QITSAcZIQAAcQITSAcZAEFcTURUcARKAANUcSOF MASHFAATcANNAAU"⟩,
  ⟨0x840, "aMANDAIC LETTER HALQAcABcAGcADcAHcUSHENNAcAZcITcATTcAKSAcAKcALcAMcANcAScINcAPcASZcAQ
    cARcASHcATcDUSHENNAcKADcAINbAFFRICATION MARKbVOCALIZATION MARKbGEMINATION MARK"⟩,
  ⟨0x85e, "aMANDAIC PUNCTUATION"⟩,
  ⟨0x860, "aSYRIAC LETTER MALAYALAM NGAdJAdNYAdTTAdNNAdNNNAdBHAdRAdLLAdLLLAdSSA"⟩,
  ⟨0x870, "aARABIC LETTER ALEF WITH ATTACHED FATHAfTOP RIGHT FATHAeRIGHT MIDDLE STROKE
    eLEFT MIDDLE STROKEeATTACHED KASRAfBOTTOM RIGHT KASRAfROUND DOT ABOVEfRIGHT ROUND DOT
    fLEFT ROUND DOTfROUND DOT BELOWeDOT ABOVEeATTACHED TOP RIGHT FATHA AND DOT ABOVE
    eRIGHT MIDDLE STROKE AND DOT ABOVEeATTACHED BOTTOM RIGHT KASRA AND DOT ABOVE
    fTOP RIGHT FATHA AND LEFT RINGeRIGHT MIDDLE STROKE AND LEFT RING
    eATTACHED BOTTOM RIGHT KASRA AND LEFT RINGfRIGHT HAMZAfLEFT HAMZA
    bTATWEEL WITH OVERSTRUCK HAMZAeWAWdTWO DOTS BELOWbLETTER THIN YEHbBASELINE ROUND DOT
    bRAISED ROUND DOTbLETTER NOON WITH INVERTED SMALL VcHAH WITH INVERTED SMALL V BELOW
    cTAH WITH DOT BELOWeTHREE DOTS BELOWcKEHEH WITH TWO DOTS VERTICALLY BELOWbVERTICAL TAIL"⟩,
  ⟨0x890, "aARABIC POUND MARK ABOVEbPIASTRE MARK ABOVE"⟩,
  ⟨0x898, "aARABIC SMALL HIGH WORD AL-JUZcLOW WORD ISHMAAMeIMAALAeTASHEELbMADDA WAAJIB
    bSUPERSCRIPT ALEF MOKHASSASbDOUBLED MADDAbHALF MADDA OVER MADDA
    bLETTER BEH WITH SMALL V BELOWeHAMZA ABOVEcJEEM WITH TWO DOTS ABOVEcTAH WITH TWO DOTS ABOVE
    cFEH WITH DOT BELOW AND THREE DOTS ABOVEcQAF WITH DOT BELOWcLAM WITH DOUBLE BAR
    cMEEM WITH THREE DOTS ABOVEcYEH WITH TWO DOTS BELOW AND HAMZA ABOVEiDOT ABOVEcREH WITH LOOP
    cWAW WITH DOT WITHINcROHINGYA YEHcLOW ALEFcDAL WITH THREE DOTS BELOW
    cSAD WITH THREE DOTS BELOWcGAF WITH INVERTED STROKEcSTRAIGHT WAWcZAIN WITH INVERTED V ABOVE
    cAIN WITH THREE DOTS BELOWcKAF WITH DOT BELOWcQAF WITH DOT BELOW AND NO DOTS ABOVE
    cBEH WITH SMALL MEEM ABOVEcPEH WITH SMALL MEEM ABOVEcTEH WITH SMALL TEH ABOVE
    cREH WITH SMALL NOON ABOVEcYEH WITH TWO DOTS BELOW AND SMALL NOON ABOVEcAFRICAN FEHdQAFdNOON
    cPEH WITH SMALL VcTEH WITH SMALL VcTTEH WITH SMALL VcTCHEH WITH SMALL VcKEHEH WITH SMALL V
    cGHAIN WITH THREE DOTS ABOVEcAFRICAN QAF WITH THREE DOTS ABOVEcJEEM WITH THREE DOTS ABOVE
    gBELOWcLAM WITH SMALL ARABIC LETTER TAH ABOVEcGRAFbSMALL FARSI YEHcHIGH FARSI YEH
    dYEH BARREE WITH TWO DOTS BELOWdWORD SAHdZAHbLARGE ROUND DOT ABOVEeBELOWbSUKUN BELOW
    bLARGE CIRCLE BELOWcROUND DOT INSIDE CIRCLE BELOWbSMALL LOW WAWcHIGH WORD AR-RUBdSADdAINdQAF
    dNOON WITH KASRAcLOW NOON WITH KASRAcHIGH WORD ATH-THALATHAeAS-SAJDAeAN-NISFeSAKTAeQIFeWAQFA
    dFOOTNOTE MARKERdSIGN SAFHAbDISPUTED END OF AYAHbTURNED DAMMA BELOWbCURLY FATHAcDAMMAcKASRA
    cFATHATANcDAMMATANcKASRATANbTONE ONE DOT ABOVEcTWO DOTS ABOVEcLOOP ABOVEcONE DOT BELOW
    cTWO DOTS BELOWcLOOP BELOWbOPEN FATHATANcDAMMATANcKASRATANbSMALL HIGH WAWbFATHA WITH RING
    dDOT ABOVEbKASRA WITH DOT BELOWbLEFT ARROWHEAD ABOVEbRIGHT ARROWHEAD ABOVE
    bLEFT ARROWHEAD BELOWbRIGHT ARROWHEAD BELOWbDOUBLE RIGHT ARROWHEAD ABOVEfWITH DOT
    bRIGHT ARROWHEAD ABOVE WITH DOTbDAMMA WITH DOTbMARK SIDEWAYS NOON GHUNNA
    aDEVANAGARI SIGN INVERTED CANDRABINDUcCANDRABINDUcANUSVARAcVISARGAbLETTER SHORT AcAcAAcIcII
    cUcUUcVOCALIC RdLcCANDRA EcSHORT EcEcAIcCANDRA OcSHORT OcOcAUcKAcKHAcGAcGHAcNGAcCAcCHAcJA
    cJHAcNYAcTTAcTTHAcDDAcDDHAcNNAcTAcTHAcDAcDHAcNAcNNNAcPAcPHAcBAcBHAcMAcYAcRAcRRAcLAcLLAcLLLA
    cVAcSHAcSSAcSAcHAbVOWEL SIGN OEdOOEbSIGN NUKTAcAVAGRAHAbVOWEL SIGN AAdIdIIdUdUUdVOCALIC ReRR
    dCANDRA EdSHORT EdEdAIdCANDRA OdSHORT OdOdAUbSIGN VIRAMAbVOWEL SIGN PRISHTHAMATRA EdAWbOM
    bSTRESS SIGN UDATTAdANUDATTAbGRAVE ACCENTbACUTE ACCENTbVOWEL SIGN CANDRA LONG EdUEdUUE
    bLETTER QAcKHHAcGHHAcZAcDDDHAcRHAcFAcYYAcVOCALIC RRdLLbVOWEL SIGN VOCALIC LeLLbDANDA
    bDOUBLE DANDAbDIGIT ZEROcONEcTWOcTHREEcFOURcFIVEcSIXcSEVENcEIGHTcNINEbABBREVIATION SIGN
    bSIGN HIGH SPACING DOTbLETTER CANDRA AcOEcOOEcAWcUEcUUEcMARWARI DDAcZHAcHEAVY YAcGGAcJJA
    cGLOTTAL STOPcDDDAcBBAaBENGALI ANJIbSIGN CANDRABINDUcANUSVARAcVISARGA"⟩,
  ⟨0x985, "aBENGALI LETTER AcAAcIcIIcUcUUcVOCALIC RdL"⟩, ⟨0x98f, "aBENGALI LETTER EcAI"⟩,
  ⟨0x993, "aBENGALI LETTER OcAUcKAcKHAcGAcGHAcNGAcCAcCHAcJAcJHAcNYAcTTAcTTHAcDDAcDDHAcNNAcTAcTHA
    cDAcDHAcNA"⟩, ⟨0x9aa, "aBENGALI LETTER PAcPHAcBAcBHAcMAcYAcRA"⟩, ⟨0x9b2, "aBENGALI LETTER LA"⟩,
  ⟨0x9b6, "aBENGALI LETTER SHAcSSAcSAcHA"⟩,
  ⟨0x9bc, "aBENGALI SIGN NUKTAcAVAGRAHAbVOWEL SIGN AAdIdIIdUdUUdVOCALIC ReRR"⟩,
  ⟨0x9c7, "aBENGALI VOWEL SIGN EdAI"⟩,
  ⟨0x9cb, "aBENGALI VOWEL SIGN OdAUbSIGN VIRAMAbLETTER KHANDA TA"⟩,
  ⟨0x9d7, "aBENGALI AU LENGTH MARK"⟩, ⟨0x9dc, "aBENGALI LETTER RRAcRHA"⟩,
  ⟨0x9df, "aBENGALI LETTER YYAcVOCALIC RRdLLbVOWEL SIGN VOCALIC LeLL"⟩,
  ⟨0x9e6, "aBENGALI DIGIT ZEROcONEcTWOcTHREEcFOURcFIVEcSIXcSEVENcEIGHTcNINE
    bLETTER RA WITH MIDDLE DIAGONALeLOWER DIAGONALbRUPEE MARKcSIGNbCURRENCY NUMERATOR ONEdTWO
    dTHREEdFOURdONE LESS THAN THE DENOMINATORcDENOMINATOR SIXTEENbISSHARbGANDA MARK
    bLETTER VEDIC ANUSVARAbABBREVIATION SIGNbSANDHI MARK"⟩,
  ⟨0xa01, "aGURMUKHI SIGN ADAK BINDIcBINDIcVISARGA"⟩, ⟨0xa05, "aGURMUKHI LETTER AcAAcIcIIcUcUU"⟩,
  ⟨0xa0f, "aGURMUKHI LETTER EEcAI"⟩,
  ⟨0xa13, "aGURMUKHI LETTER OOcAUcKAcKHAcGAcGHAcNGAcCAcCHAcJAcJHAcNYAcTTAcTTHAcDDAcDDHAcNNAcTA
    cTHAcDAcDHAcNA"⟩, ⟨0xa2a, "aGURMUKHI LETTER PAcPHAcBAcBHAcMAcYAcRA"⟩,
  ⟨0xa32, "aGURMUKHI LETTER LAcLLA"⟩, ⟨0xa35, "aGURMUKHI LETTER VAcSHA"⟩,
  ⟨0xa38, "aGURMUKHI LETTER SAcHA"⟩, ⟨0xa3c, "aGURMUKHI SIGN NUKTA"⟩,
  ⟨0xa3e, "aGURMUKHI VOWEL SIGN AAdIdIIdUdUU"⟩, ⟨0xa47, "aGURMUKHI VOWEL SIGN EEdAI"⟩,
  ⟨0xa4b, "aGURMUKHI VOWEL SIGN OOdAUbSIGN VIRAMA"⟩, ⟨0xa51, "aGURMUKHI SIGN UDAAT"⟩,
  ⟨0xa59, "aGURMUKHI LETTER KHHAcGHHAcZAcRRA"⟩, ⟨0xa5e, "aGURMUKHI LETTER FA"⟩,
  ⟨0xa66, "aGURMUKHI DIGIT ZEROcONEcTWOcTHREEcFOURcFIVEcSIXcSEVENcEIGHTcNINEbTIPPIbADDAKbIRIbURA
    bEK ONKARbSIGN YAKASHbABBREVIATION SIGN"⟩,
  ⟨0xa81, "aGUJARATI SIGN CANDRABINDUcANUSVARAcVISARGA"⟩,
  ⟨0xa85, "aGUJARATI LETTER AcAAcIcIIcUcUUcVOCALIC RdLbVOWEL CANDRA E"⟩,
  ⟨0xa8f, "aGUJARATI LETTER EcAIbVOWEL CANDRA O"⟩,
  ⟨0xa93, "aGUJARATI LETTER OcAUcKAcKHAcGAcGHAcNGAcCAcCHAcJAcJHAcNYAcTTAcTTHAcDDAcDDHAcNNAcTA
    cTHAcDAcDHAcNA"⟩, ⟨0xaaa, "aGUJARATI LETTER PAcPHAcBAcBHAcMAcYAcRA"⟩,
  ⟨0xab2, "aGUJARATI LETTER LAcLLA"⟩, ⟨0xab5, "aGUJARATI LETTER VAcSHAcSSAcSAcHA"⟩,
  ⟨0xabc, "aGUJARATI SIGN NUKTAcAVAGRAHAbVOWEL SIGN AAdIdIIdUdUUdVOCALIC ReRRdCANDRA E"⟩,
  ⟨0xac7, "aGUJARATI VOWEL SIGN EdAIdCANDRA O"⟩, ⟨0xacb, "aGUJARATI VOWEL SIGN OdAUbSIGN VIRAMA"⟩,
  ⟨0xad0, "aGUJARATI OM"⟩, ⟨0xae0, "aGUJARATI LETTER VOCALIC RRdLLbVOWEL SIGN VOCALIC LeLL"⟩,
  ⟨0xae6, "aGUJARATI DIGIT ZEROcONEcTWOcTHREEcFOURcFIVEcSIXcSEVENcEIGHTcNINEbABBREVIATION SIGN
    bRUPEE SIGN"⟩, ⟨0xaf9, "aGUJARATI LETTER ZHAbSIGN SUKUNcSHADDAcMADDAHcTHREE-DOT NUKTA ABOVE
    cCIRCLE NUKTA ABOVEcTWO-CIRCLE NUKTA ABOVE"⟩,
  ⟨0xb01, "aORIYA SIGN CANDRABINDUcANUSVARAcVISARGA"⟩,
  ⟨0xb05, "aORIYA LETTER AcAAcIcIIcUcUUcVOCALIC RdL"⟩, ⟨0xb0f, "aORIYA LETTER EcAI"⟩,
  ⟨0xb13, "aORIYA LETTER OcAUcKAcKHAcGAcGHAcNGAcCAcCHAcJAcJHAcNYAcTTAcTTHAcDDAcDDHAcNNAcTAcTHA
    cDAcDHAcNA"⟩, ⟨0xb2a, "aORIYA LETTER PAcPHAcBAcBHAcMAcYAcRA"⟩, ⟨0xb32, "aORIYA LETTER LAcLLA"⟩,
  ⟨0xb35, "aORIYA LETTER VAcSHAcSSAcSAcHA"⟩,
  ⟨0xb3c, "aORIYA SIGN NUKTAcAVAGRAHAbVOWEL SIGN AAdIdIIdUdUUdVOCALIC ReRR"⟩,
  ⟨0xb47, "aORIYA VOWEL SIGN EdAI"⟩, ⟨0xb4b, "aORIYA VOWEL SIGN OdAUbSIGN VIRAMA"⟩,
  ⟨0xb55, "aORIYA SIGN OVERLINEbAI LENGTH MARKbAU LENGTH MARK"⟩, ⟨0xb5c, "aORIYA LETTER RRAcRHA"⟩,
  ⟨0xb5f, "aORIYA LETTER YYAcVOCALIC RRdLLbVOWEL SIGN VOCALIC LeLL"⟩,
  ⟨0xb66, "aORIYA DIGIT ZEROcONEcTWOcTHREEcFOURcFIVEcSIXcSEVENcEIGHTcNINEbISSHARbLETTER WA
    bFRACTION ONE QUARTERdHALFcTHREE QUARTERScONE SIXTEENTHdEIGHTHcTHREE SIXTEENTHS"⟩,
  ⟨0xb82, "aTAMIL SIGN ANUSVARAcVISARGA"⟩, ⟨0xb85, "aTAMIL LETTER AcAAcIcIIcUcUU"⟩,
  ⟨0xb8e, "aTAMIL LETTER EcEEcAI"⟩, ⟨0xb92, "aTAMIL LETTER OcOOcAUcKA"⟩,
  ⟨0xb99, "aTAMIL LETTER NGAcCA"⟩, ⟨0xb9c, "aTAMIL LETTER JA"⟩, ⟨0xb9e, "aTAMIL LETTER NYAcTTA"⟩,
  ⟨0xba3, "aTAMIL LETTER NNAcTA"⟩, ⟨0xba8, "aTAMIL LETTER NAcNNNAcPA"⟩,
  ⟨0xbae, "aTAMIL LETTER MAcYAcRAcRRAcLAcLLAcLLLAcVAcSHAcSSAcSAcHA"⟩,
  ⟨0xbbe, "aTAMIL VOWEL SIGN AAdIdIIdUdUU"⟩, ⟨0xbc6, "aTAMIL VOWEL SIGN EdEEdAI"⟩,
  ⟨0xbca, "aTAMIL VOWEL SIGN OdOOdAUbSIGN VIRAMA"⟩, ⟨0xbd0, "aTAMIL OM"⟩,
  ⟨0xbd7, "aTAMIL AU LENGTH MARK"⟩,
  ⟨0xbe6, "aTAMIL DIGIT ZEROcONEcTWOcTHREEcFOURcFIVEcSIXcSEVENcEIGHTcNINEbNUMBER TENcONE HUNDRED
    dTHOUSANDbDAY SIGNbMONTH SIGNbYEAR SIGNbDEBIT SIGNbCREDIT SIGNbAS ABOVE SIGNbRUPEE SIGN
    bNUMBER SIGN"⟩, ⟨0xc00, "aTELUGU SIGN COMBINING CANDRABINDU ABOVEcCANDRABINDUcANUSVARAcVISARGA
    cCOMBINING ANUSVARA ABOVEbLETTER AcAAcIcIIcUcUUcVOCALIC RdL"⟩,
  ⟨0xc0e, "aTELUGU LETTER EcEEcAI"⟩,
  ⟨0xc12, "aTELUGU LETTER OcOOcAUcKAcKHAcGAcGHAcNGAcCAcCHAcJAcJHAcNYAcTTAcTTHAcDDAcDDHAcNNAcTA
    cTHAcDAcDHAcNA"⟩,
  ⟨0xc2a, "aTELUGU LETTER PAcPHAcBAcBHAcMAcYAcRAcRRAcLAcLLAcLLLAcVAcSHAcSSAcSAcHA"⟩,
  ⟨0xc3c, "aTELUGU SIGN NUKTAcAVAGRAHAbVOWEL SIGN AAdIdIIdUdUUdVOCALIC ReRR"⟩,
  ⟨0xc46, "aTELUGU VOWEL SIGN EdEEdAI"⟩, ⟨0xc4a, "aTELUGU VOWEL SIGN OdOOdAUbSIGN VIRAMA"⟩,
  ⟨0xc55, "aTELUGU LENGTH MARKbAI LENGTH MARK"⟩, ⟨0xc58, "aTELUGU LETTER TSAcDZAcRRRA"⟩,
  ⟨0xc5d, "aTELUGU LETTER NAKAARA POLLU"⟩,
  ⟨0xc60, "aTELUGU LETTER VOCALIC RRdLLbVOWEL SIGN VOCALIC LeLL"⟩,
  ⟨0xc66, "aTELUGU DIGIT ZEROcONEcTWOcTHREEcFOURcFIVEcSIXcSEVENcEIGHTcNINE"⟩,
  ⟨0xc77, "aTELUGU SIGN SIDDHAMbFRACTION DIGIT ZERO FOR ODD POWERS OF FOUR
    dONE FOR ODD POWERS OF FOURdTWO FOR ODD POWERS OF FOURdTHREE FOR ODD POWERS OF FOUR
    dONE FOR EVEN POWERS OF FOURdTWO FOR EVEN POWERS OF FOURdTHREE FOR EVEN POWERS OF FOUR
    bSIGN TUUMUaKANNADA SIGN SPACING CANDRABINDUcCANDRABINDUcANUSVARAcVISARGAcSIDDHAMbLETTER A
    cAAcIcIIcUcUUcVOCALIC RdL"⟩, ⟨0xc8e, "aKANNADA LETTER EcEEcAI"⟩,
  ⟨0xc92, "aKANNADA LETTER OcOOcAUcKAcKHAcGAcGHAcNGAcCAcCHAcJAcJHAcNYAcTTAcTTHAcDDAcDDHAcNNAcTA
    cTHAcDAcDHAcNA"⟩, ⟨0xcaa, "aKANNADA LETTER PAcPHAcBAcBHAcMAcYAcRAcRRAcLAcLLA"⟩,
  ⟨0xcb5, "aKANNADA LETTER VAcSHAcSSAcSAcHA"⟩,
  ⟨0xcbc, "aKANNADA SIGN NUKTAcAVAGRAHAbVOWEL SIGN AAdIdIIdUdUUdVOCALIC ReRR"⟩,
  ⟨0xcc6, "aKANNADA VOWEL SIGN EdEEdAI"⟩, ⟨0xcca, "aKANNADA VOWEL SIGN OdOOdAUbSIGN VIRAMA"⟩,
  ⟨0xcd5, "aKANNADA LENGTH MARKbAI LENGTH MARK"⟩, ⟨0xcdd, "aKANNADA LETTER NAKAARA POLLUcFA"⟩,
  ⟨0xce0, "aKANNADA LETTER VOCALIC RRdLLbVOWEL SIGN VOCALIC LeLL"⟩,
  ⟨0xce6, "aKANNADA DIGIT ZEROcONEcTWOcTHREEcFOURcFIVEcSIXcSEVENcEIGHTcNINE"⟩,
  ⟨0xcf1, "aKANNADA SIGN JIHVAMULIYAcUPADHMANIYA"⟩,
  ⟨0xd00, "aMALAYALAM SIGN COMBINING ANUSVARA ABOVEcCANDRABINDUcANUSVARAcVISARGA
    bLETTER VEDIC ANUSVARAcAcAAcIcIIcUcUUcVOCALIC RdL"⟩, ⟨0xd0e, "aMALAYALAM LETTER EcEEcAI"⟩,
  ⟨0xd12, "aMALAYALAM LETTER OcOOcAUcKAcKHAcGAcGHAcNGAcCAcCHAcJAcJHAcNYAcTTAcTTHAcDDAcDDHAcNNA
    cTAcTHAcDAcDHAcNAcNNNAcPAcPHAcBAcBHAcMAcYAcRAcRRAcLAcLLAcLLLAcVAcSHAcSSAcSAcHAcTTTA
    bSIGN VERTICAL BAR VIRAMAcCIRCULAR VIRAMAcAVAGRAHAbVOWEL SIGN AAdIdIIdUdUUdVOCALIC ReRR"⟩,
  ⟨0xd46, "aMALAYALAM VOWEL SIGN EdEEdAI"⟩,
  ⟨0xd4a, "aMALAYALAM VOWEL SIGN OdOOdAUbSIGN VIRAMAbLETTER DOT REPHbSIGN PARA"⟩,
  ⟨0xd54, "aMALAYALAM LETTER CHILLU MdYdLLLbAU LENGTH MARKbFRACTION ONE ONE-HUNDRED-AND-SIXTIETH
    dFORTIETHcTHREE EIGHTIETHScONE TWENTIETHdTENTHcTHREE TWENTIETHScONE FIFTHbLETTER ARCHAIC II
    cVOCALIC RRdLLbVOWEL SIGN VOCALIC LeLL"⟩,
  ⟨0xd66, "aMALAYALAM DIGIT ZEROcONEcTWOcTHREEcFOURcFIVEcSIXcSEVENcEIGHTcNINEbNUMBER TEN
    cONE HUNDREDdTHOUSANDbFRACTION ONE QUARTERdHALFcTHREE QUARTERScONE SIXTEENTHdEIGHTH
    cTHREE SIXTEENTHSbDATE MARKbLETTER CHILLU NNdNdRRdLdLLdK"⟩,
  ⟨0xd81, "aSINHALA SIGN CANDRABINDUcANUSVARAYAcVISARGAYA"⟩,
  ⟨0xd85, "aSINHALA LETTER AYANNAcAAYANNAcAEYANNAcAEEYANNAcIYANNAcIIYANNAcUYANNAcUUYANNA
    cIRUYANNAcIRUUYANNAcILUYANNAcILUUYANNAcEYANNAcEEYANNAcAIYANNAcOYANNAcOOYANNAcAUYANNA"⟩,
  ⟨0xd9a, "aSINHALA LETTER ALPAPRAANA KAYANNAcMAHAAPRAANA KAYANNAcALPAPRAANA GAYANNA
    cMAHAAPRAANA GAYANNAcKANTAJA NAASIKYAYAcSANYAKA GAYANNAcALPAPRAANA CAYANNA
    cMAHAAPRAANA CAYANNAcALPAPRAANA JAYANNAcMAHAAPRAANA JAYANNAcTAALUJA NAASIKYAYA
    dSANYOOGA NAAKSIKYAYAcSANYAKA JAYANNAcALPAPRAANA TTAYANNAcMAHAAPRAANA TTAYANNA
    cALPAPRAANA DDAYANNAcMAHAAPRAANA DDAYANNAcMUURDHAJA NAYANNAcSANYAKA DDAYANNA
    cALPAPRAANA TAYANNAcMAHAAPRAANA TAYANNAcALPAPRAANA DAYANNAcMAHAAPRAANA DAYANNA
    cDANTAJA NAYANNA"⟩,
  ⟨0xdb3, "aSINHALA LETTER SANYAKA DAYANNAcALPAPRAANA PAYANNAcMAHAAPRAANA PAYANNA
    cALPAPRAANA BAYANNAcMAHAAPRAANA BAYANNAcMAYANNAcAMBA BAYANNAcYAYANNAcRAYANNA"⟩,
  ⟨0xdbd, "aSINHALA LETTER DANTAJA LAYANNA"⟩,
  ⟨0xdc0, "aSINHALA LETTER VAYANNAcTAALUJA SAYANNAcMUURDHAJA SAYANNAcDANTAJA SAYANNAcHAYANNA
    cMUURDHAJA LAYANNAcFAYANNA"⟩, ⟨0xdca, "aSINHALA SIGN AL-LAKUNA"⟩,
  ⟨0xdcf, "aSINHALA VOWEL SIGN AELA-PILLAdKETTI AEDA-PILLAdDIGA AEDA-PILLAdKETTI IS-PILLA
    dDIGA IS-PILLAdKETTI PAA-PILLA"⟩, ⟨0xdd6, "aSINHALA VOWEL SIGN DIGA PAA-PILLA"⟩,
  ⟨0xdd8, "aSINHALA VOWEL SIGN GAETTA-PILLAdKOMBUVAdDIGA KOMBUVAdKOMBU DEKA
    dKOMBUVA HAA AELA-PILLAfDIGA AELA-PILLAfGAYANUKITTAdGAYANUKITTA"⟩,
  ⟨0xde6, "aSINHALA LITH DIGIT ZEROdONEdTWOdTHREEdFOURdFIVEdSIXdSEVENdEIGHTdNINE"⟩,
  ⟨0xdf2, "aSINHALA VOWEL SIGN DIGA GAETTA-PILLAeGAYANUKITTAbPUNCTUATION KUNDDALIYA"⟩,
  ⟨0xe01, "aTHAI CHARACTER KO KAIcKHO KHAIdKHUATdKHWAIdKHONdRAKHANGcNGO NGUcCHO CHANdCHINGdCHANG
    cSO SOcCHO CHOEcYO YINGcDO CHADAcTO PATAKcTHO THANdNANGMONTHOdPHUTHAOcNO NENcDO DEKcTO TAO
    cTHO THUNGdTHAHANdTHONGcNO NUcBO BAIMAIcPO PLAcPHO PHUNGcFO FAcPHO PHANcFO FANcPHO SAMPHAO
    cMO MAcYO YAKcRO RUAcRUcLO LINGcLUcWO WAENcSO SALAdRUSIdSUAcHO HIPcLO CHULAcO ANGcHO NOKHUK
    cPAIYANNOIcSARA AcMAI HAN-AKATcSARA AAdAMdIdIIdUEdUEEdUdUUcPHINTHU"⟩,
  ⟨0xe3f, "aTHAI CURRENCY SYMBOL BAHTbCHARACTER SARA EdAEdOdAI MAIMUANeMAIMALAIcLAKKHANGYAO
    cMAIYAMOKcMAITAIKHUcMAI EKdTHOdTRIdCHATTAWAcTHANTHAKHATcNIKHAHITcYAMAKKANcFONGMANbDIGIT ZERO
    cONEcTWOcTHREEcFOURcFIVEcSIXcSEVENcEIGHTcNINEbCHARACTER ANGKHANKHUcKHOMUT"⟩,
  ⟨0xe81, "aLAO LETTER KOcKHO SUNG"⟩, ⟨0xe84, "aLAO LETTER KHO TAM"⟩,
  ⟨0xe86, "aLAO LETTER PALI GHAcNGOcCOcPALI CHAcSO TAM"⟩,
  ⟨0xe8c, "aLAO LETTER PALI JHAcNYOcPALI NYAdTTAdTTHAdDDAdDDHAdNNAcDOcTOcTHO SUNGdTAMcPALI DHA
    cNOcBOcPOcPHO SUNGcFO TAMcPHO TAMcFO SUNGcPALI BHAcMOcYOcLO LING"⟩,
  ⟨0xea5, "aLAO LETTER LO LOOT"⟩,
  ⟨0xea7, "aLAO LETTER WOcSANSKRIT SHAdSSAcSO SUNGcHO SUNGcPALI LLAcOcHO TAMbELLIPSIS
    bVOWEL SIGN AdMAI KANdAAdAMdIdIIdYdYYdUdUUbSIGN PALI VIRAMAbVOWEL SIGN MAI KON
    bSEMIVOWEL SIGN LOdNYO"⟩, ⟨0xec0, "aLAO VOWEL SIGN EdEIdOdAYdAI"⟩, ⟨0xec6, "aLAO KO LA"⟩,
  ⟨0xec8, "aLAO TONE MAI EKdTHOdTIdCATAWAbCANCELLATION MARKbNIGGAHITA"⟩,
  ⟨0xed0, "aLAO DIGIT ZEROcONEcTWOcTHREEcFOURcFIVEcSIXcSEVENcEIGHTcNINE"⟩,
  ⟨0xedc, "aLAO HO NOcMObLETTER KHMU GOdNYO"⟩,
  ⟨0xf00, "aTIBETAN SYLLABLE OMbMARK GTER YIG MGO TRUNCATED Af-UM RNAM BCAD MAgGTER TSHEG MA
    cINITIAL YIG MGO MDUN MAcCLOSING YIG MGO SGAB MAcCARET YIG MGO PHUR SHAD MA
    cYIG MGO TSHEG SHAD MAcSBRUL SHADcBSKUR YIG MGOcBKA- SHOG YIG MGOcINTERSYLLABIC TSHEG
    cDELIMITER TSHEG BSTARcSHADcNYIS SHADcTSHEG SHADcNYIS TSHEG SHADcRIN CHEN SPUNGS SHAD
    cRGYA GRAM SHADcCARET -DZUD RTAGS ME LONG CANcGTER TSHEGbLOGOTYPE SIGN CHAD RTAGSdLHAG RTAGS
    bASTROLOGICAL SIGN SGRA GCAN -CHAR RTAGSd-KHYUD PAdSDONG TSHUGSbSIGN RDEL DKAR GCIGeGNYIS
    eGSUMdNAG GCIGeGNYISdDKAR RDEL NAGbDIGIT ZEROcONEcTWOcTHREEcFOURcFIVEcSIXcSEVENcEIGHTcNINE
    cHALF ONEdTWOdTHREEdFOURdFIVEdSIXdSEVENdEIGHTdNINEdZERObMARK BSDUS RTAGScNGAS BZUNG NYI ZLA
    cCARET -DZUD RTAGS BZHI MIG CANcNGAS BZUNG SGOR RTAGScCHE MGOcTSA -PHRUcGUG RTAGS GYONeGYAS
    cANG KHANG GYONeGYASbSIGN YAR TSHEScMAR TSHESbLETTER KAcKHAcGAcGHAcNGAcCAcCHAcJA"⟩,
  ⟨0xf49, "aTIBETAN LETTER NYAcTTAcTTHAcDDAcDDHAcNNAcTAcTHAcDAcDHAcNAcPAcPHAcBAcBHAcMAcTSAcTSHA
    cDZAcDZHAcWAcZHAcZAc-AcYAcRAcLAcSHAcSSAcSAcHAcAcKSSAcFIXED-FORM RAcKKAcRRA"⟩,
  ⟨0xf71, "aTIBETAN VOWEL SIGN AAdIdIIdUdUUdVOCALIC ReRReLeLLdEdEEdOdOObSIGN RJES SU NGA RO
    cRNAM BCADbVOWEL SIGN REVERSED IeIIbSIGN NYI ZLA NAA DAcSNA LDANbMARK HALANTAcPALUTA
    bSIGN LCI RTAGScYANG RTAGScLCE TSA CANcMCHU CANcGRU CAN RGYINGSdMED RGYINGS
    cINVERTED MCHU CANbSUBJOINED SIGN LCE TSA CANdMCHU CANdINVERTED MCHU CANcLETTER KAdKHAdGA
    dGHAdNGAdCAdCHAdJA"⟩,
  ⟨0xf99, "aTIBETAN SUBJOINED LETTER NYAdTTAdTTHAdDDAdDDHAdNNAdTAdTHAdDAdDHAdNAdPAdPHAdBAdBHAdMA
    dTSAdTSHAdDZAdDZHAdWAdZHAdZAd-AdYAdRAdLAdSHAdSSAdSAdHAdAdKSSAdFIXED-FORM WAeYAeRA"⟩,
  ⟨0xfbe, "aTIBETAN KU RU KHAeBZHI MIG CANbCANTILLATION SIGN HEAVY BEATdLIGHT BEATdCANG TE-U
    dSBUB -CHALbSYMBOL DRIL BUcRDO RJEcPADMA GDANcRDO RJE RGYA GRAMcPHUR PAcNOR BUeNYIS -KHYIL
    eGSUM -KHYILeBZHI -KHYIL"⟩,
  ⟨0xfce, "aTIBETAN SIGN RDEL NAG RDEL DKAReGSUMbMARK BSKA- SHOG GI MGO RGYAN
    cMNYAM YIG GI MGO RGYANcNYIS TSHEGcINITIAL BRDA RNYING YIG MGO MDUN MA
    cCLOSING BRDA RNYING YIG MGO SGAB MAaRIGHT-FACING SVASTI SIGNaLEFT-FACING SVASTI SIGN
    aRIGHT-FACING SVASTI SIGN WITH DOTSaLEFT-FACING SVASTI SIGN WITH DOTS
    aTIBETAN MARK LEADING MCHAN RTAGScTRAILING MCHAN RTAGS"⟩,
  ⟨0x1000, "aMYANMAR LETTER KAcKHAcGAcGHAcNGAcCAcCHAcJAcJHAcNYAcNNYAcTTAcTTHAcDDAcDDHAcNNAcTA
    cTHAcDAcDHAcNAcPAcPHAcBAcBHAcMAcYAcRAcLAcWAcSAcHAcLLAcAcSHAN AcIcIIcUcUUcEcMON EcOcAU
    bVOWEL SIGN TALL AAdAAdIdIIdUdUUdEdAIdMON IIeOdE ABOVEbSIGN ANUSVARAcDOT BELOWcVISARGA
    cVIRAMAcASATbCONSONANT SIGN MEDIAL YAeRAeWAeHAbLETTER GREAT SAbDIGIT ZEROcONEcTWOcTHREEcFOUR
    cFIVEcSIXcSEVENcEIGHTcNINEbSIGN LITTLE SECTIONcSECTIONbSYMBOL LOCATIVEcCOMPLETED
    cAFOREMENTIONEDcGENITIVEbLETTER SHAcSSAcVOCALIC RdRRdLdLLbVOWEL SIGN VOCALIC ReRReLeLL
    bLETTER MON NGAdJHAdBBAdBBEbCONSONANT SIGN MON MEDIAL NAfMAfLAbLETTER SGAW KAREN SHA
    bVOWEL SIGN SGAW KAREN EUbTONE MARK SGAW KAREN HATHIfKE PHObLETTER WESTERN PWO KAREN THAfPWA
    bVOWEL SIGN WESTERN PWO KAREN EUgUEbSIGN WESTERN PWO KAREN TONE-1fTONE-2fTONE-3fTONE-4
    fTONE-5bLETTER EASTERN PWO KAREN NNAfYWAfGHWAbVOWEL SIGN GEBA KAREN IdKAYAH OEeUeEE
    bLETTER SHAN KAdKHAdGAdCAdZAdNYAdDAdNAdPHAdFAdBAdTHAdHAbCONSONANT SIGN SHAN MEDIAL WA
    bVOWEL SIGN SHAN AAeEfABOVEeFINAL YbSIGN SHAN TONE-2dTONE-3dTONE-5dTONE-6dCOUNCIL TONE-2
    eTONE-3eEMPHATIC TONEbLETTER RUMAI PALAUNG FAbSIGN RUMAI PALAUNG TONE-5bSHAN DIGIT ZEROdONE
    dTWOdTHREEdFOURdFIVEdSIXdSEVENdEIGHTdNINEbSIGN KHAMTI TONE-1dTONE-3bVOWEL SIGN AITON AeAI
    bSYMBOL SHAN ONEdEXCLAMATIONaGEORGIAN CAPITAL LETTER ANdBANdGANdDONdENdVINdZENdTANdINdKAN
    dLASdMANdNARdONdPARdZHARdRAEdSANdTARdUNdPHARdKHARdGHANdQARdSHINdCHINdCANdJILdCILdCHARdXAN
    dJHANdHAEdHEdHIEdWEdHARdHOE"⟩, ⟨0x10c7, "aGEORGIAN CAPITAL LETTER YN"⟩,
  ⟨0x10cd, "aGEORGIAN CAPITAL LETTER AEN"⟩,
  ⟨0x10d0, "aGEORGIAN LETTER ANcBANcGANcDONcENcVINcZENcTANcINcKANcLAScMANcNARcONcPARcZHARcRAE
    cSANcTARcUNcPHARcKHARcGHANcQARcSHINcCHINcCANcJILcCILcCHARcXANcJHANcHAEcHEcHIEcWEcHARcHOEcFI
    cYNcELIFIcTURNED GANcAINbPARAGRAPH SEPARATORaMODIFIER LETTER GEORGIAN NAR
    aGEORGIAN LETTER AENcHARD SIGNcLABIAL SIGNaHANGUL CHOSEONG KIYEOKcSSANGKIYEOKcNIEUNcTIKEUT
    cSSANGTIKEUTcRIEULcMIEUMcPIEUPcSSANGPIEUPcSIOScSSANGSIOScIEUNGcCIEUCcSSANGCIEUCcCHIEUCH
    cKHIEUKHcTHIEUTHcPHIEUPHcHIEUHcNIEUN-KIYEOKcSSANGNIEUNcNIEUN-TIKEUTcNIEUN-PIEUP
    cTIKEUT-KIYEOKcRIEUL-NIEUNcSSANGRIEULcRIEUL-HIEUHcKAPYEOUNRIEULcMIEUM-PIEUPcKAPYEOUNMIEUM
    cPIEUP-KIYEOKcPIEUP-NIEUNcPIEUP-TIKEUTcPIEUP-SIOScPIEUP-SIOS-KIYEOKcPIEUP-SIOS-TIKEUT
    cPIEUP-SIOS-PIEUPcPIEUP-SSANGSIOScPIEUP-SIOS-CIEUCcPIEUP-CIEUCcPIEUP-CHIEUCHcPIEUP-THIEUTH
    cPIEUP-PHIEUPHcKAPYEOUNPIEUPcKAPYEOUNSSANGPIEUPcSIOS-KIYEOKcSIOS-NIEUNcSIOS-TIKEUT
    cSIOS-RIEULcSIOS-MIEUMcSIOS-PIEUPcSIOS-PIEUP-KIYEOKcSIOS-SSANGSIOScSIOS-IEUNGcSIOS-CIEUC
    cSIOS-CHIEUCHcSIOS-KHIEUKHcSIOS-THIEUTHcSIOS-PHIEUPHcSIOS-HIEUHcCHITUEUMSIOS
    cCHITUEUMSSANGSIOScCEONGCHIEUMSIOScCEONGCHIEUMSSANGSIOScPANSIOScIEUNG-KIYEOKcIEUNG-TIKEUT
    cIEUNG-MIEUMcIEUNG-PIEUPcIEUNG-SIOScIEUNG-PANSIOScSSANGIEUNGcIEUNG-CIEUCcIEUNG-CHIEUCH
    cIEUNG-THIEUTHcIEUNG-PHIEUPHcYESIEUNGcCIEUC-IEUNGcCHITUEUMCIEUCcCHITUEUMSSANGCIEUC
    cCEONGCHIEUMCIEUCcCEONGCHIEUMSSANGCIEUCcCHIEUCH-KHIEUKHcCHIEUCH-HIEUHcCHITUEUMCHIEUCH
    cCEONGCHIEUMCHIEUCHcPHIEUPH-PIEUPcKAPYEOUNPHIEUPHcSSANGHIEUHcYEORINHIEUHcKIYEOK-TIKEUT
    cNIEUN-SIOScNIEUN-CIEUCcNIEUN-HIEUHcTIKEUT-RIEULcFILLERbJUNGSEONG FILLERcAcAEcYAcYAEcEOcE
    cYEOcYEcOcWAcWAEcOEcYOcUcWEOcWEcWIcYUcEUcYIcIcA-OcA-UcYA-OcYA-YOcEO-OcEO-UcEO-EUcYEO-OcYEO-U
    cO-EOcO-EcO-YEcO-OcO-UcYO-YAcYO-YAEcYO-YEOcYO-OcYO-IcU-AcU-AEcU-EO-EUcU-YEcU-UcYU-AcYU-EO
    cYU-EcYU-YEOcYU-YEcYU-UcYU-IcEU-UcEU-EUcYI-UcI-AcI-YAcI-OcI-UcI-EUcI-ARAEAcARAEAcARAEA-EO
    cARAEA-UcARAEA-IcSSANGARAEAcA-EUcYA-UcYEO-YAcO-YAcO-YAEbJONGSEONG KIYEOKcSSANGKIYEOK
    cKIYEOK-SIOScNIEUNcNIEUN-CIEUCcNIEUN-HIEUHcTIKEUTcRIEULcRIEUL-KIYEOKcRIEUL-MIEUMcRIEUL-PIEUP
    cRIEUL-SIOScRIEUL-THIEUTHcRIEUL-PHIEUPHcRIEUL-HIEUHcMIEUMcPIEUPcPIEUP-SIOScSIOScSSANGSIOS
    cIEUNGcCIEUCcCHIEUCHcKHIEUKHcTHIEUTHcPHIEUPHcHIEUHcKIYEOK-RIEULcKIYEOK-SIOS-KIYEOK
    cNIEUN-KIYEOKcNIEUN-TIKEUTcNIEUN-SIOScNIEUN-PANSIOScNIEUN-THIEUTHcTIKEUT-KIYEOKcTIKEUT-RIEUL
    cRIEUL-KIYEOK-SIOScRIEUL-NIEUNcRIEUL-TIKEUTcRIEUL-TIKEUT-HIEUHcSSANGRIEULcRIEUL-MIEUM-KIYEOK
    cRIEUL-MIEUM-SIOScRIEUL-PIEUP-SIOScRIEUL-PIEUP-HIEUHcRIEUL-KAPYEOUNPIEUPcRIEUL-SSANGSIOS
    cRIEUL-PANSIOScRIEUL-KHIEUKHcRIEUL-YEORINHIEUHcMIEUM-KIYEOKcMIEUM-RIEULcMIEUM-PIEUP
    cMIEUM-SIOScMIEUM-SSANGSIOScMIEUM-PANSIOScMIEUM-CHIEUCHcMIEUM-HIEUHcKAPYEOUNMIEUM
    cPIEUP-RIEULcPIEUP-PHIEUPHcPIEUP-HIEUHcKAPYEOUNPIEUPcSIOS-KIYEOKcSIOS-TIKEUTcSIOS-RIEUL
    cSIOS-PIEUPcPANSIOScIEUNG-KIYEOKcIEUNG-SSANGKIYEOKcSSANGIEUNGcIEUNG-KHIEUKHcYESIEUNG
    cYESIEUNG-SIOScYESIEUNG-PANSIOScPHIEUPH-PIEUPcKAPYEOUNPHIEUPHcHIEUH-NIEUNcHIEUH-RIEUL
    cHIEUH-MIEUMcHIEUH-PIEUPcYEORINHIEUHcKIYEOK-NIEUNcKIYEOK-PIEUPcKIYEOK-CHIEUCHcKIYEOK-KHIEUKH
    cKIYEOK-HIEUHcSSANGNIEUNaETHIOPIC SYLLABLE HAcHUcHIcHAAcHEEcHEcHOcHOAcLAcLUcLIcLAAcLEEcLEcLO
    cLWAcHHAcHHUcHHIcHHAAcHHEEcHHEcHHOcHHWAcMAcMUcMIcMAAcMEEcMEcMOcMWAcSZAcSZUcSZIcSZAAcSZEEcSZE
    cSZOcSZWAcRAcRUcRIcRAAcREEcREcROcRWAcSAcSUcSIcSAAcSEEcSEcSOcSWAcSHAcSHUcSHIcSHAAcSHEEcSHE
    cSHOcSHWAcQAcQUcQIcQAAcQEEcQEcQOcQOAcQWA"⟩, ⟨0x124a, "aETHIOPIC SYLLABLE QWIcQWAAcQWEEcQWE"⟩,
  ⟨0x1250, "aETHIOPIC SYLLABLE QHAcQHUcQHIcQHAAcQHEEcQHEcQHO"⟩,
  ⟨0x1258, "aETHIOPIC SYLLABLE QHWA"⟩, ⟨0x125a, "aETHIOPIC SYLLABLE QHWIcQHWAAcQHWEEcQHWE"⟩,
  ⟨0x1260, "aETHIOPIC SYLLABLE BAcBUcBIcBAAcBEEcBEcBOcBWAcVAcVUcVIcVAAcVEEcVEcVOcVWAcTAcTUcTI
    cTAAcTEEcTEcTOcTWAcCAcCUcCIcCAAcCEEcCEcCOcCWAcXAcXUcXIcXAAcXEEcXEcXOcXOAcXWA"⟩,
  ⟨0x128a, "aETHIOPIC SYLLABLE XWIcXWAAcXWEEcXWE"⟩,
  ⟨0x1290, "aETHIOPIC SYLLABLE NAcNUcNIcNAAcNEEcNEcNOcNWAcNYAcNYUcNYIcNYAAcNYEEcNYEcNYOcNYWA
    cGLOTTAL AdUdIdAAdEEdEdOdWAcKAcKUcKIcKAAcKEEcKEcKOcKOAcKWA"⟩,
  ⟨0x12b2, "aETHIOPIC SYLLABLE KWIcKWAAcKWEEcKWE"⟩,
  ⟨0x12b8, "aETHIOPIC SYLLABLE KXAcKXUcKXIcKXAAcKXEEcKXEcKXO"⟩,
  ⟨0x12c0, "aETHIOPIC SYLLABLE KXWA"⟩, ⟨0x12c2, "aETHIOPIC SYLLABLE KXWIcKXWAAcKXWEEcKXWE"⟩,
  ⟨0x12c8, "aETHIOPIC SYLLABLE WAcWUcWIcWAAcWEEcWEcWOcWOAcPHARYNGEAL AdUdIdAAdEEdEdO"⟩,
  ⟨0x12d8, "aETHIOPIC SYLLABLE ZAcZUcZIcZAAcZEEcZEcZOcZWAcZHAcZHUcZHIcZHAAcZHEEcZHEcZHOcZHWAcYA
    cYUcYIcYAAcYEEcYEcYOcYOAcDAcDUcDIcDAAcDEEcDEcDOcDWAcDDAcDDUcDDIcDDAAcDDEEcDDEcDDOcDDWAcJAcJU
    cJIcJAAcJEEcJEcJOcJWAcGAcGUcGIcGAAcGEEcGEcGOcGOAcGWA"⟩,
  ⟨0x1312, "aETHIOPIC SYLLABLE GWIcGWAAcGWEEcGWE"⟩,
  ⟨0x1318, "aETHIOPIC SYLLABLE GGAcGGUcGGIcGGAAcGGEEcGGEcGGOcGGWAAcTHAcTHUcTHIcTHAAcTHEEcTHEcTHO
    cTHWAcCHAcCHUcCHIcCHAAcCHEEcCHEcCHOcCHWAcPHAcPHUcPHIcPHAAcPHEEcPHEcPHOcPHWAcTSAcTSUcTSIcTSAA
    cTSEEcTSEcTSOcTSWAcTZAcTZUcTZIcTZAAcTZEEcTZEcTZOcTZOAcFAcFUcFIcFAAcFEEcFEcFOcFWAcPAcPUcPI
    cPAAcPEEcPEcPOcPWAcRYAcMYAcFYA"⟩,
  ⟨0x135d, "aETHIOPIC COMBINING GEMINATION AND VOWEL LENGTH MARKcVOWEL LENGTH MARK
    cGEMINATION MARKbSECTION MARKbWORDSPACEbFULL STOPbCOMMAbSEMICOLONbCOLONbPREFACE COLON
    bQUESTION MARKbPARAGRAPH SEPARATORbDIGIT ONEcTWOcTHREEcFOURcFIVEcSIXcSEVENcEIGHTcNINE
    bNUMBER TENcTWENTYcTHIRTYcFORTYcFIFTYcSIXTYcSEVENTYcEIGHTYcNINETYcHUNDREDcTEN THOUSAND"⟩,
  ⟨0x1380, "aETHIOPIC SYLLABLE SEBATBEIT MWAcMWIcMWEEcMWEcSEBATBEIT BWAcBWIcBWEEcBWE
    cSEBATBEIT FWAcFWIcFWEEcFWEcSEBATBEIT PWAcPWIcPWEEcPWEbTONAL MARK YIZETdDERETdRIKRIK
    dSHORT RIKRIKdDIFATdKENATdCHIRETdHIDETdDERET-HIDETdKURT"⟩,
  ⟨0x13a0, "aCHEROKEE LETTER AcEcIcOcUcVcGAcKAcGEcGIcGOcGUcGVcHAcHEcHIcHOcHUcHVcLAcLEcLIcLOcLU
    cLVcMAcMEcMIcMOcMUcNAcHNAcNAHcNEcNIcNOcNUcNVcQUAcQUEcQUIcQUOcQUUcQUVcSAcScSEcSIcSOcSUcSVcDA
    cTAcDEcTEcDIcTIcDOcDUcDVcDLAcTLAcTLEcTLIcTLOcTLUcTLVcTSAcTSEcTSIcTSOcTSUcTSVcWAcWEcWIcWOcWU
    cWVcYAcYEcYIcYOcYUcYVcMV"⟩, ⟨0x13f8, "aCHEROKEE SMALL LETTER YEdYIdYOdYUdYVdMV"⟩,
  ⟨0x1400, "aCANADIAN SYLLABICS HYPHENcEcAAIcIcIIcOcOOcY-CREE OOcCARRIER EEdIcAcAAcWE
    cWEST-CREE WEcWIcWEST-CREE WIcWIIcWEST-CREE WIIcWOcWEST-CREE WOcWOOcWEST-CREE WOO
    cNASKAPI WOOcWAcWEST-CREE WAcWAAcWEST-CREE WAAcNASKAPI WAAcAIcY-CREE WcGLOTTAL STOP
    cFINAL ACUTEdGRAVEdBOTTOM HALF RINGdTOP HALF RINGdRIGHT HALF RINGdRINGdDOUBLE ACUTE
    eSHORT VERTICAL STROKESdMIDDLE DOTdSHORT HORIZONTAL STROKEdPLUSdDOWN TACKcENcINcONcANcPE
    cPAAIcPIcPIIcPOcPOOcY-CREE POOcCARRIER HEEdHIcPAcPAAcPWEcWEST-CREE PWEcPWIcWEST-CREE PWI
    cPWIIcWEST-CREE PWIIcPWOcWEST-CREE PWOcPWOOcWEST-CREE PWOOcPWAcWEST-CREE PWAcPWAA
    cWEST-CREE PWAAcY-CREE PWAAcPcWEST-CREE PcCARRIER HcTEcTAAIcTIcTIIcTOcTOOcY-CREE TOO
    cCARRIER DEEdDIcTAcTAAcTWEcWEST-CREE TWEcTWIcWEST-CREE TWIcTWIIcWEST-CREE TWIIcTWO
    cWEST-CREE TWOcTWOOcWEST-CREE TWOOcTWAcWEST-CREE TWAcTWAAcWEST-CREE TWAAcNASKAPI TWAAcTcTTE
    cTTIcTTOcTTAcKEcKAAIcKIcKIIcKOcKOOcY-CREE KOOcKAcKAAcKWEcWEST-CREE KWEcKWIcWEST-CREE KWI
    cKWIIcWEST-CREE KWIIcKWOcWEST-CREE KWOcKWOOcWEST-CREE KWOOcKWAcWEST-CREE KWAcKWAA
    cWEST-CREE KWAAcNASKAPI KWAAcKcKWcSOUTH-SLAVEY KEHdKIHdKOHdKAHcCEcCAAIcCIcCIIcCOcCOO
    cY-CREE COOcCAcCAAcCWEcWEST-CREE CWEcCWIcWEST-CREE CWIcCWIIcWEST-CREE CWIIcCWOcWEST-CREE CWO
    cCWOOcWEST-CREE CWOOcCWAcWEST-CREE CWAcCWAAcWEST-CREE CWAAcNASKAPI CWAAcCcSAYISI THcMEcMAAI
    cMIcMIIcMOcMOOcY-CREE MOOcMAcMAAcMWEcWEST-CREE MWEcMWIcWEST-CREE MWIcMWIIcWEST-CREE MWIIcMWO
    cWEST-CREE MWOcMWOOcWEST-CREE MWOOcMWAcWEST-CREE MWAcMWAAcWEST-CREE MWAAcNASKAPI MWAAcM
    cWEST-CREE McMHcATHAPASCAN McSAYISI McNEcNAAIcNIcNIIcNOcNOOcY-CREE NOOcNAcNAAcNWE
    cWEST-CREE NWEcNWAcWEST-CREE NWAcNWAAcWEST-CREE NWAAcNASKAPI NWAAcNcCARRIER NGcNHcLEcLAAIcLI
    cLIIcLOcLOOcY-CREE LOOcLAcLAAcLWEcWEST-CREE LWEcLWIcWEST-CREE LWIcLWIIcWEST-CREE LWIIcLWO
    cWEST-CREE LWOcLWOOcWEST-CREE LWOOcLWAcWEST-CREE LWAcLWAAcWEST-CREE LWAAcLcWEST-CREE L
    cMEDIAL LcSEcSAAIcSIcSIIcSOcSOOcY-CREE SOOcSAcSAAcSWEcWEST-CREE SWEcSWIcWEST-CREE SWIcSWII
    cWEST-CREE SWIIcSWOcWEST-CREE SWOcSWOOcWEST-CREE SWOOcSWAcWEST-CREE SWAcSWAAcWEST-CREE SWAA
    cNASKAPI SWAAcScATHAPASCAN ScSWcBLACKFOOT ScMOOSE-CREE SKcNASKAPI SKWdS-WdSPWAdSTWAdSKWA
    dSCWAcSHEcSHIcSHIIcSHOcSHOOcSHAcSHAAcSHWEcWEST-CREE SHWEcSHWIcWEST-CREE SHWIcSHWII
    cWEST-CREE SHWIIcSHWOcWEST-CREE SHWOcSHWOOcWEST-CREE SHWOOcSHWAcWEST-CREE SHWAcSHWAA
    cWEST-CREE SHWAAcSHcYEcYAAIcYIcYIIcYOcYOOcY-CREE YOOcYAcYAAcYWEcWEST-CREE YWEcYWI
    cWEST-CREE YWIcYWIIcWEST-CREE YWIIcYWOcWEST-CREE YWOcYWOOcWEST-CREE YWOOcYWAcWEST-CREE YWA
    cYWAAcWEST-CREE YWAAcNASKAPI YWAAcYcBIBLE-CREE YcWEST-CREE YcSAYISI YIcREcR-CREE RE
    cWEST-CREE LEcRAAIcRIcRIIcROcROOcWEST-CREE LOcRAcRAAcWEST-CREE LAcRWAAcWEST-CREE RWAAcR
    cWEST-CREE RcMEDIAL RcFEcFAAIcFIcFIIcFOcFOOcFAcFAAcFWAAcWEST-CREE FWAAcFcTHEcN-CREE THEcTHI
    cN-CREE THIcTHIIcN-CREE THIIcTHOcTHOOcTHAcTHAAcTHWAAcWEST-CREE THWAAcTHcTTHEcTTHIcTTHOcTTHA
    cTTHcTYEcTYIcTYOcTYAcNUNAVIK HEdHIdHIIdHOdHOOdHAdHAAdHcNUNAVUT HcHKcQAAIcQIcQIIcQOcQOOcQA
    cQAAcQcTLHEcTLHIcTLHOcTLHAcWEST-CREE REdRIdROdRAcNGAAIcNGIcNGIIcNGOcNGOOcNGAcNGAAcNGcNNG
    cSAYISI SHEdSHIdSHOdSHAcWOODS-CREE THEdTHIdTHOdTHAdTHcLHIcLHIIcLHOcLHOOcLHAcLHAAcLH
    cTH-CREE THEdTHIdTHIIdTHOdTHOOdTHAdTHAAdTHcAIVILIK BcBLACKFOOT EdIdOdAdWEdWIdWOdWAdNEdNIdNO
    dNAdKEdKIdKOdKAcSAYISI HEdHIdHOdHAcCARRIER GHUdGHOdGHEdGHEEdGHIdGHAdRUdROdREdREEdRIdRAdWUdWO
    dWEdWEEdWIdWAdHWUdHWOdHWEdHWEEdHWIdHWAdTHUdTHOdTHEdTHEEdTHIdTHAdTTUdTTOdTTEdTTEEdTTIdTTAdPU
    dPOdPEdPEEdPIdPAdPdGUdGOdGEdGEEdGIdGAdKHUdKHOdKHEdKHEEdKHIdKHAdKKUdKKOdKKEdKKEEdKKIdKKAdKK
    dNUdNOdNEdNEEdNIdNAdMUdMOdMEdMEEdMIdMAdYUdYOdYEdYEEdYIdYAdJUcSAYISI JUcCARRIER JOdJEdJEEdJI
    cSAYISI JIcCARRIER JAdJJUdJJOdJJEdJJEEdJJIdJJAdLUdLOdLEdLEEdLIdLAdDLUdDLOdDLEdDLEEdDLIdDLA
    dLHUdLHOdLHEdLHEEdLHIdLHAdTLHUdTLHOdTLHEdTLHEEdTLHIdTLHAdTLUdTLOdTLEdTLEEdTLIdTLAdZUdZOdZE
    dZEEdZIdZAdZdINITIAL ZdDZUdDZOdDZEdDZEEdDZIdDZAdSUdSOdSEdSEEdSIdSAdSHUdSHOdSHEdSHEEdSHIdSHA
    dSHdTSUdTSOdTSEdTSEEdTSIdTSAdCHUdCHOdCHEdCHEEdCHIdCHAdTTSUdTTSOdTTSEdTTSEEdTTSIdTTSA
    cCHI SIGNcFULL STOPcQAIcNGAIcNNGIcNNGIIcNNGOcNNGOOcNNGAcNNGAAcWOODS-CREE THWEEdTHWIdTHWII
    dTHWOdTHWOOdTHWAdTHWAAdFINAL THcBLACKFOOT WaOGHAM SPACE MARKbLETTER BEITHcLUIScFEARNcSAIL
    cNIONcUATHcDAIRcTINNEcCOLLcCEIRTcMUINcGORTcNGEADALcSTRAIFcRUIScAILMcONNcURcEADHADHcIODHADH
    cEABHADHcORcUILLEANNcIFINcEAMHANCHOLLcPEITHbFEATHER MARKbREVERSED FEATHER MARK"⟩,
  ⟨0x16a0, "aRUNIC LETTER FEHU FEOH FE FcVcURUZ UR UcYRcYcWcTHURISAZ THURS THORNcETHcANSUZ A
    cOS OcAC AcAESCcLONG-BRANCH-OSS OcSHORT-TWIG-OSS OcOcOEcONcRAIDO RAD REID RcKAUNAcCENcKAUN K
    cGcENGcGEBO GYFU GcGARcWUNJO WYNN WcHAGLAZ HcHAEGL HcLONG-BRANCH-HAGALL H
    cSHORT-TWIG-HAGALL HcNAUDIZ NYD NAUD NcSHORT-TWIG-NAUD NcDOTTED-NcISAZ IS ISS IcEcJERAN J
    cGERcLONG-BRANCH-AR AEcSHORT-TWIG-AR AcIWAZ EOHcPERTHO PEORTH PcALGIZ EOLHXcSOWILO S
    cSIGEL LONG-BRANCH-SOL ScSHORT-TWIG-SOL ScCcZcTIWAZ TIR TYR TcSHORT-TWIG-TYR TcD
    cBERKANAN BEORC BJARKAN BcSHORT-TWIG-BJARKAN BcDOTTED-PcOPEN-PcEHWAZ EH EcMANNAZ MAN M
    cLONG-BRANCH-MADR McSHORT-TWIG-MADR McLAUKAZ LAGU LOGR LcDOTTED-LcINGWAZcINGcDAGAZ DAEG D
    cOTHALAN ETHEL OcEARcIORcCWEORTHcCALCcCEALCcSTANcLONG-BRANCH-YRcSHORT-TWIG-YRcICELANDIC-YRcQ
    cXbSINGLE PUNCTUATIONbMULTIPLE PUNCTUATIONbCROSS PUNCTUATIONbARLAUG SYMBOLbTVIMADUR SYMBOL
    bBELGTHOR SYMBOLbLETTER KcSHcOOcFRANKS CASKET OSeISeEHeACeAESC"⟩,
  ⟨0x1700, "aTAGALOG LETTER AcIcUcKAcGAcNGAcTAcDAcNAcPAcBAcMAcYAcRAcLAcWAcSAcHAbVOWEL SIGN IdU
    bSIGN VIRAMAcPAMUDPOD"⟩,
  ⟨0x171f, "aTAGALOG LETTER ARCHAIC RAaHANUNOO LETTER AcIcUcKAcGAcNGAcTAcDAcNAcPAcBAcMAcYAcRAcLA
    cWAcSAcHAbVOWEL SIGN IdUbSIGN PAMUDPODaPHILIPPINE SINGLE PUNCTUATIONbDOUBLE PUNCTUATION"⟩,
  ⟨0x1740, "aBUHID LETTER AcIcUcKAcGAcNGAcTAcDAcNAcPAcBAcMAcYAcRAcLAcWAcSAcHAbVOWEL SIGN IdU"⟩,
  ⟨0x1760, "aTAGBANWA LETTER AcIcUcKAcGAcNGAcTAcDAcNAcPAcBAcMAcYA"⟩,
  ⟨0x176e, "aTAGBANWA LETTER LAcWAcSA"⟩, ⟨0x1772, "aTAGBANWA VOWEL SIGN IdU"⟩,
  ⟨0x1780, "aKHMER LETTER KAcKHAcKOcKHOcNGOcCAcCHAcCOcCHOcNYOcDAcTTHAcDOcTTHOcNNOcTAcTHAcTOcTHO
    cNOcBAcPHAcPOcPHOcMOcYOcROcLOcVOcSHAcSSOcSAcHAcLAcQAbINDEPENDENT VOWEL QAQdQAAdQIdQIIdQUdQUK
    dQUUdQUUVdRYdRYYdLYdLYYdQEdQAIdQOO TYPE ONEfTWOdQAUbVOWEL INHERENT AQdAAcSIGN AAdIdIIdYdYYdU
    dUUdUAdOEdYAdIEdEdAEdAIdOOdAUbSIGN NIKAHITcREAHMUKcYUUKALEAPINTUcMUUSIKATOANcTRIISAPcBANTOC
    cROBATcTOANDAKHIATcKAKABATcAHSDAcSAMYOK SANNYAcVIRIAMcCOENGcBATHAMASATcKHANcBARIYOOSAN
    cCAMNUC PII KUUHcLEK TOOcBEYYALcPHNAEK MUANcKOOMUUTbCURRENCY SYMBOL RIELbSIGN AVAKRAHASANYA
    cATTHACAN"⟩, ⟨0x17e0, "aKHMER DIGIT ZEROcONEcTWOcTHREEcFOURcFIVEcSIXcSEVENcEIGHTcNINE"⟩,
  ⟨0x17f0, "aKHMER SYMBOL LEK ATTAK SONeMUOYePIIeBEIeBUONePRAMePRAM-MUOYePRAM-PIIePRAM-BEI
    ePRAM-BUON"⟩,
  ⟨0x1800, "aMONGOLIAN BIRGAbELLIPSISbCOMMAbFULL STOPbCOLONbFOUR DOTSbTODO SOFT HYPHEN
    bSIBE SYLLABLE BOUNDARY MARKERbMANCHU COMMAcFULL STOPbNIRUGUbFREE VARIATION SELECTOR ONEeTWO
    eTHREEbVOWEL SEPARATORbFREE VARIATION SELECTOR FOURbDIGIT ZEROcONEcTWOcTHREEcFOURcFIVEcSIX
    cSEVENcEIGHTcNINE"⟩,
  ⟨0x1820, "aMONGOLIAN LETTER AcEcIcOcUcOEcUEcEEcNAcANGcBAcPAcQAcGAcMAcLAcSAcSHAcTAcDAcCHAcJAcYA
    cRAcWAcFAcKAcKHAcTSAcZAcHAAcZRAcLHAcZHIcCHIcTODO LONG VOWEL SIGNdEdIdOdUdOEdUEdANGdBAdPAdQA
    dGAdMAdTAdDAdCHAdJAdTSAdYAdWAdKAdGAAdHAAdJIAdNIAdDZAcSIBE EdIdIYdUEdUdANGdKAdGAdHAdPAdSHAdTA
    dDAdJAdFAdGAAdHAAdTSAdZAdRAAdCHAdZHAcMANCHU IdKAdRAdFAdZHAcCHA WITH TWO DOTS"⟩,
  ⟨0x1880, "aMONGOLIAN LETTER ALI GALI ANUSVARA ONEeVISARGA ONEeDAMARUeUBADAMAeINVERTED UBADAMA
    eBALUDAeTHREE BALUDAeAeIeKAeNGAeCAeTTAeTTHAeDDAeNNAeTAeDAePAePHAeSSAeZHAeZAeAH
    cTODO ALI GALI TAfZHAcMANCHU ALI GALI GHAfNGAfCAfJHAfTTAfDDHAfTAfDHAfSSAfCYAfZHAfZA
    cALI GALI HALF UfYAcMANCHU ALI GALI BHAcALI GALI DAGALGAcMANCHU ALI GALI LHA"⟩,
  ⟨0x18b0, "aCANADIAN SYLLABICS OYcAYcAAYcWAYcPOYcPAYcPWOYcTAYcKAYcKWAYcMAYcNOYcNAYcLAYcSOYcSAY
    cSHOYcSHAYcSHWOYcYOYcYAYcRAYcNWIcOJIBWAY NWIcNWIIcOJIBWAY NWIIcNWOcOJIBWAY NWOcNWOO
    cOJIBWAY NWOOcRWEEcRWIcRWIIcRWOcRWOOcRWAcOJIBWAY PdTdKdCdMdNdSdSHcEASTERN WcWESTERN W
    cFINAL SMALL RINGdRAISED DOTcR-CREE RWEcWEST-CREE LOOdLAAcTHWEcTHWAcTTHWEcTTHOOcTTHAAcTLHWE
    cTLHOOcSAYISI SHWEdSHOOdHOOcCARRIER GWUdDENE GEEdGAAdGWAcSAYISI JUUcCARRIER JWA
    cBEAVER DENE LeRcCARRIER DENTAL S"⟩,
  ⟨0x1900, "aLIMBU VOWEL-CARRIER LETTERbLETTER KAcKHAcGAcGHAcNGAcCAcCHAcJAcJHAcYANcTAcTHAcDAcDHA
    cNAcPAcPHAcBAcBHAcMAcYAcRAcLAcWAcSHAcSSAcSAcHAcGYANcTRA"⟩,
  ⟨0x1920, "aLIMBU VOWEL SIGN AdIdUdEEdAIdOOdAUdEdObSUBJOINED LETTER YAdRAdWA"⟩,
  ⟨0x1930, "aLIMBU SMALL LETTER KAdNGAdANUSVARAdTAdNAdPAdMAdRAdLAbSIGN MUKPHRENGcKEMPHRENGcSA-I"⟩,
  ⟨0x1940, "aLIMBU SIGN LOO"⟩,
  ⟨0x1944, "aLIMBU EXCLAMATION MARKbQUESTION MARKbDIGIT ZEROcONEcTWOcTHREEcFOURcFIVEcSIXcSEVEN
    cEIGHTcNINEaTAI LE LETTER KAdXAdNGAdTSAdSAdYAdTAdTHAdLAdPAdPHAdMAdFAdVAdHAdQAdKHAdTSHAdNAdA
    dIdEEdEHdUdOOdOdUEdEdAUEdAI"⟩, ⟨0x1970, "aTAI LE LETTER TONE-2dTONE-3dTONE-4dTONE-5dTONE-6"⟩,
  ⟨0x1980, "aNEW TAI LUE LETTER HIGH QAeLOW QAeHIGH KAfXAfNGAeLOW KAfXAfNGAeHIGH TSAfSAfYA
    eLOW TSAfSAfYAeHIGH TAfTHAfNAeLOW TAfTHAfNAeHIGH PAfPHAfMAeLOW PAfPHAfMAeHIGH FAfVAfLA
    eLOW FAfVAfLAeHIGH HAfDAfBAeLOW HAfDAfBAeHIGH KVAfXVAeLOW KVAfXVAeHIGH SUAeLOW SUA"⟩,
  ⟨0x19b0, "aNEW TAI LUE VOWEL SIGN VOWEL SHORTENERfAAfIIfUfUUfEfAEfOfOAfUEfAYfAAYfUYfOYfOAYfUEY
    fIYdLETTER FINAL VfNGfNfMfKfDfBdTONE MARK-1eMARK-2"⟩,
  ⟨0x19d0, "aNEW TAI LUE DIGIT ZEROeONEeTWOeTHREEeFOUReFIVEeSIXeSEVENeEIGHTeNINEdTHAM DIGIT ONE"⟩,
  ⟨0x19de, "aNEW TAI LUE SIGN LAEeLAEVaKHMER SYMBOL PATHAMASATcMUOY KOETcPII KOETcBEI KOET
    cBUON KOETcPRAM KOETcPRAM-MUOY KOETcPRAM-PII KOETcPRAM-BEI KOETcPRAM-BUON KOETcDAP KOET
    cDAP-MUOY KOETcDAP-PII KOETcDAP-BEI KOETcDAP-BUON KOETcDAP-PRAM KOETcTUTEYASATcMUOY ROC
    cPII ROCcBEI ROCcBUON ROCcPRAM ROCcPRAM-MUOY ROCcPRAM-PII ROCcPRAM-BEI ROCcPRAM-BUON ROC
    cDAP ROCcDAP-MUOY ROCcDAP-PII ROCcDAP-BEI ROCcDAP-BUON ROCcDAP-PRAM ROCaBUGINESE LETTER KA
    cGAcNGAcNGKAcPAcBAcMAcMPAcTAcDAcNAcNRAcCAcJAcNYAcNYCAcYAcRAcLAcVAcSAcAcHAbVOWEL SIGN IdUdEdO
    dAE"⟩,
  ⟨0x1a1e, "aBUGINESE PALLAWAbEND OF SECTIONaTAI THAM LETTER HIGH KAeKHAeKXAdLOW KAeKXAeKHAdNGA
    dHIGH CAeCHAdLOW CAeSAeCHAdNYAdRATAdHIGH RATHAdDAdLOW RATHAdRANAdHIGH TAeTHAdLOW TAeTHAdNA
    dBAdHIGH PAePHAeFAdLOW PAeFAePHAdMAdLOW YAdHIGH YAdRAdRUEdLAdLUEdWAdHIGH SHAeSSAeSAeHAdLLAdA
    dLOW HAdIdIIdUdUUdEEdOOdLAEdGREAT SAcCONSONANT SIGN MEDIAL RAfLAeLA TANG LAI
    cSIGN MAI KANG LAIcCONSONANT SIGN FINAL NGAeLOW PAeHIGH RATHA OR LOW PAeMAeBAeSA"⟩,
  ⟨0x1a60, "aTAI THAM SIGN SAKOTcVOWEL SIGN AeMAI SATeAAeTALL AAeIeIIeUEeUUEeUeUUeOeOA BELOWeOY
    eEeAEeOOeAIeTHAM AIeOA ABOVEcSIGN MAI KANGdTONE-1dTONE-2dKHUEN TONE-3eTONE-4eTONE-5dRA HAAM
    dMAI SAMdKHUEN-LUE KARAN"⟩,
  ⟨0x1a7f, "aTAI THAM COMBINING CRYPTOGRAMMIC DOTcHORA DIGIT ZEROeONEeTWOeTHREEeFOUReFIVEeSIX
    eSEVENeEIGHTeNINE"⟩,
  ⟨0x1a90, "aTAI THAM THAM DIGIT ZEROeONEeTWOeTHREEeFOUReFIVEeSIXeSEVENeEIGHTeNINE"⟩,
  ⟨0x1aa0, "aTAI THAM SIGN WIANGdWIANGWAAKdSAWANdKEOWdHOYdDOKMAIdREVERSED ROTATED RANAdMAI YAMOK
    dKAANdKAANKUUdSATKAANdSATKAANKUUdHANGdCAANG"⟩,
  ⟨0x1ab0, "aCOMBINING DOUBLED CIRCUMFLEX ACCENTbDIAERESIS-RINGbINFINITYbDOWNWARDS ARROW
    bTRIPLE DOTbX-X BELOWbWIGGLY LINE BELOWbOPEN MARK BELOWbDOUBLE OPEN MARK BELOW
    bLIGHT CENTRALIZATION STROKE BELOWbSTRONG CENTRALIZATION STROKE BELOWbPARENTHESES ABOVE
    bDOUBLE PARENTHESES ABOVEbPARENTHESES BELOWcOVERLAYbLATIN SMALL LETTER W BELOW
    eTURNED W BELOWbLEFT PARENTHESIS ABOVE LEFTbRIGHT PARENTHESIS ABOVE RIGHT
    bLEFT PARENTHESIS BELOW LEFTbRIGHT PARENTHESIS BELOW RIGHTbSQUARE BRACKETS ABOVE
    bNUMBER SIGN ABOVEbINVERTED DOUBLE ARCH ABOVEbPLUS SIGN ABOVEbDOUBLE PLUS SIGN ABOVEeBELOW
    bTRIPLE ACUTE ACCENTbLATIN SMALL LETTER INSULAR GfRfT"⟩,
  ⟨0x1b00, "aBALINESE SIGN ULU RICEMdCANDRAcCECEKcSURANGcBISAHbLETTER AKARAdTEDUNGcIKARAdTEDUNG
    cUKARAdTEDUNGcRA REPAeTEDUNGcLA LENGAeTEDUNGcEKARAcAIKARAcOKARAdTEDUNGcKAdMAHAPRANAcGAdGORA
    cNGAcCAdLACAcJAdJERAcNYAcTA LATIKdMURDA MAHAPRANAcDA MURDA ALPAPRANAeMAHAPRANAcNA RAMBATcTA
    dTAWAcDAdMADUcNAcPAdKAPALcBAdKEMBANGcMAcYAcRAcLAcWAcSA SAGAdSAPAcSAcHAbSIGN REREKAN
    bVOWEL SIGN TEDUNGdULUeSARIdSUKUeILUTdRA REPAfTEDUNGdLA LENGAfTEDUNGdTALINGeREPAeTEDUNG
    eREPA TEDUNGdPEPETeTEDUNGbADEG ADEGbLETTER KAF SASAKcKHOT SASAKcTZIR SASAKcEF SASAKcVE SASAK
    cZAL SASAKcASYURA SASAKcARCHAIC JNYA"⟩,
  ⟨0x1b50, "aBALINESE DIGIT ZEROcONEcTWOcTHREEcFOURcFIVEcSIXcSEVENcEIGHTcNINEbPANTIbPAMADAbWINDU
    bCARIK PAMUNGKAHcSIKIcPARERENbPAMENENGbMUSICAL SYMBOL DONGdDENGdDUNGdDANGeSURANGdDINGdDAENG
    dDEUNGdDAINGdDANG GEDEdCOMBINING TEGEHeENDEPeKEMPULeKEMPLIeJEGOGANeKEMPUL WITH JEGOGAN
    eKEMPLI WITH JEGOGANeBENDEeGONGdRIGHT-HAND OPEN DUGfDAGeCLOSED TUKfTAKdLEFT-HAND OPEN PANG
    fPUNGeCLOSED PLAKfPLUKeOPEN PINGbPANTI LANTANGbPAMADA LANTANG"⟩,
  ⟨0x1b80, "aSUNDANESE SIGN PANYECEKcPANGLAYARcPANGWISADbLETTER AcIcUcAEcOcEcEUcKAcQAcGAcNGAcCA
    cJAcZAcNYAcTAcDAcNAcPAcFAcVAcBAcMAcYAcRAcLAcWAcSAcXAcHAbCONSONANT SIGN PAMINGKALdPANYAKRA
    dPANYIKUbVOWEL SIGN PANGHULUdPANYUKUdPANAELAENGdPANOLONGdPAMEPETdPANEULEUNGbSIGN PAMAAEH
    cVIRAMAbCONSONANT SIGN PASANGAN MAeWAbLETTER KHAcSYAbDIGIT ZEROcONEcTWOcTHREEcFOURcFIVEcSIX
    cSEVENcEIGHTcNINEbAVAGRAHAbLETTER REUcLEUcBHAcFINAL KdMaBATAK LETTER AcSIMALUNGUN AcHA
    cSIMALUNGUN HAcMANDAILING HAcBAcKARO BAcPAcSIMALUNGUN PAcNAcMANDAILING NAcWAcSIMALUNGUN WA
    cPAKPAK WAcGAcSIMALUNGUN GAcJAcDAcRAcSIMALUNGUN RAcMAcSIMALUNGUN MAcSOUTHERN TAcNORTHERN TA
    cSAcSIMALUNGUN SAcMANDAILING SAcYAcSIMALUNGUN YAcNGAcLAcSIMALUNGUN LAcNYAcCAcNDAcMBAcIcU
    bSIGN TOMPIbVOWEL SIGN EdPAKPAK EdEEdIdKARO IdOdKARO OdUeFOR SIMALUNGUN SAbCONSONANT SIGN NG
    dHbPANGOLATbPANONGONAN"⟩,
  ⟨0x1bfc, "aBATAK SYMBOL BINDU NA METEKdPINARBORASdJUDULdPANGOLATaLEPCHA LETTER KAcKLAcKHAcGA
    cGLAcNGAcCAcCHAcJAcNYAcTAcTHAcDAcNAcPAcPLAcPHAcFAcFLAcBAcBLAcMAcMLAcTSAcTSHAcDZAcYAcRAcLAcHA
    cHLAcVAcSAcSHAcWAcAbSUBJOINED LETTER YAdRAbVOWEL SIGN AAdIdOdOOdUdUUdEbCONSONANT SIGN KdMdL
    dNdPdRdTdNYIN-DOdKANGbSIGN RANcNUKTA"⟩,
  ⟨0x1c3b, "aLEPCHA PUNCTUATION TA-ROLcNYET THYOOM TA-ROLcCER-WAcTSHOOK CER-WAcTSHOOKbDIGIT ZERO
    cONEcTWOcTHREEcFOURcFIVEcSIXcSEVENcEIGHTcNINE"⟩,
  ⟨0x1c4d, "aLEPCHA LETTER TTAcTTHAcDDAaOL CHIKI DIGIT ZEROdONEdTWOdTHREEdFOURdFIVEdSIXdSEVEN
    dEIGHTdNINEcLETTER LAdATdAGdANGdALdLAAdAAKdAAJdAAMdAAWdLIdISdIHdINYdIRdLUdUCdUDdUNNdUYdLEdEP
    dEDDdENdERRdLOdOTTdOBdOVdOHcMU TTUDDAGcGAAHLAA TTUDDAAGcMU-GAAHLAA TTUDDAAGcRELAAcPHAARKAA
    cAHADcPUNCTUATION MUCAADdDOUBLE MUCAADaCYRILLIC SMALL LETTER ROUNDED VEdLONG-LEGGED DE
    dNARROW OdWIDE ESdTALL TEdTHREE-LEGGED TEdTALL HARD SIGNeYATdUNBLENDED UK"⟩,
  ⟨0x1c90, "aGEORGIAN MTAVRULI CAPITAL LETTER ANeBANeGANeDONeENeVINeZENeTANeINeKANeLASeMANeNAR
    eONePAReZHAReRAEeSANeTAReUNePHAReKHAReGHANeQAReSHINeCHINeCANeJILeCILeCHAReXANeJHANeHAEeHE
    eHIEeWEeHAReHOEeFIeYNeELIFIeTURNED GANeAIN"⟩,
  ⟨0x1cbd, "aGEORGIAN MTAVRULI CAPITAL LETTER AENeHARD SIGNeLABIAL SIGN
    aSUNDANESE PUNCTUATION BINDU SURYAdPANGLONGdPURNAMAdCAKRAdLEU SATANGAdKA SATANGAdDA SATANGA
    dBA SATANGA"⟩,
  ⟨0x1cd0, "aVEDIC TONE KARSHANAcSHARAcPRENKHAbSIGN NIHSHVASAcYAJURVEDIC MIDLINE SVARITA
    bTONE YAJURVEDIC AGGRAVATED INDEPENDENT SVARITAdINDEPENDENT SVARITA
    dKATHAKA INDEPENDENT SVARITAcCANDRA BELOWcYAJURVEDIC KATHAKA INDEPENDENT SVARITA SCHROEDER
    cDOUBLE SVARITAcTRIPLE SVARITAcKATHAKA ANUDATTAcDOT BELOWcTWO DOTS BELOWcTHREE DOTS BELOW
    cRIGVEDIC KASHMIRI INDEPENDENT SVARITAcATHARVAVEDIC INDEPENDENT SVARITAbSIGN VISARGA SVARITA
    dUDATTAcREVERSED VISARGA UDATTAcVISARGA ANUDATTAcREVERSED VISARGA ANUDATTA
    cVISARGA UDATTA WITH TAILdANUDATTA WITH TAILcANUSVARA ANTARGOMUKHAdBAHIRGOMUKHAdVAMAGOMUKHA
    eWITH TAILcTIRYAKcHEXIFORM LONG ANUSVARAcLONG ANUSVARAcRTHANG LONG ANUSVARA
    cANUSVARA UBHAYATO MUKHAcARDHAVISARGAcROTATED ARDHAVISARGAbTONE CANDRA ABOVE
    bSIGN JIHVAMULIYAcUPADHMANIYAcATIKRAMAbTONE RING ABOVEcDOUBLE RING ABOVE
    bSIGN DOUBLE ANUSVARA ANTARGOMUKHA"⟩,
  ⟨0x1d00, "aLATIN LETTER SMALL CAPITAL AeAEbSMALL LETTER TURNED AE
    bLETTER SMALL CAPITAL BARRED BeCeDeETHeEbSMALL LETTER TURNED OPEN EeIbLETTER SMALL CAPITAL J
    eKeL WITH STROKEeMeREVERSED NeOeOPEN ObSMALL LETTER SIDEWAYS OeOPEN OeO WITH STROKE
    dTURNED OEbLETTER SMALL CAPITAL OUbSMALL LETTER TOP HALF OdBOTTOM HALF O
    bLETTER SMALL CAPITAL PeREVERSED ReTURNED ReTeUbSMALL LETTER SIDEWAYS UeDIAERESIZED U
    eTURNED MbLETTER SMALL CAPITAL VeWeZeEZHcVOICED LARYNGEAL SPIRANTcAIN
    aGREEK LETTER SMALL CAPITAL GAMMAeLAMDAePIeRHOePSIaCYRILLIC LETTER SMALL CAPITAL EL
    aMODIFIER LETTER CAPITAL AdAEdBdBARRED BdDdEdREVERSED EdGdHdIdJdKdLdMdNdREVERSED NdOdOUdPdR
    dTdUdWcSMALL AdTURNED AdALPHAdTURNED AEdBdDdEdSCHWAdOPEN EdTURNED OPEN EdGdTURNED IdKdMdENG
    dOdOPEN OdTOP HALF OdBOTTOM HALF OdPdTdUdSIDEWAYS UdTURNED MdVdAINdBETAdGREEK GAMMAdDELTA
    dGREEK PHIdCHIaLATIN SUBSCRIPT SMALL LETTER IeReUeVaGREEK SUBSCRIPT SMALL LETTER BETAeGAMMA
    eRHOePHIeCHIaLATIN SMALL LETTER UEdB WITH MIDDLE TILDEdD WITH MIDDLE TILDE
    dF WITH MIDDLE TILDEdM WITH MIDDLE TILDEdN WITH MIDDLE TILDEdP WITH MIDDLE TILDE
    dR WITH MIDDLE TILDEfFISHHOOK AND MIDDLE TILDEdS WITH MIDDLE TILDEdT WITH MIDDLE TILDE
    dZ WITH MIDDLE TILDEdTURNED GaMODIFIER LETTER CYRILLIC ENaLATIN SMALL LETTER INSULAR G
    dTH WITH STRIKETHROUGHcCAPITAL LETTER I WITH STROKEcLETTER IOTA WITH STROKEdP WITH STROKE
    cCAPITAL LETTER U WITH STROKEcLETTER UPSILON WITH STROKEdB WITH PALATAL HOOK
    dD WITH PALATAL HOOKdF WITH PALATAL HOOKdG WITH PALATAL HOOKdK WITH PALATAL HOOK
    dL WITH PALATAL HOOKdM WITH PALATAL HOOKdN WITH PALATAL HOOKdP WITH PALATAL HOOK
    dR WITH PALATAL HOOKdS WITH PALATAL HOOKdESH WITH PALATAL HOOKdV WITH PALATAL HOOK
    dX WITH PALATAL HOOKdZ WITH PALATAL HOOKdA WITH RETROFLEX HOOKdALPHA WITH RETROFLEX HOOK
    dD WITH HOOK AND TAILdE WITH RETROFLEX HOOKdOPEN E WITH RETROFLEX HOOK
    dREVERSED OPEN E WITH RETROFLEX HOOKdSCHWA WITH RETROFLEX HOOKdI WITH RETROFLEX HOOK
    dOPEN O WITH RETROFLEX HOOKdESH WITH RETROFLEX HOOKdU WITH RETROFLEX HOOK
    dEZH WITH RETROFLEX HOOKaMODIFIER LETTER SMALL TURNED ALPHAdCeWITH CURLdETHdREVERSED OPEN E
    dFdDOTLESS J WITH STROKEdSCRIPT GdTURNED HdI WITH STROKEdIOTAdCAPITAL IfWITH STROKE
    dJ WITH CROSSED-TAILdL WITH RETROFLEX HOOKfPALATAL HOOKdCAPITAL LdM WITH HOOK
    dTURNED M WITH LONG LEGdN WITH LEFT HOOKfRETROFLEX HOOKdCAPITAL NdBARRED OdPHIdS WITH HOOK
    dESHdT WITH PALATAL HOOKdU BARdUPSILONdCAPITAL UdV WITH HOOKdTURNED VdZeWITH RETROFLEX HOOK
    fCURLdEZHdTHETAaCOMBINING DOTTED GRAVE ACCENTcACUTE ACCENTbSNAKE BELOWbSUSPENSION MARK
    bMACRON-ACUTEbGRAVE-MACRONbMACRON-GRAVEbACUTE-MACRONbGRAVE-ACUTE-GRAVEbACUTE-GRAVE-ACUTE
    bLATIN SMALL LETTER R BELOWbBREVE-MACRONbMACRON-BREVEbDOUBLE CIRCUMFLEX ABOVEbOGONEK ABOVE
    bZIGZAG BELOWbIS BELOWbUR ABOVEbUS ABOVEbLATIN SMALL LETTER FLATTENED OPEN A ABOVEeAEeAOeAV
    eC CEDILLAeINSULAR DeETHeGcLETTER SMALL CAPITAL GcSMALL LETTER KeLcLETTER SMALL CAPITAL LfM
    cSMALL LETTER NcLETTER SMALL CAPITAL NfRcSMALL LETTER R ROTUNDAeSeLONG SeZeALPHAeBeBETA
    eSCHWAeFeL WITH DOUBLE MIDDLE TILDEeO WITH LIGHT CENTRALIZATION STROKEePeESH
    eU WITH LIGHT CENTRALIZATION STROKEeWeA WITH DIAERESISeO WITH DIAERESISeU WITH DIAERESIS
    bUP TACK ABOVEbKAVYKA ABOVE RIGHTdLEFTbDOT ABOVE LEFTbWIDE INVERTED BRIDGE BELOW
    bDOT BELOW LEFTbDELETION MARKbDOUBLE INVERTED BREVE BELOWbALMOST EQUAL TO BELOW
    bLEFT ARROWHEAD ABOVEbRIGHT ARROWHEAD AND DOWN ARROWHEAD BELOW
    aLATIN CAPITAL LETTER A WITH RING BELOWbSMALL LETTER A WITH RING BELOW
    bCAPITAL LETTER B WITH DOT ABOVEbSMALL LETTER B WITH DOT ABOVE
    bCAPITAL LETTER B WITH DOT BELOWbSMALL LETTER B WITH DOT BELOW
    bCAPITAL LETTER B WITH LINE BELOWbSMALL LETTER B WITH LINE BELOW
    bCAPITAL LETTER C WITH CEDILLA AND ACUTEbSMALL LETTER C WITH CEDILLA AND ACUTE
    bCAPITAL LETTER D WITH DOT ABOVEbSMALL LETTER D WITH DOT ABOVE
    bCAPITAL LETTER D WITH DOT BELOWbSMALL LETTER D WITH DOT BELOW
    bCAPITAL LETTER D WITH LINE BELOWbSMALL LETTER D WITH LINE BELOW
    bCAPITAL LETTER D WITH CEDILLAbSMALL LETTER D WITH CEDILLA
    bCAPITAL LETTER D WITH CIRCUMFLEX BELOWbSMALL LETTER D WITH CIRCUMFLEX BELOW
    bCAPITAL LETTER E WITH MACRON AND GRAVEbSMALL LETTER E WITH MACRON AND GRAVE
    bCAPITAL LETTER E WITH MACRON AND ACUTEbSMALL LETTER E WITH MACRON AND ACUTE
    bCAPITAL LETTER E WITH CIRCUMFLEX BELOWbSMALL LETTER E WITH CIRCUMFLEX BELOW
    bCAPITAL LETTER E WITH TILDE BELOWbSMALL LETTER E WITH TILDE BELOW
    bCAPITAL LETTER E WITH CEDILLA AND BREVEbSMALL LETTER E WITH CEDILLA AND BREVE
    bCAPITAL LETTER F WITH DOT ABOVEbSMALL LETTER F WITH DOT ABOVEbCAPITAL LETTER G WITH MACRON
    bSMALL LETTER G WITH MACRONbCAPITAL LETTER H WITH DOT ABOVEbSMALL LETTER H WITH DOT ABOVE
    bCAPITAL LETTER H WITH DOT BELOWbSMALL LETTER H WITH DOT BELOW
    bCAPITAL LETTER H WITH DIAERESISbSMALL LETTER H WITH DIAERESISbCAPITAL LETTER H WITH CEDILLA
    bSMALL LETTER H WITH CEDILLAbCAPITAL LETTER H WITH BREVE BELOW
    bSMALL LETTER H WITH BREVE BELOWbCAPITAL LETTER I WITH TILDE BELOW
    bSMALL LETTER I WITH TILDE BELOWbCAPITAL LETTER I WITH DIAERESIS AND ACUTE
    bSMALL LETTER I WITH DIAERESIS AND ACUTEbCAPITAL LETTER K WITH ACUTE
    bSMALL LETTER K WITH ACUTEbCAPITAL LETTER K WITH DOT BELOWbSMALL LETTER K WITH DOT BELOW
    bCAPITAL LETTER K WITH LINE BELOWbSMALL LETTER K WITH LINE BELOW
    bCAPITAL LETTER L WITH DOT BELOWbSMALL LETTER L WITH DOT BELOW
    bCAPITAL LETTER L WITH DOT BELOW AND MACRONbSMALL LETTER L WITH DOT BELOW AND MACRON
    bCAPITAL LETTER L WITH LINE BELOWbSMALL LETTER L WITH LINE BELOW
    bCAPITAL LETTER L WITH CIRCUMFLEX BELOWbSMALL LETTER L WITH CIRCUMFLEX BELOW
    bCAPITAL LETTER M WITH ACUTEbSMALL LETTER M WITH ACUTEbCAPITAL LETTER M WITH DOT ABOVE
    bSMALL LETTER M WITH DOT ABOVEbCAPITAL LETTER M WITH DOT BELOWbSMALL LETTER M WITH DOT BELOW
    bCAPITAL LETTER N WITH DOT ABOVEbSMALL LETTER N WITH DOT ABOVE
    bCAPITAL LETTER N WITH DOT BELOWbSMALL LETTER N WITH DOT BELOW
    bCAPITAL LETTER N WITH LINE BELOWbSMALL LETTER N WITH LINE BELOW
    bCAPITAL LETTER N WITH CIRCUMFLEX BELOWbSMALL LETTER N WITH CIRCUMFLEX BELOW
    bCAPITAL LETTER O WITH TILDE AND ACUTEbSMALL LETTER O WITH TILDE AND ACUTE
    bCAPITAL LETTER O WITH TILDE AND DIAERESISbSMALL LETTER O WITH TILDE AND DIAERESIS
    bCAPITAL LETTER O WITH MACRON AND GRAVEbSMALL LETTER O WITH MACRON AND GRAVE
    bCAPITAL LETTER O WITH MACRON AND ACUTEbSMALL LETTER O WITH MACRON AND ACUTE
    bCAPITAL LETTER P WITH ACUTEbSMALL LETTER P WITH ACUTEbCAPITAL LETTER P WITH DOT ABOVE
    bSMALL LETTER P WITH DOT ABOVEbCAPITAL LETTER R WITH DOT ABOVEbSMALL LETTER R WITH DOT ABOVE
    bCAPITAL LETTER R WITH DOT BELOWbSMALL LETTER R WITH DOT BELOW
    bCAPITAL LETTER R WITH DOT BELOW AND MACRONbSMALL LETTER R WITH DOT BELOW AND MACRON
    bCAPITAL LETTER R WITH LINE BELOWbSMALL LETTER R WITH LINE BELOW
    bCAPITAL LETTER S WITH DOT ABOVEbSMALL LETTER S WITH DOT ABOVE
    bCAPITAL LETTER S WITH DOT BELOWbSMALL LETTER S WITH DOT BELOW
    bCAPITAL LETTER S WITH ACUTE AND DOT ABOVEbSMALL LETTER S WITH ACUTE AND DOT ABOVE
    bCAPITAL LETTER S WITH CARON AND DOT ABOVEbSMALL LETTER S WITH CARON AND DOT ABOVE
    bCAPITAL LETTER S WITH DOT BELOW AND DOT ABOVEbSMALL LETTER S WITH DOT BELOW AND DOT ABOVE
    bCAPITAL LETTER T WITH DOT ABOVEbSMALL LETTER T WITH DOT ABOVE
    bCAPITAL LETTER T WITH DOT BELOWbSMALL LETTER T WITH DOT BELOW
    bCAPITAL LETTER T WITH LINE BELOWbSMALL LETTER T WITH LINE BELOW
    bCAPITAL LETTER T WITH CIRCUMFLEX BELOWbSMALL LETTER T WITH CIRCUMFLEX BELOW
    bCAPITAL LETTER U WITH DIAERESIS BELOWbSMALL LETTER U WITH DIAERESIS BELOW
    bCAPITAL LETTER U WITH TILDE BELOWbSMALL LETTER U WITH TILDE BELOW
    bCAPITAL LETTER U WITH CIRCUMFLEX BELOWbSMALL LETTER U WITH CIRCUMFLEX BELOW
    bCAPITAL LETTER U WITH TILDE AND ACUTEbSMALL LETTER U WITH TILDE AND ACUTE
    bCAPITAL LETTER U WITH MACRON AND DIAERESISbSMALL LETTER U WITH MACRON AND DIAERESIS
    bCAPITAL LETTER V WITH TILDEbSMALL LETTER V WITH TILDEbCAPITAL LETTER V WITH DOT BELOW
    bSMALL LETTER V WITH DOT BELOWbCAPITAL LETTER W WITH GRAVEbSMALL LETTER W WITH GRAVE
    bCAPITAL LETTER W WITH ACUTEbSMALL LETTER W WITH ACUTEbCAPITAL LETTER W WITH DIAERESIS
    bSMALL LETTER W WITH DIAERESISbCAPITAL LETTER W WITH DOT ABOVEbSMALL LETTER W WITH DOT ABOVE
    bCAPITAL LETTER W WITH DOT BELOWbSMALL LETTER W WITH DOT BELOW
    bCAPITAL LETTER X WITH DOT ABOVEbSMALL LETTER X WITH DOT ABOVE
    bCAPITAL LETTER X WITH DIAERESISbSMALL LETTER X WITH DIAERESIS
    bCAPITAL LETTER Y WITH DOT ABOVEbSMALL LETTER Y WITH DOT ABOVE
    bCAPITAL LETTER Z WITH CIRCUMFLEXbSMALL LETTER Z WITH CIRCUMFLEX
    bCAPITAL LETTER Z WITH DOT BELOWbSMALL LETTER Z WITH DOT BELOW
    bCAPITAL LETTER Z WITH LINE BELOWbSMALL LETTER Z WITH LINE BELOWdH WITH LINE BELOW
    dT WITH DIAERESISdW WITH RING ABOVEdY WITH RING ABOVEdA WITH RIGHT HALF RING
    dLONG S WITH DOT ABOVEgDIAGONAL STROKEgHIGH STROKEbCAPITAL LETTER SHARP SbSMALL LETTER DELTA
    bCAPITAL LETTER A WITH DOT BELOWbSMALL LETTER A WITH DOT BELOW
    bCAPITAL LETTER A WITH HOOK ABOVEbSMALL LETTER A WITH HOOK ABOVE
    bCAPITAL LETTER A WITH CIRCUMFLEX AND ACUTEbSMALL LETTER A WITH CIRCUMFLEX AND ACUTE
    bCAPITAL LETTER A WITH CIRCUMFLEX AND GRAVEbSMALL LETTER A WITH CIRCUMFLEX AND GRAVE
    bCAPITAL LETTER A WITH CIRCUMFLEX AND HOOK ABOVE
    bSMALL LETTER A WITH CIRCUMFLEX AND HOOK ABOVEbCAPITAL LETTER A WITH CIRCUMFLEX AND TILDE
    bSMALL LETTER A WITH CIRCUMFLEX AND TILDEbCAPITAL LETTER A WITH CIRCUMFLEX AND DOT BELOW
    bSMALL LETTER A WITH CIRCUMFLEX AND DOT BELOWbCAPITAL LETTER A WITH BREVE AND ACUTE
    bSMALL LETTER A WITH BREVE AND ACUTEbCAPITAL LETTER A WITH BREVE AND GRAVE
    bSMALL LETTER A WITH BREVE AND GRAVEbCAPITAL LETTER A WITH BREVE AND HOOK ABOVE
    bSMALL LETTER A WITH BREVE AND HOOK ABOVEbCAPITAL LETTER A WITH BREVE AND TILDE
    bSMALL LETTER A WITH BREVE AND TILDEbCAPITAL LETTER A WITH BREVE AND DOT BELOW
    bSMALL LETTER A WITH BREVE AND DOT BELOWbCAPITAL LETTER E WITH DOT BELOW
    bSMALL LETTER E WITH DOT BELOWbCAPITAL LETTER E WITH HOOK ABOVE
    bSMALL LETTER E WITH HOOK ABOVEbCAPITAL LETTER E WITH TILDEbSMALL LETTER E WITH TILDE
    bCAPITAL LETTER E WITH CIRCUMFLEX AND ACUTEbSMALL LETTER E WITH CIRCUMFLEX AND ACUTE
    bCAPITAL LETTER E WITH CIRCUMFLEX AND GRAVEbSMALL LETTER E WITH CIRCUMFLEX AND GRAVE
    bCAPITAL LETTER E WITH CIRCUMFLEX AND HOOK ABOVE
    bSMALL LETTER E WITH CIRCUMFLEX AND HOOK ABOVEbCAPITAL LETTER E WITH CIRCUMFLEX AND TILDE
    bSMALL LETTER E WITH CIRCUMFLEX AND TILDEbCAPITAL LETTER E WITH CIRCUMFLEX AND DOT BELOW
    bSMALL LETTER E WITH CIRCUMFLEX AND DOT BELOWbCAPITAL LETTER I WITH HOOK ABOVE
    bSMALL LETTER I WITH HOOK ABOVEbCAPITAL LETTER I WITH DOT BELOW
    bSMALL LETTER I WITH DOT BELOWbCAPITAL LETTER O WITH DOT BELOWbSMALL LETTER O WITH DOT BELOW
    bCAPITAL LETTER O WITH HOOK ABOVEbSMALL LETTER O WITH HOOK ABOVE
    bCAPITAL LETTER O WITH CIRCUMFLEX AND ACUTEbSMALL LETTER O WITH CIRCUMFLEX AND ACUTE
    bCAPITAL LETTER O WITH CIRCUMFLEX AND GRAVEbSMALL LETTER O WITH CIRCUMFLEX AND GRAVE
    bCAPITAL LETTER O WITH CIRCUMFLEX AND HOOK ABOVE
    bSMALL LETTER O WITH CIRCUMFLEX AND HOOK ABOVEbCAPITAL LETTER O WITH CIRCUMFLEX AND TILDE
    bSMALL LETTER O WITH CIRCUMFLEX AND TILDEbCAPITAL LETTER O WITH CIRCUMFLEX AND DOT BELOW
    bSMALL LETTER O WITH CIRCUMFLEX AND DOT BELOWbCAPITAL LETTER O WITH HORN AND ACUTE
    bSMALL LETTER O WITH HORN AND ACUTEbCAPITAL LETTER O WITH HORN AND GRAVE
    bSMALL LETTER O WITH HORN AND GRAVEbCAPITAL LETTER O WITH HORN AND HOOK ABOVE
    bSMALL LETTER O WITH HORN AND HOOK ABOVEbCAPITAL LETTER O WITH HORN AND TILDE
    bSMALL LETTER O WITH HORN AND TILDEbCAPITAL LETTER O WITH HORN AND DOT BELOW
    bSMALL LETTER O WITH HORN AND DOT BELOWbCAPITAL LETTER U WITH DOT BELOW
    bSMALL LETTER U WITH DOT BELOWbCAPITAL LETTER U WITH HOOK ABOVE
    bSMALL LETTER U WITH HOOK ABOVEbCAPITAL LETTER U WITH HORN AND ACUTE
    bSMALL LETTER U WITH HORN AND ACUTEbCAPITAL LETTER U WITH HORN AND GRAVE
    bSMALL LETTER U WITH HORN AND GRAVEbCAPITAL LETTER U WITH HORN AND HOOK ABOVE
    bSMALL LETTER U WITH HORN AND HOOK ABOVEbCAPITAL LETTER U WITH HORN AND TILDE
    bSMALL LETTER U WITH HORN AND TILDEbCAPITAL LETTER U WITH HORN AND DOT BELOW
    bSMALL LETTER U WITH HORN AND DOT BELOWbCAPITAL LETTER Y WITH GRAVE
    bSMALL LETTER Y WITH GRAVEbCAPITAL LETTER Y WITH DOT BELOWbSMALL LETTER Y WITH DOT BELOW
    bCAPITAL LETTER Y WITH HOOK ABOVEbSMALL LETTER Y WITH HOOK ABOVEbCAPITAL LETTER Y WITH TILDE
    bSMALL LETTER Y WITH TILDEbCAPITAL LETTER MIDDLE-WELSH LLbSMALL LETTER MIDDLE-WELSH LL
    bCAPITAL LETTER MIDDLE-WELSH VbSMALL LETTER MIDDLE-WELSH VbCAPITAL LETTER Y WITH LOOP
    bSMALL LETTER Y WITH LOOPaGREEK SMALL LETTER ALPHA WITH PSILIfDASIAfPSILI AND VARIA
    fDASIA AND VARIAfPSILI AND OXIAfDASIA AND OXIAfPSILI AND PERISPOMENIfDASIA AND PERISPOMENI
    bCAPITAL LETTER ALPHA WITH PSILIfDASIAfPSILI AND VARIAfDASIA AND VARIAfPSILI AND OXIA
    fDASIA AND OXIAfPSILI AND PERISPOMENIfDASIA AND PERISPOMENIbSMALL LETTER EPSILON WITH PSILI
    fDASIAfPSILI AND VARIAfDASIA AND VARIAfPSILI AND OXIAfDASIA AND OXIA"⟩,
  ⟨0x1f18, "aGREEK CAPITAL LETTER EPSILON WITH PSILIfDASIAfPSILI AND VARIAfDASIA AND VARIA
    fPSILI AND OXIAfDASIA AND OXIA"⟩,
  ⟨0x1f20, "aGREEK SMALL LETTER ETA WITH PSILIfDASIAfPSILI AND VARIAfDASIA AND VARIA
    fPSILI AND OXIAfDASIA AND OXIAfPSILI AND PERISPOMENIfDASIA AND PERISPOMENI
    bCAPITAL LETTER ETA WITH PSILIfDASIAfPSILI AND VARIAfDASIA AND VARIAfPSILI AND OXIA
    fDASIA AND OXIAfPSILI AND PERISPOMENIfDASIA AND PERISPOMENIbSMALL LETTER IOTA WITH PSILI
    fDASIAfPSILI AND VARIAfDASIA AND VARIAfPSILI AND OXIAfDASIA AND OXIAfPSILI AND PERISPOMENI
    fDASIA AND PERISPOMENIbCAPITAL LETTER IOTA WITH PSILIfDASIAfPSILI AND VARIAfDASIA AND VARIA
    fPSILI AND OXIAfDASIA AND OXIAfPSILI AND PERISPOMENIfDASIA AND PERISPOMENI
    bSMALL LETTER OMICRON WITH PSILIfDASIAfPSILI AND VARIAfDASIA AND VARIAfPSILI AND OXIA
    fDASIA AND OXIA"⟩,
  ⟨0x1f48, "aGREEK CAPITAL LETTER OMICRON WITH PSILIfDASIAfPSILI AND VARIAfDASIA AND VARIA
    fPSILI AND OXIAfDASIA AND OXIA"⟩,
  ⟨0x1f50, "aGREEK SMALL LETTER UPSILON WITH PSILIfDASIAfPSILI AND VARIAfDASIA AND VARIA
    fPSILI AND OXIAfDASIA AND OXIAfPSILI AND PERISPOMENIfDASIA AND PERISPOMENI"⟩,
  ⟨0x1f59, "aGREEK CAPITAL LETTER UPSILON WITH DASIA"⟩,
  ⟨0x1f5b, "aGREEK CAPITAL LETTER UPSILON WITH DASIA AND VARIA"⟩,
  ⟨0x1f5d, "aGREEK CAPITAL LETTER UPSILON WITH DASIA AND OXIA"⟩,
  ⟨0x1f5f, "aGREEK CAPITAL LETTER UPSILON WITH DASIA AND PERISPOMENI
    bSMALL LETTER OMEGA WITH PSILIfDASIAfPSILI AND VARIAfDASIA AND VARIAfPSILI AND OXIA
    fDASIA AND OXIAfPSILI AND PERISPOMENIfDASIA AND PERISPOMENIbCAPITAL LETTER OMEGA WITH PSILI
    fDASIAfPSILI AND VARIAfDASIA AND VARIAfPSILI AND OXIAfDASIA AND OXIAfPSILI AND PERISPOMENI
    fDASIA AND PERISPOMENIbSMALL LETTER ALPHA WITH VARIAfOXIAdEPSILON WITH VARIAfOXIA
    dETA WITH VARIAfOXIAdIOTA WITH VARIAfOXIAdOMICRON WITH VARIAfOXIAdUPSILON WITH VARIAfOXIA
    dOMEGA WITH VARIAfOXIA"⟩,
  ⟨0x1f80, "aGREEK SMALL LETTER ALPHA WITH PSILI AND YPOGEGRAMMENIfDASIA AND YPOGEGRAMMENI
    fPSILI AND VARIA AND YPOGEGRAMMENIfDASIA AND VARIA AND YPOGEGRAMMENI
    fPSILI AND OXIA AND YPOGEGRAMMENIfDASIA AND OXIA AND YPOGEGRAMMENI
    fPSILI AND PERISPOMENI AND YPOGEGRAMMENIfDASIA AND PERISPOMENI AND YPOGEGRAMMENI
    bCAPITAL LETTER ALPHA WITH PSILI AND PROSGEGRAMMENIfDASIA AND PROSGEGRAMMENI
    fPSILI AND VARIA AND PROSGEGRAMMENIfDASIA AND VARIA AND PROSGEGRAMMENI
    fPSILI AND OXIA AND PROSGEGRAMMENIfDASIA AND OXIA AND PROSGEGRAMMENI
    fPSILI AND PERISPOMENI AND PROSGEGRAMMENIfDASIA AND PERISPOMENI AND PROSGEGRAMMENI
    bSMALL LETTER ETA WITH PSILI AND YPOGEGRAMMENIfDASIA AND YPOGEGRAMMENI
    fPSILI AND VARIA AND YPOGEGRAMMENIfDASIA AND VARIA AND YPOGEGRAMMENI
    fPSILI AND OXIA AND YPOGEGRAMMENIfDASIA AND OXIA AND YPOGEGRAMMENI
    fPSILI AND PERISPOMENI AND YPOGEGRAMMENIfDASIA AND PERISPOMENI AND YPOGEGRAMMENI
    bCAPITAL LETTER ETA WITH PSILI AND PROSGEGRAMMENIfDASIA AND PROSGEGRAMMENI
    fPSILI AND VARIA AND PROSGEGRAMMENIfDASIA AND VARIA AND PROSGEGRAMMENI
    fPSILI AND OXIA AND PROSGEGRAMMENIfDASIA AND OXIA AND PROSGEGRAMMENI
    fPSILI AND PERISPOMENI AND PROSGEGRAMMENIfDASIA AND PERISPOMENI AND PROSGEGRAMMENI
    bSMALL LETTER OMEGA WITH PSILI AND YPOGEGRAMMENIfDASIA AND YPOGEGRAMMENI
    fPSILI AND VARIA AND YPOGEGRAMMENIfDASIA AND VARIA AND YPOGEGRAMMENI
    fPSILI AND OXIA AND YPOGEGRAMMENIfDASIA AND OXIA AND YPOGEGRAMMENI
    fPSILI AND PERISPOMENI AND YPOGEGRAMMENIfDASIA AND PERISPOMENI AND YPOGEGRAMMENI
    bCAPITAL LETTER OMEGA WITH PSILI AND PROSGEGRAMMENIfDASIA AND PROSGEGRAMMENI
    fPSILI AND VARIA AND PROSGEGRAMMENIfDASIA AND VARIA AND PROSGEGRAMMENI
    fPSILI AND OXIA AND PROSGEGRAMMENIfDASIA AND OXIA AND PROSGEGRAMMENI
    fPSILI AND PERISPOMENI AND PROSGEGRAMMENIfDASIA AND PERISPOMENI AND PROSGEGRAMMENI
    bSMALL LETTER ALPHA WITH VRACHYfMACRONfVARIA AND YPOGEGRAMMENIfYPOGEGRAMMENI
    fOXIA AND YPOGEGRAMMENI"⟩,
  ⟨0x1fb6, "aGREEK SMALL LETTER ALPHA WITH PERISPOMENIgAND YPOGEGRAMMENI
    bCAPITAL LETTER ALPHA WITH VRACHYfMACRONfVARIAfOXIAfPROSGEGRAMMENIbKORONISbPROSGEGRAMMENI
    bPSILIbPERISPOMENIbDIALYTIKA AND PERISPOMENIbSMALL LETTER ETA WITH VARIA AND YPOGEGRAMMENI
    fYPOGEGRAMMENIfOXIA AND YPOGEGRAMMENI"⟩,
  ⟨0x1fc6, "aGREEK SMALL LETTER ETA WITH PERISPOMENIgAND YPOGEGRAMMENI
    bCAPITAL LETTER EPSILON WITH VARIAfOXIAdETA WITH VARIAfOXIAfPROSGEGRAMMENIbPSILI AND VARIA
    dOXIAdPERISPOMENIbSMALL LETTER IOTA WITH VRACHYfMACRONfDIALYTIKA AND VARIAhOXIA"⟩,
  ⟨0x1fd6, "aGREEK SMALL LETTER IOTA WITH PERISPOMENIfDIALYTIKA AND PERISPOMENI
    bCAPITAL LETTER IOTA WITH VRACHYfMACRONfVARIAfOXIA"⟩,
  ⟨0x1fdd, "aGREEK DASIA AND VARIAdOXIAdPERISPOMENIbSMALL LETTER UPSILON WITH VRACHYfMACRON
    fDIALYTIKA AND VARIAhOXIAdRHO WITH PSILIfDASIAdUPSILON WITH PERISPOMENI
    fDIALYTIKA AND PERISPOMENIbCAPITAL LETTER UPSILON WITH VRACHYfMACRONfVARIAfOXIA
    dRHO WITH DASIAbDIALYTIKA AND VARIAdOXIAbVARIA"⟩,
  ⟨0x1ff2, "aGREEK SMALL LETTER OMEGA WITH VARIA AND YPOGEGRAMMENIfYPOGEGRAMMENI
    fOXIA AND YPOGEGRAMMENI"⟩,
  ⟨0x1ff6, "aGREEK SMALL LETTER OMEGA WITH PERISPOMENIgAND YPOGEGRAMMENI
    bCAPITAL LETTER OMICRON WITH VARIAfOXIAdOMEGA WITH VARIAfOXIAfPROSGEGRAMMENIbOXIAbDASIA"⟩]

end JournalSearch.Unicode
