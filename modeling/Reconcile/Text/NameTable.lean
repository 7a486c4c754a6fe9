/-!
# The names of characters

The names of characters and their aliases in Unicode 14.0, but for the Hangul
syllables and the unified ideographs, whose names follow rules.
-/

namespace Reconcile.Text

/-- The marks that may stand before a name: the first for a name that shares no
letter with the name before it, the next for one that starts with the same letter,
and so on. -/
def nameMarks : List Char := "abcdefghijklmnopqrstuvwxyzαβγδεζηθικλμνξοπρςστυφχψω".toList

/-- The names in order. Between each two stands a mark that tells how many letters the
second takes over from the front of the first; only its other letters are written. -/
def nameTable : List String :=
  ["ABACUSbC CURRENTcCORDIONeUNT OFcKdNOWLEDGEcTIVATE ARABIC FORM SHAPINGjSYMMETRIC SWAPPING",
   "cUTE ACCENThNGLEbDDRESSED TO THE SUBJECTcHESIVE BANDAGEcI SHAKTIcLAM ALIF LENGTHENER",
   "gCAPITAL LETTER ALIFvBAwHEvCHIvDAALIwHAvEvFAvGAwBEvHAvIvJIIMvKAFwHAwPOvLAAMvMIIMvNHAwUNwYAvO",
   "vPEvQAAFvRAvSHAwINNYIIYHEvTUvUvVAvWAWvYAwHEvZALhONSONANT MODIFIERgDIGIT EIGHTmFIVEnOURmNINE",
   "mONEmSEVENnIXmTHREEnWOmZEROgGEMINATE CONSONANT MODIFIERnION MARKgHAMZA",
   "gINITIAL EXCLAMATION MARKoQUESTION MARKgNASALIZATION MARKhUKTAgSMALL LETTER ALIFtBAuHEtCHI",
   "tDAALIuHAtEtFAtGAuBEtHAtItJIIMtKAFuHAuPOtLAAMtMIIMtNHAuUNuYAtOtPEtQAAFtRAtSHAuINNYIIYHEtTUtU",
   "tVAtWAWtYAuHEtZALgVOWEL LENGTHENERcMETOSdISSION TICKETScULTbEGEAN CHECK MARK",
   "hDRY MEASURE FIRST SUBUNIThLIQUID MEASURE FIRST SUBUNIThMEASURE SECOND SUBUNITpTHIRD SUBUNIT",
   "hNUMBER EIGHTt HUNDREDuTHOUSANDtYu THOUSANDoFIFTYt THOUSANDqVEs HUNDREDtTHOUSANDpORTY",
   "t THOUSANDqURs HUNDREDtTHOUSANDoNINEs HUNDREDtTHOUSANDsTYu THOUSANDoONEr HUNDREDsTHOUSAND",
   "oSEVENt HUNDREDuTHOUSANDtTYv THOUSANDpIXr HUNDREDsTHOUSANDrTYt THOUSANDoTENr THOUSANDpHIRTY",
   "u THOUSANDqREEt HUNDREDuTHOUSANDpWENTYu THOUSANDqOr HUNDREDsTHOUSANDhWEIGHT BASE UNIT",
   "oFIRST SUBUNITpOURTH SUBUNIToSECOND SUBUNIToTHIRD SUBUNITiORD SEPARATOR DOTwLINEcRIAL TRAMWAY",
   "bFGHANI SIGNbHOM CONSONANT SIGN MEDIAL LAγIGATING RAβRAfDIGIT EIGHTlFIVEmOURlNINElONElSEVENmIX",
   "lTHREEmWOlZEROfLETTER AnLTERNATE BAwGAwTAmBAnHAmCAnHAmDAnDAoHAnHAmGAnHAmHAmJAnHAmKAnHAmLAnLA",
   "mMAmNAnGAnNAnYAmPAnHAmRAmSAmTAnHAnTAoHAfNUMBER TENnWENTYfSIGN KILLERkRULAIkSECTION",
   "lMALL SECTIONgYMBOL VIfVOWEL SIGN ArArIrMrWqEqIrIqOqUrUbIRPLANEi ARRIVINGjDEPARTURE",
   "bKTIESELSKABbLARM CLOCKcCHEMICAL SYMBOL FOR AIRxLEMBICyKALIγ-2yUMxMALGAMxNTIMONY ORExQUA REGIA",
   "η-2βVITAEη-2αFORTISxRSENICxSHESxURIPIGMENTwBATH OF MARYεVAPOURSxISMUTH ORExLACK SULFURxORAXβ-2",
   "γ3xRICKwCADUCEUSyLXyPUT MORTUUMxINNABARxOPPER ANTIMONIATEδORExROCUS OF COPPERν-2ηIRONyUCIBLE",
   "ε-2ζ3ζ4ζ5wDAY-NIGHTxISSOLVEε-2zTILLwEARTHwFIREwGOLDxUMwHALF DRAMβOUNCExORSE DUNGyURwIRON ORE",
   "ε-2α-COPPER OREwLEAD ORExODESTONEwMARCASITExERCURY SUBLIMATEξ-2ο3xONTHwNIGHTyTREwOIL",
   "wPHILOSOPHERS SULFURxOT ASHESyWDERγED BRICKxRECIPITATExURIFYyTREFACTIONwQUICK LIMEzNTESSENCE",
   "wREALGARδ-2yGULUSδ OF ANTIMONYπ-2θIRONδ-2ε3ε4yTORTxOCK SALTζ-2wSAL-AMMONIACzTα OF ANTIMONY",
   "εCOPPER ANTIMONIATExCEPTER OF JOVExILVERxOAPxPIRITxTARRED TRIDENTyRATUM SUPER STRATUMς-2",
   "xUBLIMATE OF ANTIMONYκCOPPERκSALT OF ANTIMONYςCOPPERεIONyLFURwTARTARγ-2xIN OREzCTURExRIDENT",
   "xUTTYwURINEwVERDIGRISxINEGARδ OF ANTIMONYδ-2ε3yTRIOLδ-2wWATERyXcEF SYMBOLdMBICdRTcIEN MONSTER",
   "cL AROUND-PROFILEeEQUAL TOcMdOST EQUAL OR EQUAL TOnTOp WITH CIRCUMFLEX ACCENT",
   "cTERNATE ONE-WAY LEFT WAY TRAFFICiIVE KEY SYMBOLbMALGAMATION OR COPRODUCTcBULANCE",
   "cERICAN FOOTBALLcPERSANDdHORAbNATOLIAN HIEROGLYPH A001y2y3y4y5y6y7y8y9x10zAy1y2y3y4y5y6y7y8y9",
   "x20y1y2y3y4y5y6zAy7y8y9x30y1y2y3y4y5y6y7y8y9zAx40y1zAy2y3y4y5zAy6zAzBy7y8y9x50y1y2y3y4y5y6y7y8",
   "y9x60y1y2y3y4y5y6zAzBzCy7y8y9x70y1y2y3y4y5y6y7y8y9x80y1y2y3y4y5y6y7y8y9x90y1y2y3y4y5y6y7zAy8zA",
   "y9w100zAy1zAy2zAy3y4zAzBzCy5zAzBy6y7zAzBzCy8y9x10zAzBy1y2y3y4y5zAy6y7y8y9x20y1y2y3y4y5zAy6y7y8",
   "y9x30y1y2y3y4y5zAy6y7y8y9x40y1y2y3y4y5y6y7y8y9x50y1y2y3y4y5y6y7y8y9x60y1y2y3y4y5y6y7y8y9x70y1",
   "y2y3y4y5y6y7y8y9x80y1y2y3y4y5y6y7y8y9x90y1y2y3y4y5y6y7y8y9w200y1y2zAzBy3y4y5y6y7zAy8y9zAx10y1",
   "y2y3y4y5zAy6zAy7y8y9x20y1y2y3y4y5y6y7zAy8y9x30y1y2y3y4y5y6y7y8y9x40y1y2y3y4y5y6y7y8y9x50y1y2y3",
   "y4y5y6y7y8y9x60y1y2y3y4y5y6y7zAy8y9x70y1y2y3y4y5y6y7y8y9x80y1y2y3y4y5y6y7y8y9zAx90y1y2y3y4zAy5",
   "y6y7y8y9zAw300y1y2y3y4y5y6y7y8y9zAx10y1y2y3y4y5y6y7y8y9x20y1y2y3y4y5y6y7y8y9zAx30y1y2AzBzCy3y4",
   "y5y6zAzBzCy7y8y9x40y1y2y3y4y5y6y7y8y9x50y1y2y3y4y5y6y7y8y9zAx60y1y2y3y4zAy5y6y7y8zAy9x70y1zAy2",
   "y3y4y5y6y7y8y9x80y1zAy2y3 RA OR RIzAy4y5y6zAy7y8y9x90y1y2y3 EIGHTy4y5y6y7y8y9w400y1y2y3y4y5y6",
   "y7y8y9x10 BEGIN LOGOGRAM MARKzA END LOGOGRAM MARKy1y2y3y4y5y6y7y8y9x20y1y2y3y4y5y6y7y8y9x30y1",
   "y2y3y4y5y6y7y8y9x40y1y2y3y4y5y6y7y8y9x50zAy1y2y3y4y5y6y7zAy8y9x60y1y2y3y4y5y6y7y8y9x70y1y2y3y4",
   "y5y6y7y8y9x80y1y2y3y4y5y6y7y8y9x90y1y2y3y4y5y6y7w501y2y3y4y5y6y7y8y9x10y1y2y3y4y5y6y7y8y9x20y1",
   "y2y3y4y5y6y7y8y9x30fMICAL HEARTcCHORcD WITH DOTcGER SYMBOLdLEf WITH S INSIDElUNDERBARdRY FACE",
   "dSTROM SIGNdUISHED FACEcKHcTdENNA WITH BARSdICLOCKWISE CLOSED CIRCLE ARROWpONTOUR INTEGRAL",
   "oDOWNWARDS AND UPWARDS OPEN CIRCLE ARROWSoGAPPED CIRCLE ARROWoINTEGRATIONoOPEN CIRCLE ARROW",
   "oTOP SEMICIRCLE ARROWpRIANGLE-HEADED BOTTOM U-SHAPED ARROWεLEFT U-SHAPED ARROW",
   "εOPEN CIRCLE ARROWεRIGHT U-SHAPED ARROWεTOP U-SHAPED ARROWbPCcL FUNCTIONAL SYMBOL ALPHA",
   "β UNDERBARwBACKSLASH BARwCIRCLE BACKSLASHδDIAERESISδJOTδSTARζILEδUNDERBARxOMMA BAR",
   "wDEL DIAERESISαSTILEαTILDEzTA STILEγUNDERBARxIAMOND UNDERBARxOWN CARET TILDEβSHOE STILE",
   "βTACK JOTηUNDERBARαWARDS VANEwEPSILON UNDERBARwGREATER-THAN DIAERESISwI-BEAMxOTAα UNDERBAR",
   "wJOT DIAERESISαUNDERBARwLEFT SHOE STILEαWARDS VANEwOMEGAβ UNDERBARwQUADα BACKSLASHβCIRCLEγOLON",
   "βDELεTAγIAMONDδVIDEγOWN CARETζWARDS ARROWβEQUALβGREATER-THANβJOTβLEFTWARDS ARROWδSS-THAN",
   "βNOT EQUALβQUESTIONβRIGHTWARDS ARROWβSLASHβUP CARETδWARDS ARROWyOTE QUADγUNDERBARwRHO",
   "xIGHTWARDS VANEwSEMICOLON UNDERBARxLASH BARxQUISH QUADxTAR DIAERESISyILE TILDEwTILDE DIAERESIS",
   "wUP CARET TILDEzSHOE JOTzTACK DIAERESISεJOTεOVERBARyWARDS VANEwZILDEcOLLONdSTROPHE",
   "cPLICATION PROGRAM COMMANDdROACHES THE LIMITfXIMATELY BUT NOT ACTUALLY EQUAL TO",
   "oEQUAL OR EQUAL TOuTOw OR THE IMAGE OFbQUARIUSbRABIC BASELINE ROUND DOThCOMMAiURLY DAMMAsTAN",
   "nFATHAsTANnKASRAsTANhDAMMAm ISOLATED FORMnMEDIAL FORMnWITH DOTmTANp ISOLATED FORMjTE SEPARATOR",
   "iECIMAL SEPARATORiISPUTED END OF AYAHiOUBLE RIGHT ARROWHEAD ABOVEκ WITH DOTnD MADDA",
   "hEMPTY CENTRE HIGH STOPuLOW STOPiND OF AYAHoTEXT MARKhFATHAm ISOLATED FORMnMEDIAL FORM",
   "nWITH DOT ABOVEsRINGsTWO DOTSmTANp ISOLATED FORMiIVE POINTED STARiOOTNOTE MARKERiULL STOP",
   "hHALF MADDA OVER MADDAjMZA ABOVEnBELOWhINVERTED DAMMAhKASRAm ISOLATED FORMnMEDIAL FORM",
   "nWITH DOT BELOWmTANp ISOLATED FORMhLARGE CIRCLE BELOWnROUND DOT ABOVExBELOW",
   "xINSIDE CIRCLE BELOWiEFT ARROWHEAD ABOVEwBELOWjTTER AEpFRICAN FEHwNOONwQAF",
   "z WITH THREE DOTS ABOVEpINr FINAL FORMsINITIAL FORMtSOLATED FORMsMEDIAL FORM",
   "sWITH THREE DOTS ABOVEιBELOWιPOINTING DOWNWARDS ABOVEyWO DOTS ABOVEηVERTICALLY ABOVEpLEF",
   "s FINAL FORMtISOLATED FORMtMAKSURAα FINAL FORMβISOLATED FORMtWASLAy FINAL FORMzISOLATED FORM",
   "uITH ATTACHED BOTTOM RIGHT KASRAωA AND DOT ABOVEωA AND LEFT RINGθFATHAθKASRAθLEFT HAMZA",
   "νROUND DOTθRIGHT HAMZAξROUND DOTιOUND DOT ABOVEςBELOWθTOP RIGHT FATHAχ AND DOT ABOVE",
   "ωND LEFT RINGyDOT ABOVEyEXTENDED ARABIC-INDIC DIGIT THREE ABOVEωT TWO ABOVEyHAMZA ABOVE",
   "κ FINAL FORMλISOLATED FORMεBELOWκ FINAL FORMλISOLATED FORMyLEFT MIDDLE STROKEyMADDA ABOVE",
   "κ FINAL FORMλISOLATED FORMyRIGHT MIDDLE STROKEς AND DOT ABOVEχLEFT RINGyWAVY HAMZA ABOVEκBELOW",
   "oBEEHs FINAL FORMtINITIAL FORMuSOLATED FORMtMEDIAL FORMqHr FINAL FORMsINITIAL FORM",
   "tSOLATED FORMsMEDIAL FORMsWITH DOT BELOW AND THREE DOTS ABOVExHAMZA ABOVE",
   "xINVERTED SMALL V BELOWxSMALL MEEM ABOVEδVε BELOWxTHREE DOTS HORIZONTALLY BELOW",
   "ιPOINTING UPWARDS BELOWω BELOW AND TWO DOTS ABOVEyWO DOTS BELOW AND DOT ABOVErEHt FINAL FORM",
   "uINITIAL FORMvSOLATED FORMuMEDIAL FORMoDADr FINAL FORMsINITIAL FORMtSOLATED FORMsMEDIAL FORM",
   "sWITH DOT BELOWqHALt FINAL FORMuISOLATED FORMqLr FINAL FORMsISOLATED FORMsWITH DOT BELOW",
   "η AND SMALL TAHxFOUR DOTS ABOVExINVERTED SMALL V BELOWηVxRINGxTHREE DOTS ABOVE DOWNWARDSιBELOW",
   "yWO DOTS VERTICALLY BELOW AND SMALL TAHpDAHALu FINAL FORMvISOLATED FORMrLs FINAL FORM",
   "tISOLATED FORMpOTLESS BEHwFEHwQAFpULr FINAL FORMsISOLATED FORMpYEHs FINAL FORMtINITIAL FORM",
   "uSOLATED FORMtMEDIAL FORMoEp FINAL FORMqINITIAL FORMrSOLATED FORMqMEDIAL FORMoFARSI YEH",
   "x FINAL FORMyINITIAL FORMzSOLATED FORMyMEDIAL FORMyWITH EXTENDED ARABIC-INDIC DIGIT FOUR BELOW",
   "ω DIGIT THREE ABOVEω DIGIT TWO ABOVEδINVERTED VδTHREE DOTS ABOVEεWO DOTS ABOVEpEHr FINAL FORM",
   "sINITIAL FORMtSOLATED FORMsMEDIAL FORMsWITH DOT BELOWη AND THREE DOTS ABOVEβMOVED BELOW",
   "xTHREE DOTS BELOWιPOINTING UPWARDS BELOWyWO DOTS BELOWoGAFr FINAL FORMsINITIAL FORM",
   "tSOLATED FORMsMEDIAL FORMsWITH INVERTED STROKExRINGxTHREE DOTS ABOVEyWO DOTS BELOWpHAIN",
   "t FINAL FORMuINITIAL FORMvSOLATED FORMuMEDIAL FORMuWITH DOT BELOWzTHREE DOTS ABOVEpRAFpUEH",
   "s FINAL FORMtINITIAL FORMuSOLATED FORMtMEDIAL FORMoHAHr FINAL FORMsINITIAL FORMtSOLATED FORM",
   "sMEDIAL FORMsWITH EXTENDED ARABIC-INDIC DIGIT FOUR BELOWxHAMZA ABOVExINVERTED SMALL V BELOW",
   "xSMALL ARABIC LETTER TAH ABOVEχND TWO DOTSφBELOWxTHREE DOTS ABOVEιPOINTING UPWARDS BELOW",
   "yWO DOTS ABOVEηVERTICAL ABOVEqMZAt ISOLATED FORMpEHr DOACHASHMEEδ FINAL FORMεINITIAL FORM",
   "ζSOLATED FORMεMEDIAL FORMsFINAL FORMsGOALw FINAL FORMxINITIAL FORMySOLATED FORMxMEDIAL FORM",
   "xWITH HAMZA ABOVEsINITIAL FORMtSOLATED FORMsMEDIAL FORMsWITH INVERTED VxYEH ABOVEη FINAL FORM",
   "θISOLATED FORMpIGH HAMZAy ALEFzWAWzYEHoJEEMs FINAL FORMtINITIAL FORMuSOLATED FORMtMEDIAL FORM",
   "tWITH THREE DOTS ABOVEκBELOWzWO DOTS ABOVEqHr FINAL FORMsISOLATED FORMoKAFr FINAL FORM",
   "sINITIAL FORMtSOLATED FORMsMEDIAL FORMsWITH DOT ABOVEβBELOWxRINGxTHREE DOTS BELOW",
   "yWO DOTS ABOVEqSHMIRI YEHpEHEHt FINAL FORMuINITIAL FORMvSOLATED FORMuMEDIAL FORM",
   "uWITH DOT ABOVEzSMALL VzTHREE DOTS ABOVEλBELOWλPOINTING UPWARDS BELOWαWO DOTS ABOVE",
   "ιVERTICALLY BELOWpHAHs FINAL FORMtINITIAL FORMuSOLATED FORMtMEDIAL FORMpIRGHIZ OEy FINAL FORM",
   "zISOLATED FORMwYUy FINAL FORMzISOLATED FORMoLAMr FINAL FORMsINITIAL FORMtSOLATED FORM",
   "sMEDIAL FORMsWITH BARxDOT ABOVEzUBLE BARxSMALL ARABIC LETTER TAH ABOVEδVxTHREE DOTS ABOVE",
   "ιBELOWpOW ALEFoMARKpEEMs FINAL FORMtINITIAL FORMuSOLATED FORMtMEDIAL FORMtWITH DOT ABOVEγBELOW",
   "yTHREE DOTS ABOVEoNGq FINAL FORMrINITIAL FORMsSOLATED FORMrMEDIAL FORMqOEHt FINAL FORM",
   "uINITIAL FORMvSOLATED FORMuMEDIAL FORMpOONs FINAL FORMtGHUNNAz FINAL FORMαISOLATED FORM",
   "tINITIAL FORMuSOLATED FORMtMEDIAL FORMtWITH DOT BELOWyINVERTED SMALL VyRINGySMALL TAHεV",
   "yTHREE DOTS ABOVEzWO DOTS BELOWpYEHs FINAL FORMtINITIAL FORMuSOLATED FORMtMEDIAL FORMoOE",
   "q FINAL FORMrISOLATED FORMoPEHr FINAL FORMsINITIAL FORMtSOLATED FORMsMEDIAL FORM",
   "sWITH SMALL MEEM ABOVEδVrEHt FINAL FORMuINITIAL FORMvSOLATED FORMuMEDIAL FORMoQAFr FINAL FORM",
   "sINITIAL FORMtSOLATED FORMsMEDIAL FORMsWITH DOT ABOVEβBELOWη AND NO DOTS ABOVE",
   "xTHREE DOTS ABOVEoREHr FINAL FORMsISOLATED FORMsWITH DOT BELOWη AND DOT ABOVExFOUR DOTS ABOVE",
   "xHAMZA ABOVExINVERTED VxLOOPxRINGxSMALL ARABIC LETTER TAH AND TWO DOTSδNOON ABOVEδVε BELOW",
   "yTROKExTWO DOTS ABOVEηVERTICALLY ABOVEpNOONt FINAL FORMuINITIAL FORMvSOLATED FORMuMEDIAL FORM",
   "pOHINGYA YEHpREHs FINAL FORMtISOLATED FORMoSADr FINAL FORMsINITIAL FORMtSOLATED FORM",
   "sMEDIAL FORMsWITH THREE DOTS ABOVEιBELOWyWO DOTS BELOWpEENs FINAL FORMtINITIAL FORM",
   "uSOLATED FORMtMEDIAL FORMtWITH DOT BELOW AND DOT ABOVEyEXTENDED ARABIC-INDIC DIGIT FOUR ABOVE",
   "yFOUR DOTS ABOVEyINVERTED VySMALL ARABIC LETTER TAH AND TWO DOTSyTHREE DOTS BELOW",
   "ο AND THREE DOTS ABOVEzWO DOTS VERTICALLY ABOVEpHEENt FINAL FORMuINITIAL FORMvSOLATED FORM",
   "uMEDIAL FORMuWITH DOT BELOWpTRAIGHT WAWpUPERSCRIPT ALEFpWASH KAFoTAHr FINAL FORMsINITIAL FORM",
   "tSOLATED FORMsMEDIAL FORMsWITH DOT BELOWxTHREE DOTS ABOVEιBELOWyWO DOTS ABOVEpCHEHt FINAL FORM",
   "uINITIAL FORMvSOLATED FORMuMEDIAL FORMuWITH DOT ABOVEzSMALL VtEHv FINAL FORMwINITIAL FORM",
   "xSOLATED FORMwMEDIAL FORMpEHr FINAL FORMsINITIAL FORMtSOLATED FORMsMARBUTAz FINAL FORMαGOAL",
   "αISOLATED FORMtEDIAL FORMsWITH RINGxSMALL TEH ABOVEδVxTHREE DOTS ABOVE DOWNWARDSrEH",
   "t FINAL FORMuINITIAL FORMvSOLATED FORMuMEDIAL FORMpHALs FINAL FORMtISOLATED FORMqEH",
   "s FINAL FORMtINITIAL FORMuSOLATED FORMtMEDIAL FORMqIN YEHpTEHs FINAL FORMtINITIAL FORM",
   "uSOLATED FORMtMEDIAL FORMtWITH SMALL VsEHu FINAL FORMvINITIAL FORMwSOLATED FORMvMEDIAL FORMoU",
   "p FINAL FORMqISOLATED FORMqWITH HAMZA ABOVEη ISOLATED FORM",
   "pIGHUR KAZAKH KIRGHIZ ALEF MAKSURA INITIAL FORMψMEDIAL FORMoVEq FINAL FORMrISOLATED FORMqH",
   "r FINAL FORMsINITIAL FORMtSOLATED FORMsMEDIAL FORMoWAWr FINAL FORMsISOLATED FORM",
   "sWITH DOT ABOVEβWITHINxEXTENDED ARABIC-INDIC DIGIT THREE ABOVEω TWO ABOVExHAMZA ABOVE",
   "ι FINAL FORMκISOLATED FORMxRINGxTWO DOTS ABOVEoYEHr BARREEy FINAL FORMzISOLATED FORM",
   "zWITH EXTENDED ARABIC-INDIC DIGIT THREE ABOVEωC DIGIT TWO ABOVEεHAMZA ABOVEπ FINAL FORM",
   "ρISOLATED FORMsFINAL FORMsINITIAL FORMtSOLATED FORMsMEDIAL FORMsWITH HAMZA ABOVEι FINAL FORM",
   "κINITIAL FORMλSOLATED FORMκMEDIAL FORMxSMALL VxTAILyHREE DOTS BELOW",
   "yWO DOTS BELOW AND DOT ABOVEρHAMZA ABOVEρSMALL NOON ABOVEpUq FINAL FORMrISOLATED FORMoZAH",
   "r FINAL FORMsINITIAL FORMtSOLATED FORMsMEDIAL FORMqINs FINAL FORMtISOLATED FORM",
   "tWITH INVERTED V ABOVEiIGATURE AIN WITH ALEF MAKSURA FINAL FORMνISOLATED FORM",
   "zJEEM INITIAL FORMζSOLATED FORMεWITH MEEM FINAL FORMοINITIAL FORMzMEEM INITIAL FORM",
   "ζSOLATED FORMεWITH ALEF MAKSURA FINAL FORMκMEEM FINAL FORMοINITIAL FORMκYEH FINAL FORM",
   "zYEH FINAL FORMδISOLATED FORMrKBAR ISOLATED FORMrLAYHAA AS-SALAAMvE ISOLATED FORMvI AS-SALAAM",
   "ζTU WAS-SALAAMwM AS-SALAAMxAA AS-SALAAMsEF MAKSURA WITH SUPERSCRIPT ALEF FINAL FORM",
   "ω ISOLATED FORMvWITH FATHATAN FINAL FORMκISOLATED FORMsLAH ISOLATED FORMrZZA WA JALL",
   "qBEH WITH ALEF MAKSURA FINAL FORMνISOLATED FORMzHAH INITIAL FORMεSOLATED FORM",
   "δWITH YEH FINAL FORMαEH INITIAL FORMδMEDIAL FORMzJEEM INITIAL FORMζSOLATED FORM",
   "zKHAH INITIAL FORMζSOLATED FORMεWITH YEH FINAL FORMzMEEM FINAL FORMεINITIAL FORMζSOLATED FORM",
   "εMEDIAL FORMzNOON FINAL FORMzREH FINAL FORMzYEH FINAL FORMδISOLATED FORMzZAIN FINAL FORM",
   "rISMILLAH AR-RAHMAN AR-RAHEEMqDAD WITH ALEF MAKSURA FINAL FORMνISOLATED FORMzHAH INITIAL FORM",
   "εSOLATED FORMδWITH ALEF MAKSURA FINAL FORMιYEH FINAL FORMzJEEM INITIAL FORMζSOLATED FORM",
   "zKHAH INITIAL FORMζSOLATED FORMεWITH MEEM FINAL FORMοINITIAL FORMzMEEM INITIAL FORM",
   "ζSOLATED FORMzREH FINAL FORMδISOLATED FORMzYEH FINAL FORMδISOLATED FORM",
   "qFEH WITH ALEF MAKSURA FINAL FORMνISOLATED FORMzHAH INITIAL FORMεSOLATED FORM",
   "zJEEM INITIAL FORMζSOLATED FORMzKHAH INITIAL FORMζSOLATED FORMεWITH MEEM FINAL FORM",
   "οINITIAL FORMzMEEM INITIAL FORMζSOLATED FORMεWITH YEH FINAL FORMzYEH FINAL FORMδISOLATED FORM",
   "qGHAIN WITH ALEF MAKSURA FINAL FORMοISOLATED FORMβJEEM INITIAL FORMθSOLATED FORM",
   "βMEEM INITIAL FORMθSOLATED FORMηWITH ALEF MAKSURA FINAL FORMμMEEM FINAL FORMμYEH FINAL FORM",
   "βYEH FINAL FORMζISOLATED FORMqHAH WITH ALEF MAKSURA FINAL FORMνISOLATED FORMzJEEM INITIAL FORM",
   "ζSOLATED FORMεWITH YEH FINAL FORMzMEEM INITIAL FORMζSOLATED FORMεWITH ALEF MAKSURA FINAL FORM",
   "κYEH FINAL FORMzYEH FINAL FORMδISOLATED FORMrEH WITH ALEF MAKSURA ISOLATED FORM",
   "zJEEM INITIAL FORMζSOLATED FORMzMEEM INITIAL FORMζSOLATED FORMεWITH JEEM INITIAL FORM",
   "κMEEM INITIAL FORMzSUPERSCRIPT ALEF INITIAL FORMzYEH ISOLATED FORMqJALLAJALALOUHOU",
   "rEEM WITH ALEF MAKSURA FINAL FORMξISOLATED FORMαHAH INITIAL FORMζSOLATED FORM",
   "εWITH ALEF MAKSURA FINAL FORMκYEH FINAL FORMαMEEM INITIAL FORMηSOLATED FORM",
   "ζWITH ALEF MAKSURA FINAL FORMλHAH FINAL FORMοINITIAL FORMλYEH FINAL FORMαYEH FINAL FORM",
   "εISOLATED FORMqKAF WITH ALEF FINAL FORMεISOLATED FORMεMAKSURA FINAL FORMνISOLATED FORM",
   "zHAH INITIAL FORMεSOLATED FORMzJEEM INITIAL FORMζSOLATED FORMzKHAH INITIAL FORMζSOLATED FORM",
   "zLAM FINAL FORMδINITIAL FORMεSOLATED FORMδMEDIAL FORMzMEEM FINAL FORMεINITIAL FORM",
   "ζSOLATED FORMεMEDIAL FORMεWITH MEEM FINAL FORMοINITIAL FORMκYEH FINAL FORMzYEH FINAL FORM",
   "δISOLATED FORMrHAH WITH ALEF MAKSURA FINAL FORMξISOLATED FORMαHAH ISOLATED FORM",
   "αJEEM INITIAL FORMηSOLATED FORMαMEEM INITIAL FORMηSOLATED FORMαYEH FINAL FORMεISOLATED FORM",
   "qLAM WITH ALEF FINAL FORMεISOLATED FORMεMAKSURA FINAL FORMνISOLATED FORM",
   "εWITH HAMZA ABOVE FINAL FORMφISOLATED FORMπBELOW FINAL FORMφISOLATED FORM",
   "κMADDA ABOVE FINAL FORMφISOLATED FORMzHAH INITIAL FORMεSOLATED FORM",
   "δWITH ALEF MAKSURA FINAL FORMιMEEM FINAL FORMξINITIAL FORMιYEH FINAL FORMαEH INITIAL FORM",
   "zJEEM INITIAL FORMζSOLATED FORMεWITH JEEM FINAL FORMοINITIAL FORMκMEEM FINAL FORMοINITIAL FORM",
   "κYEH FINAL FORMzKHAH INITIAL FORMζSOLATED FORMεWITH MEEM FINAL FORMοINITIAL FORM",
   "zMEEM FINAL FORMεINITIAL FORMζSOLATED FORMεMEDIAL FORMεWITH HAH FINAL FORMξINITIAL FORM",
   "κYEH FINAL FORMzYEH FINAL FORMδISOLATED FORMqMEEM WITH ALEF FINAL FORMζMAKSURA ISOLATED FORM",
   "αHAH INITIAL FORMζSOLATED FORMεWITH JEEM INITIAL FORMκMEEM INITIAL FORMκYEH FINAL FORM",
   "αJEEM INITIAL FORMηSOLATED FORMζWITH HAH INITIAL FORMλKHAH INITIAL FORMλMEEM INITIAL FORM",
   "λYEH FINAL FORMαKHAH INITIAL FORMηSOLATED FORMζWITH JEEM INITIAL FORMλMEEM INITIAL FORM",
   "λYEH FINAL FORMαMEEM FINAL FORMζINITIAL FORMηSOLATED FORMζWITH YEH FINAL FORM",
   "αYEH ISOLATED FORMrOHAMMAD ISOLATED FORMqNOON WITH ALEF MAKSURA FINAL FORMξISOLATED FORM",
   "αHAH INITIAL FORMζSOLATED FORMεWITH ALEF MAKSURA FINAL FORMκMEEM INITIAL FORMκYEH FINAL FORM",
   "βEH INITIAL FORMεMEDIAL FORMαJEEM INITIAL FORMηSOLATED FORMζWITH ALEF MAKSURA FINAL FORM",
   "λHAH FINAL FORMοINITIAL FORMλMEEM FINAL FORMπINITIAL FORMλYEH FINAL FORMαKHAH INITIAL FORM",
   "ηSOLATED FORMαMEEM FINAL FORMζINITIAL FORMηSOLATED FORMζMEDIAL FORM",
   "ζWITH ALEF MAKSURA FINAL FORMλYEH FINAL FORMαNOON FINAL FORMαREH FINAL FORMαYEH FINAL FORM",
   "εISOLATED FORMαZAIN FINAL FORMqQAF WITH ALEF MAKSURA FINAL FORMνISOLATED FORMzHAH INITIAL FORM",
   "εSOLATED FORMzMEEM INITIAL FORMζSOLATED FORMεWITH HAH FINAL FORMξINITIAL FORMκMEEM FINAL FORM",
   "κYEH FINAL FORMzYEH FINAL FORMδISOLATED FORMsLA USED AS KORANIC STOP SIGN ISOLATED FORM",
   "rUDDISA SIRRAHqRADI ALLAAHU ANHηAAηUMιAAθNNAsHIMAHU ALLAAHyM ALLAAHsSOUL ISOLATED FORM",
   "rEH WITH SUPERSCRIPT ALEF ISOLATED FORMqSAD WITH ALEF MAKSURA FINAL FORMνISOLATED FORM",
   "zHAH INITIAL FORMεSOLATED FORMδWITH HAH FINAL FORMνINITIAL FORMιYEH FINAL FORM",
   "zKHAH INITIAL FORMzMEEM INITIAL FORMζSOLATED FORMεWITH MEEM FINAL FORMοINITIAL FORM",
   "zREH FINAL FORMδISOLATED FORMzYEH FINAL FORMδISOLATED FORMsLAAMUHU ALAYNAAuM ISOLATED FORM",
   "tLA ISOLATED FORMwUSED AS KORANIC STOP SIGN ISOLATED FORMvLLAAHU ALAYHI WA-AALIH",
   "yHOU ALAYHE WASALLAMzU ALAYHI WAAALIHEE WA-SALLAMrEEN WITH ALEF MAKSURA FINAL FORM",
   "ξISOLATED FORMαHAH INITIAL FORMζSOLATED FORMεMEDIAL FORMεWITH JEEM INITIAL FORM",
   "βEH INITIAL FORMεMEDIAL FORMαJEEM INITIAL FORMηSOLATED FORMζMEDIAL FORM",
   "ζWITH ALEF MAKSURA FINAL FORMλHAH INITIAL FORMαKHAH INITIAL FORMηSOLATED FORMζMEDIAL FORM",
   "ζWITH ALEF MAKSURA FINAL FORMλYEH FINAL FORMαMEEM INITIAL FORMηSOLATED FORMζMEDIAL FORM",
   "ζWITH HAH FINAL FORMοINITIAL FORMλJEEM INITIAL FORMλMEEM FINAL FORMπINITIAL FORM",
   "αREH FINAL FORMεISOLATED FORMαYEH FINAL FORMεISOLATED FORMrHADDA WITH DAMMA ISOLATED FORM",
   "ιMEDIAL FORMθTAN ISOLATED FORMγFATHA ISOLATED FORMιMEDIAL FORMγKASRA ISOLATED FORMιMEDIAL FORM",
   "θTAN ISOLATED FORMγSUPERSCRIPT ALEF ISOLATED FORMsEEN WITH ALEF MAKSURA FINAL FORM",
   "οISOLATED FORMβHAH FINAL FORMζINITIAL FORMηSOLATED FORMζMEDIAL FORMζWITH MEEM FINAL FORM",
   "πINITIAL FORMλYEH FINAL FORMγEH INITIAL FORMζMEDIAL FORMβJEEM FINAL FORMηINITIAL FORM",
   "θSOLATED FORMηMEDIAL FORMηWITH YEH FINAL FORMβKHAH FINAL FORMηINITIAL FORMθSOLATED FORM",
   "ηMEDIAL FORMβMEEM FINAL FORMηINITIAL FORMθSOLATED FORMηMEDIAL FORMηWITH KHAH FINAL FORM",
   "ρINITIAL FORMμMEEM FINAL FORMρINITIAL FORMβREH FINAL FORMζISOLATED FORMβYEH FINAL FORM",
   "ζISOLATED FORMrUBHAANAHU WA TAAALAAqTABAARAKA WA-TAAALAAsH WITH ALEF MAKSURA FINAL FORM",
   "νISOLATED FORMzHAH INITIAL FORMεSOLATED FORMzMEEM INITIAL FORMζSOLATED FORMεMEDIAL FORM",
   "εWITH HAH FINAL FORMξINITIAL FORMκMEEM INITIAL FORMκYEH FINAL FORMzYEH FINAL FORM",
   "δISOLATED FORMrEH WITH ALEF MAKSURA FINAL FORMνISOLATED FORMzHAH INITIAL FORMεSOLATED FORM",
   "δWITH JEEM FINAL FORMξINITIAL FORMιMEEM INITIAL FORMαEH INITIAL FORMδMEDIAL FORM",
   "zJEEM INITIAL FORMζSOLATED FORMεWITH ALEF MAKSURA FINAL FORMκMEEM INITIAL FORMκYEH FINAL FORM",
   "zKHAH INITIAL FORMζSOLATED FORMεWITH ALEF MAKSURA FINAL FORMκMEEM INITIAL FORMκYEH FINAL FORM",
   "zMEEM FINAL FORMεINITIAL FORMζSOLATED FORMεMEDIAL FORMεWITH ALEF MAKSURA FINAL FORM",
   "κHAH INITIAL FORMκJEEM INITIAL FORMκKHAH INITIAL FORMκYEH FINAL FORMzNOON FINAL FORM",
   "zREH FINAL FORMzYEH FINAL FORMδISOLATED FORMzZAIN FINAL FORM",
   "rHAL WITH SUPERSCRIPT ALEF ISOLATED FORMsEH WITH ALEF MAKSURA FINAL FORMξISOLATED FORM",
   "αHEH MEDIAL FORMαJEEM ISOLATED FORMαMEEM FINAL FORMζINITIAL FORMηSOLATED FORMζMEDIAL FORM",
   "αNOON FINAL FORMαREH FINAL FORMαYEH FINAL FORMεISOLATED FORMαZAIN FINAL FORM",
   "qUIGHUR KIRGHIZ YEH WITH HAMZA ABOVE WITH ALEF MAKSURA FINAL FORM",
   "ωE WITH ALEF MAKSURA INITIAL FORMωE WITH ALEF MAKSURA ISOLATED FORMqWASALLAM ISOLATED FORM",
   "qYEH WITH ALEF MAKSURA FINAL FORMνISOLATED FORMzHAH INITIAL FORMεSOLATED FORM",
   "δWITH YEH FINAL FORMβMZA ABOVE WITH AE FINAL FORMτISOLATED FORMςLEF FINAL FORMφISOLATED FORM",
   "φMAKSURA FINAL FORMωSURA ISOLATED FORMρE FINAL FORMσINITIAL FORMτSOLATED FORMρHAH INITIAL FORM",
   "φSOLATED FORMςEH INITIAL FORMυMEDIAL FORMρJEEM INITIAL FORMχSOLATED FORMρKHAH INITIAL FORM",
   "ρMEEM FINAL FORMφINITIAL FORMχSOLATED FORMφMEDIAL FORMρNOON FINAL FORMρOE FINAL FORM",
   "τISOLATED FORMρREH FINAL FORMρU FINAL FORMσISOLATED FORMρWAW FINAL FORMυISOLATED FORM",
   "ρYEH FINAL FORMυISOLATED FORMςU FINAL FORMτISOLATED FORMρZAIN FINAL FORMαEH INITIAL FORM",
   "δMEDIAL FORMzJEEM INITIAL FORMζSOLATED FORMεWITH YEH FINAL FORMzKHAH INITIAL FORMζSOLATED FORM",
   "zMEEM FINAL FORMεINITIAL FORMζSOLATED FORMεMEDIAL FORMεWITH MEEM FINAL FORMοINITIAL FORM",
   "κYEH FINAL FORMzNOON FINAL FORMzREH FINAL FORMzYEH FINAL FORMδISOLATED FORMzZAIN FINAL FORM",
   "qZAH WITH MEEM INITIAL FORMζSOLATED FORMεMEDIAL FORMhMADDA WAAJIBmH ABOVEjRK NOON GHUNNA",
   "mSIDEWAYS NOON GHUNNAjTHEMATICAL AINvLEFuBEHuDADwLvOTLESS BEHγFEHγNOONγQAFwUBLE-STRUCK AINιBEH",
   "ιDADλLιFEHιGHAINιHAHιJEEMιKHAHιLAMιMEEMιNOONιQAFιREHιSADκEENκHEENιTAHκEHκHALλEHιWAWιYEHιZAHλIN",
   "uFEHuGHAINuHAHuINITIAL AINγBEHγDADγFEHγGHAINγHAHδEHγJEEMγKAFδHAHγLAMγMEEMγNOONγQAFγSADδEEN",
   "δHEENγTEHδHEHγYEHuJEEMuKAFvHAHuLAMvOOPED AINγLEFβBEHβDADδLβFEHβGHAINβHAHγEHβJEEMβKHAHβLAMβMEEM",
   "βNOONβQAFβREHβSADγEENγHEENβTAHγEHγHALδEHβWAWβYEHβZAHδINuMEEMuNOONuOPERATOR HAH WITH DAL",
   "δMEEM WITH HAH WITH TATWEELuQAFuREHuSADvEENvHEENvTRETCHED AINεBEHεDADζOTLESS BEHνFEHεFEHεGHAIN",
   "εHAHζEHεJEEMεKAFζHAHεMEEMεNOONεQAFεSADζEENζHEENεTAHζEHζHEHεYEHεZAHuTAHwILED AINβDAD",
   "γOTLESS NOONκQAFβGHAINβHAHβJEEMβKHAHβLAMβNOONβQAFβSADγEENγHEENβYEHvEHvHALwEHuWAWuYEHuZAHwIN",
   "hNUMBER MARK ABOVEoSIGNhOPEN DAMMATANmFATHATANmKASRATANhPERCENT SIGNiIASTRE MARK ABOVE",
   "iLACE OF SAJDAHiOETIC VERSE SIGNjUND MARK ABOVEhQUESTION MARKhRAISED ROUND DOTjYiEVERSED DAMMA",
   "iIGHT ARROWHEAD ABOVEγ WITH DOTxBELOWiOUNDED HIGH STOP WITH FILLED CENTREhSEMICOLONiHADDA",
   "n ISOLATED FORMoMEDIAL FORMiIGN ALAYHE ASSALLAMmMISRAmRADI ALLAHOU ANHUoHMATULLAH ALAYHEmSAFHA",
   "oLLALLAHOU ALAYHE WASSALLAMoMVAToNAHnINDHI AMPERSANDtPOSTPOSITION MENmTAKHALLUSiMALL DAMMA",
   "nFARSI YEHpTHAnHIGH AINsDOTLESS HEAD OF KHAHsFARSI YEHtOOTNOTE MARKERsJEEMsLAM ALEF",
   "tIGATURE ALEF WITH LAM WITH YEHβQAF WITH LAM WITH ALEF MAKSURAβSAD WITH LAM WITH ALEF MAKSURA",
   "sMADDAtEEM INITIAL FORMySOLATED FORMsNOONw WITH KASRAsQAFsROUNDED ZEROsSADtEENtIGN SAFHAsTAH",
   "tHREE DOTSsUPRIGHT RECTANGULAR ZEROsWAWtORD AL-JUZyN-NISFyR-RUByS-SAJDAyTH-THALATHAxQIFxSAH",
   "zKTAxWAQFAsYEHv BARREE WITH TWO DOTS BELOWsZAHuINnKASRAnLOW MEEMrNOON WITH KASRArSEENrWAW",
   "sORD IMAALAxSHMAAMwTASHEELnWAWnYEHiTART OF RUB EL HIZBiUBSCRIPT ALEFjKUNm BELOWnISOLATED FORM",
   "nMEDIAL FORMjPERSCRIPT ALEF MOKHASSASiYMBOL DOT ABOVEsBELOWqUBLE VERTICAL BAR BELOW",
   "oFOUR DOTS ABOVEyBELOWoRINGoSMALL TAH ABOVEyBELOWoTHREE DOTS ABOVEzBELOW",
   "zPOINTING DOWNWARDS ABOVEσBELOWpWO DOTS ABOVExBELOWxVERTICALLY ABOVEιBELOWoWASLA ABOVE",
   "hTAIL FRAGMENTjTWEELo WITH FATHATAN ABOVEuOVERSTRUCK HAMZAζWAWuTWO DOTS BELOW",
   "iHOUSANDS SEPARATORiONE LOOP ABOVErBELOWmONE DOT ABOVEuBELOWmTWO DOTS ABOVEvBELOW",
   "iRIPLE DOT PUNCTUATION MARKiURNED DAMMA BELOWhVERTICAL TAILiOWEL SIGN DOT BELOW",
   "sINVERTED SMALL V ABOVEsSMALL V ABOVEhWAVY HAMZA BELOWhZWARAKAYg-INDIC CUBE ROOTnDIGIT EIGHT",
   "tFIVEuOURtNINEtONEtSEVENuIXtTHREEuWOtZEROnFOURTH ROOTnPER MILLE SIGNrTEN THOUSAND SIGNcCcIES",
   "cMENIAN ABBREVIATION MARKkPOSTROPHEjCAPITAL LETTER AYByBENyCAzHAαEHzOyDAyECHzHzTyFEHyGHADzIM",
   "yHOyINIyJAzHEHyKEHαNyLIWNyMENyNOWyOHyPEHzIWRyRAzEHySEHzHAyTIWNzOyVEWzOyXEHyYIαWNyZAzHEkOMMA",
   "jDRAM SIGNjEMPHASIS MARKkXCLAMATION MARKjFULL STOPjHYPHENjMODIFIER LETTER LEFT HALF RING",
   "jQUESTION MARKjSMALL LETTER AYBwBENwCAxHAyEHxOwDAwECHxHxTwFEHwGHADxIMwHOwINIwJAxHEHwKEHyNwLIWN",
   "wMENwNOWwOHwPEHxIWRwRAxEHwSEHxHAwTIWNxOxURNED AYBwVEWxOwXEHwYIy WITH STROKEyWNwZAxHE",
   "qIGATURE ECH YIWNyMEN ECHγINIγNOWγXEHyVEW NOWcROW POINTING DOWNWARDS THEN CURVING LEFTWARDS",
   "νRIGHTWARDSpRIGHTWARDS THEN CURVING DOWNWARDSξSOUTH WESTξUPWARDSpUPWARDS THEN NORTH WEST",
   "fHEAD-SHAPED POINTERcTICULATED LORRYeST PALETTEbSCENDING NODEdIA SYMBOLcSERTIONcTERISK",
   "i OPERATORhMdONISHED FACEdRAEAeONOMICAL SYMBOL FOR URANUScYMPTOTICALLY EQUAL TObTHLETIC SHOE",
   "cOM SYMBOLbUBERGINEcSTRAL SIGNcTO RICKSHAWeMATED TELLER MACHINEfOBILEbVESTAN ABBREVIATION MARK",
   "iLETTER AqArNrOqErEqNqOpBEqHEpCEpDEqHEpEqEpFEpGEqGEqHEpHEqMEpIqIpJEpKEpLEpMEpNEqGErVErYEqNEqYE",
   "pOqOpPEpREpSEqHErYEqSHEpTEqHEqTEpUqUpVEpXEqVEqYEpYEqYEpZEqHEcOCADObXEaBABYe ANGELfBOTTLEfCHICK",
   "fSYMBOLcCK OF ENVELOPEfWITH LEFTWARDS ARROW ABOVEe-TILTED SHADOWED WHITE RIGHTWARDS ARROW",
   "eSLANTED SOUTH ARROW WITH HOOKED TAILζRIZONTAL TAILfPACEdONdTRIAN CAMELcDGER",
   "dMINTON RACQUET AND SHUTTLECOCKcGELdGAGE CLAIMdUETTE BREADcLINESE ADEG ADEGjCARIK PAMUNGKAH",
   "rRERENpSIKIjDIGIT EIGHTpFIVEqOURpNINEpONEpSEVENqIXpTHREEqWOpZEROjLETTER AIKARArKARAv TEDUNG",
   "rRCHAIC JNYArSYURA SASAKqBAs KEMBANGqCAs LACAqDAs MADUuURDA ALPAPRANAzMAHAPRANAqEF SASAKrKARA",
   "qGAs GORAqHAqIKARAv TEDUNGqJAs JERAqKAs MAHAPRANAsF SASAKrHOT SASAKqLAs LENGAy TEDUNGqMAqNA",
   "s RAMBATrGArYAqOKARAv TEDUNGqPAs KAPALqRAs REPAx TEDUNGqSAs SAGAvPAqTAs LATIKtMURDA MAHAPRANA",
   "tTAWArZIR SASAKqUKARAv TEDUNGqVE SASAKqWAqYAqZAL SASAKjMUSICAL SYMBOL COMBINING BENDEιENDEP",
   "ιGONGιJEGOGANιKEMPLIο WITH JEGOGANνULο WITH JEGOGANιTEGEHyDAENGαINGαNGγ GEDEδSURANGzENGαUNG",
   "zINGzONGzUNGyLEFT-HAND CLOSED PLAKςUKιOPEN PANGοINGοUNGyRIGHT-HAND CLOSED TAKςUKκOPEN DAGπUG",
   "jPAMADAp LANTANGmENENGlNTIo LANTANGjSIGN BISAHoCECEKoREREKANoSURANGoULU CANDRAsRICEM",
   "jVOWEL SIGN LA LENGAγ TEDUNGuPEPETz TEDUNGuRA REPAβ TEDUNGuSUKUy ILUTuTALINGα REPAζ TEDUNG",
   "βTEDUNGvEDUNGuULUx SARIjWINDUdL OF YARNeET SHOESeOONh-SPOKED ASTERISKfT BOLD SCRIPT XjX",
   "k WITH BALLOTrOLD CHECKvSCRIPT XqCHECKqLIGHT XqSCRIPT XqXhSCRIPT XhXcMUM COLON",
   "iMBINING MARK KOQNDONvTUKWENTISjMAgFULL STOPgLETTER AnEEnFAAMAEoEEoOMoUnInKAoENpTpUXoIoOpGHOM",
   "pVUUoPAoUoYEEnLAoEEEEoIoOQoUnMoAoBAApENoEEEEpNoIoOoUnNAoDAAoGApGApKWAENoIoJAEMpEEpUAEoSHAoTEE",
   "pUUoUpAEoYInOnPAoEEpUXoHASE-A FIRIvGBIEE FONwHEUAEGHEUAEβRAEvKAFAxQwETxUKEUTNDAwPOQwUOQvLAPAQ",
   "wET KUTwOMMAEwUxAEPvMAEKEUPyMzBGBIEEzKPENzVEUXyNYIySIxNSUAExP PIEETwBANYIyQwEUNJOMNDEUQwGBASA",
   "wON NGGEUAETxOMEUTzPUQwVEUAENGAMvNAA MFONxQwDA LEERAEWAyANGGEUAETwENwGANGUxGENxKUE MFONαNZEUM",
   "wIKAwJAMwKAARAExINDIwSHAyIEEwTAPz MFAAαNTAAxOQPENwYETxIyT MONGKEUAEQwZA MFONxUN MEUT",
   "vPA LEERAEWAxAMyRAExMSHAExSHAEwETwON MFON PIPAEMBAλGBIEEzPA NJI PIPAEMBAνGBIEEwUPvROMvSEUNYAM",
   "wHINDA PA NJIyRAExOQ NSHUT YUMxUENSHUETyMwISAwONJAMxQxTwUUvTEUAENyTEUWENwITA MFONwU MAEMBAxAEP",
   "vU YUQ NAEwNKNOWNvVEEtB FEExUXvGHEUGHENγUAEMvKAMwEUAEMyPUQyYEUXwIEEMxQvLAANAExM NSHUT NYAMwET",
   "wOM NTEUMvMAx NJEUAENAαUQAwBA MAELEEyARAExEURIxIT MBAAKETxUOQwEUQyT NGGEETwFIYAQxON TEUAEQ",
   "wONTIEENvNDU NJAAwGGAAMyEU MBUyUOQβ LARGExKINDI MVOPxOMwSENxHUETwTIEE SHEUOQwYAEMAExI NTEUM",
   "vPARUMwEESHIwITwUNGAAMvSAKEUAEwET TUwHET NJAQyUAEQTUwIEEwUEvTAAMwU MAEMGBIEEyNSIEEvVEUMvWUAET",
   "vYAFU LEERAEWAwEURAEtC BUNGvFUEvGBAYIwHAPyRAEvKAAwEN FATIGUEzLAWxTxUKAQyMySEUXzHEUAEPwPARAQ",
   "wUOP NKAARAExTvLAMxPwIQwUvMA KEUAERIyNSIEExEMBAySIwBAA CABBAGE-TREEαPICKETyNYIxEEKEETyRAEyUMzX",
   "xIyRIEENyTxUAEMyEwGBASAQwIEEwUAEvNANSANAQxQwDAMyPxEUAEREEzTxIDAxOMBUwGAQxGENyUzAEN NYAMzEETzM",
   "zONxKAQyUE MAEMBAxOMwJAEMyMxEEEEyUXxUEQwSAxEUAENxHAQxOMxUNyOT NGOMwTAAxENyUNGBAxU MBIT",
   "wYIR MKPARAQ MEUNwZAxEUMvPENwINxRIEENvRUvSETFONxUXwHIQxUEQwUAETvTAASHAEwETxUTEUXwITA YUEyUAEP",
   "vVEUAEPENyXvWANGKUOQwUPvYAAwEUQwU MUOMAExMxWOQtD FAAwEUFEUAETvGHAAxEUAEvKETxUAETMEUNyM",
   "yOT MBUAEyPwUxNxOMxQwWAETwYEEvLEEEExTxUAEPyMwIEEwOQwUMvMwAENJETxLEERIwBAAz SEVENxUOwEEEExUNyT",
   "wFEUAEzTxIEExOyNwGBEUNyIEEyOFUMwONIwUwVOPvNDAMxEEyUXxONwGGAAMβAEzPyEUXyUOMyWAENxKAPyEUAEQαRI",
   "yIEEyUNyYEEwIwJAPxEUAEMzTxIyEExUEQwSHEEyUTxIEEPαTxUMwTEEyUMxUUwUwYAMxETxIxUEvPAPwEExUTAEwIPwUQ",
   "xUTvRAEMwEN MUCHzOLDwIIvSAPxQwEUAEQwHEEyUAEzXxIIxOQxUwOTwUAExExUvTAEwEEEExUAENyNyTwIwOQwUxOT",
   "vWAPwUAENvYAEMMAEwENwUOMyPxWOQtE AvFAxQwEEwOMwU CALLyIyREMEDYxEyTvGBETyUXwHAAMAExETyUAEzNzXxOM",
   "vIvKETxUAEyXwIwOwPEUXwUETxOPxTvLAAMxPxQwEUAEMwOMxONyTxQwUvMAxEyMxPxQwBEEyUMwENwFEUQwGBAyENwI",
   "xEEwONwUAEwVIvNAxEwDAA MY HOUSEαSOFTNESSyPxIAQyQxUNwGAxEUREUTxGEEEEzUAEγTyUAESHAE NYAMzPzRAE",
   "xKAzAMIyEUAEMαXyUMzPxOPyQxUAEαTwJAEMLIxEEz EPOCHyUXwKOMwSHIEEyUEzOPwTAPxUMwYI BETWEENzCLEAVER",
   "wZAQxUQvOvPA PEOPLEzLURALxAyMwEEMxUTyXwIxEEQyTwOxONwUxAEyQxExMvRAExQwEUXwIMGBAvSAAwEExTwHEUAEQ",
   "xIQxOyQwOMwUAENvTAAyQxEN NTEUMxMxQwENxUyAEQwOOyNxQwUAExMyAEvVEExUAEwOMvWEUXwUExOvYAPwEUAEαTyM",
   "yXwIEExTwOQ COVERzSWIMMINGwUAENxEQxNxQtF EEvFOMvKAwENxTwOwPAwUwYEEvLAwIwOQvMwAwBAAxENwEEEEwO",
   "vNDAAwGGAxKWAENwIwJAEMxUAEwSHAwTEEwUxAEwYIvPEExUXwUAEvREExNxUXwIEExIwUvSAMBAwEUXwHIIxOxUwIwUU",
   "vTAAxEwETvUvVUEQvWAwUEvYAwOQoIoUAEpEnRAEoEEpNpUXoIEEpIoUnSAMBAoEUXoHEUXpIIpOpUoIoUUnTAApEoENpT",
   "oInUnWAoUEnYAoOQoUQgNJAEMLIgQUESTION MARKgSEMICOLONcNANAdJOdKeNOTE WITH DOLLAR SIGNoEURO SIGN",
   "oPOUND SIGNoYEN SIGNcR CHARTeOF SOAPdBER POLEcSEBALLdKETgBALL AND HOOP",
   "dSA VAH COMBINING HIGH TONEy-LOW TONEuLOW TONEx-MID TONEuMID TONEkFULL STOPkLETTER ArBArCE",
   "rDHIIsOrEsEsNNIrFArGAHsBUrHWAHrIrJOrKAsPAHrMBErOsOrPArSErTOrUsWUrVUrWAtDDArYEINsIErZOcT",
   "dAK CONSONANT SIGN HvNGgLETTER AnBAnCAnDAnGAnHAnInJAnKARO BAnLAnMApNDAILING HAyNAySAoBAnNAoDA",
   "oGAoORTHERN TAoYAnPApKPAK WAnRAnSAoIMALUNGUN AyGAyHAyLAyMAyPAyRAySAyWAyYAoOUTHERN TAnUnWAnYA",
   "gPANGOLATjONGONANgSIGN TOMPIhYMBOL BINDU JUDULtNA METEKtPANGOLATuINARBORASgVOWEL SIGN EsErI",
   "rKARO IwOrOrPAKPAK ErUs FOR SIMALUNGUN SAdHeTUBdTERYbEACH WITH UMBRELLA",
   "dMED ASCENDING MUSICAL NOTEShDESCENDING MUSICAL NOTEShEIGHTH NOTEShSIXTEENTH NOTESdNSdR FACE",
   "eDED PERSONdTING HEARTdVERcCAUSEcDcER MUGdTLEcLdLe PEPPERfSYMBOLfWITH CANCELLATION STROKE",
   "eHOP BELLcNGALI ABBREVIATION SIGNjNJIjU LENGTH MARKiCURRENCY DENOMINATOR SIXTEEN",
   "rNUMERATOR FOURβONEε LESS THAN THE DENOMINATORβTHREEγWOiDIGIT EIGHToFIVEpOURoNINEoONEoSEVENpIX",
   "oTHREEpWOoZEROiGANDA MARKiISSHARiLETTER AqAqIqUpBAqHApCAqHApDAqDArHAqHApEpGAqHApHApIqIpJAqHA",
   "pKAqHAsNDA TApLApMApNAqGAqNAqYApOpPAqHApRAr WITH LOWER DIAGONALxMIDDLE DIAGONALqHAqRApSAqHAqSA",
   "pTAqHAqTArHApUqUpVEDIC ANUSVARAqOCALIC LyLxRyRpYAqYAiRUPEE MARKoSIGNiSANDHI MARKjIGN ANUSVARA",
   "oVAGRAHAnCANDRABINDUnNUKTAnVIRAMApSARGAiVOWEL SIGN AAuIuUtEtIuItOtUuUtVOCALIC LγLβRγR",
   "dT ARROW POINTING DOWNWARDS THEN NORTH EASTeO BOXdZENE RINGm WITH CIRCLEcT SYMBOLdWEEN",
   "cVERAGE BOXbHAIKSUKI DANDAlIGIT EIGHTqFIVErOURqNINEqONEqSEVENrIXqTHREErWOqZEROlOUBLE DANDA",
   "kGAP FILLER-1v2kHUNDREDS UNIT MARKkLETTER AsAsIsUrBAsHArCAsHArDAsDAtHAsHArErGAsHArHArIsIrJAsHA",
   "rKAsHArLArMArNAsGAsNAsYArOrPAsHArRArSAsHAsSArTAsHAsTAtHArUsUrVAsOCALIC LzRαRrYAkNUMBER EIGHTwY",
   "rFIFTYtVEsORTYtURrNINEvTYrONErSEVENwTYsIXuTYrTENsHIRTYtREEsWENTYtOkSIGN ANUSVARAqVAGRAHA",
   "pCANDRABINDUpVIRAMArSARGAkVOWEL SIGN AAwIwUvEvIwIvOvUwUvVOCALIC LδRεRkWORD SEPARATORbICYCLE",
   "gISTcG REVERSE SOLIDUSeSOLIDUScKINIcLLED CAPeIARDScOHAZARD SIGNcRDdTHDAY CAKEcSONcTCOIN SIGN",
   "dING LIPbLACK BOWTIEgCENTRE WHITE STARhHESS BISHOPs ROTATED NINETY DEGREES",
   "βTWO HUNDRED SEVENTY DEGREESmEQUIHOPPERw ROTATED NINETY DEGREESmKINGq ROTATED NINETY DEGREES",
   "zTWO HUNDRED SEVENTY DEGREESnNIGHTs ROTATED FORTY-FIVE DEGREESβNINETY DEGREES",
   "βONE HUNDRED THIRTY-FIVE DEGREESβTHREE HUNDRED FIFTEEN DEGREESγWO HUNDRED SEVENTY DEGREES",
   "ξTWENTY-FIVE DEGREESs-BISHOPtQUEENtROOKmPAWNq ROTATED NINETY DEGREES",
   "zTWO HUNDRED SEVENTY DEGREESmQUEENr ROTATED NINETY DEGREESαTWO HUNDRED SEVENTY DEGREESmROOK",
   "q ROTATED NINETY DEGREESzTWO HUNDRED SEVENTY DEGREESmTURNED BISHOPtKINGuNIGHTtPAWNtQUEENtROOK",
   "hIRCLEm FOR RECORDnWITH DOWN ARROWsTWO WHITE DOTSsWHITE DOT RIGHThLUB SUIThROSS ON SHIELD",
   "hURVED DOWNWARDS AND LEFTWARDS ARROWβRIGHTWARDS ARROWnLEFTWARDS AND DOWNWARDS ARROW",
   "βUPWARDS ARROWnRIGHTWARDS AND DOWNWARDS ARROWγUPWARDS ARROWnUPWARDS AND LEFTWARDS ARROW",
   "zRIGHTWARDS ARROWgDIAMONDn CENTREDoMINUS WHITE XoON CROSSoSUIToWITH DOWN ARROW",
   "hOWN POINTING BACKHAND INDEXk-POINTING DOUBLE TRIANGLEuISOSCELES RIGHT TRIANGLEuSMALL TRIANGLE",
   "uTRIANGLEkWARDS EQUILATERAL ARROWHEADhRAUGHTS KINGpMANiOPLETgFLAGiORETTEhOLDERiUR POINTED STAR",
   "gHARD SHELL FLOPPY DISKhEARTl SUITiXAGONhORIZONTAL ELLIPSEiURGLASSgLARGE CIRCLEmSQUARE",
   "hEFT LANE MERGElPOINTING BACKHAND INDEXuINDEXk-POINTING DOUBLE TRIANGLEκ WITH VERTICAL BAR",
   "uISOSCELES RIGHT TRIANGLEuPOINTERuSMALL TRIANGLEuTRIANGLEkWARDS BULLETqEQUILATERAL ARROWHEAD",
   "hOWER LEFT TRIANGLEmRIGHT TRIANGLEiZENGEgMEDIUM DIAMONDoOWN-POINTING TRIANGLEκ CENTRED",
   "nLEFT-POINTING TRIANGLEκ CENTREDoOZENGEnRIGHT-POINTING TRIANGLEλ CENTREDnSMALL DIAMONDtLOZENGE",
   "tSQUAREoQUAREnUP-POINTING TRIANGLEθ CENTREDhOON LILITHgNIBgOCTAGONgPARALLELOGRAMhENNANTjTAGON",
   "hUSHPINgQUESTION MARK ORNAMENTgRECTANGLEhIGHT POINTING BACKHAND INDEXvINDEX",
   "l-POINTING DOUBLE TRIANGLEλ WITH VERTICAL BARvISOSCELES RIGHT TRIANGLEvPENTAGONwOINTER",
   "vSMALL TRIANGLEvTRIANGLEδ WITH DOUBLE VERTICAL BARlWARDS ARROWwHEADrBULLET",
   "rEQUILATERAL ARROWHEADhOSETTEgSAFETY SCISSORShCISSORShHOGI PIECEhKULL AND CROSSBONES",
   "hLIGHTLY SMALL CIRCLEvSQUAREhMALL DIAMONDmLOZENGEmSQUAREnTARiILING FACEhNOWMANhPADE SUIThQUARE",
   "m BUTTONnCENTREDnFOR STOPhTARhUN WITH RAYSgTELEPHONEhINY DIAMONDlLOZENGElSQUARE",
   "hOUCHTONE TELEPHONEhRUCKhWO-WAY LEFT WAY TRAFFICgUNIVERSAL RECYCLING SYMBOL",
   "hP POINTING BACKHAND INDEXi-POINTING DOUBLE TRIANGLEsISOSCELES RIGHT TRIANGLEsSMALL TRIANGLE",
   "sTRIANGLEiPER LEFT TRIANGLEmRIGHT TRIANGLEiWARDS EQUILATERAL ARROWHEADgVERTICAL ELLIPSE",
   "pRECTANGLEjY SMALL DIAMONDrLOZENGErSQUAREf-FEATHERED NORTH EAST ARROWqRIGHTWARDS ARROW",
   "qSOUTH EAST ARROWgLETTER CAPITAL CvHvIvRvZdNK SYMBOLcOCK SEXTANT-1p2q3r4s5s6r5s6r6q4r5s6r6q5r6",
   "q6p3q4r5s6r6q56q6p4q5r6q6p5q6p6o2p3q4r5s6r6q5r6q6p4q5r6p5q6p6o3p4q5r6q6p5q6p6o4p5q6p6o5p6o6",
   "dSSOMdWFISHcUE BOOKfHEARTeBERRIESbOARcLD EIGHT SPOKED ASTERISKfFIVE SPOKED ASTERISK",
   "fGREEK CROSSfSALTIREgIX SPOKED ASTERISKfWHITE CIRCLElSQUAREcMdBcNEcOKeMARKi TABSeSdMERANG",
   "cPOMOFO FINAL LETTER GwHwKwPwTjLETTER ArHrIsNNrMrNsGsNrUsNNqBrUqCrHqDqErErHrIrNsGsNrRqFqGrHrN",
   "rUrWqHqIrHrMrNNtNrRrUqJrIqKrWqLrHqMqNrGsGrNqOr WITH DOT ABOVErErMrNGsNrOrUqPqQqRqSrHqTqUrNNqV",
   "qXqZrHrIrYcTTLE WITH POPPING CORKeOM ARC ANTICLOCKWISE ARROWhCURLY BRACKEThHALF BLACK CIRCLE",
   "mINTEGRALmLEFT PARENTHESISmRIGHT PARENTHESIShLEFT CORNERnROPmHALF BRACKEThPARENTHESIS",
   "hRIGHT CORNERoROPnHALF BRACKEThSQUARE BRACKETv OVER TOP SQUARE BRACKEThTORTOISE SHELL BRACKET",
   "cUQUETh OF FLOWERScW AND ARROWdL OF HYGIEIAfWITH SPOONeINGdTIEg WITH LEFT HALF BLACK",
   "mRIGHT HALF BLACKcX DRAWINGS DOUBLE DOWN AND HORIZONTALδLEFTδRIGHTuHORIZONTAL",
   "uUP AND HORIZONTALβLEFTβRIGHTuVERTICALγ AND HORIZONTALθLEFTθRIGHT",
   "pWN DOUBLE AND HORIZONTAL SINGLEδLEFT SINGLEδRIGHT SINGLEsHEAVY AND HORIZONTAL LIGHT",
   "γLEFT LIGHTθUP LIGHTγRIGHT LIGHTιUP LIGHTγUP HORIZONTAL LIGHTsLIGHT AND HORIZONTAL HEAVY",
   "γLEFT HEAVYθUP HEAVYγRIGHT HEAVYιUP HEAVYγUP HORIZONTAL HEAVYsSINGLE AND HORIZONTAL DOUBLE",
   "δLEFT DOUBLEδRIGHT DOUBLEnHEAVY DOUBLE DASH HORIZONTALζVERTICALvWNx AND HORIZONTALγLEFTγRIGHT",
   "tHORIZONTALtLEFTx AND LIGHT RIGHTtQUADRUPLE DASH HORIZONTALιVERTICALtRIGHT",
   "tTRIPLE DASH HORIZONTALζVERTICALtUPv AND HORIZONTALαLEFTβIGHT DOWNαRIGHTtVERTICAL",
   "β AND HORIZONTALηLEFTηRIGHTnLEFT DOWN HEAVY AND RIGHT UP LIGHTsHEAVY AND RIGHT DOWN LIGHT",
   "ιUP LIGHTιVERTICAL LIGHTsLIGHT AND RIGHT DOWN HEAVYιUP HEAVYιVERTICAL HEAVY",
   "sUP HEAVY AND RIGHT DOWN LIGHToIGHT ARC DOWN AND LEFTηRIGHTxUP AND LEFTεRIGHTtDIAGONAL CROSS",
   "γDIAMONDγMIDDLE LEFT TO LOWER CENTREωENTRE TO MIDDLE RIGHTςUPPER CENTRE TO MIDDLE RIGHT",
   "ωENTRE TO MIDDLE RIGHT TO LOWER CENTREκRIGHT TO LOWER CENTRE",
   "σUPPER CENTRE TO MIDDLE LEFT TO LOWER CENTREγUPPER CENTRE TO MIDDLE LEFT",
   "ω LEFT AND MIDDLE RIGHT TO LOWER CENTREω LEFT TO LOWER CENTRE",
   "ω LEFT TO LOWER CENTRE TO MIDDLE RIGHTω RIGHTω RIGHT AND MIDDLE LEFT TO LOWER CENTRE",
   "ω RIGHT TO LOWER CENTREω RIGHT TO LOWER CENTRE TO MIDDLE LEFTιLEFT TO LOWER RIGHT",
   "ιRIGHT TO LOWER LEFTuOUBLE DASH HORIZONTALζVERTICALvWNx AND HORIZONTALγLEFTγRIGHTtHORIZONTAL",
   "δ WITH VERTICAL STROKEtLEFTx AND HEAVY RIGHTtQUADRUPLE DASH HORIZONTALιVERTICALtRIGHT",
   "tTRIPLE DASH HORIZONTALζVERTICALtUPv AND HEAVY DOWNβORIZONTALαLEFTαRIGHTtVERTICAL",
   "β AND HORIZONTALηLEFTηRIGHTnRIGHT DOWN HEAVY AND LEFT UP LIGHTtHEAVY AND LEFT DOWN LIGHT",
   "ιUP LIGHTιVERTICAL LIGHTtLIGHT AND LEFT DOWN HEAVYιUP HEAVYιVERTICAL HEAVY",
   "tUP HEAVY AND LEFT DOWN LIGHTnUP DOUBLE AND HORIZONTAL SINGLEβLEFT SINGLEβRIGHT SINGLE",
   "qHEAVY AND DOWN HORIZONTAL LIGHTαHORIZONTAL LIGHTαLEFT DOWN LIGHTζLIGHTαRIGHT DOWN LIGHTηLIGHT",
   "qLIGHT AND DOWN HORIZONTAL HEAVYαHORIZONTAL HEAVYαLEFT DOWN HEAVYζHEAVYαRIGHT DOWN HEAVYηHEAVY",
   "qSINGLE AND HORIZONTAL DOUBLEβLEFT DOUBLEβRIGHT DOUBLEnVERTICAL DOUBLE AND HORIZONTAL SINGLE",
   "θLEFT SINGLEθRIGHT SINGLEwHEAVY AND HORIZONTAL LIGHTηLEFT LIGHTηRIGHT LIGHT",
   "wLIGHT AND HORIZONTAL HEAVYηLEFT HEAVYηRIGHT HEAVYwSINGLE AND HORIZONTAL DOUBLEθLEFT DOUBLE",
   "θRIGHT DOUBLEdING GLOVEcYdS SYMBOLbPHbRAHMI DANDAiIGIT EIGHTnFIVEoOURnNINEnONEnSEVENoIXnTHREE",
   "oWOnZEROiOUBLE DANDAhLETTER ApApIpUoBApHAoCApHAoDApDAqHApHAoEoGApHAoHAoIpIoJApHAoKApHAoLApLA",
   "oMAoNApGApNApYAoOpLD TAMIL LLAαLAyNNNAyRRAySHORT EεOoPApHAoRAoSApHApSAoTApHApTAqHAoUpUoVA",
   "pOCALIC LxLwRxRoYAhNUMBER EIGHTtYoFIFTYqVEpORTYqURoJOINERoNINEsTYoONEr HUNDREDsTHOUSANDoSEVEN",
   "tTYpIXrTYoTENpHIRTYqREEpWENTYqOhPUNCTUATION CRESCENT BARtDOTvUBLE DOTtLINEuOTUShSIGN ANUSVARA",
   "mCANDRABINDUmJIHVAMULIYAmOLD TAMIL VIRAMAmUPADHMANIYAmVISARGAhVIRAMAiOWEL SIGN AAtItU",
   "sBHATTIPROLU AAsEsItIsOtLD TAMIL SHORT EιOsUtUsVOCALIC LβLαRβRdILLE PATTERN BLANKqDOTS-1w2x3y4",
   "z5α6β7γ8β8α7β8α8z6α7β8α8z7α8z8y5z6α7β8α8z7α8z8y6z7α8z8y7z8y8x4y5z6α7β8α8z7α8z8y6z7α8z8y7z8y8x5",
   "y6z7α8z8y7z8y8x6y7z8y8x7y8x8w3x4y5z6α7β8α8z7α8z8y6z7α8z8y7z8y8x5y6z7α8z8y7z8y8x6y7z8y8x7y8x8w4",
   "x5y6z7α8z8y7z8y8x6y7z8y8x7y8x8w5x6y7z8y8x7y8x8w6x7y8x8w7x8w8v2w3x4y5z6α7β8α8z7α8z8y6z7α8z8y7z8",
   "y8x5y6z7α8z8y7z8y8x6y7z8y8x7y8x8w4x5y6z7α8z8y7z8y8x6y7z8y8x7y8x8w5x6y7z8y8x7y8x8w6x7y8x8w7x8w8",
   "v3w4x5y6z7α8z8y7z8y8x6y7z8y8x7y8x8w5x6y7z8y8x7y8x8w6x7y8x8w7x8w8v4w5x6y7z8y8x7y8x8w6x7y8x8w7x8",
   "w8v5w6x7y8x8w7x8w8v6w7x8w8v7w8v8eNcEADeK PERMITTED HEREeST-FEEDINGdVEcICKdDE WITH VEIL",
   "eGE AT NIGHTdEFCASEfScOCCOLIdKEN BARhCIRCLE WITH NORTHWEST ARROWhHEARTdOMdWN HEARTbSbUBBLE TEA",
   "gScCKETcGdINESE END OF SECTIONjLETTER AqBAqCAqDAqGAqHAqJAqKAqLAqMArPAqNArGAsKArRArYAsCAqPAqRA",
   "qSAqTAqVAqYAjPALLAWAjVOWEL SIGN AEuEuIuOuUcHID LETTER AnBAnDAnGAnHAnInKAnLAnMAnNAoGAnPAnRAnSA",
   "nTAnUnWAnYAgVOWEL SIGN IrUcILDING CONSTRUCTIONcLLETg OPERATOReHORNi WITH SOUND WAVESeSEYE",
   "cRRITOcSd STOPdT IN SILHOUETTEeS IN SILHOUETTEcTTERgFLYbYTE ORDER MARK",
   "cZANTINE MUSICAL SYMBOL AGOGI ARGIιOTERIζGORGIκOTERIζMESIθTRIAζPOLI ARGIλGORGIαNATRICHISMA",
   "βTIKENOKYLISMAθMAαPESO EKFONITIKONηXO NEOβLIβODERMA ARCHAIONιNEOγSTROFOI SYNDESMOS NEO",
   "λTELOUS ICHIMATOSιSκ DIPLIλNEOγTHEMAαRGONδSYNTHETONβKTIKO DIθGAθKEθNIθPAθVOUθZOzCHAMILIζON",
   "βOREVMA ARCHAIONιNEOβROA KLITONζSPATHIζZYGOSzDASEIAαIARGONγSTOLI APLI MEGALIοIKRIιDIPLI",
   "ιTHESEOSβESIS APLI DYO DODEKATAηDIGRAMMOS EX DODEKATAηMONOGRAMMOS TESSERA DODEKATA",
   "ηTETARTIMORIONθRIGRAMMOS OKTO DODEKATAκTIMORIONβFTOGGOS OUβGORGONθ PARESTIGMENON ARISTERA ANO",
   "ωISTERA KATOχDEXIAγRAMMA GGβPLIε ARCHAIONαYOzEKSTREPTONαLAFRONαNARXIS KAI FTHORA VOUβDOFONON",
   "αPEGERMAαTERON ARGOSYNTHETONηPARAKALESMAαXO EKFONITIKONzFANEROSIS DIFONIASκMONOFONIAS",
   "κTETRAFONIASαHTORA SKLIRON CHROMA VASISαTHORA ARCHAIONο DEYTEROU ICHOUηDIATONIKI DIρKEρNANA",
   "ςI ANOτKATOρPAρZOηENARMONIOS ANTIFONIAηI YFESIS TETARTIMORIONηMALAKON CHROMA DIFONIAS",
   "φMONOFONIASηNAOS ICHOSθENANOηSKLIRON CHROMA SYNAFIφVASISοDIATONON DIzGENIKI DIESISηYFESIS",
   "αORGON ARCHAIONηNEO ANOλKATOηPARESTIGMENON ARISTERAυDEXIAεSYNTHETONγTHMIKON N APLOUNνDIPLOUN",
   "αRONTHISMATAzICHADINαMIDIARGONγFONONδTHORAθONαSAKIA TELOUS ICHIMATOSβON ARCHAIONεNEO",
   "zKATAVA TROMIKONζSMAγHISTIαENTIMA ARCHAIONθNEO ANOμKATOμMESOηTAι ARCHAIONκNEO ANOξKATOξMESO",
   "αLASMAζ ANOηKATOαONTEVMAθ ALLOβRONISβUFISMAαRATIMA ALLOιRCHAIONθNEOηTAζOKOUFISMAηYPORROON",
   "βEMASTIαYLISMAzLEIMMA DYO CHRONONηENOS CHRONOUηIMISEOS CHRONOUηTESSARON CHRONONθRION CHRONON",
   "βMOIαYGISMAzMARTYRIA ALLI DEYTEROS ICHOSξPROTOS ICHOSιDEYTEROS ICHOSιLEGETOS ICHOS",
   "ιPLAGIOS ICHOSρTETARTOS ICHOSκROTOS ICHOSξVARYS ICHOSιTETARTOS ICHOSςLEGETOS ICHOSκRIFONIAS",
   "μTOS ICHOSιVARYS ICHOSαIKRON ISONzNANAzOLIGON ARCHAIONηNEOαMALONαXEIA DIPLIζEKFONITIKONζNEO",
   "εI ARCHAIONαYRANISMA ARCHAIONκNEOzPARAKALESMA ARCHAIONμNEOεLITIKIλ ARCHAIONμNEOγICHONαELASTON",
   "θ NEOβRISPOMENIβTASMAεTIζOKOUFISMAαIASMA ARCHAIONηNEOαSIFISTOLYGISMAθNι NEOθPARAKALESMA",
   "θSYNAGMAγLIδONzRAPISMAαEVMAzSAXIMATAαEISMAζ NEOαIMANSIS ARSEOSο DISIMOUπTETRASIMOUρRISIMOU",
   "ιTHESEOSπ DISIMOUρTETRASIMOUςRISIMOUαTAVROSη APODEXIAβIGMAβRAGGISMATAαYNAGMA ARCHAION",
   "θMETA STAVROUθNEOγEVMAβRMAεTIKIzTELEIAβSSERAβTRAPLIαHEMAε APLOUNεTISMOS ESOνXOγS KAI APOTHES",
   "βITAαINAGMAαRIAγGORGONγPLIβOMIKOLYGISMAηN ALLOκRCHAIONιNEOηPARAKALESMAθSIFISTONηSYNAGMA",
   "zVAREIA DIPLIηEKFONITIKONηNEOζI ARCHAIONβTHYzXIRON KLASMAzYFEN ANOεKATOγSIS APLI DYO DODEKATA",
   "ηDIGRAMMOS EX DODEKATAηMONOGRAMMOS TESSERA DODEKATAηTRIGRAMMOS OKTO DODEKATAκTIMORIONαPOKRISIS",
   "ι DIPLIγRROIβSILIaCACTUScDA UNAdUCEUScLENDARdL ME HANDcMERAg WITH FLASHdPINGcN",
   "dADIAN SYLLABICS AuAvIvYuIvVILIK BuNuTHAPASCAN MεSuYtBEAVER DENE LζRuIBLE-CREE YuLACKFOOT AδE",
   "δIδKAεEεIεOδNAεEεIεOδOδSδWεAεEεIεOtCuAvAwIvRRIER CHAδEεEδIδOδUβDEEδNE GEEεTAL SγIγLAδEεEδIδOδU",
   "γZAδEεEδIδOδUβEEβGAδAγEδEγHAδEεEδIδOδUγIγOγUγWAδUβHγEEγIγWAδEεEδIδOδUβIγNITIAL ZβJAγEδEγIγJAδE",
   "εEδIδOδUγOγUγWAβKHAδEεEδIδOδUγKδAδEεEδIδOδUβLAγEδEγHAδEεEδIδOδUγIγOγUβMAγEδEγIγOγUβNAγEδEγGγI",
   "γOγUβPγAγEδEγIγOγUβRAγEδEγIγOγUβSAγEδEγHδAδEεEδIδOδUγIγOγUβTHAδEεEδIδOδUγLAδEεEδHAεEζEεIεOεUδI",
   "δOδUγSAδEεEδIδOδUγTAδEεEδIδOδSAεEζEεIεOεUδUβWAγEδEγIγOγUβYAγEδEγIγOγUβZγAγEδEγIγOγUuEuHI SIGN",
   "uIvIuOvOuWAwAvEvIwIvOwOtEuASTERN WuNtFuAvAwIuEuIvIvNAL ACUTEzBOTTOM HALF RINGzDOUBLE ACUTE",
   "ηSHORT VERTICAL STROKESβWN TACKzGRAVEzMIDDLE DOTzPLUSzRAISED DOTαIGHT HALF RINGβNG",
   "zSHORT HORIZONTAL STROKEαMALL RINGzTOP HALF RINGuOvOuULL STOPuWAAtGLOTTAL STOPtHKuYPHENtIuIuN",
   "tKuAvAwIvYuEuIvIuOvOuWvAwAwYvEvIwIvOwOtLuAvAwIvYuEuHvAwAvIwIvOwOuIvIuOvOuWAwAvEvIwIvOwOtMuAvA",
   "wIvYuEvDIAL LαRuHuIvIuOvOwSE-CREE SKuWAwAvEvIwIvOwOtNu-CREE THEγIδIuAvAwIvSKAPI CWAAβKWAAβMWAA",
   "βNWAAβS-WγCWAγKWεAγPWAγTWAγWAAβTWAAβWAAγOOβYWAAvTTILIK HAεAδIεIδOεOγSHRAηAζIηIζOηOvYuEuGvAwAxI",
   "wIvIwIvOwOuHuIvIuNGwAxAwIxIwOxOuOvOvYuUNAVIK HγAδAγEγIδIγOδOyUT HuWAwAvEvIwIvOwOtOuJIBWAY CβK",
   "βMβNγWIεIδOεOβPβSγHβTuNuOuYtPuAvAwIvYuEuIvIuOvOvYuWAwAvEvIwIvOwOwYtQuAvAwIvIuIvIuOvOtR",
   "u-CREE REβWEuAvAwIvYuEuIvIuOvOuWAwAvEEvIwIvOwOtSuAvAwIvYwISI HAβEβIβOγOαJIβUγUαMαSHAγEγIγOδO",
   "γWEαTHαYIuEuHvAwAwYvEvIwIvOwOwYvWAxAwEwIxIwOxOxYuIvIuOvOvUTH-SLAVEY KAHθEHθIHθOHvYuPAvEvIvOuW",
   "vAwAvEvIwIvOwOtTuAvAwIvYuEuHv-CREE THδAεAδEδIεIδOεOvAwAvEvIwIvOwOvWAxAwEuIvIuLHAwEwIwOxOwWEuO",
   "vOuTAvEvHwAxAwEwIwOxOwWEvIvOuWAwAvEvIwIvOwOuYAvEvIvOtWAvAvYuEvST-CREE CWAηAζEζIηIζOηOδFWAAδKWA",
   "ηAζEζIηIζOηOδLεAζAεEεOζOεWAηAζEζIηIζOηOδMεWAηAζEζIηIζOηOδNWAηAζEδPεWAηAζEζIηIζOηOδRεAεEεIεO",
   "εWAAδSHWAθAηEηIθIηOθOεWAηAζEζIηIζOηOδTHWAAεWAηAζEζIηIζOηOδWAζAεEεIζIεOζOδYεWAηAζEζIηIζOηO",
   "xERN WuIvIuOvOwDS-CREE FINAL THεTHηAηEηIηOηWAιAθEEθIιIθOιOtYu-CREE COOαKOOαLOOαMOOαNOOαOOαPOO",
   "βWAAαSOOαTOOαWαYOOuAvAwIvYuEuIvIuOvOvYuWAwAvEvIwIvOwOdCELg CHARACTERhTAGgLATION XfRdDLEeY",
   "dNED FOODdOEcPITULUMdRICORNcR SLIDINGdD FILE BOXfINDEXk DIVIDERSdE OFeTf INSERTION POINT",
   "dIAN LETTER Ap2oBoC-18q39oDp2oEp2oGp2oIpIoKp2oLpDq2oMpBq2q3q4oNpDpGpNoOoPp2oQoRpRoSpHq2pSpTq2",
   "oTpTq2oUpUqUr2r3rUoXdONeUSEL HORSEdP STREAMEReENTRY SAWdRIAGE RETURNeOTcSTLEcTd FACE",
   "i WITH TEARS OF JOYoWRY SMILEcUCASIAN ALBANIAN CITATION MARKtLETTER ALTβORαBETαCARγYNβHAδTγI",
   "γOYβYAWδYαDATβYANβZAYγYAYαEBβYNαFAMαGHEYSβIMαHEYTαINYAβRBβWNαJAYNβHOXαKARβIWαLANβYITαMAQαNOWC",
   "αONαPENβIWRαQARγYαRATαSEYKβHAδKγOYαTASβIWRβYAYαVEYZαXEYNαYAYDβOWDαZARLβHAγILdTION SIGNbCH",
   "bEDI SIGNeLLAcLTIC CROSScNT SIGNeRE LINE SYMBOLgLINE LOW LINElOVERLINEcRESbGJbHAINSeR",
   "dKMA AU MARKhDANDAiIGIT EIGHTnFIVEoOURnNINEnONEnSEVENoIXnTHREEoWOnZEROiOUBLE DANDAhLETTER AA",
   "oBAApHAAoCAApHAAoDAApDAAqHAApHAAoEoGAApHAAoHAAoIoJAApHAAoKAApHAAoLAApHAAoMAAoNAApGAApNAApYAA",
   "oPAApHAAoRAAoSAAoTAApHAApTAAqHAAoUoVAAoWAAoYAApYAAhMAAYYAAhO MARKhQUESTION MARKhSECTION MARK",
   "iIGN ANUSVARAmCANDRABINDUmVISARGAhVIRAMAiOWEL SIGN AtAtItUsEtIsItIsOtIsUtU",
   "dM CONSONANT SIGN FINAL HαMαNGuLAuRAuWAuYAfDIGIT EIGHTlFIVEmOURlNINElONElSEVENmIXlTHREEmWO",
   "lZEROfLETTER AnImBAnBAnHAmCHAoHAmDAnDAnHAmEmFINAL CHsGsKsLsNtGsPsRsSSsTsYmGAnHAmHAmImJAnHAmKA",
   "nHAmLAmMAnUEmNAnGAoUEnHAoJAoUEnUEmOmPAnHAnPAmRAmSAnSAmTAnHAmUmVAmYAfPUNCTUATION DANDA",
   "sOUBLE DANDArSPIRALrTRIPLE DANDAfVOWEL SIGN AArIrUqEIqIrIqOrEqUrEdRACTER TABULATIONu SET",
   "vWITH JUSTIFICATIONlIEeT WITH DOWNWARDS TRENDlUPWARDS TRENDy AND YEN SIGNcECK MARKfER BOARD",
   "n FILLdERING MEGAPHONEeSE WEDGEdQUERED FLAGdROKEE LETTER AqDArErIrLArOrUrVqEqGArErIrOrUrVqHArE",
   "rIrNArOrUrVqIqKAqLArErIrOrUrVqMArErIrOrUrVqNAsHrErIrOrUrVqOqQUAsEsIsOsUsVqSrArErIrOrUrVqTArErI",
   "rLAsEsIsOsUsVrSAsEsIsOsUsVqUqVqWArErIrOrUrVqYArErIrOrUrVjSMALL LETTER AwDAxExIxLAxOxUxVwEwGAxE",
   "xIxOxUxVwHAxExIxNAxOxUxVwIwKAwLAxExIxOxUxVwMAxExIxOxUxVwNAyHxExIxOxUxVwOwQUAyEyIyOyUyVwSxAxExI",
   "xOxUxVwTAxExIxLAyEyIyOyUyVxSAyEyIyOyUyVwUwVwWAxExIxOxUxVwYAxExIxOxUxVeRIESfY BLOSSOMdSTNUT",
   "cI RHOdCKENdLDfREN CROSSINGdPMUNKdRONcOCOLATE BARdPSTICKSdRASMIAN LETTER ALEPHtYINsBETH",
   "sCURLED WAWsDALETHsGIMELsHEuTHsKAPHsLAMEDHsMEMsNUNsPEsRESHsSAMEKHtHINtMALL ALEPHsTAWsWAWsYODH",
   "sZAYINlNUMBER FOURsONEv HUNDREDsTENtHREEtWENTYuOcRISTMAS TREEcURCHbINEMA",
   "cRCLE DIVIDED BY HORIZONTAL BAR AND TOP HALF DIVIDED BY VERTICAL BAR",
   "hWITH ALL BUT UPPER LEFT QUADRANT BLACKmHORIZONTAL BARmLEFT HALF BLACKnOWER HALF BLACK",
   "mRIGHT HALF BLACKmSMALL CIRCLE TO THE RIGHTnUPERIMPOSED XmTWO HORIZONTAL STROKES TO THE RIGHT",
   "mUPPER HALF BLACKsRIGHT QUADRANT BLACKmVERTICAL FILLgD ANTICLOCKWISE ARROW",
   "v-ROTATED DIVISION SIGNjSTERISK OPERATORiBOLD XjULLETiC WITH OVERLAID BACKSLASHjCjD",
   "jROSS FORMEEu WITH FOUR DOTSαTWO DOTSoPOMMEEnING LANESiDASHjIGIT EIGHToFIVEpOURoNINEoONEoSEVEN",
   "pIXoTHREEpWOoZEROkVISION SIGNsLASHjOLLAR SIGN WITH OVERLAID BACKSLASHkT OPERATORiEQUALS",
   "iGREATER-THANiHANGUL CHIEUCHw AqIEUCu ApHIEUHu ApIEUNGu AvUpKHIEUKHw AqIYEOKv ApMIEUMu ApNIEUN",
   "u ApPHIEUPHw AqIEUPu ApRIEULu ApSIOSt ApTHIEUTHw AqIKEUTv AjEAVY WHITE RIGHTWARDS ARROW",
   "jORIZONTAL BAR WITH NOTCHjUMAN FIGUREiIDEOGRAPH ACCEPTtDVANTAGEtLLIANCEtTTENTIONsCENTRE",
   "tONGRATULATIONuPYuRRECTsEARTHtIGHTtNTERPRISEtXCELLENTsFEMALEtINANCIALuREuVEtOURsHAVEtIGHsITEM",
   "sKINDERGARTENtOTOsLABORtEFTtOWsMALEtEDICINEuTALtOONsNAMEtIGHTuNEsONEsPRINTsQUESTIONsRELIGION",
   "uSOURCEvTtIGHTsSCHOOLtECRETuVENtIXtOCIETYtPECIALtTOCKuUDYtUITABLEuNuPERVISEsTENtHREEtWOsWATER",
   "tOODjNFORMATION SOURCEjTALIC LATIN CAPITAL LETTER CλRiKATAKANA ArErHAsEsIsOsUrIrKAsEsIsOsUrMA",
   "sEsIsOsUrNAsEsIsOsUrOrRAsEsIsOsUrSAsEsIsOsUrTAsEsIsOsUrUrWAsEsIsOrYAsOsU",
   "jOREAN CHARACTER CHAMKOzJUEUIiLATIN CAPITAL LETTER AδBδCδDδEδFδGδHδIδJδKδLδMδNδOδPδQδRδSδTδUδV",
   "δWδXδYδZoSMALL LETTER AβBβCβDβEβFβGβHβIβJβKβLβMβNβOβPβQβRβSβTβUβVβWβXβYβZjESS-THANiMINUS",
   "jULTIPLICATION SIGN WITH CIRCUMFLEX ACCENTiNUMBER EIGHTEENuY ON BLACK SQUAREqLEVENpFIFTEENtY",
   "u ON BLACK SQUAREqORTYu EIGHTvFIVEwOURvNINEvON BLACK SQUARExEvSEVENwIXvTHREEwWOrURTEEN",
   "pNINETEENpSEVENTEENvY ON BLACK SQUAREqIXTEENtY ON BLACK SQUAREpTENs ON BLACK SQUAREqHIRTEENuY",
   "v EIGHTwFIVExOURwNINEwON BLACK SQUAREyEwSEVENxIXwTHREExWOqWELVEsNTYv EIGHTwFIVExOURwNINE",
   "wON BLACK SQUAREyEwSEVENxIXwTHREExWOiOPEN CENTRE EIGHT POINTED STARiPARALLELjERPENDICULARjLUS",
   "jOSTAL MARKiREVERSE SOLIDUSjING OPERATORiSQUAREiTIMESjRIANGLEq DOWNiVERTICAL BARiWHITE BULLET",
   "oSTARjZiXiZERO WITH SLASHeULATION FUNCTIONfMFLEX ACCENTfS TENTcTYSCAPEj AT DUSK",
   "bJK COMPATIBILITY IDEOGRAPH-2F800η1η2η3η4η5η6η7η8η9ηAηBηCηDηEηFζ10η1η2η3η4η5η6η7η8η9ηAηBηCηDηE",
   "ηFζ20η1η2η3η4η5η6η7η8η9ηAηBηCηDηEηFζ30η1η2η3η4η5η6η7η8η9ηAηBηCηDηEηFζ40η1η2η3η4η5η6η7η8η9ηAηB",
   "ηCηDηEηFζ50η1η2η3η4η5η6η7η8η9ηAηBηCηDηEηFζ60η1η2η3η4η5η6η7η8η9ηAηBηCηDηEηFζ70η1η2η3η4η5η6η7η8",
   "η9ηAηBηCηDηEηFζ80η1η2η3η4η5η6η7η8η9ηAηBηCηDηEηFζ90η1η2η3η4η5η6η7η8η9ηAηBηCηDηEηFζA0η1η2η3η4η5",
   "η6η7η8η9ηAηBηCηDηEηFζB0η1η2η3η4η5η6η7η8η9ηAηBηCηDηEηFζC0η1η2η3η4η5η6η7η8η9ηAηBηCηDηEηFζD0η1η2",
   "η3η4η5η6η7η8η9ηAηBηCηDηEηFζE0η1η2η3η4η5η6η7η8η9ηAηBηCηDηEηFζF0η1η2η3η4η5η6η7η8η9ηAηBηCηDηEηF",
   "ε900η1η2η3η4η5η6η7η8η9ηAηBηCηDηEηFζ10η1η2η3η4η5η6η7η8η9ηAηBηCηDηEηFζ20η1η2η3η4η5η6η7η8η9ηAηBηC",
   "ηDηEηFζ30η1η2η3η4η5η6η7η8η9ηAηBηCηDηEηFζ40η1η2η3η4η5η6η7η8η9ηAηBηCηDηEηFζ50η1η2η3η4η5η6η7η8η9",
   "ηAηBηCηDηEηFζ60η1η2η3η4η5η6η7η8η9ηAηBηCηDηEηFζ70η1η2η3η4η5η6η7η8η9ηAηBηCηDηEηFζ80η1η2η3η4η5η6",
   "η7η8η9ηAηBηCηDηEηFζ90η1η2η3η4η5η6η7η8η9ηAηBηCηDηEηFζA0η1η2η3η4η5η6η7η8η9ηAηBηCηDηEηFζB0η1η2η3",
   "η4η5η6η7η8η9ηAηBηCηDηEηFζC0η1η2η3η4η5η6η7η8η9ηAηBηCηDηEηFζD0η1η2η3η4η5η6η7η8η9ηAηBηCηDηEηFζE0",
   "η1η2η3η4η5η6η7η8η9ηAηBηCηDηEηFζF0η1η2η3η4η5η6η7η8η9ηAηBηCηDηEηFεA00η1η2η3η4η5η6η7η8η9ηAηBηCηD",
   "ηEηFζ10η1η2η3η4η5η6η7η8η9ηAηBηCηDγF900ζ1ζ2ζ3ζ4ζ5ζ6ζ7ζ8ζ9ζAζBζCζDζEζFε10ζ1ζ2ζ3ζ4ζ5ζ6ζ7ζ8ζ9ζAζB",
   "ζCζDζEζFε20ζ1ζ2ζ3ζ4ζ5ζ6ζ7ζ8ζ9ζAζBζCζDζEζFε30ζ1ζ2ζ3ζ4ζ5ζ6ζ7ζ8ζ9ζAζBζCζDζEζFε40ζ1ζ2ζ3ζ4ζ5ζ6ζ7ζ8",
   "ζ9ζAζBζCζDζEζFε50ζ1ζ2ζ3ζ4ζ5ζ6ζ7ζ8ζ9ζAζBζCζDζEζFε60ζ1ζ2ζ3ζ4ζ5ζ6ζ7ζ8ζ9ζAζBζCζDζEζFε70ζ1ζ2ζ3ζ4ζ5",
   "ζ6ζ7ζ8ζ9ζAζBζCζDζEζFε80ζ1ζ2ζ3ζ4ζ5ζ6ζ7ζ8ζ9ζAζBζCζDζEζFε90ζ1ζ2ζ3ζ4ζ5ζ6ζ7ζ8ζ9ζAζBζCζDζEζFεA0ζ1ζ2",
   "ζ3ζ4ζ5ζ6ζ7ζ8ζ9ζAζBζCζDζEζFεB0ζ1ζ2ζ3ζ4ζ5ζ6ζ7ζ8ζ9ζAζBζCζDζEζFεC0ζ1ζ2ζ3ζ4ζ5ζ6ζ7ζ8ζ9ζAζBζCζDζEζF",
   "εD0ζ1ζ2ζ3ζ4ζ5ζ6ζ7ζ8ζ9ζAζBζCζDζEζFεE0ζ1ζ2ζ3ζ4ζ5ζ6ζ7ζ8ζ9ζAζBζCζDζEζFεF0ζ1ζ2ζ3ζ4ζ5ζ6ζ7ζ8ζ9ζAζBζC",
   "ζDζEζFδA00ζ1ζ2ζ3ζ4ζ5ζ6ζ7ζ8ζ9ζAζBζCζDζEζFε10ζ1ζ2ζ3ζ4ζ5ζ6ζ7ζ8ζ9ζAζBζCζDζEζFε20ζ1ζ2ζ3ζ4ζ5ζ6ζ7ζ8ζ9",
   "ζAζBζCζDζEζFε30ζ1ζ2ζ3ζ4ζ5ζ6ζ7ζ8ζ9ζAζBζCζDζEζFε40ζ1ζ2ζ3ζ4ζ5ζ6ζ7ζ8ζ9ζAζBζCζDζEζFε50ζ1ζ2ζ3ζ4ζ5ζ6",
   "ζ7ζ8ζ9ζAζBζCζDζEζFε60ζ1ζ2ζ3ζ4ζ5ζ6ζ7ζ8ζ9ζAζBζCζDε70ζ1ζ2ζ3ζ4ζ5ζ6ζ7ζ8ζ9ζAζBζCζDζEζFε80ζ1ζ2ζ3ζ4ζ5",
   "ζ6ζ7ζ8ζ9ζAζBζCζDζEζFε90ζ1ζ2ζ3ζ4ζ5ζ6ζ7ζ8ζ9ζAζBζCζDζEζFεA0ζ1ζ2ζ3ζ4ζ5ζ6ζ7ζ8ζ9ζAζBζCζDζEζFεB0ζ1ζ2",
   "ζ3ζ4ζ5ζ6ζ7ζ8ζ9ζAζBζCζDζEζFεC0ζ1ζ2ζ3ζ4ζ5ζ6ζ7ζ8ζ9ζAζBζCζDζEζFεD0ζ1ζ2ζ3ζ4ζ5ζ6ζ7ζ8ζ9",
   "eRADICAL BAMBOOnLUEnOLT OF CLOTHoNEoXnRUSH ONEsTWOmC-SIMPLIFIED BIRDzCARTzDRAGONzEATαVENzFISH",
   "αLYαROGzGATEαOLDzHORSEzLEAFαONGzSALTαEEαHELLαILKαPEECHzTANNED LEATHERαOOTHαURTLEzWINDnHOKEnITY",
   "oVILIANnLIFFoOTHESnOWmDEATHnIVINATIONnOGmEAT ONEqTHREErWOnWEnYEmFIREnOOTmGHOSTnRASS ONEsTHREE",
   "tWOmHANDnEADpRT ONEsTWOnORNmJ-SIMPLIFIED DRAGONzEVENzTOOTHαURTLEnADEmKNIFE ONEsTWOmLAME FOUR",
   "rONErTHREEsWOnONG ONErTWOmMEAToSHnOONoRTARoTHERoUND ONEsTWOmNET FOURqONEqTHREErWOmOLDmPAW ONE",
   "qTWOnERSONmRAINoMoPnEPEATmSEALoCOND ONEtTHREEuWOnHEEPnILKoMPLIFIED HALF TREE TRUNKyORNxWALK",
   "yHEATxYELLOWnMALL ONEsTWOnNAKEoOUT ONEsTWOnPIRIT ONEtTWOnUNmTABLEnHREADnIGERnURTLEmWALK ONE",
   "rTWOoTER ONEsTWOnEST ONErTWOeSTROKE BXGlDlHmGmPnWGmXWGmZnGnTnWoGnZoPoZpGlNlPmDmGmZlQlSmGmPmTmW",
   "nGnZmZnWGnZlTmNlWGlXGbLAMSHELL MOBILE PHONEdPPER BOARDfING HANDS SIGNdSSICAL BUILDING",
   "cEAR SCREEN SYMBOLcINKING BEER MUGSjGLASSESdPBOARDcOCK FACE EIGHT OCLOCKq-THIRTYmLEVEN OCLOCK",
   "r-THIRTYlFIVE OCLOCKp-THIRTYmOUR OCLOCKp-THIRTYlNINE OCLOCKp-THIRTYlONE OCLOCKo-THIRTY",
   "lSEVEN OCLOCKq-THIRTYmIX OCLOCKo-THIRTYlTEN OCLOCKo-THIRTYmHREE OCLOCKq-THIRTYmWELVE OCLOCK",
   "r-THIRTYnO OCLOCKo-THIRTYfWISE CLOSED CIRCLE ARROWlONTOUR INTEGRAL",
   "kDOWNWARDS AND UPWARDS OPEN CIRCLE ARROWSkGAPPED CIRCLE ARROWkINTEGRALkOPEN CIRCLE ARROW",
   "kRIGHT AND LEFT SEMICIRCLE ARROWSpWARDS AND LEFTWARDS OPEN CIRCLE ARROWS",
   "ωOWS WITH CIRCLED ONE OVERLAYkTOP SEMICIRCLE ARROWlRIANGLE-HEADED OPEN CIRCLE ARROWdSE UP",
   "fD BOOKhINTERSECTION WITH SERIFShLOCK WITH KEYhMAILBOX WITH LOWERED FLAGuRAISED FLAGhSUBSET",
   "n OR EQUAL TOjPERSETp OR EQUAL TOhUMBRELLAiNION WITH SERIFSy AND SMASH PRODUCTdUD",
   "f WITH LIGHTNINGlRAINlSNOWlTORNADOdWN FACEbOATcCKROACHeTAIL GLASSdONUTcFFINcINcLLISION SYMBOL",
   "dONf EQUALSgSIGNcMBINING ACUTE ACCENTw BELOWqTONE MARKp-GRAVE-ACUTEqMACRON",
   "lLMOST EQUAL TO ABOVEαBELOWlNNUITY SYMBOLmTICLOCKWISE ARROW ABOVEyRING OVERLAYlSTERISK ABOVE",
   "tBELOWkBINDU BELOWlREVEp BELOWp-MACRONmIDGE ABOVErBELOWkCANDRABINDUmRONp BELOWlEDILLA",
   "lIRCUMFLEX ACCENTβ BELOWlLOCKWISE ARROW ABOVEuRING OVERLAYlOMMA ABOVEv RIGHTqBELOW",
   "mNJOINING MACRONβ BELOWlYRILLIC DASIA PNEUMATAtHUNDRED MILLIONS SIGNβTHOUSANDS SIGNtKAVYKA",
   "tLETTER AαBEβIG YUSαCHEαDEβJERVαEFβLβMβNβRβSγ-TEαFITAαGHEαHAγRD SIGNαIβEβOTIFIED AκBIG YUSκE",
   "αKAαLITTLE YUSαMONOGRAPH UKαOβMEGAαPEαSHAγCHAβOFT SIGNαTEβSEαUβKRAINIAN IEαVEαYATβERUβIβUαZE",
   "βHEtMILLIONS SIGNtPALATALIZATIONvYEROKuOKRYTIEuSILI PNEUMATAtTEN MILLIONS SIGN",
   "uHOUSAND MILLIONS SIGNuITLOy LEFT HALFzRIGHT HALFtVZMETkDELETION MARKmVANAGARI DIGIT EIGHT",
   "βFIVEγOURβNINEβONEβSEVENγIXβTHREEγWOβZEROvLETTER AγKAγNAγPAγRAγUγVIvSIGN AVAGRAHAlIAERESIS",
   "t BELOWt-RINGlOT ABOVEt LEFTuRIGHToBELOWt LEFTnTED ACUTE ACCENTrGRAVE ACCENTmUBLE ACUTE ACCENT",
   "rBREVEw BELOWrCIRCUMFLEX ABOVErGRAVE ACCENTrINVERTED BREVEζ BELOWrLOW LINErMACRONx BELOW",
   "rOPEN MARK BELOWsVERLINErPARENTHESES ABOVEsLUS SIGN ABOVEβBELOWrRIGHTWARDS ARROW BELOW",
   "tNG BELOWrTILDEw LEFT HALFxRIGHT HALFrVERTICAL LINE ABOVEζBELOWαSTROKE OVERLAY",
   "qD CIRCUMFLEX ACCENTmWN TACK BELOWoWARDS ARROWkENCLOSING CIRCLEα BACKSLASHuDIAMONDuKEYCAP",
   "uSCREENvQUAREuUPWARD POINTING TRIANGLElQUALS SIGN BELOWkFERMATAlOUR DOTS ABOVE",
   "kGLAGOLITIC LETTER AZUγBIG YUSδUKYγCHRIVIγDJERVIδOBROγFITAδRITUγGLAGOLIγHERUγIδNITIAL IZHE",
   "δOTATED BIG YUSλSMALL YUSδZHEγKAKOγLJUDIJEγMYSLITEγNASHIγONUγPOKOJIγRITSIγSHAεTAδLOVOδMALL YUS",
   "γTSIδVRIDOγUKUγVEDEγYATIδERIζUεSTUδOδUγZEMLJAδHIVETElRANTHA DIGIT FIVEzOURyONEySIXyTHREEzWO",
   "yZEROsLETTER AzKAzNAzPAzVInPHEME JOINERnVE ACCENTw BELOWqTONE MARKp-ACUTE-GRAVEqMACRON",
   "mEEK DIALYTIKA TONOSqKORONISqMUSICAL PENTASEMEyTETRASEMEzRISEMEqPERISPOMENIqYPOGEGRAMMENI",
   "kHOMOTHETIC ABOVEmOK ABOVEmRNkINFINITYmVERTED BREVEy BELOWvIDGE BELOWtDOUBLE ARCH ABOVEζBELOW",
   "lS BELOWkKATAKANA-HIRAGANA SEMI-VOICED SOUND MARKγVOICED SOUND MARKmVYKA ABOVE LEFTxRIGHT",
   "kLATIN LETTER SMALL CAPITAL GμLμMμNμRqSMALL LETTER Aε WITH DIAERESISεEεLPHAεOεVδBεETAδC",
   "ε CEDILLAδDδEεSHεTHδFεLATTENED OPEN A ABOVEδGδHδIεNSULAR DμGμRμTδKδLε WITH DOUBLE MIDDLE TILDE",
   "εONG SδMδNδOε WITH DIAERESISλLIGHT CENTRALIZATION STROKEδPδRε BELOWζROTUNDAδSεCHWAδT",
   "εURNED W BELOWδUε WITH DIAERESISλLIGHT CENTRALIZATION STROKEδVδWε BELOWδXδZlEFT ANGLE ABOVE",
   "vBELOWqRROW ABOVEvBELOWuHEAD ABOVEzBELOWpHALF RING ABOVEzBELOWrRPOON ABOVE",
   "pPARENTHESIS ABOVE LEFTβBELOW LEFTpRIGHT ARROW ABOVEβBELOWpTACK BELOWoWARDS ARROW OVERLAY",
   "uHARPOON WITH BARB DOWNWARDSlIGATURE LEFT HALFγ BELOWtRIGHT HALFδ BELOW",
   "nHT CENTRALIZATION STROKE BELOWlONG DOUBLE SOLIDUS OVERLAYpSOLIDUS OVERLAYqTROKE OVERLAY",
   "pVERTICAL LINE OVERLAYmW LINEkMACRONq BELOWrLEFT HALFα BELOWrRIGHT HALFβ BELOWq-ACUTErBREVE",
   "rGRAVElINUS SIGN BELOWkNOT TILDE ABOVElUMBER SIGN ABOVEkOGONEKq ABOVElLD PERMIC LETTER ANγDOI",
   "γNENOEγSIIγZATAlPEN MARK BELOWlVERLINEkPALATALIZED HOOK BELOWmRENTHESES ABOVEwBELOWwOVERLAY",
   "lLUS SIGN ABOVEuBELOWkRETROFLEX HOOK BELOWmVERSE SOLIDUS OVERLAYrD COMMA ABOVE",
   "lIGHT ARROW ABOVEwBELOWvHEAD ABOVEβND DOWN ARROWHEAD BELOWεUP ARROWHEAD BELOWαBELOW",
   "qHALF RING ABOVEαBELOWsRPOON ABOVEqPARENTHESIS ABOVE RIGHTγBELOW RIGHTqTACK BELOW",
   "pWARDS HARPOON WITH BARB DOWNWARDSmNG ABOVEpBELOWpOVERLAYkSEAGULL BELOWlHORT SOLIDUS OVERLAY",
   "rTROKE OVERLAYqVERTICAL LINE OVERLAYlNAKE BELOWlQUARE BELOWsRACKETS ABOVE",
   "lTRONG CENTRALIZATION STROKE BELOWlUSPENSION MARKkTHREE DOTS ABOVElILDEp BELOWqLEFT HALF BELOW",
   "qOVERLAYqRIGHT HALF BELOWlRIPLE ACUTE ACCENTrDOTrUNDERDOTlURNED COMMA ABOVEkUP TACK ABOVE",
   "sBELOWmWARDS ARROW BELOWlR ABOVElS ABOVEkVERTICAL LINE ABOVEyBELOWtTILDEkWIDE BRIDGE ABOVE",
   "pINVERTED BRIDGE BELOWmGGLY LINE BELOWkX ABOVEmBELOWl-X BELOWkZIGZAG ABOVErBELOWdETdMA",
   "eERCIAL ATlMINUS SIGNdPASSeLEMENTeOSITION SYMBOLeRESSIONcNFETTI BALLeOUNDED FACEeUSED FACE",
   "dGRUENT WITH DOT ABOVEdICAL TAPERdJUNCTIONdSTRUCTION SIGNnWORKERdTAINS AS MEMBER",
   "mNORMAL SUBGROUPβ OR EQUAL TOjWITH LONG HORIZONTAL STROKEoOVERBAR",
   "oVERTICAL BAR AT END OF HORIZONTAL STROKEeINUOUS UNDERLINE SYMBOLeOUR INTEGRALeROL KNOBS",
   "iSEQUENCE INTRODUCERdVENIENCE STOREcOKED RICEeIEfNGcPTIC CAPITAL LETTER AKHMIMIC KHEIxLFA",
   "wBOHAIRIC KHEIwCROSSED SHEIyYPTOGRAMMIC EIEλGANGIAλNIλSHEIwDALDAxEIxIALECT-P ALEFηHORIηKAPAηNI",
   "wEIEwFEIxIwGAMMAyNGIAwHATExORIwIAUDAwKAPAxHEIyIxSIwL-SHAPED HAxAULAwMIwNIwOxLD COPTIC AINθDJA",
   "θESHθGANGIAθHAκTιEIιORIθOOUθSHEIκIMAαNUBIAN NGIιYIθSHIMAθWAUxOUwPIxSIwROwSAMPIxHEIyIMAxIMAxOU",
   "wTAUxHETHEwUAwVIDAwZATAiOMBINING NI ABOVErSPIRITUS ASPERαLENIShEPACT DIGIT EIGHTtFIVEuOURtNINE",
   "tONEtSEVENuIXtTHREEuWOnNUMBER EIGHT HUNDREDzYuFIFTYwVE HUNDREDvORTYwUR HUNDREDuNINE HUNDREDyTY",
   "uONE HUNDREDuSEVEN HUNDREDzTYvIX HUNDREDxTYuTENvHIRTYwREE HUNDREDvWENTYwO HUNDRED",
   "nTHOUSANDS MARKhFRACTION ONE HALFiULL STOPhMORPHOLOGICAL DIVIDER",
   "hOLD NUBIAN DIRECT QUESTION MARKsFULL STOPsINDIRECT QUESTION MARKsVERSE DIVIDER",
   "hSMALL LETTER AKHMIMIC KHEIvLFAuBOHAIRIC KHEIuCROSSED SHEIwYPTOGRAMMIC EIEιGANGIAιNIιSHEI",
   "uDALDAvEIvIALECT-P ALEFεHORIεKAPAεNIuEIEuFEIvIuGAMMAwNGIAuHATEvORIuIAUDAuKAPAvHEIwIvSI",
   "uL-SHAPED HAvAULAuMIuNIuOvLD COPTIC AINζDJAζESHζGANGIAζHAθTηEIηORIζOOUζSHEIθIMAyNUBIAN NGIηYI",
   "ζSHIMAζWAUvOUuPIvSIuROuSAMPIvHEIwIMAvIMAvOUuTAUvHETHEuUAuVIDAuZATAiYMBOL KAIpHI ROoMI ROoPI RO",
   "oSHIMA SIMApTAUROSoTAU ROdYLEFT SYMBOLeRIGHT SIGNcRALdNISH VERSE DIVIDERdRESPONDS TO",
   "cUCH AND LAMPdNTERBOREhSINKfING ROD TENS DIGIT EIGHTyFIVEzOURyNINEyONEySEVENzIXyTHREEzWO",
   "nUNIT DIGIT EIGHTyFIVEzOURyNINEyONEySEVENzIXyTHREEzWOdPLE WITH HEARTcWd FACEbRcABcEDIT CARD",
   "dSCENT MOONcICKETh BAT AND BALLcOCODILEdISSANTdSS MARKgOF JERUSALEMjLORRAINE",
   "gPATTY WITH LEFT CROSSBARrRIGHT CROSSBARhOMMEEm WITH HALF-CIRCLE BELOWfED FLAGS",
   "iNEGATIVE SQUARED LATIN CAPITAL LETTER PiSWORDSfING LANESdWNcUTCHdZEIRO SIGNcYING CAT FACE",
   "hFACEdSTAL BALLbSIbUBE ROOTcCUMBERcNEIFORM NUMERIC SIGN EIGHT ASHδDISHδGESH2δSHAR2δU",
   "ε VARIANT FORMδVARIANT FORM USSUυ3yLAMITE FIFTYηORTYζONE THIRDζTWO THIRDSxFIVE ASHζ TENUγBAN2",
   "η VARIANT FORMδURUγDISHγGESH2ηUγSHAR2ηUδIXTHS DISHγUδ VARIANT FORMyOUR ASHζ TENUγBAN2",
   "η VARIANT FORMδURUγDISHγGESH2ηUγSHAR2ηUγUδ VARIANT FORMγVARIANT FORM LIMMUυ AφBυ4xNIGIDAESH",
   "δMINzNE ASHγDISHγGESH2γSHAR2γUδ VARIANT FORMγVARIANT FORM ILIMMUφ Aφ3φ4",
   "xOLD ASSYRIAN ONE QUARTERοSIXTHyNE BAN2γURUβEIGHTH ASHγSHE3βGESH2ζUβHALF GURβQUARTER ASHκGUR",
   "βSHARUβTHIRD DISHθVARIANT FORM AxSEVEN ASHδDISHδGESH2δSHAR2δUε VARIANT FORM",
   "δVARIANT FORM IMIN AφBυ3yHAR2 TIMES GAL PLUS DISHσMINyIX ASHε TENUβDISHβGESH2βSHAR2βU",
   "γ VARIANT FORMβVARIANT FORM ASH9xTHREE ASHη TENUδBAN2εURUθ VARIANT FORMδDISHδGESH2θUδSHAR2",
   "ι VARIANT FORMθUι VARIANT FORMδVARIANT FORM ESH16τ21yWO ASHε TENUβBAN2γURUβESHE3βGESH2ζUβSHAR2",
   "ζUβTHIRDS DISHιVARIANT FORM AkPUNCTUATION SIGN DIAGONAL COLONλQUADCOLONλTRICOLON",
   "βOLD ASSYRIAN WORD DIVIDERβVERTICAL COLONkSIGN Aq TIMES AxBADxGAN2 TENUxHAxIGIxLAGAR GUNUxMUSH",
   "xSAGq2qBr GUNUsTIMES ASH2yDUN3 GUNUyGALαN2 TENUyHAyIGI GUNUzMINyLAGAByNUNβ TENUySHESHαU2",
   "yU PLUS U PLUS Ur2s TIMES AzBALAGzGAN2 TENUzME PLUS ENzSHA3zTAK4qDr TIMES ESH2qKr TIMES ERIN2",
   "ySHITA PLUS GISHqLr TIMES ALyDIM2yGISHyHAyKAD3zIySHEyUSHrANrEPHqMARt TIMES KUGαSHEqNr OVER AN",
   "sPLUS NAGA OPPOSING AN PLUS NAGAγSQUAREDsTHREE TIMESrSHEqPINqRADt TIMES KURrKABqSAL2rH",
   "s KABA TENUtOVER ASH OVER ASHλ CROSSING ASH OVER ASH OVER ASH",
   "γTUG2 OVER TUG2 TUG2 OVER TUG2 PAPtZIDA TENUs2sGABpBArDs TIMES DISH TENUrG3rHAR2v TIMES AB2γNI",
   "γZArLs OVER BALsAGrRsA2qIr TIMES AyGARyIGI GUNUqUr CROSSING BUsOVER BU ABαTIMES NA2αUNrLUG",
   "u OVER BULUGrRs2pDAr TIMES TAK4rGs KISIM5 TIMES A PLUS MASHθMARηBALAGθIηGAι PLUS MASHθIιR2θUD",
   "ηHAηIRι PLUS LUηKAKηLAθUι PLUS MASH2ιMηNEηPAP PLUS PAPηSIηTAK4ηU2 PLUS GIR2οMASHθSHtTIMES KUR",
   "s3rMrRsA3t4qIrBrMs TIMES IGIzSHEzU U Us2t TIMES UDrNs KASKAL U GUNU DISHrSHt PLUS SHUqUr GUNU",
   "sOVER DUsSHESHIGrBs TIMES ESH2zSHEs2rGs TIMES ANSHEαSHγ AT LEFTzDINαUNzERIN2zGAαIβR2 GUNUβSH",
   "zHAαIzIGI GUNUzKASKALαURβSHU2ζ PLUS KASKALzLAK-020βMγ TIMES KURαUH PLUS GISHzMASHαESαIzNIzPI",
   "zSHEαI GUNUsUDrHrNs3t GUNUy GUNUs4rR2pEq OVER E NUN OVER NUNrTIMES PAPq2",
   "r TIMES A PLUS HA PLUS DAyGARyKURyMIyPAPySALzHEyUqDINqGIRqLqNr CROSSING ENsOPPOSING ENsSQUARED",
   "sTIMES GAN2γ TENUyMEqRENrIN2u XqSH2t CROSSING ESH2qZENt SHESHIG TIMES ASHιHIιIGI GUNUιLAλLιME",
   "λSιSUuTIMES Aβ PLUS LALλ TIMES LALβNαBADαDUN3 GUNUκ GUNUαGUDαHAγ GUNUαIGI GUNUαKASKALη SQUARED",
   "βU3αLAγL TIMES LALβIβUαSHEβUαU2βDpGAr GUNUr2s OVER GA2tTIMES A PLUS DA PLUS HAηHAηIGI",
   "αB2 TENU PLUS TABαNβ PLUS KAK PLUS AαSHγ2δ PLUS GALzBADβHAR2βR PLUS RAαURγ PLUS RAzDAαIβM GUNU",
   "δTIMES SHEαUBβG TIMES IGI GUNUκKASKALzELβ PLUS LAαNβ TIMES GAN2 TENUαRENzGAβN2 TENUβRγ PLUS DI",
   "ιNEαIβ4γ PLUS AβR2 PLUS SUzHA PLUS AθLU PLUS ESH2βLγ PLUS LAαI PLUS LIαUB2zIGI GUNU",
   "αSH PLUS HU PLUS ASHzKAKβSKALαIDγ PLUS LALαU3 PLUS ANβSHU2 PLUS KASKALzLAβMγ TIMES KURαUH",
   "zME PLUS ENαIαUSHzNEβ PLUS E2θGIαUNγ OVER NUNzPAzSALβRαHEγ PLUS TURβIDγMαUMzTAK4zUαDβ PLUS DU",
   "zZIZ2rBAt CROSSING GABAuROTATED NINETY DEGREESrDs OVER GAD GAR OVER GARrL",
   "s GAD OVER GAD GAR OVER GARsAMrMrNs2t CROSSING GAN2uOVER GAN2uTENUrRs3rSHANqE22rSHTIN",
   "w TIMES KURδUqIr CROSSING GIsTIMES EyUr4s CROSSING GI4tOVER GI4rDIMrGrR2t GUNUs3",
   "t TIMES A PLUS IGIαGAN2 TENUαIGIαLU PLUS IGIαPArSALsHt CROSSING GISHuTENUvIMES BAD",
   "αGISH CROSSING GISHαTAK4qUr CROSSING GUr2s GUNUtTIMES IGI GUNUzKAKγ TIMES IGI GUNUzNUN",
   "zSAL PLUS TUG2rDs OVER GUD LUGALtPLUS GISH TIMES TAK4tTIMES A PLUS KURzKURrLrMs TIMES SHErRs7",
   "sUNtSHpHAr GUNUsTENUw GUNUrLqIr TIMES ASHβ OVER HI TIMES ASHβ2yBADyDISHyGADyKINyNUNySHEyUqUrB2",
   "t TIMES ANαHALαKASKALαLISHαUDrL2rSHpIq AqBqDIMt OVER IDIM BURεSQUAREDqGrIs DIBtGUNU",
   "tOVER IGI SHIR OVER SHIR UD OVER UDtRIqLr TIMES GAN2 TENUr2qMr CROSSING IMsOPPOSING IMsSQUARED",
   "sTIMES TAK4rINqNqRqSHpKAr TIMES AzDα PLUS KU3zNSHEzSH2β3yBADαLAGαRzIzUyERIN2zSH2yGAαLαN2 TENU",
   "αRβ PLUS SHA3 PLUS AzIαR2αSHγ CROSSING GISHδPLUS SARzUαDαR7yHI TIMES ASH2yIGIzMyKAαKzIαDyLIzU",
   "αMyMEα PLUS DUηGIηTEzIα PLUS NUNUZyNEzUNyPAzIyRUySAαRzHAαEαIDαUβLzIGzUHURyTARzUyUz U Uz2zD",
   "zMUM TIMES PAzRα2zSHyZIr2s CROSSING KA2rBrD2s3s4s5t OVER KAD5rKs TIMES IGI GUNUrL",
   "s CROSSING KALtTIMES BADrM2s4rP ELAMITErSKALv LAGAB TIMES U OVER LAGAB TIMES U",
   "wOVER KASKAL LAGAB TIMES U OVER LAGAB TIMES UqESH2qIr TIMES BADyUzDrDrNrSALsHsIM5v OVER KISIM5",
   "qUr OVER HI TIMES ASH2 KU OVER HI TIMES ASH2r3r4s VARIANT FORMr7rLs GUNUrNrRs OPPOSING KUR",
   "rSHU2qWU318pLArGABu SQUAREDvTIMES Aγ PLUS DA PLUS HAιGARιLALγLγNγSH ZIDA TENUβBADγIβDARβENβGA",
   "δRγIγUDε PLUS GUDβHAδLγI TIMES NUNβIGI GUNUγMδ PLUS HAκLUβKIδNγU3δLε PLUS HI PLUS AβLAGABγISH",
   "γUδLβMEδ PLUS ENγUSHβNEβSHE PLUS SUMδITA PLUS GISH PLUS ERIN2ςTENUδU2ζ PLUS SHU2γUMβTAGδK4",
   "γE PLUS A PLUS SU PLUS NAβUγ PLUS AιU PLUS Uγ2 PLUS ASHγDγSHβZU OVER ZUtRu GUNU",
   "z OVER LAGAR GUNU SHEvTIMES SHEε PLUS SUMrHSHUrK-003u21v5u30u50v1u62u79 OVER LAK-079 GUNUu80",
   "v1 OVER LAK-081u92t130u42t210v9u20v5v8u38u65v6t343v7v8u83v4u90t441v9w TIMES GUδIGI",
   "δPAP PLUS LU3νPAP PLUS LU3δU2 PLUS BAu50v7u70u83u90v2v3v5t550t608u17w TIMES ASHδBAD",
   "δDUN3 GUNU GUNUδKU3δLAδTARεEδU2εDεRUDAu36u48w TIMES DUBδGAδIGIη GUNUδNIδPAP PLUS PAP PLUS LU3",
   "δSHESH PLUS KIδUDεRUDAt724u49rLs TIMES LALrMs TIMES KURγ PLUS RUqIrLrMMU2rSHqUr TIMES BADr2",
   "s CROSSING LU2tGUNU TIMES ASHtOPPOSING LU2tSHESHIGα TIMES BADuQUAREDtTENUuIMES ALzBADzDISH",
   "zESH2δ PLUS LALεTENUzGAN2 TENUzHALαI TIMES BADzIMzKAD2γ3δ PLUS ASHαIzLA PLUS ASHβGAB",
   "zME PLUS ENzNEαUzPAPγ PLUS PAP PLUS LU3zSHUαI PLUS ASHβK2 PLUS BUzTAK4αUG2r3rGAL",
   "u OPPOSING LUGALwVER LUGALvSHESHIGrHrLrMs OVER LUMβ GAR OVER GARpMAr GUNUsTIMES TAK4r2rHrRrSH",
   "t2qErSsHqIr PLUS ZA7rNqUr OVER MUrGs GUNUrNSUBrRGU2rSHt CROSSING MUSHuOVER MUSH",
   "δ TIMES A PLUS NAλGAλKAKuTIMES AαKURαZAt3u GUNUvTIMES Aγ PLUS DIβDIβZApNAr2r4rGAt INVERTED",
   "uOPPOSING NAGAuTIMES SHU TENUtRrMs NUTILLUs2qEr SHESHIGsTIMES AyUDqIr TIMES Er2rM",
   "s TIMES GAN2 TENUβR PLUS GAN2 TENUrNs9sDA2v TIMES ANδSHζ PLUS ASHγBALγDIM GUNUγGIεSHδUDεLγHI",
   "γKESH2γLAK-050γMASHδE PLUS GAN2 TENUγNEδUNγPAP PLUS PAPγSHEζ PLUS A ANνSHο PLUS ASHγUδ PLUS U",
   "δ2 PLUS ASHδRUDAδSHrSAGqUr11t OVER NU11 BUR OVER BURuROTATED NINETY DEGREESuTENUrN",
   "s CROSSING NUNζ LAGAR OVER LAGARtLAGAR TIMES GARζMASHζSALι OVER NUN LAGAR TIMES SALζUSH",
   "tOVER NUNtTENUsUZu AB2 TIMES ASHGABζBIζDUGζGUDζIGI GUNUζKAD3ζLAζNEζSILA3ζU2vKISIM5 TIMES BIλ U",
   "pPArDrNrPqESH2u ASTERISKqIr CROSSING PIsTIMES AzByBIzUyEyIzByUz2rR2sIGu OPPOSING PIRIG",
   "vTIMES KALβUDβZApRArBqIqUpSArGs GUNUx TIMES HAtNUTILLUtOVER SAGtTIMES AzDUβBzENzHAzIGI GUNU",
   "zKAKαURzLUMzMIzNUNzSALαHE AT LEFTβIDzTABβK4zU2αBαMαRαSHrLs LAGAB TIMES ASH2rNGA2rRqHAs3",
   "t TIMES AαBADαGISHαNEαSHU2αTURαUβ PLUS As6t TENUsB6sR2rEs HUtOVER SHE",
   "β GAD OVER GAD GAR OVER GARγTAB OVER TAB GAR OVER GARtPLUS HUB2yNAM2ySARsG9sNsSHu2uLAMrID",
   "t TIMES AαIMsMt TIMES AαBALβULUGαDINαGARαIGIδ GUNUαKUSHU2αLULαMUGαSALsNIGsR",
   "t OVER SHIR BUR OVER BURuTENUsTArUs OVER INVERTED SHUs2t PLUS DUG TIMES NIzE2 TIMES ANsBURqI",
   "r GUNUsTIMES TAK4rGs4t OVER SIG4 SHU2rK2rLA3qUr OVER SUrDs2rHURrMsASHrRs9pTAr ASTERISKsGUNU",
   "sTIMES HIyMIrBs OVER TAB NI OVER NI DISH OVER DISHtSQUAREDrGs TIMES BIzGUDzSHEβUzTUG2zUDrK4",
   "t PLUS SAGrRqEr GUNUqIr TENUr2rLrRs OVER TIRβ GAD OVER GAD GAR OVER GARtTIMES TAK4qUrG2rKrM",
   "s TIMES GAN2 TENUzTHREE DISHrRs OVER TUR ZA OVER ZApUq GUDrOVER U PA OVER PA GAR OVER GAR",
   "ySUR OVER SURyU REVERSED OVER U REVERSEDrUs Uq2qBqDr GUNUsKUSHU2sSHESHIGz TIMES BADsTIMES BAD",
   "yMIyU PLUS U PLUS Uξ GUNUrUGqMr TIMES LAGAByMEα PLUS DAySHA3yUrBINrUMt TIMES KASKALαPAqNr GUNU",
   "qRr CROSSING URsSHESHIGr2s INVERTEDtTIMES A PLUS HAηNAαLzHAzNUNzU2β PLUS ASHθBIαDr4rIs3rU",
   "s TIMES AαSHGABzBARzDARA3αUNzGAβLβN2 TENUβRαUzHAzIGIαMαSHzKIzLAK-668αU3βMzMINzPAzSHEαIG4zTU",
   "zU PLUS GUDαDαRUDAsDAu TIMES UqSHs TIMES AzKUβRzTAK4s2sUMXsXqTUKIqZ3s TIMES KASKALrUpZA",
   "r SQUARED TIMES KURsTENUr7rGrMXqE2qIr OVER ZIr3rBs KABA TENUrGrZ2qUr OVER ZU PLUS SARr5",
   "s TIMES AzTHREE DISH TENUrBURrMcP ON BLACK SQUAREeWITH STRAWdCAKEdIDOcRLING STONE",
   "eY BRACKET EXTENSIONgLOGICAL ANDoORiOPdRENCY EXCHANGEjSIGNeY AND RICE",
   "dVED STEM PARAGRAPH SIGN ORNAMENTcSTARDeOMScT OF MEATbYCLONEcLINDRICITYcPRIOT SYLLABLE ArErI",
   "rJAsOrKAsEsIsOsUrLAsEsIsOsUrMAsEsIsOsUrNAsEsIsOsUrOrPAsEsIsOsUrRAsEsIsOsUrSAsEsIsOsUrTAsEsIsO",
   "sUrUrWAsEsIsOrXAsErZAsOeO-MINOAN SIGN CM001w2w4w5w6w7w8w9v10w1w2xBw3w5w7w9v21w3w4w5w6w7w8w9v30",
   "w3w4w5w6w7w8w9v40w1w4w6w7w9v50w1w2w3w4w5w6w8w9v60w1w2w3w4w6w7w8w9v70w1w2w3w4w5xBw6w8w9v80w1w2",
   "w3w4w5w6w7w8w9v90w1w2w4w5w6w7w8w9u100w1w2w3w4w5w7w8w9v10w2w4u301w2cRILLIC CAPITAL LETTER A",
   "z WITH BREVEζDIAERESISzBKHASIAN CHEμ WITH DESCENDERιDZEιHAzLEUT KAyBARRED Oη WITH DIAERESIS",
   "αSHKIR KAzEzIG YUSαNOCULAR OzLENDED YUSzROAD OMEGAzYELORUSSIAN-UKRAINIAN IyCCHEzHE",
   "β WITH DESCENDERιIAERESISθVERTICAL STROKEzLOSED LITTLE YUSzROSSED OyDCHEzEzJEβRV",
   "zOUBLE MONOCULAR OζOzWEzZEβLOαHEαWEαZEβHEyEz WITH DIAERESISzFzLα WITH DESCENDERηHOOK",
   "ηMIDDLE HOOKηTAILzMα WITH TAILzNα WITH DESCENDERηHOOKηLEFT HOOKηMIDDLE HOOKηTAILzRα WITH TICK",
   "zSα WITH DESCENDERyFITAyGHEβ WITH DESCENDERθMIDDLE HOOKθSTROKEξ AND HOOKθUPTURNzJEyHA",
   "α WITH DESCENDERηHOOKηSTROKEαRD SIGNzWEyIz WITH DIAERESISζGRAVEζMACRONzEα WITH BREVEηGRAVEzO",
   "αTAβIFIED AθBIG YUSθCLOSED LITTLE YUSθEθLITTLE YUSθYATzZHITSAζ WITH DOUBLE GRAVE ACCENTyJEyKA",
   "α WITH DESCENDERηHOOKηSTROKEηVERTICAL STROKEzHAKASSIAN CHEzJEzOMI DEεJEεZJEδLJEδNJEδSJEδTJE",
   "δZJEαPPAzSIyLHAzITTLE YUSzJEyMONOCULAR OγGRAPH UKyNEUTRAL YERzJEyOz WITH DIAERESISzMEGA",
   "δ WITH TITLOzTyPEα WITH DESCENDERηMIDDLE HOOKzSIyQAyREVERSED DZEθTSEθYUθZEzHAzOUND OMEGAySCHWA",
   "δ WITH DIAERESISzEMISOFT SIGNzHAαCHAαHAγ WITH DESCENDERαORT Iζ WITH TAILεUαWEzOFT DEδELεMδSIGN",
   "zTRAIGHT Uι WITH STROKEyTCHEzEα WITH DESCENDERηMIDDLE HOOKzSEαHEαSEαWEzWEyUz WITH DIAERESIS",
   "ηOUBLE ACUTEζMACRONzKαRAINIAN IEyVEyWEyYAαEαTzERUγ WITH BACK YERιDIAERESISzIzNzUyZE",
   "α WITH DESCENDERθIAERESISαMLYAzHEβ WITH BREVEθDESCENDERιIAERESISαWEsIGATURE A IEαEN GHEαTE TSE",
   "jKAVYKAjLETTER MULTIOCULAR OqPALOCHKAqSMALL CAPITAL ELjPAYEROKjSMALL LETTER Ax WITH BREVE",
   "δDIAERESISxBKHASIAN CHEκ WITH DESCENDERηDZEηHAxLEUT KAwBARRED Oε WITH DIAERESISySHKIR KAxE",
   "xIG YUSyNOCULAR OxLENDED YUSxROAD OMEGAxYELORUSSIAN-UKRAINIAN IwCCHExHEz WITH DESCENDER",
   "ηIAERESISζVERTICAL STROKExLOSED LITTLE YUSxROSSED OwDCHExExJEzRVxOUBLE MONOCULAR OδOxWExZEzLO",
   "yHEyWEyZEzHEwEx WITH DIAERESISxFxLy WITH DESCENDERεHOOKεMIDDLE HOOKεTAILxMy WITH TAILxN",
   "y WITH DESCENDERεHOOKεLEFT HOOKεMIDDLE HOOKεTAILxRy WITH TICKxSy WITH DESCENDERwFITAwGHE",
   "z WITH DESCENDERζMIDDLE HOOKζSTROKEμ AND HOOKζUPTURNxJEwHAy WITH DESCENDERεHOOKεSTROKEyRD SIGN",
   "xWEwIx WITH DIAERESISδGRAVEδMACRONxEy WITH BREVEεGRAVExOyTAzIFIED AζBIG YUSζCLOSED LITTLE YUS",
   "ζEζLITTLE YUSζYATxZHITSAδ WITH DOUBLE GRAVE ACCENTwJEwKAy WITH DESCENDERεHOOKεSTROKE",
   "εVERTICAL STROKExHAKASSIAN CHExJExOMI DEγJEγZJEβLJEβNJEβSJEβTJEβZJEyPPAxSIwLHAxITTLE YUSxJE",
   "xONG-LEGGED DEwMONOCULAR OαGRAPH UKwNARROW OxEUTRAL YERxJEwOx WITH DIAERESISxMEGAβ WITH TITLO",
   "xTwPALOCHKAxEy WITH DESCENDERεMIDDLE HOOKxSIwQAwREVERSED DZEζTSEζYUζZExHAxOUND OMEGAβED VE",
   "wSCHWAβ WITH DIAERESISxEMISOFT SIGNxHAyCHAyHAα WITH DESCENDERyORT Iδ WITH TAILγUyWExOFT DEβEL",
   "γMβSIGNxTRAIGHT Uη WITH STROKEwTALL HARD SIGNβTEβYATxCHExEy WITH DESCENDERεMIDDLE HOOK",
   "xHREE-LEGGED TExSEyHEySEyWExWEwUx WITH DIAERESISεOUBLE ACUTEδMACRONxKyRAINIAN IExNBLENDED UK",
   "wVEwWExIDE ESwYAyEyTxERUα WITH BACK YERηDIAERESISxIxNxUwZEy WITH DESCENDERζIAERESISyMLYAxHE",
   "z WITH BREVEζDESCENDERηIAERESISyWEqIGATURE A IEyEN GHEyTE TSEjTHOUSANDS SIGNaDAGGERg KNIFE",
   "hWITH LEFT GUARDmRIGHT GUARDcLET SYMBOLcNCERdGOcRK SHADEgUNGLASSEScSH SYMBOLfWITH LEFT UPTURN",
   "eED LOW LINEhOVERLINEhTRIANGLE-HEADED RIGHTWARDS ARROWcTA LINK ESCAPEbC1c2c3c4cSbEAF PERSON",
   "cCIDUOUS TREEeMAL EXPONENT SYMBOLiSEPARATOR KEY SYMBOLdREASE FONT SIZE SYMBOLcERcGREE CELSIUS",
   "hFAHRENHEIThSIGNcLdETEdIVERY TRUCKdTA EQUAL TOcNTISTRY SYMBOL LIGHT DOWN AND HORIZONTAL",
   "ρ WITH CIRCLEχTRIANGLEχWAVExUP AND HORIZONTALο WITH CIRCLEυTRIANGLEυWAVE",
   "xVERTICAL AND BOTTOM LEFTςRIGHTλTOP LEFTοRIGHTλWAVEηWITH CIRCLEμTRIANGLEcPARTMENT STORE",
   "cRELICT HOUSE BUILDINGcSCENDING NODEdERET CAPITAL LETTER AYxBEExCHEExDEExEFyLyMyNzGyRySzHyTHyW",
   "xGAYxHxJEExKAYxLONG AδHγEγIγOδOxOIyWxPEExSHORT AεHδEδIδOεOxTEEyHEExVEExWUxYEExZEEyHEE",
   "iSMALL LETTER AYvBEEvCHEEvDEEvEFwLwMwNxGwRwSxHwTHwWvGAYvHvJEEvKAYvLONG AβHαEαIαOβOvOIwWvPEE",
   "vSHORT AγHβEβIβOγOvTEEwHEEvVEEvWUvYEEvZEEwHEEfTg ISLANDdKTOP COMPUTERiWINDOW",
   "cVANAGARI ABBREVIATION SIGNmCUTE ACCENTlCARETlDANDAmIGIT EIGHTrFIVEsOURrNINErONErSEVENsIX",
   "rTHREEsWOrZEROmOUBLE DANDAlGAP FILLERmRAVE ACCENTlHEADSTROKElJAIN OMlLETTER AtAtItUtWtYsBAtBA",
   "tHAsCAuNDRA AzEzOtHAsDAtDAuDAvHAuHAtHAsEsFAsGAtGAtHAuHAtLOTTAL STOPsHAtEAVY YAsItIsJAtHAtJAsKA",
   "tHAuHAsLAtLAuLAsMAuRWARI DDAsNAtGAtNAuNAtYAsOtEtOEsPAtHAsQAsRAtHAtRAsSAtHAuORT AyEyOtSAsTAtHA",
   "tTAuHAsUtEtUuEsVAtOCALIC LβLαRβRsYAtYAsZAtHAlOMlSIGN ANUSVARArVAGRAHAqCANDRABINDUβ AVAGRAHA",
   "γTHREEδWOγVIRAMAqDOUBLE CANDRABINDU VIRAMAqHIGH SPACING DOTqINVERTED CANDRABINDUqNUKTA",
   "qPUSHPIKAqSIDDHAMrPACING CANDRABINDUqVIRAMAsSARGAmTRESS SIGN ANUDATTAxUDATTAlVOWEL SIGN AAxIxU",
   "xWxYwCANDRA EδLONG EδOwEwIxIwOxExOEwPRISHTHAMATRA EwSHORT EγOwUxExUyEwVOCALIC LζLεRζR",
   "dICE CONTROL FOURpONEpSTRINGpTHREEqWObIAERESISdMETER SIGNeOND OPERATORiSHAPE WITH A DOT INSIDE",
   "iTARGETiWITH BOTTOM HALF BLACKnLEFT HALF BLACKnRIGHT HALF BLACKnTOP HALF BLACKcE FACE-1j2j3j4",
   "j5j6dSEL LOCOMOTIVEcFFERENCE BETWEENcGIT EIGHTl COMMAmFULL STOPgFIVEk COMMAlFULL STOPhOUR",
   "k COMMAlFULL STOPgNINEk COMMAlFULL STOPgONEj COMMAkFULL STOPgSEVENl COMMAmFULL STOPhIXj COMMA",
   "kFULL STOPgTHREEl COMMAmFULL STOPhWOj COMMAkFULL STOPgZEROk COMMAlFULL STOPdRAM FOR EARTH",
   "qLY HEAVENuUMANlGREATER YANGuINlHEAVENLY EARTHmUMAN EARTHlLESSER YANGtINcMENSION ORIGIN",
   "cNGBAT CIRCLED SANS-SERIF DIGIT EIGHTθFIVEιOURθNINEθONEθSEVENιIXθTHREEιWOθZEROβNUMBER TEN",
   "iNEGATIVE CIRCLED DIGIT EIGHTζFIVEηOURζNINEζONEζSEVENηIXζTHREEηWOzNUMBER TEN",
   "zSANS-SERIF DIGIT EIGHTρFIVEςOURρNINEρONEρSEVENςIXρTHREEςWOρZEROλNUMBER TEN",
   "cRECT CURRENT SYMBOL FORM TWOhHITcSABLED CARePPOINTED BUT RELIEVED FACEnFACE",
   "dCONTINUOUS UNDERLINE SYMBOLdGUISED FACEcTTO MARKcVES AKURU DIGIT EIGHTsFIVEtOURsNINEsONE",
   "sSEVENtIXsTHREEtWOsZEROnOUBLE DANDAmEND OF TEXT MARKmGAP FILLERmINITIAL RAmLETTER AuAtBAuHAtCA",
   "uHAtDAuDAvHAuHAtEtGAuHAtHAtIuItJAtKAuHAtLAuLAtMAtNAuGAuNAuYAtOtPAuHAtRAtSAuHAuSAtTAuHAuTAtUuU",
   "tVAtYAuYAtZAmMEDIAL RAtYAmPREFIXED NASAL SIGNmSIGN ANUSVARArCANDRABINDUrHALANTArNUKTAmVIRAMA",
   "nOWEL SIGN AAyIxExIyIxOxUyUdIDESeNG MASKeSION SIGNkLASHjTIMESdORCE SYMBOLcYA LAMPcZZY FACE",
   "gSYMBOLbLEbNA DOUBLE HELIXbO NOT LITTER SYMBOLcCUMENTi WITH PICTUREoTEXTs AND PICTUREcDO",
   "cES NOT CONTAIN AS MEMBERuNORMAL SUBGROUPκ OR EQUALjDIVIDEp WITH REVERSED NEGATION SLASHjFORCE",
   "jPRECEDEq OR EQUALlOVEjSUCCEEDq OR EQUALcGd FACEdRA ABBREVIATION SIGNgLETTER AoAoIoUnBAoHAnCA",
   "oHAnDAoDApHAoHAnEnGAoHAnHAnIoInJAoHAnKAoHAnLAnMAnNAoGAoNAoYAnOnPAoHAnRAoRAnSAoHAoSAnTAoHAoTA",
   "pHAnUoUnVAnYAgSIGN ANUSVARAlNUKTAlVIRAMAnSARGAgVOWEL SIGN AAsIsUrErIsIrOrUsUrVOCALIC RαR",
   "cLLAR SIGNdPHINcMINO TILE HORIZONTAL BACKw-00-00β1β2β3β4β5β6y1-00β1β2β3β4β5β6y2-00β1β2β3β4β5β6",
   "y3-00β1β2β3β4β5β6y4-00β1β2β3β4β5β6y5-00β1β2β3β4β5β6y6-00β1β2β3β4β5β6mVERTICAL BACKu-00-00z1z2",
   "z3z4z5z6w1-00z1z2z3z4z5z6w2-00z1z2z3z4z5z6w3-00z1z2z3z4z5z6w4-00z1z2z3z4z5z6w5-00z1z2z3z4z5z6",
   "w6-00z1z2z3z4z5z6cNG SIGNcORcT ABOVEeMINUSeOPERATORePLUSdTED CIRCLEiROSShFENCEhLINE FACE",
   "hOBELOShRIGHT-POINTING ANGLEhSOLIDUSiQUAREhTRANSPOSITION MARKERcUBLE ACUTE ACCENT",
   "hCIRCLED DIGIT EIGHTvFIVEwOURvNINEvONEvSEVENwIXvTHREEwWOpNUMBER TENiOLON EQUALiURLY LOOP",
   "hDAGGERiOWN TACKhEXCLAMATION MARKhHIGH-REVERSED-9 QUOTATION MARKiYPHENhINTEGRALlRSECTION",
   "hLEFT ARC GREATER-THAN BRACKETiOGICAL ANDpORjW LINEk-9 QUOTATION MARK",
   "lREVERSED-9 QUOTATION MARKhNESTED GREATER-THANoLESS-THANx WITH UNDERBARhOBLIQUE HYPHENhPLUS",
   "iRECEDESjIMEm QUOTATION MARKhQUESTION MARKhRIGHT ARC LESS-THAN BRACKEThSOLIDUS OPERATOR",
   "iQUARE INTERSECTIONoUNIONiTACKED COMMAjROKE NOT SIGNiUBSETjCCEEDSjPERSETjSPENSION MARKhUNION",
   "iP TACKhVERTICAL BARt DOUBLE LEFT TURNSTILEβRIGHT TURNSTILEuLEFT TURNSTILEqLINEhWAVY OVERLINE",
   "g-ENDED MULTIMAPhLINE EQUAL TO OR GREATER-THANyLESS-THANmSLANTED EQUAL TO OR GREATER-THAN",
   "ηLESS-THANuGREATER-THAN OR EQUAL TOuLESS-THAN OR EQUAL TOhSTRUCK CAPITAL CwGAMMAwHwNwPxIwQwRwZ",
   "oITALIC CAPITAL DvSMALL DβEβIβJoN-ARY SUMMATIONoSMALL GAMMAuPIgD FEMALE SIGNiMALE SIGNiSYMBOL",
   "dGHNUTcVE OF PEACEcWN ARROWHEADfFISH TAILfRIGHT DIAGONAL ELLIPSISfTACKj WITH CIRCLE BELOW",
   "e-POINTING RED TRIANGLEoSMALL RED TRIANGLEoTRIANGLE WITH LEFT HALF BLACKγRIGHT HALF BLACK",
   "eWARD FACING HOOKu WITH DOTqNOTCHED HOOKγ WITH DOTiS ANCORAlRROWp AND RIGHT ONE EIGHTH BLOCK",
   "qFROM BARqLEFTWARDS OF UPWARDS ARROWqTO BARqWITH CORNER LEFTWARDSvDOUBLE STROKE",
   "vEQUILATERAL ARROWHEADvHORIZONTAL STROKEvLARGE TRIANGLE ARROWHEADvMEDIUM TRIANGLE ARROWHEAD",
   "vNOTCHED TAILvSMALL EQUILATERAL ARROWHEADβTRIANGLE ARROWHEADvTIP LEFTWARDSzRIGHTWARDS",
   "kBLACK ARROWqCIRCLED WHITE ARROWkCOMPRESSED ARROWkDASHED ARROWlOUBLE ARROWkFINGER-POST ARROW",
   "kHARPOON WITH BARB LEFT BESIDE DOWNWARDS HARPOON WITH BARB RIGHT",
   "οUPWARDS HARPOON WITH BARB RIGHTθFROM BARθTO BARηWARDSγRIGHT FROM BARιTO BARθWARDSlEAVY ARROW",
   "qCOMPRESSED ARROWkPAIRED ARROWSkQUADRUPLE ARROWkROCKETkSANS-SERIF ARROWlQUARED ARROW",
   "kTRIANGLE ARROWHEADs-HEADED ARROWζ LEFTWARDS OF UPWARDS TRIANGLE-HEADED ARROWηTO BAR",
   "ηWITH BOLD SHAFTμDOUBLE HORIZONTAL STROKEμHEAVY SHAFTμLONG TIP LEFTWARDSυRIGHTWARDS",
   "μMEDIUM SHAFTμNARROW SHAFTμVERY HEAVY SHAFTαDASHED ARROWαPAIRED ARROWSαZIGZAG ARROWnPLE ARROW",
   "lWO HEADED ARROWn-HEADED ARROW WITH TRIANGLE ARROWHEADSkWHITE ARROWv WITHIN TRIANGLE ARROWHEAD",
   "kZIGZAG ARROWbRACHMA SIGNdFTING POINT RIGHTWARDS ARROWdGONg FACEcESScIVE SLOW SIGN",
   "cOMEDARY CAMELdOLING FACEdP OF BLOODeLETcUM WITH DRUMSTICKSbUCKcMPLING",
   "cPLOYAN AFFIX ATTACHED E HOOKyI HOOKyLEFT-TO-RIGHT SECANTySECANTyTAILαNGENTζ HOOKpHIGH ACUTE",
   "uCIRCLEuDOTuGRAVEuLINEvONG GRAVEuTIGHT ACUTEuVERTICALγ SECANTuWAVEpLEFT HORIZONTAL SECANT",
   "qOW ACUTEuRROWtCIRCLEtDOTtGRAVEtLINEuONG GRAVEtTIGHT ACUTEtVERTICALβ SECANTtWAVE",
   "pMID HORIZONTAL SECANTtVERTICAL SECANTpRIGHT HORIZONTAL SECANTjDOUBLE MARKjLETTER ArOUqBqDr S",
   "rHqErErUqFr NqGr R SqHrLqIrEqJr Mt SsNt SsSt WITH DOTsWITH DOTαS INSIDE AND ABOVEqKr MsR SrKqL",
   "rHrONG IvUqMr Nt SsSsWITH DOTqNr Mt SsSsWITH DOTrASAL AwIwOwUqOrArOHrUrWqPr NrERNIN AMyNqRr S",
   "rHrOMANIAN IzUqSr Jt SsKt RsMsNsPt RsSsTt RsWITH DOTα BELOWrHORT IrLOAN ANwDHwEExHxNwJwONxWwU",
   "qTr R SsSrHqUr NrHrIqVrOCALIC MqWr RrArEIrHrIrOsWqXrWqYEjPUNCTUATION CHINOOK FULL STOP",
   "jSIGN O WITH CROSSjTHICK LETTER SELECTORbVDaE-MAIL SYMBOLbAGLEcRd OF MAIZEhRICE",
   "eWITH HEARING AIDdTHf GLOBE AMERICASnSIA-AUSTRALIAmEUROPE-AFRICAhROUNDcST SYRIAC CROSS",
   "bDITORIAL CORONISbGGcYPTIAN HIEROGLYPH A001x2x3x4x5yAx6yAyBx7x8x9w10x1x2x3x4yAx5x6x7yAx8x9w20",
   "x1x2x3x4x5x6x7x8x9w30x1x2yAx3x4x5x6x7x8x9w40yAx1x2yAx3yAx4x5yAx6x7x8x9w50x1x2x3x4x5x6x7x8x9w60",
   "x1x2x3x4x5x6x7x8x9w70vA001y2y3y4y5y6y7zAzBy8y9x10y1y2y3y4y5y6y7y8y9x20y1y2y3y4y5y6y7y8y9x30y1",
   "y2uB001x2x3x4x5yAx6x7x8x9vEGIN SEGMENTuC001x2yAyByCx3x4x5x6x7x8x9w10yAx1x2x3x4x5x6x7x8x9w20x1",
   "x2x3x4uD001x2x3x4x5x6x7x8yAx9w10x1x2x3x4x5x6x7x8x9w20x1x2x3x4x5x6x7yAx8x9w30x1yAx2x3x4yAx5x6x7",
   "x8x9w40x1x2x3x4x5x6yAx7x8yAx9w50yAyByCyDyEyFyGyHyIx1x2yAx3x4yAx5x6x7x8x9w60x1x2x3x4x5x6x7yAyB",
   "yCyDyEyFyGyHuE001x2x3x4x5x6x7x8yAx9yAw10x1x2x3x4x5x6yAx7yAx8x9w20yAx1x2x3x4x5x6x7x8yAx9w30x1x2",
   "x3x4yAx6x7x8vND SEGMENTuF001yAx2x3x4x5x6x7x8x9w10x1x2x3yAx4x5x6x7x8x9w20x1yAx2x3x4x5x6x7x8x9",
   "w30x1yAx2x3x4x5x6x7yAx8yAx9w40x1x2x3x4x5yAx6yAx7yAx8x9w50x1yAyByCx2x3uG001x2x3x4x5x6yAx7yAyBx8",
   "x9w10x1yAx2x3x4x5x6x7x8x9w20yAx1x2x3x4x5x6yAx7x8x9w30x1x2x3x4x5x6yAx7yAx8x9w40x1x2x3yAx4x5yAx6",
   "x7x8x9w50x1x2x3x4uH001x2x3x4x5x6yAx7x8vORIZONTAL JOINERuI001x2x3x4x5yAx6x7x8x9yAw10yAx1yAx2x3",
   "x4x5vNSERT AT BOTTOM ENDμSTARTεTOP ENDιSTARTuK001x2x3x4x5x6x7x8uL001x2yAx3x4x5x6yAx7x8uM001yA",
   "yBx2x3yAx4x5x6x7x8x9w10yAx1x2yAyByCyDyEyFyGyHx3x4x5yAx6yAx7yAx8x9w20x1x2yAx3x4yAx5x6x7x8yAx9",
   "w30x1yAx2x3yAyBx4x5x6x7x8x9w40yAx1x2x3x4uN001x2x3x4x5x6x7x8x9w10x1x2x3x4x5x6x7x8yAyBx9w20x1x2",
   "x3x4x5yAx6x7x8x9w30x1x2x3yAx4yAx5yAx6x7yAx8x9w40x1x2vL001y2y3y4y5zAy6y7y8y9x10y1y2y3y4y5y6y7zA",
   "y8y9x20vU001y2y3y4y5y6y7y8y9x10zAy1zAy2y3y4y5y6y7y8zAy9x20y1y2zAuO001yAx2x3x4x5yAx6yAyByCyDyE",
   "yFx7x8x9w10yAyByCx1x2x3x4x5x6x7x8x9yAw20yAx1x2x3x4yAx5yAx6x7x8x9yAw30yAx1x2x3yAx4x5x6yAyByCyD",
   "x7x8x9w40x1x2x3x4x5x6x7x8x9w50yAyBx1vVERLAY MIDDLEuP001yAx2x3yAx4x5x6x7x8x9w10x1uQ001x2x3x4x5",
   "x6x7uR001x2yAx3yAyBx4x5x6x7x8x9w10yAx1x2x3x4x5x6yAx7x8x9w20x1x2x3x4x5x6x7x8x9uS001x2yAx3x4x5x6",
   "yAx7x8x9w10x1x2x3x4yAyBx5x6x7yAx8x9w20x1x2x3x4x5x6yAyBx7x8x9w30x1x2x3x4x5yAx6x7x8x9w40x1x2x3x4",
   "x5x6uT001x2x3yAx4x5x6x7yAx8yAx9yAw10x1yAx2x3x4x5x6yAx7x8x9w20x1x2x3x4x5x6x7x8x9w30x1x2yAx3yAx4",
   "x5x6uU001x2x3x4x5x6yAyBx7x8x9w10x1x2x3x4x5x6x7x8x9w20x1x2x3yAx4x5x6x7x8x9yAw30x1x2yAx3x4x5x6x7",
   "x8x9w40x1x2uV001yAyByCyDyEyFyGyHyIx2yAx3x4x5x6x7yAyBx8x9w10x1yAyByCx2yAyBx3x4x5x6x7x8x9w20yAyB",
   "yCyDyEyFyGyHyIyJyKyLx1x2x3yAx4x5x6x7x8yAx9yAw30yAx1yAx2x3yAx4x5x6x7yAx8x9w40yAvERTICAL JOINER",
   "uW001x2x3yAx4x5x6x7x8x9yAw10yAx1x2x3x4yAx5x6x7yAx8yAx9w20x1x2x3x4yAx5uX001x2x3x4yAyBx5x6yAx7x8",
   "yAuY001yAx2x3x4x5x6x7x8uZ001x2yAyByCyDx3yAyBx4yAx5yAx6x7x8x9w10x1x2x3x4x5yAyByCyDyEyFyGyHyIx6",
   "yAyByCyDyEyFyGyHbIGHT PETALLED OUTLINED BLACK FLORETTEhOINTED BLACK STARoPINWHEEL STAR",
   "oRECTILINEAR BLACK STARgSPOKED ASTERISKgTEARDROP-SPOKED PROPELLER ASTERISKfH NOTEbJECT SYMBOL",
   "bLBASAN LETTER ApBEpCEqHEpDEqHEpEqIpFEpGEqHAMMArEqJEpHEpIpJEpKEqHEpLEqLEpMEpNAqDEqEqJEpOpPEpQE",
   "pREqREpSEqHEpTEqHEpUpVEpXEpYpZEqHEcECTRIC ARROWjLIGHT BULBjPLUGjTORCHiAL INTERSECTIONdMENT OF",
   "k OPENING DOWNWARDStUPWARDSlWITH DOT ABOVEqLONG HORIZONTAL STROKEqOVERBAR",
   "qTWO HORIZONTAL STROKESqUNDERBARqVERTICAL BAR AT END OF HORIZONTAL STROKEdPHANTdVATORcF",
   "cYMAIC LETTER ALEPHqYINpBETHpDALETHpGIMELpHErTHpKAPHpLAMEDHpMEMpNUNpPEpQOPHpRESHpSADHErMEKH",
   "qHINpTAWqETHpWAWpYODHpZAYINjIGATURE ZAYIN-YODHbM DASHdQUADdSPACEcOJI COMPONENT BALDqCURLY HAIR",
   "qRED HAIRqWHITE HAIRgMODIFIER FITZPATRICK TYPE-1-2η3η4η5η6cPHASIS SYMBOLdTY DOCUMENTgNESThOTE",
   "k PADnGEgPAGEkSgSETj WITH LEFT ARROW ABOVEpOVERBARpRIGHT ARROW ABOVEpSMALL CIRCLE ABOVEbN DASH",
   "dQUADdSPACEcD OF GUARDED AREAhLINEhMEDIUMhPROOFkTECTED AREAhSELECTED AREAhTEXTiRANSMISSION",
   "t BLOCKeWITH LEFTWARDS ARROW ABOVEcQdUIRYcTER SYMBOLcVELOPEi WITH DOWNWARDS ARROW ABOVE",
   "oLIGHTNINGbOLcMcTbPAbQUAL AND PARALLEL TOgTO BY DEFINITIONjOR GREATER-THANmLESS-THANmPRECEDES",
   "mSUCCEEDSfS COLONhSIGNl ABOVE LEFTWARDS ARROWsPLUS SIGNsRIGHTWARDS ARROWsTILDE OPERATOR",
   "nND SLANTED PARALLELη WITH TILDE ABOVEmWITH BUMPY ABOVErDOT BELOWrINFINITY BELOW",
   "rTWO DOTS ABOVE AND TWO DOTS BELOWhWITH ASTERISKdIANGULAR TOeVALENT TOlWITH FOUR DOTS ABOVE",
   "bRASE TO THE LEFTnRIGHTcIS FORM ONEkTWOcROR-BARRED BLACK CIRCLEtDIAMONDtSQUAREnWHITE CIRCLE",
   "tDIAMONDtSQUAREbSAcCdAPEcTIMATED SYMBOLiSbTBcHIOPIC COLON",
   "lMBINING GEMINATION AND VOWEL LENGTH MARKεMARKtVOWEL LENGTH MARKmMAjDIGIT EIGHTpFIVEqOURpNINE",
   "pONEpSEVENqIXpTHREEqWOjFULL STOPjNUMBER EIGHTYqFIFTYrORTYqHUNDREDqNINETYqSEVENTYrIXTYqTEN",
   "t THOUSANDrHIRTYrWENTYjPARAGRAPH SEPARATORkREFACE COLONjQUESTION MARKjSECTION MARKlMICOLON",
   "kYLLABLE BAuAtBAvAuEvEuIuOuUtEuEtItOuAtUtWAuEvEuIsCAuAtCAvAuEvEuHAwAvEwEvHAxAwExEwIwOwUvIvOvU",
   "uIuOuUtEuEtHAvAuEvEuIuOvAuUuWAtItOuAtUtWAsDAuAtDAvAuEvEuHAAvEwEvIvOvUuIuOvAuUuWAtEuEtItOuAtU",
   "tWAtZAAuEvEuIuOuUsFAuAtEuEtItOtUtWAuEvEuItYAsGAuAtEuEtGAvAuEvEuIuOuUuWAwAvEwEvItItLOTTAL AβAαE",
   "βEαIαOβAαUαWAtOuAtUuRAGE BWEEβIzFWEEβIzGWEγEβIzHHWAzKWEγEβIzMWEEβIzPWEEβIzQWEγEβItWAvAuEvEuI",
   "tYAvAuEvEuIuOuUsHAuAtEuEtHAvAuEvEuIuOuUuWAvEwEvIuYAwAvEwEvIvOvUtItOuAtUsJAuAtEuEtItOuAtUtWAsKA",
   "uAtEuEtItOuAtUtWAvAuEvEuItXAvAuEvEuIuOuUuWAwAvEwEvItYAvAuEvEuIuOuUsLAuAtEuEtItOuAtUtWAsMAuAtE",
   "uEtItOuAtUtWAuEvEuItYAsNAuAtEuEtItOuAtUtWAtYAvAuEvEuIuOvAuUuWAsPAuAtEuEtHAvAvRYNGEAL AεAδEεEδI",
   "δOδUuEvEuIuOvAuUuWAtItOuAtUtWAuEvEuIsQAuAtEuEtHAvAuEvEuIuOuUuWAwAvEwEvItItOuAtUtWAvAuEvEuItYA",
   "vAuEvEuIuOuUsRAuAtEuEtItOuAtUtWAtYAsSAuAtEuBATBEIT BWAγFWAγMWAγPWAuEtHAvAuEvEuIuOvAuUuWAtItOuA",
   "tSAvAuEvEuIuOuUtUtWAtZAvAuEvEuIuOuUuWAsTAuAtEuEtHAvAuEvEuIuOvAuUuWAtItOuAtSAvAuEvEuIuOuUuWA",
   "tTHAAvEwEvIvOvUtUtWAtZAvAuEvEuIuOvAuUsVAuAtEuEtItOtUtWAsWAuAtEuEtItOuAtUsXAuAtEuEtItOuAtUtWAvA",
   "uEvEuItYAvAuEvEuIuOuUsYAuAtEuEtItOuAtUsZAuAtEuEtHAvAuEvEuIuOuUuWAtItOuAtUtWAtZAvAuEvEuIuOuU",
   "jTONAL MARK CHIRETuDERETz-HIDETvIFATuHIDETuKENATvURTuRIKRIKuSHORT RIKRIKuYIZETjWORDSPACEcX",
   "bULER CONSTANTcRO SIGNe-CURRENCY SIGNePEAN CASTLEjPOST OFFICEbVERGREEN TREEbXCESS",
   "dLAMATION MARKmQUESTION MARKcPRESSIONLESS FACEcTENDED ARABIC-INDIC DIGIT EIGHTγFIVEδOURγNINE",
   "γONEγSEVENδIXγTHREEδWOγZEROdRATERRESTRIAL ALIENeEMELY HEAVY FIVE SPOKED ASTERISKqGREEK CROSS",
   "qSALTIRErIX SPOKED ASTERISKqWHITE CIRCLEwSQUAREbYEdGLASSESdSaFACE HOLDING BACK TEARSfMASSAGE",
   "fPALMfSAVOURING DELICIOUS FOODgCREAMING IN FEARfTHROWING A KISSfWITH COLD SWEATmWBOY HAT",
   "kDIAGONAL MOUTHkFINGER COVERING CLOSED LIPSkHEAD-BANDAGEkLOOK OF TRIUMPHkMEDICAL MASKlONOCLE",
   "kNO GOOD GESTUREkOK GESTURElNE EYEBROW RAISEDlPEN EYES AND HAND OVER MOUTHpMOUTH",
   "u AND COLD SWEATvVOMITINGkPARTY HORN AND PARTY HATlEEKING EYElLEADING EYESkROLLING EYES",
   "kSTUCK-OUT TONGUEα AND TIGHTLY-CLOSED EYESζWINKING EYEkTEARS OF JOYlHERMOMETER",
   "kUNEVEN EYES AND WAVY MOUTHjOUT MOUTHdSIMILE SIGNdTORYcIRYcLAFELdLEN LEAF",
   "eING DIAGONAL CROSSING NORTH EAST ARROWαRISING DIAGONALrIN WHITE CIRCLE IN BLACK SQUAREcMILY",
   "cRSI SYMBOLcTHER CHRISTMAScX ICONeMACHINEbEARFUL FACEdTHERcMALE SIGNdININE ORDINAL INDICATOR",
   "cNCERcRRIS WHEELeYbFbIELD HOCKEY STICK AND BALLcGURE DASHhSPACEcLE CABINETfFOLDERfSEPARATOR",
   "dM FRAMESfPROJECTORcNITE PART INTEGRALcREe ENGINEgXTINGUISHEReCRACKEReWORK SPARKLERiS",
   "dST PLACE MEDALgQUARTER MOONs SYMBOLtWITH FACEgSTRONG ISOLATEcSHe CAKE WITH SWIRL DESIGNeEYE",
   "eING POLE AND FISHdTED HAND SIGNcVE DOT MARKjPUNCTUATIONbLAG IN HOLEdMINGOdT SHOEeBREADeNESS",
   "cEUR-DE-LISdXED BICEPScOPPY DISKdRAL HEARTdWERg PLAYING CARDSiUNCTUATION MARKcUSHED FACEcY",
   "dING DISChENVELOPEhSAUCERbOGdGYcLDERcNDUEcOTePRINTScR ALLdCESdK AND KNIFEo WITH PLATE",
   "eED PARAGRAPHOSeINGdM FEEDdTUNE COOKIEcUNTAINdR BALLOON-SPOKED ASTERISKfCLUB-SPOKED ASTERISK",
   "gORNER ARROWS CIRCLING ANTICLOCKWISEfDOT MARKjPUNCTUATIONfLEAF CLOVERfPOINTED BLACK STAR",
   "fTEARDROP-SPOKED ASTERISKe-PER-EM SPACEeTH ROOTcX FACEbRACTION NUMERATOR ONEjSLASH",
   "dME WITH AN XlPICTURElTILEScEEZING FACEdNCH FRANC SIGNjIEScIED SHRIMPcOG FACE",
   "dNT-FACING BABY CHICKgTILTED SHADOWED WHITE RIGHTWARDS ARROWdWNfING FACE WITH OPEN MOUTHbScI",
   "bUEL PUMPcLL BLOCKfMOON SYMBOLkWITH FACEfOUTER JOINfSTOPeWIDTH AMPERSANDlPOSTROPHElSTERISK",
   "kBROKEN BARkCENT SIGNlIRCUMFLEX ACCENTlOLONmMMAoERCIAL ATkDIGIT EIGHTqFIVErOURqNINEqONEqSEVEN",
   "rIXqTHREErWOqZEROlOLLAR SIGNkEQUALS SIGNlXCLAMATION MARKkFULL STOPkGRAVE ACCENT",
   "mEATER-THAN SIGNkHYPHEN-MINUSkLATIN CAPITAL LETTER AζBζCζDζEζFζGζHζIζJζKζLζMζNζOζPζQζRζSζTζUζV",
   "ζWζXζYζZqSMALL LETTER AδBδCδDδEδFδGδHδIδJδKδLδMδNδOδPδQδRδSδTδUδVδWδXδYδZlEFT CURLY BRACKET",
   "pPARENTHESISpSQUARE BRACKETpWHITE PARENTHESISmSS-THAN SIGNlOW LINEkMACRONkNOT SIGNlUMBER SIGN",
   "kPERCENT SIGNlLUS SIGNlOUND SIGNkQUESTION MARKmOTATION MARKkREVERSE SOLIDUSlIGHT CURLY BRACKET",
   "qPARENTHESISqSQUARE BRACKETqWHITE PARENTHESISkSEMICOLONlOLIDUSkTILDEkVERTICAL LINEkWON SIGN",
   "kYEN SIGNcNCTION APPLICATIONdERAL URNcSEbVS1d2d3d4aGAME DIEcRLICbEARe WITH HANDLESjOUT HUB",
   "cM STONEdINIcNIEcOMETRIC PROPORTIONjALLY EQUAL TOrIVALENT TOdRGIAN CAPITAL LETTER AENzNyBAN",
   "yCANzHARαINzILyDONyENyGANzHANyHAEαRzEzIEzOEyINyJHANzILyKANzHARyLASyMANyNARyONyPARzHARyQARyRAE",
   "ySANzHINyTANαRyUNyVINyWEyXANyYNyZENzHARjLETTER AENrINrNqBANqCANrHARsINrILqDONqELIFIrNqFIqGAN",
   "rHANqHAEsRtD SIGNrErIErOEqINqJHANrILqKANrHARqLABIAL SIGNsSqMANqNARqONqPARrHARqQARqRAEqSANrHIN",
   "qTANsRrURNED GANqUNqVINqWEqXANqYNqZENrHARjMTAVRULI CAPITAL LETTER AENιINιNθBANθCANιHARκINιIL",
   "θDONθELIFIιNθFIθGANιHANθHAEκRλD SIGNιEιIEιOEθINθJHANιILθKANιHARθLABIAL SIGNκSθMANθNARθONθPAR",
   "ιHARθQARθRAEθSANιHINθTANκRιURNED GANθUNθVINθWEθXANθYNθZENιHARjPARAGRAPH SEPARATOR",
   "jSMALL LETTER AENxNwBANwCANxHARyINxILwDONwENwGANxHANwHAEyRxExIExOEwINwJHANxILwKANxHARwLASwMAN",
   "wNARwONwPARxHARwQARwRAEwSANxHINwTANyRwUNwVINwWEwXANwYNwZENxHARcRMAN PENNY SIGNcTA MARKbHOST",
   "bIMEL SYMBOLcRAFFE FACEdLeS SYMBOLbLAGOLITIC CAPITAL LETTER AZUαBIG YUSβUKYαCAUDATE CHRIVI",
   "βHRIVIαDJERVIβOBROβZELOαFITAβRITUαGLAGOLIαHERUαIβNITIAL IZHEβOTATED BIG YUSιSMALL YUSβZHEδITSA",
   "αKAKOαLATINATE MYSLITEβJUDIJEαMYSLITEαNASHIαONUβTUαPEβOKOJIαRITSIαSHAγTAεPICβLOVOβMALL YUS",
   "κ WITH TAILβPIDERY HAαTROKUTASTI AβSIβVRIDOαUKUαVEDEαYATIβERIδUγSTUβOβUαZEMLJAβHIVETE",
   "lSMALL LETTER AZUyBIG YUSzUKYyCAUDATE CHRIVIzHRIVIyDJERVIzOBROzZELOyFITAzRITUyGLAGOLIyHERUyI",
   "zNITIAL IZHEzOTATED BIG YUSηSMALL YUSzZHEβITSAyKAKOyLATINATE MYSLITEzJUDIJEyMYSLITEyNASHIyONU",
   "zTUyPEzOKOJIyRITSIySHAαTAγPICzLOVOzMALL YUSθ WITH TAILzPIDERY HAyTROKUTASTI AzSIzVRIDOyUKU",
   "yVEDEyYATIzERIβUαSTUzOzUyZEMLJAzHIVETEdSS OF MILKcEICH STARKcOBE WITH MERIDIANSdVESdWING STAR",
   "bOAL NETdTcGGLEScLFERcRILLAcTHIC LETTER AHSApIHVUSoBAIRKANoDAGSoEISoFAIHUoGIBAoHAGLpWAIRoIGGWS",
   "pUJAoJERoKUSMAoLAGUSoMANNAoNAUTHSpINE HUNDREDsTYoOTHALoPAIRTHRAoQAIRTHRAoRAIDAoSAUILoTEIWS",
   "pHIUTHoURUSoWINJAbRADUATION CAPdNTHA AU LENGTH MARKiLETTER AqAqIqUpBAqHApCAqHApDAqDArHAqHApEE",
   "pGAqHApHApIqIpJAqHApKAqHApLAqLApMApNAqGAqNAqYApOOpPAqHApRApSAqHAqSApTAqHAqTArHApUqUpVA",
   "qEDIC ANUSVARAvDOUBLE ANUSVARAqOCALIC LyLxRyRpYAiOMiSIGN ANUSVARAoVAGRAHAnCANDRABINDU",
   "oOMBINING ANUSVARA ABOVEnNUKTAnPLUTAnVIRAMApSARGAiVOWEL SIGN AAuIuUtEEtIuItOOtUuUtVOCALIC LγL",
   "βRγRdPESdVE ACCENTcEATER-THAN ABOVE DOUBLE-LINE EQUAL ABOVE LESS-THAN",
   "tLESS-THAN ABOVE DOUBLE-LINE EQUALtRIGHTWARDS ARROWtSIMILAR ABOVE LESS-THANβOR EQUAL",
   "uLANTED EQUAL ABOVE LESS-THAN ABOVE SLANTED EQUALoND NOT APPROXIMATErSINGLE-LINE NOT EQUAL TO",
   "nBESIDE LESS-THANoUT NOT EQUAL TOyIVALENT TOnCLOSED BY CURVEγ ABOVE SLANTED EQUAL",
   "nEQUAL TO OR LESS-THANnOR APPROXIMATEqEQUAL TOtIVALENT TOqLESS-THANqSLANTED EQUAL TO",
   "η WITH DOT ABOVEφ LEFTρINSIDEoVER EQUAL TOrLAPPING LESS-THANnSIGNnWITH CIRCLE INSIDEsDOT",
   "sQUESTION MARK ABOVEdEK ACROPHONIC ATTIC FIFTYγ STATERSδTALENTSεHOUSANDμ STATERSzVEβ HUNDRED",
   "κ STATERSλTALENTSγSTATERSγTALENTSδHOUSANDλ TALENTSxONE DRACHMAβHALFγUNDRED STATERSκTALENTS",
   "βQUARTERβTHOUSAND STATERSλTALENTSxTEN MNASβSTATERSβTALENTSγHOUSAND STATERS",
   "rCARYSTIAN FIVE HUNDREDsYRENAIC TWO DRACHMASrDELPHIC FIVE MNASrEPIDAUREAN FIVE HUNDREDγTWO",
   "ζ DRACHMASrHERAEUM ONE PLETHRONuMIONIAN FIFTYγONEγTENrMESSENIAN TENrNAXIAN FIVE HUNDRED",
   "rSTRATIAN FIFTY MNASrTHESPIAN FIFTYγVE HUNDREDζTHOUSANDαONEδ HUNDREDεTHOUSANDαTENβHIRTY",
   "γREE HUNDREDβWOsROEZENIAN FIFTYθ ALTERNATE FORMεVEη HUNDREDγTENζ ALTERNATE FORMhNO TELEIA",
   "hROURA SIGNiTABE SIGNgBETA SYMBOLgCAPITAL DOTTED LUNATE SIGMA SYMBOLoKAI SYMBOLoLETTER ALPHA",
   "α WITH DASIAμ AND OXIAυ AND PROSGEGRAMMENIρPERISPOMENIωENI AND PROSGEGRAMMENIςROSGEGRAMMENI",
   "ρVARIAφ AND PROSGEGRAMMENIηMACRONηOXIAηPROSGEGRAMMENIθSILIμ AND OXIAυ AND PROSGEGRAMMENI",
   "ρPERISPOMENIωENI AND PROSGEGRAMMENIςROSGEGRAMMENIρVARIAφ AND PROSGEGRAMMENIηTONOSηVARIAθRACHY",
   "wRCHAIC SAMPIvBETAvCHIvDELTAvEPSILONγ WITH DASIAξ AND OXIAσVARIAιOXIAιPSILIξ AND OXIAσVARIA",
   "ιTONOSιVARIAwTAy WITH DASIAκ AND OXIAσ AND PROSGEGRAMMENIοPERISPOMENIωI AND PROSGEGRAMMENI",
   "πROSGEGRAMMENIοVARIAτ AND PROSGEGRAMMENIεOXIAεPROSGEGRAMMENIζSILIκ AND OXIA",
   "σ AND PROSGEGRAMMENIοPERISPOMENIωI AND PROSGEGRAMMENIπROSGEGRAMMENIοVARIAτ AND PROSGEGRAMMENI",
   "εTONOSεVARIAvGAMMAvHETAvIOTAz WITH DASIAλ AND OXIAπPERISPOMENIπVARIAηIALYTIKAζMACRONζOXIA",
   "ζPSILIλ AND OXIAπPERISPOMENIπVARIAζTONOSζVARIAηRACHYvKAPPAvLAMDAvMUvNUvOMEGAα WITH DASIA",
   "μ AND OXIAυ AND PROSGEGRAMMENIρPERISPOMENIωENI AND PROSGEGRAMMENIςROSGEGRAMMENIρVARIA",
   "φ AND PROSGEGRAMMENIηOXIAηPROSGEGRAMMENIθSILIμ AND OXIAυ AND PROSGEGRAMMENIρPERISPOMENI",
   "ωENI AND PROSGEGRAMMENIςROSGEGRAMMENIρVARIAφ AND PROSGEGRAMMENIηTONOSηVARIAxICRONγ WITH DASIA",
   "ξ AND OXIAσVARIAιOXIAιPSILIξ AND OXIAσVARIAιTONOSιVARIAvPAMPHYLIAN DIGAMMAwHIwIwSIvRHO",
   "y WITH DASIAvSANwHOwIGMAvTAUwHETAvUPSILONγ WITH DASIAξ AND OXIAσPERISPOMENIσVARIAκIALYTIKA",
   "ιMACRONιOXIAιTONOSιVARIAκRACHYvXIvYOTvZETApUNATE SIGMA SYMBOL",
   "oREVERSED DOTTED LUNATE SIGMA SYMBOLxLUNATE SIGMA SYMBOLoTHETA SYMBOLgDASIAl AND OXIA",
   "qPERISPOMENIqVARIAhIALYTIKA AND OXIAuPERISPOMENIuVARIAqTONOShRACHMA SIGNgFIVE OBOLS SIGN",
   "hOUR OBOLS SIGNgGRAMMA SIGNgINDICTION SIGNiSTRUMENTAL NOTATION SYMBOL-1λ1λ2λ3λ4λ7λ8λ9κ2λ3λ4λ5",
   "λ6λ7λ9κ30λ2λ6λ7λ8λ9κ4λ0λ2λ3λ5λ7λ8λ9κ5λ0λ1λ2λ3λ4κ7κ8gKAI SYMBOLiPPA SYMBOLhORONIS",
   "hYATHOS BASE SIGNgLETTER ARCHAIC KOPPAnDIGAMMAnKOPPAnSAMPIoMALL CAPITAL GAMMAβLAMDAβOMEGAβPI",
   "γSIβRHOoTIGMAnYOThITRA SIGNhOWER NUMERAL SIGNhUNATE EPSILON SYMBOLnSIGMA SYMBOLgMETRETES SIGN",
   "hUSICAL LEIMMAgNUMERAL SIGNgOBOL SIGNhNE HALF SIGNt ALTERNATE FORMkQUARTER SIGNhUNKIA SIGNhXIA",
   "gPERISPOMENIhHI SYMBOLhI SYMBOLhROSGEGRAMMENIhSILIl AND OXIAqPERISPOMENIqVARIAgQUESTION MARK",
   "gREVERSED LUNATE EPSILON SYMBOLhHO SYMBOLkWITH STROKE SYMBOLgSINUSOID SIGN",
   "hMALL DOTTED LUNATE SIGMA SYMBOLmLETTER ALPHAy WITH DASIAκ AND OXIAσ AND YPOGEGRAMMENI",
   "οPERISPOMENIωI AND YPOGEGRAMMENIοVARIAτ AND YPOGEGRAMMENIοYPOGEGRAMMENIεMACRONεOXIA",
   "ι AND YPOGEGRAMMENIεPERISPOMENIπ AND YPOGEGRAMMENIζSILIκ AND OXIAσ AND YPOGEGRAMMENI",
   "οPERISPOMENIωI AND YPOGEGRAMMENIοVARIAτ AND YPOGEGRAMMENIοYPOGEGRAMMENIεTONOSεVARIA",
   "κ AND YPOGEGRAMMENIζRACHYεYPOGEGRAMMENIuRCHAIC KOPPAβSAMPItBETAtCHItDELTAuIGAMMAtEPSILON",
   "α WITH DASIAμ AND OXIAρVARIAηOXIAηPSILIμ AND OXIAρVARIAηTONOSηVARIAuTAw WITH DASIAθ AND OXIA",
   "ρ AND YPOGEGRAMMENIνPERISPOMENIψ AND YPOGEGRAMMENIνVARIAς AND YPOGEGRAMMENIνYPOGEGRAMMENIγOXIA",
   "η AND YPOGEGRAMMENIγPERISPOMENIξ AND YPOGEGRAMMENIδSILIθ AND OXIAρ AND YPOGEGRAMMENI",
   "νPERISPOMENIψ AND YPOGEGRAMMENIνVARIAς AND YPOGEGRAMMENIνYPOGEGRAMMENIγTONOSγVARIA",
   "θ AND YPOGEGRAMMENIγYPOGEGRAMMENItFINAL SIGMAtGAMMAtHETAtIOTAx WITH DASIAι AND OXIA",
   "ξPERISPOMENIξVARIAεIALYTIKAν AND OXIAςPERISPOMENIςTONOSςVARIAδMACRONδOXIAδPERISPOMENIεSILI",
   "ι AND OXIAξPERISPOMENIξVARIAδTONOSδVARIAεRACHYtKAPPAuOPPAtLAMDAtMUtNUtOMEGAy WITH DASIA",
   "κ AND OXIAσ AND YPOGEGRAMMENIοPERISPOMENIωI AND YPOGEGRAMMENIοVARIAτ AND YPOGEGRAMMENI",
   "οYPOGEGRAMMENIεOXIAι AND YPOGEGRAMMENIεPERISPOMENIπ AND YPOGEGRAMMENIζSILIκ AND OXIA",
   "σ AND YPOGEGRAMMENIοPERISPOMENIωI AND YPOGEGRAMMENIοVARIAτ AND YPOGEGRAMMENIοYPOGEGRAMMENI",
   "εTONOSεVARIAκ AND YPOGEGRAMMENIεYPOGEGRAMMENIvICRONα WITH DASIAμ AND OXIAρVARIAηOXIAηPSILI",
   "μ AND OXIAρVARIAηTONOSηVARIAtPAMPHYLIAN DIGAMMAuHIuIuSItRHOw WITH DASIAγPSILItSAMPIvNuHOuIGMA",
   "uTIGMAtTAUuHETAtUPSILONα WITH DASIAμ AND OXIAρPERISPOMENIρVARIAθIALYTIKAπ AND OXIAυPERISPOMENI",
   "υTONOSυVARIAηMACRONηOXIAηPERISPOMENIθSILIμ AND OXIAρPERISPOMENIρVARIAηTONOSηVARIAθRACHYtXI",
   "tZETAmREVERSED DOTTED LUNATE SIGMA SYMBOLvLUNATE SIGMA SYMBOLhUBSCRIPT SMALL LETTER BETAδCHI",
   "δGAMMAδPHIδRHOhYMBOL TAU RHOgTALENT SIGNhHETA SYMBOLiREE OBOLS SIGNmQUARTERS SIGNhONOS",
   "hRYBLION BASE SIGNhWO OBOLS SIGNkTHIRDS SIGNgUPSILON WITH ACUTE AND HOOK SYMBOL",
   "tDIAERESIS AND HOOK SYMBOLtHOOK SYMBOLgVARIAhOCAL NOTATION SYMBOL-1δ0δ1δ2δ3δ4δ5δ6δ7δ8δ9γ2δ0δ1",
   "δ2δ3δ4γ3γ4γ5δ0δ1δ2δ3δ4γ6γ7γ8γ9gXESTES SIGNgYEAR SIGNhPOGEGRAMMENIgZERO SIGNeN APPLEgBOOKgHEART",
   "gSALADcIMACING FACEdNNING CAT FACE WITH SMILING EYESjFACEn WITH ONE LARGE AND ONE SMALL EYE",
   "tSMILING EYESuTAR EYEScOUP MARKgSEPARATORdWING HEARTbSbUARANI SIGNeDSMANcIDE DOGdTAR",
   "cJARATI ABBREVIATION SIGNjDIGIT EIGHTpFIVEqOURpNINEpONEpSEVENqIXpTHREEqWOpZEROjLETTER ArArIrU",
   "qBArHAqCArHAqDArDAsHArHAqEqGArHAqHAqIrIqJArHAqKArHAqLArLAqMAqNArGArNArYAqOqPArHAqRAqSArHArSA",
   "qTArHArTAsHAqUrUqVArOCALIC LzLyRzRqYAqZHAjOMjRUPEE SIGNjSIGN ANUSVARApVAGRAHAoCANDRABINDU",
   "pIRCLE NUKTA ABOVEoMADDAHoNUKTAoSHADDApUKUNoTHREE-DOT NUKTA ABOVEpWO-CIRCLE NUKTA ABOVEoVIRAMA",
   "qSARGAjVOWEL CANDRA EwOpSIGN AAvIvUuCANDRA EβOuEuIvIuOuUvUuVOCALIC LδLγRδR",
   "cNJALA GONDI DIGIT EIGHTuFIVEvOURuNINEuONEuSEVENvIXuTHREEvWOuZEROoLETTER AwAwIwUvBAwHAvCAwHA",
   "vDAwDAxHAwHAvEEvGAwHAvHAvIwIvJAwHAvKAwHAvLAwLAvMAvNAwGAvOOvPAwHAvRAvSAvTAwHAwTAxHAvUwUvVAvYA",
   "oOMoSIGN ANUSVARAtVISARGAoVIRAMApOWEL SIGN AAαIαUzEEzIαIzOOzUαUcRMUKHI ABBREVIATION SIGNkDDAK",
   "jDIGIT EIGHTpFIVEqOURpNINEpONEpSEVENqIXpTHREEqWOpZEROjEK ONKARjIRIjLETTER ArArIrUqBArHAqCArHA",
   "qDArDAsHArHAqEEqFAqGArHAsHAqHAqIrIqJArHAqKArHAsHAqLArLAqMAqNArGArNArYAqOOqPArHAqRArRAqSArHAqTA",
   "rHArTAsHAqUrUqVAqYAqZAjSIGN ADAK BINDIoBINDIoNUKTAoUDAAToVIRAMAqSARGAoYAKASHjTIPPIjURA",
   "jVOWEL SIGN AAvIvUuEEuIvIuOOuUvUaHADEScIR SPACEeCUTcLFWIDTH BLACK SQUAREkDOWNWARDS ARROW",
   "kFORMS LIGHT VERTICALkHANGUL FILLERrLETTER AzEyCHIEUCHzIEUCyEzOzUyHIEUHyIzEUNGyKHIEUKHzIYEOK",
   "ε-SIOSyMIEUMyNIEUNδ-CIEUCεHIEUHyOzEyPHIEUPHzIEUPδ-SIOSyRIEULδ-HIEUHεKIYEOKεMIEUMεPHIEUPHζIEUP",
   "εSIOSεTHIEUTHySIOSzSANGCIEUCδKIYEOKδPIEUPδSIOSδTIKEUTyTHIEUTHzIKEUTyUyWAαEzEαOzIyYAαEzEαOzIzO",
   "zUkIDEOGRAPHIC COMMAwFULL STOPkKATAKANA LETTER AαEαHAβEβIβOβUαIαKAβEβIβOβUαMAβEβIβOβUαNβAβEβI",
   "βOβUαOαRAβEβIβOβUαSAβEβIβMALL AηEηIηOηTUηUηYAθOθUβOβUαTAβEβIβOβUαUαWAβOαYAβOβUtMIDDLE DOT",
   "tSEMI-VOICED SOUND MARKtVOICED SOUND MARKs-HIRAGANA PROLONGED SOUND MARKkLEFT CORNER BRACKET",
   "oWARDS ARROWkRIGHT CORNER BRACKETpWARDS ARROWkUPWARDS ARROWkWHITE CIRCLEcMBURGERdMERg AND PICK",
   "lSICKLElWRENCHdSAeTER FACEcND WITH INDEX AND MIDDLE FINGERS CROSSEDqFINGER AND THUMB CROSSED",
   "eBAGgLLeSHAKEdGUL CHOSEONG CEONGCHIEUMCHIEUCHγIEUCβSIOSγSANGCIEUCηSIOSrHIEUCHx-HIEUHyKHIEUKH",
   "tTUEUMCHIEUCHzIEUCySIOSzSANGCIEUCδSIOSrIEUCv-IEUNGqFILLERqHIEUHv-SIOSqIEUNGv-CHIEUCHxIEUC",
   "wHIEUHwKIYEOKwMIEUMwPANSIOSxHIEUPHxIEUPwRIEULwSIOSwTHIEUTHxIKEUTqKAPYEOUNMIEUMyPHIEUPHzIEUP",
   "yRIEULySSANGPIEUPrHIEUKHrIYEOKw-TIKEUTqMIEUMv-KIYEOKwPIEUPwSIOSwTIKEUTqNIEUNv-CIEUCwHIEUH",
   "wKIYEOKwPIEUPwSIOSwTIKEUTqPANSIOSrHIEUPHx-HIEUHyPIEUPrIEUPv-CHIEUCHxIEUCwHIEUHwKHIEUKHxIYEOK",
   "wNIEUNwPHIEUPHwSIOSα-CIEUCβKIYEOKβPIEUPβTHIEUTHγIKEUTxSANGSIOSwTHIEUTHxIKEUTqRIEULv-CIEUC",
   "wHIEUHwKAPYEOUNPIEUPxHIEUKHxIYEOKwMIEUMwNIEUNwPIEUPwSIOSxSANGKIYEOKβPIEUPβTIKEUTwTIKEUTqSIOS",
   "u-CHIEUCHwIEUCvHIEUHvIEUNGvKHIEUKHwIYEOKvMIEUMvNIEUNvPHIEUPHwIEUPα-KIYEOKvRIEULvSSANGSIOS",
   "vTHIEUTHwIKEUTrSANGCIEUCα-HIEUHvHIEUHvIEUNGvKIYEOKvNIEUNvPIEUPvRIEULvSIOSz-PIEUPvTHIEUTHwIKEUT",
   "vYEORINHIEUHqTHIEUTHrIKEUTw-CIEUCxKIYEOKxMIEUMxPIEUPxRIEULxSIOSqYEORINHIEUHsSIEUNG",
   "hDOUBLE DOT TONE MARKhFILLERhJONGSEONG CHIEUCHsIEUCw-PIEUPxSSANGPIEUPrHIEUHw-MIEUMxNIEUNxPIEUP",
   "xRIEULrIEUNGw-KHIEUKHyIYEOKxSSANGKIYEOKrKAPYEOUNMIEUMzPHIEUPHαIEUPzRIEULsHIEUKHsIYEOKx-CHIEUCH",
   "yHIEUHyKHIEUKHyNIEUNyPIEUPyRIEULySIOSγ-KIYEOKrMIEUMw-CHIEUCHyIEUCxHIEUHxKIYEOKxNIEUNxPANSIOS",
   "yIEUPγ-SIOSxRIEULxSIOSySANGNIEUNγSIOSrNIEUNw-CHIEUCHyIEUCxHIEUHxKIYEOKxPANSIOSxRIEULxSIOS",
   "xTHIEUTHyIKEUTrPANSIOSy-KAPYEOUNPIEUPzPIEUPsHIEUPHy-PIEUPzSIOSzTHIEUTHsIEUPw-CHIEUCHyIEUC",
   "xHIEUHxMIEUMxPHIEUPHxRIEULγ-PHIEUPHxSIOSβ-TIKEUTxTIKEUTrRIEULw-HIEUHxKAPYEOUNPIEUPyHIEUKH",
   "yIYEOKδ-HIEUHεSIOSxMIEUMγ-HIEUHδKIYEOKδSIOSxNIEUNxPANSIOSyHIEUPHyIEUPγ-HIEUHδPHIEUPHδSIOS",
   "δTIKEUTxSIOSySANGKIYEOKγSIOSxTHIEUTHyIKEUTδ-HIEUHxYEORINHIEUHι-HIEUHzSIEUNGrSIOSv-CHIEUCHxIEUC",
   "wHIEUHwKAPYEOUNPIEUPxIYEOKwMIEUMwPANSIOSxIEUPwRIEULwTHIEUTHxIKEUTsSANGCIEUCwIEUNGwKIYEOKwMIEUM",
   "wNIEUNwPIEUPwRIEULβ-KHIEUKHwSIOSα-KIYEOKβTIKEUTwTIKEUTγ-PIEUPwYESIEUNGrTHIEUTHsIKEUTx-CHIEUCH",
   "zIEUCyKIYEOKyPIEUPyRIEULySIOSγ-KIYEOKyTHIEUTHrYEORINHIEUHtSIEUNGz-HIEUHαKHIEUKHβIYEOKαMIEUM",
   "αPANSIOSαSIOSβSANGKIYEOKiUNGSEONG As-EUtOtUsEsRAEAw-AxEyOxIxUrEsOt-EUuOuUsUt-AuEvOvUuOuU",
   "rFILLERrIs-AuRAEAtEUtItOu-ItUtYAv-OvEuEvOuOuUrOs-EuOtOu-ItUtYAvEuEvOsErSSANGARAEArUs-AuEtEO-EU",
   "tI-ItUtYEvOrWAtEsEtOsIrYAt-OuUuYOtEsEtOu-OvUvYAsIt-UsOt-AvEuEOuIuOuYAwEvEOsUt-AvEuEvOuIuOuUuYE",
   "wOhLETTER ApEpRAEAtEoCHIEUCHpIEUCoEpOpUoHIEUHoIpEUNGoKAPYEOUNMIEUMwPHIEUPHxIEUPwSSANGPIEUP",
   "pHIEUKHpIYEOKu-SIOSoMIEUMt-PANSIOSvIEUPuSIOSoNIEUNt-CIEUCuHIEUHuPANSIOSuSIOSuTIKEUToOpE",
   "oPANSIOSpHIEUPHpIEUPt-CIEUCuKIYEOKuSIOSy-KIYEOKzTIKEUTuTHIEUTHvIKEUToRIEULt-HIEUHuKIYEOKα-SIOS",
   "uMIEUMuPANSIOSvHIEUPHvIEUPz-SIOSuSIOSuTHIEUTHvIKEUTuYEORINHIEUHoSIOSs-CIEUCtKIYEOKtNIEUNtPIEUP",
   "tTIKEUTpSANGCIEUCtHIEUHtIEUNGtKIYEOKtNIEUNtPIEUPtSIOStTIKEUToTHIEUTHpIKEUToUoWAqEpEqOpIoYAqEpE",
   "qOrRINHIEUHqSIEUNGw-PANSIOSxSIOSpIpOq-IrYAtEpUq-IrYEtOhSINGLE DOT TONE MARKeZHOU NUMERAL EIGHT",
   "rFIVEsOURrNINErONErSEVENsIXrTENsHIRTYtREEsWENTYtOdIFI ROHINGYA DIGIT EIGHTwFIVExOURwNINEwONE",
   "wSEVENxIXwTHREExWOwZEROqLETTER AxBAxCAxDAyDAxFAxGAxHAxJAxKAyHAyINNA WAδYAxLAxMAxNAyGAyYAxPAxRA",
   "yRAxSAyHAxTAyTAxVAxWAxYAxZAqMARK NA KHONNAvSAKINqSIGN HARBAHAYvTAHALAxNAxSSIqVOWEL AwEwIwOwU",
   "dUNOO LETTER ApBApDApGApHApIpKApLApMApNAqGApPApRApSApTApUpWApYAiSIGN PAMUDPODiVOWEL SIGN ItU",
   "cPPY PERSON RAISING ONE HANDcRD DISKcTCHING CHICKdRAN LETTER ALEPHpYNoBETHoDALETH-RESHoGIMEL",
   "oHEqTHoKAPHoLAMEDHoMEMoNUNoPEoQOPHoSADHEqMEKHpHINoTAWpETHoWAWoYODHoZAYNhNUMBER FIVEoONE",
   "r HUNDREDoTENpWENTYbEADPHONEeSTONEj GRAVEYARD SYMBOLdR-NO-EVIL MONKEYeT DECORATIONgHANDS",
   "gWITH ARROWlRIBBONlTIP ON THE LEFTdVY AMPERSAND ORNAMENThRROW SHAFT WIDTH ONEβ HALFγTHIRD",
   "yTWO THIRDShSTERISKgBALLOT XhLACK CURVED DOWNWARDS AND RIGHTWARDS ARROW",
   "tUPWARDS AND RIGHTWARDS ARROWmHEARTl-FEATHERED NORTH EAST ARROWwRIGHTWARDS ARROW",
   "wSOUTH EAST ARROWgCHECK MARKjVRON SNOWFLAKEhIRCLEm WITH CIRCLE INSIDE",
   "sSTROKE AND TWO DOTS ABOVEmD SALTIREhONCAVE-POINTED BLACK RIGHTWARDS ARROW",
   "gDASHED TRIANGLE-HEADED RIGHTWARDS ARROWhIVISION SIGNhOLLAR SIGN",
   "iUBLE COMMA QUOTATION MARK ORNAMENTnTURNED COMMA QUOTATION MARK ORNAMENT",
   "iWNWARDS ARROW WITH EQUILATERAL ARROWHEADβLARGE EQUILATERAL ARROWHEADgEIGHT POINTED BLACK STAR",
   "uPINWHEEL STARuRECTILINEAR BLACK STARmSPOKED ASTERISKmTEARDROP-SPOKED PROPELLER ASTERISK",
   "hQUALS SIGNhXCLAMATION MARK ORNAMENTxSYMBOLgFIVE POINTED BLACK STARlSPOKED ASTERISK",
   "hOUR BALLOON-SPOKED ASTERISKgGREEK CROSSgHEART EXCLAMATION MARK ORNAMENThORIZONTAL FILL",
   "gINTERROBANG ORNAMENTgLARGE CIRCLEiTIN CROSShEFT-POINTING ANGLE BRACKET ORNAMENT",
   "αQUOTATION MARK ORNAMENTkWARDS ARROW WITH EQUILATERAL ARROWHEADβLARGE EQUILATERAL ARROWHEAD",
   "hIGATURE OPEN ET ORNAMENThOW DOUBLE COMMA QUOTATION MARK ORNAMENT",
   "kSINGLE COMMA QUOTATION MARK ORNAMENTjER RIGHT-SHADOWED WHITE RIGHTWARDS ARROWgMINUS SIGN",
   "hULTIPLICATION XgNORTH EAST ARROWrPOINTING BUDαVINE LEAFmWEST POINTING BUDαVINE LEAF",
   "gOPEN CENTRE CROSShUTLINED BLACK STARhVAL WITH OVAL INSIDEgPLUS SIGN",
   "gRIGHT-POINTING ANGLE BRACKET ORNAMENTβQUOTATION MARK ORNAMENTlWARDS ARROW",
   "w WITH EQUILATERAL ARROWHEADγLARGE EQUILATERAL ARROWHEADhOUND-TIPPED RIGHTWARDS ARROWgSALTIRE",
   "iNS-SERIF INTERROBANG ORNAMENThCRIPT LIGATURE ET ORNAMENThINGLE COMMA QUOTATION MARK ORNAMENT",
   "nTURNED COMMA QUOTATION MARK ORNAMENTiX POINTED BLACK STARkSPOKED ASTERISKhOUTH EAST ARROW",
   "rPOINTING BUDαVINE LEAFmWEST POINTING BUDαVINE LEAFhPARKLEgTEARDROP-SHANKED RIGHTWARDS ARROW",
   "qPOKED ASTERISKwPINWHEEL ASTERISKhRIANGLE-HEADED RIGHTWARDS ARROWhWELVE POINTED BLACK STAR",
   "vPINWHEEL STARgUPPER RIGHT-SHADOWED WHITE RIGHTWARDS ARROW",
   "iWARDS ARROW WITH EQUILATERAL ARROWHEADzLARGE EQUILATERAL ARROWHEADgVERTICAL BAR",
   "gWEDGE-TAILED RIGHTWARDS ARROWhHITE CIRCLEmDOWN-POINTING TRIANGLEmSQUARE",
   "hIDE-HEADED RIGHTWARDS ARROWcBREW ACCENT ATNAH HAFUKHoDARGApEHIoETNAHTAoGERESHu MUQDAMrSHAYIM",
   "oILUYoMAHAPAKHpERKHAu KEFULApUNAHoOLEoPASHTAqZERoQADMAqRNEY PARAoREVIAoSEGOLpHALSHELET",
   "oTELISHA GEDOLAwQETANAqVIRpIPEHAoYERAH BEN YOMOqTIVoZAQEF GADOLuQATANqRQApINORhLETTER ALEF",
   "s WITH MAPIQyPATAHyQAMATSqTERNATIVE AYINαPLUS SIGNpYINoBETr WITH DAGESHxRAFEoDALET",
   "t WITH DAGESHoFINAL KAFx WITH DAGESHuMEMuNUNuPEw WITH DAGESHuTSADIoGIMELt WITH DAGESHoHE",
   "q WITH MAPIQqToKAFr WITH DAGESHxRAFEoLAMEDt WITH DAGESHoMEMr WITH DAGESHoNUNr WITH DAGESHoPE",
   "q WITH DAGESHwRAFEoQOFr WITH DAGESHoRESHs WITH DAGESHoSAMEKHu WITH DAGESHpHINs WITH DAGESH",
   "ε AND SHIN DOTλIN DOTySHIN DOTzIN DOToTAVr WITH DAGESHpETr WITH DAGESHpSADIt WITH DAGESHoVAV",
   "r WITH DAGESHxHOLAMoWIDE ALEFtDALETtFINAL MEMtHEtKAFtLAMEDtRESHtTAVoYODr WITH DAGESHxHIRIQ",
   "oZAYINt WITH DAGESHiIGATURE ALEF LAMEDqYIDDISH DOUBLE VAVζYODyVAV YODyYOD YOD PATAH",
   "hMARK LOWER DOTmMASORA CIRCLEmUPPER DOThPOINT DAGESH OR MAPIQnHATAF PATAHtQAMATStSEGOLoIRIQ",
   "oOLAMs HASER FOR VAVnJUDEO-SPANISH VARIKAnMETEGnPATAHnQAMATSt QATANoUBUTSnRAFEnSEGOLoHEVA",
   "pIN DOToIN DOTnTSEREiUNCTUATION GERESHwSHAYIMtMAQAFtNUN HAFUKHAtPASEQtSOF PASUQhYOD TRIANGLE",
   "cDGEHOGcLICOPTERdLSCHREIBER PAUSE SYMBOLdM SYMBOLeET WITH WHITE CROSScNTAIGANA LETTER A-1u2u3",
   "uWOsE-1u2u3u4u5u6sHA-1w0w1v2v3v4v5v6v7v8v9tE-1v2v3v4v5v6v7tI-1v2v3v4v5v6v7tO-1v2v3v4v5v6v7v8",
   "tU-1v2v3sI-1u2u3u4sKA-1w0w1v2v3v4v5v6v7v8v9vKEtE-1v2v3v4v5v6tI-1v2v3v4v5v6v7v8tO-1v2v3vKItU-1",
   "v2v3v4v5v6v7sMA-1v2v3v4v5v6v7tE-1v2vMAtI-1v2v3v4v5v6v7tO-1v2v3v4v5v6tU-1v2v3v4sN-MU-MO-1α2tA-1",
   "v2v3v4v5v6v7v8v9tE-1v2v3v4v5v6vKOtI-1v2v3v4v5v6v7vTEtO-1v2v3v4v5tU-1v2v3sO-1u2u3sRA-1v2v3v4",
   "tE-1v2v3v4tI-1v2v3v4v5v6v7tO-1v2v3v4v5v6tU-1v2v3v4v5v6sSA-1v2v3v4v5v6v7v8tE-1v2v3v4v5tI-1v2v3",
   "v4v5v6tO-1v2v3v4v5v6v7tU-1v2v3v4v5v6v7v8sTA-1v2v3v4tE-1v2v3v4v5v6v7v8v9tI-1v2v3v4v5v6v7tO-1v2",
   "v3v4v5v6vRAtU-1v2v3v4vTOsU-1u2u3u4u5sWA-1v2v3v4v5tE-1v2v3v4tI-1v2v3v4v5tO-1v2v3v4v5v6v7sYA-1v2",
   "v3v4v5vYOtO-1v2v3v4v5v6tU-1v2v3v4cRBdMITIAN CONJUGATE MATRIXcXAGRAM FOR ABUNDANCE",
   "oFTER COMPLETIONoPPROACHnBEFORE COMPLETIONoITING THROUGHoREAKTHROUGHnCOMING TO MEETpNFLICT",
   "qTEMPLATIONnDARKENING OF THE LIGHToECREASEpLIVERANCEpVELOPMENToIFFICULTY AT THE BEGINNING",
   "pSPERSIONoURATIONnENTHUSIASMnFELLOWSHIPoOLLOWINGnGATHERING TOGETHERoRACEpEAT POSSESSIONvWER",
   "uREPONDERANCEtTAMINGnHOLDING TOGETHERnINCREASEpFLUENCEpNER TRUTHqOCENCEnLIMITATIONnMODESTY",
   "pUTH CORNERSnOBSTRUCTIONoPPOSITIONqRESSIONnPEACEoROGRESSoUSHING UPWARDnRETREATqURNpVOLUTION",
   "nSMALL PREPONDERANCEtTAMINGoPLITTING APARToTANDSTILLnTHE ABYSMAL WATERsRMYtOUSING THUNDER",
   "rCAULDRONsLINGING FIREsREATIVE HEAVENrFAMILYrGENTLE WINDrJOYOUS LAKErKEEPING STILL MOUNTAIN",
   "rMARRYING MAIDENrRECEPTIVE EARTHrWANDERERsELLoREADINGnWAITINGoORK ON THE DECAYED",
   "nYOUTHFUL FOLLYbIBISCUScGH BRIGHTNESS SYMBOLfOCTET PRESETfVOLTAGE SIGNe-HEELED SHOE",
   "fSPEED TRAINq WITH BULLET NOSEcKING BOOTcNDU TEMPLEcPPOPOTAMUScRAGANA DIGRAPH YORI",
   "jITERATION MARKjLETTER ArRCHAIC WUyYEqBArErIrOrUqDArErIrOrUqEqGArErIrOrUqHArErIrOrUqIqKArErIrO",
   "rUqMArErIrOrUqNrArErIrOrUqOqPArErIrOrUqRArErIrOrUqSArErIrMALL AwEwIwKAxEwOwTUwUwWAxExIxOwYAxO",
   "xUrOrUqTArErIrOrUqUqVUqWArErIrOqYArOrUqZArErIrOrUjVOICED ITERATION MARKcSTORIC SITEbOCHOcLE",
   "dLOW QUILT SQUARE ORNAMENTγ IN BLACK SQUAREcMOTHETICcNEY POTfBEEcOKcPcRIZONTAL BAR",
   "mLACK HEXAGONrOCTAGONlELLIPSISlLINE EXTENSIONlMALE WITH STROKE SIGNlONE EIGHTH BLOCK-1358γ2γ3",
   "γ4γ5γ6γ7lSCAN LINE-1v3v7v9lTAB KEYoULATIONv SETwWITH JUSTIFICATIONmRAFFIC LIGHTdSEf FACE",
   "gRACINGcSPITALcT BEVERAGEeDOGePEPPEReSPRINGSdELcURGLASSj WITH FLOWING SANDdSEf BUILDINGoS",
   "gWITH GARDENbRYVNIA SIGNbTcJcSbUGGING FACEcNDRED POINTS SYMBOLcSHED FACEcTbYGIEAcPHENg BULLET",
   "hWITH DIAERESISg-MINUSgATION POINTdODIASTOLEcSTERESIS SYMBOLaI LOVE YOU HAND SIGNbCE CREAMfUBE",
   "eHOCKEY STICK AND PUCKeSKATEbDENTICAL TOm AND SLANTED PARALLELkWITH DOT ABOVEgFICATION CARD",
   "dOGRAPHIC ANNOTATION BOTTOM MARKxEARTH MARKxFIRST MARKyOUR MARKβTH MARKxHEAVEN MARK",
   "xLINKING MARKxMAN MARKyIDDLE MARKxONE MARKxREVERSE MARKxSECOND MARKxTHIRD MARKzREE MARK",
   "yOP MARKyWO MARKmCLOSING MARKnOMMAmDEPARTING TONE MARKoSCRIPTION CHARACTER ABOVE TO BELOW",
   "ςMIDDLE AND BELOWιFULL SURROUNDιLEFT TO MIDDLE AND RIGHTρRIGHTιOVERLAIDιSURROUND FROM ABOVE",
   "χBELOWχLEFTψOWER LEFTχUPPER LEFTωPER RIGHTmENTERING TONE MARKmFULL STOPmHALF FILL SPACE",
   "mITERATION MARKmLEVEL TONE MARKmNUMBER ZEROmRISING TONE MARKmSPACEmTALLY MARK FIVEyOURxONE",
   "xTHREEyWOnELEGRAPH LINE FEED SEPARATOR SYMBOLwSYMBOL FOR APRILιUGUSTθDAY EIGHTρEENνLEVEN",
   "μFIFTEENξVEνOURπTEENμNINEπTEENμONEμSEVENρTEENνIXοTEENμTENνHIRTEENρYς-ONEξREEνWELVEοNTYς-EIGHT",
   "σFIVEτOURσNINEσONEσSEVENτIXσTHREEτWOξOιECEMBERθFEBRUARYθHOUR EIGHTςEENξLEVENνFIFTEENοVEξOUR",
   "ρTEENνNINEρTEENνONEνSEVENςTEENξIXπTEENνTENξHIRTEENοREEξWELVEπNTYσ-FOURτONEτTHREEυWOοOνZERO",
   "θJANUARYιULYκNEθMARCHκYθNOVEMBERθOCTOBERθSEPTEMBERmVARIATION INDICATORbMAGE OF",
   "i OR APPROXIMATELY EQUAL TOcPdERIAL ARAMAIC LETTER ALEPHzYINyBETHyDALETHyGIMELyHEαTHyKAPH",
   "yLAMEDHyMEMyNUNyPEyQOPHyRESHySADHEαMEKHzHINyTAWzETHyWAWyYODHyZAYINrNUMBER ONEβ HUNDRED",
   "γTHOUSANDyTENβ THOUSANDzHREEzWENTYαOrSECTION SIGNbNBOX TRAYcCOMING ENVELOPEfPLETE INFINITY",
   "dREASE FONT SIZE SYMBOLiS ASfMENTcDdEXf POINTING AT THE VIEWERdIAN RUPEE SIGN",
   "eC SIYAQ ALTERNATE LAKH MARKmFRACTION ONE HALFzQUARTERvTHREE QUARTERSmLAKH MARK",
   "mNUMBER ALTERNATE ONEδTEN THOUSANDεWOtEIGHTy HUNDREDzTHOUSANDyYz THOUSANDtFIFTYy THOUSANDvVE",
   "x HUNDREDyTHOUSANDuORTYy THOUSANDvURx HUNDREDyTHOUSANDtKARORyANtLAKHxANtNINEx HUNDREDyTHOUSAND",
   "xTYz THOUSANDtONEw HUNDREDxTHOUSANDtPREFIXED EIGHTγFIVEδOURγNINEγONEγSEVENδIXγTHREEδWOtSEVEN",
   "y HUNDREDzTHOUSANDyTYα THOUSANDuIXw HUNDREDxTHOUSANDwTYy THOUSANDtTENw THOUSANDuHIRTY",
   "z THOUSANDvREEy HUNDREDzTHOUSANDuWENTYz THOUSANDvOw HUNDREDxTHOUSANDmPLACEHOLDERmRUPEE MARK",
   "cFINITYi NEGATED WITH VERTICAL BARdORMATION DESK PERSONmSEPARATOR FOURwONEwTHREExWOnOURCE",
   "cHIBIT ARABIC FORM SHAPINGiSYMMETRIC SWAPPINGcPUT SYMBOL FOR LATIN CAPITAL LETTERSxLETTERS",
   "xSMALL LETTERSrNUMBERSrSYMBOLScSCRIPTIONAL PAHLAVI LETTER ALEPHδBETHδDALETHδGIMELδHEζTHδKAPH",
   "δLAMEDHδMEM-QOPHδNUNδPEδSADHEζMEKHεHINδTAWεETHδWAW-AYIN-RESHδYODHδZAYINwNUMBER FOURδONE",
   "η HUNDREDθTHOUSANDδTENεHREEεWENTYζOqRTHIAN LETTER ALEPHζYINεBETHεDALETHεGIMELεHEηTHεKAPH",
   "εLAMEDHεMEMεNUNεPEεQOPHεRESHεSADHEηMEKHζHINεTAWζETHεWAWεYODHεZAYINxNUMBER FOURεONEθ HUNDRED",
   "ιTHOUSANDεTENζHREEζWENTYηOdERTION SYMBOLcTEGRALi AROUND A POINT OPERATORkVERAGE WITH SLASH",
   "jEXTENSIONjWITH DOUBLE STROKEoINTERSECTIONoLEFTWARDS ARROW WITH HOOKoOVERBARoTIMES SIGN",
   "oUNDERBARqIONeRCALATEfIOR PRODUCTfLINEAR ANNOTATION ANCHORxSEPARATORxTERMINATOR",
   "gOCKED FEMALE AND MALE SIGNfROBANGfSECTIONm ABOVE BAR ABOVE UNIONtUNION",
   "nBESIDE AND JOINED WITH INTERSECTIONnWITH DOTsLOGICAL ANDsOVERBARcVERSE BULLETiCHECK MARK",
   "nER BOARD FILLiDOWNWARDS ARROW WITH TIP LEFTWARDSiMEDIUM SHADEiWHITE CIRCLE",
   "fTED EXCLAMATION MARKjINTERROBANGjLAZY SkOW KAVYKAt WITH KAVYKA ABOVEjOHM SIGNjPENTAGRAM",
   "jQUESTION MARKjUNDERTIEdISIBLE PLUSkSEPARATORkTIMESbZAKAYA LANTERNaJACK-O-LANTERN",
   "cPANESE BANK SYMBOLjCASTLEjDOLLSjGOBLINjINDUSTRIAL STANDARD SYMBOLjOGREjPOST OFFICE",
   "jSYMBOL FOR BEGINNERcRcVANESE CONSONANT SIGN CAKRAyKERETyPENGKALjDIGIT EIGHTpFIVEqOURpNINEpONE",
   "pSEVENqIXpTHREEqWOpZEROjLEFT RERENGGANlTTER ArIqBAs MURDAqCAs MURDAqDAs MAHAPRANArDA",
   "t MAHAPRANAqEqGAs MURDAqHAqIr KAWIrIqJAs MAHAPRANAqKAs MURDAtSASAKqLAqMAqNAs MURDArGAt LELET",
   "z RASWADIrYAt MURDAqOqPAs CEREKtMURDAqRAs AGUNGqSAs MAHAPRANAuURDAqTAs MURDArTAt MAHAPRANAqU",
   "qWAqYAjPADA ADEGs ADEGpNDAPoISEN-ISENoLINGSApUHURqNGSIoMADYAoPANGKATpISELEHoTIRTA TUMETES",
   "oWINDUlNGKONnRANGKEPjRIGHT RERENGGANjSIGN CECAKt TELUoLAYARoPANYANGGAoWIGNYAN",
   "jTURNED PADA PISELEHjVOWEL SIGN DIRGA MUREuPEPETuSUKUy MENDUTuTALINGwRUNGvOLONGuWULUy MELIK",
   "bEANSbIGSAW PUZZLE PIECEbOINcYSTICKbUGGLINGcNOcPITERaKAABAcITHI ABBREVIATION SIGNhDANDA",
   "iOUBLE DANDAoSECTION MARKhENUMERATION SIGNhLETTER ApApIpUoBApHAoCApHAoDApDAqDHAqHApHAoEoGApHA",
   "oHAoIpIoJApHAoKApHAoLAoMAoNApGApNApYAoOoPApHAoRApHAoSApHApSAoTApHApTAqHAoUpUoVAoYAhNUMBER SIGN",
   "s ABOVEhSECTION MARKiIGN ANUSVARAmCANDRABINDUmNUKTAmVIRAMAoSARGAhVOWEL SIGN AAtItUsEsItIsOsUtU",
   "sVOCALIC RcNGAROOeXI RADICAL AGAINqNDqRRIVEsOWqXEpBADGERrMBOOqEANqIGrRDrTTERqLACKrOODrUEqOAT",
   "rDYrLT OF CLOTHrNErWqRANCHrISTLErUSHpCARTrULDRONrVEqHILDqITYqLANsWrIFFrOTHESqOLORrMPARErRPSE",
   "rVERrWpDEATHrERqIPPERrSHsTINGUISHrVINATIONqO NOTrGrORrTsTED CLIFFwTENTrUBLE XrWN BOXqRAGONrUM",
   "rYpEARsTHrTqIGHTqMBROIDERYqNCLOSURErTERqVENtINGqYEpFACErNGrTHERqEATHERqIELDrGHTrRErSHqLUTErY",
   "qOOTqRAGRANTrOGqURpGATEqHOSTqOr SLOWLYrLDqRAINsSSpHAIRrLBERDsF TREE TRUNKrNDqEADsRTrMP",
   "qIDING ENCLOSUREqOOKrRNsSEpICEqNCHrSECTpJADErRpKNIFEpLACKrMEqEAFsTHERrEKrGSqIDrFErNEqONG",
   "t STRIDEpMANqEATrLONqILLETrNISTERqOONrRNINGsTARrUNDtTAINsTHpNETqOSErTpOLDqNEsSELFqPEN BOXrPOSE",
   "pPIGqLOWqOWERqRIVATErOFOUNDpRAINrPrTqEDqICErGHT OPEN BOXrVERqOOFqUNpSACRIFICIAL WINErLTrY",
   "qCHOLARrRIPTqEALrCONDrErLFqHEEPsLLrOOTsRT TAILED BIRDwHREADqICKNESSrLKqKINqLASHsVErICEqMALL",
   "qNOUTqOUNDqPEARsECHrIRITrOONrROUTqQUAREqTANDrEAMsPrONEsPtPINGqUNqWEETpTABLErLLrNNED LEATHERqEN",
   "qIGERrLEqONGUErOTHqRACKrEErIPODqURBANsTLEqWOs HANDSpUSEpVALLEYqILLAGEpWALKt ENCLOSURErTER",
   "qEAPONrSTqHEATrITEqINDsEqOMANrRKqRAPrONGpYELLOWdNADA AI LENGTH MARKiDIGIT EIGHToFIVEpOURoNINE",
   "oONEoSEVENpIXoTHREEpWOoZEROiLENGTH MARKkTTER AqAqIqUpBAqHApCAqHApDAqDArHAqHApEqEpFApGAqHApHApI",
   "qIpJAqHApKAqHApLAqLArLApMApNArKAARA POLLUqGAqNAqYApOqOpPAqHApRAqRApSAqHAqSApTAqHAqTArHApUqUpVA",
   "qOCALIC LyLxRyRpYAiSIGN ANUSVARAoVAGRAHAnCANDRABINDUnJIHVAMULIYAnNUKTAnSIDDHAM",
   "oPACING CANDRABINDUnUPADHMANIYAnVIRAMApSARGAiVOWEL SIGN AAuIuUtEuEtIuItOuOtUuUtVOCALIC LγLβRγR",
   "cTAKANA DIGRAPH KOTOjITERATION MARKjLETTER ArRCHAIC EyWUyYEzIqBArErIrOrUqDArErIrOrUqEqGArErIrO",
   "rUqHArErIrOrUqIqKArErIrOrUqMArErIsNNAN NASALIZED TONE-1ν2ν3ν4ν5ν7ν8xTONE-2γ3γ4γ5γ7γ8rOrUqNrArE",
   "rIrOrUqOqPArErIrOrUqRArErIrOrUqSArErIrMALL AwEwHAxExIxOxUwIwKAxExUwMUwNxUwOwRAxExIxOxUwSIxUwTO",
   "xUwUwWAxExIxOwYAxOxUrOrUqTArErIrOrUqUqVArErIrOrUqWArErIrOqYArOrUqZArErIrOrUjMIDDLE DOT",
   "jVOICED ITERATION MARKi-HIRAGANA DOUBLE HYPHENsPROLONGED SOUND MARKsSEMI-VOICED SOUND MARK",
   "sVOICED SOUND MARKcYAH LI DIGIT EIGHTpFIVEqOURpNINEpONEpSEVENqIXpTHREEqWOpZEROjLETTER AqBAqCA",
   "qDAqGAqHArTAqIqKArHAqLAqMAqNArGArYAqOErOqPArHAqRAqSArHAqTArHAqVAqWAqYAqZAjSIGN CWIoSHYA",
   "jTONE CALYAt PLOPHUoPLOPHUjVOWEL EqEpOpUqEbELVIN SIGNcYdBOARDi AND MOUSEdCAP TEN",
   "bHAROSHTHI DIGIT FOURrONErTHREEsWOlFRACTION ONE HALFlLETTER AsBAtHAsCAtHAsDAtDAuHAtHAsGAtHAsHA",
   "sJAsKAtHAtKAsLAsMAsNAtNAtYAsPAtHAsRAsSAtHAtSAsTAtHAtTAuHAuTAvHAsVAtHAsYAsZAlNUMBER ONE HUNDRED",
   "wTHOUSANDsTENtWENTYlPUNCTUATION CIRCLEyRESCENT BARxDANDAyOTzUBLE DANDAxLINESyOTUSxMANGALAM",
   "xSMALL CIRCLElSIGN ANUSVARAqBAR ABOVEqCAUDAqDOT BELOWsUBLE RING BELOWqVISARGAlVIRAMA",
   "mOWEL LENGTH MARKrSIGN EwIwOwUwVOCALIC RcITAN SMALL SCRIPT CHARACTER-18B00ι1ι2ι3ι4ι5ι6ι7ι8ι9ιA",
   "ιBιCιDιEιFθ10ι1ι2ι3ι4ι5ι6ι7ι8ι9ιAιBιCιDιEιFθ20ι1ι2ι3ι4ι5ι6ι7ι8ι9ιAιBιCιDιEιFθ30ι1ι2ι3ι4ι5ι6ι7",
   "ι8ι9ιAιBιCιDιEιFθ40ι1ι2ι3ι4ι5ι6ι7ι8ι9ιAιBιCιDιEιFθ50ι1ι2ι3ι4ι5ι6ι7ι8ι9ιAιBιCιDιEιFθ60ι1ι2ι3ι4",
   "ι5ι6ι7ι8ι9ιAιBιCιDιEιFθ70ι1ι2ι3ι4ι5ι6ι7ι8ι9ιAιBιCιDιEιFθ80ι1ι2ι3ι4ι5ι6ι7ι8ι9ιAιBιCιDιEιFθ90ι1",
   "ι2ι3ι4ι5ι6ι7ι8ι9ιAιBιCιDιEιFθA0ι1ι2ι3ι4ι5ι6ι7ι8ι9ιAιBιCιDιEιFθB0ι1ι2ι3ι4ι5ι6ι7ι8ι9ιAιBιCιDιEιF",
   "θC0ι1ι2ι3ι4ι5ι6ι7ι8ι9ιAιBιCιDιEιFθD0ι1ι2ι3ι4ι5ι6ι7ι8ι9ιAιBιCιDιEιFθE0ι1ι2ι3ι4ι5ι6ι7ι8ι9ιAιBιC",
   "ιDιEιFθF0ι1ι2ι3ι4ι5ι6ι7ι8ι9ιAιBιCιDιEιFηC00ι1ι2ι3ι4ι5ι6ι7ι8ι9ιAιBιCιDιEιFθ10ι1ι2ι3ι4ι5ι6ι7ι8ι9",
   "ιAιBιCιDιEιFθ20ι1ι2ι3ι4ι5ι6ι7ι8ι9ιAιBιCιDιEιFθ30ι1ι2ι3ι4ι5ι6ι7ι8ι9ιAιBιCιDιEιFθ40ι1ι2ι3ι4ι5ι6",
   "ι7ι8ι9ιAιBιCιDιEιFθ50ι1ι2ι3ι4ι5ι6ι7ι8ι9ιAιBιCιDιEιFθ60ι1ι2ι3ι4ι5ι6ι7ι8ι9ιAιBιCιDιEιFθ70ι1ι2ι3",
   "ι4ι5ι6ι7ι8ι9ιAιBιCιDιEιFθ80ι1ι2ι3ι4ι5ι6ι7ι8ι9ιAιBιCιDιEιFθ90ι1ι2ι3ι4ι5ι6ι7ι8ι9ιAιBιCιDιEιFθA0",
   "ι1ι2ι3ι4ι5ι6ι7ι8ι9ιAιBιCιDιEιFθB0ι1ι2ι3ι4ι5ι6ι7ι8ι9ιAιBιCιDιEιFθC0ι1ι2ι3ι4ι5ι6ι7ι8ι9ιAιBιCιDιE",
   "ιFθD0ι1ι2ι3ι4ι5uFILLERcMER CURRENCY SYMBOL RIELgDIGIT EIGHTmFIVEnOURmNINEmONEmSEVENnIXmTHREE",
   "nWOmZEROgINDEPENDENT VOWEL LYαYyQAAαIαQαUzEzIαIzOO TYPE ONEθTWOzUαKαUβVyRYαYgLETTER BAnCAoHApO",
   "oOnDAoOnHAnKAoHApOoOnLAoOnMOnNGOoNOoOoYOnPHApOoOnQAnROnSAoHAoSOnTAoHApOoOoTHAqOnVOnYO",
   "gSIGN AHSDAmTTHACANmVAKRAHASANYAlBANTOCnRIYOOSANnTHAMASATmEYYALlCAMNUC PII KUUHmOENGlKAKABAT",
   "mHANmOOMUUTlLEK TOOlMUUSIKATOANlNIKAHITlPHNAEK MUANlREAHMUKmOBATlSAMYOK SANNYAlTOANDAKHIAT",
   "mRIISAPlVIRIAMlYUUKALEAPINTUhYMBOL BEI KOETrROCoUON KOETsROCnDAP KOETrROCq-BEI KOETvROC",
   "sUON KOETwROCrMUOY KOETwROCrPII KOETvROCsRAM KOETwROCnLEK ATTAK BEIyUONxMUOYxPIIyRAMβ-BEIδUON",
   "γMUOYγPIIxSONnMUOY KOETsROCnPATHAMASAToII KOETrROCoRAM KOETsROCr-BEI KOETwROCtUON KOETxROC",
   "sMUOY KOETxROCsPII KOETwROCnTUTEYASATgVOWEL INHERENT AAwQmSIGN AAsEsIsUrErIsEsIrOEsOrUsAsUrYsA",
   "sYcOJKI ABBREVIATION SIGNhDANDAiOUBLE DANDAoSECTION MARKhLETTER ApApIpUoBApBApHAoCApHAoDApDA",
   "qDAqHApHAoEoGApGApHAoHAoIoJApJAoKApHAoLApLAoMAoNApGApNApYAoOoPApHAoRAoSAoTApHApTAqHAoUoVAoYA",
   "hSECTION MARKiIGN ANUSVARAmNUKTAmSHADDAnUKUNmVIRAMAhVOWEL SIGN AAtItUsEsItIsOsUhWORD SEPARATOR",
   "cUDAWADI DIGIT EIGHTqFIVErOURqNINEqONEqSEVENrIXqTHREErWOqZEROkLETTER AsAsIsUrBAsBAsHArCAsHArDA",
   "sDAtDAtHAsHArErGAsGAsHArHArIsIrJAsHAsJArKAsHArLArMArNAsGAsNAsYArOrPAsHArRAsRArSAsHArTAsHAsTA",
   "tHArUsUrVArYAkSIGN ANUSVARApNUKTApVIRAMAkVOWEL SIGN AAwIwUvEvIwIvOvUwUbIMONOcP SIGNcSSe MARK",
   "eING CAT FACE WITH CLOSED EYESiFACEm WITH CLOSED EYESsSMILING EYEScTEcWIFRUITbNEELING PERSON",
   "cOTbOALAcREAN STANDARD SYMBOLbRONOSaL B BAR SYMBOLbAB COATdELcCROSSE STICK AND BALLcDDER",
   "dY BEETLEcNGUAGE TAGcO CANCELLATION MARKeDIGIT EIGHTkFIVElOURkNINEkONEkSEVENlIXkTHREElWOkZERO",
   "eELLIPSISeHO MOhNOeKO LAeLETTER BOlCOlDOlFO FAYpONoSUNGoTAMlHO SUNGoTAMlKHMU GOqNYOnO SUNGpTAM",
   "mOlLOn LINGpOOTlMOlNGOmOmYOlOlPALI BHAqCHAqDDAsHArHAqGHAqJHAqLLAqNNArYAqTTAsHAmHO SUNGpTAMmO",
   "lROlSANSKRIT SHAvSAmO SUNGoTAMlTHO SUNGpTAMmOlWOlYOeNIGGAHITAeSEMIVOWEL SIGN LOtNYO",
   "fIGN PALI VIRAMAeTONE MAI CATAWAnEKnTHOoIeVOWEL SIGN AqAqIqMqYpEqIpIqIpMAI KANuONpOpUqUpYqY",
   "cRGE BLUE CIRCLElDIAMONDlSQUAREhROWN CIRCLEmSQUAREgCIRCLEgDOWN TACKgGREEN CIRCLEmSQUARE",
   "gLEFT TRIANGLE OPERATORgONE DOT OVER TWO DOTS PUNCTUATIONkRING OVER TWO RINGS PUNCTUATION",
   "hRANGE CIRCLEnDIAMONDnSQUAREgPURPLE CIRCLEnSQUAREgRED CIRCLEkSQUARE",
   "gTRIPLE VERTICAL BAR OPERATORhWO DOTS OVER ONE DOT PUNCTUATIONkRINGS OVER ONE RING PUNCTUATION",
   "gUP TACKgYELLOW CIRCLEnSQUAREfR THANl OR EQUAL TOdI SIGNcST QUARTER MOONr SYMBOLsWITH FACE",
   "cTIN CAPITAL LETTER Aw WITH ACUTEγBREVEθ AND ACUTEνDOT BELOWνGRAVEνHOOK ABOVEνTILDEγCARON",
   "δIRCUMFLEXν AND ACUTEςDOT BELOWςGRAVEςHOOK ABOVEςTILDEγDIAERESISμ AND MACRONδOT ABOVE",
   "μ AND MACRONηBELOWεUBLE GRAVEγGRAVEγHOOK ABOVEγINVERTED BREVEγMACRONγOGONEKγRING ABOVE",
   "ν AND ACUTEθBELOWγSTROKEγTILDEwAwEx WITH ACUTEδMACRONwFRICAN DwLPHAwNGLICANA WwOwUwV",
   "x WITH HORIZONTAL BARwYvBw WITH DOT ABOVEηBELOWγFLOURISHγHOOKγLINE BELOWγSTROKEγTOPBARwETA",
   "wROKEN LvCw WITH ACUTEγBARγCARONδEDILLAκ AND ACUTEδIRCUMFLEXγDOT ABOVEγHOOKγPALATAL HOOK",
   "γSTROKEwHIwLOSED INSULAR GwONwUATRILLOε WITH COMMAvDw WITH CARONδEDILLAδIRCUMFLEX BELOW",
   "γDOT ABOVEηBELOWγHOOKγLINE BELOWγSHORT STROKE OVERLAYδMALL LETTER Zρ WITH CARONδTROKEγTOPBARwZ",
   "x WITH CARONvEw WITH ACUTEγBREVEγCARONδEDILLAκ AND BREVEδIRCUMFLEXν AND ACUTEςDOT BELOWςGRAVE",
   "ςHOOK ABOVEςTILDEξBELOWγDIAERESISδOT ABOVEηBELOWεUBLE GRAVEγGRAVEγHOOK ABOVEγINVERTED BREVE",
   "γMACRONι AND ACUTEξGRAVEγOGONEKγSTROKEγTILDEθ BELOWwGYPTOLOGICAL AINλLEFwNGwSHwTxHwZH",
   "y REVERSEDzWITH CARONvFw WITH DOT ABOVEγHOOKγSTROKEvGw WITH ACUTEγBREVEγCARONδEDILLAδIRCUMFLEX",
   "γDOT ABOVEγHOOKγMACRONγOBLIQUE STROKEγSTROKEwAMMAwHAwLOTTAL AδIδSTOPδUvHw WITH BREVE BELOW",
   "γCARONδEDILLAδIRCUMFLEXγDESCENDERδIAERESISδOT ABOVEηBELOWγHOOKγSTROKEwALF HwENGwWAIRvI",
   "w WITH ACUTEγBREVEγCARONδIRCUMFLEXγDIAERESISμ AND ACUTEδOT ABOVEηBELOWεUBLE GRAVEγGRAVE",
   "γHOOK ABOVEγINVERTED BREVEγMACRONγOGONEKγSTROKEγTILDEθ BELOWwNSULAR DδFδGδRδSδTwOTAwSvJ",
   "w WITH CIRCUMFLEXδROSSED-TAILγSTROKEvKw WITH ACUTEγCARONδEDILLAγDESCENDERδIAGONAL STROKE",
   "δOT BELOWγHOOKγLINE BELOWγOBLIQUE STROKEγSTROKEι AND DIAGONAL STROKEvLw WITH ACUTEγBARδELT",
   "γCARONδEDILLAδIRCUMFLEX BELOWγDOT BELOWμ AND MACRONεUBLE BARγHIGH STROKEγLINE BELOWγMIDDLE DOT",
   "κTILDEγSMALL LETTER JδTROKEwJvMw WITH ACUTEγDOT ABOVEηBELOWγHOOKwIDDLE SCOTS Sβ-WELSH LLιVvN",
   "w WITH ACUTEγCARONδEDILLAδIRCUMFLEX BELOWγDESCENDERδOT ABOVEηBELOWγGRAVEγLEFT HOOKδINE BELOW",
   "δONG RIGHT LEGγOBLIQUE STROKEγSMALL LETTER JγTILDEwJvOw WITH ACUTEγBREVEγCARONδIRCUMFLEX",
   "ν AND ACUTEςDOT BELOWςGRAVEςHOOK ABOVEςTILDEγDIAERESISμ AND MACRONδOT ABOVEμ AND MACRONηBELOW",
   "εUBLE ACUTEκGRAVEγGRAVEγHOOK ABOVEεRNη AND ACUTEμDOT BELOWμGRAVEμHOOK ABOVEμTILDE",
   "γINVERTED BREVEγLONG STROKE OVERLAYεOPγMACRONι AND ACUTEξGRAVEδIDDLE TILDEγOGONEKι AND MACRON",
   "γSTROKEι AND ACUTEγTILDEθ AND ACUTEνDIAERESISνMACRONwIwLD POLISH OwMEGAwOwPEN EαOwUvP",
   "w WITH ACUTEγDOT ABOVEγFLOURISHγHOOKγSQUIRREL TAILδTROKEι THROUGH DESCENDERvQ",
   "w WITH DIAGONAL STROKEγSTROKE THROUGH DESCENDERvRw ROTUNDAxWITH ACUTEγCARONδEDILLAγDOT ABOVE",
   "ηBELOWμ AND MACRONεUBLE GRAVEγINVERTED BREVEγLINE BELOWγOBLIQUE STROKEγSTROKEγTAIL",
   "wEVERSED C WITH DOTεEεHALF HεOPEN EwUM ROTUNDAvSw WITH ACUTEθ AND DOT ABOVEγCARON",
   "θ AND DOT ABOVEδEDILLAδIRCUMFLEXδOMMA BELOWγDOT ABOVEηBELOWμ AND DOT ABOVEγHOOKγOBLIQUE STROKE",
   "γSHORT STROKE OVERLAYδWASH TAILwALTILLOwCHWAxRIPT GwHARP SwIGMOID SwMALL CAPITAL I",
   "βQ WITH HOOK TAILvTw WITH CARONδEDILLAδIRCUMFLEX BELOWδOMMA BELOWγDIAGONAL STROKEδOT ABOVE",
   "ηBELOWγHOOKγLINE BELOWγRETROFLEX HOOKγSTROKEwHORNα WITH STROKEν THROUGH DESCENDERwONE FIVEαSIX",
   "αTWOwRESILLOwURNED AδLPHAγHγINSULAR GγKγLγMγTγVwZvUw BARxWITH ACUTEγBREVEγCARONδIRCUMFLEX",
   "ν BELOWγDIAERESISμ AND ACUTEρCARONρGRAVEρMACRONνBELOWδOT BELOWεUBLE ACUTEκGRAVEγGRAVE",
   "γHOOK ABOVEεRNη AND ACUTEμDOT BELOWμGRAVEμHOOK ABOVEμTILDEγINVERTED BREVEγMACRON",
   "ι AND DIAERESISγOGONEKγRING ABOVEγSTROKEγTILDEθ AND ACUTEιBELOWwPSILONvVw WITH DIAGONAL STROKE",
   "δOT BELOWγHOOKγTILDEwENDwISIGOTHIC ZwOLAPUK AEδOEδUEwYvWw WITH ACUTEγCIRCUMFLEXγDIAERESIS",
   "δOT ABOVEηBELOWγGRAVEγHOOKwYNNvXw WITH DIAERESISδOT ABOVEvYw WITH ACUTEγCIRCUMFLEXγDIAERESIS",
   "δOT ABOVEηBELOWγGRAVEγHOOKη ABOVEγLOOPγMACRONγSTROKEγTILDEwOGHvZw WITH ACUTEγCARONδIRCUMFLEX",
   "γDESCENDERδOT ABOVEηBELOWγHOOKγLINE BELOWγPALATAL HOOKγSTROKEδWASH TAILpIGATURE IJxOEhROSS",
   "gEPIGRAPHIC LETTER ARCHAIC MyI LONGAzNVERTED MyREVERSED FθPySIDEWAYS IgLETTER AIN",
   "oLVEOLAR CLICKnBIDENTAL PERCUSSIVEpLABIAL CLICKwPERCUSSIVEnDENTAL CLICKnGLOTTAL STOP",
   "z WITH STROKEnINVERTED GLOTTAL STOPι WITH CURLοSTROKEnLATERAL CLICK",
   "nPHARYNGEAL VOICED FRICATIVEnRETROFLEX CLICKγ WITH RETROFLEX HOOKpVERSED ESH LOOP",
   "wGLOTTAL STOP WITH STROKEnSINOLOGICAL DOToMALL CAPITAL AγEβBγARRED BβCβDβEγTHγZHβFβG",
   "γ WITH HOOKβHβIγNVERTED RβJβKβLγ WITH BELTιSTROKEβMβNβOγEγPEN OγUβPβQβRγ WITH RIGHT LEG",
   "γEVERSED NλRγUMβSβTγURNED EιGιKιMιRβUβVβWβYβZoTRETCHED Cy WITH CURLnTWO WITH STROKE",
   "nVOICED LARYNGEAL SPIRANTnWYNNnYRgSMALL CAPITAL LETTER I WITH STROKEβU WITH STROKEmLETTER A",
   "u REVERSED-SCHWAvWITH ACUTEαBREVEζ AND ACUTEλDOT BELOWλGRAVEλHOOK ABOVEλTILDEαCARONβIRCUMFLEX",
   "λ AND ACUTEπDOT BELOWπGRAVEπHOOK ABOVEπTILDEαDIAERESISκ AND MACRONβOT ABOVEκ AND MACRONεBELOW",
   "γUBLE GRAVEαGRAVEαHOOK ABOVEαINVERTED BREVEαMACRONαOGONEKαRETROFLEX HOOKβIGHT HALF RING",
   "γNG ABOVEλ AND ACUTEζBELOWαSTROKEαTILDEuAuEv WITH ACUTEβMACRONuLPHAy WITH RETROFLEX HOOK",
   "uNGLICANA WuOuUuVv WITH HORIZONTAL BARuYtBu WITH DOT ABOVEεBELOWαFLOURISHαHOOKαLINE BELOW",
   "αMIDDLE TILDEαPALATAL HOOKαSTROKEαTOPBARuARRED ALPHAαEαOvSELINE ESHuETAuLACKLETTER EζO",
   "η WITH STROKEuOTTOM HALF OuROKEN LtCu WITH ACUTEαBARαCARONβEDILLAθ AND ACUTEβIRCUMFLEXβURL",
   "αDOT ABOVEαHOOKαPALATAL HOOKαRETROFLEX HOOKαSTROKEuHIw WITH LOW LEFT SERIFηRIGHT RING",
   "uLOSED INSULAR GαOMEGAβPEN EαREVERSED OPEN EuONuUATRILLOγ WITH COMMAtDu WITH CARONβEDILLA",
   "βIRCUMFLEX BELOWβURLαDOT ABOVEεBELOWαHOOKε AND TAILαLINE BELOWαMIDDLE TILDEαPALATAL HOOK",
   "αSHORT STROKE OVERLAYβTROKEαTAILβOPBARuB DIGRAPHuELTAvZH DIGRAPHζ WITH PALATAL HOOK",
   "μRETROFLEX HOOKuOTLESS IβJγ WITH STROKEο AND HOOKvUBLE Rβ WITH CROSSED-TAILαTHORNαWYNNuUMuZ",
   "v DIGRAPHδ WITH CURLκRETROFLEX HOOKwWITH CARONtEu WITH ACUTEαBREVEαCARONβEDILLAθ AND BREVE",
   "βIRCUMFLEXλ AND ACUTEπDOT BELOWπGRAVEπHOOK ABOVEπTILDEμBELOWαDIAERESISβOT ABOVEεBELOW",
   "γUBLE GRAVEαFLOURISHαGRAVEαHOOK ABOVEαINVERTED BREVEαMACRONη AND ACUTEμGRAVEαNOTCHαOGONEK",
   "αRETROFLEX HOOKαSTROKEαTILDEζ BELOWuGYPTOLOGICAL AINιLEFuNGw WITH CROSSED-TAILγPALATAL HOOKuSH",
   "w WITH CURLγDOUBLE BARν AND CURLγPALATAL HOOKγRETROFLEX HOOKuTvHuZHw REVERSEDxWITH CARONδURL",
   "γPALATAL HOOKγRETROFLEX HOOKγTAILtFu WITH DOT ABOVEαHOOKαMIDDLE TILDEαPALATAL HOOKαSTROKE",
   "uENG DIGRAPHζ WITH TRILLtGu WITH ACUTEαBREVEαCARONβEDILLAβIRCUMFLEXαDOT ABOVEαHOOKαMACRON",
   "αOBLIQUE STROKEαPALATAL HOOKαSTROKEuAMMAuHAuLOTTAL AβIβSTOPβUtHu WITH BREVE BELOWαCARONβEDILLA",
   "βIRCUMFLEXαDESCENDERβIAERESISβOT ABOVEεBELOWαHOOKαLINE BELOWαPALATAL HOOKαSTROKEuALF HuENG",
   "x WITH HOOKuVtIu WITH ACUTEαBREVEαCARONβIRCUMFLEXαDIAERESISκ AND ACUTEβOT BELOWγUBLE GRAVE",
   "αGRAVEαHOOK ABOVEαINVERTED BREVEαMACRONαOGONEKαRETROFLEX HOOKαSTROKEη AND RETROFLEX HOOKαTILDE",
   "ζ BELOWuNSULAR DβFβGβRβSβTvVERTED ALPHAγOEuOTAx WITH STROKEwIFIED EuStJu WITH CARONβIRCUMFLEX",
   "βROSSED-TAILαSTROKEtKu WITH ACUTEαCARONβEDILLAαDESCENDERβIAGONAL STROKEβOT BELOWαHOOK",
   "αLINE BELOWαOBLIQUE STROKEαPALATAL HOOKαSTROKEη AND DIAGONAL STROKEuRAtLu WITH ACUTEαBARβELT",
   "ε AND PALATAL HOOKαCARONβEDILLAβIRCUMFLEX BELOWβURLαDOT BELOWκ AND MACRONγUBLE BAR",
   "θMIDDLE TILDEαFISHHOOKαHIGH STROKEαINVERTED LAZY SαLINE BELOWαMIDDLE DOTθRINGθTILDE",
   "αPALATAL HOOKαRETROFLEX HOOKο AND BELTαSTROKEuAMBDA WITH STROKEuENIS FvZHx WITH RETROFLEX HOOK",
   "uJuONG Sz WITH DIAGONAL STROKEηOT ABOVEζHIGH STROKEuS DIGRAPHuUMuZ DIGRAPHtMu WITH ACUTE",
   "αCROSSED-TAILαDOT ABOVEεBELOWαHOOKαMIDDLE TILDEαPALATAL HOOKuIDDLE SCOTS Sz-WELSH LLηVuUMtN",
   "u PRECEDED BY APOSTROPHEvWITH ACUTEαCARONβEDILLAβIRCUMFLEX BELOWβROSSED-TAILβURLαDESCENDER",
   "βOT ABOVEεBELOWαGRAVEαLEFT HOOKβINE BELOWβONG RIGHT LEGαMIDDLE TILDEαOBLIQUE STROKE",
   "αPALATAL HOOKαRETROFLEX HOOKαTILDEuJuUMtOu WITH ACUTEαBREVEαCARONβIRCUMFLEXλ AND ACUTE",
   "πDOT BELOWπGRAVEπHOOK ABOVEπTILDEαDIAERESISκ AND MACRONβOT ABOVEκ AND MACRONεBELOWγUBLE ACUTE",
   "θGRAVEαGRAVEαHOOK ABOVEγRNε AND ACUTEκDOT BELOWκGRAVEκHOOK ABOVEκTILDEαINVERTED BREVE",
   "αLONG STROKE OVERLAYγOPγW RING INSIDEαMACRONη AND ACUTEμGRAVEαOGONEKη AND MACRON",
   "αRETROFLEX HOOKαSTROKEη AND ACUTEαTILDEζ AND ACUTEλDIAERESISλMACRONuIuLD POLISH OuMEGAuOuPEN E",
   "z WITH RETROFLEX HOOKyOz WITH RETROFLEX HOOKζSTROKEzEuUtPu WITH ACUTEαDOT ABOVEαFLOURISHαHOOK",
   "αMIDDLE TILDEαPALATAL HOOKαSQUIRREL TAILβTROKEη THROUGH DESCENDERuHItQu WITH DIAGONAL STROKE",
   "αHOOKε TAILαSTROKE THROUGH DESCENDERuP DIGRAPHtRu ROTUNDAvWITH ACUTEαCARONβEDILLAβROSSED-TAIL",
   "αDOT ABOVEεBELOWκ AND MACRONγUBLE GRAVEαFISHHOOKι AND MIDDLE TILDEξPALATAL HOOKαINVERTED BREVE",
   "αLINE BELOWβONG LEGαMIDDLE TILDEαOBLIQUE STROKEαPALATAL HOOKαSTROKEαTAILzOUT HANDLEuAMS HORN",
   "uEVERSED Cδ WITH DOTγEδNGγHALF HγKγOPEN Eι WITH HOOKοRETROFLEX HOOKγR WITH FISHHOOKγSCRIPT G",
   "uUMw ROTUNDAtSu WITH ACUTEζ AND DOT ABOVEαCARONζ AND DOT ABOVEβEDILLAβIRCUMFLEXβOMMA BELOWβURL",
   "αDOT ABOVEεBELOWκ AND DOT ABOVEαHOOKαMIDDLE TILDEαOBLIQUE STROKEαPALATAL HOOK",
   "αSHORT STROKE OVERLAYβWASH TAILuAKHA YATvLTILLOuCHWAy WITH HOOKεRETROFLEX HOOKvRIPT G",
   "β WITH CROSSED-TAILαRβ WITH RINGuHARP SuIDEWAYS DIAERESIZED UγOδ WITH STROKEδPEN OγTURNED MγU",
   "vGMOID SuQUAT REVERSED ESHuTIRRUP RtTu WITH CARONβEDILLAβIRCUMFLEX BELOWβOMMA BELOWβURL",
   "αDIAERESISδGONAL STROKEβOT ABOVEεBELOWαHOOKε AND RETROFLEX HOOKαLINE BELOWαMIDDLE TILDE",
   "αPALATAL HOOKαRETROFLEX HOOKαSTROKEuAILLESS PHIuC DIGRAPH WITH CURLuESH DIGRAPH",
   "ζ WITH PALATAL HOOKμRETROFLEX HOOKuH WITH STRIKETHROUGHvORNy WITH STROKEλ THROUGH DESCENDER",
   "uONE FIVEySIXyTWOvP HALF OuRESILLOuS DIGRAPHδ WITH RETROFLEX HOOKuUMvRNED AβEβLPHAαDELTAαEαGαH",
   "β WITH FISHHOOKπ AND TAILαIβNSULAR GαKαLαMβ WITH LONG LEGαO OPEN-Oι WITH STROKEβE",
   "γ WITH HORIZONTAL STROKEιSTROKEβPEN EαRβ WITH HOOKθLONG LEGπ AND RETROFLEX HOOKθMIDDLE TILDE",
   "θPALATAL HOOKθTAILαTβ WITH CURLαUIαVαWαYβ WITH BELTuZtUu BARy WITH SHORT RIGHT LEGvWITH ACUTE",
   "αBREVEαCARONβIRCUMFLEXλ BELOWαDIAERESISκ AND ACUTEοCARONοGRAVEοMACRONλBELOWβOT BELOW",
   "γUBLE ACUTEθGRAVEαGRAVEαHOOK ABOVEγRNε AND ACUTEκDOT BELOWκGRAVEκHOOK ABOVEκTILDE",
   "αINVERTED BREVEαLEFT HOOKαMACRONη AND DIAERESISαOGONEKαRETROFLEX HOOKβING ABOVE",
   "αSHORT RIGHT LEGβTROKEαTILDEζ AND ACUTEηBELOWuEuIuMuOuPSILONα WITH STROKEtVu WITH CURL",
   "αDIAGONAL STROKEβOT BELOWαHOOKαPALATAL HOOKαRIGHT HOOKαTILDEuENDuISIGOTHIC ZuOLAPUK AEβOEβUEuY",
   "tWu WITH ACUTEαCIRCUMFLEXαDIAERESISβOT ABOVEεBELOWαGRAVEαHOOKαRING ABOVEtXu WITH DIAERESIS",
   "βOT ABOVEαLONG LEFT LEGξ AND LOW RIGHT RINGοWITH SERIFγW RIGHT RINGαPALATAL HOOKtYu WITH ACUTE",
   "αCIRCUMFLEXαDIAERESISβOT ABOVEεBELOWαGRAVEαHOOKε ABOVEαLOOPαMACRONαRING ABOVEαSHORT RIGHT LEG",
   "βTROKEαTILDEuOGHtZu WITH ACUTEαCARONβIRCUMFLEXβURLαDESCENDERβOT ABOVEεBELOWαHOOKαLINE BELOW",
   "αMIDDLE TILDEαPALATAL HOOKαRETROFLEX HOOKαSTROKEβWASH TAILnIGATURE FFxIxLwIwLvIJvLONG S TvOE",
   "vSThUBSCRIPT SMALL LETTER AδEδHδIδJδKδLδMδNδOδPδRδSεCHWAδTδUδVδXbEAF FLUTTERING IN WIND",
   "eY GREENcDGERcFT AND LOWER AND RIGHT TRIANGULAR THREE QUARTERS BLOCKpONE EIGHTH BLOCK",
   "jRIGHT DOUBLE TURNSTILEpTACKqRIANGULAR HALF BLOCK",
   "jUPPER AND RIGHT TRIANGULAR THREE QUARTERS BLOCKpONE EIGHTH BLOCKhGER BUBBLEiLE BRACKET",
   "s WITH DOTgRC LESS-THAN BRACKEThROW WITH CIRCLED PLUSqSMALL CIRCLE",
   "fBARB DOWN RIGHT BARB DOWN HARPOONαUP HARPOONkUP RIGHT BARB DOWN HARPOONyUP HARPOON",
   "gLACK LENTICULAR BRACKETlTORTOISE SHELL BRACKETfCEILINGgLOSED ENTRYgORNER BRACKETgURLY BRACKET",
   "s LOWER HOOKtMIDDLE PIECEtUPPER HOOKfDOTTED SUBSTITUTION BRACKEThUBLE ANGLE BRACKET",
   "mPARENTHESISmQUOTATION MARKmWIGGLY FENCEfFISH TAILhVE EIGHTHS BLOCKgLOORfHALF BLACK CIRCLE",
   "qSTARmOCKkCIRCLEq WITH DOTwFOUR DOTSwTHREE DOTSxWO DOTSkFOLDER",
   "kINVERSE MEDIUM SHADE AND RIGHT HALF BLOCKkMEDIUM SHADEkRUNNING MANhND TELEPHONE RECEIVER",
   "fLOW PARAPHRASE BRACKETgUGGAGEfMULTIMAPfNORMAL FACTOR SEMIDIRECT PRODUCTfONE EIGHTH BLOCK",
   "jQUARTER BLOCKgUTER JOINfPARENTHESISq EXTENSIONrLOWER HOOKrUPPER HOOKfRAISED OMISSION BRACKET",
   "gIGHT ARROWq THROUGH SMALL CIRCLErWITH DOUBLE VERTICAL STROKEwSTROKEwVERTICAL STROKE",
   "lBLACK ARROWlDOUBLE ARROWx WITH STROKEδVERTICAL STROKElOPEN-HEADED ARROWlSANS-SERIF ARROW",
   "lTRIANGLE-HEADED ARROWlWAVE ARROWmHITE ARROWfS-SHAPED BAG DELIMITERgEMIDIRECT PRODUCT",
   "hVEN EIGHTHS BLOCKgIDEWAYS U BRACKEThNGLE QUOTATION MARKgPEECH BUBBLEgQUARE BRACKETt EXTENSION",
   "uLOWER CORNERuUPPER CORNERuWITH DOUBLE STROKEzQUILLzSTROKEzTICK IN BOTTOM CORNERθTOP CORNER",
   "zUNDERBARgUBSTITUTION BRACKETfTACKgHIRD WHITE RIGHT POINTING INDEXhOUGHT BUBBLE",
   "hREE EIGHTHS BLOCKlQUARTERS BLOCKgORTOISE SHELL BRACKETgRANSPOSITION BRACKET",
   "hIANGLE BESIDE VERTICAL BARlULAR ONE QUARTER BLOCKfVERTICAL BAR WITH QUILLpOX LINE",
   "fWHITE CORNER BRACKETmURLY BRACKETlLENTICULAR BRACKETlPARENTHESISlSQUARE BRACKET",
   "lTORTOISE SHELL BRACKETgIGGLY FENCEgRITING HANDe-FACING ARMENIAN ETERNITY SIGNmFIST",
   "mSVASTI SIGNx WITH DOTSfHANDED INTERLACED PENTAGRAMfPOINTING ANGLE BRACKET",
   "oCURVED ANGLE BRACKEToDOUBLE ANGLE QUOTATION MARKoMAGNIFYING GLASS",
   "fSHADED WHITE RIGHTWARDS ARROWgIDE ARC ANTICLOCKWISE ARROWfTO-RIGHT EMBEDDINGoISOLATEoMARK",
   "oOVERRIDEeWARDS ARROWp ABOVE ALMOST EQUAL TOwREVERSE ALMOST EQUAL TOεTILDE OPERATOR",
   "wSHORT RIGHTWARDS ARROWwTILDE OPERATORrND UPPER AND LOWER ONE EIGHTH BLOCKqFROM BAR",
   "y TO BLACK DIAMONDqOVER RIGHTWARDS ARROWqTHROUGH LESS-THANySUBSETyXrO BAR",
   "w OVER RIGHTWARDS ARROW TO BARuLACK DIAMONDqWITH DOTTED STEMxUBLE VERTICAL STROKE",
   "vEQUILATERAL ARROWHEADvHOOKvLARGE TRIANGLE ARROWHEADwOOPvMEDIUM TRIANGLE ARROWHEAD",
   "vNOTCHED TAILvPLUS BELOWvSMALL EQUILATERAL ARROWHEADβTRIANGLE ARROWHEADwTROKEvTAIL",
   "z WITH DOUBLE VERTICAL STROKEζVERTICAL STROKEwIP DOWNWARDSzUPWARDSvVERTICAL STROKEp-TAIL",
   "kBACK-TILTED SHADOWED WHITE ARROWlLACK ARROWqCIRCLED WHITE ARROWlOTTOM-SHADED WHITE ARROW",
   "kCOMPRESSED ARROWkDASHED ARROWlOUBLE ARROWw FROM BARxWITH STROKEγVERTICAL STROKEw-TAIL",
   "rDASH ARROWkFINGER-POST ARROWlRONT-TILTED SHADOWED WHITE ARROWkHAND",
   "mRPOON OVER RIGHTWARDS HARPOONsWITH BARB DOWN ABOVE RIGHTWARDS HARPOON WITH BARB DOWN",
   "θBELOW LONG DASHθFROM BARθTO BARηWARDSγUP ABOVE LEFTWARDS HARPOON WITH BARB DOWNνONG DASH",
   "μRIGHTWARDS HARPOON WITH BARB UPζFROM BARζTO BARεWARDSlEAVY ARROWqCOMPRESSED ARROW",
   "kLEFT-SHADED WHITE ARROWkOPEN-HEADED ARROWkPAIRED ARROWSkQUADRUPLE ARROW",
   "kRIGHT-SHADED WHITE ARROWlOCKETkSANS-SERIF ARROWlQUARED ARROWnIGGLE ARROW",
   "kTOP SHADED WHITE ARROWlRIANGLE ARROWHEADs-HEADED ARROWζ OVER RIGHTWARDS TRIANGLE-HEADED ARROW",
   "ηTO BARηWITH BOLD SHAFTμDOUBLE HORIZONTAL STROKEσVERTICAL STROKEμHEAVY SHAFT",
   "μLONG TIP DOWNWARDSυUPWARDSμMEDIUM SHAFTμNARROW SHAFTμVERY HEAVY SHAFTαDASHED ARROW",
   "αPAIRED ARROWSnPLE ARROWrDASH ARROWlWO HEADED ARROWn-HEADED ARROW FROM BAR",
   "βWITH DOUBLE VERTICAL STROKEηTAILλ WITH DOUBLE VERTICAL STROKEρVERTICAL STROKE",
   "θRIANGLE ARROWHEADSηVERTICAL STROKEvTRIPLE DASH ARROWkWAVE ARROWlHITE ARROW",
   "v WITHIN TRIANGLE ARROWHEADcGcMONcOdPARDcPCHA CONSONANT SIGN KxANGwLwMwNxYIN-DOwPwRwT",
   "hDIGIT EIGHTnFIVEoOURnNINEnONEnSEVENoIXnTHREEoWOnZEROhLETTER AoBApLAoCApHAoDApDApZAoFApLAoGA",
   "pLAoHApLAoJAoKApHApLAoLAoMApLAoNApGApYAoPApHApLAoRAoSApHAoTApHApSAqHApTAqHAoVAoWAoYA",
   "hPUNCTUATION CER-WAtNYET THYOOM TA-ROLtTA-ROLuSHOOKz CER-WAhSIGN NUKTAmRANiUBJOINED LETTER RA",
   "yYAhVOWEL SIGN AAsEsIsOtOsUtUcSS-THAN ABOVE DOUBLE-LINE EQUAL ABOVE GREATER-THAN",
   "qGREATER-THAN ABOVE DOUBLE-LINE EQUALqLEFTWARDS ARROWqSIMILAR ABOVE GREATER-THANyOR EQUAL",
   "rLANTED EQUAL ABOVE GREATER-THAN ABOVE SLANTED EQUALlND NOT APPROXIMATE",
   "oSINGLE-LINE NOT EQUAL TOkBUT NOT EQUAL TOvIVALENT TOkCLOSED BY CURVEz ABOVE SLANTED EQUAL",
   "kEQUAL TO OR GREATER-THANkOR APPROXIMATEnEQUAL TOqIVALENT TOnGREATER-THANnSLANTED EQUAL TO",
   "δ WITH DOT ABOVEσ RIGHTξINSIDElVER EQUAL TOkSIGNkWITH CIRCLE INSIDEpDOTpQUESTION MARK ABOVE",
   "cVEL SLIDERbFbIBRAcGATURE OPEN ET ORNAMENTdHT CHECK MARKgEIGHT SPOKED ASTERISK",
   "gFIVE POINTED BLACK STARlSPOKED ASTERISKhOUR POINTED BLACK CUSPzSTARgGREEK CROSS",
   "gLEFT TORTOISE SHELL BRACKET ORNAMENTgRAILhIGHT TORTOISE SHELL BRACKET ORNAMENTgSALTIREhHADE",
   "hIX SPOKED ASTERISKgTHREE POINTED BLACK STARhWELVE POINTED BLACK STARgVERTICAL BAR",
   "gWHITE SQUAREfNINGj MOODo BUBBLEcMBU DIGIT EIGHTmFIVEnOURmNINEmONEmSEVENnIXmTHREEnWOmZERO",
   "gEXCLAMATION MARKgLETTER BAoHAnCAoHAnDAoHAnGAoHAoYANnHAnJAoHAnKAoHAnLAnMAnNAoGAnPAoHAnRAnSAoHA",
   "oSAnTAoHAoRAnWAnYApNgQUESTION MARKgSIGN KEMPHRENGlLOOlMUKPHRENGlSA-IhMALL LETTER ANUSVARAtKA",
   "tLAtMAtNAuGAtPAtRAtTAhUBJOINED LETTER RAxWAxYAgVOWEL SIGN AsIsUrEsErIrOsOrUl-CARRIER LETTER",
   "dITED LIABILITY SIGNcNE FEEDfINTEGRATION NOT INCLUDING THE POLE",
   "rWITH RECTANGULAR PATH AROUND POLEwSEMICIRCULAR PATH AROUND POLEfSEPARATORfTABULATIONp SET",
   "eAR A SIGN A028Bp100-102q20Bq31Cp301r2r3r4r5r6r7r8r9AsBsCq10r1r2r3AsBsCr4r5r6r7r8r9q20r1r2r3r4",
   "r5r6r7r8r9q30r1r2r3r4r5r6r7r8r9q40r1r2r3r4r5r6r7r8r9q50r1r2r3r4r5r6r7r8r9q60r1r2r3r4r5r6r7r8r9",
   "q70r1p400-VASr1-VASr2-VASr3-VASr4-VASr5-VASr6-VASr7-VASr8-VASr9-VASq10-VASr1-VASr2-VASr3-VAS",
   "r4-VASr5-VASr6-VASr7-VASr8-VASp501r2r3r4r5r6r8r9q10r1r2r3r5r6q20r1r3r4r5r6r7r8r9q30r1r2r4r5r6",
   "r7r8r9q40r1r2r5r7r8r9q50r1r2r3r4r5r6r7r9q63r4r5r6r8r9q70r1r2r3r4r5r6r7r8r9q80r1r2r3r4r5r6r7r8",
   "r9q91r2r4r5r6r8p600r1r2r3r4r6r8r9q10r1r2r3r4r5r6r7r8r9q20r1r2r3r4r6r7r8r9q34r7r8q40r2r3r4r5r6",
   "r8r9q51r2r3r4r5r6r7r8r9q60r1r2r3r4p701 Ar2 Br3 Dr4 Er5 Fr6 Hr7 Jr8 Kr9 Ls-2 L2t3 L3t4 L4t6 L6",
   "q10 Wr1 Xr2 Yr3 OMEGAr4 ABBr5 BBr7 DDq26 EYYYq32 JEp800r1r2r3r4r5r6r7pB001s2s3s4s5s6s7s8s9r10",
   "s1s3s6s7r20s1tFtMs2tFtMs3tMs4s6s7s8s9r30s1s4s7s8s9r40s1s4s5s6s7s8s9r50s1s3s4s5s6s7s8s9r60s1s5",
   "s6s7s9r70s3s4s6s7s8s9r80s1s2s5s6s7q118r20s2s3r31AtBr64r71r80s8r91hB IDEOGRAM B100 MANv2 WOMAN",
   "v4 DEERv5 EQUIDwF MAREwM STALLIONv6F EWEwM RAMv7F SHE-GOATwM HE-GOATv8F SOWwM BOARv9F COW",
   "wM BULLu20 WHEATv1 BARLEYv2 OLIVEv3 SPICEv5 CYPERUSu30 OILv1 WINEv2u40 BRONZEv1 GOLDv2v5 WOOL",
   "v6u50v1 HORNv2v3v4v7v8v9 CLOTHu60v1v2 GARMENTv3 ARMOURv4v5v6v7v8v9u70v1v2v3 MONTHv4v6 TREEv7v8",
   "v9u80v1v2v3v4v5v9u90v1 HELMETt220 FOOTSTOOLv5 BATHTUBu30 SPEARv1 ARROWv2v3 SWORDv4v6",
   "u40 WHEELED CHARIOTv1 CHARIOTv2 CHARIOT FRAMEv3 WHEELv5v6v8v9u51v2v3v4 DARTv5v6v7v8v9",
   "sVESSEL B155α200γ1γ2γ3γ4γ5γ6γ7γ8γ9β10γ1γ2γ3γ4γ5γ6γ7γ8γ9β21γ2γ6γ7γ8γ9β50α305jMONOGRAM B127 KAPO",
   "v8 KANAKOu33 AREPAv5 MERIu56 TURO2t247 DIPTEjSYLLABLE B001 DAv2 ROv3 PAv4 TEv5 TOv6 NAv7 DI",
   "v8 Av9 SEu10 Uv1 POv2 SOv3 MEv4 DOv5 MOv6 QAv7 ZAu20 ZOv1 QIv3 MUv4 NEv5 A2v6 RUv7 REv8 I",
   "v9 PU2u30 NIv1 SAv2 QOv3 RA3v6 JOv7 TIv8 Ev9 PIu40 WIv1 SIv2 WOv3 A3v4 KEv5 DEv6 JEv8 NWA",
   "u50 PUv1 DUv2 NOv3 RIv4 WAv5 NUv7 JAv8 SUv9 TAu60 RAv1 Ov2 PTEv5 JUv6 TA2v7 KIv8 RO2v9 TU",
   "u70 KOv1 DWEv2 PEv3 MIv4 ZEv5 WEv6 RA2v7 KAv8 QEu80 MAv1 KUv5 AUv7 TWEu90 DWOv1 TWOlMBOL B018",
   "t9s22s34s47t9s56s63t4s79s82t3t6t9dK SYMBOLeED PAPERCLIPScON FACEcPSeTICKcRA SIGNcSU LETTER AnE",
   "mBAmCAnHAmDAnZAmEnUmFAmGAnHAmHAnHAmImJAmKAnHAmLAmMAmNAnGAmOnEmPAnHAmSAnHAmTAnHAnONE MYA BOvCYA",
   "vJEUvNAvTIrNA POnSAoHAmUnEnHmWAmXAmYAnHAmZAnHAfPUNCTUATION COMMArFULL STOPcVRE TOURNOIS SIGN",
   "cZARDbLAMAbOBSTERcCKe WITH INK PENeING-SHIFT ONEoZEROcGICAL ANDl WITH DOT ABOVEtUBLE OVERBAR",
   "yUNDERBARrHORIZONTAL DASHrMIDDLE STEMrUNDERBARiORk OVERLAPPING LOGICAL ANDlWITH DOT ABOVE",
   "sUBLE OVERBARxUNDERBARqHORIZONTAL DASHqMIDDLE STEMcLLIPOP",
   "cNG DASH FROM LEFT MEMBER OF DOUBLE VERTICALgIVISIONgRUMfLEFT RIGHT ARROWqDOUBLE ARROWkTACK",
   "jWARDS ARROWu FROM BARpDOUBLE ARROWβ FROM BARpSQUIGGLE ARROWfRIGHT TACKkWARDS ARROWv FROM BAR",
   "qDOUBLE ARROWγ FROM BARqSQUIGGLE ARROWcTION BOTTLEdUScUDLY CRYING FACEcVE HOTELfLETTER",
   "cW ASTERISKeBATTERYfRIGHTNESS SYMBOLeDOUBLE PRIME QUOTATION MARKeKAVYKAk WITH DOTeLINE",
   "dER BLADE SCISSORSgFIVE EIGHTHS BLOCKgHALF BLOCKlCIRCLElINVERSE WHITE CIRCLElMEDIUM SHADE",
   "gLEFT BALLPOINT PENmLOCK DIAGONAL LOWER MIDDLE LEFT TO LOWER CENTREωER RIGHT",
   "αUPPER CENTRE TO LOWER MIDDLE RIGHTχRIGHTρUPPER MIDDLE RIGHTηLEFT TO LOWER CENTREυMIDDLE RIGHT",
   "οUPPER MIDDLE RIGHTηMIDDLE LEFT TO LOWER CENTREωER MIDDLE RIGHTωER RIGHTlCRAYONlFOUNTAIN PEN",
   "lPAINTBRUSHmENCILlQUADRANT CIRCULAR ARClSEMICIRCULAR ANTICLOCKWISE ARROWlTRIANGLE",
   "rULAR MEDIUM SHADEgONE EIGHTH BLOCKkQUARTER BLOCK",
   "gRIGHT BLOCK DIAGONAL LOWER CENTRE TO LOWER MIDDLE RIGHTςUPPER MIDDLE RIGHTψRIGHT",
   "θLEFT TO LOWER MIDDLE RIGHTπUPPER CENTREφMIDDLE RIGHTθMIDDLE LEFT TO UPPER CENTRE",
   "ωPER MIDDLE RIGHTωPER RIGHTβUPPER MIDDLE LEFT TO UPPER CENTREωPER RIGHTmCORNER WITH DOT",
   "mDROP-SHADOWED WHITE SQUAREmPENCILmQUADRANT CIRCULAR ARCmSEMICIRCULAR CLOCKWISE ARROW",
   "nHADOWED WHITE CIRCLEβSQUAREmTRIANGLEsULAR MEDIUM SHADEgSEVEN EIGHTHS BLOCK",
   "gTHREE EIGHTHS BLOCKmQUARTERS BLOCKhRIANGULAR ONE QUARTER BLOCKcZENGE",
   "h DIVIDED BY HORIZONTAL RULEbREcIcMcObUGGAGEcNGSbYCIAN LETTER ApNoBpHoDoEpNoGoHoIoJoKpKoLoMpM",
   "oNpNoPoQoRoSoTpHpToUoWoXoZcDIAN LETTER ApNoBoCoDoEpNoFoGoIoKoLpYoMoNpNoOoQoRoSpSoTpToUoVoY",
   "hTRIANGULAR MARKcING FACEaMACRONcGEdIC WANDdNETcHAJANI ABBREVIATION SIGNjLETTER AqBArHAqCArHA",
   "qDArDAsHArHAqEqGArHAqHAqIqJArHAqKArHAqLAqMAqNArNArYAqOqPArHAqRArRAqSAqTArHArTAsHAqUqVA",
   "kIGATURE SHRIjSECTION MARKkIGN NUKTAdJONG TILE AUTUMNnBACKpMBOOnCHRYSANTHEMUMnEAST WIND",
   "oIGHT OF BAMBOOSwCHARACTERSxIRCLESnFIVE OF BAMBOOSvCHARACTERSwIRCLESoOUR OF BAMBOOSvCHARACTERS",
   "wIRCLESnGREEN DRAGONnJOKERnNINE OF BAMBOOSvCHARACTERSwIRCLESoORTH WINDnONE OF BAMBOOS",
   "uCHARACTERSvIRCLESoRCHIDnPLUMnRED DRAGONnSEVEN OF BAMBOOSwCHARACTERSxIRCLESoIX OF BAMBOOS",
   "uCHARACTERSvIRCLESoOUTH WINDoPRINGoUMMERnTHREE OF BAMBOOSwCHARACTERSxIRCLESoWO OF BAMBOOS",
   "uCHARACTERSvIRCLESnWEST WINDoHITE DRAGONoINTERcKASAR ANGKAiEND OF SECTIONiLETTER ApBApCApDApGA",
   "pJApKApLApMApNAqGAqYApPApRApSApTApVApYAiPASSIMBANGiVOWEL SIGN EtItOtUcLAYALAM AU LENGTH MARK",
   "kDATE MARKlIGIT EIGHTqFIVErOURqNINEqONEqSEVENrIXqTHREErWOqZEROkFRACTION ONE EIGHTHxFIFTH",
   "yORTIETHxHALFxONE-HUNDRED-AND-SIXTIETHxQUARTERxSIXTEENTHxTENTHyWENTIETHtTHREE EIGHTIETHS",
   "zQUARTERSzSIXTEENTHSzTWENTIETHSkLETTER AsAsIsRCHAIC IIsUrBAsHArCAsHAtILLU KyLzLαLyMyNzNyRRyY",
   "rDAsDAtHAsHAsOT REPHrEsErGAsHArHArIsIrJAsHArKAsHArLAsLAtLArMArNAsGAsNAtNAsYArOsOrPAsHArRAsRA",
   "rSAsHAsSArTAsHAsTAtHAtTArUsUrVAsEDIC ANUSVARAsOCALIC LαLzRαRrYAkNUMBER ONE HUNDREDvTHOUSAND",
   "rTENkSIGN ANUSVARAqVAGRAHApCANDRABINDUqIRCULAR VIRAMAqOMBINING ANUSVARA ABOVEpPARA",
   "pVERTICAL BAR VIRAMAqIRAMArSARGAkVOWEL SIGN AAwIwUvEwEvIwIvOwOvUwUvVOCALIC LεLδRεR",
   "dE AND FEMALE SIGNfSIGNfWITH STROKE AND MALE AND FEMALE SIGNrSIGNdTESE CROSScMMOTHcN",
   "d AND WOMAN HOLDING HANDSeDANCINGeIN BUSINESS SUIT LEVITATINGhTUXEDOeWITH GUA PI MAOjTURBAN",
   "dAT SIGNdDAIC AFFRICATION MARKiGEMINATION MARKiLETTER ABqDqGqHqINqKrSAqLqMqNqPqQqRqSrHrZqTrTqZ",
   "pDUSHENNApHALQApINqTpKADpUSHENNAiPUNCTUATIONiVOCALIZATION MARKdGO",
   "dICHAEAN ABBREVIATION MARK ABOVEδBELOWlLETTER AAYINtLEPHtYINsBETHtHETHsDALETHtHAMEDHsFEsGHIMEL",
   "tIMELsHEuTHsJAYINtHAYINsKAPHtHAPHsLAMEDHsMEMsNUNsPEsQHOPHtOPHsRESHsSADHEuMEKHtHINtSHINsTAWtETH",
   "tHAMEDHsWAWsXAPHtOPHsYODHsZAYINtHAYINlNUMBER FIVEsONEv HUNDREDsTENtWENTYlPUNCTUATION DOT",
   "α WITHIN DOTzUBLE DOT WITHIN DOTxFLEURONxLINE FILLERxSTARxTWO DOTSlSIGN UDdS SHOE",
   "dTELPIECE CLOCKdUAL WHEELCHAIRcP SYMBOL FOR LIGHTHOUSEdLE LEAFcRCHEN HEAD MARKiLETTER -ApApBA",
   "pCAqHApDAqZApGApHApJApKAqHApLApMApNAqGAqYApPAqHApRApSAqHApTAqHAqSArHApWApYApZAqHAiMARK SHAD",
   "iSIGN ANUSVARAnCANDRABINDUjUBJOINED LETTER AzBAzCAαHAzDAαZAzGAzHAzJAzKAαHAzLAzMAzNAαGAαYAzPA",
   "αHAzRAzSAαHAzTAαHAαSAβHAzWAzYAzZAαHAiVOWEL SIGN AAtEtItOtUdRIAGE SYMBOLdTIAL ARTS UNIFORM",
   "cSARAM GONDI DIGIT EIGHTuFIVEvOURuNINEuONEuSEVENvIXuTHREEvWOuZEROoLETTER AwAwIwUvBAwHAvCAwHA",
   "vDAwDAxHAwHAvEvGAwHAvHAvIwIvJAwHAwNYAvKAwHAwSSAvLAwLAvMAvNAwGAwNAwYAvOvPAwHAvRAvSAwHAwSAvTAwHA",
   "wRAwTAxHAvUwUvVAvYAoRA-KARApEPHAoSIGN ANUSVARAtCANDRAtHALANTAtNUKTAtVISARGAoVIRAMA",
   "pOWEL SIGN AAαIαUzEzIαIzOzUαUzVOCALIC RdCULINE ORDINAL INDICATORdK WORK SYMBOLdU MARKcTE DRINK",
   "dHEMATICAL BOLD CAPITAL AβLPHAαBβETAαCβHIαDβELTAβIGAMMAαEβPSILONβTAαFαGβAMMAαHαIβOTAαJαKβAPPA",
   "αLβAMDAαMβUαNβUαOβMEGAγICRONαPβHIβIβSIαQαRβHOαSβIGMAαTβAUβHETAζ SYMBOLαUβPSILONαVαWαXβIαYαZ",
   "βETAsDIGIT EIGHTyFIVEzOURyNINEyONEySEVENzIXyTHREEzWOyZEROsEPSILON SYMBOLsFRAKTUR CAPITAL AιBιC",
   "ιDιEιFιGιHιIιJιKιLιMιNιOιPιQιRιSιTιUιVιWιXιYιZαSMALL AηBηCηDηEηFηGηHηIηJηKηLηMηNηOηPηQηRηSηTηU",
   "ηVηWηXηYηZsITALIC CAPITAL AιLPHAθBιETAθCιHIθDιELTAθEιPSILONιTAθFθGιAMMAθHθIιOTAθJθKιAPPAθL",
   "ιAMDAθMιUθNιUθOιMEGAκICRONθPιHIιIιSIθQθRιHOθSιIGMAθTιAUιHETAν SYMBOLθUιPSILONθVθWθXιIθYθZιETA",
   "zEPSILON SYMBOLzKAPPA SYMBOLzNABLAzPARTIAL DIFFERENTIALαHI SYMBOLαI SYMBOLzRHO SYMBOLzSMALL A",
   "ηLPHAζBηETAζCηHIζDηELTAζEηPSILONηTAζFηINAL SIGMAζGηAMMAζHζIηOTAζJζKηAPPAζLηAMDAζMηUζNηUζOηMEGA",
   "θICRONζPηHIηIηSIζQζRηHOζSηIGMAζTηAUηHETAζUηPSILONζVζWζXηIζYζZηETAzTHETA SYMBOLsKAPPA SYMBOL",
   "sNABLAsPARTIAL DIFFERENTIALtHI SYMBOLtI SYMBOLsRHO SYMBOLsSCRIPT CAPITAL AθBθCθDθEθFθGθHθIθJθK",
   "θLθMθNθOθPθQθRθSθTθUθVθWθXθYθZzSMALL AζBζCζDζEζFζGζHζIζJζKζLζMζNζOζPζQζRζSζTζUζVζWζXζYζZ",
   "tMALL AzLPHAyBzETAyCzHIyDzELTAzIGAMMAyEzPSILONzTAyFzINAL SIGMAyGzAMMAyHyIzOTAyJyKzAPPAyLzAMDA",
   "yMzUyNzUyOzMEGAαICRONyPzHIzIzSIyQyRzHOySzIGMAyTzAUzHETAyUzPSILONyVyWyXzIyYyZzETAsTHETA SYMBOL",
   "nDOUBLE-STRUCK CAPITAL AκBκDκEκFκGκIκJκKκLκMκOκSκTκUκVκWκXκYβDIGIT EIGHTθFIVEιOURθNINEθONE",
   "θSEVENιIXθTHREEιWOθZEROβSMALL AθBθCθDθEθFθGθHθIθJθKθLθMθNθOθPθQθRθSθTθUθVθWθXθYθZ",
   "nFALLING DIAGONALoRAKTUR CAPITAL AδBδDδEδFδGδJδKδLδMδNδOδPδQδSδTδUδVδWδXδYvSMALL AβBβCβDβEβFβG",
   "βHβIβJβKβLβMβNβOβPβQβRβSβTβUβVβWβXβYβZnITALIC CAPITAL AδLPHAγBδETAγCδHIγDδELTAγEδPSILONδTAγFγG",
   "δAMMAγHγIδOTAγJγKδAPPAγLδAMDAγMδUγNδUγOδMEGAεICRONγPδHIδIδSIγQγRδHOγSδIGMAγTδAUδHETAθ SYMBOLγU",
   "δPSILONγVγWγXδIγYγZδETAuEPSILON SYMBOLuKAPPA SYMBOLuNABLAuPARTIAL DIFFERENTIALvHI SYMBOL",
   "vI SYMBOLuRHO SYMBOLuSMALL AβLPHAαBβETAαCβHIαDβELTAβOTLESS IιJαEβPSILONβTAαFβINAL SIGMAαGβAMMA",
   "αIβOTAαJαKβAPPAαLβAMDAαMβUαNβUαOβMEGAγICRONαPβHIβIβSIαQαRβHOαSβIGMAαTβAUβHETAαUβPSILONαVαWαXβI",
   "αYαZβETAuTHETA SYMBOLnLEFT ANGLE BRACKETsDOUBLE ANGLE BRACKETsFLATTENED PARENTHESIS",
   "sWHITE SQUARE BRACKETyTORTOISE SHELL BRACKETnMONOSPACE CAPITAL AζBζCζDζEζFζGζHζIζJζKζLζMζNζOζP",
   "ζQζRζSζTζUζVζWζXζYζZxDIGIT EIGHTδFIVEεOURδNINEδONEδSEVENεIXδTHREEεWOδZEROxSMALL AδBδCδDδEδFδG",
   "δHδIδJδKδLδMδNδOδPδQδRδSδTδUδVδWδXδYδZnRIGHT ANGLE BRACKETtDOUBLE ANGLE BRACKET",
   "tFLATTENED PARENTHESIStWHITE SQUARE BRACKETzTORTOISE SHELL BRACKETpSING DIAGONAL",
   "nSANS-SERIF BOLD CAPITAL AνLPHAμBνETAμCνHIμDνELTAμEνPSILONνTAμFμGνAMMAμHμIνOTAμJμKνAPPAμLνAMDA",
   "μMνUμNνUμOνMEGAξICRONμPνHIνIνSIμQμRνHOμSνIGMAμTνAUνHETAρ SYMBOLμUνPSILONμVμWμXνIμYμZνETA",
   "δDIGIT EIGHTκFIVEλOURκNINEκONEκSEVENλIXκTHREEλWOκZEROδEPSILON SYMBOLδITALIC CAPITAL AτLPHAσB",
   "τETAσCτHIσDτELTAσEτPSILONτTAσFσGτAMMAσHσIτOTAσJσKτAPPAσLτAMDAσMτUσNτUσOτMEGAυICRONσPτHIτIτSIσQ",
   "σRτHOσSτIGMAσTτAUτHETAψ SYMBOLσUτPSILONσVσWσXτIσYσZτETAλEPSILON SYMBOLλKAPPA SYMBOLλNABLA",
   "λPARTIAL DIFFERENTIALμHI SYMBOLμI SYMBOLλRHO SYMBOLλSMALL AςLPHAρBςETAρCςHIρDςELTAρEςPSILONςTA",
   "ρFςINAL SIGMAρGςAMMAρHρIςOTAρJρKςAPPAρLςAMDAρMςUρNςUρOςMEGAσICRONρPςHIςIςSIρQρRςHOρSςIGMAρTςAU",
   "ςHETAρUςPSILONρVρWρXςIρYρZςETAλTHETA SYMBOLδKAPPA SYMBOLδNABLAδPARTIAL DIFFERENTIALεHI SYMBOL",
   "εI SYMBOLδRHO SYMBOLδSMALL AλLPHAκBλETAκCλHIκDλELTAκEλPSILONλTAκFλINAL SIGMAκGλAMMAκHκIλOTAκJ",
   "κKλAPPAκLλAMDAκMλUκNλUκOλMEGAμICRONκPλHIλIλSIκQκRλHOκSλIGMAκTλAUλHETAκUλPSILONκVκWκXλIκYκZλETA",
   "δTHETA SYMBOLyCAPITAL AηBηCηDηEηFηGηHηIηJηKηLηMηNηOηPηQηRηSηTηUηVηWηXηYηZyDIGIT EIGHTεFIVEζOUR",
   "εNINEεONEεSEVENζIXεTHREEζWOεZEROyITALIC CAPITAL AξBξCξDξEξFξGξHξIξJξKξLξMξNξOξPξQξRξSξTξUξVξW",
   "ξXξYξZζSMALL AμBμCμDμEμFμGμHμIμJμKμLμMμNμOμPμQμRμSμTμUμVμWμXμYμZySMALL AεBεCεDεEεFεGεHεIεJεKεL",
   "εMεNεOεPεQεRεSεTεUεVεWεXεYεZoCRIPT CAPITAL AγCγDγGγJγKγNγOγPγQγSγTγUγVγWγXγYγZuSMALL AαBαCαDαF",
   "αHαIαJαKαLαMαNαPαQαRαSαTαUαVαWαXαYαZcXIMIZEcYAN NUMERAL EIGHTtEENpLEVENoFIFTEENqVEpOURsTEEN",
   "oNINEsTEENoONEoSEVENtTEENpIXrTEENoTENpHIRTEENqREEpWELVEqOoZERObEASURED ANGLEo OPENING LEFT",
   "pWITH OPEN ARM ENDING IN ARROW POINTING DOWN AND LEFTωING DOWN AND RIGHTωING LEFT AND DOWN",
   "ωING LEFT AND UPωING RIGHT AND DOWNωING RIGHT AND UPωING UP AND LEFTωING UP AND RIGHTjBY",
   "jRIGHT ANGLE WITH DOTdT ON BONEcCHANICAL ARMlLEGcDEFAIDRIN CAPITAL LETTER AγIγTIUβBβCβDβEβFβG",
   "βHγPβIβJβKγPβLβMβNγGγYβOγEβPβQβRβSβTβUβVβWβXβYγUβZnOMMAmDIGIT EIGHTsFIVEtOURsNINEsONE",
   "v ALTERNATE FORMsSEVENtIXsTHREEx ALTERNATE FORMtWOv ALTERNATE FORMsZEROmEXCLAMATION OH",
   "mFULL STOPmNUMBER EIGHTEENuLEVENtFIFTEENuOURTEENtNINETEENtSEVENTEENuIXTEENtTENuHIRTEENuWELVE",
   "mSMALL LETTER AαIαTIUzBzCzDzEzFzGzHαPzIzJzKαPzLzMzNαGαYzOαEzPzQzRzSzTzUzVzWzXzYαUzZnYMBOL AIVA",
   "dIEVAL COMMAjEXCLAMATION MARKjQUESTION MARKeUM BLACK CIRCLEiOLD WHITE CIRCLE",
   "hEIGHT POINTED BLACK STARnSPOKED ASTERISKhFIVE SPOKED ASTERISK",
   "iLATTENED LEFT PARENTHESIS ORNAMENTrRIGHT PARENTHESIS ORNAMENTiOUR POINTED BLACK STAR",
   "uPINWHEEL STARhGREEK CROSShLEFT CURLY BRACKET ORNAMENTmPARENTHESIS ORNAMENT",
   "l-POINTING ANGLE BRACKET ORNAMENThMATHEMATICAL SPACEhRIGHT CURLY BRACKET ORNAMENT",
   "nPARENTHESIS ORNAMENTm-POINTING ANGLE BRACKET ORNAMENThSALTIREiHADEiIX POINTED BLACK STAR",
   "lSPOKED ASTERISKiMALL WHITE CIRCLEhTHREE POINTED BLACK STARvPINWHEEL STARhVERTICAL BAR",
   "hWHITE CIRCLEnSQUAREcETEI MAYEK AHANG KHUDAMoNJIoPUN IYEKnCHEIKHANtEInDIGIT EIGHTtFIVEuOUR",
   "tNINEtONEtSEVENuIXtTHREEuWOtZEROnLETTER ATIYAuBAvHAMuCHAwILuDDAwHAvHOUvILuEuGHOUvOKuHUKuI",
   "v LONSUMuJHAMvILuKHOUvOKx LONSUMuLAIx LONSUMuMITx LONSUMuNAw LONSUMvGOUy LONSUMvNAvYAuOuPA",
   "w LONSUMvHAMuRAIuSAMvHAvSAuTHOUvILx LONSUMvTAwHAuUNuWAIuYANGoUM IYEKnSYLLABLE REPETITION MARK",
   "nVIRAMAoOWEL SIGN AAIαUzNAPzUyCHEINAPyIIzNAPyNUNGyONAPySOUNAPyUNAPzUyVISARGAyYENAP",
   "nWORD REPETITION MARKcLONdTING FACEcMOcNDE KIKAKUI COMBINING NUMBER HUNDRED THOUSANDSνS",
   "ζMILLIONSζTEENSθN THOUSANDSιSηHOUSANDSoDIGIT EIGHTuFIVEvOURuNINEuONEuSEVENvIXuTHREEvWO",
   "oSYLLABLE M001 KIα2 KAα3 KUα4 WIα5 WAα6 WUα7 MINα8 MANα9 MUNz10 BIα1 BAα2 BUα3 Iα4 Aα5 Uα6 DI",
   "α7 DAα8 DUα9 SIz20 SAα1 SUα2 TIα3 TAα4 TUα5 LIα6 LAα7 LUα8 JIα9 JAz30 JUα1 YIα2 YAα3 YUα4 FI",
   "α5 FAα6 FUα7 NINα8 NANα9 NUNz40 HEEα1 HAα2 HOOα3 NGGAα4 KPEEα5 WOα6 HUANα7 MBEEα8 KOα9 WVA",
   "z50 PUα1 PEα2 HENα3 HINα4 LOOα5 TEα6 GBAα7 NGONα8 NYANα9 MENz60 NYONα1 WVIα2 MBAα3 JOα4 NDO",
   "α5 KEEα6 POα7 NDOOα8 PIα9 TOz70 GBOα1 GBOOα2 MBEα3 LEα4 KPUα5 FEα6 KOOα7 VOα8 FEEα9 SOz80 YE",
   "α1 PEEα2 NGGUα3 HEEIα4 LEEα5 VEα6 LONG NGGEα7 HUNα8 FOα9 DEEz90 NGGIα1 TEEα2 KPAα3 GBEEα4 MON",
   "α5 KEα6 HEα7 BEα8 NYENα9 PAy100 Eα1 FANα2 POOα3 BOOα4 TOOα5 LONG MBOOα6 LONG NGGOOα7 GBEα8 KPE",
   "α9 YEEz10 LONG LEα1 GAα2 KPOOα3 JEα4 WOOα5 NGGEEα6 SEα7 NENα8 WEα9 NDEz20 NGGOα1 YOα2 MBU",
   "α3 NDIα4 GBIα5 NDUα6 WEEα7 NGGUAα8 HOOUα9 NDAz30 HANα1 INα2 KPIα3 FOOα4 NJOOα5 INα6 SOOα7 EI",
   "α8 BOα9 WVEz40 HOα1 YOOα2 LONG MBOα3 WEIα4 VOOα5 MBIα6 NGGEα7 Oα8 GBUα9 NJEEz50 BEEα1 VUα2 NJA",
   "α3 LOα4 MUANα5 GIα6 NGGOOα7 JEEα8 KPOα9 NGGAAz60 JOOα1 LONG MBEα2 SEEα3 EEα4 NYINα5 OOα6 GUEI",
   "α7 GUANα8 GUα9 NONz70 NYUNα1 RAα2 MBOOα3 VEEα4 MBOα5 LONG JOα6 HIα7 NGUANα8 ENα9 KUAz80 DOO",
   "α1 DOα2 VIα3 LONG NGGOα4 NGENα5 VAα6 HUα7 MBUUα8 MBEEα9 MUENz90 GEEα1 NDEEα2 NJUα3 HONα4 WUI",
   "α5 ANα6 SIAα7 FUAdORAH WITH NINE BRANCHESdS SYMBOLcRCURYdOITIC CURSIVE FRACTION EIGHT TWELFTHS",
   "βLEVEN TWELFTHSαFIVE TWELFTHSβOUR TWELFTHSαNINE TWELFTHSαONE HALFεTWELFTHαSEVEN TWELFTHS",
   "βIX TWELFTHSαTEN TWELFTHSβHREE TWELFTHSβWO TWELFTHSrLETTER AzRCHAIC SAyBAyDAyEyHHAyIyKAzHAyLA",
   "yMAyNAzEyOyPAyQAyRAySAzEyTAzEzOyWAyYAsOGOGRAM IMNαRMTrNUMBER EIGHTδ HUNDREDμ THOUSANDεTHOUSAND",
   "δY THOUSANDyFIFTYδ THOUSANDαVEγ HUNDREDλ THOUSANDδTHOUSANDzORTYδ THOUSANDαURγ HUNDRED",
   "λ THOUSANDδTHOUSANDyNINEγ HUNDREDλ THOUSANDδTHOUSANDγTY THOUSANDyONEβ HUNDREDκ THOUSAND",
   "γTHOUSANDySEVENδ HUNDREDμ THOUSANDεTHOUSANDδTYζ THOUSANDzIXβ HUNDREDκ THOUSANDγTHOUSANDβTY",
   "δ THOUSANDyTENβ THOUSANDzHIRTYε THOUSANDαREEδ HUNDREDμ THOUSANDεTHOUSANDzWENTYε THOUSANDαO",
   "β HUNDREDκ THOUSANDγTHOUSANDjHIEROGLYPHIC LETTER AδBAζ-2δDAδEδHHAδIδKAεHAδLAδMAδNAζ-2εEζ-2δO",
   "δPAδQAδRAζ-2δSAζ-2εEδTAζ-2εEζ-2εOδWAδYAwSYMBOL VIDJθ-2dPERSONcSSAGE WAITINGcTRICAL BREVE",
   "jLONG OVER SHORTtTWO SHORTSjPENTASEMEjSHORT OVER LONGjTETRASEMEkRISEMEkWO SHORTS JOINED",
   "uOVER LONGeObIAO LETTER AHnRCHAIC MAuNAvGAuZZAmBAnRImDAnDAnLHApYAnZAoHAoYIoZAmFAmGAnHAoHAmHA",
   "nHAmKAmLAnHAoYAnYAmMAnHAmNAoSALIZATIONnGAoHAnHAnNAoHAnYAoHAmPAnLAmQAnGAmREFORMED TONE-1α2α4α5",
   "α6α8wSHAnTEmSAnHAnSAnYImTAnEnLHApYAnONE-2r3r4r5r6r7r8nSAoEoHAoSAnTAmVAnFAmWAmXAmYI DZHApKApNNA",
   "pPApTAqSArHAqTAmZAnHAnSAoHAnZAoSApYAoYAfSIGN ASPIRATIONkCONSONANT MODIFIER BAR",
   "kREFORMED ASPIRATIONtVOICINGfTONE ABOVEkBELOWkRIGHTkTOP RIGHTfVOWEL SIGN ArArEsErHHrIrNsGrUqE",
   "rArIrNsGrRsRqIrAsNtGrErGrIrNGrOsNGrUqNrGqOrERsYrGrOrUqROUNDED ERαRqUrAsNtGrEIrIrNGrOGrUqVWqWrO",
   "qYrIrUIcCR DASH SYMBOLfON US SYMBOLeO SIGNfBEfPHONEfSCOPEcDDLE DOT",
   "hTHIRD WHITE RIGHT POINTING INDEXdLINE HORIZONTAL ELLIPSIScLITARY HELMETjMEDALdKY WAYdL SIGN",
   "cNIBUSeDISCeMIZEdUS SIGNk IN TRIANGLElWITH COMMA ABOVEqDOT BELOWqFALLING DOTSqRISING DOTS",
   "gTILDEf-OR-PLUS SIGNdYcRRORg BALLbMSPbOBILE PHONEm OFFnWITH RIGHTWARDS ARROW AT LEFTcDELS",
   "eRN PENTATHLONdI ABBREVIATION SIGNfDANDAgIGIT EIGHTlFIVEmOURlNINElONElSEVENmIXlTHREEmWOlZERO",
   "gOUBLE DANDAfLETTER AnAnInUmBAnHAmCAnHAmDAnDAoHAnHAmEmGAnHAmHAmInImJAnHAmKAnHAmLAnLAmMAmNAnGA",
   "nNAnYAmOmPAnHAmRAmSAnHAnSAmTAnHAnTAoHAmUnUmVAnOCALIC LvLuRvRmYAfSIGN ANUSVARAlRDHACANDRAkHUVA",
   "kVIRAMAmSARGAfVOWEL SIGN AArIrUqEqIrIqOqUrUqVOCALIC LzLyRzReFIER BREVE WITH INVERTED BREVE",
   "jLETTER ACUTE ACCENTrLVEOLAR CLICKrPOSTROPHEqBEGIN HIGH TONEwLOW TONErILABIAL CLICKqCAPITAL A",
   "zEyBzARRED ByCyDyEyFyGyHz WITH STROKEyIyJyKyLyMyNyOzUyPyQyRzEVERSED EθNyTyUyVyW",
   "rENTRED LEFT HALF RINGyRIGHT HALF RINGrHINESE TONE YANG PINGιQUιRUιSHANGεIN PINGθQUθRUθSHANG",
   "rIRCUMFLEX ACCENTrOLONrROSS ACCENTrYRILLIC ENzHARD SIGNzSOFT SIGNqDENTAL CLICK",
   "rOT HORIZONTAL BARuSLASHuVERTICAL BARsUBLE APOSTROPHExPRIMEsWN ARROWHEADvTACKqEND HIGH TONE",
   "uLOW TONErXTRA-HIGH DOTTED LEFT-STEM TONE BARιTONE BARβLEFT-STEM TONE BARβTONE BAR",
   "wLOW DOTTED LEFT-STEM TONE BARθTONE BARαLEFT-STEM TONE BARαTONE BARqGEORGIAN NARrLOTTAL STOP",
   "γ WITH STROKErRAVE ACCENTqHALF TRIANGULAR COLONrIGH DOTTED LEFT-STEM TONE BARγTONE BAR",
   "vLEFT-STEM TONE BARvTONE BARqLATERAL CLICKrEFT ARROWHEADvHALF RINGvTACKrOW ACUTE ACCENT",
   "uCIRCUMFLEX ACCENTuDOTTED LEFT-STEM TONE BARβTONE BARwWN ARROWHEADuGRAVE ACCENT",
   "uINVERTED EXCLAMATION MARKuLEFT ARROWεHEADy-STEM TONE BARuMACRONuRIGHT ARROWHEADwNGuTILDE",
   "vONE BARuUP ARROWHEADuVERTICAL LINEtER RIGHT CORNER ANGLEqMACRONrID DOTTED LEFT-STEM TONE BAR",
   "βTONE BARuLEFT-STEM TONE BARuTONE BARtDLE DOUBLE ACUTE ACCENTεGRAVE ACCENTxGRAVE ACCENT",
   "sNUS SIGNqOPEN SHELFqPLUS SIGNrRIMEqRAISED COLONxDOWN ARROWxEXCLAMATION MARK",
   "xINVERTED EXCLAMATION MARKxUP ARROWrETROFLEX CLICK WITH RETROFLEX HOOKsVERSED COMMA",
   "zGLOTTAL STOPμ WITH STROKErHOTIC HOOKrIGHT ARROWHEADwHALF RINGwTACKqSHELFsORT EQUALS SIGN",
   "rMALL AxExINxLPHAwBx WITH HOOKxARRED OxETAxOTTOM HALF OwCx WITH CURLxAPITAL AAεBεGζ WITH HOOK",
   "εHεIζ WITH STROKEζNVERTED RεLζ WITH BELTεNεOEεRεUεYxHIxLOSED OMEGAδREVERSED OPEN EwD",
   "x WITH HOOKθ AND TAILδTAILxELTAyZH DIGRAPHxOTLESS J WITH STROKEς AND HOOKxZ DIGRAPHη WITH CURL",
   "νRETROFLEX HOOKwExNGxSHxTHxZHwFxENG DIGRAPHwGx WITH HOOKxAMMAxREEK GAMMAγPHIwHx WITH HOOK",
   "δSTROKExENGα WITH HOOKwI WITH STROKExOTAwJx WITH CROSSED-TAILwKwLx WITH BELTδINVERTED LAZY S",
   "δMIDDLE TILDEδPALATAL HOOKδRETROFLEX HOOKς AND BELTxEZHα WITH RETROFLEX HOOKxIGATURE OE",
   "xS DIGRAPHxZ DIGRAPHwMx WITH HOOKwN WITH LEFT HOOKδRETROFLEX HOOKwOx WITH STROKExPEN EβOwPxHI",
   "wQwRx WITH FISHHOOKδTAILxAMS HORNxEVERSED EζGLOTTAL STOPζOPEN EwSx WITH CURLδHOOKxCHWAyRIPT G",
   "xIDEWAYS UwTx WITH PALATAL HOOKδRETROFLEX HOOKxC DIGRAPH WITH CURLxESH DIGRAPHxHETAxOP HALF O",
   "xS DIGRAPHη WITH RETROFLEX HOOKxURNED AεEεLPHAδHδIδMε WITH LONG LEGδOPEN EδRε WITH HOOK",
   "λLONG LEGσ AND RETROFLEX HOOKδVδWδYε WITH BELTwUx BARyWITH LEFT HOOKxPSILONwVx WITH HOOK",
   "δRIGHT HOOKwWwXwYwZx WITH CURLδRETROFLEX HOOKrTRESS AND HIGH TONEβLOW TONE",
   "rUPERSCRIPT HALF TRIANGULAR COLONγTRIANGULAR COLONqTRIANGULAR COLONrURNED COMMAqUNASPIRATED",
   "rP ARROWHEADtTACKrSqVERTICAL LINErOICINGqYANG DEPARTING TONE MARKrIN DEPARTING TONE MARK",
   "dULO TWO SUMcNEY BAGgWITH WINGSf-MOUTH FACEdGOLIAN BIRGAp WITH DOUBLE ORNAMENTvORNAMENTkCOLON",
   "mMMAkDIGIT EIGHTqFIVErOURqNINEqONEqSEVENrIXqTHREErWOqZEROlOUBLE BIRGA WITH ORNAMENTkELLIPSIS",
   "kFOUR DOTSlREE VARIATION SELECTOR FOURιONEιTHREEκWOlULL STOPkINVERTED BIRGA",
   "y WITH DOUBLE ORNAMENTkLETTER AsLI GALI AβHβNUSVARA ONEαBALUDAαCAαDAγGALGAγMARUβDAαHALF UζYAαI",
   "βNVERTED UBADAMAαKAαNGAβNAαPAβHAαSSAαTAβHREE BALUDAβTAγHAαUBADAMAαVISARGA ONEαZAβHAsNGrBArCHA",
   "u WITH TWO DOTStIrDArEsErFArGArHAArIrJArKAsHArLAsHArMAtNCHU ALI GALI BHAθCAιYAθDDHAιHAθGHAθJHA",
   "θLHAθNGAθSSAθTAιTAθZAιHAyFAyIyKAyRAyZHArNArOsErPArQArRArSAsHAsIBE ANGwCHAwDAwEwFAwGAyAwHAyAwI",
   "xYwJAwKAwPAwRAAwSHAwTAxSAwUxEwZAxHArTAsODO ALI GALI TAζZHAxNGwBAwCHAwDAxZAwEwGAyAwHAAwIwJAxIA",
   "wKAwLONG VOWEL SIGNwMAwNIAwOxEwPAwQAwTAxSAwUxEwWAwYAsSArUsErWArYArZAsHIsRAkMANCHU COMMA",
   "rFULL STOPkNIRUGUkROTATED BIRGAx WITH DOUBLE ORNAMENTδORNAMENTkSIBE SYLLABLE BOUNDARY MARKER",
   "lWIRL BIRGAv WITH DOUBLE ORNAMENTβORNAMENTkTODO SOFT HYPHENlRIPLE BIRGA WITH ORNAMENT",
   "lURNED SWIRL BIRGA WITH DOUBLE ORNAMENTkVOWEL SEPARATORdKEYg FACEdOGRAM FOR EARTHnYANGoINeRAIL",
   "eSTABLE SYMBOLcOD BUBBLEdN CAKEfVIEWING CEREMONYcSQUEfITOcTHER CHRISTMASdOR BOATgSCOOTER",
   "fIZED WHEELCHAIRfWAYcUNT FUJIfAINi BICYCLISTjCABLEWAYjRAILWAYdSEf FACEgTRAPdTHcVIE CAMERAcYAI",
   "bRO DANDAfIGIT EIGHTkFIVElOURkNINEkONEkSEVENlIXkTHREElWOkZEROfOUBLE DANDAeLETTER AlBAlCHUlDAnI",
   "lEmAlHAInOlKEAAEmHAImOlLAnNlMAEMmIMlNGImINlOmLmOlPAmHIlRImOlSHIlTAmEKmHEAlWAlYO",
   "bUCH GREATER-THANfLESS-THANcLTANI LETTER ApBAqHApCAqHApDAqDArDArHAqHApEpGAqHApHApIpJAqJApKAqHA",
   "pLApMApNAqNAqYApPAqHApRAqHAqRApSApTAqHAqTArHApUpVApYAiSECTION MARKeIMAPfPLE MUSICAL NOTES",
   "hICATION SIGNt IN DOUBLE CIRCLExLEFT HALF CIRCLExRIGHT HALF CIRCLExTRIANGLEuWITH DOT ABOVE",
   "zUNDERBARpXfSETi MULTIPLICATIONjUNIONcSHROOMdIC FLAT SIGNgNATURAL SIGNgSHARP SIGNfAL KEYBOARD",
   "q WITH JACKSiNOTEiSCOREjYMBOL ARPEGGIATO DOWNαUPpBEGIN BEAMvPHRASEvSLURvTIEqRACEtKETrEATH MARK",
   "sVEtISv RESTpC CLEFqAESURAqIRCLE X NOTEHEADqLIMACUSsVISrUSTER NOTEHEAD BLACKηWHITEqODA",
   "rMBINING ACCENTζ-STACCATOαUGMENTATION DOTzBENDzDOITβUBLE TONGUEβWN BOWzFLAG-1ε2ε3ε4ε5βIP",
   "zHARMONICzLOUREzMARCATOη-STACCATOzRIPzSMEARαNAP PIZZICATOαPRECHGESANG STEMαTACCATISSIMOηOβEM",
   "zTENUTOαREMOLO-1θ2θ3βIPLE TONGUEzUP BOWsMON TIMEqRESCENDOrOIXqUT TIMEpDA CAPOrL SEGNOrMPt ALL",
   "rSHED BARLINEqECRESCENDOrGREE SLASHqOUBLE BARLINEwFLATwSHARPqRUM CLEF-1z2pEIGHTH NOTEwREST",
   "qND BEAMtOF STIMMEtPHRASEtSLURtTIEpF CLEFv OTTAVA ALTAδBASSAqERMATAw BELOWqINAL BARLINE",
   "sGERED TREMOLO-1η2η3rVE-LINE STAFFqLAT DOWNuUPqORTErUR-LINE STAFFuSTRING FRETBOARDqUSA BLACK",
   "uWHITEpG CLEFv OTTAVA ALTAδBASSAqLISSANDO DOWNzUPqRACE NOTE NO SLASHαSLASHrEGORIAN C CLEF",
   "zF CLEFpHALF NOTEuPEDAL MARKuRESTrUPTSTIMMEpINVERTED TURNpKIEVAN C CLEFwEIGHTH NOTE STEM DOWN",
   "ξUPxND OF PIECEwFINAL NOTExLAT SIGNwHALF NOTEwQUARTER NOTE STEM DOWNοUPwRECITATIVE MARK",
   "wWHOLE NOTEqORONpLEFT REPEAT SIGNqONGAu IMPERFECTA RESTvPERFECTA RESTpMAXIMAqEZZOqINIMAv BLACK",
   "wRESTqOON NOTEHEAD BLACKδWHITEqULTI RESTuPLE MEASURE RESTpNATURAL DOWNxUPqEBENSTIMME",
   "qOTEHEAD BLACKqULL NOTEHEADpONE HUNDRED TWENTY-EIGHTH NOTEπRESTs-LINE STAFFqRNAMENT STROKE-1η0",
   "η1ζ2ζ3ζ4ζ5ζ6ζ7ζ8ζ9qTTAVA ALTAwBASSApPARENTHESIS NOTEHEADqEDAL MARKvUP MARKrS SUBPUNCTISqIANO",
   "qLUS NOTEHEADqODATUSrRRECTUSy FLEXUSpQUARTER NOTExRESTxTONE FLATγSHARPrINDICESIMA ALTAγBASSA",
   "pREPEAT DOTSvED FIGURE-1ζ2ζ3rVERSE FINAL BARLINEqIGHT REPEAT SIGNrNFORZANDOpSCANDICUSy FLEXUS",
   "qEGNOrMIBREVIS BLACKαRESTαWHITEtMINIMA BLACKαRESTαWHITEqHARP DOWNvUPrORT BARLINEqINGLE BARLINE",
   "rX-LINE STAFFtSTRING FRETBOARDsTEENTH NOTEzRESTtY-FOURTH NOTEγRESTqORIqQUARE BwNOTEHEAD BLACK",
   "ζWHITEqUBITOpTEMPUS IMPERFECTUM CUM PROLATIONE IMPERFECTAωMPERFECTA DIMINUTION-1",
   "ωMPERFECTA DIMINUTION-2ωMPERFECTA DIMINUTION-3ψPERFECTAwPERFECTUM CUM PROLATIONE IMPERFECTA",
   "φPERFECTAωFECTA DIMINUTION-1qHIRTY-SECOND NOTEδRESTrREE-LINE STAFFqORCULUSx RESUPINUSqR",
   "rIANGLE NOTEHEAD DOWN BLACKνWHITEθLEFT BLACKνWHITEθRIGHT BLACKξWHITEθUP BLACKλRIGHT BLACK",
   "ρWHITEλWHITEx-ROUND NOTEHEAD DOWN BLACKσWHITEqURNt SLASHuUPqWO-LINE STAFFpVIRGAqOID NOTEHEAD",
   "pWHOLE NOTEvRESTqITH FINGERNAILSpX NOTEHEADpZbVSbWbYANMAR CONSONANT SIGN MEDIAL HAεRAεWAεYA",
   "yON MEDIAL LAιMAιNAxSHAN MEDIAL WAiDIGIT EIGHToFIVEpOURoNINEoONEoSEVENpIXoTHREEpWOoZERO",
   "iLETTER AqITON RAqUpBAqHApCAqHApDAqDArHAqHApEqASTERN PWO KAREN GHWAθNNAθYWApGAqHAqREAT SApHApI",
   "qIpJAqHApKAqHAsMTI CAxHAwDDAyHAxHAwFAwGAwHAxHAwJAxHAwLLAwNAxYAwRAwSAwTTAyHAwXAwZApLAqLApMA",
   "qON BBAvEtEtJHAtNGApNAqGAqNArYAqYApOpPAqHApRAqUMAI PALAUNG FApSAqGAW KAREN SHAqHAsN AuBAvHAuCA",
   "vHAuDAuFAuGAvHAuHAuJHAuKAvHAuNAvNAvYAuPHAuTHAuZArWE PALAUNG CHAγSHAqSApTArI LAING BAαHAzDAαDA",
   "βHAαHAzFAzGAαHAzJAαHAzLLAzNNAαYAqHAqTArHApUqUpVOCALIC LyLxRyRpWAqESTERN PWO KAREN PWAθTHApYA",
   "jOGOGRAM KHAMTI HMyOAYyQNiMODIFIER LETTER KHAMTI REDUPLICATIONySHAN REDUPLICATION",
   "iSHAN DIGIT EIGHTtFIVEuOURtNINEtONEtSEVENuIXtTHREEuWOtZEROjIGN ANUSVARAoSATnDOT BELOW",
   "nKHAMTI TONE-1z3nLITTLE SECTIONnPAO KAREN TONEnRUMAI PALAUNG TONE-5nSECTION",
   "oHAN COUNCIL EMPHATIC TONEαTONE-2ζ3sSAWsTONE-2x3x5x6nTAI LAING TONE-2γ5nVIRAMApSARGA",
   "nWESTERN PWO KAREN TONE-1λ2λ3λ4λ5jYMBOL AFOREMENTIONEDqITON EXCLAMATIONvONEvTWOpCOMPLETED",
   "pGENITIVEpLOCATIVEpSHAN EXCLAMATIONuONEiTAI LAING DIGIT EIGHTyFIVEzOURyNINEyONEySEVENzIXyTHREE",
   "zWOyZEROjONE MARK SGAW KAREN HATHIδKE PHOiVOWEL SIGN AAuIvTON AαItEu ABOVEtGEBA KAREN ItIuI",
   "tKAYAH EEzOEzUtMON IIxOtSGAW KAREN EUuHAN AAyEz ABOVEyFINAL YtTALL AAtUuUtVOCALIC LγLβRγR",
   "tWESTERN PWO KAREN EUμUEaN-ARY CIRCLED DOT OPERATORoPLUS OPERATORoTIMES OPERATORhOPRODUCT",
   "gINTERSECTIONgLOGICAL ANDoORgPRODUCTgSQUARE INTERSECTION OPERATORnUNION OPERATORhUMMATION",
   "gTIMES OPERATORgUNIONl OPERATOR WITH DOTαPLUSgWHITE VERTICAL BAR",
   "bABATAEAN CRUCIFORM NUMBER FOURkLETTER ALEPHsYINrBETHrDALETHrFINAL ALEPHxBETHxHExKAPHxLAMEDH",
   "xMEMxNUNxSHINxYODHrGIMELrHEtTHrKAPHrLAMEDHrMEMrNUNrPErQOPHrRESHrSADHEtMEKHsHINrTAWsETHrWAW",
   "rYODHrZAYINkNUMBER FIVEsOURrONEu HUNDREDrTENsHREEsWENTYtOdLAcIL POLISHdRA SIGNcKcME BADGEcND",
   "eINAGARI HEADSTROKEmLETTER AuAuIuUtBAuHAtCAuHAtDAuDAvHAuHAtEtGAuHAtHAtIuItJAuHAtKAuHAtLAuLAtMA",
   "tNAuGAuNAuYAtOtPAuHAtRAuRAtSAuHAuSAtTAuHAuTAvHAtUuUtVAuOCALIC RγRtYAmSIGN ANUSVARAsVAGRAHA",
   "rSIDDHAMrVIRAMAtSARGAmVOWEL SIGN AAyIyUxExIyIxOxPRISHTHAMATRA ExUyUxVOCALIC RηR",
   "cRROW NO-BREAK SPACEcTIONAL DIGIT SHAPESjPARKcUSEATED FACEcZAR AMULETbBHcSPbECKTIE",
   "cGATED DOUBLE VERTICAL BAR DOUBLE RIGHT TURNSTILEfIVE ACKNOWLEDGEjCIRCLED DIGIT ZERO",
   "rLATIN CAPITAL LETTER AνBνCνDνEνFνGνHνIνJνKνLνMνNνOνPνQνRνSνTνUνVνWνXνYνZrNUMBER EIGHTEEN",
   "zLEVENyFIFTEENzOURTEENyNINETEENySEVENTEENzIXTEENyTHIRTEENzWELVEβNTYrSQUARErTRIANGLE",
   "jDIAGONAL CROSSsDIAMONDsMIDDLE RIGHT TO LOWER CENTREjSQUARED ABrCROSS MARKrIC",
   "rLATIN CAPITAL LETTER AνBνCνDνEνFνGνHνIνJνKνLνMνNνOνPνQνRνSνTνUνVνWνXνYνZrPArQUESTION MARKrSA",
   "rWCcITHER A SUBSET OF NOR EQUAL TOmPERSET OF NOR EQUAL TOjPPROXIMATELY NOR ACTUALLY EQUAL TO",
   "iGREATER-THAN NOR EQUAL TOγIVALENT TOzLESS-THANiLESS-THAN NOR EQUAL TOzIVALENT TOwGREATER-THAN",
   "cLcPTUNEh FORM TWOcRD FACEcSSUSdT WITH EGGSeING DOLLScUTEReRAL CHESS BISHOP",
   "u ROTATED NINETY DEGREESδTWO HUNDRED SEVENTY DEGREESoEQUIHOPPERy ROTATED NINETY DEGREESoKING",
   "s ROTATED NINETY DEGREESβTWO HUNDRED SEVENTY DEGREESpNIGHTu ROTATED FORTY-FIVE DEGREES",
   "δNINETY DEGREESδONE HUNDRED THIRTY-FIVE DEGREESδTHREE HUNDRED FIFTEEN DEGREES",
   "εWO HUNDRED SEVENTY DEGREESπTWENTY-FIVE DEGREESoPAWNs ROTATED NINETY DEGREES",
   "βTWO HUNDRED SEVENTY DEGREESoQUEENt ROTATED NINETY DEGREESγTWO HUNDRED SEVENTY DEGREESoROOK",
   "s ROTATED NINETY DEGREESβTWO HUNDRED SEVENTY DEGREESoTURNED BISHOPvKINGwNIGHTvPAWNvQUEENvROOK",
   "iFACEcW LINEeMOON SYMBOLjWITH FACEeSHEQEL SIGNeTAI LUE DIGIT EIGHTsFIVEtOURsNINEsONEsSEVENtIX",
   "sTHREEtWOsZEROmLETTER FINAL BzDzKzMzNαGzVtHIGH BAyDAyFAyHAyKAzVAyLAyMAyNAzGAyPAzHAyQAySAzUAyTA",
   "zHAzSAyVAyXAzVAyYAtLOW BAxDAxFAxHAxKAyVAxLAxMAxNAyGAxPAyHAxQAxSAyUAxTAyHAySAxVAxXAyVAxYA",
   "mSIGN LAEuVmTHAM DIGIT ONEnONE MARK-1w2mVOWEL SIGN AAzYyEyYxExIIyYxOyAzYyYxUyEzYyUyY",
   "xVOWEL SHORTENERdA ABBREVIATION SIGNfCOMMAfDANDAgIGIT EIGHTlFIVEmOURlNINElONElSEVENmIXlTHREE",
   "mWOlZEROgOUBLE COMMAmDANDAfGAP FILLERfINSERTION SIGNfLETTER AnAnInUmBAnHAmCAnHAmDAnDAoHAnHAmE",
   "mGAnHAmHAmInImJAnHAmKAnHAmLAnHAmMAnHAmNAnGAoHAnHAnNAnYAoHAmOmPAnHAmRAnHAmSAnHAnSAmTAnHAnTAoHA",
   "mUnUmVEDIC ANUSVARAnOCALIC LvLuRvRmWAmYAfOMfPLACEHOLDER MARKfSANDHI MARKgIDDHIhGN ANUSVARA",
   "lVAGRAHAkCANDRABINDUkFINAL ANUSVARAkJIHVAMULIYAkNUKTAkUPADHMANIYAkVIRAMAmSARGAfVOWEL SIGN AArI",
   "rUqEqIrIqOqUrUqVOCALIC LzLyRzRdLINE LEFTiRIGHTdSPAPERcXT LINEfPAGEbIGHT WITH STARScNJA",
   "bKO COMBINING DOUBLE DOT ABOVEoLONG DESCENDING TONEtHIGH TONEtLOW TONEtRISING TONE",
   "oNASALIZATION MARKoSHORT HIGH TONEuLOW TONEuRISING TONEhMAeDANTAYALANfIGIT EIGHTkFIVElOURkNINE",
   "kONEkSEVENlIXkTHREElWOkZEROfOROME SIGNeEXCLAMATION MARKeHIGH TONE APOSTROPHEeLAJANYALAN",
   "fETTER AlBAlCHAlDAnGBASINNAlEmElFAlGBAlHAlIlJAmONA CHAqJAqRAlKAlLAlMAlNmAn WOLOSOmYAo WOLOSOlO",
   "mOlPAlRAmRAlSAlTAlUlWAlYAfOW TONE APOSTROPHEeSYMBOL GBAKURUNENlOO DENNENeTAMAN SIGNbLbNBSP",
   "bO BICYCLESeREAK HEREdENTRYi SIGNdMOBILE PHONESdONE UNDER EIGHTEEN SYMBOLdPEDESTRIANSeIRACY",
   "dSMOKING SYMBOLc-BREAK SPACEcMINAL DIGIT SHAPESeSMA SIGNcN-BREAKING HYPHEN",
   "ePOTABLE WATER SYMBOLdFORKINGcRdDIC MARK SIGNdMAL SUBGROUP OFs OR EQUAL TO",
   "dTH EAST AND SOUTH WEST ARROWmRROWq AND SOUTH EAST ARROWrCROSSING NORTH WEST ARROW",
   "αSOUTH EAST ARROWrWITH HOOKlBLACK ARROWlDOUBLE ARROWlPOINTING BUDuLEAFuVINE LEAF",
   "lSANS-SERIF ARROWlTRIANGLE-HEADED ARROWη TO BARlWHITE ARROWgINDIC FRACTION ONE EIGHTHzHALF",
   "zQUARTERzSIXTEENTHvTHREE QUARTERSβSIXTEENTHSmPLACEHOLDER MARKmQUANTITY MARKpRTER MARK",
   "mRUPEE MARKgWEST AND SOUTH EAST ARROWmRROWq AND NORTH EAST ARROWrCROSSING NORTH EAST ARROW",
   "rTO CORNERuLONG BARrWITH HOOKlBLACK ARROWlDOUBLE ARROWlPOINTING BUDuLEAFuVINE LEAF",
   "lSANS-SERIF ARROWlTRIANGLE-HEADED ARROWη TO BARlWHITE ARROWfEAST-POINTING AIRPLANEcSE",
   "cT A SUBSET OFiPERSET OFfLMOST EQUAL TOfN ELEMENT OFfSYMPTOTICALLY EQUAL TOeCHECK MARK",
   "eEQUAL TOhIVALENT TOeGREATER-THANeIDENTICAL TOeLESS-THANeNORMAL SUBGROUP OFw OR EQUAL TO",
   "ePARALLEL TOeSIGNfQUARE IMAGE OF OR EQUAL TOlORIGINAL OF OR EQUAL TOeTILDEfRUE",
   "dCHED LEFT SEMICIRCLE WITH THREE DOTSjOWER RIGHT-SHADOWED WHITE RIGHTWARDS ARROW",
   "iRIGHT SEMICIRCLE WITH THREE DOTSiUPPER RIGHT-SHADOWED WHITE RIGHTWARDS ARROWdEe PADhGEeBOOK",
   "i WITH DECORATIVE COVERbULdLcMBER EIGHTEEN FULL STOPiLEVEN FULL STOPhFIFTEEN FULL STOP",
   "iOURTEEN FULL STOPhNINETEEN FULL STOPhSEVENTEEN FULL STOPiIGNjXTEEN FULL STOPhTEN FULL STOP",
   "iHIRTEEN FULL STOPiWELVE FULL STOPkNTY FULL STOPdERO SIGNcSHU CHARACTER-1B170u1u2u3u4u5u6u7u8",
   "u9uAuBuCuDuEuFt80u1u2u3u4u5u6u7u8u9uAuBuCuDuEuFt90u1u2u3u4u5u6u7u8u9uAuBuCuDuEuFtA0u1u2u3u4u5",
   "u6u7u8u9uAuBuCuDuEuFtB0u1u2u3u4u5u6u7u8u9uAuBuCuDuEuFtC0u1u2u3u4u5u6u7u8u9uAuBuCuDuEuFtD0u1u2",
   "u3u4u5u6u7u8u9uAuBuCuDuEuFtE0u1u2u3u4u5u6u7u8u9uAuBuCuDuEuFtF0u1u2u3u4u5u6u7u8u9uAuBuCuDuEuF",
   "s200u1u2u3u4u5u6u7u8u9uAuBuCuDuEuFt10u1u2u3u4u5u6u7u8u9uAuBuCuDuEuFt20u1u2u3u4u5u6u7u8u9uAuBuC",
   "uDuEuFt30u1u2u3u4u5u6u7u8u9uAuBuCuDuEuFt40u1u2u3u4u5u6u7u8u9uAuBuCuDuEuFt50u1u2u3u4u5u6u7u8u9",
   "uAuBuCuDuEuFt60u1u2u3u4u5u6u7u8u9uAuBuCuDuEuFt70u1u2u3u4u5u6u7u8u9uAuBuCuDuEuFt80u1u2u3u4u5u6",
   "u7u8u9uAuBuCuDuEuFt90u1u2u3u4u5u6u7u8u9uAuBuCuDuEuFtA0u1u2u3u4u5u6u7u8u9uAuBuCuDuEuFtB0u1u2u3",
   "u4u5u6u7u8u9uAuBuCuDuEuFtC0u1u2u3u4u5u6u7u8u9uAuBuCuDuEuFtD0u1u2u3u4u5u6u7u8u9uAuBuCuDuEuFtE0",
   "u1u2u3u4u5u6u7u8u9uAuBuCuDuEuFtF0u1u2u3u4u5u6u7u8u9uAuBgITERATION MARKcT AND BOLT",
   "bYIAKENG PUACHUE HMONG CIRCLED CAxDIGIT EIGHTδFIVEεOURδNINEδONEδSEVENεIXδTHREEεWOδZERO",
   "xLETTER AζAεCAεDAζLAεEζEεFAεGAεHAηHεIεKAεLAεMAζLAεNAζCAζKAζPAηLAζQAζRAζTAηSAηXAζYAεOζOεPAζLA",
   "εQAεRAζRAεSAεTAζSAζXAεUεVAεWεXAζYAεYAεZAyOGOGRAM NYAJxSIGN FOR ANIMALηINVERTEBRATEηLOCATION",
   "ηPERSONηTHINGγXW XWyYLLABLE LENGTHENERxTONE-BγDγGγJγMγSγVaOBJECT REPLACEMENT CHARACTER",
   "cLIQUE ANGLE OPENING DOWNwUPiHYPHENcSERVER EYE SYMBOLbCR AMOUNT OF CHECKeBELT BUCKLEfOW TIE",
   "fRANCH BANK IDENTIFICATIONeCHAIRfUSTOMER ACCOUNT NUMBEReDASHfOUBLE BACKSLASHeFORKeHOOK",
   "eINVERTED FORKcTAGONAL SIGNdOPUSbDENbFFICE BUILDINGbGHAM FEATHER MARKgLETTER AILMnBEITHnCEIRT",
   "oOLLnDAIRnEABHADHpDHADHpMHANCHOLLnFEARNnGORTnIFINoODHADHnLUISnMUINnNGEADALoIONnONNoRnPEITH",
   "nRUISnSAILoTRAIFnTINNEnUATHoILLEANNoRgREVERSED FEATHER MARKgSPACE MARKcONEKbHM SIGNbIL DRUM",
   "bK HAND SIGNbL CHIKI AHADjDIGIT EIGHTpFIVEqOURpNINEpONEpSEVENqIXpTHREEqWOpZERO",
   "jGAAHLAA TTUDDAAGjLETTER AAJsKsMsWrGrLrNGrTqEDDrNrPrRRqIHrNYrRrSqLAsArErIrOrUqOBrHrTTrVqUCrD",
   "rNNrYjMU TTUDDAGl-GAAHLAA TTUDDAAGjPHAARKAAkUNCTUATION DOUBLE MUCAADvMUCAADjRELAA",
   "cD CHINESE HOOK MARKmITERATION MARKeHUNGARIAN CAPITAL LETTER AεAεKεMBεNDδCLOSE EδEεBεCζHζSεDεE",
   "εFεGζYεHεJεKεLζYεMζPεNζCζTη-SHAPED SIGNζYεPεRεSζZεTζYεVεZζSδIεIδNIKOLSBURG OEοUEδOεEEεO",
   "δRUDIMENTA OEξUEδSHORT ERδUεNKεSεUoNUMBER FIFTYxVEvONEy HUNDREDzTHOUSANDvTENoSMALL LETTER AγA",
   "γKγMBγNDβCLOSE EβEγBγCδHδSγDγEγFγGδYγHγJγKγLδYγMδPγNδCδTε-SHAPED SIGNδYγPγRγSδZγTδYγVγZδSβIγI",
   "βNIKOLSBURG OEνUEβOγEEγOβRUDIMENTA OEμUEβSHORT ERβUγNKγSγUeITALIC LETTER AsBEsCHEsDEsEtFtKStL",
   "tMtNtRuStSuHuSsHEsItIsKAtEtHEtUsNORTHERN TSEsOsPEtHEsSHEtOUTHERN TSEsTEtHEsUtUsVEsYEsZE",
   "lNUMERAL FIFTYvVEtONEtTENeKEYeNORTH ARABIAN LETTER AINαLEFzBEHzDADβLzES-1γ2γ3zFEHzGEEMαHAIN",
   "zHAHαEHzKAFαHAHzLAMzMEEMzNOONzQAFzREHzSADzTAHαEHαHALβEHzWAWzYEHzZAHβINsNUMBER ONEzTENαWENTY",
   "ePERMIC LETTER ANsBURsCHERYsDOItZHOIuITAsEtFsGAIsHAsItAtEsKOKEsLEIsMENOEsNENOEsOtOsPEEIsREI",
   "sSHCHOOIuOOItIIsTAItSIUsUsVERtOOIsYAuTtERvIvUtRYtUsZATAtHOIhSIAN NUMBER HUNDREDtONEtTENuWENTY",
   "vOmSIGN AsURAMAZDAAβ-2βHArBAtGAsUUMISHrCArDAtHYAAUSHα-2sIsUrFArGAsUrHArIrJAsIrKAsUrLArMAsIsU",
   "rNAsUrPArRAsUrSAsHAsSArTAsHAsUrUrVAsIrXAsSHAAYATHIYArYArZAmWORD DIVIDERiONAL COMPUTER",
   "eSOGDIAN FRACTION ONE HALFmLETTER ALEPHvTERNATE AYINuYINtBETHtFINAL ALEPHzBETHzHEzNUN",
   "γ WITH VERTICAL TAILzSADHEε WITH VERTICAL TAILzTAWγ WITH VERTICAL TAILtGIMELtHEvTHtKAPHtLAMEDH",
   "tMEMtNUNtPEtRESH-AYIN-DALETHtSADHEvMEKHuHINtTAWtWAWtYODHtZAYINnIGATURE AYIN-DALETHmNUMBER FIVE",
   "uOURtONEw HUNDREDtTENuHIRTYvREEuWENTYvOgUTH ARABIAN LETTER ALEFαYNzBETHzDALETHαHADHEγLETHzFE",
   "zGHAYNαIMELzHEβTHzKAPHαHETHzLAMEDHzMEMzNUNzQOPHzRESHzSADHEβMEKHβTαHINzTAWαETHαHAWβETHzWAWzYODH",
   "zZAYNsNUMBER FIFTYzONEvERIC INDICATOReTURKIC LETTER ORKHON AαBαDαEBβDβGβKβLβNβRβSβTβYαGαLαNαQ",
   "αRαSβHαTαYzBASHzECαLTαMαNCβGβTβYαPαSHαZzIαCαQzOαEβKαPαQαTsYENISEI AβBβDβEγBγGγKγNδGγTγYβGβLβNG",
   "βQβRβSHβTβYαEβCβNCγTγYβSHβZαIβQαOEγKβQeUYGHUR COMBINING DOT ABOVEzBELOWvTWO DOTS ABOVEεBELOW",
   "lLETTER ALEPHsBETHsFINAL HETHsGIMEL-HETHsKAPHsLAMEDHtESHsMEMsNUNsPEsRESHsSADHEuMEKHtHINsTAW",
   "sWAWsYODHsZAYINlPUNCTUATION BARxFOUR DOTSxTWO BARSβDOTSdER ADULTgMANgWOMANcIVEbM SYMBOL",
   "bN WITH EXCLAMATION MARK WITH LEFT RIGHT ARROW ABOVEcCOMING AUTOMOBILEjBUSjFIRE ENGINE",
   "jPOLICE CARjTAXIcE BUTTON MOUSEeDOT LEADERiOVER TWO DOTS PUNCTUATIONd-PIECE SWIMSUITcION",
   "bPEN BOOKhXfCENTRE ASTERISKmBLACK STARmCROSSmTEARDROP-SPOKED ASTERISKfFILE FOLDERgOLDER",
   "fHANDS SIGNfLOCKfMAILBOX WITH LOWERED FLAGsRAISED FLAGfSUBSEThPERSET",
   "e-CIRCUIT-OUTPUT H-TYPE SYMBOLuL-TYPE SYMBOLfOUTLINED RIGHTWARDS ARROWdRATING SYSTEM COMMAND",
   "cHIUCHUScPOSITIONcTICAL DISCm ICONeON KEYbR WITH DOT INSIDEcANGE BOOKhHEARTfUTANcIGINAL OF",
   "dYA AI LENGTH MARKhU LENGTH MARKgDIGIT EIGHTmFIVEnOURmNINEmONEmSEVENnIXmTHREEnWOmZERO",
   "gFRACTION ONE EIGHTHtHALFtQUARTERtSIXTEENTHpTHREE QUARTERSvSIXTEENTHSgISSHARgLETTER AoAoIoUnBA",
   "oHAnCAoHAnDAoDApHAoHAnEnGAoHAnHAnIoInJAoHAnKAoHAnLAoLAnMAnNAoGAoNAoYAnOnPAoHAnRAoHAoRAnSAoHA",
   "oSAnTAoHAoTApHAnUoUnVAoOCALIC LwLvRwRnWAnYAoYAgSIGN ANUSVARAmVAGRAHAlCANDRABINDUlNUKTA",
   "lOVERLINElVIRAMAnSARGAgVOWEL SIGN AAsIsUrErIsIrOrUsUrVOCALIC LαLzRαRcNATE LEFT PARENTHESIS",
   "hRIGHT PARENTHESIScTHODOX CROSSbSAGE CAPITAL LETTER AwHwIxNvBRAvCHAvDHAvEwHCHAxKAxPAxTAySAwIN",
   "vGHAvHAwYAvIvKAwHAwYAvLAvMAvNAvOwINvPAvSAwHAvTAwSAxHAvUvWAvZAwHAgSMALL LETTER AuHuIvNtBRAtCHA",
   "tDHAtEuHCHAvKAvPAvTAwSAuINtGHAtHAuYAtItKAuHAuYAtLAtMAtNAtOuINtPAtSAuHAtTAuSAvHAtUtWAtZAuHAcC",
   "cMANYA DIGIT EIGHToFIVEpOURoNINEoONEoSEVENpIXoTHREEpWOoZEROiLETTER AqAqLEFpBApCAYNpDEELqHApEqE",
   "pFApGApHApIpJApKAAFqHApLAANpMIINpNUUNpOqOpQAAFpRApSAqHIINpTApUpWAWpXApYAbTTER",
   "dOMAN SIYAQ ALTERNATE NUMBER EIGHTζFIVEηOURκ HUNDREDζNINEζSEVENηIXι HUNDREDζTENι THOUSANDηHREE",
   "ηWOι THOUSANDoFRACTION ONE HALFβSIXTHoMARRATANoNUMBER EIGHTα HUNDREDβTHOUSANDαYβ THOUSAND",
   "vFIFTYα THOUSANDxVEz HUNDREDαTHOUSANDwORTYα THOUSANDxURz HUNDREDαTHOUSANDvNINEz HUNDRED",
   "αTHOUSANDzTYβ THOUSANDvONEy HUNDREDzTHOUSANDvSEVENα HUNDREDβTHOUSANDαTYγ THOUSANDwIXy HUNDRED",
   "zTHOUSANDyTYα THOUSANDvTENy THOUSANDwHIRTYβ THOUSANDxREEα HUNDREDβTHOUSANDwWENTYβ THOUSANDxO",
   "y HUNDREDzTHOUSANDbUNCE SIGNcTBOX TRAYdLINED BLACK STARjGREEK CROSSjLATIN CROSSjWHITE STAR",
   "bVERHEATED FACEeLAPhPING BLACK SQUARESmWHITE AND BLACK SQUARESsSQUARESfINEbWLbXbYSTERaPACKAGE",
   "cDdDING CHARACTERcGEe FACING UPfWITH CIRCLED TEXTlURLeReSdODAcHAWH HMONG CLAN SIGN FAJxHAMzWJ",
   "xKHAByOOyWMxLAUJyISxMUASxPHABxTHOJySABzHEEJzWBxVAJyWJxXYOOJxYAJyEEGoONSONANT AUxCAUyHAUxHAU",
   "yLAUyNAUxLAUxMAUxNAUyCHAUyKAUyLAUyTHAUzSAUxPLHAUxQHAUxRAUxVAUxXAUxYAUnDIGIT EIGHTtFIVEuOUR",
   "tNINEtONEtSEVENuIXtTHREEuWOtZEROnMARK CIM HOMwKESxHAVwSOxUAMwTAUMxUBnNUMBER HUNDRED MILLIONSβS",
   "uMILLIONSuTEN BILLIONSyTHOUSANDSxSvRILLIONSnSIGN AVsCIM CHEEMxUAM TSHOOJwHAIS LUS NTOG NTOG",
   "wNRES TOSwPUB DAWBwTSOV ROGxXWVα CHWVsHLItNUBsIB YAMsLOSsMEEJ SUABxTSEEBtUSsNQIGtTUJsTAU",
   "tHIRD-STAGE HLItXHEEJ CEEVsVOS FEEMwLUBwNRUAwSEEVwTHIAByOMxSHAB CEEBsXAUStIABtYEEM FAIByNTXIV",
   "yRHOyTOVuOOsZWJ THAJnVOWEL KAABwVvBvIBwVvUBwVvVvWBwVuEBvEBwVvVuIABwVvBvVuOBvOBwVvVuUABwVvBvV",
   "uWBvVcLLASdM BRANCHfDOWN HANDfTREEfUP HANDeS UP TOGETHEReYRENE LEFT-POINTING FLEURON",
   "mTTER ALEPHsYINrBETHrDALETHrFINAL NUNrGIMELrHEtTHrKAPHrLAMEDHrMEMrNUNrPErQOPHrRESHrSADHEtMEKH",
   "sHINrTAWsETHrWAWrYODHrZAYINkNUMBER FIVEsOURrONErTENsHREEsWENTYtOkRIGHT-POINTING FLEURONcNCAKES",
   "dDA FACEcPERCLIPcRACHUTEeGRAPH SEPARATORjOSjUS MARKeLLEL TOjWITH HORIZONTAL STROKE",
   "oTILDE OPERATORdENTHESIZED DIGIT EIGHTuFIVEvOURuNINEuONEuSEVENvIXuTHREEvWOoHANGUL CHIEUCHγ A",
   "wIEUCα AβUvHIEUHα AvIEUNGα AvKHIEUKHγ AwIYEOKβ AvMIEUMα AvNIEUNα AvPHIEUPHγ AwIEUPα AvRIEULα A",
   "vSIOSz AvTHIEUTHγ AwIKEUTβ AoIDEOGRAPH ALLIANCEyCALLzONGRATULATIONyEARTHzIGHTzNTERPRISE",
   "yFESTIVALzINANCIALαREαVEzOURyHAVEyLABORyMETALzOONyNAMEzINEyONEyREACHαPRESENTαSOURCEβTySELFαVEN",
   "zIXzOCIETYzPECIALzTOCKαUDYzUNαPERVISEyTENzHREEzWOyWATERzOODoKOREAN CHARACTER O HUηJEON",
   "oLATIN CAPITAL LETTER AκBκCκDκEκFκGκHκIκJκKκLκMκNκOκPκQκRκSκTκUκVκWκXκYκZuSMALL LETTER AθBθCθD",
   "θEθFθGθHθIθJθKθLθMθNθOθPθQθRθSθTθUθVθWθXθYθZoNUMBER EIGHTEENwLEVENvFIFTEENwOURTEENvNINETEEN",
   "vSEVENTEENwIXTEENvTENwHIRTEENwWELVEyNTYdROTdT ALTERNATION MARKeIAL DIFFERENTIALiLINE BACKWARD",
   "nDOWNnFORWARDnUPhLY-RECYCLED PAPER SYMBOLeNERSHIP SIGNeY POPPERcSSED SYMBOLfNGER SHIP",
   "eIVE-PULL-DOWN-OUTPUT SYMBOLnUP-OUTPUT SYMBOLePORT CONTROLcU CIN HAU GLOTTAL STOPy FINAL",
   "zVARIANTmLETTER AtBAtCAuHAtDAtEtFAuINAL KzLzMzNαGzPzTzWzYtGAtHAtIuAtKAuHAtLAtMAtNAuGAtOtPAuHA",
   "tRAtSAtTAuHAtUuAtVAtZAnOW-FALLING TONEγ FINALδLONGθ FINALmMID-LEVEL TONEα FINALβLONG FINAL",
   "mRISING TONEx FINALyLONGγ FINALmSANDHI GLOTTAL STOPζ FINALtTONEx FINALyLONGγ FINALcW PRINTSbDF",
   "cIbEACE SYMBOLeHeOCKdNUTSdRcDESTRIANcN OVER STAMPED ENVELOPEdCILdGUINdSIVE FACEdTAGRAM",
   "cOPLE HUGGINGcR MILLE SIGNeSIGNeTEN THOUSAND SIGNdCENT SIGNdFORMING ARTSdMANENT PAPER SIGN",
   "dPENDICULARn WITH SdSEVERING FACEeON BOWING DEEPLYhCLIMBINGhDOING CARTWHEELhFROWNING",
   "hIN LOTUS POSITIONkSTEAMY ROOMhRAISING BOTH HANDS IN CELEBRATIONhWITH BALLnLOND HAIRmCROWN",
   "mFOLDED HANDSmHEADSCARFmPOUTING FACEgAL COMPUTERePECTIVEcSETA SIGNdO SIGNcTRI DISH",
   "bHAGS-PA DOUBLE HEAD MARKjLETTER ArLTERNATE YArSPIRATED FAqBAqCAsNDRABINDUrHAqDArDArZAqErEqFA",
   "qGArGAqHAqIqJAqKArHAqLAqMAqNArGArNArYAqOqPArHAqQAqRAqSArHArMALL AqTArHArSAsHArTAsHAqU",
   "qVOICED HAvLESS SHAqWAqXAqYAqZArHAjMARK DOUBLE SHADoSHADjSINGLE HEAD MARKkUBJOINED LETTER RA",
   "αWAαYAlPERFIXED LETTER RAdISTOS DISC SIGN ARROWtBEEwHIVEuOOMERANGvWuULLS LEGtCAPTIVE",
   "vRPENTRY PLANEvTuHILDuLUBuOLUMNvMBxINING OBLIQUE STROKEtDOLIUMvVEtEAGLEtFLUTEtGAUNTLETuRATER",
   "tHELMETuIDEuORNtLIDvLYtMANACLESvTTOCKtOX BACKtPAPYRUSuEDESTRIANuLANE TREEvUMED HEADtRAMuOSETTE",
   "tSAWuHIELDwPuLINGuMALL AXEuTRAINERtTATTOOED HEADuIARAuUNNYtVINEtWAVY BANDuOMAN",
   "cILIPPINE DOUBLE PUNCTUATIONlSINGLE PUNCTUATIONcOENICIAN LETTER AINtLFsBETsDELTsGAMLsHEuTsKAF",
   "sLAMDsMEMsNUNsPEsQOFsROSHsSADEtEMKtHINsTAUtETsWAUsYODsZAIlNUMBER ONEv HUNDREDsTENtHREEtWENTYuO",
   "lWORD SEPARATORdLUSbICKeUP TRUCKcEcGd FACEeNOSEcLCROW SIGNdE OF POOdLcNATAdCHED FINGERS",
   "fING HANDdE DECORATIONeAPPLEdWHEEL STARcSCESdTOLcTCHFORKj WITH TEE TOPbLACARD",
   "eE OF INTEREST SIGNjWORSHIPdNCK CONSTANTp OVER TWO PIdYGROUND SLIDEeING CARD ACE OF CLUBS",
   "uDIAMONDSuHEARTSuSPADESnBACKoLACK JOKERnEIGHT OF CLUBSwDIAMONDSwHEARTSwSPADESnFIVE OF CLUBS",
   "vDIAMONDSvHEARTSvSPADESoOOLpUR OF CLUBSvDIAMONDSvHEARTSvSPADESnJACK OF CLUBSvDIAMONDSvHEARTS",
   "vSPADESnKING OF CLUBSvDIAMONDSvHEARTSvSPADESoNIGHT OF CLUBSxDIAMONDSxHEARTSxSPADES",
   "nNINE OF CLUBSvDIAMONDSvHEARTSvSPADESnQUEEN OF CLUBSwDIAMONDSwHEARTSwSPADESnRED JOKER",
   "nSEVEN OF CLUBSwDIAMONDSwHEARTSwSPADESoIX OF CLUBSuDIAMONDSuHEARTSuSPADESnTEN OF CLUBS",
   "uDIAMONDSuHEARTSuSPADESoHREE OF CLUBSwDIAMONDSwHEARTSwSPADESoRUMP-1u0u1u2u3u4u5u6u7u8u9t2u0u1",
   "t3t4t5t6t7t8t9oWO OF CLUBSuDIAMONDSuHEARTSuSPADESnWHITE JOKERcDcUdNGERdS SIGN",
   "j ABOVE EQUALS SIGNkIN LEFT HALF CIRCLEnRIGHT HALF CIRCLEnTRIANGLEkWITH BLACK TRIANGLE",
   "pCIRCUMFLEX ACCENT ABOVEpDOT BELOWpSMALL CIRCLE ABOVEqUBSCRIPT TWOpTILDE ABOVEvBELOW",
   "e-MINUS SIGNdTOf FORM FIVEmOURlTHREEmWObMbOCKET CALCULATORcLICE CARkS REVOLVING LIGHThOFFICER",
   "cODLEcP DIRECTIONAL FORMATTINGqISOLATEdCORNcRTABLE STEREOcSEIDONdITION INDICATORdTAL HORNhMARK",
   "l FACEeBOXcT OF FOODdABLE WATER SYMBOLeTOdTED PLANTcUCHdLTRY LEGdND SIGNdRING LIQUID",
   "dTING CAT FACEiFACEcWER ON SYMBOLi-OFF SYMBOLgSLEEP SYMBOLhYMBOLbRAYER BEADScECEDES",
   "i ABOVE ALMOST EQUAL TOpEQUALS SIGNpNOT ALMOST EQUAL TOtEQUAL TOpSINGLE-LINE EQUALS SIGN",
   "βNOT EQUAL TOjBUT NOT EQUIVALENT TOjOR EQUAL TOpIVALENT TOjUNDER RELATIONdGNANT MANjPERSON",
   "jWOMANdSCRIPTION TAKEeENTATION FORM FOR VERTICAL COLONθMMAζEM DASHηN DASHηXCLAMATION MARK",
   "ζHORIZONTAL ELLIPSISζIDEOGRAPHIC COMMAςFULL STOPζLEFT ANGLE BRACKETλBLACK LENTICULAR BRACKET",
   "λCORNER BRACKETμURLY BRACKETλDOUBLE ANGLE BRACKETλPARENTHESISλSQUARE BRACKET",
   "λTORTOISE SHELL BRACKETλWHITE CORNER BRACKETρLENTICULAR BRACKETηOW LINEζQUESTION MARK",
   "ζRIGHT ANGLE BRACKETμBLACK LENTICULAR BRACKETμCORNER BRACKETνURLY BRACKETμDOUBLE ANGLE BRACKET",
   "μPARENTHESISμSQUARE BRACKETμTORTOISE SHELL BRACKETμWHITE CORNER BRACKETςLENTICULAR BRACKET",
   "ωLAR BRAKCETζSEMICOLONζTWO DOT LEADERζWAVY LOW LINEdTZELdVIOUS PAGEcIMEdNCEgSSeT SCREEN SYMBOL",
   "fERh ICONdVACY MESSAGEfTE USE ONEmTWOl-1m2cOBING CANEdHIBITED SIGNdJECTIVEdPERTY LINEeORTION",
   "kAL TOdSERPINAbSALTER PAHLAVI FOUR DOTS WITH CROSSζDOTqLETTER ALEPHxBETHxDALETHxGIMELxHEzTH",
   "xKAPHxLAMEDHxMEM-QOPHxNUNxPExSADHEzMEKHyHINxTAWxWAW-AYIN-RESHxYODHxZAYINqNUMBER FOURxONE",
   "α HUNDREDxTENyHREEyWENTYzOqSECTION MARKqTURNED SECTION MARKbU1c2cBLIC ADDRESS LOUDSPEAKER",
   "cNCTUATION SPACEgS ELEVATUS MARKcRPLE HEARTdSEcSHPINcT LITTER IN ITS PLACE SYMBOL",
   "aQUADRANT LOWER LEFTpRIGHTjUPPER LEFTt AND LOWER LEFT AND LOWER RIGHTεRIGHT",
   "yUPPER RIGHT AND LOWER LEFTυRIGHTpRIGHTu AND LOWER LEFTκ AND LOWER RIGHT",
   "fUPLE INTEGRAL OPERATORkPRIMEdRTER NOTEdTERNION INTEGRAL OPERATORcESTION EXCLAMATION MARKjMARK",
   "iED EQUAL TOcINCUNXcOTATION MARKaRABBITg FACEcCCOONdING CARhMOTORCYCLEcDICAL SYMBOL BOTTOMeO",
   "f BUTTONfACTIVE SIGNcILWAY CARiTRACKdNeBOWdSED BACK OF HANDhCOMMAhDOTkTED INTERPOLATION MARKER",
   "hFISThHANDl WITH FINGERS SPLAYEDrPART BETWEEN MIDDLE AND RING FINGERShINTERPOLATION MARKER",
   "hMC SIGNiD SIGNiR SIGNhSQUAREcMcTdIOcZORbECEIPTdORD SEPARATORdREATIONAL VEHICLE",
   "dYCLED PAPER SYMBOLgING SYMBOL FOR GENERIC MATERIALSvTYPE-1 PLASTICSα2 PLASTICSα3 PLASTICS",
   "α4 PLASTICSα5 PLASTICSα6 PLASTICSα7 PLASTICScD APPLEeGIFT ENVELOPEcFERENCE MARK",
   "cGIONAL INDICATOR SYMBOL LETTER AθBθCθDθEθFθGθHθIθJθKθLθMθNθOθPθQθRθSθTθUθVθWθXθYθZ",
   "eSTERED SIGNcJANG CONSONANT SIGN HwNxGwRhLETTER AoBAoCAoDAoGAoHAoJAoKAoLAoMApBAoNApDApGAqGApYA",
   "qJAoPAoRAoSAoTAoWAoYAhSECTION MARKhVIRAMAiOWEL SIGN AItUsEtAtUsIsOsUcLIEVED FACEcMINDER RIBBON",
   "cPLACEMENT CHARACTERcSPONSEdTRICTED LEFT ENTRY-1w2fOOMcTURN LEFThRIGHThSYMBOL",
   "cVERSE CHECKER BOARDiINDEXiLIGHT FOUR POINTED PINWHEEL STARkNE FEEDiSOLIDUSp OPERATOR",
   "qPRECEDING SUBSETqWITH HORIZONTAL STROKEiTILDE OPERATOR ABOVE LEFTWARDS ARROWδRIGHTWARDS ARROW",
   "hD ANGLEo WITH UNDERBARjCOMMAjDOUBLE PRIMEv QUOTATION MARKqSTROKE NOT SIGNjEMPTY SET",
   "jFORKED PARAGRAPHOSjHAND WITH MIDDLE FINGER EXTENDEDjNOT SIGNjPILCROW SIGNkRIMEjQUESTION MARK",
   "jRAISED HAND WITH FINGERS SPLAYEDkIGHT ANGLEkOTATED FLORAL HEART BULLETjSANS-SERIF CAPITAL L",
   "kEMICOLONjTHUMBS DOWN SIGNqUP SIGNkILDEo EQUALSkRIPLE PRIMEjVICTORY HANDdOLVING HEARTS",
   "bHINOCEROSbIcAL SIGNcBBONg ARROW DOWN LEFTsRIGHTnLEFT DOWNsUPnRIGHT DOWNtUPnUP LEFTqRIGHT",
   "cCE BALLfCRACKERcFLEcGHT AND LOWER ONE EIGHTH BLOCKkUPPER ONE EIGHTH BLOCKiGER BUBBLEjLE",
   "l BRACKETt WITH DOTmDOTTED SUBSTITUTION MARKERmSUBSTITUTION MARKERmVARIANT WITH SQUARE",
   "mWITH ARCrDOWNWARDS ZIGZAG ARROWhRC GREATER-THAN BRACKETiROW WITH CIRCLED PLUSrSMALL CIRCLE",
   "gBLACK LENTICULAR BRACKETmTORTOISE SHELL BRACKETgCEILINGhORNER BRACKEThURLY BRACKET",
   "t LOWER HOOKuMIDDLE PIECEuUPPER HOOKgDOTTED SUBSTITUTION BRACKETiUBLE ANGLE BRACKET",
   "oRROW WITH ROUNDED HEADnPARENTHESISnQUOTATION MARKnWIGGLY FENCEgFISH TAILiVE EIGHTHS BLOCK",
   "hLOORgHALF BLACK CIRCLErSTARnOCKlFOLDERlMEDIUM SHADElRUNNING MANiND TELEPHONE RECEIVER",
   "gLOW PARAPHRASE BRACKETgNORMAL FACTOR SEMIDIRECT PRODUCTgONE EIGHTH BLOCKkQUARTER BLOCK",
   "hPEN SQUARED DOThUTER JOINgPARENTHESISr EXTENSIONsLOWER HOOKsUPPER HOOK",
   "gRAISED OMISSION BRACKETgS-SHAPED BAG DELIMITERhEMIDIRECT PRODUCTiVEN EIGHTHS BLOCK",
   "hIDEWAYS U BRACKETiNGLE QUOTATION MARKhPEAKERn WITH ONE SOUND WAVEtTHREE SOUND WAVES",
   "jECH BUBBLEhQUARE BRACKETu EXTENSIONvLOWER CORNERvUPPER CORNERvWITH DOUBLE STROKEαQUILLαSTROKE",
   "αTICK IN BOTTOM CORNERιTOP CORNERαUNDERBARhUBSTITUTION BRACKETgTACK",
   "hHIRD WHITE RIGHT POINTING INDEXiOUGHT BUBBLEiREE EIGHTHS BLOCKmQUARTERS BLOCK",
   "hORTOISE SHELL BRACKEThRANSPOSITION BRACKETiIANGLEo ABOVE LEFT TRIANGLEmULAR ONE QUARTER BLOCK",
   "gVERTICAL BAR WITH QUILLqOX LINEgWHITE CORNER BRACKETnURLY BRACKETmLENTICULAR BRACKET",
   "mPARENTHESISmSQUARE BRACKETmTORTOISE SHELL BRACKEThIGGLY FENCEf-FACING ARMENIAN ETERNITY SIGN",
   "nFISTnSVASTI SIGNy WITH DOTSgHANDED INTERLACED PENTAGRAMgPOINTING ANGLE BRACKET",
   "pCURVED ANGLE BRACKETpDOUBLE ANGLE QUOTATION MARKpMAGNIFYING GLASS",
   "gSHADED WHITE RIGHTWARDS ARROWhIDE ARC CLOCKWISE ARROWgTO-LEFT EMBEDDINGoISOLATEoMARKoOVERRIDE",
   "fHAND INTERIOR PRODUCTfWARDS ARROWq ABOVE ALMOST EQUAL TOxREVERSE ALMOST EQUAL TO",
   "ζTILDE OPERATORxSHORT LEFTWARDS ARROWxTILDE OPERATORsND UPPER AND LOWER ONE EIGHTH BLOCK",
   "rFROM BARz TO BLACK DIAMONDrOVER LEFTWARDS ARROWrTHROUGH GREATER-THANzSUPERSETzXsO BAR",
   "vLACK DIAMONDrWITH CORNER DOWNWARDSwDOTTED STEMyUBLE VERTICAL STROKEwEQUILATERAL ARROWHEAD",
   "wHOOKwLARGE TRIANGLE ARROWHEADxOOPwMEDIUM TRIANGLE ARROWHEADwNOTCHED TAILwPLUS BELOW",
   "wSMALL EQUILATERAL ARROWHEADγTRIANGLE ARROWHEADxTROKEwTAILα WITH DOUBLE VERTICAL STROKE",
   "ηVERTICAL STROKExIP DOWNWARDSαUPWARDSwVERTICAL STROKEq-TAILlBACK-TILTED SHADOWED WHITE ARROW",
   "mLACK ARROWrCIRCLED WHITE ARROWmOTTOM SHADED WHITE ARROWlCOMPRESSED ARROWlDASHED ARROW",
   "mOUBLE ARROWx FROM BARyWITH STROKEδVERTICAL STROKEx-TAILsDASH ARROWlFINGER-POST ARROW",
   "mRONT-TILTED SHADOWED WHITE ARROWlHANDnRPOON OVER LEFTWARDS HARPOON",
   "tWITH BARB DOWN ABOVE LEFTWARDS HARPOON WITH BARB DOWNιBELOW LONG DASHιFROM BARιTO BARθWARDS",
   "δUP ABOVE LEFTWARDS HARPOON WITH BARB UPξONG DASHνRIGHTWARDS HARPOON WITH BARB DOWNηFROM BAR",
   "ηTO BARζWARDSmEAVY ARROWrCOMPRESSED ARROWlLEFT-SHADED WHITE ARROWlOPEN-HEADED ARROW",
   "lPAIRED ARROWSlQUADRUPLE ARROWlRIGHT-SHADED WHITE ARROWmOCKETlSANS-SERIF ARROWmQUARED ARROW",
   "oIGGLE ARROWlTOP SHADED WHITE ARROWmRIANGLE ARROWHEADt-HEADED ARROW",
   "η OVER LEFTWARDS TRIANGLE-HEADED ARROWθTO BARθWITH BOLD SHAFTνDOUBLE HORIZONTAL STROKE",
   "τVERTICAL STROKEνHEAVY SHAFTνLONG TIP DOWNWARDSφUPWARDSνMEDIUM SHAFTνNARROW SHAFT",
   "νVERY HEAVY SHAFTβDASHED ARROWβPAIRED ARROWSoPLE ARROWsDASH ARROWmWO HEADED ARROW",
   "o-HEADED ARROW FROM BARγWITH DOUBLE VERTICAL STROKEθTAILμ WITH DOUBLE VERTICAL STROKE",
   "ςVERTICAL STROKEιRIANGLE ARROWHEADSθVERTICAL STROKEwTRIPLE DASH ARROWlWAVE ARROWmHITE ARROW",
   "w FROM WALLxWITHIN TRIANGLE ARROWHEADcNGe ABOVEfBUOYfEQUAL TOfIN EQUAL TOfOPERATORfPOINT",
   "eED PLANETeING BELLcSING DIAGONAL CROSSING FALLING DIAGONALzSOUTH EAST ARROWbLEcIcMcO",
   "bOASTED SWEET POTATOcBOT FACEcCKeETcLL OF PAPEReED-UP NEWSPAPERfR COASTERhSKATE",
   "eING ON THE FLOOR LAUGHINGcMAN AS SIGNgCENTURIAL SIGNgDENARIUS SIGNhIMIDIA SEXTULA SIGN",
   "hUPONDIUS SIGNgNUMERAL EIGHTpLEVENoFIFTYt EARLY FORMuTHOUSANDqVEs HUNDREDtTHOUSANDpOURoNINE",
   "oONEr HUNDREDz THOUSANDsTHOUSANDα C DoREVERSED ONE HUNDREDoSEVENpIXr LATE FORMoTENr THOUSAND",
   "pHREEpWELVEqOgQUINARIUS SIGNgSEMUNCIA SIGNiSTERTIUS SIGNiXTANS SIGNkULA SIGNhILIQUA SIGN",
   "gUNCIA SIGNcOSTERcSEeTTEcTATED CAPITAL QiFLORAL HEART BULLETiHEAVY BLACK HEART BULLET",
   "iLIGHT FOUR POINTED BLACK CUSPiWHITE FOUR POINTED CUSPcUND PUSHPINgTARGETfED SYMBOL FOR CAItFU",
   "tLUtSHOUvUANGXItXIcWBOATbSbUBLE SIGNcGBY FOOTBALLcLE-DELAYEDcMI DIGIT EIGHTlFIVEmOURlNINElONE",
   "lSEVENmIXlTHREEmWOfFRACTION ONE HALFsQUARTERsTHIRDoTWO THIRDSfNUMBER EIGHT HUNDREDrYmFIFTY",
   "oVE HUNDREDnORTYoUR HUNDREDmNINE HUNDREDqTYmONE HUNDREDmSEVEN HUNDREDrTYnIX HUNDREDpTYmTEN",
   "nHIRTYoREE HUNDREDnWENTYoO HUNDREDcNIC ARLAUG SYMBOLgBELGTHOR SYMBOLgCROSS PUNCTUATION",
   "gLETTER AC AoESCoLGIZ EOLHXoNSUZ AnBERKANAN BEORC BJARKAN BnCoALCoEALCpNoWEORTHnDoAGAZ DAEG D",
   "oOTTED-LuNuPnEoARoHWAZ EH EoNGoTHnFEHU FEOH FE FoRANKS CASKET ACγESCβEHβISβOSnGoARoEBO GYFU G",
   "pRnHAEGL HpGLAZ HnICELANDIC-YRoNGqWAZoORoSAZ IS ISS IoWAZ EOHnJERAN JnKoAUN KrA",
   "nLAUKAZ LAGU LOGR LoONG-BRANCH-AR AEzHAGALL HzMADR MzOSS OzYRnMANNAZ MAN MnNAUDIZ NYD NAUD NnO",
   "oEoNoOoPEN-PoS OoTHALAN ETHEL OnPERTHO PEORTH PnQnRAIDO RAD REID RnSHpORT-TWIG-AR AyBJARKAN B",
   "yHAGALL HyMADR MyNAUD NyOSS OySOL SyTYR TyYRoIGEL LONG-BRANCH-SOL SoOWILO SoTAN",
   "nTHURISAZ THURS THORNoIWAZ TIR TYR TnURUZ UR UnVnWoUNJO WYNN WnXnYoRnZgMULTIPLE PUNCTUATION",
   "gSINGLE PUNCTUATIONgTVIMADUR SYMBOLdNEReING SHIRT WITH SASHcPEE SIGN",
   "cSSIAN ASTROLOGICAL SYMBOL BINOVILEγNOVILEγQUINTILEγSENTAGONγTREDECILEγVIGINTILEaS IN TRIANGLE",
   "bAFETY PINhVESTcGITTARIUScILBOATcKE BOTTLE AND CUPcLT SHAKEReIREdUTING FACE",
   "cMARITAN ABBREVIATION MARKkLETTER ALAFrBAAsITrDALATrFIrGAMANrINsTsYrKAAFrLABATrMIMrNUNrQUF",
   "rRISHrSHANsINGAATrTAAFsITsSAADIYrYUTrZENkMARK DAGESHpEPENTHETIC YUTpINr-ALAFpNEQUDAApOCCLUSION",
   "lODIFIER LETTER EPENTHETIC YUTαIαSHORT AkPUNCTUATION AFSAAQxNGEDyNAAUxRKAANUxTMAAUwBAU",
   "wMELODIC QITSAwNEQUDAAwQITSAwSHIYYAALAAxOF MASHFAATwTURUwZAEFxIQAAkVOWEL SIGN AwAvEvIvLONG AβA",
   "αEαIαUvOwVERLONG AζAvSHORT AwUKUNvUcNDWICHdS-SERIF HEAVY DOUBLE COMMA QUOTATION MARK ORNAMENT",
   "yTURNED COMMA QUOTATION MARK ORNAMENTrLOW DOUBLE COMMA QUOTATION MARK ORNAMENT",
   "lINTERROBANG ORNAMENTcRIcTELLITEj ANTENNAdURNcURASHTRA CONSONANT SIGN HAARUlDANDAmIGIT EIGHT",
   "rFIVEsOURrNINErONErSEVENsIXrTHREEsWOrZEROmOUBLE DANDAlLETTER AtAtItUsBAtHAsCAtHAsDAtDAuHAtHAsE",
   "tEsGAtHAsHAsItIsJAtHAsKAtHAsLAtLAsMAsNAtGAtNAtYAsOtOsPAtHAsRAsSAtHAtSAsTAtHAtTAuHAsUtUsVA",
   "tOCALIC LβLαRβRsYAlSIGN ANUSVARAqCANDRABINDUqVIRAMAsSARGAlVOWEL SIGN AAxIxUwExEwIxIwOxOwUxU",
   "wVOCALIC LζLεRζReOPODcXOPHONEbCALESdRFcHOOLg SATCHELcIcOOTERdRPIONgUScREENeWDRIVER",
   "dIPT CAPITAL BpEpFpHpIpLpMpPpRhLIGATURE ET ORNAMENThSMALL EnGnLnOdOLLdUPLEbEALdT",
   "cCOND PLACE MEDALdTION SIGNeORcDNAcE-NO-EVIL MONKEYdDLINGcGMENThED DIGIT EIGHTqFIVErOURqNINE",
   "qONEqSEVENrIXqTHREErWOqZEROcLFIEcMICOLONeDIRECT PRODUCT WITH BOTTOM CLOSEDeSEXTILE",
   "cPARATED SYMBOLcRIOUS FACE WITH SYMBOLS COVERING MOUTHdVICE MARKcSAME DOTdQUIQUADRATEcT MINUS",
   "eTRANSMIT STATEcWING NEEDLEcXTILEbGCbHADOWED WHITE CIRCLEpLATIN CROSSpSTARdLLOW PAN OF FOOD",
   "dMROCKdRADA ABBREVIATION SIGNiCONTINUATION SIGNiDANDAjIGIT EIGHToFIVEpOURoNINEoONEoSEVENpIX",
   "oTHREEpWOoZEROjOUBLE DANDAiEKAMjXTRA SHORT VOWEL MARKiHEADSTROKEiLETTER AqAqIqUpBAqHApCAqHApDA",
   "qDArHAqHApEpGAqHApHApIqIpJAqHApKAqHApLAqLApMApNAqGAqNAqYApOpPAqHApRApSAqHAqSApTAqHAqTArHApUqU",
   "pVAqOCALIC LyLxRyRpYAiOMiSANDHI MARKjECTION MARK-1v2kPARATORjIGN ANUSVARAoVAGRAHAnCANDRABINDU",
   "nINVERTED CANDRABINDUnJIHVAMULIYAnNUKTAnSIDDHAMnUPADHMANIYAnVIRAMApSARGAjUTRA MARK",
   "iVOWEL MODIFIER MARKoSIGN AAuIuUtEtIuItOtPRISHTHAMATRA EtUuUtVOCALIC LγLβRγReKdVED ICE",
   "eIAN LETTER ADOqGEqHqIRqRErRAYqSHqWEpBIBpCHURCHpDEADpEARrTqGGqRRpFEEpGAGpHA-HAqUNGpIANqCEqF",
   "pJUDGEpKICKpLOLLpMEASUREqIMEpNUNpOAKqILqNqOZEqRqUTpPEEPpROARpSOqUREpTHEYrIGHqOTpUPpVOWpWOErOL",
   "pYEArWpZOOcEEPcIELDdFT INgOUTdNTO SHRINEdPcOCKED FACE WITH EXPLODING HEADdOTING STAR",
   "dPPING BAGSjTROLLEYdRT BACKSLANTED SOUTH ARROWhENT ARROW POINTING DOWNWARDS THEN NORTH EAST",
   "gDOWN TACKp WITH OVERBARgLEFT TACKgRIGHTWARDS ARROW ABOVE LEFTWARDS ARROWgSLANTED NORTH ARROW",
   "gUP TACKn ABOVE SHORT DOWN TACKoWITH UNDERBARfCAKEfHAND FORMAT CONTINUING OVERLAPrDOWN STEP",
   "rLETTER OVERLAPrUP STEPfSdULDERED OPEN BOXdWERcRIMPdUGcUFFLE PRODUCTcYbIcDDHAM DANDA",
   "jOUBLE DANDAiEND OF TEXT MARKiLETTER AqAqIqLTERNATE UqUpBAqHApCAqHApDAqDArHAqHApEpGAqHApHApIqI",
   "pJAqHApKAqHApLApMApNAqGAqNAqYApOpPAqHApRApSAqHAqSApTAqHArREE-CIRCLE ALTERNATE IqTArHA",
   "qWO-CIRCLE ALTERNATE IμIpUqUpVAqOCALIC LyLxRyRpYAiREPETITION MARK-1y2y3",
   "iSECTION MARK DOUBLE RINGη WITH RAYSvWITH CIRCLES AND FOUR ENCLOSURESνRAYSνTWO ENCLOSURES",
   "αDOUBLE CRESCENTSαQUADRUPLE CRESCENTSαRAYS AND DOTTED CRESCENTSρDOUBLE CRESCENTS",
   "ρTRIPLE CRESCENTSαSEPTUPLE CRESCENTSαTRIDENT AND DOTTED CRESCENTSνU-SHAPED ORNAMENTS",
   "δPLE CRESCENTSkPARATOR BARsDOTjIGN ANUSVARAnCANDRABINDUnNUKTAnSIDDHAMnVIRAMApSARGA",
   "iVOWEL SIGN AAuIuLTERNATE UεUuUtEtIuItOtUuUtVOCALIC RγRdEWAYS BLACK DOWN POINTING INDEX",
   "pLEFT POINTING INDEXpRIGHT POINTING INDEXpUP POINTING INDEXjWHITE DOWN POINTING INDEX",
   "pLEFT POINTING INDEXpRIGHT POINTING INDEXpUP POINTING INDEXcGN OF THE HORNS",
   "eWRITING AIR BLOW SMALL ROTATIONSuING OUTqSUCK SMALL ROTATIONSuING INmBREATH EXHALEtINHALE",
   "oUSH BETWEENsMULTIPLEsSINGLEmCHEEKS NEUTRALtPUFFEDtSUCKEDnOLONoMMA",
   "mDREAMY EYEBROWS DOWN NEUTRALγNEUTRAL DOWNλUPγUP NEUTRALnYNAMIC ARROWHEAD LARGEεSMALL",
   "uEVERY OTHER TIMEuFASTuGRADUALuRELAXEDuSIMULTANEOUSη ALTERNATINGvLOWuTENSEmEARSnXCITEMENT",
   "nYE BLINK MULTIPLEwSINGLEqWINKpBROWS STRAIGHT DOWNεNEUTRALεUPpGAZE-FLOORPLANE CURVEDζSTRAIGHT",
   "ξ ALTERNATINGοDOUBLEuWALLPLANE CIRCLINGζURVEDεSTRAIGHTν ALTERNATINGξDOUBLEpLASHES DOWN",
   "wFLUTTERINGwUPpS CLOSEDrHALF CLOSEDwOPENrOPENrSQUEEZEDrWIDE OPENvNING MOVEMENT",
   "mFACE DIRECTION POSITION NOSE FORWARD TILTINGπUP OR DOWNωN TILTINGnILL MODIFIER-2α3α4α5α6oNGER",
   "nLICK LARGE MULTIPLEySINGLEsSEQUENTIALtMALL MULTIPLEySINGLEoOORPLANE SHOULDER HIP MOVE",
   "nOREHEAD CONTACTvNEUTRALvWRINKLEDnULL STOPmGRASP BETWEENsMULTIPLEsSINGLEmHAIRoND-ANGLEw INDEX",
   "γ MIDDLE LITTLEλRINGδRING LITTLEο OUTδTHUMBι INκOUTxLITTLE INDEXκ THUMB INDEX THUMBωUMB OUTεUP",
   "xMIDDLE RING LITTLEπ INρOUTxRING DOWN MIDDLE THUMB INDEX CROSSγLITTLErCIRCLEx INDEXδ BENT",
   "εHINGEεMIDDLEλ CROSS LITTLEρEDμLITTLEμRINGμTHUMBεRING LITTLEyLITTLE INDEXζUP",
   "yMIDDLE RING LITTLEρ BENTζUPyRING LITTLEsLAWv FOUR FINGERS CONJOINED",
   "wINDEX THUMB CURVE THUMB INSIDEwMIDDLE RING LITTLE CONJOINEDω SIDEwNO THUMBwTHUMB FORWARDγSIDE",
   "sUPu FIVE FINGERS SPREADο OPENvINDEXα RING LITTLEβTHUMBη OPENvMIDDLE RING LITTLEvNO THUMBvOPEN",
   "z NO THUMBαTHUMB FORWARDηSIDEvTHUMB FORWARDβSIDEtRLICUEz INDEX RING LITTLE ON",
   "αMIDDLE RING LITTLE ONαOPENrFISTv FOUR FINGERS CONJOINED BENTwHEELwINDEXβ BENTη OVER MIDDLE",
   "γCUPPEDγHINGEDι LOWκMIDDLE UPσ THUMB SIDEγMIDDLEι BENTξ THUMB STRAIGHTκCONJOINEDσ CUPPED",
   "ωD THUMB FORWARDτHINGEDωD THUMB SIDEτINDEX BENTτMIDDLE BENTτTHUMB FORWARDω SIDEω SIDE BENT",
   "ω SIDE CONJOINEDλROSS LITTLEοEDρ THUMB SIDEκHINGEDπ SPREAD THUMB SIDEκLITTLEκRAISED KNUCKLES",
   "λINGξ BENTοCONJOINEDκSTRAIGHT THUMB BENTκTHUMBο ANGLEDφ OUTπBENTπCIRCLEDρONJOINED HINGEDρUPPED",
   "πHINGEDρOOKEDκUP SPREAD THUMB FORWARDγRAISED KNUCKLEδING LITTLEγTHUMB ANGLED IN MIDDLE UP",
   "πOUT MIDDLE UPιCIRCLEοD MIDDLE UPκUPPED MIDDLE UPλRLICUEμVE THUMB INSIDEυUNDER",
   "ιFORWARD INDEX BENTχSTRAIGHTιHOOKνED MIDDLE HINGEDχUPιSIDEν BOTH BENTξINDEX BENTτHINGE",
   "ξTHUMB BENTτCONJOINEDτDIAGONALγUP MIDDLE HINGEDσ THUMB CONJOINEDω SIDEwLITTLE BENTδDOWN",
   "θ OTHERS CIRCLEDιRIPPLE CURVEDπSTRAIGHTδINDEXι THUMBδRAISED KNUCKLEδTHUMBεOUCHES THUMBδUP",
   "wMIDDLE BENT OVER INDEXδDOWNδLITTLEδRAISED KNUCKLEεING LITTLEδTHUMB ANGLED INDEX UP",
   "ρOUT INDEX CROSSEDωX UPκCIRCLED INDEX HINGEDψUPλUPPED INDEX UPκHOOKED INDEX UPκLITTLEδUP",
   "ζ THUMB SIDEwRING DOWNβINDEXβLITTLEβMIDDLEθ CONJOINEDιRAISED KNUCKLESβRAISED KNUCKLEβTHUMBβUP",
   "wTHUMBβ BETWEEN INDEX MIDDLEχ STRAIGHTλMIDDLE RINGλRING LITTLEγFORWARDγHEEL",
   "γOVER FOUR RAISED KNUCKLESθTWO FINGERSγSIDE BENTθCONJOINEDθDIAGONALγUNDER FOUR FINGERS",
   "ιINDEX BENTιLITTLE UPιTHREE FINGERSκWO FINGERSsLATv BETWEEN PALM FACINGSwFIVE FINGERS SPREAD",
   "π BENTρFOUR BENTρHINGEDχ NO THUMBψTHUMB SIDEρTHUMB FORWARDxOUR FINGERSι BENTκCONJOINEDσ SPLIT",
   "κHINGEDwHEELα FIVE FINGERS SPREADυ BENTφFOUR BENTβTHUMB SIDEwSPLIT CENTREι THUMB SIDEτ BENT",
   "γINDEX THUMB SIDEγLITTLEwTHUMB BENTγFORWARDγSIDErHINGEw FIVE FINGERS SPREAD OPEN",
   "yOUR FINGERS CONJOINEDxINDEXγ HINGEDδMIDDLE LITTLEλRINGο CONJOINEDδRING LITTLEδTHUMBι LARGE",
   "κOPENκSIDEλMALLxLITTLEδ INDEXκ THUMBεTHUMBxMIDDLEδ RING LITTLExNO THUMBxOPENβ NO THUMB",
   "γTHUMB FORWARDιSIDExRINGβ DOWN INDEX THUMB HOOK MIDDLExSMALLxTHUMB BETWEEN MIDDLE RINGδSIDE",
   "θ TOUCHING INDEXsOOKv CURLICUEwINDEX RING LITTLE INοOUTοUNDERwMIDDLE RING LITTLE CONJOINEDω IN",
   "ω OUTδTHUMBwRING THUMBrOVALv FIVE FINGERS SPREADwINDEXwLITTLE UPwNO THUMBwRING LITTLE",
   "wTHUMB FORWARDγSIDEnEADq MOVEMENT CIRCLEz-FLOORPLANE CURVEμSTRAIGHTαWALLPLANE CURVEλSTRAIGHT",
   "λTILTrRIMmLIMB COMBINATIONrLENGTH-1y2y3y4y5y6y7oP LOWER OVER UPPERqUPPER OVER LOWER",
   "pS PRESSED TOGETHERnOCATION DEPTHvHEAD NECKxIGHTvLIMBS DIGITSvTORSOvWIDTHu-FLOORPLANE SPACE",
   "vWALLPLANE SPACEmMOUTH CLOSED CONTACTzFORWARDzNEUTRALtORNERSsFROWNx OPENyWRINKLEDsKISS",
   "w FORWARDxWRINKLEDsOPEN CIRCLExFORWARDxOVALβ WRINKLEDγYAWNxRECTANGLEη WRINKLEDθYAWNxWRINKLED",
   "sSMILEx OPENyWRINKLEDsTENSEx FORWARDySUCKEDsWRINKLES DOUBLEβSINGLEoVEMENT-DIAGONAL AWAY LARGE",
   "οSTκMEDIUMκSMALLεBETWEEN AWAY LARGEχSTςMEDIUMςSMALLνTOWARDS LARGEωESTυMEDIUMυSMALL",
   "εTOWARDS LARGEςSTνMEDIUMνSMALLvFLOORPLANE ARM CIRCLE HITTING WALL LARGE DOUBLE",
   "ω WALL LARGE SINGLEω WALL MEDIUM DOUBLEω WALL MEDIUM SINGLEω WALL SMALL DOUBLE",
   "ω WALL SMALL SINGLEηBENDθOX LARGEλMEDIUMλSMALLηCHECKθORNER LARGEξMEDIUMξSMALLθROSS",
   "θURVE COMBINEDνHITTING CEILING LARGEωING SMALLυFLOOR LARGEωR SMALLνLARGEςSTνMEDIUMνSMALL",
   "ηDOUBLE ALTERNATINGω WRIST FLEXξSTRAIGHTξWRIST FLEXηFINGER CIRCLES HITTING WALL DOUBLE",
   "ωTING WALL SINGLEοONTACTηHUMP HITTING CEILING LARGE DOUBLEωNG LARGE TRIPLEωNG SMALL DOUBLE",
   "ωNG SMALL TRIPLEτFLOOR LARGE DOUBLEω SMALL DOUBLEω TRIPLE LARGE TRIPLEω TRIPLE SMALL TRIPLE",
   "μSMALLηJAWηLOOP HITTING CEILING LARGE DOUBLEωNG LARGE SINGLEωNG SMALL DOUBLEωNG SMALL SINGLE",
   "τFLOOR LARGE DOUBLEω LARGE SINGLEω SMALL DOUBLEω SMALL SINGLEμSMALLηPEAKS LARGEνMEDIUMνSMALL",
   "ηSHAKING PARALLELθINGLE STRAIGHT LARGEωRGESTχMEDIUMχSMALLξWRIST FLEX",
   "ηTRIPLE ALTERNATING MOVEMENTω WRIST FLEXξSTRAIGHT MOVEMENTξWRIST FLEX",
   "ηWAVE HITTING CEILING LARGEωNG SMALLτFLOOR LARGEω SMALLμLARGEμSMALLνNAKE",
   "θRIST CIRCLE HITTING WALL DOUBLEωNG WALL SINGLEηZIGZAG LARGEξMEDIUMξSMALL",
   "vHINGE DOWN SEQUENTIALβSIDE TO SIDE SCISSORSβUP DOWN ALTERNATING LARGEφSMALLκLARGEκSMALL",
   "εSEQUENTIALvWALLPLANE ARM CIRCLE MEDIUM DOUBLEψSINGLEρSMALL DOUBLEχSINGLEζBEND LARGEλMEDIUM",
   "λSMALLηOX LARGEκMEDIUMκSMALLζCHECK LARGEμMEDIUMμSMALLηORNER LARGEνMEDIUMνROTATIONνSMALLηROSS",
   "ηURVE HALF-CIRCLE LARGEωARGESTψMEDIUMψSMALLνITTING CHESTτFRONT WALLμQUARTER LARGEωSTτMEDIUM",
   "τSMALLμTHEN STRAIGHTξREE-QUARTER CIRCLE MEDIUMω CIRCLE SMALLλD CROSS MEDIUMσSMALL",
   "ζDOUBLE ALTERNATINGψ WRIST FLEXνSTRAIGHTνWRIST FLEXζFINGER CIRCLES DOUBLEυSINGLEξONTACT",
   "ζHUMP HITTING CHESTσFRONT WALLλLARGEλMEDIUMλSMALLζJAWζLOOP HITTING CHESTσFRONT WALLλLARGE",
   "λMEDIUMλSMALLπ DOUBLEζPEAKS LARGEμMEDIUMμSMALLζSHAKINGηINGLE STRAIGHT LARGEωGESTφMEDIUMφSMALL",
   "νWRIST FLEXζTRIPLE ALTERNATINGψ WRIST FLEXνSTRAIGHT MOVEMENTνWRIST FLEX",
   "ζWAVE CURVE DOUBLE LARGEψMEDIUMψSMALLρTRIPLE LARGEψMEDIUMψSMALLλDIAGONAL PATH LARGEωMEDIUM",
   "ωSMALLλHITTING CHESTσFRONT WALLηRIST CIRCLE FRONT DOUBLEωSINGLEζZIGZAG LARGEνMEDIUMνSMALLmNECK",
   "nOSE CONTACTrNEUTRALrWIGGLESsRINKLESmPARENTHESISmROTATION MODIFIER-10ζ1ζ2ζ3ζ4ζ5ζ6ε2ε3ε4ε5ε6ε7",
   "ε8ε9u-FLOORPLANE ALTERNATINGς HITTING CEILINGωG FLOORηDOUBLEν HITTING CEILINGφFLOORηSINGLE",
   "ν HITTING CEILINGφFLOORvWALLPLANE ALTERNATEξING HITTING CHESTω FRONT WALLζDOUBLE",
   "μ HITTING CHESTυFRONT WALLζSINGLEμ HITTING CHESTυFRONT WALLnUB BETWEENqMULTIPLEqSINGLE",
   "mSEMICOLONnHOULDER HIP POSITIONSzSPINEvTILTING FROM WAISTnQUEEZE FLICK ALTERNATING",
   "uLARGE MULTIPLEαSINGLEuSEQUENTIALvMALL MULTIPLEαSINGLEnTRIKE BETWEENtMULTIPLEtSINGLE",
   "nURFACE BETWEENuSYMBOLSmTEETHr BITE LIPSsMOVEMENTsON LIPSz MOVEMENTvTONGUEβ MOVEMENT",
   "oNSE CHEEKS HIGHzLOWzMIDDLEnONGUE CENTRE INSIDE MOUTHαSTICKING OUTtINSIDE MOUTH RELAXED",
   "tLICKING LIPStMOVES AGAINST CHEEKtSTICKING OUT FARtTIP BETWEEN LIPSxTOUCHING INSIDE MOUTH",
   "oRSO-FLOORPLANE TWISTINGsWALLPLANE CURVED BENDγSTRAIGHT STRETCHoUCH BETWEENsMULTIPLEsSINGLE",
   "nRAVEL-FLOORPLANE ROTATION-FLOORPLANE ALTERNATINGωDOUBLEωSINGLEξWALLPLANE ALTERNATINGψDOUBLE",
   "ψSINGLEεSHAKINGtWALLPLANE ARM SPIRAL DOUBLEοSINGLEοTRIPLEδROTATION-FLOORPLANE ALTERNATING",
   "ψDOUBLEψSINGLEνWALLPLANE ALTERNATINGχDOUBLEχSINGLEδSHAKINGmUPPER BODY TILTING FROM HIP JOINTS",
   "mWALLPLANE SHOULDER HIP MOVEcLHOUETTE OF JAPANcMILAR ABOVE GREATER-THAN ABOVE EQUALS SIGN",
   "oLESS-THAN ABOVE EQUALS SIGNiMINUS SIMILARiOR GREATER-THANlLESS-THANcNE WAVE",
   "dGLE CHARACTER INTRODUCERhGRAPHIC CHARACTER INTRODUCERhHIGH-REVERSED-9 QUOTATION MARK",
   "hLEFT-POINTING ANGLE QUOTATION MARKiOW-9 QUOTATION MARKhRIGHT-POINTING ANGLE QUOTATION MARK",
   "hSHIFT THREEoWOg-SHIFT-2n3dHALA ARCHAIC DIGIT EIGHTwFIVExOURwNINEwONEwSEVENxIXwTHREExWO",
   "qNUMBER EIGHTYxFIFTYyORTYxNINETYxONE HUNDREDβTHOUSANDxSEVENTYyIXTYxTENyHIRTYyWENTY",
   "iLETTER AAYANNAqEEYANNArYANNAqIYANNAqLPAPRAANA BAYANNAαCAYANNAαDAYANNAβDAYANNAαGAYANNAαJAYANNA",
   "αKAYANNAαPAYANNAαTAYANNAβTAYANNAqMBA BAYANNAqUYANNAqYANNApDANTAJA LAYANNAxNAYANNAxSAYANNA",
   "pEEYANNAqYANNApFAYANNApHAYANNApIIYANNAqLUUYANNAsYANNAqRUUYANNAsYANNAqYANNApKANTAJA NAASIKYAYA",
   "pMAHAAPRAANA BAYANNAβCAYANNAβDAYANNAγDAYANNAβGAYANNAβJAYANNAβKAYANNAβPAYANNAβTAYANNAγTAYANNA",
   "rYANNAqUURDHAJA LAYANNAzNAYANNAzSAYANNApOOYANNAqYANNApRAYANNApSANYAKA DAYANNAyDAYANNAxGAYANNA",
   "xJAYANNApTAALUJA NAASIKYAYAxSANYOOGA NAAKSIKYAYAzYANNApUUYANNAqYANNApVAYANNApYAYANNA",
   "jITH DIGIT EIGHTtFIVEuOURtNINEtONEtSEVENuIXtTHREEuWOtZEROiPUNCTUATION KUNDDALIYA",
   "iSIGN AL-LAKUNAoNUSVARAYAnCANDRABINDUnVISARGAYAiVOWEL SIGN AELA-PILLAtDIGA AEDA-PILLA",
   "yGAETTA-PILLAαYANUKITTAyIS-PILLAyKOMBUVAyPAA-PILLAtGAETTA-PILLAvYANUKITTAtKETTI AEDA-PILLA",
   "zIS-PILLAzPAA-PILLAuOMBU DEKAyVAα HAA AELA-PILLAζDIGA AELA-PILLAζGAYANUKITTA",
   "cX PETALLED BLACK AND WHITE FLORETTEfOINTED BLACK STARmPINWHEEL STARmSTAR WITH MIDDLE DOT",
   "d-PER-EM SPACEdTEEN POINTED ASTERISKbKATEBOARDcI AND SKI BOOTdERcULLf AND CROSSBONESdNK",
   "bLANTED EQUAL TO OR GREATER-THANη WITH DOT INSIDEuLESS-THANδ WITH DOT INSIDE",
   "iNORTH ARROW WITH HOOKED HEADβRIZONTAL TAILdVONIC ASTERISKcEDdEPING ACCOMMODATIONjFACEjSYMBOL",
   "fY FACEdUTH OR SPYcICE OF PIZZAdGHTLY FROWNING FACEjSMILING FACEcOPEeING LARGE ANDoOR",
   "dT MACHINEeHbMALL AIRPLANEhMPERSANDhSTERISKgBLUE DIAMONDgCOLONiMMAkERCIAL ATiNTAINS AS MEMBER",
   "pWITH OVERBARuVERTICAL BAR AT END OF HORIZONTAL STROKEgDOLLAR SIGNgELEMENT OFq WITH OVERBAR",
   "wVERTICAL BAR AT END OF HORIZONTAL STROKEhM DASHhQUALS SIGNhXCLAMATION MARKgFULL STOP",
   "gGREATER-THAN SIGNgHYPHEN-MINUSgIDEOGRAPHIC COMMAgLEFT CURLY BRACKETlPARENTHESIS",
   "lTORTOISE SHELL BRACKETiSS-THAN SIGNgNUMBER SIGNgORANGE DIAMONDgPERCENT SIGNhLUS SIGN",
   "gQUESTION MARKgREVERSE SOLIDUShIGHT CURLY BRACKETmPARENTHESISmTORTOISE SHELL BRACKET",
   "hOMAN NUMERAL EIGHTvLEVENuFIFTYwVEy HUNDREDvOURuNINEuONEx HUNDREDyTHOUSANDuSEVENvIXuTENvHREE",
   "vWELVEwOgSEMICOLONgTILDEhWO DOTS OVER ONE DOT PUNCTUATIONgVEE WITH UNDERBARfER THAN",
   "m OR EQUAL TOdSH PRODUCTcILEeING CAT FACE WITH HEART-SHAPED EYESwOPEN MOUTHiFACE WITH HALO",
   "tEART-SHAPED EYEStORNSsOPEN MOUTHγ AND COLD SWEATθSMILING EYESθTIGHTLY-CLOSED EYES",
   "sSMILING EYESε AND HAND COVERING MOUTHκTHREE HEARTStUNGLASSESsTEARdRKING FACEcOKING SYMBOL",
   "bNAILdKEcEEZING FACEcOW CAPPED MOUNTAINeBOARDEReFLAKEeMANh WITHOUT SNOWbOcCCER BALLdKS",
   "cFT HYPHENfICE CREAMfSHELL FLOPPY DISKeBALLeWARE-FUNCTION SYMBOLcGDIAN COMBINING CURVE ABOVE",
   "yBELOWsDOT ABOVEwBELOWsHOOK ABOVExBELOWsLONG HOOK BELOWsRESH BELOWsSTROKE BELOWsTWO DOTS ABOVE",
   "βBELOWiINDEPENDENT SHINiLETTER ALEPHqYINpBETHpFETHpGIMELpHErTHpKAPHpLAMEDHqESHpMEMpNUNpPE",
   "pRESH-AYINpSADHErMEKHqHINpTAWpWAWpYODHpZAYINiNUMBER ONEs HUNDREDpTENqWENTY",
   "iPUNCTUATION CIRCLE WITH DOTuHALF CIRCLE WITH DOTuTWO CIRCLES WITH DOTSyVERTICAL BARS",
   "μ WITH DOTScHcLID QUILT SQUARE ORNAMENTβ IN BLACK SQUAREfUSh WITH OVERBARcM SIGN",
   "cON WITH RIGHTWARDS ARROW ABOVEcRA SOMPENG DIGIT EIGHTtFIVEuOURtNINEtONEtSEVENuIXtTHREEuWO",
   "tZEROnLETTER AHuBAHuCAHuDAHuEEHvHuGAHuHAHuIHuJAHuKAHuLAHuMAEwHuNAHvGAHvYAHuOHuPAHuRAHuSAHuTAH",
   "uUHuVAHuYAHcScUND RECORDING COPYRIGHTdTH EAST ARROWq AND SOUTH WEST ARROW",
   "rCROSSING NORTH EAST ARROWrTO CORNERrWITH HOOKlBLACK ARROWlDOUBLE ARROWlPOINTING BUDuLEAF",
   "uVINE LEAFlSANS-SERIF ARROWlTRIANGLE-HEADED ARROWη TO BARlWHITE ARROWgWEST ARROW",
   "q AND NORTH WEST ARROWrWITH HOOKlBLACK ARROWlDOUBLE ARROWlPOINTING BUDuLEAFuVINE LEAF",
   "lSANS-SERIF ARROWlTRIANGLE-HEADED ARROWη TO BARlWHITE ARROWcYOMBO CLUSTER-INITIAL LETTER LAζRA",
   "ζSAηHAiFINAL CONSONANT SIGN -AδBδDδGδKδLδMδNεGδRδSεHiGEMINATION MARK",
   "iHEAD MARK WITH MOON AND SUNκ AND FLAMEοTRIPLE FLAMEiLETTER -ApApBAqHApCAqHApDAqDArHAqHAqZApGA",
   "qHApHApJAqHApKAqHAqSSApLApMApNAqGAqNAqYApPAqHApRApSAqHAqSApTAqHAqSArHAqTArHApVApYApZAqHA",
   "iMARK DOUBLE SHADnPLUTAnSHADnTSHEGiSIGN ANUSVARAnJIHVAMULIYAnUPADHMANIYAnVISARGAjUBJOINER",
   "iTERMINAL MARK-1w2iVOWEL LENGTH MARKoSIGN AIuUtEtItOuEtUuEtVOCALIC LβRbPcAdCEdGHETTIdRKLEhS",
   "gING HEARTcEAK-NO-EVIL MONKEYfERh WITH CANCELLATION STROKEnONE SOUND WAVEnTHREE SOUND WAVES",
   "fING HEAD IN SILHOUETTEdECH BALLOONeDBOATdSMILO SIGNcHERICAL ANGLEp OPENING LEFTyUPcIDERg WEB",
   "dRAL CALENDAR PADhNOTE PADhSHELLcLASHING SWEAT SYMBOLcONGEdOL OF THREADeNdRTS MEDAL",
   "dUTING WHALEbQUARE A OVER MiARUiMiNPEAiPAATOiRUHUAiUhBAARERUjRiEETAiIRUiORUTOiQiUSSYERU",
   "hC OVER KGiALjPiCiDiMj CUBEDkSQUAREDiOjRPORATIONiUPhDAjASUiBiESIiJiLiMj CUBEDkSQUAREDiORU",
   "hEEKAAiRA NAME HEISEIqMEIZIqREIWAqSYOUWAqTAISYOUjGiSUKUUDOiVhFMiOOTjUR CORNERShGALjNMAjRONiB",
   "iHZiIGAjNIIjRUDAAiPAiURAMUnTONiYhHAjITUiEKUTAARUjRUTUiGiIRAGANA HOKAiONjONkRUiPjAiUARADDOjIITO",
   "jRANiZhIMAGE OFp OR EQUAL TOtNOT EQUAL TOiNjINGUjTIiUhK OHMiAjIRIjRATTOkORIIiBiCALiEESUiGiHZ",
   "iIROlGURAMUlMEETORUlWATTOiKiLiMj CAPITALlUBEDkSQUAREDiOOPOjRUNAiPAiTiUROONEkUZEIROiViWiYURII",
   "hLEFT OPEN BOX OPERATORiMiNiOGjZENGEiXhM CUBEDjOHMkVER Sp SQUAREDjSQUAREDiAjHHAjIKUROkRUjNSYON",
   "jRUKUiBj SMALLiEETORUjGAlTONiGiHZiIKURONjLjRIlBAARUiLiMj CUBEDkSQUAREDiOLiPAiSiU AkFkGkLkMkSkV",
   "kWiVj MEGAiWj MEGAhNAjNOiFiMiOTTOiSiViWhONSUiOMUiRIGINAL OFs OR EQUAL TOwNOT EQUAL TOiVhPA",
   "j AMPSjASENTOkTUiCiEEZIjNIHIkSUjSOiFiHiIASUTORUjKOkURUiMiOINTOjNDOjSITION INDICATORiPMiRiSiViW",
   "hRADk OVER Sr SQUAREDiEMUjNTOGENiIGHT OPEN BOX OPERATORjRAjTTORUiOOTiUPIIjUBURUhSAIKURUjNTIIMU",
   "iENTIlOiIRINGUiRiVhTARGETiHZiONhUONhV OVER MhWATTOiBiITH BOTTOM HALF BLACKmCONTOURED OUTLINE",
   "mDIAGONAL CROSSHATCH FILLmHORIZONTAL FILLmLEFT HALF BLACKnOWER LEFT DIAGONAL HALF BLACK",
   "sRIGHT DIAGONAL HALF BLACKmORTHOGONAL CROSSHATCH FILLmRIGHT HALF BLACKmTOP HALF BLACK",
   "mUPPER LEFT DIAGONAL HALF BLACKxTO LOWER RIGHT FILLsRIGHT DIAGONAL HALF BLACK",
   "yTO LOWER LEFT FILLmVERTICAL FILLhYAADOkRUiUANgD ASTERISKiCJK UNIFIED IDEOGRAPH-4E00θ9η2Dη8C",
   "ηA4ε518Dζ21Dη4Dη72ζ3CCηF3ζ408η39ζ5B6ζ8F0ζ91Aη29ζB57ζDE6ζF8Cε624Bη53η95ζ307η55ζ599ηB0ζ620ζ708θ9",
   "ζE80ζF14ε7121ζ51Fη33ζ981ζA7AζD42ε89E3ζCA9ζD70ε904Aζ14DjLjOOLiDOT OPERATORiEIGHT K",
   "iFALLING DIAGONAL SLASHjIVE POINT ONEjOUR DOT PUNCTUATIONnKjREEiHCjDRjI-RESjViIDiKATAKANA DE",
   "rKOKOrSAjEYiLATIN CAPITAL LETTER AδBδCδDδEδFδGδHδIδJδKδLδMδNδOδPδQδRδSδTδUδVδWδXδYδZ",
   "oSMALL LETTER DjOGICAL ANDqORkSSLESSiMINUSjViNEWjGiOKjNE HUNDRED TWENTY PiPLUSjPV",
   "iRISING DIAGONAL SLASHiSALTIREjDjECOND SCREENkVEN POINT ONEjHVjIXTY PjMALL CIRCLEjOSjQUAREjS",
   "iTHREE DjIMESjWENTY-TWO POINT TWOkO KiUHDjP WITH EXCLAMATION MARKiVODjSiWC",
   "eT BLACK RIGHTWARDS ARROWdIDbS2c3cAbTcADIUMdFF OF AESCULAPIUSjHERMESdMPED ENVELOPE",
   "dNDING PERSONdR AND CRESCENTfEQUALSfOF DAVIDgPERATORfWITH LEFT HALF BLACKkRIGHT HALF BLACK",
   "eT OF GUARDED AREAjHEADINGjPROTECTED AREAjSELECTED AREAkTRINGjTEXTdTIONeUE OF LIBERTY",
   "cEAM LOCOMOTIVEfING BOWLdNOGRAPHIC FULL STOPdTHOSCOPEcICK FIGUREm LEANING LEFTvRIGHT",
   "nWITH ARMS RAISEDsDRESScOCK CHARTdPWATCHcRAIGHT RULERiNESSeWBERRYdESS OUTLINED WHITE STAR",
   "dICTLY EQUIVALENT TOeNG TERMINATORcScUDIO MICROPHONEdFFED FLATBREADdPAcXbUBdSCRIPT EIGHT",
   "lQUALS SIGNkFIVElOURkLEFT PARENTHESISkMINUSkNINEkONEkPLUS SIGNkRIGHT PARENTHESISkSEVENlIX",
   "kTHREElWOkZEROeET ABOVE RIGHTWARDS ARROWnSUBSETpPERSEThOFj ABOVE ALMOST EQUAL TOqEQUALS SIGN",
   "qNOT EQUAL TOqTILDE OPERATORkOR EQUAL TOv WITH DOT ABOVEkWITH NOT EQUAL TOhWITH DOT",
   "mMULTIPLICATION SIGN BELOWmPLUS SIGN BELOWeTITUTEcCCEEDSi ABOVE ALMOST EQUAL TOpEQUALS SIGN",
   "pNOT ALMOST EQUAL TOtEQUAL TOpSINGLE-LINE EQUALS SIGNβNOT EQUAL TOjBUT NOT EQUIVALENT TO",
   "jOR EQUAL TOpIVALENT TOjUNDER RELATIONcMMATION BOTTOMkTOPkWITH INTEGRALcNd BEHIND CLOUD",
   "eWITH FACEdDANESE AVAGRAHAkCONSONANT SIGN PAMINGKALβNYAKRAδIKUβSANGAN MAιWAkDIGIT EIGHTqFIVE",
   "rOURqNINEqONEqSEVENrIXqTHREErWOqZEROkLETTER AsErBAsHArCArDArEsUrFAsINAL KxMrGArHArIrJArKAsHA",
   "rLAsEUrMArNAsGAsYArOrPArQArRAsEUrSAsYArTArUrVArWArXArYArZAkPUNCTUATION BINDU BA SATANGAγCAKRA",
   "γDA SATANGAγKA SATANGAγLEU SATANGAγPANGLONGδURNAMAγSURYAkSIGN PAMAAEHrNGLAYARtWISADsYECEK",
   "pVIRAMAkVOWEL SIGN PAMEPETxNAELAENGyEULEUNGyGHULUyOLONGyYUKUdFLOWERdRISEh OVER MOUNTAINS",
   "dSET OVER BUILDINGScPERHEROfSCRIPT EIGHTnQUALS SIGNmFIVEnOURmLATIN SMALL LETTER IζN",
   "nEFT PARENTHESISmMINUSmNINEmONEmPLUS SIGNmRIGHT PARENTHESISmSEVENnIXmTHREEnWOmZERO",
   "gET ABOVE LEFTWARDS ARROWpSUBSETrPERSETjBESIDE AND JOINED BY DASH WITH SUBSETqSUBSETjOF",
   "l ABOVE ALMOST EQUAL TOsEQUALS SIGNsNOT EQUAL TOsTILDE OPERATORmOR EQUAL TOx WITH DOT ABOVE",
   "mWITH NOT EQUAL TOjPRECEDING SOLIDUSjWITH DOToMULTIPLICATION SIGN BELOWoPLUS SIGN BELOW",
   "fVILLAINcRFACE INTEGRALeERcSHIdPENSION RAILWAYbWANdSH AMPERSAND ORNAMENTcIMMERcUNG DASH",
   "bYLOTI NAGRI LETTER AuBHOvOuCHOvOuDDHOwOvHOvOuEuGHOvOuHOuIuJHOvOuKHOvOuLOuMOuNOuOuPHOvOuROvRO",
   "uSOuTHOvOvTHOwOuUnPOETRY MARK-1z2z3z4nSIGN ALTERNATE HASANTAtNUSVARAsDVISVARAsHASANTA",
   "nVOWEL SIGN AyEyIyOOyUcMBOL FOR ACKNOWLEDGElBACKSPACEmELLlCANCELnRRIAGE RETURN",
   "lDATA LINK ESCAPEmELETEr FORM TWOnVICE CONTROL FOURαONEαTHREEβWOlEND OF MEDIUMsTEXT",
   "tRANSMISSIONε BLOCKnQUIRYmSCAPElFILE SEPARATORmORM FEEDlGROUP SEPARATORlHORIZONTAL TABULATION",
   "lLINE FEEDlMARKS CHAPTERlNEGATIVE ACKNOWLEDGEnWLINEmULLlRECORD SEPARATORlSAMARITAN SOURCE",
   "mHIFT INrOUTmPACEmTART OF HEADINGuTEXTmUBSTITUTEv FORM TWOmYNCHRONOUS IDLElTYPE A ELECTRONICS",
   "lUNIT SEPARATORlVERTICAL TABULATIONdMETRYcNdAGOGUEdCHRONOUS IDLEcRIAC ABBREVIATION MARK",
   "hBARREKHhCOLON SKEWED LEFTuRIGHTjNTRACTIONhDOTTED ZLAMA ANGULARuHORIZONTALhEND OF PARAGRAPH",
   "iSASA ABOVEnBELOWhFEMININE DOThHARKLEAN ASTERISCUSqMETOBELUSqOBELUSiBASA ABOVEnBELOW",
   "m-ESASA DOTTEDiORIZONTAL COLONhLETTER ALAPHoBETHoDALATHpOTLESS DALATH RISHoEoFINAL SEMKATH",
   "oGAMALt GARSHUNIoHEqTHoKAPHoLAMADHoMALAYALAM BHAyJAyLLAαLAyNGAzNAαNAzYAyRAySSAyTTApIMoNUNoPE",
   "qRSIAN BHETHwDHALATHwGHAMALoQAPHoREVERSED PEpISHoSADHEpEMKATHpHINpOGDIAN FEwKHAPHwZHAIN",
   "pUPERSCRIPT ALAPHoTAWpETHs GARSHUNIoWAWoYUDHs HEoZAINhMUSIChOBLIQUE LINE ABOVEuBELOW",
   "hPTHAHA ABOVEoBELOWoDOTTEDhQUSHSHAYAhRBASA ABOVEnBELOWiUKKAKHAiWAHAhSUBLINEAR COLON",
   "w SKEWED LEFTεRIGHTrFULL STOPjPRALINEAR COLONy SKEWED LEFTtFULL STOPhTHREE DOTS ABOVEsBELOW",
   "iWO VERTICAL DOTS ABOVEzBELOWhZQAPHA ABOVEoBELOWoDOTTEDeNGEaT-REXcSHIRTbAB",
   "dLE TENNIS PADDLE AND BALLcCOcG AMPERSANDfPOSTROPHEfSTERISKeCIRCUMFLEX ACCENTfOLONgMMA",
   "iERCIAL ATeDIGIT EIGHTkFIVElOURkNINEkONEkSEVENlIXkTHREElWOkZEROfOLLAR SIGNeEQUALS SIGN",
   "fXCLAMATION MARKeFULL STOPeGRAVE ACCENTgEATER-THAN SIGNeHYPHEN-MINUSeLATIN CAPITAL LETTER AzB",
   "zCzDzEzFzGzHzIzJzKzLzMzNzOzPzQzRzSzTzUzVzWzXzYzZkSMALL LETTER AxBxCxDxExFxGxHxIxJxKxLxMxNxOxP",
   "xQxRxSxTxUxVxWxXxYxZfEFT CURLY BRACKETjPARENTHESISjSQUARE BRACKETgSS-THAN SIGNfOW LINE",
   "eNUMBER SIGNePERCENT SIGNfLUS SIGNeQUESTION MARKgOTATION MARKeREVERSE SOLIDUS",
   "fIGHT CURLY BRACKETkPARENTHESISkSQUARE BRACKETeSEMICOLONfOLIDUSfPACEeTILDEeVERTICAL LINE",
   "dALOG LETTER AqRCHAIC RApBApDApGApHApIpKApLApMApNAqGApPApRApSApTApUpWApYAiSIGN PAMUDPODnVIRAMA",
   "iVOWEL SIGN ItUdBANWA LETTER AqBAqDAqGAqIqKAqLAqMAqNArGAqPAqSAqTAqUqWAqYAjVOWEL SIGN IuU",
   "cI LE LETTER ApIpUEoEpEpHoFAoHAoIoKApHAoLAoMAoNApGAoOpOoPApHAoQAoSAoTApHApONE-2t3t4t5t6pSAqHA",
   "oUpEoVAoXAoYAeTHAM COMBINING CRYPTOGRAMMIC DOTlNSONANT SIGN BAyFINAL NGAyHIGH RATHA OR LOW PA",
   "yLA TANG LAIzOW PAyMAzEDIAL LAζRAySAjHORA DIGIT EIGHTuFIVEvOURuNINEuONEuSEVENvIXuTHREEvWOuZERO",
   "jLETTER AqBAqDAqEEqGREAT SAqHIGH CAwHAvFAvHAvKAwHAwXAvPAwHAvRATHAvSAwHAwSAvTAwHAvYAqIrIqLAsE",
   "rLArOW CAvHAuFAuHAuKAvHAvXAuPAvHAuRATHAuSAuTAvHAuYArUEqMAqNArGArYAqOOqRAsNAsTArUEqUrUqWA",
   "jSIGN CAANGoDOKMAIoHANGpOYoKAANsKUUpEOWpHUEN TONE-3z4z5t-LUE KARANoMAI KANGw LAIsSAMsYAMOK",
   "oRA HAAMpEVERSED ROTATED RANAoSAKOTqTKAANvKUUqWANoTONE-1t2oWIANGtWAAKjTHAM DIGIT EIGHTuFIVE",
   "vOURuNINEuONEuSEVENvIXuTHREEvWOuZEROjVOWEL SIGN AvAvEvIuEuIvIuMAI SATuOvA ABOVExBELOWvOvY",
   "uTALL AAvHAM AIuUvEvUwEeVIET LETTER HIGH BOvCHOwOvDOvFOvGOvHOvKHHOxOwOvLOvMOvNGOwOwYOvOvPHOwO",
   "vROvSOvTHOwOvVOvYOqLOW BOuCHOvOuDOuFOuGOuHOuKHHOwOvOuLOuMOuNGOvOvYOuOuPHOvOuROuSOuTHOvOuVOuYO",
   "jMAI KANGoHITjSYMBOL HO HOIqKOI KOIsNqNUENGqSAMjTONE MAI EKsNUENGsSONGsTHOjVOWEL AAqMqNqUEqYpE",
   "pIqApOpUqAqErAcKEOUT BOXdRI ABBREVIATION SIGNgDIGIT EIGHTmFIVEnOURmNINEmONEmSEVENnIXmTHREEnWO",
   "mZEROgLETTER AoAoIoRCHAIC KHAoUnBAoHAnCAoHAnDAoDApHAoHAnEnGAoHAnHAnIoInJAoHAnKAoHAnLAnMAnNAoGA",
   "oNAoYAnOnPAoHAnRAoRAnSAoHAnTAoHAoTApHAnUoUnVAnYAgSIGN ANUSVARAlNUKTAlVIRAMAnSARGA",
   "gVOWEL SIGN AAsIsUrErIsIrOrUsUcLLY MARK FIVElONEcMALEdIL AND ODD SIGNhS ABOVE SIGN",
   "hU LENGTH MARKgCREDIT SIGNhURRENT SIGNgDAY SIGNhEBIT SIGNhIGIT EIGHTmFIVEnOURmNINEmONEmSEVEN",
   "nIXmTHREEnWOmZEROhRY CULTIVATION SIGNgFRACTION DOWNSCALING FACTOR KIIZHpONE EIGHTHyIETHtFIFTH",
   "uORTIETHtHALF-1y2tONE-HUNDRED-AND-SIXTIETHtQUARTERtSIXTEENTH-1δ2xY-FOURTHtTENTHuHIRTY-SECOND",
   "vREE-HUNDRED-AND-TWENTIETHuWENTIETHpTHREE EIGHTIETHSvQUARTERSvSIXTEENTHSzY-FOURTHSvTWENTIETHS",
   "gIN POSSESSION SIGNgLAND SIGNhETTER AoAoIoUnCAnEoEnHAnIoInJAnKAnLAoLApLAnMAnNAoGAoNApNAoYAnOoO",
   "nPAnRAoRAnSAoHAoSAnTAoTAnUoUnVAnYAgMONTH SIGNgNUMBER ONE HUNDREDrTHOUSANDnSIGNnTENgOM",
   "gPUNCTUATION END OF TEXTgRUPEE SIGNgSALT PAN SIGNhIGN AAZHAAKKUmNUSVARAlCEVITUlKAACUmURUNInZHI",
   "lMUKKURUNInTHALIYAnUVUZHAKKUlNELlPAARAMnNAMnTHAKKUmONlUZHAKKUlVAKAIYARAAnRAAKANmELImIRAMA",
   "nSARGAhPENT SIGNhTARTING FROM SIGNgTOTAL SIGNhRADITIONAL CREDIT SIGNsNUMBER SIGNgVOWEL SIGN AA",
   "sIsUrEsErIsIrOsOrUsUgWET CULTIVATION SIGNgYEAR SIGNcNABATA TREEdGERINEeSA DIGIT EIGHTnFIVEoOUR",
   "nNINEnONEnSEVENoIXnTHREEoWOnZEROhLETTER ACpQpWCqQqXqZpXpZoBAoCApHAoDApHAoECpQpXpZoFApINAL NG",
   "oGApHAoHApTAqTAoICpQpXpZoKApHAoLApONG UEXoMApCpQpXpZoNApGApHApYAoOCpQpXpZoPApHAoRAoSApHA",
   "qORT AWXuUEZoTApHApSAoUCpECqQqXqZpICqQqUCrQrXrZqXqZpQpXpZoVCpQpXpZoWAoXAoYAoZA",
   "eUT COMPONENT-001t2t3t4t5t6t7t8t9s10t1t2t3t4t5t6t7t8t9s20t1t2t3t4t5t6t7t8t9s30t1t2t3t4t5t6t7t8",
   "t9s40t1t2t3t4t5t6t7t8t9s50t1t2t3t4t5t6t7t8t9s60t1t2t3t4t5t6t7t8t9s70t1t2t3t4t5t6t7t8t9s80t1t2",
   "t3t4t5t6t7t8t9s90t1t2t3t4t5t6t7t8t9r100t1t2t3t4t5t6t7t8t9s10t1t2t3t4t5t6t7t8t9s20t1t2t3t4t5t6",
   "t7t8t9s30t1t2t3t4t5t6t7t8t9s40t1t2t3t4t5t6t7t8t9s50t1t2t3t4t5t6t7t8t9s60t1t2t3t4t5t6t7t8t9s70",
   "t1t2t3t4t5t6t7t8t9s80t1t2t3t4t5t6t7t8t9s90t1t2t3t4t5t6t7t8t9r200t1t2t3t4t5t6t7t8t9s10t1t2t3t4",
   "t5t6t7t8t9s20t1t2t3t4t5t6t7t8t9s30t1t2t3t4t5t6t7t8t9s40t1t2t3t4t5t6t7t8t9s50t1t2t3t4t5t6t7t8t9",
   "s60t1t2t3t4t5t6t7t8t9s70t1t2t3t4t5t6t7t8t9s80t1t2t3t4t5t6t7t8t9s90t1t2t3t4t5t6t7t8t9r300t1t2t3",
   "t4t5t6t7t8t9s10t1t2t3t4t5t6t7t8t9s20t1t2t3t4t5t6t7t8t9s30t1t2t3t4t5t6t7t8t9s40t1t2t3t4t5t6t7t8",
   "t9s50t1t2t3t4t5t6t7t8t9s60t1t2t3t4t5t6t7t8t9s70t1t2t3t4t5t6t7t8t9s80t1t2t3t4t5t6t7t8t9s90t1t2",
   "t3t4t5t6t7t8t9r400t1t2t3t4t5t6t7t8t9s10t1t2t3t4t5t6t7t8t9s20t1t2t3t4t5t6t7t8t9s30t1t2t3t4t5t6",
   "t7t8t9s40t1t2t3t4t5t6t7t8t9s50t1t2t3t4t5t6t7t8t9s60t1t2t3t4t5t6t7t8t9s70t1t2t3t4t5t6t7t8t9s80",
   "t1t2t3t4t5t6t7t8t9s90t1t2t3t4t5t6t7t8t9r500t1t2t3t4t5t6t7t8t9s10t1t2t3t4t5t6t7t8t9s20t1t2t3t4",
   "t5t6t7t8t9s30t1t2t3t4t5t6t7t8t9s40t1t2t3t4t5t6t7t8t9s50t1t2t3t4t5t6t7t8t9s60t1t2t3t4t5t6t7t8t9",
   "s70t1t2t3t4t5t6t7t8t9s80t1t2t3t4t5t6t7t8t9s90t1t2t3t4t5t6t7t8t9r600t1t2t3t4t5t6t7t8t9s10t1t2t3",
   "t4t5t6t7t8t9s20t1t2t3t4t5t6t7t8t9s30t1t2t3t4t5t6t7t8t9s40t1t2t3t4t5t6t7t8t9s50t1t2t3t4t5t6t7t8",
   "t9s60t1t2t3t4t5t6t7t8t9s70t1t2t3t4t5t6t7t8t9s80t1t2t3t4t5t6t7t8t9s90t1t2t3t4t5t6t7t8t9r700t1t2",
   "t3t4t5t6t7t8t9s10t1t2t3t4t5t6t7t8t9s20t1t2t3t4t5t6t7t8t9s30t1t2t3t4t5t6t7t8t9s40t1t2t3t4t5t6t7",
   "t8t9s50t1t2t3t4t5t6t7t8t9s60t1t2t3t4t5t6t7t8hITERATION MARKcPE CARTRIDGEfDRIVEcURUScXI",
   "bEACUP WITHOUT HANDLEdPOTdR-OFF CALENDAReDROP-BARBED RIGHTWARDS ARROWjSPOKED ASTERISKcDDY BEAR",
   "cLEPHONE LOCATION SIGNkON TOP OF MODEMkRECEIVERs WITH PAGEnORDERkSIGNeSCOPEeVISION",
   "dUGU AI LENGTH MARKhDIGIT EIGHTnFIVEoOURnNINEnONEnSEVENoIXnTHREEoWOnZERO",
   "hFRACTION DIGIT ONE FOR EVEN POWERS OF FOURεODD POWERS OF FOURwTHREE FOR EVEN POWERS OF FOUR",
   "ηODD POWERS OF FOURxWO FOR EVEN POWERS OF FOURεODD POWERS OF FOURwZERO FOR ODD POWERS OF FOUR",
   "hLENGTH MARKjTTER ApApIpUoBApHAoCApHAoDApDAqHApHApZAoEpEoGApHAoHAoIpIoJApHAoKApHAoLApLAqLAoMA",
   "oNAqKAARA POLLUpGApNApYAoOpOoPApHAoRApRAqRAoSApHApSAoTApHApSApTAqHAoUpUoVApOCALIC LxLwRxRoYA",
   "hSIGN ANUSVARAnVAGRAHAmCANDRABINDUnOMBINING ANUSVARA ABOVEwCANDRABINDU ABOVEmNUKTAmSIDDHAM",
   "mTUUMUmVIRAMAoSARGAhVOWEL SIGN AAtItUsEtEsItIsOtOsUtUsVOCALIC LβLαRβRcNGE SIGN",
   "dNIS RACQUET AND BALLdTcST TUBEcTRAGRAM FOR ACCUMULATIONpDVANCEpGGRAVATIONpSCENToBARRIER",
   "pOLD RESOLUTIONpRANCHING OUToCENTREpHANGEpLOSED MOUTHtNESSsUREpOMPLETIONtIANCEqNSTANCYrTACT",
   "sENTIONsRARIETYoDARKENINGpECISIVENESSqFECTIVENESS OR DISTORTIONqPARTUREpIFFICULTIESqMINISHMENT",
   "rMINGqVERGENCEpOUBTpUTIESoEASEpMBELLISHMENTpNCOUNTERSqDEAVOURqLARGEMENTpTERNITYpXHAUSTION",
   "oFAILUREpLIGHTpOLLOWINGqSTERINGpULL CIRCLEsNESSoGATHERINGx INpOING TO MEETpREATNESSpUARDEDNESS",
   "oHARDNESSpOLDING BACKoINCREASEqNERoJOYoKEEPING SMALLpINSHIPoLABOURINGqW OR MODELpEGIONoMASSING",
   "pEASUREpIREDoON THE VERGEpPPOSITIONoPACKINGqTTERNpENETRATIONpURITYoREACHqLEASEqSIDENCEsSTANCE",
   "rPONSEpITUALoSEVERANCEpINKINGpTOPPAGErVEqRENGTHoUNITYoVASTNESS OR WASTINGoWAITINGqTCH",
   "oYOUTHFULNESSbHAANA AABAAFILIiBAFILIhEBEFILIiEBEEFILIiYBEYFILIhIBIFILIhLETTER AINUpLIFUoBAA",
   "oCHAVIYANIoDAADHUqVIYANIpHAALUoFAAFUoGAAFUpHAINUpNAVIYANIoHAApHAAoJAVIYANIoKAAFUpHAAoLAAMU",
   "pHAVIYANIoMEEMUoNAApOONUoPAVIYANIoQAAFUoRAAoSAADHUpEENUpHAVIYANIqEENUoTAVIYANIpHAAsLUpOpTAA",
   "oVAAVUoWAAVUoYAAoZAAqVIYANIpOhOABOAFILIiBOFILIiOBOOFILIhSUKUNhUBUFILIdI CHARACTER ANGKHANKHU",
   "pBO BAIMAIpCHO CHANxGvINGvOEpDO CHADAsDEKpFO FAuNrNGMANpHO HIPsNOKHUKpKHO KHAIvONvUATvWAI",
   "tRAKHANGsMUTqO KAIpLAKKHANGYAOqO CHULAsLINGqUpMAI CHATTAWAtEKtHAN-AKATtTHOuRIsTAIKHUsYAMOK",
   "qO MApNGO NGUqIKHAHITqO NENtUpO ANGpPAIYANNOIqHINTHUrO PHANvUNGtSAMPHAOqO PLApRO RUAqUpSARA A",
   "vAvEvI MAIMALAIβUANvMuEuIvIuOuUvEwEvUqO RUSIsSALAtOtUApTHANTHAKHATrO NANGMONTHOtPHUTHAOtTHAHAN",
   "wNvONGvUNGqO PATAKsTAOpWO WAENpYAMAKKANqO YAKtINGgURRENCY SYMBOL BAHTfDIGIT EIGHTlFIVEmOUR",
   "lNINElONElSEVENmIXlTHREEmWOlZEROcERE DOES NOT EXISTgEXISTSfFOREeMODYNAMICgMETERcIN GREEK CROSS",
   "fSALTIREgPACEeKING FACEdRD PLACE MEDALcONG SANDALdUGHT BALLOONcREE BUTTON MOUSE",
   "gCONSECUTIVE EQUALS SIGNSgDIMENSIONAL ANGLEhOT PUNCTUATIONgLEFTWARDS ARROWS",
   "hINES CONVERGING LEFTxRIGHTgNETWORKED COMPUTERSgPOINTED BLACK STARgRAYS ABOVElBELOWlLEFTlRIGHT",
   "hIGHTWARDS ARROWSgSPEECH BUBBLESf-D BOTTOM-LIGHTED RIGHTWARDS ARROWHEAD",
   "iLEFT-LIGHTED DOWNWARDS EQUILATERAL ARROWHEADiRIGHT-LIGHTED UPWARDS EQUILATERAL ARROWHEAD",
   "iTOP-LIGHTED LEFTWARDS EQUILATERAL ARROWHEADuRIGHTWARDS ARROWHEADζEQUILATERAL ARROWHEAD",
   "gEM DASHgPER-EM SPACEcUMBS DOWN SIGNhUP SIGNdNDER CLOUD AND RAINhSTORM",
   "bIBETAN ASTROLOGICAL SIGN -KHYUD PAαSDONG TSHUGSβGRA GCAN -CHAR RTAGS",
   "iCANTILLATION SIGN CANG TE-UαHEAVY BEATαLIGHT BEATαSBUB -CHALiDIGIT EIGHToFIVEpOURoHALF EIGHT",
   "tFIVEuOURtNINEtONEtSEVENuIXtTHREEuWOtZEROoNINEoONEoSEVENpIXoTHREEpWOoZEROiKU RU KHA",
   "r BZHI MIG CANiLETTER -ApApBAqHApCAqHApDAqDArHAqHAqZArHApFIXED-FORM RApGAqHApHApJApKAqHAqKA",
   "qSSApLApMApNAqGAqNAqYApPAqHApRAqRApSAqHAqSApTAqHAqSArHAqTArHApWApYApZAqHA",
   "jOGOTYPE SIGN CHAD RTAGSwLHAG RTAGSiMARK ANG KHANG GYASzONnBKA- SHOG GI MGO RGYANxYIG MGO",
   "oSDUS RTAGSpKA- SHOG GI MGO RGYANqUR YIG MGOnCARET -DZUD RTAGS BZHI MIG CANζME LONG CAN",
   "tYIG MGO PHUR SHAD MAoHE MGOoLOSING BRDA RNYING YIG MGO SGAB MAvYIG MGO SGAB MA",
   "nDELIMITER TSHEG BSTARnGTER TSHEGsYIG MGO -UM GTER TSHEG MAεRNAM BCAD MAαTRUNCATED A",
   "oUG RTAGS GYASzONnHALANTAnINITIAL BRDA RNYING YIG MGO MDUN MAvYIG MGO MDUN MA",
   "pTERSYLLABIC TSHEGnLEADING MCHAN RTAGSnMNYAM YIG GI MGO RGYANnNGAS BZUNG NYI ZLAySGOR RTAGS",
   "oYIS SHADsTSHEGx SHADnPALUTAnRGYA GRAM SHADoIN CHEN SPUNGS SHADnSBRUL SHADoHAD",
   "nTRAILING MCHAN RTAGSoSA -PHRUpHEG SHADnYIG MGO TSHEG SHAD MAiSIGN GRU CAN RGYINGSrMED RGYINGS",
   "nINVERTED MCHU CANnLCE TSA CANpI RTAGSnMAR TSHESoCHU CANnNYI ZLA NAA DAnRDEL DKAR GCIGyNYIS",
   "ySUMxRDEL NAGsNAG GCIGxNYISxSUMwRDEL DKARoJES SU NGA ROoNAM BCADnSNA LDANnYANG RTAGSpR TSHES",
   "jUBJOINED LETTER -AzAzBAαHAzCAαHAzDAαDAβHAαHAαZAβHAzFIXED-FORM RAλWAλYAzGAαHAzHAzJAzKAαHAαSSA",
   "zLAzMAzNAαGAαNAαYAzPAαHAzRAzSAαHAαSAzTAαHAαSAβHAαTAβHAzWAzYAzZAαHAsSIGN INVERTED MCHU CAN",
   "xLCE TSA CANxMCHU CANjYLLABLE OMkMBOL DRIL BUpNOR BUv BZHI -KHYILwGSUM -KHYILwNYIS -KHYIL",
   "pPADMA GDANqHUR PApRDO RJEw RGYA GRAMiVOWEL SIGN AAtEuEtIuItOuOtREVERSED IδItUuUtVOCALIC LγLβR",
   "γRcCKETcE OVER INFINITYcFINAGH CONSONANT JOINERjLETTER AHAGGAR YAZHrYER YAGH",
   "qBERBER ACADEMY YAHθJqTAWELLEMET YAZrUAREG YAGHαNzHzKαHzNGzQzZHqYAsAsBtHsCHsDtDuHtHsFsGtHuHsH",
   "tHsJsKtHuHsLsMsNsPsQsRtRsStHtSsTtHtTsVsWsYsZtHtZrEsYrIrOrUjMODIFIER LETTER LABIALIZATION MARK",
   "jSEPARATOR MARKcGERf FACEdHT TRIFOLIATE SNOWFLAKEcLDEf OPERATORo ABOVE LEFTWARDS ARROW",
   "vRIGHTWARDS ARROWpWITH DOT ABOVEuRISING DOTSgWITH DOT ABOVEpBELOWlRING ABOVEcMER CLOCK",
   "eS WITH LEFT HALF BLACKlRIGHT HALF BLACKcNYe TWO DOTS OVER ONE DOT PUNCTUATIONcRED FACE",
   "dHUTA ABBREVIATION SIGNjNJIiDIGIT EIGHToFIVEpOURoNINEoONEoSEVENpIXoTHREEpWOoZEROiGVANG",
   "iLETTER AqAqIqUpBAqHApCAqHApDAqDArHAqHApEpGAqHApHApIqIpJAqHApKAqHApLApMApNAqGAqNAqYApOpPAqHA",
   "pRApSAqHAqSApTAqHAqTArHApUqUpVAqOCALIC LyLxRyRpYAiOMiSIGN ANUSVARAoVAGRAHAnCANDRABINDUnNUKTA",
   "nVIRAMApSARGAiVOWEL SIGN AAuIuUtEtIuItOtSHORT EzOtUuUtVOCALIC LγLβRγRdONIAN SIGN CAPITAL EToET",
   "bOILETcKYO TOWERcMATOcNGUEcOLBOXdTHfBRUSHcP ARC ANTICLOCKWISE ARROWβ WITH PLUS",
   "iCLOCKWISE ARROW WITH MINUSeCURLY BRACKETeHALF BLACK CIRCLEjINTEGRALjLEFT PARENTHESIS",
   "jRIGHT PARENTHESISjSECTION SIGNgTeLEFT CORNERkROPjHALF BRACKETePARENTHESISeRIGHT CORNERlROP",
   "kHALF BRACKETeSQUARE BRACKETeTORTOISE SHELL BRACKETeWITH UPWARDS ARROW ABOVE",
   "cRTOISE SHELL BRACKETED CJK UNIFIED IDEOGRAPH-4E09ψ8Cφ52DDχB89φ6253χ557χ72Cφ70B9χ6D7",
   "zLATIN CAPITAL LETTER ScTAL RUNOUTdO LETTER AnEmBAnREATHY AEuEvOuIvUmCHAmDAmEnOmGAmHAmInUmJA",
   "mKAmLAmMAmNAnGAmOmPAmRAmSAmTAmUmWAmYAfSIGN RISING TONEbRACKBALLeTORdDE MARK SIGNdINdMe CAR",
   "dNSPLUTOfVERSAL INTERSECTIONcIANGLE WITH DOT ABOVEoROUNDED CORNERSoSERIFS AT BOTTOMoUNDERBAR",
   "i-HEADED RIGHTWARDS ARROWgULAR BULLETlFLAG ON POSTlRULERdCOLONdDENT EMBLEMdGRAM FOR EARTHmFIRE",
   "mHEAVENmLAKEmMOUNTAINmTHUNDERmWATERnINDdPLE COLON OPERATORhDAGGER",
   "hHORIZONTAL BAR WITH DOUBLE VERTICAL STROKEβTRIPLE VERTICAL STROKEhINTEGRAL",
   "hNESTED GREATER-THANoLESS-THANhPLUSiRIMEhSOLIDUS BINARY RELATIONhTILDE",
   "hVERTICAL BAR BINARY RELATIONuDELIMITERuRIGHT TURNSTILEuWITH HORIZONTAL STROKEcOLLfEYBUSdPHY",
   "eICAL DRINKjFISHcUEe LIGHT MOON ARTAdMPETbUGRIK SIGNcLIPcMBLER GLASScRKEYeISH LIRA SIGN",
   "dNED AMPERSANDiNGLEhBLACK PENTAGONnSHOGI PIECEhCAPITAL FiOMMAhDAGGERiIGIT THREEoWO",
   "hGREEK SMALL LETTER IOTAhNORTH EAST POINTING LEAFnWEST POINTING LEAFjT SIGNhOK HAND SIGN",
   "hSANS-SERIF CAPITAL GαLαYiEMICOLONiMALL FiOUTH EAST POINTING LEAFnWEST POINTING LEAF",
   "hWHITE SHOGI PIECEdTLEbWELVE POINTED BLACK STARcISTED RIGHTWARDS ARROWS",
   "cO ASTERISKS ALIGNED VERTICALLYeBUTTON MOUSEeCONSECUTIVE EQUALS SIGNSeDOT LEADERiPUNCTUATION",
   "hS OVER ONE DOT PUNCTUATIONeHEARTSeINTERSECTING LOGICAL ANDzOReJOINED SQUARES",
   "eLOGICAL AND OPERATORmOR OPERATOReMEN HOLDING HANDSeSPEECH BUBBLESeWOMEN HOLDING HANDS",
   "d-EM DASHaUGARITIC LETTER AINrLPAqBETAqDELTArHALqGAMLArHAINqHOsTAqIqKAFrHAqLAMDAqMEMqNUNqPU",
   "qQOPAqRASHAqSADEsMKArHINrSUqTETrHANNArOqUqWOqYODqZETArUjWORD DIVIDERbMBRELLAi ON GROUND",
   "jWITH RAIN DROPSbNAMUSED FACEcCERTAINTY SIGNcDERTIEdO SYMBOLcICORN FACEdON",
   "f ABOVE BAR ABOVE INTERSECTIONmINTERSECTIONgBESIDE AND JOINED WITH UNIONgWITH LOGICAL OR",
   "lMINUS SIGNlOVERBARdT SEPARATOReED SYMBOLdVERSAL RECYCLING SYMBOLcMARRIED PARTNERSHIP SYMBOL",
   "bP ARROW THROUGH CIRCLEiHEADm BETWEEN TWO HORIZONTAL BARSnIN A RECTANGLE BOX",
   "dBARB LEFT DOWN BARB LEFT HARPOONxRIGHT HARPOONiRIGHT DOWN BARB LEFT HARPOONyRIGHT HARPOON",
   "dDOWN ARROWn WITH BASEiBLACK ARROWiDOUBLE ARROWiSANS-SERIF ARROWiTRIANGLE-HEADED ARROW",
   "iWHITE ARROWdFISH TAILdRIGHT DIAGONAL ELLIPSISdTACKh WITH CIRCLE ABOVEc-POINTING AIRPLANE",
   "mMILITARY AIRPLANEmRED TRIANGLEmSMALL AIRPLANEsRED TRIANGLEmTRIANGLE WITH LEFT HALF BLACK",
   "αRIGHT HALF BLACKcPER AND LEFT AND LOWER TRIANGULAR THREE QUARTERS BLOCKlOWER ONE EIGHTH BLOCK",
   "qTRIANGULAR HALF BLOCKkRIGHT AND LOWER TRIANGULAR THREE QUARTERS BLOCKgBLADE SCISSORS",
   "gFIVE EIGHTHS BLOCKgHALF BLOCKq AND LOWER HALF INVERSE MEDIUM SHADElCIRCLE",
   "lINVERSE MEDIUM SHADE AND LOWER HALF BLOCKtWHITE CIRCLElMEDIUM SHADE",
   "gLEFT BLOCK DIAGONAL LOWER CENTRE TO LOWER MIDDLE RIGHTρUPPER MIDDLE RIGHTχRIGHT",
   "ηLEFT TO LOWER MIDDLE RIGHTοUPPER CENTREυMIDDLE RIGHTηMIDDLE LEFT TO UPPER CENTRE",
   "ωER MIDDLE RIGHTωER RIGHTαUPPER MIDDLE LEFT TO UPPER CENTREωER RIGHTlCORNER WITH DOT",
   "lOR LOWER RIGHT CURLY BRACKET SECTIONlQUADRANT CIRCULAR ARClTO LOWER RIGHT FILLmRIANGLE",
   "rULAR MEDIUM SHADEgONE EIGHTH BLOCKkQUARTER BLOCK",
   "gRIGHT BLOCK DIAGONAL LOWER MIDDLE LEFT TO LOWER CENTREωWER RIGHT",
   "βUPPER CENTRE TO LOWER MIDDLE RIGHTψRIGHTςUPPER MIDDLE RIGHTθLEFT TO LOWER CENTREφMIDDLE RIGHT",
   "πUPPER MIDDLE RIGHTθMIDDLE LEFT TO LOWER CENTREωWER MIDDLE RIGHTωWER RIGHT",
   "mDROP-SHADOWED WHITE SQUAREmOR LOWER LEFT CURLY BRACKET SECTIONmPENCILmQUADRANT CIRCULAR ARC",
   "mSHADOWED WHITE CIRCLEβSQUAREmTO LOWER LEFT FILLnRIANGLEsULAR MEDIUM SHADEgSEVEN EIGHTHS BLOCK",
   "gTHREE EIGHTHS BLOCKmQUARTERS BLOCKhRIANGULAR ONE QUARTER BLOCKcSIDE-DOWN FACEcWARDS ANCORA",
   "jRROWn AND RIGHT ONE EIGHTH BLOCKoFROM BARoLEFTWARDS OF DOWNWARDS ARROWoTO BAR",
   "oWITH DOUBLE STROKEtEQUILATERAL ARROWHEADtHORIZONTAL STROKEtLARGE TRIANGLE ARROWHEAD",
   "tMEDIUM TRIANGLE ARROWHEADtNOTCHED TAILtSMALL EQUILATERAL ARROWHEADzTRIANGLE ARROWHEAD",
   "tTIP LEFTWARDSxRIGHTWARDSiBLACK ARROWoCIRCLED WHITE ARROWiCOMPRESSED ARROWiDASHED ARROW",
   "jOUBLE ARROWiFINGER-POST ARROWiHARPOON WITH BARB LEFT BESIDE DOWNWARDS HARPOON WITH BARB RIGHT",
   "νUPWARDS HARPOON WITH BARB RIGHTζFROM BARζTO BARεWARDSαRIGHT FROM BARηTO BARζWARDSjEAVY ARROW",
   "oCOMPRESSED ARROWiPAIRED ARROWSiQUADRUPLE ARROWiROCKETiSANS-SERIF ARROWjQUARED ARROW",
   "iTRIANGLE ARROWHEADq-HEADED ARROWδ LEFTWARDS OF DOWNWARDS TRIANGLE-HEADED ARROWεTO BAR",
   "εWITH BOLD SHAFTκDOUBLE HORIZONTAL STROKEκHEAVY SHAFTκLONG TIP LEFTWARDSσRIGHTWARDS",
   "κMEDIUM SHAFTκNARROW SHAFTκVERY HEAVY SHAFTyDASHED ARROWyPAIRED ARROWSlPLE ARROW",
   "jWO HEADED ARROWl-HEADED ARROW FROM SMALL CIRCLEzWITH TRIANGLE ARROWHEADSiWHITE ARROW",
   "t FROM BARγ WITH HORIZONTAL BARuON PEDESTALζ WITH HORIZONTAL BARμVERTICAL BAR",
   "uWITHIN TRIANGLE ARROWHEADoDOUBLE ARROWα ON PEDESTALbRANUSbSaVAI COMMAeDIGIT EIGHTkFIVElOUR",
   "kNINEkONEkSEVENlIXkTHREElWOkZEROeFULL STOPeQUESTION MARKeSYLLABLE AoNnBAoEpEoHApEqEpIpOqOpUoI",
   "oOpOoUnCAoEpEoIoOpOoUnDAoEpEoHApEqEpHAqErEqIqOrOqUpIpOqOpUoIoOpOoUnEoEpNoNnFAoEpEoIoOpOoUnGA",
   "oBApEqEqNpIpOqNqOpUoEpEpNoIoOpOoUnHApNoEpEpNoIpNoOpNpOoUpNnIoNnJAoEpEoIoOpOoUnKApNoEpEoIoOpO",
   "oPAqNpEqEqNpIpOqOpUoUnLAoEpEpNGTHENERoIoOpOoUnMAoBApEqEpIpOqOpUoEpEoGBAqErEqIqOrOqUoIoOpOoUnNA",
   "oDApEqEpIpOqLE DOtFAtKAtMAtSOOqOpUoEpEoGpANpENpGAqErErNqIqOrOqUpONoIoJApEqEpIpOqOpUoOpOoUoYApE",
   "qEpIpOqOpUnOoNoOpNnPAoEpEoIoOpOoUnRAoEpEoIoOpOoUnSAoEpEoHApEqEpIpOqOpUoIoOpOoUnTAoEpEoHApEqEpI",
   "pOqOpUoIoOpOoUnUoNnVAoEpEoIoOpOoUnWApNoEpEqNpNoIpNoOpNpOqNoUpNnYAoEpEoIoOpOoUnZAoEpEoHApEqEpI",
   "pOqOpUoIoOpOoUgMBOL BANGlDANGmO-OnONGlFAAmEENGlJONGlKEENGmUNGlNIIlTAAmINGmONGcMPIRE",
   "cRIATION SELECTOR-1u0v0v1v2v3v4v5v6v7v8v9u1v0v1v2v3v4v5v6v7v8v9u2v0v1v2v3v4v5v6v7v8v9u3v0v1v2",
   "v3v4v5v6v7v8v9u4v0v1v2v3v4v5v6v7v8v9u5v0v1v2v3v4v5v6v7v8v9u6v0v1v2v3v4v5v6v7v8v9u7v0v1v2v3v4v5",
   "v6v7v8v9u8v0v1v2v3v4v5v6v7v8v9u9v0v1v2v3v4v5v6v7v8v9t2u0v0v1v2v3v4v5v6v7v8v9u1v0v1v2v3v4v5v6v7",
   "v8v9u2v0v1v2v3v4v5v6v7v8v9u3v0v1v2v3v4v5v6v7v8v9u4v0v1v2v3v4v5v6v7v8v9u5v0v1v2v3v4v5v6u6u7u8u9",
   "t3u0u1u2u3u4u5u6u7u8u9t4u0u1u2u3u4u5u6u7u8u9t5u0u1u2u3u4u5u6u7u8u9t6u0u1u2u3u4u5u6u7u8u9t7u0u1",
   "u2u3u4u5u6u7u8u9t8u0u1u2u3u4u5u6u7u8u9t9u0u1u2u3u4u5u6u7u8u9bECTOR OR CROSS PRODUCT",
   "cDIC SIGN ANUSVARA ANTARGOMUKHAuBAHIRGOMUKHAuUBHAYATO MUKHAuVAMAGOMUKHAζ WITH TAILmRDHAVISARGA",
   "mTIKRAMAlDOUBLE ANUSVARA ANTARGOMUKHAlHEXIFORM LONG ANUSVARAlJIHVAMULIYAlLONG ANUSVARA",
   "lNIHSHVASAlREVERSED VISARGA ANUDATTAγUDATTAmOTATED ARDHAVISARGAmTHANG LONG ANUSVARAlTIRYAK",
   "lUPADHMANIYAlVISARGA ANUDATTAβ WITH TAILtSVARITAtUDATTAz WITH TAILlYAJURVEDIC MIDLINE SVARITA",
   "gTONE ATHARVAVEDIC INDEPENDENT SVARITAlCANDRA ABOVEsBELOWlDOT BELOWnUBLE RING ABOVEsSVARITA",
   "lKARSHANAnTHAKA ANUDATTAlPRENKHAlRIGVEDIC KASHMIRI INDEPENDENT SVARITAnNG ABOVElSHARA",
   "lTHREE DOTS BELOWmRIPLE SVARITAmWO DOTS BELOWlYAJURVEDIC AGGRAVATED INDEPENDENT SVARITA",
   "wINDEPENDENT SVARITAwKATHAKA INDEPENDENT SVARITAψ SCHROEDERcRSICLE",
   "dTICAL BAR BESIDE RIGHT TRIANGLEnDOUBLE LEFT TURNSTILEnTRIPLE RIGHT TURNSTILE",
   "nWITH HORIZONTAL STROKEjELLIPSISjFOUR DOTSjIDEOGRAPHIC ITERATION MARKjKANA REPEAT MARK",
   "z LOWER HALFαUPPER HALFvWITH VOICED SOUND MARKς UPPER HALFjLINEn EXTENSIONoWITH CIRCLE ABOVE",
   "αBELOWtMIDDLE DOTjMALE WITH STROKE SIGNjONE EIGHTH BLOCK-2α3α4α5α6α7jSIX DOTSjTAB KEYmULATION",
   "t SETkILDEkRAFFIC LIGHTjZIGZAG LINEdY BOLD GREEK CROSSfHEAVY EIGHT POINTED BLACK STAR",
   "rSPOKED ASTERISKlFIVE SPOKED ASTERISKlGREEK CROSSlREVERSE SOLIDUSlSALTIREmIX SPOKED ASTERISK",
   "mOLIDUSlWHITE CIRCLErSQUAREfMUCH GREATER-THANkLESS-THANcSTAbIBRATION MODEcCTORY HAND",
   "cDEO CAMERAgGAMEfCASSETTEcETNAMESE ALTERNATE READING MARK CAιNHAYdWDATA SQUAREcOLINcRGO",
   "cTHKUQI CAPITAL LETTER AyBBEzEyCEzHEyDEzHEyEzIyFEyGAyHAzHAyIzJEyJEyKAyLAzLAyMEyNEzJEyOyPEyQA",
   "yREySEzHEyTEzHEyUyVEyXEyYyZEjSMALL LETTER AwBBExEwCExHEwDExHEwExIwFEwGAwHAxHAwIxJEwJEwKAwLAxLA",
   "wMEwNExJEwOwPEwQAwREwSExHEwTExHEwUwVEwXEwYwZEbOIDED GREEK CROSScLCANOdLEYBALLdUME INTEGRALbS1",
   "d0e0e1e2e3e4e5e6e7e8e9d1e0e1e2e3e4e5e6e7e8e9d2e0e1e2e3e4e5e6e7e8e9d3e0e1e2e3e4e5e6e7e8e9d4e0e1",
   "e2e3e4e5e6e7e8e9d5e0e1e2e3e4e5e6e7e8e9d6e0e1e2e3e4e5e6e7e8e9d7e0e1e2e3e4e5e6e7e8e9d8e0e1e2e3e4",
   "e5e6e7e8e9d9e0e1e2e3e4e5e6e7e8e9c2d0e0e1e2e3e4e5e6e7e8e9d1e0e1e2e3e4e5e6e7e8e9d2e0e1e2e3e4e5e6",
   "e7e8e9d3e0e1e2e3e4e5e6e7e8e9d4e0e1e2e3e4e5e6e7e8e9d5e0e1e2e3e4e5e6d6d7d8d9c3d0d1d2d3d4d5d6d7d8",
   "d9c4d0d1d2d3d4d5d6d7d8d9c5d0d1d2d3d4d5d6d7d8d9c6d0d1d2d3d4d5d6d7d8d9c7d0d1d2d3d4d5d6d7d8d9c8d0",
   "d1d2d3d4d5d6d7d8d9c9d0d1d2d3d4d5d6d7d8d9bTcSbULCANUSdGAR FRACTION FIVE EIGHTHSvSIXTHS",
   "rOUR FIFTHSqONE EIGHTHuFIFTHuHALFuNINTHuQUARTERuSEVENTHvIXTHuTENTHvHIRDqSEVEN EIGHTHS",
   "qTHREE EIGHTHSwFIFTHSwQUARTERSrWO FIFTHSuTHIRDSqZERO THIRDSaWAFFLEcNCHO DIGIT EIGHTnFIVEoOUR",
   "nNINEnONEnSEVENoIXnTHREEoWOnZEROhLETTER ApAqNrGpNGpUoBAoCAoDAoEpNoFAoGAoHAoIpNGoJAoKApHAoLA",
   "pLHAoMAoNApGApYAoOpNqGoPApHAoRAoSApHAoTApHApRApSAoUpENoVAoWAoYApIHoZAhNGUN SIGNhTONE KOIpNI",
   "mTUPpNIdING CRESCENT MOON SYMBOLhGIBBOUS MOON SYMBOLcRANG CITI CAPITAL LETTER AγMγNGγTβBUβDAβE",
   "γNNδYβGAβHARγIYOγOLOδRRβIIβKOβNGAAγUNGβOγDDβPUβSIIγSUUβTTEβUCγUβVIYOβWIβYAγOγUδJmDIGIT EIGHT",
   "sFIVEtOURsNINEsONEsSEVENtIXsTHREEtWOsZEROmNUMBER EIGHTYtFIFTYuORTYtNINETYtSEVENTYuIXTYtTEN",
   "uHIRTYuWENTYmOMmSMALL LETTER AαMαNGαTzBUzDAzEαNNβYzGAzHARαIYOαOLOβRRzIIzKOzNGAAαUNGzOαDDzPU",
   "zSIIαSUUzTTEzUCαUzVIYOzWIzYAαOαUβJdNING SIGNcSTEBASKETcTCHdER BUFFALOgCLOSETgPOLOgWAVEfMELON",
   "cVE ARROW POINTING DIRECTLY LEFTδRIGHTfDASHdING BLACK FLAGhHAND SIGNhWHITE FLAGdY DASHfLINE",
   "gOW LINEfOVERLINEcXING CRESCENT MOON SYMBOLhGIBBOUS MOON SYMBOLbEARY CAT FACEgFACEcDDING",
   "dGE-TAILED RIGHTWARDS ARROWcIERSTRASS ELLIPTIC FUNCTIONdGHT LIFTERcST SYRIAC CROSSbHALEcEEL",
   "f OF DHARMAfCHAIR SYMBOLcITE ARROW SHAFT WIDTH ONEyTWO THIRDSgBULLETgCHESS BISHOP",
   "s ROTATED NINETY DEGREESβTWO HUNDRED SEVENTY DEGREESmEQUIHOPPERw ROTATED NINETY DEGREESmKING",
   "q ROTATED NINETY DEGREESzTWO HUNDRED SEVENTY DEGREESnNIGHTs ROTATED FORTY-FIVE DEGREES",
   "βNINETY DEGREESβONE HUNDRED THIRTY-FIVE DEGREESβTHREE HUNDRED FIFTEEN DEGREES",
   "γWO HUNDRED SEVENTY DEGREESξTWENTY-FIVE DEGREESs-BISHOPtQUEENtROOKmPAWN",
   "q ROTATED NINETY DEGREESzTWO HUNDRED SEVENTY DEGREESmQUEENr ROTATED NINETY DEGREES",
   "αTWO HUNDRED SEVENTY DEGREESmROOKq ROTATED NINETY DEGREESzTWO HUNDRED SEVENTY DEGREES",
   "mTURNED BISHOPtKINGuNIGHTtPAWNtQUEENtROOKhIRCLEm CONTAINING BLACK SMALL CIRCLEnWITH DOT RIGHT",
   "uWN ARROWsLOWER LEFT QUADRANTyRIGHT QUADRANTsTWO DOTSsUPPER LEFT QUADRANTyRIGHT QUADRANT",
   "hLUB SUIThONCAVE-SIDED DIAMONDβ WITH LEFTWARDS TICKθRIGHTWARDS TICKgDIAMOND",
   "n CONTAINING BLACK MEDIUM DIAMONDζSMALL DIAMONDζVERY SMALL DIAMONDoIN SQUAREoSUIT",
   "oWITH CENTRED DOThOWN POINTING BACKHAND INDEXuINDEXuLEFT HAND INDEXk-POINTING SMALL TRIANGLE",
   "uTRIANGLEhRAUGHTS KINGpMANgEXCLAMATION MARK ORNAMENTgFLAGk WITH HORIZONTAL MIDDLE BLACK STRIPE",
   "iORETTEjWERhOUR POINTED CUSPtSTARhROWNING FACEgHARD SHELL FLOPPY DISKhEARTl SUITjVY CHECK MARK",
   "mSALTIRE WITH ROUNDED CORNERSiXAGONhORIZONTAL ELLIPSEiURGLASSgLARGE SQUAREiTIN CROSS",
   "hEFT LANE MERGElPOINTING BACKHAND INDEXuINDEXk-POINTING POINTERuSMALL TRIANGLEuTRIANGLE",
   "hOZENGE CONTAINING BLACK SMALL LOZENGEgMEDIUM DIAMONDnLOZENGEnSMALL SQUAREoQUAREoTAR",
   "hOON SELENAgNIBgPARALLELOGRAMhENNANTjTAGONgQUESTION MARK ORNAMENTgRECTANGLE",
   "hIGHT POINTING BACKHAND INDEXvINDEXl-POINTING PENTAGONwOINTERvSMALL TRIANGLEvTRIANGLEgSCISSORS",
   "hESAME DOThHOGI PIECEhMALL LOZENGEmSQUAREnTARiILING FACEhPADE SUIThQUAREm BUTTON",
   "nCONTAINING BLACK MEDIUM SQUAREεSMALL SQUAREεVERY SMALL SQUAREnWITH CENTRE VERTICAL LINE",
   "sLEFTWARDS TICKtOWER LEFT QUADRANTyRIGHT QUADRANTsRIGHTWARDS TICKtOUNDED CORNERS",
   "sUPPER LEFT QUADRANTyRIGHT QUADRANTsVERTICAL BISECTING LINEhTARhUNj BEHIND CLOUDw WITH RAIN",
   "kWITH RAYSpSMALL CLOUDgTELEPHONEhOUCHTONE TELEPHONEhRAPEZIUM",
   "iIANGLE CONTAINING SMALL WHITE TRIANGLEhWO-WAY LEFT WAY TRAFFICgUP POINTING BACKHAND INDEX",
   "sINDEXi-POINTING CHEVRONsSMALL TRIANGLEsTRIANGLEα WITH DOTgVERTICAL BARpELLIPSEpRECTANGLE",
   "jY SMALL SQUAREf-FEATHERED RIGHTWARDS ARROWbIDE-HEADED DOWNWARDS BARB ARROWwHEAVY BARB ARROW",
   "wLIGHT BARB ARROWwMEDIUM BARB ARROWwVERY HEAVY BARB ARROWmLEFTWARDS BARB ARROW",
   "wHEAVY BARB ARROWwLIGHT BARB ARROWwMEDIUM BARB ARROWwVERY HEAVY BARB ARROW",
   "mNORTH EAST BARB ARROWxHEAVY BARB ARROWxLIGHT BARB ARROWxMEDIUM BARB ARROW",
   "xVERY HEAVY BARB ARROWsWEST BARB ARROWxHEAVY BARB ARROWxLIGHT BARB ARROWxMEDIUM BARB ARROW",
   "xVERY HEAVY BARB ARROWmRIGHTWARDS BARB ARROWxHEAVY BARB ARROWxLIGHT BARB ARROW",
   "xMEDIUM BARB ARROWxVERY HEAVY BARB ARROWmSOUTH EAST BARB ARROWxHEAVY BARB ARROW",
   "xLIGHT BARB ARROWxMEDIUM BARB ARROWxVERY HEAVY BARB ARROWsWEST BARB ARROWxHEAVY BARB ARROW",
   "xLIGHT BARB ARROWxMEDIUM BARB ARROWxVERY HEAVY BARB ARROWmUPWARDS BARB ARROWuHEAVY BARB ARROW",
   "uLIGHT BARB ARROWuMEDIUM BARB ARROWuVERY HEAVY BARB ARROWcGGLY VERTICAL LINEcLTED FLOWER",
   "cND BLOWING FACEfCHIMEeOWdE GLASSdKING FACEcRED KEYBOARDbJbOLF FACEcMANf WITH BUNNY EARS",
   "fS BOOTShCLOTHEShHAThSANDALdENS SYMBOLcN SIGNcODcRD JOINERfSEPARATOR MIDDLE DOTdLD MAPdM",
   "dRIED FACEbRAPPED PRESENTcEATH PRODUCTdNCHdSTLERScITING HANDaX IN A RECTANGLE BOXb-RAY",
   "bIANGQI BLACK CANNONpHARIOToELEPHANToGENERALoHORSEoMANDARINoSOLDIERiRED CANNONnHARIOTmELEPHANT",
   "mGENERALmHORSEmMANDARINmSOLDIERbORaYAWNING FACEbELLOW HEARTcN SIGNcZIDI COMBINING HAMZA MARK",
   "rMADDA MARKhHYPHENATION MARKhLETTER BEoCHHIMqIMpIMoDADqLoELIFpTpWpYNoFAoGAFoHAYpHAoJAoKAFpHAF",
   "oLAMr WITH DOT ABOVEoMIMoNUNoOWoPEpHEoQAFoRApHAoSADpEpHINpINoTApHEoUMoVAq ALTERNATE FORMoWAW",
   "oXApHEYNoYOTr WITH CIRCUMFLEX ABOVEoZAqLpEbI RADICAL BBUTmURlCHEmIPmUOPmYnPnTlDDURmUlGAmEPmGOP",
   "nUOmOTlHMOmXITnOPnUOlJJIEnUTnYmOlKEmITlLInEmYRlMImOPlNBIEmYIPnOPmZUPlOPlPUTmYTlQOTlSHATnOPnUR",
   "nYmSIlTATmUlVEPmURlWOlYITmOlZAmOTmUPnRmZIETdSYLLABLE AnPnTnXmBAoPoToXnBApPpTpXoEpPpXoIpEqPqTqX",
   "pPpTpXoOpPpTpXoUpOqPqXpPpRqXpTpXoYpPpTpXnEoPoXnIoEpPpTpXoPoToXnOoPoToXnUoOpPpXoPoRpXoToXnYoPoR",
   "pXoToXmCAoPoToXnEoPoXnHApPpTpXoEpPpTpXoOpPpTpXoUpOqPqTqXpPpRqXpXoYpPpRqXpTpXnIoEpPpTpXoPoToXnO",
   "oPoToXnUoOpPpXoPoRpXoToXnYoPoRpXoToXmDAoPoToXnDApPpTpXoEpPpXoIpEqPqXpPpTpXoOpPpTpXoUpOqPqXpPpR",
   "qXpTpXnEoPoXnIoEpPpXoPoToXnOoPoToXnUoOpXoPoRpXoToXmEnXmFAoPoToXnIoPoToXnOoPoXnUoPoRpXoToXnYoP",
   "oToXmGAoPoToXnEoPoToXnGApPpTpXoEpPpTpXoIpEqPqXpTpXoOpPpTpXoUpOqPqTqXpPpRqXpTpXnIoEpPpTpXoPoToX",
   "nOoPoToXnUoOpPpTpXoPoRpXoToXmHAoPoToXnEoPoXnIEpXoTnLApPpTpXoEpPpXoIpEqPqXpPpTpXoOpPpXoUpOqPqX",
   "pPpRqXpTpXoYpPpRqXpTpXnMApPpTpXoIpEqPqXpPpTpXoOpPpTpXoUpOqPqXpPpRqXpTpXoYpPpRqXpXnNApPpTpXoEpP",
   "pXoIpEqPqTqXpPpTpXoOPpTpXoUOqXpTnOoPoToXnUOpPpTpXnXApPpTpXoEpPpXoIpEqPqTqXpPpTpXoOpPpTpXoUOqP",
   "qTqXmInEoPoToXnPnToERATION MARKnXmJIoEpPpTpXoPoToXnJIpEqPqTqXpPpTpXoOpPpTpXoUpOqPqXpPpRqXpTpX",
   "oYpPpTpXnOoPoToXnUoOpPpTpXoPoRpXoToXnYoPoRpXoToXmKAoPoToXnEoPoToXnIoEpPpXoPoToXnOoPoToXnUoOpP",
   "pXoPoRpXoToXmLAoPoToXnEoPoXnIoEpPpTpXoPoToXnOoPoToXnUoOpPpTpXoPoRpXoToXnYoPoRpXoToXmMAoPoToXnE",
   "oXnGApPpTpXoEpPpXoIEqXoOpPpTpXoUpOqPqXpPpRqXpTpXnIoEpPpXoPoToXnOoPoToXnUoOpPpTpXoPoRpXoToXnYoP",
   "oToXmNAoPoXnBApPpTpXoIpEqPqXpPpTpXoOpPpTpXoUpPpRqXpTpXoYpPpRqXpTpXnDApPpTpXoEpPpXoIpEqXpPpTpX",
   "oOpPpTpXoUpPpRqXpTpXnEoPoXnGApPpTpXoEpPpXoIEqPqXoOpPpTpXoUOqTqXnIoEpPpXoPoToXnJIpEqPqTqXpPpTpX",
   "oOpPpTpXoUpOqXpPpRqXpXoYpPpRqXpTpXnOoPoToXnRApPpTpXoEpPpTpXoOpPpXoUpPpRqXpTpXoYpPpRqXpTpXnUoO",
   "pPpXoPoRpXoToXnYIpEqPqTqXpPpTpXoOpPpTpXoUpOqPqXpPpTpXnZApPpTpXoEpXoIpEqPqXpPpTpXoOPpXoUpOqXpP",
   "pRqXpXoYpPpRqXpTpXmOnPnTnXmPAoPoToXnIoEpPpXoPoToXnOoPoToXnUoOpPpXoPoRpXoToXnYoPoRpXoToXmQIoEpP",
   "pTpXoPoToXnOoPoToXnUoOpPpTpXoPoRpXoToXnYoPoRpXoToXmRAoPoToXnEoPoXnOoPoToXnRApXoEpPpTpXoOpPpTpX",
   "oUpOqXpPpRqXpTpXoYpPpRqXpTpXnUoOpPpXoPoRpXoToXnYoPoRpXoToXmSAoPoToXnEoPoXnHApPpTpXoEpPpTpXoOpP",
   "pTpXoUpOqPqXpPpRqXpTpXoYpPpRqXpTpXnIoEpPpXoPoToXnOoPoToXnSApPpTpXoEpPpXoIpEqPqXpPpTpXoOpPpTpX",
   "oUpPpTpXoYpPpRqXpTpXnUoOpPpXoPoRpXoToXnYoPoRpXoToXmTAoPoToXnEoPoXnIoEpPpXoPoToXnOoPoToXnUoOpP",
   "pTpXoPoRpXoToXmUOoPoXmVAoPoToXnEPoXnIoEpPpTpXoPoToXnOoPoToXnUoPoRpXoToXnYoPoRpXoToXmWAoPoToXnE",
   "oPoXnOoPoXnUoOpPpXmXIoEpPpTpXoPoToXnOoPoToXnUOpXnYoPoRpXoToXmYIoEpPpTpXoPoToXnOoPoToXnUoOpPpT",
   "pXoPoRpXoToXnYoPoRpXoToXmZAoPoToXnEoPoXnHApPpTpXoEpPpTpXoOpPpTpXoUpOqPqXpPpRqXpTpXoYpPpRqXpTpX",
   "nIoEpPpXoPoToXnOoPoToXnUoOpPpXoPoRpXoToXnYoPoRpXoToXnZApPpTpXoEpPpXoIpEqPqTqXpPpTpXoOpPpXoUpP",
   "pRqXpXoYpPpRqXpTpXcN YANGbO-YOaZ NOTATION BAG MEMBERSHIPlDOMAIN ANTIRESTRICTION",
   "lLEFT BINDING BRACKETqIMAGE BRACKETlRANGE ANTIRESTRICTIONmELATIONAL COMPOSITION",
   "mIGHT BINDING BRACKETrIMAGE BRACKETlSCHEMA COMPOSITIONsPIPINGtROJECTIONmPOTlTYPE COLON",
   "bANABAZAR SQUARE CLOSING DOUBLE-LINED HEAD MARKzHEAD MARKtUSTER-FINAL LETTER LAνRAνVAνYA",
   "zINITIAL LETTER RArFINAL CONSONANT MARKrINITIAL DOUBLE-LINED HEAD MARKzHEAD MARKrLETTER -AyA",
   "yBAzHAyCAzHAyDAzDAαHAzHAzZAαHAyGAzHAyHAyJAyKAzHAzSSAyLAyMAyNAzGAzNAzYAyPAzHAyRAySAzHAzSAyTAzHA",
   "zSAαHAzTAαHAyVAyYAyZAzHArMARK DOUBLE SHADwLONG TSHEGwSHADwTSHEGrSIGN ANUSVARA",
   "wCANDRA WITH ORNAMENTγBINDUθ WITH ORNAMENTwVIRAMAySARGAsUBJOINERrVOWEL LENGTH MARKxSIGN AIδUγE",
   "γIγOδEγREVERSED IγUδEbEBRA FACEcRO WIDTH JOINERlNO-BREAK SPACEnN-JOINERlSPACEcUS",
   "bIPPER-MOUTH FACEbNAMENNY COMBINING ATTACHING VERTICAL OMETtLOWER TONAL RANGE INDICATOR",
   "tMARK BORZAYAyCHASHKAζ POLNAYAzURVED OMETyDEMESTVENNY ZADERZHKAzVOETOCHIE",
   "yGORAZDO NIZKO ON LEFTπRIGHTνS KRYZHEM ON LEFTω RIGHTηVYSOKOyKACHKAzRYZHδ ON LEFTzUPNAYAyLOMKA",
   "yMALO POVYSHE ON LEFTοRIGHTμS KHOKHLOM ON LEFTω RIGHTοRYZHEMνTRANNOyNIZKO ON LEFTθRIGHT",
   "εS KRYZHEM ON LEFTςRIGHTyOBLACHKOzNzTSECHKAyPODCHASHIEι WITH VERTICAL STROKEβVERTKA",
   "αVYSHE ON LEFTκRIGHTηS KHOKHLOM ON LEFTυRIGHTκRYZHEMθTRANNOyRAVNOαZSEKAySKOBAzOROCHYA NOZHKA",
   "zREDNE ON LEFTιRIGHTzTRANNO MALO POVYSHEyTIKHAYAzOCHKAzSATA ON LEFTθRIGHTεS KRYZHEMyUDARKA",
   "yVYSOKO ON LEFTιRIGHTζS KHOKHLOM ON LEFTτRIGHTιRYZHEMyZADERZHKAzELOαVOK",
   "tTONAL RANGE MARK MRACHNOλSVETLOλTRESVETLOjNEUME CHASHKArELYUSTKApDEMESTVENNY KLYUCHrRBITSA",
   "qOUBLE ZAPYATAYAqUDAqVA V CHELNUpFITApGOLUBCHIK BORZYzMRACHNYzSVETLYzTIKHYαRESVETLYpKHAMILO",
   "qLYUCHqOBYLAqRYUKu TIKHYsZHqUFISMApMECHIKv KLYUCHENEPOSTOYANNYδPOVODNYδVOYwPOVODNYpNEMKA",
   "pOBLAKOqSOKAu KLYUCHEVAYA NEPOSTOYANNAYAθSVETLAYAwRYUKOVAYA SVETLAYAvSVETLAYAvTRESVETLAYA",
   "pPALKArRAKLITrUKqEREVODKAy NEPOSTOYANNAYAqODCHASHIErLKULIZMYpREVERSED CHELYUSTKAqOG",
   "pSKAMEYTSA DVOECHELNAYA KLYUCHEVAYAνNEPOSTOYANNAYAνPROSTAYAνSVETLAYAzKLYUCHENEPOSTOYANNAYA",
   "ηVAYA SVETLAYAμTIKHAYAzMRACHNAYAzSVETLAYAzTIKHAYAαRESVETLAYAqLOZHITIEy S KRYZHEMβZAPYATOY",
   "zZAKRYTOEqTATYAv NEPOSTOYANNAYAwS DVUMYA ZAPYATYMIyKRYZHEMζ I ZAPYATOYyROGOMyZAPYATOY",
   "η I KRYZHEMκPODCHASHIEMwZAKRYTAYAζ S ZAPYATOYrOPITSAx S OCHKOMyWITH SOROCHYA NOZHKA",
   "rRELA DVOECHELNAYAι KLYUCHEVAYAζOKRYZHEVAYAηPOVODNAYAπ KLYUCHEVAYAwGROMNAYA",
   "ε WITH SINGLE ZAPYATAYAαOKRYZHEVAYAμ POVODNAYAβPOVODNAYAλ WITH DOUBLE ZAPYATAYA",
   "ρSINGLE ZAPYATAYAwKLYUCHENEPOSTOYANNAYAδPOVODNAYAxRYUKOVAYAη GROMNAYAπ WITH SINGLE ZAPYATAYA",
   "μOKRYZHEVAYAχ POVODNAYAνPOVODNAYAφ WITH DOUBLE ZAPYATAYAωTH SINGLE ZAPYATAYAθPOVODNAYAθTRYASKA",
   "zZHEVAYAwMRACHNOTIKHAYAwNEPOSTOYANNAYAwPOLUPOVODNAYAyVODNAYAxROSTAYAwTIKHAYA PUTNAYA",
   "xRYASOGLASNAYAγPOVODNAYAγSTRELNAYApVRAKHIYA KLYUCHEVAYA MRACHNAYAλPROSTAYAλSVETLAYA",
   "λTRESVETLAYAyMRACHNAYAyPROSTAYAySVETLAYAyTRESVETLAYApZANOZHEKrPYATAYAqMEYTSA",
   "jPRIZNAK MODIFIER DIRECTION FLIPαKRYZHαLEVEL-2η3αROGbOMBIEbWJcNBSPdJcSP"]

end Reconcile.Text
