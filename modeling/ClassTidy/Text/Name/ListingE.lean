/-
  ClassTidy.Text.Name.ListingE — the names of characters from U+102B1 to U+12014.

  The listing is shortened as `ClassTidy.Text.Name.Basic` tells.
-/

namespace ClassTidy.Text.Name

def listingE : List String := [
  ":102B1aCARIAN LETTER C-18oUoNNoXoNoTT2oPoSSoIoEoUUUUoKp2oNDoUUoGp2oSTq2oNGoIIoC-39oTToUUU2oR",
  "RoMBq2q3q4oLD2oE2oUUU3:102E0bOPTIC EPACT THOUSANDS MARKnDIGIT ONEtTWOuHREEtFOURuIVEtSIXuEVEN",
  "tEIGHTtNINEnNUMBER TENvWENTYvHIRTYuFORTYvIFTYuSIXTYvEVENTYuEIGHTYuNINETYuONE HUNDREDuTWO HUN",
  "DREDvHREE HUNDREDuFOUR HUNDREDvIVE HUNDREDuSIX HUNDREDvEVEN HUNDREDuEIGHT HUNDREDuNINE HUNDR",
  "ED:10300aOLD ITALIC LETTER AsBEsKEsDEsEsVEsZEsHEsTHEsIsKAsELtMtNtSHsOsPEsSHEsKUsERtSsTEsUsEK",
  "SsPHEsKHEsEFtRSsCHEsIIsUUsESSlNUMERAL ONEtFIVEtTENtFIFTY:1032DlLETTER YEsNORTHERN TSEsSOUTHE",
  "RN TSEaGOTHIC LETTER AHSAoBAIRKANoGIBAoDAGSoAIHVUSoQAIRTHRAoIUJAoHAGLoTHIUTHoEISoKUSMAoLAGUS",
  "oMANNAoNAUTHSoJERoURUSoPAIRTHRAoNINETYoRAIDAoSAUILoTEIWSoWINJAoFAIHUoIGGWSoHWAIRoOTHALoNINE ",
  "HUNDRED:10350aOLD PERMIC LETTER ANsBURsGAIsDOIsEsZHOIsDZHOIsZATAsDZITAsIsKOKEsLEIsMENOEsNENO",
  "EsVOOIsPEEIsREIsSIIsTAIsUsCHERYsSHOOIuCHOOIsYRYtERUsOtOsEFsHAsTSIUsVERsYERvItATsIEsYUtAsIAaC",
  "OMBINING OLD PERMIC LETTER ANzdDOIzdZATAzdNENOEzdSII:10380aUGARITIC LETTER ALPAqBETAqGAMLAqK",
  "HAqDELTAqHOqWOqZETAqHOTAqTETqYODqKAFqSHINqLAMDAqMEMqDHALqNUNqZUqSAMKAqAINqPUqSADEqQOPAqRASHA",
  "qTHANNAqGHAINqTOqIqUqSSU:1039FjWORD DIVIDERaOLD PERSIAN SIGN ArIrUrKAsUrGAsUrXArCArJAsIrTAsU",
  "rDAsIsUrTHArPArBArFArNAsUrMAsIsUrYArVAsIrRAsUrLArSArZArSHAsSArHA:103C8rAURAMAZDAAzc-2zcHArXS",
  "HAAYATHIYArDAHYAAUSHzb-2rBAGAsUUMISHmWORD DIVIDERmNUMBER ONEtTWOuENuWENTYtHUNDRED:10400aDESE",
  "RET CAPITAL LETTER LONG IzdEzdAzeHzdOzeOxSHORT IzeEzeAzfHzeOzfOxAYxOWxWUxYEExHxPEExBEExTEExD",
  "EExCHEExJEExKAYxGAYxEFxVEExETHxTHEExESxZEExESHxZHEExERyLyMyNzGxOIxEWiSMALL LETTER LONG IzbEz",
  "bAzcHzbOzcOvSHORT IzcEzcAzdHzcOzdOvAYvOWvWUvYEEvHvPEEvBEEvTEEvDEEvCHEEvJEEvKAYvGAYvEFvVEEvET",
  "HvTHEEvESvZEEvESHvZHEEvERwLwMwNxGvOIvEWaSHAVIAN LETTER PEEPpTOTpKICKpFEEpTHIGHpSOqUREpCHURCH",
  "pYEApHUNGpBIBpDEADpGAGpVOWpTHEYpZOOpMEASUREpJUDGEpWOEpHA-HApLOLLpMIMEpIFpEGGpASHqDOpONpWOOLp",
  "OUTpAHpROARpNUNpEATpAGEpICEpUPpOAKqOZEqILpAWEqREpORpAIRpERRpARRAYpEARpIANpYEWaOSMANYA LETTER",
  " ALEFpBApTApJApXApKHApDEELpRApSAqHIINpDHApCAYNpGApFApQAAFpKAAFpLAANpMIINpNUUNpWAWpHApYApApEp",
  "IpOpUpAApEEpOO:104A0iDIGIT ZEROoONEoTWOpHREEoFOURpIVEoSIXpEVENoEIGHToNINE:104B0cAGE CAPITAL ",
  "LETTER AwIxNwHvBRAvCHAvEHCHAvEwINvHAwYAvIvKAvEHKAvKYAvLAvMAvNAvOwINvPAvEHPAvSAwHAvTAvEHTAvTS",
  "AvEHTSAvTSHAvDHAvUvWAvKHAvGHAvZAwHA:104D8gSMALL LETTER AuIvNuHtBRAtCHAtEHCHAtEuINtHAuYAtItKA",
  "tEHKAtKYAtLAtMAtNAtOuINtPAtEHPAtSAuHAtTAtEHTAtTSAtEHTSAtTSHAtDHAtUtWAtKHAtGHAtZAuHA:10500aEL",
  "BASAN LETTER ApBEpCEqHEpDEpNDEpDHEpEIpEpFEpGEqJEpHEpIpJEpKEpLEqLEpMEpNEqAqJEpOpPEpQEpREqREpS",
  "EqHEpTEqHEpUpVEpXEpYpZEqHEpGHErAMMApKHE:10530aCAUCASIAN ALBANIAN LETTER ALTzbBETzbGIMzbDATzb",
  "EBzbZARLzbEYNzbZHILzbTASzbCHAzbYOWDzbZHAzbIRBzbSHAzbLANzbINYAzbXEYNzbDYANzbCARzbJHOXzbKARzbL",
  "YITzbHEYTzbQAYzbAORzbCHOYzdIzcYAYzbMAQzbQARzbNOWCzbDZYAYzbSHAKzbJAYNzbONzbTYAYzbFAMzbDZAYzbC",
  "HATzbPENzbGHEYSzbRATzbSEYKzbVEYZzbTIWRzbSHOYzbIWNzbCYAWzcAYNzbYAYDzbPIWRzbKIW:1056FtCITATION",
  " MARKaVITHKUQI CAPITAL LETTER AyBBEzEyCEzHEyDEzHEyEIyEyFEyGA:1057CyHAzHAyIzJEyJEyKAyLAzLAyME",
  "yNEzJEyOyPEyQAyRE:1058CySEzHEyTEzHEyUyVEyXE:10594yYyZE:10597jSMALL LETTER AwBBExEwCExHEwDExH",
  "EwEIwEwFEwGA:105A3wHAxHAwIxJEwJEwKAwLAxLAwMEwNExJEwOwPEwQAwRE:105B3wSExHEwTExHEwUwVEwXE:105B",
  "BwYwZE:10600aLINEAR A SIGN AB001s2s3s4s5s6s7s8s9r10s1s3s6s7r20s1tFtMs2tFtMs3tMs4s6s7s8p028Bp",
  "B029r30s1s4s7s8s9r40s1s4s5s6s7s8s9r50s1s3s4s5s6s7s8s9r60s1s5s6s7s9r70s3s4s6s7s8s9r80s1s2s5s6",
  "s7p100-102pB118r20p120BpB122s3r31AtBp131CpB164r71r80s8r91p301r2r3r4r5r6r7r8r9AsBsCq10r1r2r3A",
  "sBsCr4r5r6r7r8r9q20r1r2r3r4r5r6r7r8r9q30r1r2r3r4r5r6r7r8r9q40r1r2r3r4r5r6r7r8r9q50r1r2r3r4r5",
  "r6r7r8r9q60r1r2r3r4r5r6r7r8r9q70r1p400-VASr1-VASr2-VASr3-VASr4-VASr5-VASr6-VASr7-VASr8-VASr9",
  "-VASq10-VASr1-VASr2-VASr3-VASr4-VASr5-VASr6-VASr7-VASr8-VASp501r2r3r4r5r6r8r9q10r1r2r3r5r6q2",
  "0r1r3r4r5r6r7r8r9q30r1r2r4r5r6r7r8r9q40r1r2r5r7r8r9q50r1r2r3r4r5r6r7r9q63r4r5r6r8r9q70r1r2r3",
  "r4r5r6r7r8r9q80r1r2r3r4r5r6r7r8r9q91r2r4r5r6r8p600r1r2r3r4r6r8r9q10r1r2r3r4r5r6r7r8r9q20r1r2",
  "r3r4r6r7r8r9q34r7r8q40r2r3r4r5r6r8r9q51r2r3r4r5r6r7r8r9q60r1r2r3r4:10740p701 Ar2 Br3 Dr4 Er5",
  " Fr6 Hr7 Jr8 Kr9 Ls-2 L2t3 L3t4 L4t6 L6q10 Wr1 Xr2 Yr3 OMEGAr4 ABBr5 BBr7 DDq26 EYYYq32 JE:1",
  "0760p800r1r2r3r4r5r6r7:10780aMODIFIER LETTER SMALL CAPITAL AArUPERSCRIPT TRIANGULAR COLONzdH",
  "ALF TRIANGULAR COLONrMALL AEwCAPITAL BwB WITH HOOK:10787wDZ DIGRAPHzh WITH RETROFLEX HOOKznC",
  "URLxEZH DIGRAPHx WITH TAILzeHOOKzi AND TAILwREVERSED EwCLOSED REVERSED OPEN EwFENG DIGRAPHwR",
  "AMS HORNwCAPITAL GwG WITH HOOKwCAPITAL G WITH HOOKwH WITH STROKEwCAPITAL HwHENG WITH HOOKwDO",
  "TLESS J WITH STROKE AND HOOKwLS DIGRAPHxZ DIGRAPHx WITH BELTwCAPITAL L WITH BELTwL WITH RETR",
  "OFLEX HOOK AND BELTxEZHzb WITH RETROFLEX HOOKwTURNED Yzf WITH BELTwO WITH STROKEwCAPITAL OEx",
  "LOSED OMEGAwQwTURNED R WITH LONG LEGzt AND RETROFLEX HOOKwR WITH TAILzeFISHHOOKwCAPITAL RwTC",
  " DIGRAPH WITH CURLxS DIGRAPHzh WITH RETROFLEX HOOKxESH DIGRAPHx WITH RETROFLEX HOOKwV WITH R",
  "IGHT HOOK:107B2wCAPITAL YqGLOTTAL STOP WITH STROKEqREVERSED GLOTTAL STOP WITH STROKEqBILABIA",
  "L CLICKqDENTAL CLICKqLATERAL CLICKqALVEOLAR CLICKqRETROFLEX CLICK WITH RETROFLEX HOOKqSMALL ",
  "S WITH CURL:10800aCYPRIOT SYLLABLE ArErIrOrUrJA:10808sO:1080ArKAsEsIsOsUrLAsEsIsOsUrMAsEsIsO",
  "sUrNAsEsIsOsUrPAsEsIsOsUrRAsEsIsOsUrSAsEsIsOsUrTAsEsIsOsUrWAsEsIsO:10837rXAsE:1083CrZA:1083F",
  "sOaIMPERIAL ARAMAIC LETTER ALEPHyBETHyGIMELyDALETHyHEyWAWyZAYINyHETHyTETHyYODHyKAPHyLAMEDHyM",
  "EMyNUNySAMEKHyAYINyPEySADHEyQOPHyRESHySHINyTAW:10857rSECTION SIGNrNUMBER ONEyTWOzHREEzENzWEN",
  "TYyONE HUNDREDzdTHOUSANDyTEN THOUSANDaPALMYRENE LETTER ALEPHrBETHrGIMELrDALETHrHErWAWrZAYINr",
  "HETHrTETHrYODHrKAPHrLAMEDHrMEMrFINAL NUNrNUNrSAMEKHrAYINrPErSADHErQOPHrRESHrSHINrTAWmFT-POIN",
  "TING FLEURONkRIGHT-POINTING FLEURONkNUMBER ONErTWOsHREErFOURsIVErTENsWENTYaNABATAEAN LETTER ",
  "FINAL ALEPHrALEPHrFINAL BETHrBETHrGIMELrDALETHrFINAL HErHErWAWrZAYINrHETHrTETHrFINAL YODHrYO",
  "DHrFINAL KAPHrKAPHrFINAL LAMEDHrLAMEDHrFINAL MEMrMEMrFINAL NUNrNUNrSAMEKHrAYINrPErSADHErQOPH",
  "rRESHrFINAL SHINrSHINrTAW:108A7kNUMBER ONErTWOsHREErFOURkCRUCIFORM NUMBER FOURkNUMBER FIVErT",
  "ENsWENTYrONE HUNDRED:108E0aHATRAN LETTER ALEPHoBETHoGIMELoDALETH-RESHoHEoWAWoZAYNoHETHoTETHo",
  "YODHoKAPHoLAMEDHoMEMoNUNoSAMEKHoAYNoPEoSADHEoQOPH:108F4oSHINoTAW:108FBhNUMBER ONEoFIVEoTENpW",
  "ENTYoONE HUNDREDaPHOENICIAN LETTER ALFsBETsGAMLsDELTsHEsWAUsZAIsHETsTETsYODsKAFsLAMDsMEMsNUN",
  "sSEMKsAINsPEsSADEsQOFsROSHsSHINsTAUlNUMBER ONEsTENtWENTYsONE HUNDREDsTWOtHREE:1091FlWORD SEP",
  "ARATORaLYDIAN LETTER AoBoGoDoEoVoIoYoKoLoMoNoOoRoSSoToUoFoQoSoTToANoENoLYoNNoC:1093FhTRIANGU",
  "LAR MARK:10980aMEROITIC HIEROGLYPHIC LETTER AzeEzeIzeOzeYAzeWAzeBAzg-2zePAzeMAzeNAzg-2zfEzg-",
  "2zeRAzg-2zeLAzeKHAzeHHAzeSAzg-2zfEzeKAzeQAzeTAzg-2zfEzg-2zfOzeDAwSYMBOL VIDJzi-2jCURSIVE LET",
  "TER AyEyIyOyYAyWAyBAyPAyMAyNAzEyRAyLAyKHAyHHAySAyARCHAIC SAySEyKAyQAyTAzEzOyDA:109BCrFRACTIO",
  "N ELEVEN TWELFTHSzbONE HALFrLOGOGRAM RMTzbIMNrNUMBER ONEyTWOzHREEyFOURzIVEySIXzEVENyEIGHTyNI",
  "NEyTENzWENTYzHIRTYyFORTYzIFTYySIXTYzEVENTY:109D2yONE HUNDREDyTWO HUNDREDzHREE HUNDREDyFOUR H",
  "UNDREDzIVE HUNDREDySIX HUNDREDzEVEN HUNDREDyEIGHT HUNDREDyNINE HUNDREDyONE THOUSANDyTWO THOU",
  "SANDzHREE THOUSANDyFOUR THOUSANDzIVE THOUSANDySIX THOUSANDzEVEN THOUSANDyEIGHT THOUSANDyNINE",
  " THOUSANDyTEN THOUSANDzWENTY THOUSANDzHIRTY THOUSANDyFORTY THOUSANDzIFTY THOUSANDySIXTY THOU",
  "SANDzEVENTY THOUSANDyEIGHTY THOUSANDyNINETY THOUSANDyONE HUNDRED THOUSANDyTWO HUNDRED THOUSA",
  "NDzHREE HUNDRED THOUSANDyFOUR HUNDRED THOUSANDzIVE HUNDRED THOUSANDySIX HUNDRED THOUSANDzEVE",
  "N HUNDRED THOUSANDyEIGHT HUNDRED THOUSANDyNINE HUNDRED THOUSANDrFRACTION ONE TWELFTHzbTWO TW",
  "ELFTHSzcHREE TWELFTHSzbFOUR TWELFTHSzcIVE TWELFTHSzbSIX TWELFTHSzcEVEN TWELFTHSzbEIGHT TWELF",
  "THSzbNINE TWELFTHSzbTEN TWELFTHSaKHAROSHTHI LETTER AlVOWEL SIGN IwUwVOCALIC R:10A05wEwO:10A0",
  "CrLENGTH MARKlSIGN DOUBLE RING BELOWqANUSVARAqVISARGAlLETTER KAtHAsGAtHA:10A15sCAtHAsJA:10A1",
  "9sNYAsTTAuHAsDDAuHAsNNAsTAtHAsDAtHAsNAsPAtHAsBAtHAsMAsYAsRAsLAsVAsSHAtSAtAsZAsHAsKKAsTTTHAvA",
  "sVHA:10A38lSIGN BAR ABOVEqCAUDAqDOT BELOW:10A3FlVIRAMAlDIGIT ONErTWOsHREErFOURlNUMBER TENtWE",
  "NTYsONE HUNDREDwTHOUSANDlFRACTION ONE HALF:10A50lPUNCTUATION DOTxSMALL CIRCLExCIRCLEyRESCENT",
  " BARxMANGALAMxLOTUSxDANDAyOUBLE DANDAxLINES:10A60aOLD SOUTH ARABIAN LETTER HEzLAMEDHzHETHzME",
  "MzQOPHzWAWzSHINzRESHzBETHzTAWzSATzKAPHzNUNzKHETHzSADHEzcMEKHzFEzALEFzbYNzDHADHEzGIMELzDALETH",
  "zGHAYNzTETHzZAYNzDHALETHzYODHzTHAWzcETHsNUMBER ONEzFIFTYvERIC INDICATOReNORTH ARABIAN LETTER",
  " HEHzLAMzHAHzMEEMzQAFzWAWzES-2zREHzBEHzTEHzES-1zKAFzNOONzKHAHzSADzES-3zFEHzALEFzbINzDADzGEEM",
  "zDALzGHAINzTAHzZAINzTHALzYEHzTHEHzZAHsNUMBER ONEzTENzbWENTY:10AC0aMANICHAEAN LETTER ALEPHsBE",
  "THtHETHsGIMELtHIMELsDALETHsHEsWAWlSIGN UDlLETTER ZAYINtHAYINsJAYINtHAYINsHETHsTETHsYODHsKAPH",
  "sXAPHsKHAPHsLAMEDHsDHAMEDHsTHAMEDHsMEMsNUNsSAMEKHsAYINtAYINsPEsFEsSADHEsQOPHsXOPHsQHOPHsRESH",
  "sSHINtSHINsTAWlABBREVIATION MARK ABOVEzeBELOW:10AEBlNUMBER ONEsFIVEsTENtWENTYsONE HUNDREDlPU",
  "NCTUATION STARxFLEURONxDOUBLE DOT WITHIN DOTzT WITHIN DOTzTxTWO DOTSxLINE FILLER:10B00aAVEST",
  "AN LETTER AqAqOqAOqNqANqErEpEqEpOqOpIqIpUqUpKEpXEqYEqVEpGEqGEqHEpCEpJEpTEqHEpDEqHEpTTEpPEpFE",
  "pBEqHEpNGErYErVEqEqYEqNEpMEpHMEpYYEqEpVEpREpLEpSEpZEpSHEpZHEpSHYEqSHEpHE:10B39iABBREVIATION ",
  "MARKaTINY TWO DOTS OVER ONE DOT PUNCTUATIONaSMALL TWO DOTS OVER ONE DOT PUNCTUATIONaLARGE TW",
  "O DOTS OVER ONE DOT PUNCTUATIONgONE DOT OVER TWO DOTS PUNCTUATIONgTWO RINGS OVER ONE RING PU",
  "NCTUATIONgONE RING OVER TWO RINGS PUNCTUATIONaINSCRIPTIONAL PARTHIAN LETTER ALEPHzfBETHzfGIM",
  "ELzfDALETHzfHEzfWAWzfZAYINzfHETHzfTETHzfYODHzfKAPHzfLAMEDHzfMEMzfNUNzfSAMEKHzfAYINzfPEzfSADH",
  "EzfQOPHzfRESHzfSHINzfTAW:10B58xNUMBER ONEzfTWOzgHREEzfFOURzfTENzgWENTYzfONE HUNDREDzjTHOUSAN",
  "DqHLAVI LETTER ALEPHzeBETHzeGIMELzeDALETHzeHEzeWAW-AYIN-RESHzeZAYINzeHETHzeTETHzeYODHzeKAPHz",
  "eLAMEDHzeMEM-QOPHzeNUNzeSAMEKHzePEzeSADHEzfHINzeTAW:10B78wNUMBER ONEzeTWOzfHREEzeFOURzeTENzf",
  "WENTYzeONE HUNDREDziTHOUSANDaPSALTER PAHLAVI LETTER ALEPHxBETHxGIMELxDALETHxHExWAW-AYIN-RESH",
  "xZAYINxHETHxYODHxKAPHxLAMEDHxMEM-QOPHxNUNxSAMEKHxPExSADHEyHINxTAW:10B99qSECTION MARKqTURNED ",
  "SECTION MARKqFOUR DOTS WITH CROSSzgDOT:10BA9qNUMBER ONExTWOyHREExFOURxTENyWENTYxONE HUNDRED:",
  "10C00aOLD TURKIC LETTER ORKHON AsYENISEI AzcEsORKHON IsYENISEI IzbEsORKHON OzbEsYENISEI OEsO",
  "RKHON ABsYENISEI ABsORKHON AEBsYENISEI AEBsORKHON AGsYENISEI AGsORKHON AEGsYENISEI AEGsORKHO",
  "N ADsYENISEI ADsORKHON AEDzEZsYENISEI EZsORKHON AYsYENISEI AYsORKHON AEYsYENISEI AEYsORKHON ",
  "AEKsYENISEI AEKsORKHON OEKsYENISEI OEKsORKHON ALsYENISEI ALsORKHON AELzELTzbMzANzbENsYENISEI",
  " AENsORKHON ENTsYENISEI ENTsORKHON ENCsYENISEI ENCsORKHON ENYsYENISEI ENYzbANGsORKHON ENGsYE",
  "NISEI AENGsORKHON EPzOPzICzECsYENISEI ECsORKHON AQsYENISEI AQsORKHON IQsYENISEI IQsORKHON OQ",
  "sYENISEI OQsORKHON ARsYENISEI ARsORKHON AERzbSzbESzbSHsYENISEI ASHsORKHON ESHsYENISEI ESHsOR",
  "KHON ATsYENISEI ATsORKHON AETsYENISEI AETsORKHON OTzBASH:10C80eHUNGARIAN CAPITAL LETTER AzfA",
  "zeEBzeAMBzeECzfNCzfCSzfDzeANDzeEzeCLOSE EzeEEzfFzfGzgYzfHzeIzfIzeEJzfKzeAKzeUNKzeELzgYzfMzfN",
  "zgYzeOzfOzeNIKOLSBURG OEzeRUDIMENTA OEzeOEEzeEPzfMPzfRzeSHORT ERzeESzgZzfTzfNTzfTYzfCHzeUzfU",
  "zeNIKOLSBURG UEzeRUDIMENTA UEzeEVzfZzgSzfNT-SHAPED SIGNzeUS:10CC0oSMALL LETTER AzdAzcEBzcAMB",
  "zcECzdNCzdCSzdDzcANDzcEzcCLOSE EzcEEzdFzdGzeYzdHzcIzdIzcEJzdKzcAKzcUNKzcELzeYzdMzdNzeYzcOzdO",
  "zcNIKOLSBURG OEzcRUDIMENTA OEzcOEEzcEPzdMPzdRzcSHORT ERzcESzeZzdTzdNTzdTYzdCHzcUzdUzcNIKOLSB",
  "URG UEzcRUDIMENTA UEzcEVzdZzeSzdNT-SHAPED SIGNzcUS:10CFAoNUMBER ONEvFIVEvTENvFIFTYvONE HUNDR",
  "EDzTHOUSANDaHANIFI ROHINGYA LETTER AxBAxPAxTAyTAxJAxCAxHAxKHAxFAxDAyDAxRAyRAxZAxSAyHAxKAxGAx",
  "LAxMAxNAxWAxKINNA WAxYAxKINNA YAxNGAyYAxVAqVOWEL AwIwUwEwOqMARK SAKINvNA KHONNAqSIGN HARBAHA",
  "YvTAHALAxNAxSSI:10D30qDIGIT ZEROwONEwTWOxHREEwFOURxIVEwSIXxEVENwEIGHTwNINE:10E60aRUMI DIGIT ",
  "ONElTWOmHREElFOURmIVElSIXmEVENlEIGHTlNINEfNUMBER TENnWENTYnHIRTYmFORTYnIFTYmSIXTYnEVENTYmEIG",
  "HTYmNINETYmONE HUNDREDmTWO HUNDREDnHREE HUNDREDmFOUR HUNDREDnIVE HUNDREDmSIX HUNDREDnEVEN HU",
  "NDREDmEIGHT HUNDREDmNINE HUNDREDfFRACTION ONE HALFsQUARTERsTHIRDoTWO THIRDS:10E80aYEZIDI LET",
  "TER ELIFoBEoPEpHEoTHEoSEoCIMpHIMqHIMoHHAoXAoDALoZALoRApHAoZAoJAoSINpHINpADoDADoTAoZEoEYNoXHE",
  "YNoFAoVAq ALTERNATE FORMoQAFoKAFpHAFoGAFoLAMoMIMoNUNoUMoWAWoOWoEWoHAYoYOToET:10EABhCOMBINING",
  " HAMZA MARKrMADDA MARKhHYPHENATION MARK:10EB0hLETTER LAM WITH DOT ABOVEoYOT WITH CIRCUMFLEX ",
  "ABOVE:10F00aOLD SOGDIAN LETTER ALEPHtFINAL ALEPHtBETHtFINAL BETHtGIMELtHEtFINAL HEtWAWtZAYIN",
  "tHETHtYODHtKAPHtLAMEDHtMEMtNUNtFINAL NUNzd WITH VERTICAL TAILtSAMEKHtAYINuLTERNATE AYINtPEtS",
  "ADHEtFINAL SADHEzf WITH VERTICAL TAILtRESH-AYIN-DALETHtSHINtTAWtFINAL TAWzd WITH VERTICAL TA",
  "ILmNUMBER ONEtTWOuHREEtFOURuIVEtTENuWENTYuHIRTYtONE HUNDREDmFRACTION ONE HALFmLIGATURE AYIN-",
  "DALETH:10F30aSOGDIAN LETTER ALEPHpBETHpGIMELpHEpWAWpZAYINpHETHpYODHpKAPHpLAMEDHpMEMpNUNpSAME",
  "KHpAYINpPEpSADHEpRESH-AYINpSHINpTAWpFETHpLESHiINDEPENDENT SHINiCOMBINING DOT BELOWsTWO DOTS ",
  "BELOWsDOT ABOVEsTWO DOTS ABOVEsCURVE ABOVEyBELOWsHOOK ABOVExBELOWsLONG HOOK BELOWsRESH BELOW",
  "sSTROKE BELOWiNUMBER ONEpTENqWENTYpONE HUNDREDiPUNCTUATION TWO VERTICAL BARSzm WITH DOTSuCIR",
  "CLE WITH DOTuTWO CIRCLES WITH DOTSuHALF CIRCLE WITH DOT:10F70aOLD UYGHUR LETTER ALEPHsBETHsG",
  "IMEL-HETHsWAWsZAYINsFINAL HETHsYODHsKAPHsLAMEDHsMEMsNUNsSAMEKHsPEsSADHEsRESHsSHINsTAWsLESHlC",
  "OMBINING DOT ABOVEzBELOWvTWO DOTS ABOVEzfBELOWlPUNCTUATION BARxTWO BARSzcDOTSxFOUR DOTS:10FB",
  "0aCHORASMIAN LETTER ALEPHsSMALL ALEPHsBETHsGIMELsDALETHsHEsWAWsCURLED WAWsZAYINsHETHsYODHsKA",
  "PHsLAMEDHsMEMsNUNsSAMEKHsAYINsPEsRESHsSHINsTAWlNUMBER ONEsTWOtHREEsFOURsTENtWENTYsONE HUNDRE",
  "D:10FE0aELYMAIC LETTER ALEPHpBETHpGIMELpDALETHpHEpWAWpZAYINpHETHpTETHpYODHpKAPHpLAMEDHpMEMpN",
  "UNpSAMEKHpAYINpPEpSADHEpQOPHpRESHpSHINpTAWjIGATURE ZAYIN-YODH:11000aBRAHMI SIGN CANDRABINDUm",
  "ANUSVARAmVISARGAmJIHVAMULIYAmUPADHMANIYAhLETTER ApAoIpIoUpUoVOCALIC RxRwLxLoEoAIoOoAUoKApHAo",
  "GApHAoNGAoCApHAoJApHAoNYAoTTAqHAoDDAqHAoNNAoTApHAoDApHAoNAoPApHAoBApHAoMAoYAoRAoLAoVAoSHApSA",
  "pAoHAoLLAoOLD TAMIL LLLAyRRAyNNNAhVOWEL SIGN AAsBHATTIPROLU AAsItIsUtUsVOCALIC RzcRzbLzcLsEs",
  "AIsOsAUiIRAMAhDANDAiOUBLE DANDAhPUNCTUATION DOTvUBLE DOTtLINEtCRESCENT BARtLOTUS:11052hNUMBE",
  "R ONEoTWOpHREEoFOURpIVEoSIXpEVENoEIGHToNINEoTENpWENTYpHIRTYoFORTYpIFTYoSIXTYpEVENTYoEIGHTYoN",
  "INETYoONE HUNDREDsTHOUSANDhDIGIT ZEROnONEnTWOoHREEnFOURoIVEnSIXoEVENnEIGHTnNINEhSIGN OLD TAM",
  "IL VIRAMAhLETTER OLD TAMIL SHORT EzfOhVOWEL SIGN OLD TAMIL SHORT EzjOhLETTER OLD TAMIL LLA:1",
  "107FhNUMBER JOINERaKAITHI SIGN CANDRABINDUmANUSVARAmVISARGAhLETTER ApAoIpIoUpUoEoAIoOoAUoKAp",
  "HAoGApHAoNGAoCApHAoJApHAoNYAoTTAqHAoDDAqDHAqHAoRHAoNNAoTApHAoDApHAoNAoPApHAoBApHAoMAoYAoRAoL",
  "AoVAoSHApSApAoHAhVOWEL SIGN AAsItIsUtUsEsAIsOsAUhSIGN VIRAMAmNUKTAhABBREVIATION SIGNhENUMERA",
  "TION SIGNhNUMBER SIGNhSECTION MARKhDOUBLE SECTION MARKiANDAiOUBLE DANDAhVOWEL SIGN VOCALIC R",
  ":110CDhNUMBER SIGN ABOVE:110D0aSORA SOMPENG LETTER SAHuTAHuBAHuCAHuDAHuGAHuMAHuNGAHuLAHuNAHu",
  "VAHuPAHuYAHuRAHuHAHuKAHuJAHuNYAHuAHuEEHuIHuUHuOHuEHuMAE:110F0nDIGIT ZEROtONEtTWOuHREEtFOURuI",
  "VEtSIXuEVENtEIGHTtNINE:11100aCHAKMA SIGN CANDRABINDUmANUSVARAmVISARGAhLETTER AAoIoUoEoKAApHA",
  "AoGAApHAAoNGAAoCAApHAAoJAApHAAoNYAAoTTAAqHAAoDDAAqHAAoNNAAoTAApHAAoDAApHAAoNAAoPAApHAAoBAApH",
  "AAoMAAoYYAApAAoRAAoLAAoWAAoSAAoHAAhVOWEL SIGN AsItIsUtUsEsAIsOsAUsOIhO MARKhAU MARKhVIRAMAhM",
  "AAYYAA:11136hDIGIT ZEROnONEnTWOoHREEnFOURoIVEnSIXoEVENnEIGHTnNINEhSECTION MARKhDANDAiOUBLE D",
  "ANDAhQUESTION MARKhLETTER LHAAhVOWEL SIGN AAsEIhLETTER VAA:11150aMAHAJANI LETTER AqIqUqEqOqK",
  "ArHAqGArHAqCArHAqJArHAqNYAqTTAsHAqDDAsHAqNNAqTArHAqDArHAqNAqPArHAqBArHAqMAqRAqLAqVAqSAqHAqRR",
  "AjSIGN NUKTAjABBREVIATION SIGNjSECTION MARKjLIGATURE SHRI:11180aSHARADA SIGN CANDRABINDUnANU",
  "SVARAnVISARGAiLETTER AqApIqIpUqUpVOCALIC RyRxLyLpEpAIpOpAUpKAqHApGAqHApNGApCAqHApJAqHApNYApT",
  "TArHApDDArHApNNApTAqHApDAqHApNApPAqHApBAqHApMApYApRApLAqLApVApSHAqSAqApHAiVOWEL SIGN AAtIuIt",
  "UuUtVOCALIC RzdRzcLzdLtEtAItOtAUiSIGN VIRAMAnAVAGRAHAnJIHVAMULIYAnUPADHMANIYAiOMiDANDAjOUBLE",
  " DANDAiABBREVIATION SIGNiSEPARATORjANDHI MARKjIGN NUKTAiVOWEL MODIFIER MARKiEXTRA SHORT VOWE",
  "L MARKiSUTRA MARKiVOWEL SIGN PRISHTHAMATRA EiSIGN INVERTED CANDRABINDUiDIGIT ZEROoONEoTWOpHR",
  "EEoFOURpIVEoSIXpEVENoEIGHToNINEiEKAMiSIGN SIDDHAMiHEADSTROKEiCONTINUATION SIGNiSECTION MARK-",
  "1v2:111E1bINHALA ARCHAIC DIGIT ONEwTWOxHREEwFOURxIVEwSIXxEVENwEIGHTwNINEqNUMBER TENyWENTYyHI",
  "RTYxFORTYyIFTYxSIXTYyEVENTYxEIGHTYxNINETYxONE HUNDREDzcTHOUSAND:11200aKHOJKI LETTER ApAoIoUo",
  "EoAIoOoAUoKApHAoGApGApHAoNGAoCApHAoJApJA:11213oNYAoTTAqHAoDDAqHAoNNAoTApHAoDApDDApHAoNAoPApH",
  "AoBApBApHAoMAoYAoRAoLAoVAoSAoHAoLLAhVOWEL SIGN AAsItIsUsEsAIsOsAUhSIGN ANUSVARAmVIRAMAmNUKTA",
  "mSHADDAhDANDAiOUBLE DANDAhWORD SEPARATORhSECTION MARKhDOUBLE SECTION MARKhABBREVIATION SIGNh",
  "SIGN SUKUN:11280aMULTANI LETTER ApIpUpEpKAqHApGA:11288qHA:1128ApCAqHApJAqJA:1128FpNYApTTArHA",
  "pDDArDArHApNNApTAqHApDAqHApNApPAqHApBA:1129FqHApMApYApRApLApVApSApHApRRAqHAiSECTION MARK:112",
  "B0aKHUDAWADI LETTER AsArIsIrUsUrErAIrOrAUrKAsHArGAsGAsHArNGArCAsHArJAsJAsHArNYArTTAtHArDDAtD",
  "ArRRArDDHArNNArTAsHArDAsHArNArPAsHArBAsBAsHArMArYArRArLArVArSHAsArHAkSIGN ANUSVARAkVOWEL SIG",
  "N AAvIwIvUwUvEvAIvOvAUkSIGN NUKTApVIRAMA:112F0kDIGIT ZEROqONEqTWOrHREEqFOURrIVEqSIXrEVENqEIG",
  "HTqNINE:11300aGRANTHA SIGN COMBINING ANUSVARA ABOVEoANDRABINDUnANUSVARAnVISARGA:11305iLETTER",
  " AqApIqIpUqUpVOCALIC RxL:1130FpEEpAI:11313pOOpAUpKAqHApGAqHApNGApCAqHApJAqHApNYApTTArHApDDAr",
  "HApNNApTAqHApDAqHApNA:1132ApPAqHApBAqHApMApYApRA:11332pLAqLA:11335pVApSHAqSAqApHA:1133BaCOMB",
  "INING BINDU BELOWaGRANTHA SIGN NUKTAnAVAGRAHAiVOWEL SIGN AAtIuItUuUtVOCALIC RzdR:11347tEEtAI",
  ":1134BtOOtAUiSIGN VIRAMA:11350iOM:11357iAU LENGTH MARK:1135DiSIGN PLUTAiLETTER VEDIC ANUSVAR",
  "AvDOUBLE ANUSVARAqOCALIC RRxLLiVOWEL SIGN VOCALIC LzdL:11366aCOMBINING GRANTHA DIGIT ZEROyON",
  "EyTWOzHREEyFOURzIVEySIX:11370sLETTER AzKAzNAzVIzPA:11400aNEWA LETTER AnAmInImUnUmVOCALIC RvR",
  "uLvLmEmAImOmAUmKAnHAmGAnHAmNGAoHAmCAnHAmJAnHAmNYAoHAmTTAoHAmDDAoHAmNNAmTAnHAmDAnHAmNAnHAmPAn",
  "HAmBAnHAmMAnHAmYAmRAnHAmLAnHAmWAmSHAnSAnAmHAfVOWEL SIGN AAqIrIqUrUqVOCALIC RzRyLzLqEqAIqOqAU",
  "fSIGN VIRAMAkCANDRABINDUkANUSVARAkVISARGAkNUKTAkAVAGRAHAkFINAL ANUSVARAfOMfSIDDHIfDANDAgOUBL",
  "E DANDAfCOMMAfGAP FILLERfABBREVIATION SIGNfDIGIT ZEROlONElTWOmHREElFOURmIVElSIXmEVENlEIGHTlN",
  "INEgOUBLE COMMAfPLACEHOLDER MARK:1145DfINSERTION SIGNfSANDHI MARKfLETTER VEDIC ANUSVARAfSIGN",
  " JIHVAMULIYAkUPADHMANIYA:11480aTIRHUTA ANJIiLETTER AqApIqIpUqUpVOCALIC RyRxLyLpEpAIpOpAUpKAq",
  "HApGAqHApNGApCAqHApJAqHApNYApTTArHApDDArHApNNApTAqHApDAqHApNApPAqHApBAqHApMApYApRApLApVApSHA",
  "qSAqApHAiVOWEL SIGN AAtIuItUuUtVOCALIC RzdRzcLzdLtEtSHORT EtAItOtSHORT OtAUiSIGN CANDRABINDU",
  "nANUSVARAnVISARGApRAMAnNUKTAnAVAGRAHAiGVANGiABBREVIATION SIGNiOM:114D0iDIGIT ZEROoONEoTWOpHR",
  "EEoFOURpIVEoSIXpEVENoEIGHToNINE:11580aSIDDHAM LETTER AqApIqIpUqUpVOCALIC RyRxLyLpEpAIpOpAUpK",
  "AqHApGAqHApNGApCAqHApJAqHApNYApTTArHApDDArHApNNApTAqHApDAqHApNApPAqHApBAqHApMApYApRApLApVApS",
  "HAqSAqApHAiVOWEL SIGN AAtIuItUuUtVOCALIC RzdR:115B8tEtAItOtAUiSIGN CANDRABINDUnANUSVARAnVISA",
  "RGApRAMAnNUKTAnSIDDHAMiDANDAjOUBLE DANDAiSEPARATOR DOTsBARiREPETITION MARK-1y2y3iEND OF TEXT",
  " MARKiSECTION MARK WITH TRIDENT AND U-SHAPED ORNAMENTSznDOTTED CRESCENTSzbRAYS AND DOTTED CR",
  "ESCENTSzrDOUBLE CRESCENTSzrTRIPLE CRESCENTSvDOUBLE RINGzh WITH RAYSvWITH DOUBLE CRESCENTSzbT",
  "RIPLE CRESCENTSzbQUADRUPLE CRESCENTSzbSEPTUPLE CRESCENTSzbCIRCLES AND RAYSznTWO ENCLOSURESzn",
  "FOUR ENCLOSURESiLETTER THREE-CIRCLE ALTERNATE IqWO-CIRCLE ALTERNATE IzmIpALTERNATE UiVOWEL S",
  "IGN ALTERNATE UzfU:11600aMODI LETTER AnAmInImUnUmVOCALIC RvRuLvLmEmAImOmAUmKAnHAmGAnHAmNGAmC",
  "AnHAmJAnHAmNYAmTTAoHAmDDAoHAmNNAmTAnHAmDAnHAmNAmPAnHAmBAnHAmMAmYAmRAmLAmVAmSHAnSAnAmHAmLLAfV",
  "OWEL SIGN AAqIrIqUrUqVOCALIC RzRyLzLqEqAIqOqAUfSIGN ANUSVARAkVISARGAmRAMAkARDHACANDRAfDANDAg",
  "OUBLE DANDAfABBREVIATION SIGNfSIGN HUVA:11650fDIGIT ZEROlONElTWOmHREElFOURmIVElSIXmEVENlEIGH",
  "TlNINE:11660cNGOLIAN BIRGA WITH ORNAMENTkROTATED BIRGAkDOUBLE BIRGA WITH ORNAMENTkTRIPLE BIR",
  "GA WITH ORNAMENTkBIRGA WITH DOUBLE ORNAMENTkROTATED BIRGA WITH ORNAMENTzeDOUBLE ORNAMENTkINV",
  "ERTED BIRGAy WITH DOUBLE ORNAMENTkSWIRL BIRGAv WITH ORNAMENTzcDOUBLE ORNAMENTkTURNED SWIRL B",
  "IRGA WITH DOUBLE ORNAMENT:11680aTAKRI LETTER AoAnIoInUoUnEnAInOnAUnKAoHAnGAoHAnNGAnCAoHAnJAo",
  "HAnNYAnTTApHAnDDApHAnNNAnTAoHAnDAoHAnNAnPAoHAnBAoHAnMAnYAnRAnLAnVAnSHAoAnHAnRRAgSIGN ANUSVAR",
  "AlVISARGAgVOWEL SIGN AArIsIrUsUrErAIrOrAUgSIGN VIRAMAlNUKTAgLETTER ARCHAIC KHAgABBREVIATION ",
  "SIGN:116C0gDIGIT ZEROmONEmTWOnHREEmFOURnIVEmSIXnEVENmEIGHTmNINE:11700aAHOM LETTER KAnHAmNGAn",
  "AmTAmALTERNATE TAmPAnHAmBAmMAmJAmCHAmTHAmRAmLAmSAmNYAmHAmAmDAnHAmGAmALTERNATE GAmGHAmBHAmJHA",
  "mALTERNATE BA:1171DfCONSONANT SIGN MEDIAL LAzcRAzcLIGATING RAfVOWEL SIGN ArAqIrIqUrUqEqAWqOq",
  "AIrMfSIGN KILLER:11730fDIGIT ZEROlONElTWOmHREElFOURmIVElSIXmEVENlEIGHTlNINEfNUMBER TENnWENTY",
  "fSIGN SMALL SECTIONlECTIONkRULAIgYMBOL VIfLETTER CAmTTAoHAmDDAoHAmNNAmLLA:11800aDOGRA LETTER",
  " AoAnIoInUoUnEnAInOnAUnKAoHAnGAoHAnNGAnCAoHAnJAoHAnNYAnTTApHAnDDApHAnNNAnTAoHAnDAoHAnNAnPAoH",
  "AnBAoHAnMAnYAnRAnLAnVAnSHAoSAoAnHAnRRAgVOWEL SIGN AArIsIrUsUrVOCALIC RzbRrErAIrOrAUgSIGN ANU",
  "SVARAlVISARGAnRAMAlNUKTAgABBREVIATION SIGN:118A0aWARANG CITI CAPITAL LETTER NGAAzcAzcWIzcYUz",
  "dAzdOzcIIzcUUzcEzcOzcANGzcGAzcKOzcENYzcYUJzcUCzcENNzcODDzcTTEzcNUNGzcDAzcATzdMzcBUzcPUzcHIYO",
  "zdOLOzeRRzdARzcSSUUzdIIzcVIYOmSMALL LETTER NGAAzAzWIzYUzbAzbOzIIzUUzEzOzANGzGAzKOzENYzYUJzUC",
  "zENNzODDzTTEzNUNGzDAzATzbMzBUzPUzHIYOzbOLOzcRRzbARzSSUUzbIIzVIYOmDIGIT ZEROsONEsTWOtHREEsFOU",
  "RtIVEsSIXtEVENsEIGHTsNINEmNUMBER TENuWENTYuHIRTYtFORTYuIFTYtSIXTYuEVENTYtEIGHTYtNINETY:118FF",
  "mOMaDIVES AKURU LETTER AuAtIuItUuUtE:11909tO:1190CtKAuHAtGAuHAtNGAtCAuHAtJA:11915tNYAtTTA:11",
  "918tDDAvHAtNNAtTAuHAtDAuHAtNAtPAuHAtBAuHAtMAtYAuYAtRAtLAtVAtSHAuSAuAtHAtLLAtZAmVOWEL SIGN AA",
  "xIyIxUyUxE:11937xAIxO:1193BmSIGN ANUSVARArCANDRABINDUrHALANTAmVIRAMAmPREFIXED NASAL SIGNmMED",
  "IAL YAmINITIAL RAmMEDIAL RAmSIGN NUKTAmDOUBLE DANDAmGAP FILLERmEND OF TEXT MARK:11950mDIGIT ",
  "ZEROsONEsTWOtHREEsFOURtIVEsSIXtEVENsEIGHTsNINE:119A0aNANDINAGARI LETTER AuAtIuItUuUtVOCALIC ",
  "RzdR:119AAtEtAItOtAUtKAuHAtGAuHAtNGAtCAuHAtJAuHAtNYAtTTAvHAtDDAvHAtNNAtTAuHAtDAuHAtNAtPAuHAt",
  "BAuHAtMAtYAtRAtLAtVAtSHAuSAuAtHAtLLAtRRAmVOWEL SIGN AAxIyIxUyUxVOCALIC RzhR:119DAxExAIxOxAUm",
  "SIGN ANUSVARArVISARGAtRAMArAVAGRAHArSIDDHAMmHEADSTROKEmVOWEL SIGN PRISHTHAMATRA E:11A00aZANA",
  "BAZAR SQUARE LETTER ArVOWEL SIGN IzdUEzdUzdEzdOEzdOzdAIzeUzdREVERSED IxLENGTH MARKrLETTER KA",
  "zHAyGAzHAyNGAyCAzHAyJAyNYAyTTAzbHAyDDAzbHAyNNAyTAzHAyDAzHAyNAyPAzHAyBAzHAyMAyTSAzbHAyDZAzbHA",
  "yZHAzAy-AyYAyRAyLAyVAySHAzSAzAyHAyKSSArFINAL CONSONANT MARKrSIGN VIRAMAwCANDRABINDUzi WITH O",
  "RNAMENTzd WITH ORNAMENTwANUSVARAwVISARGArCLUSTER-INITIAL LETTER RAzFINAL LETTER YAznRAznLAzn",
  "VArINITIAL HEAD MARKrCLOSING HEAD MARKrMARK TSHEGwSHADwDOUBLE SHADwLONG TSHEGrINITIAL DOUBLE",
  "-LINED HEAD MARKrCLOSING DOUBLE-LINED HEAD MARKrSUBJOINER:11A50aSOYOMBO LETTER AiVOWEL SIGN ",
  "ItUEtUtEtOuEtAIuUtVOCALIC RzcLoLENGTH MARKiLETTER KAqHApGAqHApNGApCAqHApJAqHApNYApTTArHApDDA",
  "rHApNNApTAqHApDAqHApNApPAqHApBAqHApMApTSArHApDZApZHAqAp-ApYApRApLApVApSHAqSAqApHApKSSAiSIGN ",
  "JIHVAMULIYAnUPADHMANIYAiCLUSTER-INITIAL LETTER RAzgLAzgSHAzhAiFINAL CONSONANT SIGN GzeKzeNGz",
  "eDzeNzeBzeMzeRzeLzeSHzeSze-AiSIGN ANUSVARAnVISARGAiGEMINATION MARKiSUBJOINERiMARK TSHEGnSHAD",
  "nDOUBLE SHADnPLUTAiHEAD MARK WITH MOON AND SUN AND TRIPLE FLAMEzpFLAMEzjNiTERMINAL MARK-1w2:",
  "11AB0aCANADIAN SYLLABICS NATTILIK HIzfIzeOzfOzeAzfAzdSHRIzhIzgOzhOzgAzhAtSPEvIvOvAaPAU CIN H",
  "AU LETTER PAtKAtLAtMAtDAtZAtVAtNGAtHAtGAtKHAtSAtBAtCAtTAuHAtNAtPHAtRAtFAtCHAtAtEtItOtUuAtIAt",
  "FINAL PzKzTzMzNzLzWzNGzYmRISING TONE LONGwEmSANDHI GLOTTAL STOPmRISING TONE LONG FINALyFINAL",
  "mSANDHI GLOTTAL STOP FINALtTONE LONGwEx LONG FINALyFINALmMID-LEVEL TONEmGLOTTAL STOP VARIANT",
  "mMID-LEVEL TONE LONG FINALzcFINALmLOW-FALLING TONE LONGzcEmGLOTTAL STOPmLOW-FALLING TONE LON",
  "G FINALzeFINALmGLOTTAL STOP FINAL:11C00aBHAIKSUKI LETTER AsArIsIrUsUrVOCALIC RzbRzL:11C0ArEr",
  "AIrOrAUrKAsHArGAsHArNGArCAsHArJAsHArNYArTTAtHArDDAtHArNNArTAsHArDAsHArNArPAsHArBAsHArMArYArR",
  "ArLArVArSHAsSAsArHAkVOWEL SIGN AAvIwIvUwUvVOCALIC RzfRzeL:11C38vEvAIvOvAUkSIGN CANDRABINDUpA",
  "NUSVARApVISARGArRAMApAVAGRAHAkDANDAlOUBLE DANDAkWORD SEPARATORkGAP FILLER-1v2:11C50kDIGIT ZE",
  "ROqONEqTWOrHREEqFOURrIVEqSIXrEVENqEIGHTqNINEkNUMBER ONErTWOsHREErFOURsIVErSIXsEVENrEIGHTrNIN",
  "ErTENsWENTYsHIRTYrFORTYsIFTYrSIXTYsEVENTYrEIGHTYrNINETYkHUNDREDS UNIT MARK:11C70aMARCHEN HEA",
  "D MARKiMARK SHADiLETTER KAqHApGApNGApCAqHApJApNYApTAqHApDApNApPAqHApBApMApTSArHApDZApWApZHAq",
  "Ap-ApYApRApLApSHAqApHApA:11C92iSUBJOINED LETTER KAzbHAzGAzNGAzCAzbHAzJAzNYAzTAzbHAzDAzNAzPAz",
  "bHAzBAzMAzTSAzcHAzDZAzWAzZHAzbA:11CA9zYAzRAzLAzSHAzbAzHAzAiVOWEL SIGN AAtItUtEtOiSIGN ANUSVA",
  "RAnCANDRABINDU:11D00cSARAM GONDI LETTER AwAvIwIvUwUvE:11D08vAIvO:11D0BvAUvKAwHAvGAwHAvNGAvCA",
  "wHAvJAwHAvNYAvTTAxHAvDDAxHAvNNAvTAwHAvDAwHAvNAvPAwHAvBAwHAvMAvYAvRAvLAvVAvSHAwSAwAvHAvLLAvKS",
  "SAvJNYAvTRAoVOWEL SIGN AAzIzbIzUzbUzVOCALIC R:11D3AzE:11D3CzAIzO:11D3FzAUoSIGN ANUSVARAtVISA",
  "RGAtNUKTAtCANDRAtHALANTAoVIRAMAoREPHApA-KARA:11D50oDIGIT ZEROuONEuTWOvHREEuFOURvIVEuSIXvEVEN",
  "uEIGHTuNINE:11D60aGUNJALA GONDI LETTER AwAvIwIvUwU:11D67vEEvAI:11D6AvOOvAUvYAvVAvBAwHAvMAvKA",
  "wHAvTAwHAvLAvGAwHAvDAwHAvNAvCAwHAvTTAxHAvLLAvJAwHAvDDAxHAvNGAvPAwHAvHAvRAvSAoVOWEL SIGN AAzI",
  "zbIzUzbU:11D90zEEzAI:11D93zOOzAUoSIGN ANUSVARAtVISARGAoVIRAMAoOM:11DA0oDIGIT ZEROuONEuTWOvHR",
  "EEuFOURvIVEuSIXvEVENuEIGHTuNINE:11EE0aMAKASAR LETTER KApGApNGApPApBApMApTApDApNApCApJApNYApY",
  "ApRApLApVApSApAiANGKAiVOWEL SIGN ItUtEtOiPASSIMBANGiEND OF SECTION:11FB0aLISU LETTER YHA:11F",
  "C0aTAMIL FRACTION ONE THREE-HUNDRED-AND-TWENTIETHtONE-HUNDRED-AND-SIXTIETHtEIGHTIETHtSIXTY-F",
  "OURTHtFORTIETHtTHIRTY-SECONDpTHREE EIGHTIETHSvSIXTY-FOURTHSpONE TWENTIETHtSIXTEENTH-1ze2tTEN",
  "THtEIGHTHpTHREE TWENTIETHSvSIXTEENTHSpONE FIFTHtQUARTERtHALF-1y2pTHREE QUARTERSpDOWNSCALING ",
  "FACTOR KIIZHgSIGN NELlCEVITUlAAZHAAKKUlUZHAKKUlMUUVUZHAKKUlKURUNIlPATHAKKUlMUKKURUNIlKAACUlP",
  "ANAMmONlVARAAKANlPAARAMlKUZHIlVELIgWET CULTIVATION SIGNgDRY CULTIVATION SIGNgLAND SIGNgSALT ",
  "PAN SIGNgTRADITIONAL CREDIT SIGNsNUMBER SIGNgCURRENT SIGNgAND ODD SIGNgSPENT SIGNgTOTAL SIGN",
  "gIN POSSESSION SIGNgSTARTING FROM SIGNhIGN MUTHALIYAlVAKAIYARAA:11FFFgPUNCTUATION END OF TEX",
  "TaCUNEIFORM SIGN Aq TIMES AxBADxGAN2 TENUxHAxIGIxLAGAR GUNUxMUSHxSAGq2qBr TIMES ASH2yDUN3 GU",
  "NUyGALzbN2 TENUyHAyIGI GUNUzMINyLAGABySHESHyU PLUS U PLUS U"]

end ClassTidy.Text.Name
