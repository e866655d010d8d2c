import LogSieve.Pattern.CharName.Run

/-!
# Indic letters

The names of the letters of India, Ceylon, Siam, Laos, Tibet and Burma.
-/

namespace LogSieve.Pattern

/-- The runs of these names. -/
def indicNames : List NameRun := [
    (0x0900, [
      "aDEVANAGARI SIGN INVERTED CANDRABINDUcCANDRABINDUcANUSVARAcVISARGAbLETTER SHORT AcAcAAcI",
      "cIIcUcUUcVOCALIC RdLcCANDRA EcSHORT EcEcAIcCANDRA OcSHORT OcOcAUcKAcKHAcGAcGHAcNGAcCA",
      "cCHAcJAcJHAcNYAcTTAcTTHAcDDAcDDHAcNNAcTAcTHAcDAcDHAcNAcNNNAcPAcPHAcBAcBHAcMAcYAcRAcRRA",
      "cLAcLLAcLLLAcVAcSHAcSSAcSAcHAbVOWEL SIGN OEdOOEbSIGN NUKTAcAVAGRAHAbVOWEL SIGN AAdIdIIdU",
      "dUUdVOCALIC ReRRdCANDRA EdSHORT EdEdAIdCANDRA OdSHORT OdOdAUbSIGN VIRAMA",
      "bVOWEL SIGN PRISHTHAMATRA EdAWbOMbSTRESS SIGN UDATTAdANUDATTAbGRAVE ACCENTbACUTE ACCENT",
      "bVOWEL SIGN CANDRA LONG EdUEdUUEbLETTER QAcKHHAcGHHAcZAcDDDHAcRHAcFAcYYAcVOCALIC RRdLL",
      "bVOWEL SIGN VOCALIC LeLLbDANDAbDOUBLE DANDAbDIGIT ZEROcONEcTWOcTHREEcFOURcFIVEcSIXcSEVEN",
      "cEIGHTcNINEbABBREVIATION SIGNbSIGN HIGH SPACING DOTbLETTER CANDRA AcOEcOOEcAWcUEcUUE",
      "cMARWARI DDAcZHAcHEAVY YAcGGAcJJAcGLOTTAL STOPcDDDAcBBAaBENGALI ANJIbSIGN CANDRABINDU",
      "cANUSVARAcVISARGA"]),
    (0x0985, ["aBENGALI LETTER AcAAcIcIIcUcUUcVOCALIC RdL"]), (0x098F, ["aBENGALI LETTER EcAI"]),
    (0x0993, [
      "aBENGALI LETTER OcAUcKAcKHAcGAcGHAcNGAcCAcCHAcJAcJHAcNYAcTTAcTTHAcDDAcDDHAcNNAcTAcTHAcDA",
      "cDHAcNA"]),
    (0x09AA, ["aBENGALI LETTER PAcPHAcBAcBHAcMAcYAcRA"]), (0x09B2, ["aBENGALI LETTER LA"]),
    (0x09B6, ["aBENGALI LETTER SHAcSSAcSAcHA"]),
    (0x09BC, ["aBENGALI SIGN NUKTAcAVAGRAHAbVOWEL SIGN AAdIdIIdUdUUdVOCALIC ReRR"]),
    (0x09C7, ["aBENGALI VOWEL SIGN EdAI"]),
    (0x09CB, ["aBENGALI VOWEL SIGN OdAUbSIGN VIRAMAbLETTER KHANDA TA"]),
    (0x09D7, ["aBENGALI AU LENGTH MARK"]), (0x09DC, ["aBENGALI LETTER RRAcRHA"]),
    (0x09DF, ["aBENGALI LETTER YYAcVOCALIC RRdLLbVOWEL SIGN VOCALIC LeLL"]),
    (0x09E6, [
      "aBENGALI DIGIT ZEROcONEcTWOcTHREEcFOURcFIVEcSIXcSEVENcEIGHTcNINE",
      "bLETTER RA WITH MIDDLE DIAGONALeLOWER DIAGONALbRUPEE MARKcSIGNbCURRENCY NUMERATOR ONE",
      "dTWOdTHREEdFOURdONE LESS THAN THE DENOMINATORcDENOMINATOR SIXTEENbISSHARbGANDA MARK",
      "bLETTER VEDIC ANUSVARAbABBREVIATION SIGNbSANDHI MARK"]),
    (0x0A01, ["aGURMUKHI SIGN ADAK BINDIcBINDIcVISARGA"]),
    (0x0A05, ["aGURMUKHI LETTER AcAAcIcIIcUcUU"]), (0x0A0F, ["aGURMUKHI LETTER EEcAI"]),
    (0x0A13, [
      "aGURMUKHI LETTER OOcAUcKAcKHAcGAcGHAcNGAcCAcCHAcJAcJHAcNYAcTTAcTTHAcDDAcDDHAcNNAcTAcTHA",
      "cDAcDHAcNA"]),
    (0x0A2A, ["aGURMUKHI LETTER PAcPHAcBAcBHAcMAcYAcRA"]), (0x0A32, ["aGURMUKHI LETTER LAcLLA"]),
    (0x0A35, ["aGURMUKHI LETTER VAcSHA"]), (0x0A38, ["aGURMUKHI LETTER SAcHA"]),
    (0x0A3C, ["aGURMUKHI SIGN NUKTA"]), (0x0A3E, ["aGURMUKHI VOWEL SIGN AAdIdIIdUdUU"]),
    (0x0A47, ["aGURMUKHI VOWEL SIGN EEdAI"]), (0x0A4B, ["aGURMUKHI VOWEL SIGN OOdAUbSIGN VIRAMA"]),
    (0x0A51, ["aGURMUKHI SIGN UDAAT"]), (0x0A59, ["aGURMUKHI LETTER KHHAcGHHAcZAcRRA"]),
    (0x0A5E, ["aGURMUKHI LETTER FA"]),
    (0x0A66, [
      "aGURMUKHI DIGIT ZEROcONEcTWOcTHREEcFOURcFIVEcSIXcSEVENcEIGHTcNINEbTIPPIbADDAKbIRIbURA",
      "bEK ONKARbSIGN YAKASHbABBREVIATION SIGN"]),
    (0x0A81, ["aGUJARATI SIGN CANDRABINDUcANUSVARAcVISARGA"]),
    (0x0A85, ["aGUJARATI LETTER AcAAcIcIIcUcUUcVOCALIC RdLbVOWEL CANDRA E"]),
    (0x0A8F, ["aGUJARATI LETTER EcAIbVOWEL CANDRA O"]),
    (0x0A93, [
      "aGUJARATI LETTER OcAUcKAcKHAcGAcGHAcNGAcCAcCHAcJAcJHAcNYAcTTAcTTHAcDDAcDDHAcNNAcTAcTHA",
      "cDAcDHAcNA"]),
    (0x0AAA, ["aGUJARATI LETTER PAcPHAcBAcBHAcMAcYAcRA"]), (0x0AB2, ["aGUJARATI LETTER LAcLLA"]),
    (0x0AB5, ["aGUJARATI LETTER VAcSHAcSSAcSAcHA"]),
    (0x0ABC, ["aGUJARATI SIGN NUKTAcAVAGRAHAbVOWEL SIGN AAdIdIIdUdUUdVOCALIC ReRRdCANDRA E"]),
    (0x0AC7, ["aGUJARATI VOWEL SIGN EdAIdCANDRA O"]),
    (0x0ACB, ["aGUJARATI VOWEL SIGN OdAUbSIGN VIRAMA"]), (0x0AD0, ["aGUJARATI OM"]),
    (0x0AE0, ["aGUJARATI LETTER VOCALIC RRdLLbVOWEL SIGN VOCALIC LeLL"]),
    (0x0AE6, [
      "aGUJARATI DIGIT ZEROcONEcTWOcTHREEcFOURcFIVEcSIXcSEVENcEIGHTcNINEbABBREVIATION SIGN",
      "bRUPEE SIGN"]),
    (0x0AF9, [
      "aGUJARATI LETTER ZHAbSIGN SUKUNcSHADDAcMADDAHcTHREE-DOT NUKTA ABOVEcCIRCLE NUKTA ABOVE",
      "cTWO-CIRCLE NUKTA ABOVE"]),
    (0x0B01, ["aORIYA SIGN CANDRABINDUcANUSVARAcVISARGA"]),
    (0x0B05, ["aORIYA LETTER AcAAcIcIIcUcUUcVOCALIC RdL"]), (0x0B0F, ["aORIYA LETTER EcAI"]),
    (0x0B13, [
      "aORIYA LETTER OcAUcKAcKHAcGAcGHAcNGAcCAcCHAcJAcJHAcNYAcTTAcTTHAcDDAcDDHAcNNAcTAcTHAcDA",
      "cDHAcNA"]),
    (0x0B2A, ["aORIYA LETTER PAcPHAcBAcBHAcMAcYAcRA"]), (0x0B32, ["aORIYA LETTER LAcLLA"]),
    (0x0B35, ["aORIYA LETTER VAcSHAcSSAcSAcHA"]),
    (0x0B3C, ["aORIYA SIGN NUKTAcAVAGRAHAbVOWEL SIGN AAdIdIIdUdUUdVOCALIC ReRR"]),
    (0x0B47, ["aORIYA VOWEL SIGN EdAI"]), (0x0B4B, ["aORIYA VOWEL SIGN OdAUbSIGN VIRAMA"]),
    (0x0B55, ["aORIYA SIGN OVERLINEbAI LENGTH MARKbAU LENGTH MARK"]),
    (0x0B5C, ["aORIYA LETTER RRAcRHA"]),
    (0x0B5F, ["aORIYA LETTER YYAcVOCALIC RRdLLbVOWEL SIGN VOCALIC LeLL"]),
    (0x0B66, [
      "aORIYA DIGIT ZEROcONEcTWOcTHREEcFOURcFIVEcSIXcSEVENcEIGHTcNINEbISSHARbLETTER WA",
      "bFRACTION ONE QUARTERdHALFcTHREE QUARTERScONE SIXTEENTHdEIGHTHcTHREE SIXTEENTHS"]),
    (0x0B82, ["aTAMIL SIGN ANUSVARAcVISARGA"]), (0x0B85, ["aTAMIL LETTER AcAAcIcIIcUcUU"]),
    (0x0B8E, ["aTAMIL LETTER EcEEcAI"]), (0x0B92, ["aTAMIL LETTER OcOOcAUcKA"]),
    (0x0B99, ["aTAMIL LETTER NGAcCA"]), (0x0B9C, ["aTAMIL LETTER JA"]),
    (0x0B9E, ["aTAMIL LETTER NYAcTTA"]), (0x0BA3, ["aTAMIL LETTER NNAcTA"]),
    (0x0BA8, ["aTAMIL LETTER NAcNNNAcPA"]),
    (0x0BAE, ["aTAMIL LETTER MAcYAcRAcRRAcLAcLLAcLLLAcVAcSHAcSSAcSAcHA"]),
    (0x0BBE, ["aTAMIL VOWEL SIGN AAdIdIIdUdUU"]), (0x0BC6, ["aTAMIL VOWEL SIGN EdEEdAI"]),
    (0x0BCA, ["aTAMIL VOWEL SIGN OdOOdAUbSIGN VIRAMA"]), (0x0BD0, ["aTAMIL OM"]),
    (0x0BD7, ["aTAMIL AU LENGTH MARK"]),
    (0x0BE6, [
      "aTAMIL DIGIT ZEROcONEcTWOcTHREEcFOURcFIVEcSIXcSEVENcEIGHTcNINEbNUMBER TENcONE HUNDRED",
      "dTHOUSANDbDAY SIGNbMONTH SIGNbYEAR SIGNbDEBIT SIGNbCREDIT SIGNbAS ABOVE SIGNbRUPEE SIGN",
      "bNUMBER SIGN"]),
    (0x0C00, [
      "aTELUGU SIGN COMBINING CANDRABINDU ABOVEcCANDRABINDUcANUSVARAcVISARGA",
      "cCOMBINING ANUSVARA ABOVEbLETTER AcAAcIcIIcUcUUcVOCALIC RdL"]),
    (0x0C0E, ["aTELUGU LETTER EcEEcAI"]),
    (0x0C12, [
      "aTELUGU LETTER OcOOcAUcKAcKHAcGAcGHAcNGAcCAcCHAcJAcJHAcNYAcTTAcTTHAcDDAcDDHAcNNAcTAcTHA",
      "cDAcDHAcNA"]),
    (0x0C2A, ["aTELUGU LETTER PAcPHAcBAcBHAcMAcYAcRAcRRAcLAcLLAcLLLAcVAcSHAcSSAcSAcHA"]),
    (0x0C3C, ["aTELUGU SIGN NUKTAcAVAGRAHAbVOWEL SIGN AAdIdIIdUdUUdVOCALIC ReRR"]),
    (0x0C46, ["aTELUGU VOWEL SIGN EdEEdAI"]), (0x0C4A, ["aTELUGU VOWEL SIGN OdOOdAUbSIGN VIRAMA"]),
    (0x0C55, ["aTELUGU LENGTH MARKbAI LENGTH MARK"]), (0x0C58, ["aTELUGU LETTER TSAcDZAcRRRA"]),
    (0x0C5D, ["aTELUGU LETTER NAKAARA POLLU"]),
    (0x0C60, ["aTELUGU LETTER VOCALIC RRdLLbVOWEL SIGN VOCALIC LeLL"]),
    (0x0C66, ["aTELUGU DIGIT ZEROcONEcTWOcTHREEcFOURcFIVEcSIXcSEVENcEIGHTcNINE"]),
    (0x0C77, [
      "aTELUGU SIGN SIDDHAMbFRACTION DIGIT ZERO FOR ODD POWERS OF FOUR",
      "dONE FOR ODD POWERS OF FOURdTWO FOR ODD POWERS OF FOURdTHREE FOR ODD POWERS OF FOUR",
      "dONE FOR EVEN POWERS OF FOURdTWO FOR EVEN POWERS OF FOURdTHREE FOR EVEN POWERS OF FOUR",
      "bSIGN TUUMUaKANNADA SIGN SPACING CANDRABINDUcCANDRABINDUcANUSVARAcVISARGAcSIDDHAM",
      "bLETTER AcAAcIcIIcUcUUcVOCALIC RdL"]),
    (0x0C8E, ["aKANNADA LETTER EcEEcAI"]),
    (0x0C92, [
      "aKANNADA LETTER OcOOcAUcKAcKHAcGAcGHAcNGAcCAcCHAcJAcJHAcNYAcTTAcTTHAcDDAcDDHAcNNAcTAcTHA",
      "cDAcDHAcNA"]),
    (0x0CAA, ["aKANNADA LETTER PAcPHAcBAcBHAcMAcYAcRAcRRAcLAcLLA"]),
    (0x0CB5, ["aKANNADA LETTER VAcSHAcSSAcSAcHA"]),
    (0x0CBC, ["aKANNADA SIGN NUKTAcAVAGRAHAbVOWEL SIGN AAdIdIIdUdUUdVOCALIC ReRR"]),
    (0x0CC6, ["aKANNADA VOWEL SIGN EdEEdAI"]),
    (0x0CCA, ["aKANNADA VOWEL SIGN OdOOdAUbSIGN VIRAMA"]),
    (0x0CD5, ["aKANNADA LENGTH MARKbAI LENGTH MARK"]),
    (0x0CDD, ["aKANNADA LETTER NAKAARA POLLUcFA"]),
    (0x0CE0, ["aKANNADA LETTER VOCALIC RRdLLbVOWEL SIGN VOCALIC LeLL"]),
    (0x0CE6, ["aKANNADA DIGIT ZEROcONEcTWOcTHREEcFOURcFIVEcSIXcSEVENcEIGHTcNINE"]),
    (0x0CF1, ["aKANNADA SIGN JIHVAMULIYAcUPADHMANIYA"]),
    (0x0D00, [
      "aMALAYALAM SIGN COMBINING ANUSVARA ABOVEcCANDRABINDUcANUSVARAcVISARGA",
      "bLETTER VEDIC ANUSVARAcAcAAcIcIIcUcUUcVOCALIC RdL"]),
    (0x0D0E, ["aMALAYALAM LETTER EcEEcAI"]),
    (0x0D12, [
      "aMALAYALAM LETTER OcOOcAUcKAcKHAcGAcGHAcNGAcCAcCHAcJAcJHAcNYAcTTAcTTHAcDDAcDDHAcNNAcTA",
      "cTHAcDAcDHAcNAcNNNAcPAcPHAcBAcBHAcMAcYAcRAcRRAcLAcLLAcLLLAcVAcSHAcSSAcSAcHAcTTTA",
      "bSIGN VERTICAL BAR VIRAMAcCIRCULAR VIRAMAcAVAGRAHAbVOWEL SIGN AAdIdIIdUdUUdVOCALIC ReRR"]),
    (0x0D46, ["aMALAYALAM VOWEL SIGN EdEEdAI"]),
    (0x0D4A, ["aMALAYALAM VOWEL SIGN OdOOdAUbSIGN VIRAMAbLETTER DOT REPHbSIGN PARA"]),
    (0x0D54, [
      "aMALAYALAM LETTER CHILLU MdYdLLLbAU LENGTH MARKbFRACTION ONE ONE-HUNDRED-AND-SIXTIETH",
      "dFORTIETHcTHREE EIGHTIETHScONE TWENTIETHdTENTHcTHREE TWENTIETHScONE FIFTH",
      "bLETTER ARCHAIC IIcVOCALIC RRdLLbVOWEL SIGN VOCALIC LeLL"]),
    (0x0D66, [
      "aMALAYALAM DIGIT ZEROcONEcTWOcTHREEcFOURcFIVEcSIXcSEVENcEIGHTcNINEbNUMBER TEN",
      "cONE HUNDREDdTHOUSANDbFRACTION ONE QUARTERdHALFcTHREE QUARTERScONE SIXTEENTHdEIGHTH",
      "cTHREE SIXTEENTHSbDATE MARKbLETTER CHILLU NNdNdRRdLdLLdK"]),
    (0x0D81, ["aSINHALA SIGN CANDRABINDUcANUSVARAYAcVISARGAYA"]),
    (0x0D85, [
      "aSINHALA LETTER AYANNAcAAYANNAcAEYANNAcAEEYANNAcIYANNAcIIYANNAcUYANNAcUUYANNAcIRUYANNA",
      "cIRUUYANNAcILUYANNAcILUUYANNAcEYANNAcEEYANNAcAIYANNAcOYANNAcOOYANNAcAUYANNA"]),
    (0x0D9A, [
      "aSINHALA LETTER ALPAPRAANA KAYANNAcMAHAAPRAANA KAYANNAcALPAPRAANA GAYANNA",
      "cMAHAAPRAANA GAYANNAcKANTAJA NAASIKYAYAcSANYAKA GAYANNAcALPAPRAANA CAYANNA",
      "cMAHAAPRAANA CAYANNAcALPAPRAANA JAYANNAcMAHAAPRAANA JAYANNAcTAALUJA NAASIKYAYA",
      "dSANYOOGA NAAKSIKYAYAcSANYAKA JAYANNAcALPAPRAANA TTAYANNAcMAHAAPRAANA TTAYANNA",
      "cALPAPRAANA DDAYANNAcMAHAAPRAANA DDAYANNAcMUURDHAJA NAYANNAcSANYAKA DDAYANNA",
      "cALPAPRAANA TAYANNAcMAHAAPRAANA TAYANNAcALPAPRAANA DAYANNAcMAHAAPRAANA DAYANNA",
      "cDANTAJA NAYANNA"]),
    (0x0DB3, [
      "aSINHALA LETTER SANYAKA DAYANNAcALPAPRAANA PAYANNAcMAHAAPRAANA PAYANNA",
      "cALPAPRAANA BAYANNAcMAHAAPRAANA BAYANNAcMAYANNAcAMBA BAYANNAcYAYANNAcRAYANNA"]),
    (0x0DBD, ["aSINHALA LETTER DANTAJA LAYANNA"]),
    (0x0DC0, [
      "aSINHALA LETTER VAYANNAcTAALUJA SAYANNAcMUURDHAJA SAYANNAcDANTAJA SAYANNAcHAYANNA",
      "cMUURDHAJA LAYANNAcFAYANNA"]),
    (0x0DCA, ["aSINHALA SIGN AL-LAKUNA"]),
    (0x0DCF, [
      "aSINHALA VOWEL SIGN AELA-PILLAdKETTI AEDA-PILLAdDIGA AEDA-PILLAdKETTI IS-PILLA",
      "dDIGA IS-PILLAdKETTI PAA-PILLA"]),
    (0x0DD6, ["aSINHALA VOWEL SIGN DIGA PAA-PILLA"]),
    (0x0DD8, [
      "aSINHALA VOWEL SIGN GAETTA-PILLAdKOMBUVAdDIGA KOMBUVAdKOMBU DEKAdKOMBUVA HAA AELA-PILLA",
      "fDIGA AELA-PILLAfGAYANUKITTAdGAYANUKITTA"]),
    (0x0DE6, ["aSINHALA LITH DIGIT ZEROdONEdTWOdTHREEdFOURdFIVEdSIXdSEVENdEIGHTdNINE"]),
    (0x0DF2, ["aSINHALA VOWEL SIGN DIGA GAETTA-PILLAeGAYANUKITTAbPUNCTUATION KUNDDALIYA"]),
    (0x0E01, [
      "aTHAI CHARACTER KO KAIcKHO KHAIdKHUATdKHWAIdKHONdRAKHANGcNGO NGUcCHO CHANdCHINGdCHANG",
      "cSO SOcCHO CHOEcYO YINGcDO CHADAcTO PATAKcTHO THANdNANGMONTHOdPHUTHAOcNO NENcDO DEK",
      "cTO TAOcTHO THUNGdTHAHANdTHONGcNO NUcBO BAIMAIcPO PLAcPHO PHUNGcFO FAcPHO PHANcFO FAN",
      "cPHO SAMPHAOcMO MAcYO YAKcRO RUAcRUcLO LINGcLUcWO WAENcSO SALAdRUSIdSUAcHO HIPcLO CHULA",
      "cO ANGcHO NOKHUKcPAIYANNOIcSARA AcMAI HAN-AKATcSARA AAdAMdIdIIdUEdUEEdUdUUcPHINTHU"]),
    (0x0E3F, [
      "aTHAI CURRENCY SYMBOL BAHTbCHARACTER SARA EdAEdOdAI MAIMUANeMAIMALAIcLAKKHANGYAO",
      "cMAIYAMOKcMAITAIKHUcMAI EKdTHOdTRIdCHATTAWAcTHANTHAKHATcNIKHAHITcYAMAKKANcFONGMAN",
      "bDIGIT ZEROcONEcTWOcTHREEcFOURcFIVEcSIXcSEVENcEIGHTcNINEbCHARACTER ANGKHANKHUcKHOMUT"]),
    (0x0E81, ["aLAO LETTER KOcKHO SUNG"]), (0x0E84, ["aLAO LETTER KHO TAM"]),
    (0x0E86, ["aLAO LETTER PALI GHAcNGOcCOcPALI CHAcSO TAM"]),
    (0x0E8C, [
      "aLAO LETTER PALI JHAcNYOcPALI NYAdTTAdTTHAdDDAdDDHAdNNAcDOcTOcTHO SUNGdTAMcPALI DHAcNO",
      "cBOcPOcPHO SUNGcFO TAMcPHO TAMcFO SUNGcPALI BHAcMOcYOcLO LING"]),
    (0x0EA5, ["aLAO LETTER LO LOOT"]),
    (0x0EA7, [
      "aLAO LETTER WOcSANSKRIT SHAdSSAcSO SUNGcHO SUNGcPALI LLAcOcHO TAMbELLIPSISbVOWEL SIGN A",
      "dMAI KANdAAdAMdIdIIdYdYYdUdUUbSIGN PALI VIRAMAbVOWEL SIGN MAI KONbSEMIVOWEL SIGN LOdNYO"]),
    (0x0EC0, ["aLAO VOWEL SIGN EdEIdOdAYdAI"]), (0x0EC6, ["aLAO KO LA"]),
    (0x0EC8, ["aLAO TONE MAI EKdTHOdTIdCATAWAbCANCELLATION MARKbNIGGAHITA"]),
    (0x0ED0, ["aLAO DIGIT ZEROcONEcTWOcTHREEcFOURcFIVEcSIXcSEVENcEIGHTcNINE"]),
    (0x0EDC, ["aLAO HO NOcMObLETTER KHMU GOdNYO"]),
    (0x0F00, [
      "aTIBETAN SYLLABLE OMbMARK GTER YIG MGO TRUNCATED Af-UM RNAM BCAD MAhGTER TSHEG MA",
      "cINITIAL YIG MGO MDUN MAcCLOSING YIG MGO SGAB MAcCARET YIG MGO PHUR SHAD MA",
      "cYIG MGO TSHEG SHAD MAcSBRUL SHADcBSKUR YIG MGOcBKA- SHOG YIG MGOcINTERSYLLABIC TSHEG",
      "cDELIMITER TSHEG BSTARcSHADcNYIS SHADcTSHEG SHADcNYIS TSHEG SHADcRIN CHEN SPUNGS SHAD",
      "cRGYA GRAM SHADcCARET -DZUD RTAGS ME LONG CANcGTER TSHEGbLOGOTYPE SIGN CHAD RTAGS",
      "dLHAG RTAGSbASTROLOGICAL SIGN SGRA GCAN -CHAR RTAGSd-KHYUD PAdSDONG TSHUGS",
      "bSIGN RDEL DKAR GCIGeGNYISeGSUMdNAG GCIGeGNYISdDKAR RDEL NAGbDIGIT ZEROcONEcTWOcTHREE",
      "cFOURcFIVEcSIXcSEVENcEIGHTcNINEcHALF ONEdTWOdTHREEdFOURdFIVEdSIXdSEVENdEIGHTdNINEdZERO",
      "bMARK BSDUS RTAGScNGAS BZUNG NYI ZLAcCARET -DZUD RTAGS BZHI MIG CAN",
      "cNGAS BZUNG SGOR RTAGScCHE MGOcTSA -PHRUcGUG RTAGS GYONeGYAScANG KHANG GYONeGYAS",
      "bSIGN YAR TSHEScMAR TSHESbLETTER KAcKHAcGAcGHAcNGAcCAcCHAcJA"]),
    (0x0F49, [
      "aTIBETAN LETTER NYAcTTAcTTHAcDDAcDDHAcNNAcTAcTHAcDAcDHAcNAcPAcPHAcBAcBHAcMAcTSAcTSHAcDZA",
      "cDZHAcWAcZHAcZAc-AcYAcRAcLAcSHAcSSAcSAcHAcAcKSSAcFIXED-FORM RAcKKAcRRA"]),
    (0x0F71, [
      "aTIBETAN VOWEL SIGN AAdIdIIdUdUUdVOCALIC ReRReLeLLdEdEEdOdOObSIGN RJES SU NGA RO",
      "cRNAM BCADbVOWEL SIGN REVERSED IeIIbSIGN NYI ZLA NAA DAcSNA LDANbMARK HALANTAcPALUTA",
      "bSIGN LCI RTAGScYANG RTAGScLCE TSA CANcMCHU CANcGRU CAN RGYINGSdMED RGYINGS",
      "cINVERTED MCHU CANbSUBJOINED SIGN LCE TSA CANdMCHU CANdINVERTED MCHU CANcLETTER KAdKHA",
      "dGAdGHAdNGAdCAdCHAdJA"]),
    (0x0F99, [
      "aTIBETAN SUBJOINED LETTER NYAdTTAdTTHAdDDAdDDHAdNNAdTAdTHAdDAdDHAdNAdPAdPHAdBAdBHAdMA",
      "dTSAdTSHAdDZAdDZHAdWAdZHAdZAd-AdYAdRAdLAdSHAdSSAdSAdHAdAdKSSAdFIXED-FORM WAfYAfRA"]),
    (0x0FBE, [
      "aTIBETAN KU RU KHAdKHA BZHI MIG CANbCANTILLATION SIGN HEAVY BEATdLIGHT BEATdCANG TE-U",
      "dSBUB -CHALbSYMBOL DRIL BUcRDO RJEcPADMA GDANcRDO RJE RGYA GRAMcPHUR PAcNOR BU",
      "dBU NYIS -KHYILeGSUM -KHYILeBZHI -KHYIL"]),
    (0x0FCE, [
      "aTIBETAN SIGN RDEL NAG RDEL DKAReGSUMbMARK BSKA- SHOG GI MGO RGYAN",
      "cMNYAM YIG GI MGO RGYANcNYIS TSHEGcINITIAL BRDA RNYING YIG MGO MDUN MA",
      "cCLOSING BRDA RNYING YIG MGO SGAB MAaRIGHT-FACING SVASTI SIGNaLEFT-FACING SVASTI SIGN",
      "aRIGHT-FACING SVASTI SIGN WITH DOTSaLEFT-FACING SVASTI SIGN WITH DOTS",
      "aTIBETAN MARK LEADING MCHAN RTAGScTRAILING MCHAN RTAGS"]),
    (0x1000, [
      "aMYANMAR LETTER KAcKHAcGAcGHAcNGAcCAcCHAcJAcJHAcNYAcNNYAcTTAcTTHAcDDAcDDHAcNNAcTAcTHAcDA",
      "cDHAcNAcPAcPHAcBAcBHAcMAcYAcRAcLAcWAcSAcHAcLLAcAcSHAN AcIcIIcUcUUcEcMON EcOcAU",
      "bVOWEL SIGN TALL AAdAAdIdIIdUdUUdEdAIdMON IIeOdE ABOVEbSIGN ANUSVARAcDOT BELOWcVISARGA",
      "cVIRAMAcASATbCONSONANT SIGN MEDIAL YAeRAeWAeHAbLETTER GREAT SAbDIGIT ZEROcONEcTWOcTHREE",
      "cFOURcFIVEcSIXcSEVENcEIGHTcNINEbSIGN LITTLE SECTIONcSECTIONbSYMBOL LOCATIVEcCOMPLETED",
      "cAFOREMENTIONEDcGENITIVEbLETTER SHAcSSAcVOCALIC RdRRdLdLLbVOWEL SIGN VOCALIC ReRReLeLL",
      "bLETTER MON NGAdJHAdBBAdBBEbCONSONANT SIGN MON MEDIAL NAfMAfLAbLETTER SGAW KAREN SHA",
      "bVOWEL SIGN SGAW KAREN EUbTONE MARK SGAW KAREN HATHIfKE PHObLETTER WESTERN PWO KAREN THA",
      "fPWAbVOWEL SIGN WESTERN PWO KAREN EUgUEbSIGN WESTERN PWO KAREN TONE-1g2g3g4g5",
      "bLETTER EASTERN PWO KAREN NNAfYWAfGHWAbVOWEL SIGN GEBA KAREN IdKAYAH OEeUeEE",
      "bLETTER SHAN KAdKHAdGAdCAdZAdNYAdDAdNAdPHAdFAdBAdTHAdHAbCONSONANT SIGN SHAN MEDIAL WA",
      "bVOWEL SIGN SHAN AAeEeE ABOVEeFINAL YbSIGN SHAN TONE-2e3e5e6dCOUNCIL TONE-2f3",
      "eEMPHATIC TONEbLETTER RUMAI PALAUNG FAbSIGN RUMAI PALAUNG TONE-5bSHAN DIGIT ZEROdONEdTWO",
      "dTHREEdFOURdFIVEdSIXdSEVENdEIGHTdNINEbSIGN KHAMTI TONE-1e3bVOWEL SIGN AITON AeAI",
      "bSYMBOL SHAN ONEdEXCLAMATION"])]

end LogSieve.Pattern
