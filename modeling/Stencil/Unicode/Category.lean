import Stencil.Unicode.Ranges

/-!
# General categories

Every code point has exactly one general category. The table is a run list over the code space of
Unicode 17.0.
-/

namespace Stencil.Unicode

inductive Category where
  | uppercaseLetter
  | lowercaseLetter
  | titlecaseLetter
  | modifierLetter
  | otherLetter
  | nonspacingMark
  | spacingMark
  | enclosingMark
  | decimalNumber
  | letterNumber
  | otherNumber
  | connectorPunctuation
  | dashPunctuation
  | openPunctuation
  | closePunctuation
  | initialPunctuation
  | finalPunctuation
  | otherPunctuation
  | mathSymbol
  | currencySymbol
  | modifierSymbol
  | otherSymbol
  | spaceSeparator
  | lineSeparator
  | paragraphSeparator
  | control
  | format
  | surrogate
  | privateUse
  | unassigned
  deriving DecidableEq, Repr

namespace Category

def ofCode (code : List Char) : Category :=
  match code with
  | ['L', 'u'] => .uppercaseLetter
  | ['L', 'l'] => .lowercaseLetter
  | ['L', 't'] => .titlecaseLetter
  | ['L', 'm'] => .modifierLetter
  | ['L', 'o'] => .otherLetter
  | ['M', 'n'] => .nonspacingMark
  | ['M', 'c'] => .spacingMark
  | ['M', 'e'] => .enclosingMark
  | ['N', 'd'] => .decimalNumber
  | ['N', 'l'] => .letterNumber
  | ['N', 'o'] => .otherNumber
  | ['P', 'c'] => .connectorPunctuation
  | ['P', 'd'] => .dashPunctuation
  | ['P', 's'] => .openPunctuation
  | ['P', 'e'] => .closePunctuation
  | ['P', 'i'] => .initialPunctuation
  | ['P', 'f'] => .finalPunctuation
  | ['P', 'o'] => .otherPunctuation
  | ['S', 'm'] => .mathSymbol
  | ['S', 'c'] => .currencySymbol
  | ['S', 'k'] => .modifierSymbol
  | ['S', 'o'] => .otherSymbol
  | ['Z', 's'] => .spaceSeparator
  | ['Z', 'l'] => .lineSeparator
  | ['Z', 'p'] => .paragraphSeparator
  | ['C', 'c'] => .control
  | ['C', 'f'] => .format
  | ['C', 's'] => .surrogate
  | ['C', 'o'] => .privateUse
  | _ => .unassigned

/-- Runs of equal category over the code space. -/
def runLines : List String :=
  ["20CcZs3PoSc3PoPsPePoSmPoPd2PoaNd2Po3Sm2Po1aLuPsPoPeSkPcSk1aLlPsSmPeSm21CcZsPo4ScSoPoSkSoLoPiSm",
   "CfSoSkSoSm2NoSkLl2PoSkNoLoPf3NoPo17LuSm7Lu18LlSm8LlLuLlLuLlLuLlLuLlLuLlLuLlLuLlLuLlLuLlLuLlLuL",
   "lLuLlLuLlLuLlLuLlLuLlLuLlLuLlLuLlLuLlLuLlLuLlLuLlLuLlLuLlLuLlLuLlLu2LlLuLlLuLlLuLlLuLlLuLlLuLl",
   "LuLlLu2LlLuLlLuLlLuLlLuLlLuLlLuLlLuLlLuLlLuLlLuLlLuLlLuLlLuLlLuLlLuLlLuLlLuLlLuLlLuLlLuLlLuLlL",
   "uLlLuLl2LuLlLuLlLu3Ll2LuLlLuLl2LuLl3Lu2Ll4LuLl2LuLl3Lu3Ll2LuLl2LuLlLuLlLuLl2LuLlLu2LlLuLl2LuLl",
   "3LuLlLuLl2Lu2LlLoLu3Ll4LoLuLtLlLuLtLlLuLtLlLuLlLuLlLuLlLuLlLuLlLuLlLuLlLu2LlLuLlLuLlLuLlLuLlLu",
   "LlLuLlLuLlLuLlLu2LlLuLtLlLuLl3LuLlLuLlLuLlLuLlLuLlLuLlLuLlLuLlLuLlLuLlLuLlLuLlLuLlLuLlLuLlLuLl",
   "LuLlLuLlLuLlLuLlLuLlLuLlLuLlLuLlLuLlLuLlLuLlLuLlLuLlLu7Ll2LuLl2Lu2LlLuLl4LuLlLuLlLuLlLuLlLu45L",
   "l2Lo1aLl12Lm4SkcLmeSk5Lm7SkLmSkLm11Sk70MnLuLlLuLlLmSkLuLl2CnLm3LlPoLu4Cn2SkLuPo3LuCnLuCn2LuLl1",
   "1LuCn9Lu23LlLu2Ll3Lu3LlLuLlLuLlLuLlLuLlLuLlLuLlLuLlLuLlLuLlLuLlLuLlLu5LlLuLlSmLuLl2Lu2Ll33Lu30",
   "LlLuLlLuLlLuLlLuLlLuLlLuLlLuLlLuLlLuLlLuLlLuLlLuLlLuLlLuLlLuLlLuLlLuLlSo5Mn2MeLuLlLuLlLuLlLuLl",
   "LuLlLuLlLuLlLuLlLuLlLuLlLuLlLuLlLuLlLuLlLuLlLuLlLuLlLuLlLuLlLuLlLuLlLuLlLuLlLuLlLuLlLuLlLuLl2L",
   "uLlLuLlLuLlLuLlLuLlLuLlLu2LlLuLlLuLlLuLlLuLlLuLlLuLlLuLlLuLlLuLlLuLlLuLlLuLlLuLlLuLlLuLlLuLlLu",
   "LlLuLlLuLlLuLlLuLlLuLlLuLlLuLlLuLlLuLlLuLlLuLlLuLlLuLlLuLlLuLlLuLlLuLlLuLlLuLlLuLlLuLlLuLlLuLl",
   "LuLlLuLlLuLlLuLlLuLlLuLlLuLlLuLlCn26Lu2CnLm6Po29LlPoPd2Cn2SoScCn2dMnPdMnPo2MnPo2MnPoMn8Cn1bLo4",
   "Cn4Lo2PobCn6Cf3Sm2PoSc2Po2SobMnPoCf3Po20LoLmaLo15MnaNd4Po2LoMn63LoPoLo7MnCfSo6Mn2Lm2MnSo4Mn2Lo",
   "aNd3Lo2SoLoePoCnCfLoMn1eLo1bMn2Cn59LobMnLoeCnaNd21Lo9Mn2LmSo3PoLm2CnMn2Sc16Lo4MnLm9MnLm3MnLm5M",
   "n2CnfPoCn19Lo3Mn2CnPoCnbLo5Cn18LoSk7Lo2Cf5Cn9Mn29LoLm18MnCf20MnMc36LoMnMcMnLo3Mc8Mn4McMn2McLo7",
   "MnaLo2Mn2PoaNdPoLmfLoMn2McCn8Lo2Cn2Lo2Cn16LoCn7LoCnLo3Cn4Lo2CnMnLo3Mc4Mn2Cn2Mc2Cn2McMnLo8CnMc4",
   "Cn2LoCn3Lo2Mn2CnaNd2Lo2Sc6NoSoScLoPoMn2Cn2MnMcCn6Lo4Cn2Lo2Cn16LoCn7LoCn2LoCn2LoCn2Lo2CnMnCn3Mc",
   "2Mn4Cn2Mn2Cn3Mn3CnMn7Cn4LoCnLo7CnaNd2Mn3LoMnPoaCn2MnMcCn9LoCn3LoCn16LoCn7LoCn2LoCn5Lo2CnMnLo3M",
   "c5MnCn2MnMcCn2McMn2CnLofCn2Lo2Mn2CnaNdPoSc7CnLo6MnCnMn2McCn8Lo2Cn2Lo2Cn16LoCn7LoCn2LoCn5Lo2CnM",
   "nLoMcMnMc4Mn2Cn2Mc2Cn2McMn7Cn2MnMc4Cn2LoCn3Lo2Mn2CnaNdSoLo6NoaCnMnLoCn6Lo3Cn3LoCn4Lo3Cn2LoCnLo",
   "Cn2Lo3Cn2Lo3Cn3Lo3CncLo4Cn2McMn2Mc3Cn3McCn3McMn2CnLo6CnMceCnaNd3No6SoScSo5CnMn3McMn8LoCn3LoCn1",
   "7LoCn10Lo2CnMnLo3Mn4McCn3MnCn4Mn7Cn2MnCn3LoCn2Lo2Cn2Lo2Mn2CnaNd7CnPo7NoSoLoMn2McPo8LoCn3LoCn17",
   "LoCnaLoCn5Lo2CnMnLoMcMn5McCnMn2McCn2Mc2Mn7Cn2Mc5Cn3LoCn2Lo2Mn2CnaNdCn2LoMccCn2Mn2Mc9LoCn3LoCn2",
   "9Lo2MnLo3Mc4MnCn3McCn3McMnLoSo4Cn3LoMc7No3Lo2Mn2CnaNd9NoSo6LoCnMn2McCn12Lo3Cn18LoCn9LoCnLo2Cn7",
   "Lo3CnMn4Cn3Mc3MnCnMnCn8Mc6CnaNd2Cn2McPocCn30LoMn2Lo7Mn4CnSc6LoLm8MnPoaNd2Po25Cn2LoCnLoCn5LoCn1",
   "8LoCnLoCnaLoMn2Lo9MnLo2Cn5LoCnLmCn7MnCnaNd2Cn4Lo20CnLo3SofPoSoPo3So2Mn6SoaNdaNoSoMnSoMnSoMnPsP",
   "ePsPe2Mc8LoCn24Lo4CneMnMc5MnPo2Mn5LobMnCn24MnCn8SoMn6SoCn2So5Po4So2Po25Cn2bLo2Mc4MnMc6MnMc2Mn2",
   "Mc2MnLoaNd6Po6Lo2Mc2Mn4Lo3MnLo3Mc2Lo7Mc3Lo4MndLoMn2Mc2Mn6McMnLoMcaNd3McMn2So26LuCnLu5CnLu2Cn2b",
   "LlPoLm3Ll149LoCn4Lo2Cn7LoCnLoCn4Lo2Cn29LoCn4Lo2Cn21LoCn4Lo2Cn7LoCnLoCn4Lo2CnfLoCn39LoCn4Lo2Cn4",
   "3Lo2Cn3Mn9Po14No3Cn10LoaSo6Cn56Lu2Cn6Ll2CnPd26cLoSoPo11LoZs1aLoPsPe3Cn4bLo3Po3Nl8Lo7Cn12Lo3MnM",
   "c9Cn13Lo2MnMc2Po9Cn12Lo2MncCndLoCn3LoCn2MncCn34Lo2MnMc7Mn8McMn2McbMn3PoLm3PoScLoMn2CnaNd6CnaNo",
   "6Cn6PoPd4Po3MnCfMnaNd6Cn23LoLm35Lo7Cn5Lo2Mn22LoMnLo5Cn46LoaCn1fLoCn3Mn4Mc2Mn3Mc4Cn2McMn6Mc3Mn4",
   "CnSo3Cn2PoaNd1eLo2Cn5LobCn2cLo4Cn1aLo6CnaNdNo3Cn22So17Lo2Mn2McMn2Cn2Po35LoMcMnMc7MnCnMnMcMn2Mc",
   "8Mn6McaMn2CnMnaNd6CnaNd6Cn7PoLm6Po2CneMnMe1fMn2CncMn14Cn4MnMc2fLoMnMc5MnMcMn5McMn2Mc8LoCn2PoaN",
   "d7PoaSo9Mn9So3Po2MnMc1eLoMc4Mn2Mc2MnMc3Mn2LoaNd2cLoMnMc2Mn3McMnMc3Mn2Mc8Cn4Po24Lo8Mc8Mn2Mc2Mn3",
   "Cn5PoaNd3Cn3LoaNd1eLo6Lm2Po9LlLuLl5Cn2bLu2Cn3Lu8Po8Cn3MnPodMnMc7Mn4LoMn6LoMn2LoMc2MnLo5Cn2cLl3",
   "fLmdLlLm22Ll25Lm40MnLuLlLuLlLuLlLuLlLuLlLuLlLuLlLuLlLuLlLuLlLuLlLuLlLuLlLuLlLuLlLuLlLuLlLuLlLu",
   "LlLuLlLuLlLuLlLuLlLuLlLuLlLuLlLuLlLuLlLuLlLuLlLuLlLuLlLuLlLuLlLuLlLuLlLuLlLuLlLuLlLuLlLuLlLuLl",
   "LuLlLuLlLuLlLuLlLuLlLuLlLuLlLuLlLuLlLuLlLuLlLuLlLuLlLuLlLuLlLuLlLuLlLuLlLuLlLuLlLuLlLuLlLuLlLu",
   "LlLuLlLuLlLuLlLuLlLuLlLuLlLuLlLuLlLu9LlLuLlLuLlLuLlLuLlLuLlLuLlLuLlLuLlLuLlLuLlLuLlLuLlLuLlLuL",
   "lLuLlLuLlLuLlLuLlLuLlLuLlLuLlLuLlLuLlLuLlLuLlLuLlLuLlLuLlLuLlLuLlLuLlLuLlLuLlLuLlLuLlLuLlLuLlL",
   "uLlLuLlLuLlLuLlLuLlLuLlLuLlLuLlLuLlLuLlLuLlLu9Ll8Lu6Ll2Cn6Lu2Cn8Ll8Lu8Ll8Lu6Ll2Cn6Lu2Cn8LlCnLu",
   "CnLuCnLuCnLu8Ll8LueLl2Cn8Ll8Lt8Ll8Lt8Ll8Lt5LlCn2Ll4LuLtSkLl3Sk3LlCn2Ll4LuLt3Sk4Ll2Cn2Ll4LuCn3S",
   "k8Ll5Lu3Sk2Cn3LlCn2Ll4LuLt2SkCnbZs5Cf6Pd2PoPiPfPs2PiPfPsPi8PoZlZp5CfZs9PoPiPf4Po2Pc3PoSmPsPebP",
   "oSmPoPcaPoZs5CfCnaCfNoLm2Cn6No3SmPsPeLmaNo3SmPsPeCndLm3Cn22SceCndMn4MeMn3MecMnfCn2SoLu4SoLu2So",
   "Ll3Lu2Ll3LuLlSoLu2SoSm5Lu6SoLuSoLuSoLuSo4LuSoLl4LuLl4LoLl2So2Ll2Lu5SmLu4LlSoSm2SoLlSo10No23NlL",
   "uLl4NlNo2So4Cn5Sm5So2Sm4SoSm2SoSm2SoSm7SoSm1fSo2Sm2SoSmSoSm1fSo10cSm8SoPsPePsPe14So2Sm7SoPsPe5",
   "1SoSm1eSo19Sm28So6Sm48So16CnbSo15Cn3cNo4eSo16Nob7SoSm9SoSm36So8Sm6fSoSmf8SoPsPePsPePsPePsPePsP",
   "ePsPePsPe1eNo2cSo5SmPsPe1fSmPsPePsPePsPePsPePsPe10Sm100So83SmPsPePsPePsPePsPePsPePsPePsPePsPeP",
   "sPePsPePsPe3fSmPsPePsPe20SmPsPe102Sm30So15Sm2So6Sm27So2Cn8aSo30Lu30LlLuLl3Lu2LlLuLlLuLlLuLl4Lu",
   "LlLu2LlLu6Ll2Lm3LuLlLuLlLuLlLuLlLuLlLuLlLuLlLuLlLuLlLuLlLuLlLuLlLuLlLuLlLuLlLuLlLuLlLuLlLuLlLu",
   "LlLuLlLuLlLuLlLuLlLuLlLuLlLuLlLuLlLuLlLuLlLuLlLuLlLuLlLuLlLuLlLuLlLuLlLuLlLuLlLuLlLuLlLuLlLuLl",
   "LuLlLuLlLuLlLuLlLuLlLuLlLu2Ll6SoLuLlLuLl3MnLuLl5Cn4PoNo2Po26LlCnLl5CnLl2Cn38Lo7CnLmPoeCnMn17Lo",
   "9Cn7LoCn7LoCn7LoCn7LoCn7LoCn7LoCn7LoCn7LoCn20Mn2PoPiPfPiPf3PoPiPfPoPiPf9PoPd2PoPdPoPiPf2PoPiPf",
   "PsPePsPePsPePsPe5PoLmaPo2Pd4PoPdPoPsdPo2So3PoPsPePsPePsPePsPePd22Cn1aSoCn59SocCnd6So1aCn10SoZs",
   "3PoSoLmLoNlPsPePsPePsPePsPePsPe2SoPsPePsPePsPePsPePdPs2PeSo9Nl4Mn2McPd5Lm2So3NlLmLoPo2SoCn56Lo",
   "2Cn2Mn2Sk2LmLoPd5aLoPo3LmLo5Cn2bLoCn5eLoCn2So4NoaSo20Lo26So9CnSo10Lo1fSoCnaNo1eSo8NoSofNo20Soa",
   "No27SofNo140So19c0Lo40So5215LoLm477Lo3Cn37So9Cn28Lo6Lm2Po10cLoLm3Po10LoaNd2Lo14CnLuLlLuLlLuLlL",
   "uLlLuLlLuLlLuLlLuLlLuLlLuLlLuLlLuLlLuLlLuLlLuLlLuLlLuLlLuLlLuLlLuLlLuLlLuLlLuLlLoMn3MePoaMnPoL",
   "mLuLlLuLlLuLlLuLlLuLlLuLlLuLlLuLlLuLlLuLlLuLlLuLlLuLlLuLl2Lm2Mn46LoaNl2Mn6Po8Cn17Sk9Lm2SkLuLlL",
   "uLlLuLlLuLlLuLlLuLlLu3LlLuLlLuLlLuLlLuLlLuLlLuLlLuLlLuLlLuLlLuLlLuLlLuLlLuLlLuLlLuLlLuLlLuLlLu",
   "LlLuLlLuLlLuLlLuLlLuLlLuLlLuLlLuLlLuLlLuLlLuLlLuLlLuLlLm8LlLuLlLuLl2LuLlLuLlLuLlLuLlLuLlLm2SkL",
   "uLlLuLlLoLuLlLu3LlLuLlLuLlLuLlLuLlLuLlLuLlLuLlLuLlLuLlLuLl5LuLl5LuLlLuLlLuLlLuLlLuLlLuLlLuLlLu",
   "Ll4LuLlLuLl2LuLlLuLlLuLlLuLlLuLlLuLlLuLlLuLlLu14Cn4LmLuLlLo2LmLl7LoMn3LoMn4LoMn17Lo2Mc2MnMc4So",
   "Mn3Cn6No2SoScSo6Cn34Lo4Po8Cn2Mc32Lo10Mc2Mn8Cn2PoaNd6Cn12Mn6Lo3PoLoPo2LoMnaNd1cLo8Mn2Po17LobMn2",
   "McbCnPo1dLo3Cn3MnMc2fLoMn2Mc4Mn2Mc2Mn3McdPoCnLmaNd4Cn2Po5LoMnLm9LoaNd5LoCn29Lo6Mn2Mc2Mn2Mc2Mn9",
   "Cn3LoMn8LoMnMc2CnaNd2Cn4Po10LoLm6Lo3SoLoMcMnMc32LoMnLo3Mn2Lo2Mn5Lo2MnLoMnLo18Cn2LoLm2PobLoMc2M",
   "n2Mc2PoLo2LmMcMnaCn6Lo2Cn6Lo2Cn6Lo9Cn7LoCn7LoCn2bLlSk4Lm9LlLm2Sk4Cn50Ll23Lo2McMn2McMn2McPoMcMn",
   "2CnaNd6Cn2ba4LocCn17Lo4Cn31Lo4Cn800Cs1900Co16eLo2Cn6aLo26Cn7LlcCn5Ll5CnLoMnaLoSmdLoCn5LoCnLoCn",
   "2LoCn2LoCn6cLo11Sk10So16bLoPePs10So40Lo2So36Lo8So20CncLoSc3So10Mn7PoPsPePo6Cn10MnPo2Pd2PcPsPeP",
   "sPePsPePsPePsPePsPePsPePsPe2PoPsPe4Po3Pc3PoCn4PoPdPsPePsPePsPe3PoSmPd3SmCnPoSc2Po4Cn5LoCn87Lo2",
   "CnCfCn3PoSc3PoPsPePoSmPoPd2PoaNd2Po3Sm2Po1aLuPsPoPeSkPcSk1aLlPsSmPeSmPsPePoPsPe2PoaLoLm2dLo2Lm",
   "1fLo3Cn6Lo2Cn6Lo2Cn6Lo2Cn3Lo3Cn2ScSmSkSo2ScCnSo4Sm2SoaCn3Cf2So2CncLoCn1aLoCn13LoCn2LoCnfLo2Cne",
   "Lo22Cn7bLo5Cn3Po4Cn2dNo3Cn9So35Nl4No11So2No3SoCndSo3CnSo2fCn2dSoMn82Cn1dLo3Cn31LofCnMn1bNo4Cn2",
   "0Lo4No9Cn14LoNl8LoNl5Cn26Lo5Mn5Cn1eLoCnPo24Lo4Cn8LoPo5Nl2aCn28Lu28Ll4eLo2CnaNd6Cn24Lu4Cn24Ll4C",
   "n28Lo8Cn34LobCnPobLuCnfLuCn7LuCn2LuCnbLlCnfLlCn7LlCn2Ll3Cn34LocCn137Lo9Cn16LoaCn8Lo18Cn6LmCn2a",
   "LmCn9Lm45Cn6Lo2CnLoCn2cLoCn2Lo3CnLo2Cn17LoCnPo8No17Lo2So7No1fLo8Cn9No30Cn13LoCn2Lo5Cn5No16Lo6N",
   "o3CnPo1aLo5CnPo1aLo26Cn38Lo4Cn2No2Lo10No2Cn2eNoLo3MnCn2Mn5Cn4Mn4LoCn3LoCn1dLo2Cn3Mn4CnMn9No7Cn",
   "9Po7Cn1dLo2NoPo1dLo3No20Cn8LoSo1cLo2Mn4Cn5No7Po9Cn36Lo3Cn7Po16Lo2Cn8No13Lo5Cn8No12Lo7Cn4PocCn7",
   "No50Cn49Lo37Cn33LudCn33Ll7Cn6No24Lo4Mn8CnaNd6CnaNd4LoLmLo16Lu3Cn5MnPdLm16Ll8Cn2Smd0Cn1fNoCn2aL",
   "oCn2MnPd2Cn2Lo10Cn3LoLm2Lo8CnPo8So21Cn6Mn1dLoaNoLo8Cn16LobMn4No5Po16Cn12Lo4Mn4Po26Cn15Lo7No14C",
   "n17Lo9CnMcMnMc35LofMn7Po4Cn14NoaNdMn2Lo2MnLo9Cn3MnMc2dLo3Mc4Mn2Mc2Mn2PoCf4PoMnaCnCf2Cn19Lo7Cna",
   "Nd6Cn3Mn24Lo5MnMc8MnCnaNd4PoLo2McLo8Cn23LoMn2PoLo9Cn2MnMc30Lo3Mc9Mn2Mc4Lo4Po4MnPoMcMnaNdLoPoLo",
   "3PoCn14NobCn12LoCn19Lo3Mc3Mn2McMnMc2Mn6PoMn2LoMn3eCn7LoCnLoCn4LoCnfLoCnaLoPo6Cn2fLoMn3Mc8Mn5Cn",
   "aNd6Cn2Mn2McCn8Lo2Cn2Lo2Cn16LoCn7LoCn2LoCn5LoCn2MnLo2McMn4Mc2Cn2Mc2Cn3Mc2CnLo6CnMc5Cn5Lo2Mc2Cn",
   "7Mn3Cn5MnbCnaLoCnLo2CnLoCn26LoCnLo3Mc6MnCnMc2CnMcCn4McCn2McMnMcMnLoMnLo2PoCn2Po8Cn2Mn1dCn35Lo3",
   "Mc8Mn2Mc3MnMcMn4Lo5PoaNd2PoCnPoMn3Lo1eCn30Lo3Mc6MnMcMn4Mc2MnMc2Mn2LoPoLo8CnaNda6Cn2fLo3Mc4Mn2C",
   "n4Mc2MnMc2Mn17Po4Lo2Mn22Cn30Lo3Mc8Mn2McMnMc2Mn3PoLobCnaNd6CndPo13Cn2bLoMnMcMn2Mc6MnMcMnLoPo6Cn",
   "aNd6Cn14Nd1cCn1bLo2CnMnMcMn2Mc4MnMc5Mn4CnaNd2No3PoSo7Lob9Cn2cLo3Mc9MnMc2MnPo64Cn20Lu20LlaNd9No",
   "cCn8Lo2CnLo2Cn8LoCn2LoCn18Lo6McCn2Mc2Cn2MnMcMnLoMcLoMcMn3Po9CnaNd46Cn8Lo2Cn27Lo3Mc4Mn2Cn2Mn4Mc",
   "MnLoPoLoMc1bCnLoaMn28Lo6MnMcLo4Mn8PoMn8CnLo6Mn2Mc3Mn2eLodMnMc2Mn3PoLo5PodCn49Lo7CnaPo56CnMnMc3",
   "MnMcMnMc58Cn21LoPoeCnaNd6Cn9LoCn25LoMc7MnCn6MnMcMnLo5PoaCnaNd13No3Cn2Po1eLo2Cn16MnCnMc7MnMc2Mn",
   "Mc2Mn49Cn7LoCn2LoCn26Lo6Mn3CnMnCn2MnCn7MnLoMn8CnaNd6Cn6LoCn2LoCn20Lo5McCn2MnCn2McMnMcMnLo7CnaN",
   "d6Cn29LoLm2Lo4CnaNdf6Cn13Lo2Mn2Mc2Po7Cn2MnLoMcdLoCn22Lo2Mc5Mn3Cn2McMnMcMndPoaNdMn55CnLofCn15No",
   "8So4Sc11SodCnPo39aLo66Cn6fNlCn5PobCnc4Loa4cCn61Lo2PodCn430Lo10CfMn6LofMnaCnf9bLo5Cn247Lo1ab9Cn",
   "1eLocMn3Mc3MnaNd6c6Cn239Lo7Cn1fLoCnaNd4Cn2Po4fLoCnaNd6Cn1eLo2Cn5MnPoaCn30Lo7Mn5Po4So4LmPoSoaCn",
   "aNdCn7NoCn15Lo5Cn13Lo1b0Cn3Lm28Lo2Lm3PoaNdc6Cn20Lu20Ll17No4Po5Cn19Lu2Cn19Ll2cCn4bLo4CnMnLo37Mc",
   "7Cn4MndLm40Cn2LmPoLmMnbCn2Mc2Lm3Nl9Cn1cd6Lo29Cn20Lo61Cn73Lo21fdCn4LmCn7LmCn2LmCn123LofCnLo1dCn",
   "3Lo2CnLoeCn4Lo8Cn18cLo904Cn6bLo5CndLo3Cn9Lo7CnaLo2CnSo2MnPo4Cff5cCnf0SoaNd3So3Cn1b4So6Cn17SofC",
   "n10SoSmfCn2eMn2Cn17Mn9Cn74So3cCnf6SoaCn27So2Cn3cSo2Mc3Mn3So6Mc8Cf8Mn2So7Mn1eSo4Mn3dSo15Cn42So3",
   "MnSo7aCn14NocCn14NocCn57So9Cn19No87Cn1aLu1aLl1aLu7LlCn12Ll1aLu1aLlLuCn2Lu2CnLu2Cn2Lu2Cn4LuCn8L",
   "u4LlCnLlCn7LlCnbLl1aLu1aLl2LuCn4Lu2Cn8LuCn7LuCn1aLl2LuCn4LuCn5LuCnLu3Cn7LuCn1aLl1aLu1aLl1aLu1a",
   "Ll1aLu1aLl1aLu1aLl1aLu1aLl1aLu1cLl2Cn19LuSm19LlSm6Ll19LuSm19LlSm6Ll19LuSm19LlSm6Ll19LuSm19LlSm",
   "6Ll19LuSm19LlSm6LlLuLl2Cn32Nd200So37Mn4So32Mn8SoMneSoMn2So5PofCn5MnCnfMn450CnaLlLo14Ll6Cn6Lld5",
   "Cn7MnCn11Mn2Cn7MnCn2MnCn5Mn5Cn3eLm21CnMn70Cn2dLo3Cn7Mn7Lm2CnaNd4CnLoSo140Cn1eLoMn11Cn2cLo4MnaN",
   "d5CnSc1d0Cn1bLoLm4MnaNdd6Cn1eLo2MnLoaNd4CnPoc0Cn1fLoCn3LoMn2LoMn7Lo2Mn5LoMn8CnLoLme0Cn7LoCn4Lo",
   "Cn2LoCnfLoCnc5Lo2Cn9No7Mn29Cn22Lu22Ll7MnLm4CnaNd4Cn2Po311Cn3bNoSo3NoSc4No4cCn2dNoSofNoc2Cn4LoC",
   "n1bLoCn2LoCnLo2CnLoCnaLoCn4LoCnLoCnLo6CnLo4CnLoCnLoCnLoCn3LoCn2LoCnLo2CnLoCnLoCnLoCnLoCnLoCn2L",
   "oCnLo2Cn4LoCn7LoCn4LoCn4LoCnLoCnaLoCn11Lo5Cn3LoCn5LoCn11Lo34Cn2Sm10eCn2cSo4Cn64SocCnfSo2CnfSoC",
   "nfSoCn25SoaCndNoa1So38Cn1dSodCn2cSo4Cn9So7Cn2SoeCn6So9aCnfbSo5Sk2d9So3Cn11So3CndSo3CndaSo6CncS",
   "o4CnSofCncSo4Cn38So8CnaSo6Cn28So8Cn1eSo2CncSo4Cn2SoeCn9Sm27Cn158So8CneSo2CndSo3CnbSo3Cn39SoCnS",
   "o4Cn10So2CncSo4CnaSo7Cn93SoCn5cSoaNdSo405Cna6e0Lo20Cn111eLo2Cn168eLo2Cn1d31LofCn26eLo9a2Cn21eL",
   "o5e2Cn134bLo5Cn212aLoacb87CnCf1eCn60Cf80Cnf0Mnfe10CnfffeCo2CnfffeCo2Cn"]

def runs : List (Nat × Category) :=
  (readRuns 2 none [] (runLines.flatMap String.toList)).map fun (n, code) => (n, ofCode code)

def of (c : Char) : Category :=
  findRun .unassigned c.toNat runs

def isLetter : Category → Bool
  | .uppercaseLetter | .lowercaseLetter | .titlecaseLetter | .modifierLetter | .otherLetter => true
  | _ => false

def isMark : Category → Bool
  | .nonspacingMark | .spacingMark | .enclosingMark => true
  | _ => false

def isNumber : Category → Bool
  | .decimalNumber | .letterNumber | .otherNumber => true
  | _ => false

def isPunctuation : Category → Bool
  | .connectorPunctuation | .dashPunctuation | .openPunctuation | .closePunctuation
  | .initialPunctuation | .finalPunctuation | .otherPunctuation => true
  | _ => false

def isSymbol : Category → Bool
  | .mathSymbol | .currencySymbol | .modifierSymbol | .otherSymbol => true
  | _ => false

def isSeparator : Category → Bool
  | .spaceSeparator | .lineSeparator | .paragraphSeparator => true
  | _ => false

/-- Controls, formats, surrogates, private use and unassigned code points. -/
def isOther : Category → Bool
  | .control | .format | .surrogate | .privateUse | .unassigned => true
  | _ => false

end Category

end Stencil.Unicode
