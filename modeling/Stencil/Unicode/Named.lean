import Stencil.Unicode.Age
import Stencil.Unicode.Break

/-!
# Properties by name

The names under which a pattern may ask for a set of characters: a general category or a group of
them, a script, a binary property, a break class or an age. Names are compared without regard to
case, spaces, hyphens, underscores and a leading `is`.
-/

namespace Stencil.Unicode

abbrev CharTest := Char → Bool

/-- The form of a name under which names are compared. The one-letter rest of `isc` is kept whole, so
that it does not name a category. -/
def looseName (name : List Char) : String :=
  let drop := match name with
    | i :: s :: _ => (i = 'i' || i = 'I') && (s = 's' || s = 'S')
    | _ => false
  let rest := if drop then name.drop 2 else name
  let kept := rest.filterMap fun c =>
    if c = ' ' || c = '_' || c = '-' || 0x7f < c.toNat then none else some c.toLower
  if drop && kept == ['c'] then "isc" else String.ofList kept

/-! ### General categories -/

def categoryNames : List (List String × Category) :=
  [(["lu", "uppercaseletter"], .uppercaseLetter), (["ll", "lowercaseletter"], .lowercaseLetter),
   (["lt", "titlecaseletter"], .titlecaseLetter), (["lm", "modifierletter"], .modifierLetter),
   (["lo", "otherletter"], .otherLetter), (["mn", "nonspacingmark"], .nonspacingMark),
   (["mc", "spacingmark"], .spacingMark), (["me", "enclosingmark"], .enclosingMark),
   (["nd", "decimalnumber", "digit"], .decimalNumber), (["nl", "letternumber"], .letterNumber),
   (["no", "othernumber"], .otherNumber), (["pc", "connectorpunctuation"], .connectorPunctuation),
   (["pd", "dashpunctuation"], .dashPunctuation), (["ps", "openpunctuation"], .openPunctuation),
   (["pe", "closepunctuation"], .closePunctuation), (["pi", "initialpunctuation"], .initialPunctuation),
   (["pf", "finalpunctuation"], .finalPunctuation), (["po", "otherpunctuation"], .otherPunctuation),
   (["sm", "mathsymbol"], .mathSymbol), (["sc", "currencysymbol"], .currencySymbol),
   (["sk", "modifiersymbol"], .modifierSymbol), (["so", "othersymbol"], .otherSymbol),
   (["zs", "spaceseparator"], .spaceSeparator), (["zl", "lineseparator"], .lineSeparator),
   (["zp", "paragraphseparator"], .paragraphSeparator), (["cc", "control", "cntrl"], .control),
   (["cf", "format"], .format), (["co", "privateuse"], .privateUse),
   (["cn", "unassigned"], .unassigned)]

def categoryGroups : List (List String × (Category → Bool)) :=
  [(["l", "letter"], Category.isLetter),
   (["lc", "casedletter"], fun k => k == .uppercaseLetter || k == .lowercaseLetter || k == .titlecaseLetter),
   (["m", "mark", "combiningmark"], Category.isMark),
   (["n", "number"], Category.isNumber),
   (["p", "punctuation", "punct"], Category.isPunctuation),
   (["s", "symbol"], Category.isSymbol),
   (["z", "separator"], Category.isSeparator),
   (["c", "other"], Category.isOther),
   (["any"], fun _ => true),
   (["assigned"], fun k => k != .unassigned)]

/-- The category of a character for patterns. -/
def knownCategory (c : Char) : Category :=
  if isLater c then .unassigned else Category.of c

def categoryTest? (name : String) : Option CharTest :=
  if name == "ascii" then some fun c => c.toNat < 0x80
  else match categoryNames.find? (·.1.contains name) with
  | some (_, k) => some fun c => knownCategory c == k
  | none => (categoryGroups.find? (·.1.contains name)).map fun (_, p) c => p (knownCategory c)

/-! ### Scripts -/

/-- Scripts that no pattern may ask for: that of code points without a script, and those that came
with later characters. -/
def unknownScripts : List String :=
  ["Zzzz", "Sidt", "Tols", "Berf", "Tayo"]

def scriptNamed? (name : String) : Option Script :=
  ((Script.names.filter fun (code, _) => !unknownScripts.contains code).find? fun (code, names) =>
      looseName code.toList == name || (names.splitOn " ").any (looseName ·.toList == name)).map
    fun (code, _) => ⟨code⟩

def scriptTest (s : Script) : CharTest :=
  known (Script.of · == s)

/-! ### Binary properties -/

/-- Code points that begin identifiers for the sake of older versions. -/
def otherIdStart : List Range := ranges ["1885-1886 2118 212e 309b-309c"]

/-- Code points that continue identifiers for the sake of older versions. -/
def otherIdContinue : List Range := ranges ["b7 387 1369-1371 19da 200c-200d 30fb ff65"]

def isIdStart (c : Char) : Bool :=
  let k := Category.of c
  (k.isLetter || k == .letterNumber || inRanges otherIdStart c)
    && c.toNat != 0x2e2f

def isIdContinue (c : Char) : Bool :=
  let k := Category.of c
  isIdStart c || k == .nonspacingMark || k == .spacingMark || k == .decimalNumber
    || k == .connectorPunctuation
    || inRanges otherIdContinue c

/-- Code points that begin identifiers only before normalisation. -/
def notXidStart : List Range :=
  ranges ["37a e33 eb3 309b-309c fc5e-fc63 fdfa-fdfb fe70 fe72 fe74 fe76 fe78 fe7a fe7c fe7e ff9e-ff9f"]

/-- Code points that continue identifiers only before normalisation. -/
def notXidContinue : List Range :=
  ranges ["37a 309b-309c fc5e-fc63 fdfa-fdfb fe70 fe72 fe74 fe76 fe78 fe7a fe7c fe7e"]

def mathRanges : List Range := (listed? "math").getD []

/-- Binary properties that are computed from others. -/
def derivedTests : List (List String × CharTest) :=
  [(["alphabetic", "alpha"], isAlphabetic),
   (["lowercase", "lower"], isLowercase),
   (["uppercase", "upper"], isUppercase),
   (["whitespace", "wspace", "space"], isBlank),
   (["cased"], isCased),
   (["caseignorable", "ci"], isCaseIgnorable),
   (["graphemeextend", "grext"], isGraphemeExtend),
   (["graphemebase", "grbase"], fun c =>
      let k := Category.of c
      !(k.isOther || k == .lineSeparator || k == .paragraphSeparator || isGraphemeExtend c)),
   (["otheralphabetic", "oalpha"], fun c =>
      isAlphabetic c && !(Category.of c).isLetter && Category.of c != .letterNumber),
   (["othergraphemeextend", "ogrext"], inRanges otherGraphemeExtend),
   (["otherlowercase", "olower"], inRanges otherLowercase),
   (["otheruppercase", "oupper"], inRanges otherUppercase),
   (["othermath", "omath"], fun c => inRanges mathRanges c && Category.of c != .mathSymbol),
   (["otheridstart", "oids"], inRanges otherIdStart),
   (["otheridcontinue", "oidc"], inRanges otherIdContinue),
   (["idstart", "ids"], isIdStart),
   (["idcontinue", "idc"], isIdContinue),
   (["xidstart", "xids"], fun c => isIdStart c && !inRanges notXidStart c),
   (["xidcontinue", "xidc"], fun c => isIdContinue c && !inRanges notXidContinue c)]

def binaryTest? (name : String) : Option CharTest :=
  match derivedTests.find? (·.1.contains name) with
  | some (_, p) => some (known p)
  | none => (listed? name).map inRanges

/-! ### Queries -/

/-- The characters that a single name asks for. A few short names stand for a category although a
property has them too. -/
def namedTest? (name : List Char) : Option CharTest :=
  let loose := looseName name
  let binary := if ["cf", "sc", "lc"].contains loose then none else binaryTest? loose
  binary <|> categoryTest? loose <|> (scriptNamed? loose).map scriptTest

def classTest? {α : Type} [BEq α] (names : List (List String × α)) (of : Char → α) (name : String) :
    Option CharTest :=
  (names.find? (·.1.contains name)).map fun (_, k) c => of c == k

def valueTest? (property value : List Char) : Option CharTest :=
  let value := looseName value
  match looseName property with
  | "gc" | "generalcategory" => categoryTest? value
  | "sc" | "script" => (scriptNamed? value).map scriptTest
  | "scx" | "scriptextensions" => (scriptNamed? value).map fun s => known s.usedWith
  | "age" => Age.test? value
  | "gcb" | "graphemeclusterbreak" => classTest? GraphemeBreak.names GraphemeBreak.of value
  | "wb" | "wordbreak" => classTest? WordBreak.names WordBreak.of value
  | "sb" | "sentencebreak" => classTest? SentenceBreak.names SentenceBreak.of value
  | _ => none

end Stencil.Unicode
