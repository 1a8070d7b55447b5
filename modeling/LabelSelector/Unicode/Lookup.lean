import LabelSelector.Unicode.Age
import LabelSelector.Unicode.Boundary
import LabelSelector.Unicode.ScriptExtension

/-! # Properties by name

  Names of properties and of their values are compared loosely: case, blanks,
  hyphens, underscores, characters beyond ASCII and a leading "is" do not count.

  A query asks for a binary property, a category or a script by its name alone, or
  for a value of a property. Properties that the standard knows and that are not
  kept here have no values.
-/

namespace LabelSelector.Unicode

/-- A property asked for by name. -/
inductive Query where
  /-- A category, a script or a binary property. -/
  | named (name : String)
  /-- A value of a property. -/
  | valued (property value : String)
  deriving DecidableEq, Repr

/-- Why a query has no answer. -/
inductive Query.Error where
  /-- There is no such property. -/
  | noProperty
  /-- The property has no such value. -/
  | noValue
  deriving DecidableEq, Repr

namespace Query

/-! ### Names -/

/-- A name without a leading "is" in any case. -/
def dropIs : List Char → List Char × Bool
  | a :: b :: rest =>
    if a.toLower = 'i' ∧ b.toLower = 's' then (rest, true) else (a :: b :: rest, false)
  | cs => (cs, false)

/-- The loose form of a name. The short name of ISO comments is the one name in
    which a leading "is" counts. -/
def normalise (name : String) : String :=
  let (cs, dropped) := dropIs name.toList
  let kept := cs.filter fun c => c.toNat < 0x80 && c != ' ' && c != '_' && c != '-'
  let cs := kept.map Char.toLower
  if dropped && cs == ['c'] then "isc" else String.ofList cs

/-- Normalised names of properties that are not binary, or not kept here. -/
def otherProperties : List String := [
  "age", "bc", "bidiclass", "bidimirroringglyph", "bidipairedbracket", "bidipairedbrackettype",
  "blk", "block", "bmg", "bpb", "bpt", "canonicalcombiningclass", "casefolding", "ccc", "ce",
  "cf", "changeswhennfkccasefolded", "cjkaccountingnumeric", "cjkcompatibilityvariant",
  "cjkiicore", "cjkirggsource", "cjkirghsource", "cjkirgjsource", "cjkirgkpsource",
  "cjkirgksource", "cjkirgmsource", "cjkirgssource", "cjkirgtsource", "cjkirguksource",
  "cjkirgusource", "cjkirgvsource", "cjkothernumeric", "cjkprimarynumeric", "cjkrsunicode",
  "compex", "compositionexclusion", "cwkcf", "decompositionmapping", "decompositiontype", "dm",
  "dt", "ea", "eastasianwidth", "equideo", "equivalentunifiedideograph", "expandsonnfc",
  "expandsonnfd", "expandsonnfkc", "expandsonnfkd", "fcnfkc", "fcnfkcclosure",
  "fullcompositionexclusion", "gc", "gcb", "generalcategory", "graphemeclusterbreak",
  "hangulsyllabletype", "hst", "incb", "indicconjunctbreak", "indicpositionalcategory",
  "indicsyllabiccategory", "inpc", "insc", "isc", "jamoshortname", "jg", "joininggroup",
  "joiningtype", "jsn", "jt", "kaccountingnumeric", "kcompatibilityvariant", "kehcat",
  "kehdesc", "kehhg", "kehifao", "kehjsesh", "kehnomirror", "kehnorotate", "kiicore",
  "kirggsource", "kirghsource", "kirgjsource", "kirgkpsource", "kirgksource", "kirgmsource",
  "kirgssource", "kirgtsource", "kirguksource", "kirgusource", "kirgvsource", "kothernumeric",
  "kprimarynumeric", "krsunicode", "lb", "lc", "linebreak", "lowercasemapping", "na", "na1",
  "name", "namealias", "nfcqc", "nfcquickcheck", "nfdqc", "nfdquickcheck", "nfkccasefold",
  "nfkccf", "nfkcqc", "nfkcquickcheck", "nfkcscf", "nfkcsimplecasefold", "nfkdqc",
  "nfkdquickcheck", "nt", "numerictype", "numericvalue", "nv", "ocomment", "sb", "sc", "scf",
  "script", "scriptextensions", "scx", "sentencebreak", "sfc", "simplecasefolding",
  "simplelowercasemapping", "simpletitlecasemapping", "simpleuppercasemapping", "slc", "stc",
  "suc", "tc", "titlecasemapping", "uc", "unicode1name", "unicoderadicalstroke",
  "uppercasemapping", "urs", "verticalorientation", "vo", "wb", "wordbreak", "xonfc", "xonfd",
  "xonfkc", "xonfkd"]

/-- Whether a property has the given normalised name. -/
def isProperty (name : String) : Bool :=
  otherProperties.contains name || Property.rules.any fun entry => entry.1.contains name

/-- Three names are short for a category although a property has them too. -/
def categoryFirst : List String := ["cf", "sc", "lc"]

/-! ### Answers -/

/-- The answer to a lookup, or the given reason. -/
def orElse (reason : Error) : Option CharSet → Except Error CharSet
  | some s => .ok s
  | none => .error reason

/-- The set with the given normalised name. A name of a property is never taken
    for one of a category, and that never for one of a script. -/
def namedSet (name : String) : Except Error CharSet :=
  if isProperty name && !categoryFirst.contains name then
    orElse .noProperty (Property.named? name)
  else if Category.isName name then orElse .noValue (Category.named? name)
  else if Script.isName name then orElse .noValue (Script.named? name)
  else .error .noProperty

/-- The set for a value of the property with the given normalised name. -/
def valuedSet (property value : String) : Option CharSet :=
  match property with
  | "gc" | "generalcategory" => Category.named? value
  | "sc" | "script" => Script.named? value
  | "scx" | "scriptextensions" => ScriptExtension.named? value
  | "age" => Age.named? value
  | "gcb" | "graphemeclusterbreak" => Rule.named? Boundary.grapheme value
  | "wb" | "wordbreak" => Rule.named? Boundary.word value
  | "sb" | "sentencebreak" => Rule.named? Boundary.sentence value
  | _ => none

/-- The set of code points that a query asks for. -/
def answer : Query → Except Error CharSet
  | .named name => namedSet (normalise name)
  | .valued property value =>
    let property := normalise property
    if isProperty property then orElse .noValue (valuedSet property (normalise value))
    else .error .noProperty

end Query

end LabelSelector.Unicode
