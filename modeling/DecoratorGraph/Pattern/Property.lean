import DecoratorGraph.Pattern.BinaryProperty
import DecoratorGraph.Pattern.CaseClass
import DecoratorGraph.Pattern.GeneralCategory
import DecoratorGraph.Pattern.WritingSystem
/-!
# Properties by name

Looks up the properties of characters that a pattern can name. Names are compared without
regard to case, blanks, hyphens and underscores, and an `is` in front is ignored.
-/

namespace DecoratorGraph.Pattern

abbrev CodeSet := Nat → Bool

/-- Whether a number is a surrogate half, which is no character. -/
def isSurrogate (n : Nat) : Bool := 0xD800 ≤ n && n ≤ 0xDFFF

def inCategory (short : String) : CodeSet :=
  match generalCategories.find? fun c => c.1 == short with
  | some (_, _, s) => s.contains
  | none => fun _ => false

def inCategories (shorts : List String) : CodeSet :=
  let sets := generalCategories.filter fun c => shorts.contains c.1
  fun n => sets.any fun c => c.2.2.contains n

def inBinary (name : String) : CodeSet :=
  match binaryProperties.find? fun p => p.1.contains name with
  | some (_, s) => s.contains
  | none => fun _ => false

def isLetter : CodeSet := inCategories ["lu", "ll", "lt", "lm", "lo", "nl"]

def isAlphabetic : CodeSet := fun n => isLetter n || otherAlphabetic.contains n

def isLowercase : CodeSet := fun n => inCategory "ll" n || otherLowercase.contains n

def isUppercase : CodeSet := fun n => inCategory "lu" n || otherUppercase.contains n

def isNumeric : CodeSet := inCategories ["nd", "nl", "no"]

def isDecimalDigit : CodeSet := inCategory "nd"

def isWhiteSpace : CodeSet := inBinary "whitespace"

/-- Letters, marks, decimal digits, connecting punctuation and joiners. -/
def isWordCharacter : CodeSet := fun n =>
  isAlphabetic n || inCategories ["mn", "mc", "me", "nd", "pc"] n || inBinary "joincontrol" n

def isIdentifierStart : CodeSet := fun n =>
  n != 0x2E2F && (isLetter n || [0x1885, 0x1886, 0x2118, 0x212E, 0x309B, 0x309C].contains n)

def isIdentifierPart : CodeSet := fun n =>
  isIdentifierStart n || inCategories ["mn", "mc", "nd", "pc"] n ||
    [0xB7, 0x387, 0x19DA].contains n || (0x1369 ≤ n && n ≤ 0x1371)

/-- The identifier starts that a normalisation would turn into something else. -/
def unstableStarts : List Nat :=
  [0x37A, 0xE33, 0xEB3, 0x309B, 0x309C, 0xFC5E, 0xFC5F, 0xFC60, 0xFC61, 0xFC62, 0xFC63, 0xFDFA,
    0xFDFB, 0xFE70, 0xFE72, 0xFE74, 0xFE76, 0xFE78, 0xFE7A, 0xFE7C, 0xFE7E, 0xFF9E, 0xFF9F]

def unstableParts : List Nat :=
  [0x37A, 0x309B, 0x309C, 0xFC5E, 0xFC5F, 0xFC60, 0xFC61, 0xFC62, 0xFC63, 0xFDFA, 0xFDFB, 0xFE70,
    0xFE72, 0xFE74, 0xFE76, 0xFE78, 0xFE7A, 0xFE7C, 0xFE7E]

def derivedProperties : List (List String × CodeSet) := [
  (["alphabetic", "alpha"], isAlphabetic),
  (["lowercase", "lower"], isLowercase),
  (["uppercase", "upper"], isUppercase),
  (["idstart", "ids"], isIdentifierStart),
  (["idcontinue", "idc"], isIdentifierPart),
  (["xidstart", "xids"], fun n => isIdentifierStart n && !unstableStarts.contains n),
  (["xidcontinue", "xidc"], fun n => isIdentifierPart n && !unstableParts.contains n)]

/-- The spelling of a name under which it is looked up. -/
def normalName (name : String) : String :=
  let lower := name.toList.map Char.toLower
  let (marked, rest) :=
    match lower with
    | 'i' :: 's' :: r => (true, r)
    | r => (false, r)
  let kept := rest.filter fun c => c.toNat < 128 && !(c == ' ' || c == '_' || c == '-')
  if marked && kept == ['c'] then "isc" else String.ofList kept

def categoryNamed? (name : String) : Option CodeSet :=
  match name with
  | "any" => some fun _ => true
  | "assigned" => some fun n => !(inCategory "cn" n) && !(isSurrogate n)
  | "ascii" => some fun n => n < 128
  | _ =>
    match generalCategories.find? fun c => c.1 == name || c.2.1.contains name with
    | some (_, _, s) => some s.contains
    | none => (categoryGroups.find? fun g => g.1.contains name).map fun g => inCategories g.2

def writingSystemNamed? (name : String) : Option CodeSet :=
  (writingSystems.find? fun s => s.1.contains name).map fun s => s.2.contains

def binaryNamed? (name : String) : Option CodeSet :=
  match binaryProperties.find? fun p => p.1.contains name with
  | some (_, s) => some s.contains
  | none => (derivedProperties.find? fun p => p.1.contains name).map Prod.snd

def propertyNamed? (name : String) : Option CodeSet :=
  let name := normalName name
  match binaryNamed? name with
  | some s => some s
  | none =>
    match categoryNamed? name with
    | some s => some s
    | none => writingSystemNamed? name

/-- The property that a name together with a value stands for. -/
def propertyValued? (name value : String) : Option CodeSet :=
  let name := normalName name
  let value := normalName value
  if name = "gc" ∨ name = "generalcategory" then categoryNamed? value
  else if name = "sc" ∨ name = "script" then writingSystemNamed? value
  else none

/-- The code points that differ from this one in case only, itself included. -/
def caseVariants (n : Nat) : List Nat := (caseClasses.find? fun c => c.contains n).getD [n]

def CodeSet.ignoringCase (s : CodeSet) : CodeSet := fun n => (caseVariants n).any s

end DecoratorGraph.Pattern
