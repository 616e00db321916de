import DecoratorGraph.Declaration
import DecoratorGraph.Record
/-!
# Extraction of records

The decorators of a file whose callee is of interest are turned into records, one for each,
in the order of the source. The configuration is the last argument of the decorator; of
several members with the name of a category the last one counts, but every one has to be
well formed. The first failure of a file ends its extraction.
-/

namespace DecoratorGraph

inductive ExtractionError where
  /-- A decorator that is no call of a plain name. -/
  | unresolvedCallee (file : Path) (declaration annotation : String)
  /-- A configuration of the wrong shape. -/
  | malformedConfig (file : Path) (declaration property found : String)
  /-- A decorator of interest on a declaration without a name. -/
  | missingName (file : Path) (line : Nat)
  deriving DecidableEq, Repr

def ExtractionError.message : ExtractionError → String
  | .unresolvedCallee file declaration annotation =>
    file.text ++ ": cannot resolve the callee of annotation \x60@" ++ annotation ++
      "\x60 on \x60" ++ declaration ++ "\x60"
  | .malformedConfig file declaration property found =>
    file.text ++ ": \x60" ++ property ++ "\x60 of \x60" ++ declaration ++ "\x60 is a " ++ found ++
      ", expected a string or an array"
  | .missingName file line =>
    file.text ++ ":" ++ toString line ++
      ": matched annotation on a declaration without a name"

/-- Where a configuration stands, for diagnostics. -/
structure Site where
  file : Path
  declaration : String

def Site.malformed (site : Site) (property found : String) : ExtractionError :=
  .malformedConfig site.file site.declaration property found

/-! ### Values of a category -/

/-- The value of a category, by what can be done with it. -/
inductive ConfigValue where
  | string (text : String)
  | array (items : List Expr)
  | other (shape : String)

def ConfigValue.ofExpr : Expr → ConfigValue
  | .string text => .string text
  | .array items => .array items
  | e => .other e.shape

/-- The mark behind the entry of a call. -/
def callMark : String := "*"

def lastSegment (text : String) : String := String.ofList (Text.afterLast '/' text.toList)

/-- The entry of an element of a category's array: a reference as it is, a string by its last
segment, and a call by the text of its first argument with a mark behind it. -/
def elementEntry (site : Site) (property : String) : Expr → Except ExtractionError String
  | .call _ (first :: _) => .ok (first.literalText ++ callMark)
  | .call _ [] => .error (site.malformed property "call expression without arguments")
  | .identifier name => .ok name
  | .member text => .ok text
  | .string text => .ok (lastSegment text)
  | e => .error (site.malformed property (e.shape ++ " element"))

def valueEntries (site : Site) (property : String) (value : Expr) :
    Except ExtractionError (List String) :=
  match ConfigValue.ofExpr value with
  | .string text => .ok [lastSegment text]
  | .array items => items.mapM (elementEntry site property)
  | .other found => .error (site.malformed property found)

/-- The entries under a category in a configuration: those of the last member of that name,
after all members of that name have been read. -/
def Category.entries? (c : Category) (site : Site) (members : List Property) :
    Except ExtractionError (Option (List String)) := do
  let values ← (members.filter fun p => p.isNamed c.key).mapM fun p =>
    valueEntries site c.key p.value
  return values.getLast?

/-! ### Records of a file -/

/-- The dependencies that a decorator lists. Without arguments it lists nothing under every
category. -/
def Annotation.dependencies (a : Annotation) (site : Site) :
    Except ExtractionError Dependencies :=
  match a.configArgument? with
  | none => .ok .allEmpty
  | some (.object members) => do
    let directives ← Category.directives.entries? site members
    let providers ← Category.providers.entries? site members
    let templateUrl ← Category.templateUrl.entries? site members
    return ⟨directives, providers, templateUrl⟩
  | some e => .error (site.malformed "configuration argument" e.shape)

namespace Declaration

def displayName (d : Declaration) : String := d.name.getD "<anonymous>"

/-- The decorators of a declaration whose callee is of interest. Every decorator has to have
a callee, of interest or not. -/
def matching (isMatch : String → Bool) (file : Path) (d : Declaration) :
    Except ExtractionError (List Annotation) := do
  let named ← d.annotations.mapM fun a =>
    match a.callee with
    | some callee => .ok (callee, a)
    | none => .error (.unresolvedCallee file d.displayName a.text)
  return (named.filter fun p => isMatch p.1).map Prod.snd

/-- The record of a declaration, which has to have a name. -/
def record (d : Declaration) (file : Path) (dependencies : Dependencies) :
    Except ExtractionError Record :=
  match d.name with
  | some name =>
    if name = "" then .error (.missingName file d.line) else .ok ⟨name, file, dependencies⟩
  | none => .error (.missingName file d.line)

def records (isMatch : String → Bool) (file : Path) (d : Declaration) :
    Except ExtractionError (List Record) := do
  let matched ← d.matching isMatch file
  matched.mapM fun a => do
    let dependencies ← a.dependencies ⟨file, d.displayName⟩
    d.record file dependencies

end Declaration

/-- The records of a file, in the order of its declarations. `isMatch` decides on the callee
which decorators are of interest. -/
def ParsedFile.records (isMatch : String → Bool) (file : ParsedFile) :
    Except ExtractionError (List Record) := do
  let perDeclaration ← file.declarations.mapM fun d => d.records isMatch file.path
  return perDeclaration.flatten

end DecoratorGraph
