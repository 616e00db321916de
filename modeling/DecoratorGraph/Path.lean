import DecoratorGraph.Text.Basic
/-!
# Paths

A path is kept as it was written. Two paths name the same place when their components
agree: repeated and trailing slashes and inner `.` components say nothing, a leading `.` and
every `..` do.
-/

namespace DecoratorGraph

/-- A slash-separated path, as written. -/
structure Path where
  text : String
  deriving DecidableEq, Repr, Inhabited

inductive Path.Component where
  | root
  | current
  | parent
  | normal (name : String)
  deriving DecidableEq, Repr

namespace Path

instance : ToString Path := ⟨Path.text⟩

/-- The component that a piece between slashes stands for; an empty piece and a `.` stand
for none. -/
def pieceComponent? : List Char → Option Component
  | [] => none
  | ['.'] => none
  | ['.', '.'] => some .parent
  | piece => some (.normal (String.ofList piece))

/-- The component that the first piece of a path stands for: before a slash an empty piece
is the root, and a `.` in front is kept. -/
def leadComponent? (first : List Char) (rest : List (List Char)) : Option Component :=
  if first = [] then (if rest = [] then none else some .root)
  else if first = ['.'] then some .current
  else pieceComponent? first

def components (p : Path) : List Component :=
  match Text.split '/' p.text.toList with
  | [] => []
  | first :: rest => (leadComponent? first rest).toList ++ rest.filterMap pieceComponent?

def same (p q : Path) : Bool := p.components == q.components

theorem same_iff {p q : Path} : p.same q = true ↔ p.components = q.components := by
  simp [same]

@[simp] theorem same_refl (p : Path) : p.same p = true := by simp [same]

theorem same_symm {p q : Path} (h : p.same q = true) : q.same p = true := by
  simp_all [same_iff]

theorem same_trans {p q r : Path} (h : p.same q = true) (h' : q.same r = true) :
    p.same r = true := by
  simp_all [same_iff]

def isAbsolute (p : Path) : Bool := p.text.toList.head? == some '/'

/-- Appends a path: an absolute one replaces, and a slash is put between the two unless the
left one is empty or ends in one. -/
def join (p q : Path) : Path :=
  if q.isAbsolute || p.text.toList = [] then q
  else if p.text.toList.getLast? = some '/' then ⟨p.text ++ q.text⟩
  else ⟨p.text ++ "/" ++ q.text⟩

def fileName? (p : Path) : Option String :=
  match p.components.getLast? with
  | some (.normal name) => some name
  | _ => none

/-- Drops the pieces at the end that stand for no component, given in reverse. -/
def dropSilent : List (List Char) → List (List Char)
  | [] => []
  | piece :: pieces =>
    if pieces ≠ [] ∧ (piece = [] ∨ piece = ['.']) then dropSilent pieces else piece :: pieces

/-- The path without its last component; none for the root and for the empty path. -/
def parent? (p : Path) : Option Path :=
  match p.components.getLast? with
  | none => none
  | some .root => none
  | some _ =>
    let kept := dropSilent ((dropSilent (Text.split '/' p.text.toList).reverse).drop 1)
    let text := Text.join ['/'] kept.reverse
    if kept = [[]] then some ⟨"/"⟩ else some ⟨String.ofList text⟩

end Path

end DecoratorGraph
