import DecoratorGraph.Pattern.Property
/-!
# Regular expressions

Only whether an expression matches somewhere in a text is of interest. The matcher therefore
works on sets of places: an expression takes the places where a match may begin to the places
where it may end. A place lies between two neighbouring characters, and a set of places is a
list of flags, one for each place from the start of the text to its end.
-/

namespace DecoratorGraph.Pattern

inductive Assertion where
  | textStart
  | textEnd
  /-- The start of a line; `crlf` says that a carriage return ends a line too. -/
  | lineStart (crlf : Bool)
  | lineEnd (crlf : Bool)
  /-- The places around a word; `unicode` says that letters of all scripts form words. -/
  | wordBoundary (unicode : Bool)
  | noWordBoundary (unicode : Bool)
  | wordStart (unicode : Bool)
  | wordEnd (unicode : Bool)
  | wordStartHalf (unicode : Bool)
  | wordEndHalf (unicode : Bool)
  deriving DecidableEq, Repr

inductive Regex where
  | empty
  /-- A character of a set; the weight measures how much room the set takes. -/
  | one (set : CodeSet) (weight : Nat)
  | look (condition : Assertion)
  | concat (first second : Regex)
  | either (left right : Regex)
  /-- At least `min` and, if given, at most `max` times. -/
  | times (min : Nat) (max : Option Nat) (r : Regex)

/-- The characters before and behind a place. -/
structure Gap where
  before : Option Char
  behind : Option Char

/-- The places of a text, given the character before it. -/
def gaps (before : Option Char) : List Char → List Gap
  | [] => [⟨before, none⟩]
  | c :: r => ⟨before, some c⟩ :: gaps (some c) r

def isWordAt (unicode : Bool) (c : Option Char) : Bool :=
  c.any fun c => if unicode then isWordCharacter c.toNat else c.isAlphanum || c == '_'

def Assertion.holds (g : Gap) : Assertion → Bool
  | .textStart => g.before.isNone
  | .textEnd => g.behind.isNone
  | .lineStart false => g.before.all (· == '\n')
  | .lineStart true =>
    g.before.all fun c => c == '\n' || c == '\r' && g.behind != some '\n'
  | .lineEnd false => g.behind.all (· == '\n')
  | .lineEnd true =>
    g.behind.all fun c => c == '\r' || c == '\n' && g.before != some '\r'
  | .wordBoundary u => isWordAt u g.before != isWordAt u g.behind
  | .noWordBoundary u => isWordAt u g.before == isWordAt u g.behind
  | .wordStart u => !isWordAt u g.before && isWordAt u g.behind
  | .wordEnd u => isWordAt u g.before && !isWordAt u g.behind
  | .wordStartHalf u => !isWordAt u g.before
  | .wordEndHalf u => !isWordAt u g.behind

def iterate {α : Type} (f : α → α) : Nat → α → α
  | 0, a => a
  | n + 1, a => iterate f n (f a)

/-- The places where a match may end that begins at one of the given places. In a text of `k`
places no more than `k` repetitions make a difference: a longer match passes some place
twice without moving, and can do so any number of times. -/
def Regex.ends (places : List Gap) : Regex → List Bool → List Bool
  | .empty, starts => starts
  | .one set _, starts =>
    (false :: List.zipWith (fun start g => start && g.behind.any fun c => set c.toNat)
      starts places).take places.length
  | .look condition, starts =>
    List.zipWith (fun start g => start && condition.holds g) starts places
  | .concat first second, starts => second.ends places (first.ends places starts)
  | .either left right, starts =>
    List.zipWith (· || ·) (left.ends places starts) (right.ends places starts)
  | .times min max r, starts =>
    let required := iterate (r.ends places) (Nat.min min places.length) starts
    let optional := match max with
      | some max => Nat.min (max - min) places.length
      | none => places.length
    iterate (fun s => List.zipWith (· || ·) s (r.ends places s)) optional required

def Regex.matchesIn (r : Regex) (text : List Char) : Bool :=
  let places := gaps none text
  (r.ends places (places.map fun _ => true)).any id

/-- How much room an expression takes with its repetitions written out, in bytes. -/
def Regex.weight : Regex → Nat
  | .empty => 32
  | .one _ weight => weight
  | .look _ => 32
  | .concat first second => first.weight + second.weight
  | .either left right => left.weight + right.weight + 64
  | .times min max r => Nat.max 1 (Nat.max min (max.getD (min + 1))) * r.weight

def maxWeight : Nat := 10 * 0x100000

end DecoratorGraph.Pattern
