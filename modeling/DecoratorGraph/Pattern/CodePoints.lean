/-!
# Sets of code points

A finite set of code points as ranges, and its compact spelling: hexadecimal numbers and
`low-high` ranges with blanks between them.
-/

namespace DecoratorGraph.Pattern

/-- A set of code points, by its inclusive ranges. -/
structure CodePoints where
  ranges : List (Nat × Nat)

namespace CodePoints

def contains (s : CodePoints) (n : Nat) : Bool := s.ranges.any fun r => r.1 ≤ n && n ≤ r.2

def digit (c : Char) : Nat := if c.isDigit then c.toNat - 48 else c.toNat - 55

/-- Reads ranges: `low` is the first end of a range once its hyphen has been seen, `n` the
number being read. -/
def readRanges : Option Nat → Option Nat → List Char → List (Nat × Nat)
  | low, n, [] => (n.map fun n => (low.getD n, n)).toList
  | low, n, c :: r =>
    if c = '-' then readRanges n none r
    else if c = ' ' then (n.map fun n => (low.getD n, n)).toList ++ readRanges none none r
    else readRanges low (some (16 * n.getD 0 + digit c)) r

def ofLines (lines : List String) : CodePoints :=
  ⟨lines.flatMap fun line => readRanges none none line.toList⟩

end CodePoints

/-- Reads classes of code points: members are separated by slashes, classes by blanks. -/
def readClasses : List Nat → Nat → List Char → List (List Nat)
  | members, n, [] => [members ++ [n]]
  | members, n, c :: r =>
    if c = '/' then readClasses (members ++ [n]) 0 r
    else if c = ' ' then (members ++ [n]) :: readClasses [] 0 r
    else readClasses members (16 * n + CodePoints.digit c) r

def codeClasses (lines : List String) : List (List Nat) :=
  lines.flatMap fun line => readClasses [] 0 line.toList

end DecoratorGraph.Pattern
