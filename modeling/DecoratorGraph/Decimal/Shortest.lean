import DecoratorGraph.Text.Basic
/-!
# Shortest decimals

The decimal with the fewest digits that reads back as a given binary floating point number,
and its usual text. A binary number is the nearest to every real between the midpoints to its
neighbours, so a decimal reads back if it lies there; the midpoints belong to it when its
significand is even. All comparisons are made in exact integers.
-/

namespace DecoratorGraph.Decimal

/-- A power of ten. -/
def tenTo (k : Nat) : Nat := Nat.pow 10 k

def twoTo (k : Nat) : Nat := Nat.pow 2 k

/-- A positive real `numerator / denominator` with the ends of the interval that reads back as
it, over the same denominator. -/
structure Target where
  low : Nat
  value : Nat
  high : Nat
  denominator : Nat
  /-- Whether the ends belong to the interval. -/
  closed : Bool

/-- The target of `m * 2 ^ (e - 1075)`, where `halved` says that the lower neighbour is only
half as far away as the upper one. -/
def Target.ofParts (m e : Nat) (halved : Bool) : Target :=
  let up := twoTo (e - 1077)
  ⟨(4 * m - if halved then 1 else 2) * up, 4 * m * up, (4 * m + 2) * up, twoTo (1077 - e),
    m % 2 == 0⟩

def Target.ofBits (bits : Nat) : Target :=
  let fraction := bits % 0x10000000000000
  let exponent := bits / 0x10000000000000 % 0x800
  if exponent = 0 then .ofParts fraction 1 false
  else .ofParts (0x10000000000000 + fraction) exponent (fraction == 0 && exponent > 1)

/-- The number of the target and of `c`, both over one denominator, where `c` counts units of
`10 ^ k / 10 ^ 400`. -/
def Target.compareWith (t : Target) (c k : Nat) : Nat × Nat :=
  (t.value * tenTo 400, c * tenTo k * t.denominator)

def Target.contains (t : Target) (c k : Nat) : Bool :=
  let x := c * tenTo k * t.denominator
  let low := t.low * tenTo 400
  let high := t.high * tenTo 400
  if t.closed then low ≤ x && x ≤ high else low < x && x < high

/-- The largest power of ten that is not above the target, as an exponent counted from
`10 ^ -400`, looked for from `k` downwards. -/
def Target.leading (t : Target) : Nat → Nat
  | 0 => 0
  | k + 1 =>
    if tenTo (k + 1) * t.denominator ≤ t.value * tenTo 400 then k + 1 else t.leading k

/-- The nearer of the two neighbours of the target on the grid `10 ^ k` that read back, if
one does. -/
def Target.onGrid? (t : Target) (k : Nat) : Option Nat :=
  let c := t.value * tenTo 400 / (tenTo k * t.denominator)
  let below := t.contains c k
  let above := t.contains (c + 1) k
  let (v, x) := t.compareWith c k
  let (_, y) := t.compareWith (c + 1) k
  if below && (!above || v - x ≤ y - v) then some c
  else if above then some (c + 1)
  else none

/-- The first grid, from coarse to fine, on which a decimal reads back: the decimal in units
of its grid, and the exponent of the grid counted from `10 ^ -400`. -/
def Target.shortestFrom (t : Target) (leading : Nat) : Nat → Nat → Nat × Nat
  | _, 0 => (0, 0)
  | digits, fuel + 1 =>
    match t.onGrid? (leading - digits) with
    | some c => (c, leading - digits)
    | none => t.shortestFrom leading (digits + 1) fuel

/-- The shortest digits of a positive number with these bits, and the power of ten that they
are to be multiplied by. -/
def shortest (bits : Nat) : List Char × Int :=
  let t := Target.ofBits bits
  let (c, k) := t.shortestFrom (t.leading 720) 0 20
  (Text.decimal c, (k : Int) - 400)

/-- The text of digits times a power of ten: positional from a hundred-thousandth up to
`10 ^ 16`, with at least one decimal place, and otherwise with a signed exponent. -/
def positional (digits : List Char) (power : Int) : List Char :=
  let point := digits.length + power
  let zeros (n : Int) : List Char := List.replicate n.toNat '0'
  if 0 ≤ power ∧ point ≤ 16 then digits ++ zeros power ++ ['.', '0']
  else if 0 < point ∧ point ≤ 16 then
    digits.take point.toNat ++ '.' :: digits.drop point.toNat
  else if -5 < point ∧ point ≤ 0 then '0' :: '.' :: zeros (-point) ++ digits
  else
    let exponent := point - 1
    let mantissa :=
      match digits with
      | d :: d' :: rest => d :: '.' :: d' :: rest
      | ds => ds
    mantissa ++ ['e', if exponent < 0 then '-' else '+'] ++ Text.decimal exponent.natAbs

def text (f : Float) : List Char :=
  let bits := f.toBits.toNat
  let magnitude := bits % 0x8000000000000000
  let sign := if 0x8000000000000000 ≤ bits then ['-'] else []
  if magnitude = 0 then sign ++ "0.0".toList
  else
    let (digits, power) := shortest magnitude
    sign ++ positional digits power

end DecoratorGraph.Decimal
