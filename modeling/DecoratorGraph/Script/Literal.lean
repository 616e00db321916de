/-!
# Values of string literals

The text between the delimiters of a string or of a template without substitutions is read
as a sequence of units: a character that stands for itself, an escape, or a line
continuation, which stands for nothing. An escape that is not well formed is kept as it is
written.

Text is held as Unicode characters, so a surrogate half that is not the first of a joined
pair becomes U+FFFD.
-/

namespace DecoratorGraph.Script.Literal

/-- The value of a hexadecimal digit of either case. -/
def hexDigit? (c : Char) : Option Nat :=
  if '0' ≤ c ∧ c ≤ '9' then some (c.toNat - '0'.toNat)
  else if 'a' ≤ c ∧ c ≤ 'f' then some (c.toNat - 'a'.toNat + 10)
  else if 'A' ≤ c ∧ c ≤ 'F' then some (c.toNat - 'A'.toNat + 10)
  else none

/-- The number that a row of hexadecimal digits continues, given what stands before it. -/
def hexFrom? (value : Nat) : List Char → Option Nat
  | [] => some value
  | c :: r => (hexDigit? c).bind fun d => hexFrom? (16 * value + d) r

def hexNumber? (digits : List Char) : Option Nat := hexFrom? 0 digits

def hexAhead? (n : Nat) (s : List Char) : Option Nat :=
  if (s.take n).length = n then hexNumber? (s.take n) else none

/-- The number spelled behind `\u`, and how many characters spell it: four digits, or any
number of digits in braces as long as the value fits 32 bits. -/
def unicodeAhead? (s : List Char) : Option (Nat × Nat) :=
  match s with
  | '{' :: r =>
    let digits := r.takeWhile fun c => c ≠ '}'
    if digits = [] ∨ digits.length = r.length then none
    else
      match hexNumber? digits with
      | some code => if code < 0x100000000 then some (code, digits.length + 2) else none
      | none => none
  | _ => (hexAhead? 4 s).map fun code => (code, 4)

/-- The character of a code point; U+FFFD for a surrogate half and beyond U+10FFFF. -/
def character (code : Nat) : Char :=
  if code.isValidChar then Char.ofNat code else '\uFFFD'

def isHighHalf (code : Nat) : Bool := 0xD800 ≤ code && code < 0xDC00

def isLowHalf (code : Nat) : Bool := 0xDC00 ≤ code && code < 0xE000

def lowHalfAhead? : List Char → Option Nat
  | '\\' :: 'u' :: r => (hexAhead? 4 r).filter isLowHalf
  | _ => none

def pairCode (high low : Nat) : Nat := 0x10000 + (high - 0xD800) * 0x400 + (low - 0xDC00)

/-- The character that an escape for `code` stands for when `rest` follows it, and how many
characters of `rest` it takes: a high half takes the low half behind it. -/
def joined (code : Nat) (rest : List Char) : Char × Nat :=
  if isHighHalf code then
    match lowHalfAhead? rest with
    | some low => (character (pairCode code low), 6)
    | none => (character code, 0)
  else (character code, 0)

/-- What a backslash followed by `s` stands for, and how many characters of `s` belong
to it. -/
def escaped (s : List Char) : List Char × Nat :=
  match s with
  | [] => (['\\'], 0)
  | 'n' :: _ => (['\n'], 1)
  | 't' :: _ => (['\t'], 1)
  | 'r' :: _ => (['\r'], 1)
  | 'b' :: _ => (['\x08'], 1)
  | 'f' :: _ => (['\x0c'], 1)
  | 'v' :: _ => (['\x0b'], 1)
  | '0' :: r => if r.head?.any Char.isDigit then (['0'], 1) else (['\x00'], 1)
  | 'x' :: r =>
    match hexAhead? 2 r with
    | some code =>
      let (c, more) := joined code (r.drop 2)
      ([c], 3 + more)
    | none => (['\\', 'x'], 1)
  | 'u' :: r =>
    match unicodeAhead? r with
    | some (code, used) =>
      let (c, more) := joined code (r.drop used)
      ([c], 1 + used + more)
    | none => (['\\', 'u'], 1)
  | '\r' :: '\n' :: _ => ([], 2)
  | '\r' :: _ => ([], 1)
  | '\n' :: _ => ([], 1)
  | '\u2028' :: _ => ([], 1)
  | '\u2029' :: _ => ([], 1)
  | c :: _ => ([c], 1)

/-- Reads the units of a literal; the counter says how many characters of the last unit
are still ahead. -/
def unescapeFrom : Nat → List Char → List Char
  | _, [] => []
  | pending + 1, _ :: r => unescapeFrom pending r
  | 0, c :: r =>
    if c = '\\' then (escaped r).1 ++ unescapeFrom (escaped r).2 r
    else c :: unescapeFrom 0 r

def unescape (body : List Char) : List Char := unescapeFrom 0 body

def body (literal : List Char) : List Char :=
  if 2 ≤ literal.length then (literal.drop 1).dropLast else literal

def value (literal : List Char) : String := String.ofList (unescape (body literal))

theorem value_of_body (mark : Char) (s : List Char) :
    value (mark :: s ++ [mark]) = String.ofList (unescape s) := by
  have hbody : body (mark :: s ++ [mark]) = s := by simp [body]
  rw [value, hbody]

theorem unescapeFrom_drop (n : Nat) (s : List Char) :
    unescapeFrom n s = unescape (s.drop n) := by
  induction s generalizing n with
  | nil => cases n <;> simp [unescape, unescapeFrom]
  | cons c r ih =>
    cases n with
    | zero => simp [unescape]
    | succ n => simpa [unescapeFrom] using ih n

@[simp] theorem unescape_nil : unescape [] = [] := by simp [unescape, unescapeFrom]

theorem unescape_backslash (r : List Char) :
    unescape ('\\' :: r) = (escaped r).1 ++ unescape (r.drop (escaped r).2) := by
  rw [← unescapeFrom_drop]
  simp only [unescape, unescapeFrom, if_pos]

theorem unescape_cons {c : Char} (r : List Char) (h : c ≠ '\\') :
    unescape (c :: r) = c :: unescape r := by
  simp [unescape, unescapeFrom, h]

end DecoratorGraph.Script.Literal
