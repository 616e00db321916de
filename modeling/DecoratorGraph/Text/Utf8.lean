/-!
# UTF-8

The bytes of a text and the text of bytes. Bytes that are no text are read in two ways: not at
all, or with U+FFFD in the place of each stretch that cannot go on to a character.
-/

namespace DecoratorGraph.Text.Utf8

def encode (s : String) : List UInt8 := s.toList.flatMap String.utf8EncodeChar

/-- A character of which bytes are missing: how many, the bounds of the next one, and the
value of the bits so far. -/
structure Pending where
  missing : Nat
  low : Nat
  high : Nat
  bits : Nat
  deriving DecidableEq, Repr

/-- What a first byte begins. The bounds of the second byte leave out spellings that are too
long, surrogates, and values that are too large. -/
def first? (b : Nat) : Option Pending :=
  if b < 0x80 then some ⟨0, 0x80, 0xBF, b⟩
  else if b < 0xC2 then none
  else if b < 0xE0 then some ⟨1, 0x80, 0xBF, b - 0xC0⟩
  else if b = 0xE0 then some ⟨2, 0xA0, 0xBF, 0⟩
  else if b = 0xED then some ⟨2, 0x80, 0x9F, 0xD⟩
  else if b < 0xF0 then some ⟨2, 0x80, 0xBF, b - 0xE0⟩
  else if b = 0xF0 then some ⟨3, 0x90, 0xBF, 0⟩
  else if b < 0xF4 then some ⟨3, 0x80, 0xBF, b - 0xF0⟩
  else if b = 0xF4 then some ⟨3, 0x80, 0x8F, 4⟩
  else none

def settle (p : Pending) : List (Option Char) × Option Pending :=
  if p.missing = 0 then ([some (Char.ofNat p.bits)], none) else ([], some p)

def start (b : Nat) : List (Option Char) × Option Pending :=
  match first? b with
  | some p => settle p
  | none => ([none], none)

/-- Reads a byte: what it completes, and the character it leaves unfinished. -/
def step (pending : Option Pending) (b : Nat) : List (Option Char) × Option Pending :=
  match pending with
  | none => start b
  | some p =>
    if p.low ≤ b ∧ b ≤ p.high then
      settle ⟨p.missing - 1, 0x80, 0xBF, p.bits * 64 + (b - 0x80)⟩
    else (none :: (start b).1, (start b).2)

/-- The characters of bytes, with `none` for each stretch that is no character. -/
def scan : Option Pending → List UInt8 → List (Option Char)
  | none, [] => []
  | some _, [] => [none]
  | pending, b :: r => (step pending b.toNat).1 ++ scan (step pending b.toNat).2 r

def decode? (bytes : List UInt8) : Option String := ((scan none bytes).mapM id).map String.ofList

/-- The text of bytes with U+FFFD for what is none. -/
def decodeLossy (bytes : List UInt8) : String :=
  String.ofList ((scan none bytes).map fun c => c.getD '\uFFFD')

end DecoratorGraph.Text.Utf8
