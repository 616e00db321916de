import DecoratorGraph.Decimal.Shortest
import DecoratorGraph.Pattern.Property
/-!
# Reading JSON by type

A reader takes the text of a value from the text ahead and gives what is left. What is wrong
with a text is reported in the order of reading: a value of the wrong type is reported as
soon as its kind is known, before what is inside it is looked at.
-/

namespace DecoratorGraph.JsonText

/-- Why a text is not read. -/
inductive ReadError where
  /-- The text is no JSON. -/
  | malformed
  /-- The text ends too early. -/
  | ended
  /-- The text is JSON so far, but not of the wanted type. -/
  | unfit (message : String)
  deriving DecidableEq, Repr

abbrev Reader (α : Type) := List Char → Except ReadError (α × List Char)

def isBlank (c : Char) : Bool := c == ' ' || c == '\n' || c == '\t' || c == '\r'

def skipBlanks (s : List Char) : List Char := s.dropWhile isBlank

def expect : List Char → Reader Unit
  | [], s => .ok ((), s)
  | _ :: _, [] => .error .ended
  | c :: cs, d :: r => if c = d then expect cs r else .error .malformed

/-! ### Strings -/

def hexDigit? (c : Char) : Option Nat :=
  if '0' ≤ c ∧ c ≤ '9' then some (c.toNat - 48)
  else if 'a' ≤ c ∧ c ≤ 'f' then some (c.toNat - 87)
  else if 'A' ≤ c ∧ c ≤ 'F' then some (c.toNat - 55)
  else none

/-- Reads four hexadecimal digits. A text of fewer than four bytes ends too early. -/
def hexFour : Reader Nat := fun s =>
  if (String.ofList (s.take 4)).utf8ByteSize < 4 then .error .ended
  else
    match s with
    | a :: b :: c :: d :: r =>
      match hexDigit? a, hexDigit? b, hexDigit? c, hexDigit? d with
      | some a, some b, some c, some d => .ok (((a * 16 + b) * 16 + c) * 16 + d, r)
      | _, _, _, _ => .error .malformed
    | _ => .error .malformed

def lowHalf (high : Nat) : Reader Char
  | [] => .error .ended
  | c :: r =>
    if c ≠ '\\' then .error .malformed
    else
      match r with
      | [] => .error .ended
      | d :: r =>
        if d ≠ 'u' then .error .malformed
        else do
          let (low, r) ← hexFour r
          if 0xDC00 ≤ low ∧ low ≤ 0xDFFF then
            .ok (Char.ofNat (0x10000 + (high - 0xD800) * 0x400 + (low - 0xDC00)), r)
          else .error .malformed

/-- Reads what follows `\u`: four digits, and for the first half of a character the escape of
the second. -/
def unicodeEscape : Reader Char := fun s => do
  let (code, r) ← hexFour s
  if 0xDC00 ≤ code ∧ code ≤ 0xDFFF then .error .malformed
  else if 0xD800 ≤ code ∧ code ≤ 0xDBFF then lowHalf code r
  else .ok (Char.ofNat code, r)

def shortEscape? (c : Char) : Option Char :=
  match c with
  | '"' => some '"'
  | '\\' => some '\\'
  | '/' => some '/'
  | 'b' => some '\x08'
  | 'f' => some '\x0c'
  | 'n' => some '\n'
  | 'r' => some '\r'
  | 't' => some '\t'
  | _ => none

def stringTail : Nat → Reader (List Char)
  | 0, _ => .error .ended
  | _, [] => .error .ended
  | n + 1, c :: r =>
    if c = '"' then .ok ([], r)
    else if c = '\\' then
      match r with
      | [] => .error .ended
      | e :: r' =>
        match shortEscape? e with
        | some x => do
          let (xs, rest) ← stringTail n r'
          .ok (x :: xs, rest)
        | none =>
          if e = 'u' then do
            let (x, r) ← unicodeEscape r'
            let (xs, rest) ← stringTail n r
            .ok (x :: xs, rest)
          else .error .malformed
    else if c.toNat < 0x20 then .error .malformed
    else do
      let (xs, rest) ← stringTail n r
      .ok (c :: xs, rest)

def stringBody : Reader String := fun s => do
  let (cs, r) ← stringTail (s.length + 1) s
  .ok (String.ofList cs, r)

/-- Passes over the rest of a string that is not kept; halves of characters need not pair. -/
def skipString : Nat → Reader Unit
  | 0, _ => .error .ended
  | _, [] => .error .ended
  | n + 1, c :: r =>
    if c = '"' then .ok ((), r)
    else if c = '\\' then
      match r with
      | [] => .error .ended
      | e :: r' =>
        if (shortEscape? e).isSome then skipString n r'
        else if e = 'u' then do
          let (_, r) ← hexFour r'
          skipString n r
        else .error .malformed
    else if c.toNat < 0x20 then .error .malformed
    else skipString n r

/-! ### Numbers -/

/-- The number `significand * 10 ^ power` as it is computed on reading: by one multiplication
or division by a power of ten, as long as that is in range. -/
def scaled (significand : Nat) (power : Int) : Except ReadError Float :=
  let start := significand.toUInt64.toFloat
  go start power (power.natAbs / 308 + 1)
where
  /-- Divides by the largest power of ten until the rest of the power is in range. -/
  go (f : Float) (power : Int) : Nat → Except ReadError Float
    | 0 => .ok f
    | n + 1 =>
      if power.natAbs ≤ 308 then
        if 0 ≤ power then
          let product := f * Float.ofScientific 1 false power.natAbs
          if product.isInf then .error .malformed else .ok product
        else .ok (f / Float.ofScientific 1 false power.natAbs)
      else if f == 0.0 then .ok f
      else if 0 ≤ power then .error .malformed
      else go (f / Float.ofScientific 1 false 308) (power + 308) n

def floatName (positive : Bool) (f : Float) : String :=
  "floating point \x60" ++ String.ofList (Decimal.text (if positive then f else -f)) ++ "\x60"

/-- The largest number that an exponent may be before only its sign counts. -/
def maxExponent : Nat := 0x7FFFFFFF

def digitValue (c : Char) : Nat := c.toNat - 48

def exponentTail (positive : Bool) (significand : Nat) (power : Int) : Reader String := fun s => do
  let (up, s) :=
    match s with
    | '+' :: r => (true, r)
    | '-' :: r => (false, r)
    | s => (true, s)
  match s with
  | [] => .error .ended
  | c :: _ =>
    if c.isDigit then
      let digits := s.takeWhile Char.isDigit
      let rest := s.dropWhile Char.isDigit
      let exponent := digits.foldl (fun n c => 10 * n + digitValue c) 0
      if exponent > maxExponent then
        if significand ≠ 0 ∧ up then .error .malformed
        else .ok (floatName positive 0.0, rest)
      else do
        let f ← scaled significand (if up then power + exponent else power - exponent)
        .ok (floatName positive f, rest)
    else .error .malformed

/-- Adds digits to a significand as long as it fits 64 bits; the digits that are left. -/
def significandOf : Nat → List Char → Nat × List Char
  | n, [] => (n, [])
  | n, c :: r =>
    let more := 10 * n + digitValue c
    if more < 0x10000000000000000 then significandOf more r else (n, c :: r)

def fractionTail (positive : Bool) (significand : Nat) (power : Int) : Reader String := fun s =>
  let digits := s.takeWhile Char.isDigit
  let rest := s.dropWhile Char.isDigit
  if digits = [] then .error (if rest = [] then .ended else .malformed)
  else
    let (significand, ignored) := significandOf significand digits
    let power := power - (digits.length - ignored.length : Nat)
    match rest with
    | 'e' :: r => exponentTail positive significand power r
    | 'E' :: r => exponentTail positive significand power r
    | _ => do
      let f ← scaled significand power
      .ok (floatName positive f, rest)

/-- How an integer is named in a report. A negative one that does not fit 64 bits with a sign
is a floating point number, and so is a negative zero. -/
def integerName (positive : Bool) (n : Nat) : String :=
  if positive then "integer \x60" ++ toString n ++ "\x60"
  else if n = 0 ∨ 0x8000000000000000 < n then floatName false n.toUInt64.toFloat
  else "integer \x60-" ++ toString n ++ "\x60"

def numberName (positive : Bool) : Reader String := fun s =>
  match s with
  | [] => .error .ended
  | c :: _ =>
    let digits := s.takeWhile Char.isDigit
    let rest := s.dropWhile Char.isDigit
    if !c.isDigit then .error .malformed
    else if c = '0' ∧ digits.length > 1 then .error .malformed
    else
      let (significand, ignored) := significandOf 0 digits
      match rest with
      | '.' :: r => fractionTail positive significand ignored.length r
      | 'e' :: r => exponentTail positive significand ignored.length r
      | 'E' :: r => exponentTail positive significand ignored.length r
      | _ =>
        if ignored = [] then .ok (integerName positive significand, rest)
        else do
          let f ← scaled significand ignored.length
          .ok (floatName positive f, rest)

def skipDigits : Reader Unit := fun s =>
  match s with
  | c :: r => if c.isDigit then .ok ((), r.dropWhile Char.isDigit) else .error .malformed
  | [] => .error .malformed

def skipExponent : Reader Unit := fun s =>
  match s with
  | e :: r =>
    if e = 'e' ∨ e = 'E' then
      match r with
      | '+' :: r => skipDigits r
      | '-' :: r => skipDigits r
      | r => skipDigits r
    else .ok ((), s)
  | [] => .ok ((), s)

def skipNumber : Reader Unit := fun s => do
  let ((), r) ←
    match s with
    | '0' :: c :: r => if c.isDigit then .error .malformed else .ok ((), c :: r)
    | s => skipDigits s
  match r with
  | '.' :: r => do
    let ((), r) ← skipDigits r
    skipExponent r
  | r => skipExponent r

/-! ### Reports of the wrong type -/

/-- Whether a character is shown as it is in a report; blanks other than the space, controls
and unassigned characters are not, and neither are marks that combine with what is before. -/
def isShown (c : Char) : Bool :=
  c == ' ' ||
    !(Pattern.inCategories ["cc", "cf", "co", "cn", "zl", "zp", "zs"] c.toNat ||
      Pattern.inBinary "graphemeextend" c.toNat)

def hexDigits (n : Nat) : List Char := Nat.toDigits 16 n

def shownCharacter (c : Char) : List Char :=
  match c with
  | '\x00' => ['\\', '0']
  | '\t' => ['\\', 't']
  | '\n' => ['\\', 'n']
  | '\r' => ['\\', 'r']
  | '"' => ['\\', '"']
  | '\\' => ['\\', '\\']
  | c => if isShown c then [c] else "\\u\x7b".toList ++ hexDigits c.toNat ++ ['\x7d']

def shown (s : String) : String :=
  "\"" ++ String.ofList (s.toList.flatMap shownCharacter) ++ "\""

/-- Names the value ahead as reports do. Of an array or an object no more than the opening
is read. -/
def valueName : Reader String := fun s =>
  match skipBlanks s with
  | [] => .error .ended
  | 'n' :: r => do
    let ((), r) ← expect "ull".toList r
    .ok ("null", r)
  | 't' :: r => do
    let ((), r) ← expect "rue".toList r
    .ok ("boolean \x60true\x60", r)
  | 'f' :: r => do
    let ((), r) ← expect "alse".toList r
    .ok ("boolean \x60false\x60", r)
  | '-' :: r => numberName false r
  | '"' :: r => do
    let (text, r) ← stringBody r
    .ok ("string " ++ shown text, r)
  | '[' :: r => .ok ("sequence", r)
  | '{' :: r => .ok ("map", r)
  | c :: r => if c.isDigit then numberName true (c :: r) else .error .malformed

def refuse {α : Type} (expected : String) : Reader α := fun s => do
  let (name, _) ← valueName s
  .error (.unfit ("invalid type: " ++ name ++ ", expected " ++ expected))

/-! ### Typed values -/

/-- Reads a string; `expected` names what is wanted in reports. -/
def string (expected : String) : Reader String := fun s =>
  match skipBlanks s with
  | '"' :: r => stringBody r
  | _ => refuse expected s

def optional {α : Type} (reader : Reader α) : Reader (Option α) := fun s =>
  match skipBlanks s with
  | 'n' :: r => do
    let ((), r) ← expect "ull".toList r
    .ok (none, r)
  | _ => do
    let (x, r) ← reader s
    .ok (some x, r)

/-- What stands before an item of an array: whether there is one more. -/
def nextItem (first : Bool) : Reader Bool := fun s =>
  match skipBlanks s with
  | [] => .error .ended
  | ']' :: r => .ok (false, ']' :: r)
  | c :: r =>
    if first then .ok (true, c :: r)
    else if c = ',' then
      match skipBlanks r with
      | [] => .error .ended
      | ']' :: _ => .error .malformed
      | r => .ok (true, r)
    else .error .malformed

def endArray : Reader Unit := fun s =>
  match skipBlanks s with
  | [] => .error .ended
  | ']' :: r => .ok ((), r)
  | _ => .error .malformed

def items {α : Type} (reader : Reader α) : Nat → Bool → Reader (List α)
  | 0, _, _ => .error .ended
  | n + 1, first, s => do
    let (more, r) ← nextItem first s
    if more then
      let (x, r) ← reader r
      let (xs, r) ← items reader n false r
      .ok (x :: xs, r)
    else .ok ([], r)

def list {α : Type} (reader : Reader α) : Reader (List α) := fun s =>
  match skipBlanks s with
  | '[' :: r => do
    let (xs, r) ← items reader (r.length + 1) true r
    let ((), r) ← endArray r
    .ok (xs, r)
  | _ => refuse "a sequence" s

/-- What stands before a member of an object: its name, if there is one more. -/
def nextName (first : Bool) : Reader (Option String) := fun s =>
  match skipBlanks s with
  | [] => .error .ended
  | '}' :: r => .ok (none, '}' :: r)
  | c :: r =>
    let named (s : List Char) : Except ReadError (Option String × List Char) :=
      match s with
      | [] => .error .ended
      | '"' :: r => do
        let (name, r) ← stringBody r
        .ok (some name, r)
      | _ => .error .malformed
    if first then named (c :: r)
    else if c = ',' then named (skipBlanks r)
    else .error .malformed

def colon : Reader Unit := fun s =>
  match skipBlanks s with
  | [] => .error .ended
  | ':' :: r => .ok ((), r)
  | _ => .error .malformed

def endObject : Reader Unit := fun s =>
  match skipBlanks s with
  | [] => .error .ended
  | '}' :: r => .ok ((), r)
  | _ => .error .malformed

def skipValue : Nat → Reader Unit
  | 0, _ => .error .ended
  | n + 1, s =>
    match skipBlanks s with
    | [] => .error .ended
    | 'n' :: r => expect "ull".toList r
    | 't' :: r => expect "rue".toList r
    | 'f' :: r => expect "alse".toList r
    | '-' :: r => skipNumber r
    | '"' :: r => skipString (r.length + 1) r
    | '[' :: r => do
      let (_, r) ← items (skipValue n) n true r
      endArray r
    | '{' :: r => skipMembers (skipValue n) n true r
    | c :: r => if c.isDigit then skipNumber (c :: r) else .error .malformed
where
  /-- Passes over the members of an object that is not kept. -/
  skipMembers (value : Reader Unit) : Nat → Bool → Reader Unit
    | 0, _, _ => .error .ended
    | n + 1, first, s =>
      match skipBlanks s with
      | [] => .error .ended
      | '}' :: r => .ok ((), r)
      | c :: r => do
        let start ←
          if first then .ok (c :: r)
          else if c = ',' then .ok (skipBlanks r)
          else .error .malformed
        match start with
        | [] => .error .ended
        | '"' :: r => do
          let ((), r) ← skipString (r.length + 1) r
          let ((), r) ← colon r
          let ((), r) ← value r
          skipMembers value n false r
        | _ => .error .malformed

/-! ### Records with named fields -/

/-- A field of a record that is built up in a value of type `σ`. -/
structure Field (σ : Type) where
  name : String
  read : σ → Reader σ

/-- How a record is read, from an object by the names of its fields or from an array in their
order. -/
structure Shape (σ : Type) where
  /-- The name of the record in reports. -/
  name : String
  fields : List (Field σ)
  /-- How many items an array has to have; the fields behind may be missing. -/
  required : Nat
  /-- Whether an object must not have members of other names. -/
  closed : Bool
  start : σ
  /-- The fields that an object has to have. -/
  needed : List String := []

def Shape.fieldNames {σ : Type} (shape : Shape σ) : String :=
  let names := shape.fields.map fun f => "\x60" ++ f.name ++ "\x60"
  ", ".intercalate names

/-- Reports a member that the record does not have. -/
def Shape.unknownField {σ : Type} (shape : Shape σ) (name : String) : ReadError :=
  .unfit ("unknown field \x60" ++ name ++ "\x60, expected one of " ++ shape.fieldNames)

/-- Reads the members of an object up to its closing brace. `seen` lists the fields that have
been read. -/
def Shape.members {σ : Type} (shape : Shape σ) :
    Nat → Bool → List String → σ → Reader (List String × σ)
  | 0, _, _, _, _ => .error .ended
  | n + 1, first, seen, state, s => do
    let (name, r) ← nextName first s
    match name with
    | none => .ok ((seen, state), r)
    | some name =>
      match shape.fields.find? fun f => f.name == name with
      | some field =>
        if seen.contains name then .error (.unfit ("duplicate field \x60" ++ name ++ "\x60"))
        else do
          let ((), r) ← colon r
          let (state, r) ← field.read state r
          members shape n false (name :: seen) state r
      | none =>
        if shape.closed then .error (shape.unknownField name)
        else do
          let ((), r) ← colon r
          let ((), r) ← skipValue (r.length + 1) r
          members shape n false seen state r

/-- Reads the fields of a record from the items of an array; `index` counts them. -/
def Shape.elements {σ : Type} (shape : Shape σ) : Nat → List (Field σ) → σ → Reader σ
  | _, [], state, s => .ok (state, s)
  | index, field :: fields, state, s => do
    let (more, r) ← nextItem (index == 0) s
    if more then
      let (state, r) ← field.read state r
      elements shape (index + 1) fields state r
    else if index < shape.required then
      .error (.unfit ("invalid length " ++ toString index ++ ", expected struct " ++ shape.name ++
        " with " ++ toString shape.fields.length ++ " elements"))
    else .ok (state, r)

def Shape.read {σ : Type} (shape : Shape σ) : Reader σ := fun s =>
  match skipBlanks s with
  | '[' :: r => do
    let (state, r) ← shape.elements 0 shape.fields shape.start r
    let ((), r) ← endArray r
    .ok (state, r)
  | '{' :: r => do
    let ((seen, state), r) ← shape.members (r.length + 1) true [] shape.start r
    match shape.needed.find? fun name => !seen.contains name with
    | some name => .error (.unfit ("missing field \x60" ++ name ++ "\x60"))
    | none => do
      let ((), r) ← endObject r
      .ok (state, r)
  | _ => refuse ("struct " ++ shape.name) s

def readAll {α : Type} (reader : Reader α) (text : String) : Except ReadError α := do
  let (x, r) ← reader text.toList
  match skipBlanks r with
  | [] => .ok x
  | _ => .error .malformed

end DecoratorGraph.JsonText
