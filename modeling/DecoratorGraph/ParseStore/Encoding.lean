import DecoratorGraph.ParseStore.Entry
/-!
# Entries as bytes

An entry is written as a list of numbers, in which lists and texts are preceded by their
lengths and alternatives by their number, and each number as its digits to base 128, the
lowest first. A byte that occurs in no text stands in front, so that no text is an entry.
-/

namespace DecoratorGraph.StoredParse

/-! ### Numbers as bytes -/

/-- The digits of a number to base 128; every digit but the last one has 128 added. At most
`fuel` digits are followed by another. -/
def digits : Nat → Nat → List UInt8
  | 0, n => [UInt8.ofNat n]
  | fuel + 1, n =>
    if n < 128 then [UInt8.ofNat n] else UInt8.ofNat (n % 128 + 128) :: digits fuel (n / 128)

def numbersToBytes (ns : List Nat) : List UInt8 := ns.flatMap fun n => digits n n

/-- The numbers of bytes. `sum` is what the digits of the current number come to so far, and
`unit` what the next digit counts for. -/
def numbersOfBytes? (sum unit : Nat) : List UInt8 → Option (List Nat)
  | [] => if unit = 1 then some [] else none
  | b :: r =>
    if b.toNat < 128 then (numbersOfBytes? 0 1 r).map fun ns => (sum + b.toNat * unit) :: ns
    else numbersOfBytes? (sum + (b.toNat - 128) * unit) (unit * 128) r

/-! ### Writing -/

def writeString (s : String) : List Nat := s.length :: s.toList.map Char.toNat

def writeOption {α : Type} (write : α → List Nat) : Option α → List Nat
  | none => [0]
  | some x => 1 :: write x

def writeList {α : Type} (write : α → List Nat) (xs : List α) : List Nat :=
  xs.length :: xs.flatMap write

mutual

def writeExpr : Expr → List Nat
  | .string v => 0 :: writeString v
  | .identifier v => 1 :: writeString v
  | .member v => 2 :: writeString v
  | .array items => 3 :: items.length :: writeExprs items
  | .object members => 4 :: members.length :: writeProperties members
  | .call callee arguments => 5 :: (writeExpr callee ++ arguments.length :: writeExprs arguments)
  | .other kind text => 6 :: (writeString kind ++ writeString text)

def writeExprs : List Expr → List Nat
  | [] => []
  | e :: es => writeExpr e ++ writeExprs es

def writeProperties : List Property → List Nat
  | [] => []
  | p :: ps => writeProperty p ++ writeProperties ps

def writeProperty : Property → List Nat
  | ⟨name, value⟩ => writeOption writeString name ++ writeExpr value

end

def kindNumber : DeclarationKind → Nat
  | .classLike => 0
  | .function => 1
  | .variable => 2
  | .interface => 3
  | .other => 4

def writeAnnotation (a : Annotation) : List Nat :=
  writeOption writeString a.callee ++ writeList writeExpr a.arguments ++ writeString a.text ++
    [a.line]

def writeDeclaration (d : Declaration) : List Nat :=
  writeOption writeString d.name ++ [kindNumber d.kind, d.line] ++
    writeList writeAnnotation d.annotations

def writeEntry (e : StoredParse) : List Nat :=
  writeString e.parsed.path.text ++ writeList writeDeclaration e.parsed.declarations ++
    [e.state.timestamp, e.state.size]

/-! ### Reading -/

abbrev Reader (α : Type) := List Nat → Option (α × List Nat)

def readNumber : Reader Nat
  | [] => none
  | n :: r => some (n, r)

/-- Reads the given number of values. -/
def readMany {α : Type} (read : Reader α) : Nat → Reader (List α)
  | 0, ns => some ([], ns)
  | n + 1, ns => do
    let (x, ns) ← read ns
    let (xs, ns) ← readMany read n ns
    some (x :: xs, ns)

def readList {α : Type} (read : Reader α) : Reader (List α) := fun ns => do
  let (n, ns) ← readNumber ns
  readMany read n ns

def readString : Reader String := fun ns => do
  let (cs, ns) ← readList readNumber ns
  some (String.ofList (cs.map Char.ofNat), ns)

def readOption {α : Type} (read : Reader α) : Reader (Option α)
  | 0 :: ns => some (none, ns)
  | 1 :: ns => do
    let (x, ns) ← read ns
    some (some x, ns)
  | _ => none

def readProperty (readValue : Reader Expr) : Reader Property := fun ns => do
  let (name, ns) ← readOption readString ns
  let (value, ns) ← readValue ns
  some (⟨name, value⟩, ns)

/-- Reads an expression that is nested at most as deep as the given number. -/
def readExpr : Nat → Reader Expr
  | 0, _ => none
  | _ + 1, 0 :: ns => (readString ns).map fun r => (.string r.1, r.2)
  | _ + 1, 1 :: ns => (readString ns).map fun r => (.identifier r.1, r.2)
  | _ + 1, 2 :: ns => (readString ns).map fun r => (.member r.1, r.2)
  | depth + 1, 3 :: ns => (readList (readExpr depth) ns).map fun r => (.array r.1, r.2)
  | depth + 1, 4 :: ns =>
    (readList (readProperty (readExpr depth)) ns).map fun r => (.object r.1, r.2)
  | depth + 1, 5 :: ns => do
    let (callee, ns) ← readExpr depth ns
    let (arguments, ns) ← readList (readExpr depth) ns
    some (.call callee arguments, ns)
  | _ + 1, 6 :: ns => do
    let (kind, ns) ← readString ns
    let (text, ns) ← readString ns
    some (.other kind text, ns)
  | _, _ => none

def kindOfNumber? : Nat → Option DeclarationKind
  | 0 => some .classLike
  | 1 => some .function
  | 2 => some .variable
  | 3 => some .interface
  | 4 => some .other
  | _ => none

def readAnnotation : Reader Annotation := fun ns => do
  let (callee, ns) ← readOption readString ns
  let (arguments, ns) ← readList (readExpr ns.length) ns
  let (text, ns) ← readString ns
  let (line, ns) ← readNumber ns
  some (⟨callee, arguments, text, line⟩, ns)

def readDeclaration : Reader Declaration := fun ns => do
  let (name, ns) ← readOption readString ns
  let (kind, ns) ← readNumber ns
  let kind ← kindOfNumber? kind
  let (line, ns) ← readNumber ns
  let (annotations, ns) ← readList readAnnotation ns
  some (⟨name, kind, line, annotations⟩, ns)

def readEntry : Reader StoredParse := fun ns => do
  let (path, ns) ← readString ns
  let (declarations, ns) ← readList readDeclaration ns
  let (timestamp, ns) ← readNumber ns
  let (size, ns) ← readNumber ns
  some (⟨⟨⟨path⟩, declarations⟩, ⟨timestamp, size⟩⟩, ns)

/-! ### The format -/

def marker : UInt8 := 0xFF

def encode (e : StoredParse) : List UInt8 := marker :: numbersToBytes (writeEntry e)

def decode? : List UInt8 → Option StoredParse
  | [] => none
  | b :: bytes =>
    if b = marker then do
      let ns ← numbersOfBytes? 0 1 bytes
      match ← readEntry ns with
      | (e, []) => some e
      | _ => none
    else none

def mix (hash : UInt64) (n : Nat) : UInt64 := (hash ^^^ n.toUInt64) * 0x100000001b3

def mixComponent (hash : UInt64) : Path.Component → UInt64
  | .root => mix hash 1
  | .current => mix hash 2
  | .parent => mix hash 3
  | .normal name => (name.toList.map Char.toNat).foldl mix (mix hash 4)

/-- The name of the file for a path, made from a hash of its components. -/
def hashedName (p : Path) : String :=
  "parsed_" ++
    String.ofList (Nat.toDigits 16 (p.components.foldl mixComponent 0xcbf29ce484222325).toNat) ++
    ".entry"

def format : EntryFormat := ⟨hashedName, encode, decode?⟩

end DecoratorGraph.StoredParse
