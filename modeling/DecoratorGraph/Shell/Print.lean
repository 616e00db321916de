import DecoratorGraph.Text.Utf8
/-!
# What `echo` and `printf` write

Words and formats with escapes, as bytes.
-/

namespace DecoratorGraph.Shell

def octalValue (digits : List Char) : Nat := digits.foldl (fun n c => 8 * n + (c.toNat - 48)) 0

def isOctal (c : Char) : Bool := '0' ≤ c && c ≤ '7'

def letterEscape? (c : Char) : Option UInt8 :=
  match c with
  | 'a' => some 7
  | 'b' => some 8
  | 'f' => some 12
  | 'n' => some 10
  | 'r' => some 13
  | 't' => some 9
  | 'v' => some 11
  | '\\' => some 92
  | _ => none

/-- The bytes of a text with escapes. An octal escape has up to three digits, behind a zero if
`zero` is set. -/
def unescape (zero : Bool) : Nat → List Char → List UInt8
  | 0, _ => []
  | _, [] => []
  | n + 1, '\\' :: c :: r =>
    match letterEscape? c with
    | some b => b :: unescape zero n r
    | none =>
      let digits := ((if zero then r else c :: r).takeWhile isOctal).take 3
      let rest := (if zero then r else c :: r).drop digits.length
      if isOctal c ∧ (!zero ∨ c = '0') then UInt8.ofNat (octalValue digits) :: unescape zero n rest
      else Text.Utf8.encode (String.ofList ['\\', c]) ++ unescape zero n r
  | n + 1, c :: r => Text.Utf8.encode (String.singleton c) ++ unescape zero n r

def echoBytes : List String → List UInt8
  | "-n" :: words => line words
  | words => line words ++ [10]
where
  /-- The words with blanks between them. -/
  line (words : List String) : List UInt8 :=
    let text := (" ".intercalate words).toList
    unescape true (text.length + 1) text

inductive FormatPiece where
  | bytes (content : List UInt8)
  | argument (conversion : Char)

def formatPieces : Nat → List Char → List FormatPiece
  | 0, _ => []
  | _, [] => []
  | n + 1, '%' :: '%' :: r => .bytes [37] :: formatPieces n r
  | n + 1, '%' :: c :: r => .argument c :: formatPieces n r
  | n + 1, c :: r =>
    let text := c :: r.takeWhile (· != '%')
    .bytes (unescape false (text.length + 1) text) :: formatPieces n (r.dropWhile (· != '%'))

def converted (conversion : Char) (argument : String) : List UInt8 :=
  if conversion = 'd' ∨ conversion = 'i' ∨ conversion = 'u' then
    Text.Utf8.encode (if argument = "" then "0" else argument)
  else if conversion = 'c' then Text.Utf8.encode (String.ofList (argument.toList.take 1))
  else if conversion = 'b' then unescape true (argument.length + 1) argument.toList
  else Text.Utf8.encode argument

/-- Writes the pieces of a format once; the arguments that are left over. -/
def formatOnce : List FormatPiece → List String → List UInt8 × List String
  | [], arguments => ([], arguments)
  | .bytes content :: pieces, arguments =>
    let (bytes, rest) := formatOnce pieces arguments
    (content ++ bytes, rest)
  | .argument conversion :: pieces, arguments =>
    let (bytes, rest) := formatOnce pieces (arguments.drop 1)
    (converted conversion (arguments.headD "") ++ bytes, rest)

/-- Writes a format again as long as arguments are left over. -/
def formatAll (pieces : List FormatPiece) : Nat → List String → List UInt8
  | 0, _ => []
  | n + 1, arguments =>
    let (bytes, rest) := formatOnce pieces arguments
    if rest = [] ∨ rest.length = arguments.length then bytes else bytes ++ formatAll pieces n rest

def printfBytes : List String → List UInt8
  | [] => []
  | format :: arguments =>
    formatAll (formatPieces (format.length + 1) format.toList) (arguments.length + 1) arguments

end DecoratorGraph.Shell
