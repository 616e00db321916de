/-!
# Lexemes

The smallest pieces of a script: blanks and comments, words, numbers, quoted texts and
regular expressions. A reader of a piece takes the text ahead and gives back what is left
of it, so the text of a piece is what lies between the two.
-/

namespace DecoratorGraph.Script

def between (start rest : List Char) : List Char := start.take (start.length - rest.length)

theorem between_append (piece rest : List Char) : between (piece ++ rest) rest = piece := by
  simp [between]

def textBetween (start rest : List Char) : String := String.ofList (between start rest)

/-- What may stand between any two lexemes. -/
def isSpace (c : Char) : Bool :=
  let n := c.toNat
  (9 ≤ n && n ≤ 13) || n == 0x20 || n == 0xA0 || n == 0x1680 ||
    (0x2000 ≤ n && n ≤ 0x200B) || n == 0x2028 || n == 0x2029 || n == 0x202F || n == 0x205F ||
    n == 0x2060 || n == 0x3000 || n == 0xFEFF

/-- A character that ends a line for the rules on omitted semicolons. -/
def isLineEnd (c : Char) : Bool := c == '\n' || c == '\u2028' || c == '\u2029'

def endsComment (c : Char) : Bool := isLineEnd c || c == '\r'

/-- A character inside a word: any but controls, spaces and punctuation. -/
def isWordPart (c : Char) : Bool :=
  !(c.toNat < 0x20 || isSpace c || ":;`\"'@#.,|^&<=>+-*/\\%?!~()[]\x7b\x7d".toList.contains c)

def isWordStart (c : Char) : Bool := isWordPart c && !c.isDigit

/-- Whether blanks are being skipped in the open, in a line comment or in a block comment. -/
inductive Blank where
  | space
  | lineComment
  | blockComment

def skipBlank : Blank → List Char → List Char
  | .space, [] => []
  | .space, '/' :: '/' :: r => skipBlank .lineComment r
  | .space, '/' :: '*' :: r => skipBlank .blockComment r
  | .space, c :: r => if isSpace c then skipBlank .space r else c :: r
  | .lineComment, [] => []
  | .lineComment, c :: r => if endsComment c then skipBlank .space r else skipBlank .lineComment r
  | .blockComment, [] => []
  | .blockComment, '*' :: '/' :: r => skipBlank .space r
  | .blockComment, _ :: r => skipBlank .blockComment r

def skip (s : List Char) : List Char := skipBlank .space s

/-- Whether the blanks ahead of the next lexeme contain the end of a line. -/
def crossesLine (s : List Char) : Bool := (between s (skip s)).any isLineEnd

/-- What is left after the rest of a word. A word may spell a character by `\uXXXX` or
`\u{X…}`; the flag says that such a brace is open. -/
def afterWord : Bool → List Char → List Char
  | _, [] => []
  | false, '\\' :: 'u' :: '{' :: r => afterWord true r
  | false, '\\' :: 'u' :: r => afterWord false r
  | false, c :: r => if isWordPart c then afterWord false r else c :: r
  | true, c :: r => if c = '}' then afterWord false r else afterWord true r

def word? (s : List Char) : Option (String × List Char) :=
  match s with
  | '\\' :: 'u' :: _ => some (textBetween s (afterWord false s), afterWord false s)
  | c :: r =>
    if isWordStart c then some (textBetween s (afterWord false r), afterWord false r) else none
  | [] => none

/-- What is left after the word directly ahead. -/
def skipWord? (s : List Char) : Option (List Char) := (word? s).map Prod.snd

def nextWord? (s : List Char) : Option String := (word? (skip s)).map Prod.fst

def keyword? (word : String) (s : List Char) : Option (List Char) :=
  match word? (skip s) with
  | some (w, r) => if w = word then some r else none
  | none => none

/-- What is left after the given character, if the next lexeme starts with it. -/
def symbol? (c : Char) (s : List Char) : Option (List Char) :=
  match skip s with
  | d :: r => if d = c then some r else none
  | [] => none

/-- What is left after the given text, if it is directly ahead. -/
def ahead? (text : String) (s : List Char) : Option (List Char) :=
  if text.toList.isPrefixOf s then some (s.drop text.length) else none

/-- What is left after the given text, if the next lexeme starts with it. -/
def symbols? (text : String) (s : List Char) : Option (List Char) := ahead? text (skip s)

def next? (s : List Char) : Option Char := (skip s).head?

/-- What is left after the quote that ends a string, a backslash taking the character
behind it along. -/
def closeQuote? (quote : Char) : List Char → Option (List Char)
  | [] => none
  | '\\' :: _ :: r => closeQuote? quote r
  | c :: r => if c = quote then some r else closeQuote? quote r

/-- What is left after the slash that ends a regular expression; inside a bracketed class a
slash is an ordinary character. -/
def closePattern? : Bool → List Char → Option (List Char)
  | _, [] => none
  | inClass, '\\' :: _ :: r => closePattern? inClass r
  | inClass, c :: r =>
    if c = '\n' then none
    else if c = '/' ∧ inClass = false then some r
    else if c = '[' then closePattern? true r
    else if c = ']' then closePattern? false r
    else closePattern? inClass r

def afterPattern? (s : List Char) : Option (List Char) :=
  (closePattern? false s).map fun r => r.dropWhile Char.isLower

/-- Digits with separators between them. -/
def afterDigits (s : List Char) : List Char := s.dropWhile fun c => c.isDigit || c == '_'

def afterExponent (s : List Char) : List Char :=
  match s with
  | e :: r =>
    if e = 'e' ∨ e = 'E' then
      match r with
      | sign :: r' =>
        if sign = '+' ∨ sign = '-' then afterDigits r'
        else if sign.isDigit then afterDigits r else s
      | [] => s
    else s
  | [] => s

def afterBigMark : List Char → List Char
  | 'n' :: r => r
  | s => s

/-- What is left after the number ahead, which starts with a digit or with a point. -/
def afterNumber (s : List Char) : List Char :=
  match s with
  | '0' :: base :: r =>
    if "xXoObB".toList.contains base then
      afterBigMark (r.dropWhile fun c => c.isAlphanum && c != 'n' || c == '_')
    else decimal s
  | _ => decimal s
where
  /-- A decimal number: digits, a fraction, an exponent, or the mark of a big integer. -/
  decimal (s : List Char) : List Char :=
    match afterDigits s with
    | '.' :: r => afterExponent (afterDigits r)
    | r => afterBigMark (afterExponent r)

/-- What is open inside a bracketed group. -/
inductive Enclosure where
  /-- A bracket, by the character that closes it. -/
  | bracket (close : Char)
  | quote (mark : Char)
  | lineComment
  | blockComment
  /-- The next character belongs to the mark before it. -/
  | passing

/-- What is open behind the character `c`, given the character behind it. -/
def Enclosure.step (c : Char) (next : Option Char) : List Enclosure → List Enclosure
  | [] => []
  | .passing :: outer => outer
  | .lineComment :: outer => if endsComment c then outer else .lineComment :: outer
  | .blockComment :: outer =>
    if c = '*' ∧ next = some '/' then .passing :: outer else .blockComment :: outer
  | .quote mark :: outer =>
    if c = '\\' then .passing :: .quote mark :: outer
    else if c = mark then outer
    else if c = '$' ∧ mark = '\x60' ∧ next = some '\x7b' then
      .passing :: .bracket '\x7d' :: .quote mark :: outer
    else .quote mark :: outer
  | .bracket close :: outer =>
    if c = '/' ∧ next = some '/' then .lineComment :: .bracket close :: outer
    else if c = '/' ∧ next = some '*' then .passing :: .blockComment :: .bracket close :: outer
    else if c = close then outer
    else if c = '(' then .bracket ')' :: .bracket close :: outer
    else if c = '[' then .bracket ']' :: .bracket close :: outer
    else if c = '\x7b' then .bracket '\x7d' :: .bracket close :: outer
    else if c = '\'' ∨ c = '"' ∨ c = '\x60' then .quote c :: .bracket close :: outer
    else .bracket close :: outer

def closeGroup? : List Enclosure → List Char → Option (List Char)
  | [], s => some s
  | _ :: _, [] => none
  | e :: outer, c :: r => closeGroup? (Enclosure.step c r.head? (e :: outer)) r

def group? (s : List Char) : Option (List Char) :=
  match skip s with
  | '(' :: r => closeGroup? [.bracket ')'] r
  | '[' :: r => closeGroup? [.bracket ']'] r
  | '{' :: r => closeGroup? [.bracket '\x7d'] r
  | _ => none

end DecoratorGraph.Script
