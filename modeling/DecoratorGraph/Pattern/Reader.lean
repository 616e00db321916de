import DecoratorGraph.Pattern.Regex
/-!
# Reading patterns

A pattern is the text of a regular expression: literals, sets in brackets with nested sets and
set operations, classes of characters, groups with or without a name, flags, conditions on a
place, and repetitions. There is no looking around and there are no references back.

Whether a pattern is well formed is all that is reported of a refused one.
-/

namespace DecoratorGraph.Pattern

structure Flags where
  ignoreCase : Bool := false
  multiLine : Bool := false
  dotAll : Bool := false
  unicode : Bool := true
  crlf : Bool := false
  /-- Blanks and comments in the pattern mean nothing. -/
  verbose : Bool := false

/-! ### Characters of a pattern -/

/-- Skips blanks and comments; the flag says that a comment is open. -/
def skipSpace : Bool → List Char → List Char
  | _, [] => []
  | true, c :: r => skipSpace (c != '\n') r
  | false, c :: r =>
    if isWhiteSpace c.toNat then skipSpace false r
    else if c = '#' then skipSpace true r
    else c :: r

/-- What comes next in the pattern: in a verbose one, blanks and comments are skipped. -/
def Flags.next (flags : Flags) (s : List Char) : List Char :=
  if flags.verbose then skipSpace false s else s

def isMeta (c : Char) : Bool := "\\.+*?()|[]\x7b\x7d^$#&-~".toList.contains c

/-- Whether a backslash in front of the character leaves it as it is. -/
def isEscapable (c : Char) : Bool :=
  isMeta c || c.toNat < 128 && !c.isAlphanum && c != '<' && c != '>'

def hexDigit? (c : Char) : Option Nat :=
  if c.isDigit then some (c.toNat - 48)
  else if 'a' ≤ c ∧ c ≤ 'f' then some (c.toNat - 87)
  else if 'A' ≤ c ∧ c ≤ 'F' then some (c.toNat - 55)
  else none

def scalar? (digits : List Char) : Option Nat := do
  let values ← digits.mapM hexDigit?
  let code := values.foldl (fun n d => 16 * n + d) 0
  if code < 0x110000 ∧ !isSurrogate code then some code else none

def Flags.takeNext (flags : Flags) : Nat → List Char → Option (List Char × List Char)
  | 0, s => some ([], s)
  | n + 1, s =>
    match flags.next s with
    | [] => none
    | c :: r => (takeNext flags n r).map fun (cs, r) => (c :: cs, r)

def Flags.toBrace (flags : Flags) : Nat → List Char → Option (List Char × List Char)
  | 0, _ => none
  | n + 1, s =>
    match flags.next s with
    | [] => none
    | c :: r =>
      if c = '\x7d' then some ([], r)
      else (toBrace flags n r).map fun (cs, r) => (c :: cs, r)

/-! ### Escapes -/

/-- What an escape stands for: a character, of which `byte` says that it was written by two
hexadecimal digits, a set of characters, or a condition. -/
inductive Escape where
  | literal (code : Nat) (byte : Bool)
  | set (members : CodeSet) (weight : Nat)
  | look (condition : Assertion)

/-- Reads a number in `n` hexadecimal digits, or in any number of them in braces. -/
def Flags.hexEscape (flags : Flags) (n : Nat) (s : List Char) : Option (Escape × List Char) :=
  match flags.next s with
  | '{' :: r => do
    let (digits, r) ← flags.toBrace (r.length + 1) r
    let code ← if digits = [] then none else scalar? digits
    some (.literal code false, r)
  | s => do
    let (digits, r) ← flags.takeNext n s
    let code ← scalar? digits
    some (.literal code (n == 2), r)

/-- Splits at the first occurrence of a text. -/
def cutAt (separator : List Char) : List Char → Option (List Char × List Char)
  | [] => none
  | c :: r =>
    if separator.isPrefixOf (c :: r) then some ([], (c :: r).drop separator.length)
    else (cutAt separator r).map fun (before, behind) => (c :: before, behind)

def namedSet? (name : List Char) : Option CodeSet :=
  let valued (parts : List Char × List Char) : Option CodeSet :=
    propertyValued? (String.ofList parts.1) (String.ofList parts.2)
  match cutAt ['!', '='] name with
  | some parts => (valued parts).map fun s n => !(s n)
  | none =>
    match cutAt [':'] name with
    | some parts => valued parts
    | none =>
      match cutAt ['='] name with
      | some parts => valued parts
      | none => propertyNamed? (String.ofList name)

/-- The set after ignoring case, if the flags say so. Without the Unicode flag only the
letters of ASCII have a case. -/
def Flags.folded (flags : Flags) (s : CodeSet) : CodeSet :=
  if flags.ignoreCase then
    if flags.unicode then s.ignoringCase
    else fun n => s n ||
      (65 ≤ n && n ≤ 90 && s (n + 32)) || (97 ≤ n && n ≤ 122 && s (n - 32))
  else s

/-- A set, or its complement. Without the Unicode flag a set must not reach beyond ASCII,
since its members would be bytes of a character then. -/
def Flags.closed? (flags : Flags) (negated : Bool) (s : CodeSet) : Option CodeSet :=
  let s : CodeSet := if negated then fun n => !(s n) else s
  if flags.unicode then some s
  else if (List.range 128).any fun n => s (n + 128) then none
  else some fun n => n < 128 && s n

def Flags.propertyEscape (flags : Flags) (negated : Bool) (s : List Char) :
    Option (Escape × List Char) := do
  let (name, r) ←
    match flags.next s with
    | '{' :: r => flags.toBrace (r.length + 1) r
    | '\\' :: _ => none
    | c :: r => some ([c], flags.next r)
    | [] => none
  let set ← namedSet? name
  if flags.unicode then
    let set ← flags.closed? negated (flags.folded set)
    some (.set set 20000, r)
  else none

def isAsciiSpace (n : Nat) : Bool := 9 ≤ n && n ≤ 13 || n == 32

def isAsciiWord (n : Nat) : Bool :=
  48 ≤ n && n ≤ 57 || 65 ≤ n && n ≤ 90 || n == 95 || 97 ≤ n && n ≤ 122

def Flags.letterClass? (flags : Flags) (c : Char) : Option (CodeSet × Nat) :=
  if c = 'd' then
    some (if flags.unicode then (isDecimalDigit, 5000) else (fun n => 48 ≤ n && n ≤ 57, 32))
  else if c = 's' then
    some (if flags.unicode then (isWhiteSpace, 1500) else (isAsciiSpace, 32))
  else if c = 'w' then
    some (if flags.unicode then (isWordCharacter, 60000) else (isAsciiWord, 32))
  else none

/-- Reads what may follow `\b`: a kind of boundary in braces. A brace that no letter follows
is left alone. -/
def Flags.boundary (flags : Flags) (s : List Char) : Option (Assertion × List Char) :=
  match s with
  | '{' :: r =>
    match flags.next r with
    | [] => none
    | c :: r =>
      if c.isAlpha ∨ c = '-' then do
        let (name, rest) ← flags.toBrace (r.length + 2) (c :: r)
        match String.ofList name with
        | "start" => some (.wordStart flags.unicode, rest)
        | "end" => some (.wordEnd flags.unicode, rest)
        | "start-half" => some (.wordStartHalf flags.unicode, rest)
        | "end-half" => some (.wordEndHalf flags.unicode, rest)
        | _ => none
      else some (.wordBoundary flags.unicode, s)
  | _ => some (.wordBoundary flags.unicode, s)

def Flags.escape (flags : Flags) : List Char → Option (Escape × List Char)
  | [] => none
  | c :: r =>
    if c = 'x' then flags.hexEscape 2 r
    else if c = 'u' then flags.hexEscape 4 r
    else if c = 'U' then flags.hexEscape 8 r
    else if c = 'p' then flags.propertyEscape false r
    else if c = 'P' then flags.propertyEscape true r
    else if isEscapable c then some (.literal c.toNat false, r)
    else if c = 'b' then (flags.boundary r).map fun (condition, r) => (.look condition, r)
    else
      match flags.letterClass? c with
      | some (set, weight) => (flags.closed? false set).map fun set => (.set set weight, r)
      | none =>
        match flags.letterClass? c.toLower with
        | some (set, weight) =>
          (flags.closed? true set).map fun set => (.set set (weight + 600), r)
        | none =>
          match c with
          | 'a' => some (.literal 7 false, r)
          | 'f' => some (.literal 12 false, r)
          | 't' => some (.literal 9 false, r)
          | 'n' => some (.literal 10 false, r)
          | 'r' => some (.literal 13 false, r)
          | 'v' => some (.literal 11 false, r)
          | 'A' => some (.look .textStart, r)
          | 'z' => some (.look .textEnd, r)
          | 'B' => some (.look (.noWordBoundary flags.unicode), r)
          | '<' => some (.look (.wordStart flags.unicode), r)
          | '>' => some (.look (.wordEnd flags.unicode), r)
          | _ => none

def byteLength (n : Nat) : Nat :=
  if n < 0x80 then 1 else if n < 0x800 then 2 else if n < 0x10000 then 3 else 4

/-- The expression for a literal. A single byte beyond ASCII is no character. -/
def Flags.literal? (flags : Flags) (code : Nat) (byte : Bool) : Option Regex :=
  if !flags.unicode && byte && 128 ≤ code then none
  else
    let set := if flags.unicode || code < 128 then flags.folded (· == code) else (· == code)
    some (.one set (32 * byteLength code))

/-! ### Sets in brackets -/

inductive SetOperation where
  | intersection
  | difference
  | symmetricDifference

def SetOperation.apply (s t : CodeSet) : SetOperation → CodeSet
  | .intersection => fun n => s n && t n
  | .difference => fun n => s n && !(t n)
  | .symmetricDifference => fun n => s n != t n

def setOperation? : List Char → Option (SetOperation × List Char)
  | '&' :: '&' :: r => some (.intersection, r)
  | '-' :: '-' :: r => some (.difference, r)
  | '~' :: '~' :: r => some (.symmetricDifference, r)
  | _ => none

def asciiClass? (name : String) : Option CodeSet :=
  let upper (n : Nat) : Bool := 65 ≤ n && n ≤ 90
  let lower (n : Nat) : Bool := 97 ≤ n && n ≤ 122
  let digit (n : Nat) : Bool := 48 ≤ n && n ≤ 57
  match name with
  | "alnum" => some fun n => upper n || lower n || digit n
  | "alpha" => some fun n => upper n || lower n
  | "ascii" => some fun n => n < 128
  | "blank" => some fun n => n == 9 || n == 32
  | "cntrl" => some fun n => n < 32 || n == 127
  | "digit" => some digit
  | "graph" => some fun n => 33 ≤ n && n ≤ 126
  | "lower" => some lower
  | "print" => some fun n => 32 ≤ n && n ≤ 126
  | "punct" => some fun n => 33 ≤ n && n ≤ 126 && !(upper n || lower n || digit n)
  | "space" => some isAsciiSpace
  | "upper" => some upper
  | "word" => some isAsciiWord
  | "xdigit" => some fun n => digit n || 65 ≤ n && n ≤ 70 || 97 ≤ n && n ≤ 102
  | _ => none

def namedClass? (s : List Char) : Option (Bool × CodeSet × List Char) :=
  match s with
  | '[' :: ':' :: r =>
    let (negated, r) :=
      match r with
      | '^' :: r => (true, r)
      | r => (false, r)
    let name := r.takeWhile fun c => c != ':'
    match r.drop name.length with
    | ':' :: ']' :: rest => (asciiClass? (String.ofList name)).map fun s => (negated, s, rest)
    | _ => none
  | _ => none

def Flags.member (flags : Flags) : List Char → Option (Escape × List Char)
  | [] => none
  | c :: r => if c = '\\' then flags.escape r else some (.literal c.toNat false, r)

/-- The code of a literal member. Without the Unicode flag it has to be ASCII. -/
def Flags.memberCode? (flags : Flags) : Escape → Option Nat
  | .literal code _ => if flags.unicode || code < 128 then some code else none
  | _ => none

def Flags.range (flags : Flags) (s : List Char) : Option (CodeSet × Nat × List Char) := do
  let (low, r) ← flags.member s
  let r := flags.next r
  let single : Option (CodeSet × Nat × List Char) :=
    match low with
    | .set set weight => some (set, weight, r)
    | .look _ => none
    | .literal _ _ => (flags.memberCode? low).map fun code => ((· == code), 32, r)
  match r with
  | [] => none
  | '-' :: r' =>
    match flags.next r' with
    | [] => none
    | ']' :: _ => single
    | '-' :: _ => single
    | r' => do
      let (high, r) ← flags.member r'
      let low ← flags.memberCode? low
      let high ← flags.memberCode? high
      if low ≤ high then some (fun n => low ≤ n && n ≤ high, 64, r) else none
  | _ => single

/-- What has been read of a set in brackets: the operation before the union that is being
read, with its left side, and the union. -/
structure SetState where
  left : Option (CodeSet × SetOperation) := none
  union : CodeSet := fun _ => false
  weight : Nat := 32

def SetState.value (flags : Flags) (state : SetState) : CodeSet :=
  match state.left with
  | none => state.union
  | some (left, operation) => operation.apply (flags.folded left) (flags.folded state.union)

def SetState.add (state : SetState) (s : CodeSet) (weight : Nat) : SetState :=
  ⟨state.left, fun n => state.union n || s n, state.weight + weight⟩

/-- The leading hyphens of a set, which stand for themselves. -/
def Flags.leadingHyphens (flags : Flags) : Nat → SetState → List Char → SetState × List Char
  | 0, state, s => (state, s)
  | n + 1, state, s =>
    match s with
    | '-' :: r => leadingHyphens flags n (state.add (· == 45) 32) (flags.next r)
    | s => (state, s)

/-- Reads the opening of a set behind its bracket: whether it is negated, and the hyphens and
the closing bracket that stand for themselves in front. -/
def Flags.openSet (flags : Flags) (s : List Char) : Bool × SetState × List Char :=
  let s := flags.next s
  let (negated, s) :=
    match s with
    | '^' :: r => (true, flags.next r)
    | s => (false, s)
  let (state, r) := flags.leadingHyphens s.length {} s
  match s, r with
  | ']' :: _, _ => (negated, state.add (· == 93) 32, flags.next (s.drop 1))
  | _, r => (negated, state, r)

def Flags.setTail (flags : Flags) :
    Nat → Bool → SetState → List Char → Option (CodeSet × Nat × List Char)
  | 0, _, _, _ => none
  | n + 1, negated, state, s =>
    match flags.next s with
    | [] => none
    | c :: r =>
      if c = ']' then do
        let set ← flags.closed? negated (flags.folded (state.value flags))
        some (set, if negated then state.weight + 600 else state.weight, r)
      else if c = '[' then
        match namedClass? (c :: r) with
        | some (classNegated, set, rest) => do
          let set ← flags.closed? classNegated (flags.folded set)
          setTail flags n negated (state.add set 64) rest
        | none => do
          let (innerNegated, inner, r) := flags.openSet r
          let (set, weight, rest) ← setTail flags n innerNegated inner r
          setTail flags n negated (state.add set weight) rest
      else
        match setOperation? (c :: r) with
        | some (operation, rest) =>
          setTail flags n negated
            ⟨some (state.value flags, operation), fun _ => false, state.weight⟩ rest
        | none => do
          let (set, weight, rest) ← flags.range (c :: r)
          setTail flags n negated (state.add set weight) rest

def Flags.bracketed (flags : Flags) (s : List Char) : Option (Regex × List Char) := do
  let (negated, state, r) := flags.openSet s
  let (set, weight, rest) ← flags.setTail (2 * s.length + 2) negated state r
  some (.one set weight, rest)

/-! ### Repetitions -/

/-- Reads a decimal number with blanks around it; its value has to fit 32 bits. -/
def Flags.count (flags : Flags) (s : List Char) : Option (Nat × List Char) :=
  let isDigitOrSkipped (c : Char) : Bool := c.isDigit || flags.verbose && isWhiteSpace c.toNat
  let start := s.dropWhile fun c => isWhiteSpace c.toNat
  let digits := (start.takeWhile isDigitOrSkipped).filter Char.isDigit
  let rest := (start.dropWhile isDigitOrSkipped).dropWhile fun c => isWhiteSpace c.toNat
  let value := digits.foldl (fun n c => 10 * n + (c.toNat - 48)) 0
  if digits = [] ∨ 0x100000000 ≤ value then none else some (value, flags.next rest)

def Flags.counts (flags : Flags) (s : List Char) : Option (Nat × Option Nat × List Char) := do
  let (min, r) ← flags.count (flags.next s)
  match r with
  | '}' :: r => some (min, some min, r)
  | ',' :: r =>
    match flags.next r with
    | '}' :: r => some (min, none, r)
    | r => do
      let (max, r) ← flags.count r
      match r with
      | '}' :: r => if min ≤ max then some (min, some max, r) else none
      | _ => none
  | _ => none

/-- Skips the mark that makes a repetition prefer fewer turns, which does not change whether
there is a match. -/
def skipReluctant : List Char → List Char
  | '?' :: r => r
  | s => s

/-- Repeats the last item; there has to be one, and flags are none. -/
def repeatLast (min : Nat) (max : Option Nat) : List (Option Regex) → Option (List (Option Regex))
  | some r :: items => some (some (.times min max r) :: items)
  | _ => none

/-! ### Groups -/

def Flags.set? (flags : Flags) (on : Bool) : Char → Option Flags
  | 'i' => some { flags with ignoreCase := on }
  | 'm' => some { flags with multiLine := on }
  | 's' => some { flags with dotAll := on }
  | 'u' => some { flags with unicode := on }
  | 'R' => some { flags with crlf := on }
  | 'x' => some { flags with verbose := on }
  | 'U' => some flags
  | _ => none

/-- Reads flag letters up to `:` or `)`. No letter may occur twice, and what is switched off
stands behind a single hyphen. -/
def readFlags (flags : Flags) (on : Bool) :
    List Char → List Char → Option (Flags × List Char × List Char)
  | _, [] => none
  | seen, c :: r =>
    if c = ':' ∨ c = ')' then
      if seen.head? = some '-' then none else some (flags, seen, c :: r)
    else if seen.contains c then none
    else if c = '-' then readFlags flags false (c :: seen) r
    else
      match flags.set? on c with
      | some flags => readFlags flags on (c :: seen) r
      | none => none

def isNamePart (first : Bool) (c : Char) : Bool :=
  c == '_' || isAlphabetic c.toNat ||
    !first && (c == '.' || c == '[' || c == ']' || isNumeric c.toNat)

def groupName? (s : List Char) : Option (String × List Char) :=
  let name := s.takeWhile fun c => c != '>'
  match name, s.drop name.length with
  | first :: others, '>' :: rest =>
    if isNamePart true first && others.all (isNamePart false) then some (String.ofList name, rest)
    else none
  | _, _ => none

/-- What an opening parenthesis begins. -/
inductive Opening where
  /-- Flags for the rest of the group around. -/
  | setFlags (flags : Flags)
  /-- A group with its flags and its name, if it has one. -/
  | group (flags : Flags) (name : Option String)

def Flags.opening (flags : Flags) (s : List Char) : Option (Opening × List Char) :=
  let named (r : List Char) : Option (Opening × List Char) :=
    (groupName? r).map fun (name, rest) => (.group flags (some name), rest)
  match flags.next s with
  | '?' :: '=' :: _ => none
  | '?' :: '!' :: _ => none
  | '?' :: '<' :: '=' :: _ => none
  | '?' :: '<' :: '!' :: _ => none
  | '?' :: 'P' :: '<' :: r => named r
  | '?' :: '<' :: r => named r
  | '?' :: r =>
    match readFlags flags true [] r with
    | some (inner, seen, ')' :: rest) => if seen = [] then none else some (.setFlags inner, rest)
    | some (inner, _, ':' :: rest) => some (.group inner none, rest)
    | _ => none
  | s => some (.group flags none, s)

/-! ### Expressions -/

def sequenceOf (items : List (Option Regex)) : Regex :=
  (items.filterMap id).foldl (fun later r => .concat r later) .empty

def alternativesOf (last : Regex) (earlier : List Regex) : Regex :=
  earlier.foldl (fun later r => .either r later) last

def Flags.primitive (flags : Flags) (c : Char) (r : List Char) : Option (Regex × List Char) :=
  if c = '\\' then do
    let (e, rest) ← flags.escape r
    match e with
    | .literal code byte => (flags.literal? code byte).map (·, rest)
    | .set set weight => some (.one set weight, rest)
    | .look condition => some (.look condition, rest)
  else if c = '.' then
    if flags.unicode then
      let isEnd (n : Nat) : Bool := n == 10 || flags.crlf && n == 13
      some (.one (fun n => flags.dotAll || !isEnd n) 600, r)
    else none
  else if c = '^' then
    some (.look (if flags.multiLine then .lineStart flags.crlf else .textStart), r)
  else if c = '$' then
    some (.look (if flags.multiLine then .lineEnd flags.crlf else .textEnd), r)
  else (flags.literal? c.toNat false).map (·, r)

/-- Reads the alternatives of a group up to its end, which is left ahead. `names` are the
names given to groups so far, `earlier` the alternatives before this one and `items` what has
been read of it, both last first. -/
def readAlternatives : Nat → Flags → List String → List Regex → List (Option Regex) → List Char →
    Option (Regex × List String × List Char)
  | 0, _, _, _, _, _ => none
  | n + 1, flags, names, earlier, items, s =>
    match flags.next s with
    | [] => some (alternativesOf (sequenceOf items) earlier, names, [])
    | c :: r =>
      if c = ')' then some (alternativesOf (sequenceOf items) earlier, names, c :: r)
      else if c = '|' then readAlternatives n flags names (sequenceOf items :: earlier) [] r
      else if c = '(' then
        match flags.opening r with
        | none => none
        | some (.setFlags flags, rest) =>
          readAlternatives n flags names earlier (none :: items) rest
        | some (.group inner name, rest) => do
          let names ←
            match name with
            | some name => if names.contains name then none else some (name :: names)
            | none => some names
          let (group, names, rest) ← readAlternatives n inner names [] [] rest
          match rest with
          | ')' :: rest => readAlternatives n flags names earlier (some group :: items) rest
          | _ => none
      else if c = '[' then do
        let (set, rest) ← flags.bracketed r
        readAlternatives n flags names earlier (some set :: items) rest
      else if c = '?' then do
        let items ← repeatLast 0 (some 1) items
        readAlternatives n flags names earlier items (skipReluctant r)
      else if c = '*' then do
        let items ← repeatLast 0 none items
        readAlternatives n flags names earlier items (skipReluctant r)
      else if c = '+' then do
        let items ← repeatLast 1 none items
        readAlternatives n flags names earlier items (skipReluctant r)
      else if c = '\x7b' then do
        let (min, max, rest) ← flags.counts r
        let items ← repeatLast min max items
        readAlternatives n flags names earlier items (skipReluctant (flags.next rest))
      else do
        let (item, rest) ← flags.primitive c r
        readAlternatives n flags names earlier (some item :: items) rest

/-- The expression of a pattern, unless the pattern is not well formed or its expression is
too large. -/
def Regex.ofText? (text : String) : Option Regex :=
  match readAlternatives (text.length + 1) {} [] [] [] text.toList with
  | some (r, _, []) => if r.weight ≤ maxWeight then some r else none
  | _ => none

end DecoratorGraph.Pattern

namespace DecoratorGraph

/-- A pattern that selects names: its text and its expression. -/
structure NamePattern where
  text : String
  regex : Pattern.Regex

namespace NamePattern

def ofText? (text : String) : Option NamePattern :=
  (Pattern.Regex.ofText? text).map fun regex => ⟨text, regex⟩

def isMatch (p : NamePattern) (name : String) : Bool := p.regex.matchesIn name.toList

/-- The pattern that applies when none is given: components and views. -/
def defaultText : String := "(Component|View)"

end NamePattern

end DecoratorGraph
