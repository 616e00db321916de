import DecoratorGraph.Proofs.Script.Spelling

/-!
# The forms of a class

What may stand behind the name of a class, without saying how it is read: a form `L` relates a text
to what is left of it behind a construct, so `L s t` says that `s` begins with such a construct and
goes on with `t`. Gaps may stand between any two lexemes. A semicolon may be left out at the end of
a line and in front of a closing brace (`EndsClause`).

Constructs contain each other. Each is defined over a record of the forms nested in it, and the
records of growing depth close the circle (`Forms.ofDepth`).

The grammar is a part of the language. Among what it leaves out are markup elements and other
expressions that begin with an angle bracket, since the dialects differ in them, and names beyond
ASCII. A colon follows a group in parentheses only if the group could begin no parameter.
-/

namespace DecoratorGraph.Script

/-- A kind of construct: a text that begins with it, and what is left behind it. -/
abbrev Form := List Char → List Char → Prop

/-! ### Lexemes -/

inductive Spaced (Item : Form) : Form
  | mk {g s t} (hg : Gap g) (h : Item s t) : Spaced Item (g ++ s) t

inductive Sign (c : Char) : Form
  | mk {g t} (hg : Gap g) : Sign c (g ++ c :: t) t

inductive Keyword (w : String) : Form
  | mk {g t} (hg : Gap g) (hend : EndsWord t) : Keyword w (g ++ (w.toList ++ t)) t

inductive Name : Form
  | mk {g w t} (hg : Gap g) (hw : IsName w) (hend : EndsWord t) : Name (g ++ (w ++ t)) t

inductive Arrow : Form
  | mk {g t} (hg : Gap g) : Arrow (g ++ '=' :: '>' :: t) t

/-- Neither one of the words nor one of the signs is the next lexeme. -/
inductive NextNot (words : List String) (signs : List Char) : List Char → Prop
  | sign {g c t} (hg : Gap g) (hc : startsLexeme c = true) (hpart : isWordPart c = false)
      (hnot : c ∉ '\\' :: signs) : NextNot words signs (g ++ c :: t)
  | slash {g t} (hg : Gap g) (ht : t.head? ∉ [some '/', some '*']) (hnot : '/' ∉ signs) :
      NextNot words signs (g ++ '/' :: t)
  | word {g w t} (hg : Gap g) (hw : IsName w) (hend : EndsWord t)
      (hnot : String.ofList w ∉ words) : NextNot words signs (g ++ (w ++ t))

/-! ### Parts that may be missing, and rows -/

inductive Opt (Item : Form) : Form
  | none {s} : Opt Item s s
  | some {s t} (h : Item s t) : Opt Item s t

inductive Led (c : Char) (Item : Form) : Form
  | none {s} : Led c Item s s
  | some {s r t} (hc : Sign c s r) (h : Spaced Item r t) : Led c Item s t

inductive Items (Item : Form) (close : Char) : Form
  | nil {s t} (hc : Sign close s t) : Items Item close s t
  | last {s r t} (h : Spaced Item s r) (hc : Sign close r t) : Items Item close s t
  | cons {s r u t} (h : Spaced Item s r) (hc : Sign ',' r u) (ht : Items Item close u t) :
      Items Item close s t

/-- Items of an array, some of which may be left out. -/
inductive Elements (Item : Form) (close : Char) : Form
  | nil {s t} (hc : Sign close s t) : Elements Item close s t
  | last {s r t} (h : Spaced Item s r) (hc : Sign close r t) : Elements Item close s t
  | cons {s r u t} (h : Spaced Item s r) (hc : Sign ',' r u) (ht : Elements Item close u t) :
      Elements Item close s t
  | hole {s r t} (hc : Sign ',' s r) (ht : Elements Item close r t) : Elements Item close s t

inductive Enclosed (opening : Char) (Item : Form) (closing : Char) : Form
  | mk {s r t} (ho : Sign opening s r) (h : Items Item closing r t) :
      Enclosed opening Item closing s t

inductive Further (Item : Form) : Form
  | nil {s} : Further Item s s
  | cons {s r u t} (hc : Sign ',' s r) (h : Spaced Item r u) (ht : Further Item u t) :
      Further Item s t

/-- An item, and further ones behind commas. -/
inductive Sequenced (Item : Form) : Form
  | mk {s r t} (h : Spaced Item s r) (hf : Further Item r t) : Sequenced Item s t

inductive Prefixed (words : List String) (Item : Form) : Form
  | here {s t} (h : Item s t) : Prefixed words Item s t
  | word {w g s t} (hw : String.ofList w ∈ words) (hname : IsName w) (hg : Gap g)
      (hend : EndsWord (g ++ s)) (h : Prefixed words Item s t) :
      Prefixed words Item (w ++ (g ++ s)) t

inductive Dotted : Form
  | nil {s} : Dotted s s
  | cons {s r u t} (hp : Sign '.' s r) (hn : Name r u) (ht : Dotted u t) : Dotted s t

/-- What is left of a string behind its first quote. -/
inductive Quoted (quote : Char) : Form
  | close {t} : Quoted quote (quote :: t) t
  | plain {c s t} (hc : c ∉ [quote, '\\']) (h : Quoted quote s t) : Quoted quote (c :: s) t
  | escaped {c s t} (h : Quoted quote s t) : Quoted quote ('\\' :: c :: s) t

inductive IsString : Form
  | mk {quote s t} (hquote : quote ∈ ['"', '\'']) (h : Quoted quote s t) : IsString (quote :: s) t

/-- A bracketed text up to the sign that closes it: brackets in it are closed, strings are read over
and comments are gaps. -/
inductive Balanced : Char → Form
  | close {c t} : Balanced c (c :: t) t
  | plain {c d s t} (hd : d ∉ "()[]\x7b\x7d'\"\x60/".toList) (h : Balanced c s t) :
      Balanced c (d :: s) t
  | gap {c g s t} (hg : Gap g) (h : Balanced c s t) : Balanced c (g ++ s) t
  | string {c s r t} (hs : IsString s r) (h : Balanced c r t) : Balanced c s t
  | nested {c opening closing s r t}
      (hb : (opening, closing) ∈ [('(', ')'), ('[', ']'), ('\x7b', '\x7d')])
      (hs : Balanced closing s r) (h : Balanced c r t) : Balanced c (opening :: s) t

/-- Digits, with marks between them. -/
inductive Digits : List Char → Prop
  | mk {c ds} (hc : c.isDigit = true) (hds : ∀ d ∈ ds, d.isDigit = true ∨ d = '_') :
      Digits (c :: ds)

inductive Exponent : List Char → Prop
  | none : Exponent []
  | plain {e ds} (he : e ∈ ['e', 'E']) (hds : Digits ds) : Exponent (e :: ds)
  | signed {e sign ds} (he : e ∈ ['e', 'E']) (hsign : sign ∈ ['+', '-']) (hds : Digits ds) :
      Exponent (e :: sign :: ds)

inductive IsNumber : Form
  | whole {ds x t} (hds : Digits ds) (hx : Exponent x) (hend : EndsWord t)
      (hpoint : t.head? ≠ some '.') : IsNumber (ds ++ (x ++ t)) t
  | fraction {ds ds' x t} (hds : Digits ds) (hds' : ∀ d ∈ ds', d.isDigit = true ∨ d = '_')
      (hx : Exponent x) (hend : EndsWord t) : IsNumber (ds ++ '.' :: (ds' ++ (x ++ t))) t
  | big {ds t} (hds : Digits ds) (hend : EndsWord t) : IsNumber (ds ++ 'n' :: t) t
  | based {base ds t} (hbase : base ∈ "xXoObB".toList)
      (hds : ∀ d ∈ ds, d.isAlphanum = true ∧ d ≠ 'n' ∨ d = '_') (hend : EndsWord t) :
      IsNumber ('0' :: base :: (ds ++ t)) t

/-- What is left of a regular expression behind its first slash, given whether a class has been
opened. A slash in a class ends nothing. -/
inductive RegexBody : Bool → Form
  | close {t} : RegexBody false ('/' :: t) t
  | slash {s t} (h : RegexBody true s t) : RegexBody true ('/' :: s) t
  | plain {inside c s t} (hc : c ∉ ['\\', '/', '[', ']'] ++ lineTerminators)
      (h : RegexBody inside s t) : RegexBody inside (c :: s) t
  | escaped {inside c s t} (hc : c ∉ lineTerminators) (h : RegexBody inside s t) :
      RegexBody inside ('\\' :: c :: s) t
  | opening {inside s t} (h : RegexBody true s t) : RegexBody inside ('[' :: s) t
  | closing {inside s t} (h : RegexBody false s t) : RegexBody inside (']' :: s) t

/-- A regular expression behind its first slash, up to the end of its flags. -/
inductive IsRegex : Form
  | mk {s flags t} (hfirst : s.head? ∉ [some '/', some '*']) (h : RegexBody false s (flags ++ t))
      (hflags : ∀ c ∈ flags, c.isLower = true) (hend : EndsWord t) : IsRegex s t

/-- What is left of a template behind its first mark. The escapes of a tagged one are those of
single characters. -/
inductive IsTemplate (Item : Form) (tagged : Bool) : Form
  | close {t} : IsTemplate Item tagged ('\x60' :: t) t
  | plain {c s t} (hc : c ∉ ['\x60', '\\', '$']) (h : IsTemplate Item tagged s t) :
      IsTemplate Item tagged (c :: s) t
  | dollar {s t} (hs : s.head? ≠ some '\x7b') (h : IsTemplate Item tagged s t) :
      IsTemplate Item tagged ('$' :: s) t
  | escaped {c s t} (hc : tagged = true → c ∉ "xu\r01234567".toList)
      (h : IsTemplate Item tagged s t) : IsTemplate Item tagged ('\\' :: c :: s) t
  | hole {s r u t} (he : Item s r) (hc : Sign '\x7d' r u) (h : IsTemplate Item tagged u t) :
      IsTemplate Item tagged ('$' :: '\x7b' :: s) t

/-! ### Forms of nested constructs -/

/-- The forms of the constructs that may be nested in another. -/
structure Forms where
  type : Form
  pattern : Form
  /-- An expression, and whether `in` may be an operator of it. -/
  expressionAt : Bool → Form
  /-- An operand that no operator stands in front of. -/
  target : Form
  operand : Form
  statement : Form
  /-- A statement without the semicolon at its end. -/
  clause : Form

abbrev Forms.expression (F : Forms) : Form := F.expressionAt true

variable (F : Forms) (within : Bool)

/-! ### Patterns, parameters and signatures -/

inductive IsKey : Form
  | name {w t} (hw : IsName w) (hend : EndsWord t) : IsKey (w ++ t) t
  | string {s t} (h : IsString s t) : IsKey s t
  | number {s t} (h : IsNumber s t) : IsKey s t
  | hidden {w t} (hw : IsName w) (hend : EndsWord t) : IsKey ('#' :: (w ++ t)) t
  | computed {s r t} (he : Sequenced F.expression s r) (hc : Sign ']' r t) : IsKey ('[' :: s) t

inductive PatternItem : Form
  | rest {s t} (h : Spaced F.pattern s t) : PatternItem ("...".toList ++ s) t
  | plain {s r t} (h : F.pattern s r) (he : Led '=' F.expression r t) : PatternItem s t

inductive PatternMember : Form
  | rest {s t} (h : Spaced F.pattern s t) : PatternMember ("...".toList ++ s) t
  | pair {s r u v t} (hk : IsKey F s r) (hc : Sign ':' r u) (hp : Spaced F.pattern u v)
      (he : Led '=' F.expression v t) : PatternMember s t
  | shorthand {w r t} (hw : IsName w) (hend : EndsWord r) (he : Led '=' F.expression r t) :
      PatternMember (w ++ r) t

inductive IsPattern : Form
  | name {w t} (hw : IsName w) (hend : EndsWord t) : IsPattern (w ++ t) t
  | object {s t} (h : Items (PatternMember F) '\x7d' s t) : IsPattern ('\x7b' :: s) t
  | array {s t} (h : Elements (PatternItem F) ']' s t) : IsPattern ('[' :: s) t

inductive IsArgument : Form
  | plain {s t} (h : F.expression s t) : IsArgument s t
  | spread {s t} (h : Spaced F.expression s t) : IsArgument ("...".toList ++ s) t

inductive IsDecorator : Form
  | bare {s r t} (hn : Name s r) (hd : Dotted r t) (hnext : NextNot [] ['(', '<', '.'] t) :
      IsDecorator ('@' :: s) t
  | call {s r u t} (hn : Name s r) (hd : Dotted r u) (ha : Enclosed '(' (IsArgument F) ')' u t) :
      IsDecorator ('@' :: s) t

inductive IsParameter : Form
  | mk {s r u v t} (hp : F.pattern s r) (hq : Opt (Sign '?') r u) (ht : Led ':' F.type u v)
      (he : Led '=' F.expression v t) : IsParameter s t

def parameterWords : List String := ["public", "private", "protected", "override", "readonly"]

/-- A parameter with the words in front of it, or the rest of the parameters. -/
inductive ParameterItem : Form
  | plain {s t} (h : Prefixed parameterWords (IsParameter F) s t) : ParameterItem s t
  | rest {s r t} (hp : Spaced F.pattern s r) (ht : Led ':' F.type r t) :
      ParameterItem ("...".toList ++ s) t

inductive IsMarkedParameter : Form
  | plain {s t} (h : ParameterItem F s t) : IsMarkedParameter s t
  | decorator {s g r t} (hd : IsDecorator F s (g ++ r)) (hg : Gap g) (h : IsMarkedParameter r t) :
      IsMarkedParameter s t

inductive IsTypeParameter : Form
  | plain {w s t} (hw : IsName w) (hend : EndsWord s) (hd : Led '=' F.type s t) :
      IsTypeParameter (w ++ s) t
  | bounded {w s r u t} (hw : IsName w) (hend : EndsWord s) (hk : Keyword "extends" s r)
      (hb : Spaced F.type r u) (hd : Led '=' F.type u t) : IsTypeParameter (w ++ s) t

/-- A type parameter with the words in front of it. A word with `extends` behind it is one. -/
inductive TypeParameterItem : Form
  | plain {s t} (h : IsTypeParameter F s t) : TypeParameterItem s t
  | word {w g s t} (hw : w ∈ ["const", "in", "out"]) (hg : Gap g) (hne : g ≠ [])
      (hno : NextNot ["extends"] [] s) (h : TypeParameterItem s t) :
      TypeParameterItem (w.toList ++ (g ++ s)) t

inductive IsSignature : Form
  | mk {s r u t} (hg : Opt (Enclosed '<' (TypeParameterItem F) '>') s r)
      (hp : Enclosed '(' (IsMarkedParameter F) ')' r u) (ht : Led ':' F.type u t) :
      IsSignature s t

/-- A text in parentheses that begins as no parameter does. -/
inductive NoParameter : List Char → Prop
  | sign {g c t} (hg : Gap g) (hc : c ∈ "\"'\x60(!~+-0123456789".toList) : NoParameter (g ++ c :: t)
  | word {g w t} (hg : Gap g) (hw : IsName w)
      (hfree : String.ofList w ∉ "accessor" :: parameterWords)
      (hend : EndsWord t) (hnext : NextNot [] ['?', ':', '=', ',', ')'] t) :
      NoParameter (g ++ (w ++ t))

/-! ### Types -/

def typeWords : List String :=
  ["new", "abstract", "typeof", "import", "infer", "keyof", "unique", "readonly", "asserts",
    "extends", "is"]

/-- A type in a tuple, possibly behind a label. -/
inductive TupleElement : Form
  | sign {c s t} (hc : c ∈ "\"'\x60[\x7b(-0123456789".toList) (h : F.type (c :: s) t) :
      TupleElement (c :: s) t
  | word {w s r t} (hw : IsName w) (hend : EndsWord s) (hq : Opt (Sign '?') s r)
      (hnext : NextNot [] [':', '?'] r) (h : F.type (w ++ s) t) : TupleElement (w ++ s) t
  | named {w s r u t} (hw : IsName w) (hend : EndsWord s) (hq : Opt (Sign '?') s r)
      (hc : Sign ':' r u) (h : Spaced F.type u t) : TupleElement (w ++ s) t

inductive TupleItem : Form
  | plain {s r t} (h : TupleElement F s r) (hq : Opt (Sign '?') r t) : TupleItem s t
  | rest {s t} (h : Spaced (TupleElement F) s t) : TupleItem ("...".toList ++ s) t

inductive IsPrimaryType : Form
  | reference {w s r t} (hw : IsName w) (hfree : String.ofList w ∉ typeWords) (hend : EndsWord s)
      (hd : Dotted s r) (ha : Opt (Enclosed '<' F.type '>') r t) : IsPrimaryType (w ++ s) t
  | query {g w s r t} (hg : Gap g) (hne : g ≠ []) (hw : IsName w)
      (hfree : String.ofList w ∉ ["is", "import"]) (hend : EndsWord s) (hd : Dotted s r)
      (ha : Opt (Enclosed '<' F.type '>') r t) (hnext : ∀ u, ¬Sign '?' t ('.' :: u)) :
      IsPrimaryType ("typeof".toList ++ (g ++ (w ++ s))) t
  | imported {s r u v t} (ho : Sign '(' s r) (h : Balanced ')' r u) (hd : Dotted u v)
      (ha : Opt (Enclosed '<' F.type '>') v t) : IsPrimaryType ("import".toList ++ s) t
  | string {s t} (h : IsString s t) : IsPrimaryType s t
  | template {s t} (h : IsTemplate (Spaced F.type) false s t) : IsPrimaryType ('\x60' :: s) t
  | number {s t} (h : IsNumber s t) : IsPrimaryType s t
  | negative {g s t} (hg : Gap g) (h : IsNumber s t) : IsPrimaryType ('-' :: (g ++ s)) t
  | tuple {s t} (h : Items (TupleItem F) ']' s t) : IsPrimaryType ('[' :: s) t
  | object {s t} (h : Balanced '\x7d' s t) : IsPrimaryType ('\x7b' :: s) t
  | parens {s r t} (hno : NoParameter s) (h : Spaced F.type s r) (hc : Sign ')' r t) :
      IsPrimaryType ('(' :: s) t

inductive Brackets : Form
  | nil {s} : Brackets s s
  | array {g s r t} (hg : Gap g) (hline : ∀ c ∈ g, c ∉ lineTerminators) (hc : Sign ']' s r)
      (ht : Brackets r t) : Brackets (g ++ '[' :: s) t
  | index {g s r u t} (hg : Gap g) (hline : ∀ c ∈ g, c ∉ lineTerminators)
      (h : Spaced F.type s r) (hc : Sign ']' r u) (ht : Brackets u t) : Brackets (g ++ '[' :: s) t

/-- An operand of a union without the words in front of it. -/
inductive IsBareType : Form
  | plain {s r t} (h : IsPrimaryType F s r) (hb : Brackets F r t) : IsBareType s t
  | inferred {g w t} (hg : Gap g) (hne : g ≠ []) (hw : IsName w) (hfree : String.ofList w ≠ "is")
      (hend : EndsWord t) (hno : NextNot ["extends"] [] t) :
      IsBareType ("infer".toList ++ (g ++ (w ++ t))) t

inductive IsOperandType : Form
  | plain {s t} (h : IsBareType F s t) : IsOperandType s t
  | operator {w g s t} (hw : w ∈ ["keyof", "readonly", "unique"]) (hg : Gap g) (hne : g ≠ [])
      (hline : ∀ c ∈ g, c ∉ lineTerminators) (hdigit : ∀ c, s.head? = some c → c.isDigit = false)
      (h : IsOperandType s t) : IsOperandType (w.toList ++ (g ++ s)) t

inductive IsUnion : Form
  | one {s t} (h : IsOperandType F s t) : IsUnion s t
  | cons {s r g u c t} (h : IsOperandType F s r) (hc : c ∈ ['|', '&']) (ho : Sign c r (g ++ u))
      (hg : Gap g) (ht : IsUnion u t) : IsUnion s t

/-- What a function takes, and the type of what it gives. -/
inductive IsFunctionType : Form
  | mk {s r u v t} (hg : Opt (Enclosed '<' (TypeParameterItem F) '>') s r)
      (hp : Enclosed '(' (IsMarkedParameter F) ')' r u) (ha : Arrow u v) (h : Spaced F.type v t) :
      IsFunctionType s t

inductive IsPredicate : Form
  | mk {w g s t} (hw : IsName w) (hfree : String.ofList w ∉ typeWords) (hg : Gap g)
      (hne : g ≠ []) (hline : ∀ c ∈ g, c ∉ lineTerminators) (hend : EndsWord s)
      (h : Spaced F.type s t) : IsPredicate (w ++ (g ++ ("is".toList ++ s))) t

inductive IsType : Form
  | union {s t} (h : IsUnion F s t) : IsType s t
  | conditional {s r u v w x y t} (h : IsUnion F s r) (hk : Keyword "extends" r u)
      (hb : Spaced (IsUnion F) u v) (hq : Sign '?' v w) (ha : Spaced F.type w x) (hc : Sign ':' x y)
      (helse : Spaced F.type y t) : IsType s t
  | function {c s t} (hc : c ∈ ['(', '<']) (h : IsFunctionType F (c :: s) t) : IsType (c :: s) t
  | constructor {s t} (h : IsFunctionType F s t) : IsType ("new".toList ++ s) t
  | abstractConstructor {g s t} (hg : Gap g) (hne : g ≠ []) (h : IsFunctionType F s t) :
      IsType ("abstract".toList ++ (g ++ ("new".toList ++ s))) t
  | predicate {s t} (h : IsPredicate F s t) : IsType s t
  | assertion {g w s t} (hg : Gap g) (hne : g ≠ []) (hline : ∀ c ∈ g, c ∉ lineTerminators)
      (hw : IsName w) (hfree : String.ofList w ∉ ["asserts", "extends", "is"]) (hend : EndsWord s)
      (h : IsPredicate F (w ++ s) t ∨ IsUnion F (w ++ s) t) :
      IsType ("asserts".toList ++ (g ++ (w ++ s))) t

/-! ### Expressions -/

/-- Where a statement without a semicolon ends: in front of a closing brace, and at the end of a
line if the next one begins as nothing that goes on with an expression or a type. -/
inductive EndsClause : List Char → Prop
  | brace {s t} (h : Sign '\x7d' s t) : EndsClause s
  | word {g w t} (hg : Gap g) (hline : '\n' ∈ g) (hw : IsName w) (hend : EndsWord t)
      (hnot : String.ofList w ∉ ["in", "instanceof", "extends"]) : EndsClause (g ++ (w ++ t))
  | sign {g c t} (hg : Gap g) (hline : '\n' ∈ g) (hc : c ∈ ['@', '#', '"', '\'']) :
      EndsClause (g ++ c :: t)

/-- Items up to a closing brace, some of which are clauses without the semicolon at their end. -/
inductive Sequence (Item Clause : Form) : Form
  | close {s t} (hc : Sign '\x7d' s t) : Sequence Item Clause s t
  | item {s r t} (h : Spaced Item s r) (ht : Sequence Item Clause r t) : Sequence Item Clause s t
  | clause {s r t} (h : Spaced Clause s r) (hend : EndsClause r) (ht : Sequence Item Clause r t) :
      Sequence Item Clause s t

inductive IsBlock : Form
  | mk {s r t} (ho : Sign '\x7b' s r) (h : Sequence F.statement F.clause r t) : IsBlock s t

def NextIn (signs : List Char) (s : List Char) : Prop := ∃ c ∈ signs, ∃ t, Sign c s t

def modifierWords : List String :=
  ["public", "private", "protected", "static", "abstract", "override", "readonly", "declare",
    "async", "accessor", "get", "set"]

/-- A key with the words and stars in front of it. A word that another key could follow is a key
only in front of a sign. -/
inductive Modified : Form
  | key {s t} (h : IsKey F s t) (hnext : NextIn ['(', '<', '?', '!', ':', '=', ';', '\x7d'] t) :
      Modified s t
  | bare {w t} (hw : IsName w) (hend : EndsWord t) (hfree : String.ofList w ∉ modifierWords) :
      Modified (w ++ t) t
  | word {w g s t} (hw : String.ofList w ∈ modifierWords) (hname : IsName w) (hg : Gap g)
      (hend : EndsWord (g ++ s)) (h : Modified s t) : Modified (w ++ (g ++ s)) t
  | star {g s t} (hg : Gap g) (h : Modified s t) : Modified ('*' :: (g ++ s)) t

inductive IsProperty : Form
  | spread {s t} (h : Spaced F.expression s t) : IsProperty ("...".toList ++ s) t
  | pair {s r u t} (hk : IsKey F s r) (hc : Sign ':' r u) (he : Spaced F.expression u t) :
      IsProperty s t
  | shorthand {w t} (hw : IsName w) (hend : EndsWord t) : IsProperty (w ++ t) t
  | method {s r u t} (hk : Modified F s r) (hs : IsSignature F r u)
      (hb : IsBlock F u t) : IsProperty s t

/-! ### Members of classes -/

/-- A member without the semicolon at its end: a field, a method without a body, or the type of the
members with any name. -/
inductive IsField : Form
  | field {s r u v t} (hk : Modified F s r) (hm : Opt (Sign '?') r u ∨ Sign '!' r u)
      (ht : Led ':' F.type u v) (he : Led '=' F.expression v t) : IsField s t
  | signature {s r u t} (hk : Modified F s r) (hq : Opt (Sign '?') r u)
      (hs : IsSignature F u t) : IsField s t
  | index {s r u v w x t} (hn : Name s r) (hc : Sign ':' r u) (hk : Spaced F.type u v)
      (hb : Sign ']' v w) (hc' : Sign ':' w x) (ht : Spaced F.type x t) : IsField ('[' :: s) t

inductive IsMember : Form
  | empty {t} : IsMember (';' :: t) t
  | closed {s r t} (h : IsField F s r) (hc : Sign ';' r t) : IsMember s t
  | decorator {s t} (h : IsDecorator F s t) : IsMember s t
  | initializer {s t} (h : IsBlock F s t) : IsMember ("static".toList ++ s) t
  | method {s r u v t} (hk : Modified F s r) (hq : Opt (Sign '?') r u)
      (hs : IsSignature F u v) (hb : IsBlock F v t) : IsMember s t

inductive Heritage (w : String) (Item : Form) : Form
  | none {s} : Heritage w Item s s
  | some {s r u t} (hk : Keyword w s r) (h : Spaced Item r u) (hf : Further Item u t) :
      Heritage w Item s t

inductive IsClassTail : Form
  | mk {s r u v w t} (hg : Opt (Enclosed '<' (TypeParameterItem F) '>') s r)
      (he : Heritage "extends" F.target r u) (hi : Heritage "implements" F.type u v)
      (ho : Sign '\x7b' v w) (hm : Sequence (IsMember F) (IsField F) w t) : IsClassTail s t

/-- What stands behind the word `class` if the class has a name. -/
inductive NamedClass : Form
  | mk {g w s t} (hg : Gap g) (hw : IsName w) (hfree : String.ofList w ∉ ["extends", "implements"])
      (hend : EndsWord s) (h : IsClassTail F s t) : NamedClass (g ++ (w ++ s)) t

/-! ### Operands and operators -/

inductive IsSuffix : Form
  | member {s r t} (hp : Sign '.' s r) (hn : Name r t) : IsSuffix s t
  | hidden {s g w t} (hp : Sign '.' s (g ++ '#' :: (w ++ t))) (hg : Gap g) (hw : IsName w)
      (hend : EndsWord t) : IsSuffix s t
  | optional {g s t} (hg : Gap g) (hn : Name s t) : IsSuffix (g ++ '?' :: '.' :: s) t
  | optionalIndex {g s r u t} (hg : Gap g) (ho : Sign '[' s r) (he : Sequenced F.expression r u)
      (hc : Sign ']' u t) : IsSuffix (g ++ '?' :: '.' :: s) t
  | optionalCall {g s t} (hg : Gap g) (h : Enclosed '(' (IsArgument F) ')' s t) :
      IsSuffix (g ++ '?' :: '.' :: s) t
  | tagged {g s t} (hg : Gap g) (h : IsTemplate (Sequenced F.expression) true s t) :
      IsSuffix (g ++ '\x60' :: s) t
  | index {s r u t} (ho : Sign '[' s r) (he : Sequenced F.expression r u) (hc : Sign ']' u t) :
      IsSuffix s t
  | call {s t} (h : Enclosed '(' (IsArgument F) ')' s t) : IsSuffix s t
  | genericCall {s r t} (hg : Enclosed '<' F.type '>' s r)
      (h : Enclosed '(' (IsArgument F) ')' r t) : IsSuffix s t
  | instance {s t} (hg : Enclosed '<' F.type '>' s t)
      (hnext : NextIn [',', ')', ']', '\x7b', '\x7d', ';', ':'] t) : IsSuffix s t
  | step {g c t} (hg : Gap g) (hline : ∀ c ∈ g, c ∉ lineTerminators) (hc : c ∈ ['+', '-']) :
      IsSuffix (g ++ c :: c :: t) t

inductive Suffixes : Form
  | nil {s} : Suffixes s s
  | cons {s r t} (h : IsSuffix F s r) (ht : Suffixes r t) : Suffixes s t

/-- What stands behind the word `function`, up to the end of its body. -/
inductive FunctionTail (Label : Form) : Form
  | mk {s r u v t} (hstar : Opt (Sign '*') s r) (hn : Label r u) (hs : IsSignature F u v)
      (hb : IsBlock F v t) : FunctionTail Label s t

def constants : List String :=
  ["this", "super", "null", "true", "false", "undefined", "import"]

/-- An expression that begins with none of the words in front of a parameter. -/
inductive Unmarked : Form
  | sign {c s t} (hc : c ∈ "\"'\x60(!~+-0123456789[\x7b/".toList) (h : F.expression (c :: s) t) :
      Unmarked (c :: s) t
  | word {w s t} (hw : IsName w) (hend : EndsWord s)
      (hfree : String.ofList w ∉ "accessor" :: parameterWords) (h : F.expression (w ++ s) t) :
      Unmarked (w ++ s) t

inductive IsAtom : Form
  | string {s t} (h : IsString s t) : IsAtom s t
  | template {s t} (h : IsTemplate (Sequenced F.expression) false s t) : IsAtom ('\x60' :: s) t
  | name {w t} (hw : IsName w) (hfree : String.ofList w ∉ reservedWords) (hend : EndsWord t) :
      IsAtom (w ++ t) t
  | constant {w t} (hw : w ∈ constants) (hend : EndsWord t) : IsAtom (w.toList ++ t) t
  | number {s t} (h : IsNumber s t) : IsAtom s t
  | regex {s t} (h : IsRegex s t) : IsAtom ('/' :: s) t
  | array {s t} (h : Elements (IsArgument F) ']' s t) : IsAtom ('[' :: s) t
  | object {s t} (h : Items (IsProperty F) '\x7d' s t) : IsAtom ('\x7b' :: s) t
  | parens {s r t} (hno : NoParameter s) (he : Sequenced F.expression s r) (hc : Sign ')' r t) :
      IsAtom ('(' :: s) t
  | group {s r t} (he : Sequenced (Unmarked F) s r) (hc : Sign ')' r t)
      (hnext : ∀ u, ¬Sign ':' t u) : IsAtom ('(' :: s) t
  | construction {g w s r u t} (hg : Gap g) (hne : g ≠ []) (hw : IsName w)
      (hfree : String.ofList w = "this" ∨ String.ofList w ∉ reservedWords) (hend : EndsWord s)
      (hd : Dotted s r) (ha : Opt (Enclosed '<' F.type '>') r u)
      (h : Enclosed '(' (IsArgument F) ')' u t ∨
        NextIn [',', ')', ']', '\x7d', ';', ':'] u ∧ u = t) :
      IsAtom ("new".toList ++ (g ++ (w ++ s))) t
  | function {s t} (hend : EndsWord s) (h : FunctionTail F (Opt Name) s t) :
      IsAtom ("function".toList ++ s) t
  | asyncFunction {g s t} (hg : Gap g) (hne : g ≠ []) (hline : ∀ c ∈ g, c ∉ lineTerminators)
      (hend : EndsWord s) (h : FunctionTail F (Opt Name) s t) :
      IsAtom ("async".toList ++ (g ++ ("function".toList ++ s))) t
  | classLike {s t} (hend : EndsWord s) (h : NamedClass F s t ∨ IsClassTail F s t) :
      IsAtom ("class".toList ++ s) t

inductive IsTarget : Form
  | mk {s r t} (h : IsAtom F s r) (ht : Suffixes F r t) : IsTarget s t

/-- Marks that what stands in front of them is there, with what is selected behind them. -/
inductive Marks : Form
  | nil {s} : Marks s s
  | cons {g s r t} (hg : Gap g) (hline : ∀ c ∈ g, c ∉ lineTerminators)
      (hnot : s.head? ≠ some '=') (hs : Suffixes F s r) (ht : Marks r t) : Marks (g ++ '!' :: s) t

inductive IsOperand : Form
  | target {s t} (h : IsTarget F s t) : IsOperand s t
  | sign {c s t} (hc : c ∈ ['!', '~', '+', '-']) (hstep : c ∈ ['+', '-'] → s.head? ≠ some c)
      (h : Spaced F.operand s t) : IsOperand (c :: s) t
  | step {c s t} (hc : c ∈ ['+', '-']) (h : Spaced F.operand s t) : IsOperand (c :: c :: s) t
  | word {w s t} (hw : w ∈ ["typeof", "void", "delete", "await"]) (hend : EndsWord s)
      (h : Spaced F.operand s t) : IsOperand (w.toList ++ s) t

def binarySigns : List String :=
  [">>>", "===", "!==", "**", ">>", "&&", "||", "??", ">=", "==", "!=", "+", "-", "*", "/", "%",
    "&", "|", "^", ">"]

def angleSigns : List String := ["<<", "<=", "<"]

def longSigns : List String :=
  binarySigns ++ angleSigns ++ [">>>=", "**=", "<<=", ">>=", "&&=", "||=", "??=", "+=", "-=", "*=",
    "/=", "%=", "&=", "|=", "^=", "++", "--", "=>", "//", "/*"]

/-- A text that goes on with no type, and with none of the signs. -/
inductive NoTypeTail (signs : List Char) : List Char → Prop
  | next {t} (h : NextNot ["extends", "is"] (['.', '<', '[', '|', '&'] ++ signs) t) :
      NoTypeTail signs t
  | double {g c t} (hg : Gap g) (hc : c ∈ ['|', '&']) : NoTypeTail signs (g ++ c :: c :: t)

/-- A text that begins with no type parameter. -/
inductive NoTypeParameter : List Char → Prop
  | sign {g c t} (hg : Gap g) (hc : startsLexeme c = true) (hpart : isWordPart c = false)
      (hnot : c ∉ ['\\', ',', '>']) : NoTypeParameter (g ++ c :: t)
  | word {g w t} (hg : Gap g) (hw : IsName w) (hfree : String.ofList w ∉ ["const", "in", "out"])
      (hend : EndsWord t) (hnext : NextNot ["extends"] ['=', ',', '>'] t) :
      NoTypeParameter (g ++ (w ++ t))

/-- A text that begins with no type that ends in front of one of the signs. -/
inductive NoType : List Char → List Char → Prop
  | ended {signs s t} (h : Spaced F.type s t) (ht : NoTypeTail signs t) : NoType signs s
  | sign {signs g c s} (hg : Gap g) (hc : c ∈ "!~+.#@=".toList) : NoType signs (g ++ c :: s)
  | parens {signs g s} (hg : Gap g) (hno : NoParameter s) (h : NoType [')'] s) :
      NoType signs (g ++ '(' :: s)
  | angle {signs g s} (hg : Gap g) (h : NoTypeParameter s) : NoType signs (g ++ '<' :: s)

/-- A text that begins with no list of types. -/
inductive NoTypes : List Char → Prop
  | here {s} (h : NoType F [',', '>'] s) : NoTypes s
  | further {s r u} (h : Spaced F.type s r) (hc : Sign ',' r u) (ht : NoTypes u) : NoTypes s

/-- An operator between two operands, the longest that stands there. A sign that could open a list
of types is one if there is none. -/
inductive Operator : Form
  | sign {g op t} (hg : Gap g) (hop : op ∈ binarySigns)
      (hlong : ∀ sign ∈ longSigns, sign.toList <+: op.toList ++ t → sign.length ≤ op.length) :
      Operator (g ++ (op.toList ++ t)) t
  | angle {g op t} (hg : Gap g) (hop : op ∈ angleSigns)
      (hlong : ∀ sign ∈ longSigns, sign.toList <+: op.toList ++ t → sign.length ≤ op.length)
      (hno : NoTypes F (op.toList.tail ++ t)) : Operator (g ++ (op.toList ++ t)) t
  | word {s t} (h : Keyword "instanceof" s t) : Operator s t
  | within {s t} (hwithin : within = true) (h : Keyword "in" s t) : Operator s t

inductive ChainTail : Form
  | nil {s} : ChainTail s s
  | cons {s r u v t} (ho : Operator F within s r) (h : Spaced F.operand r u) (hm : Marks F u v)
      (ht : ChainTail v t) : ChainTail s t

inductive Assertions : Form
  | nil {s} : Assertions s s
  | cons {g w s r t} (hg : Gap g) (hline : ∀ c ∈ g, c ∉ lineTerminators)
      (hw : w ∈ ["as", "satisfies"]) (hend : EndsWord s) (h : Spaced F.type s r)
      (ht : Assertions r t) : Assertions (g ++ (w.toList ++ s)) t

inductive IsChain : Form
  | mk {s r u v t} (h : IsOperand F s r) (hm : Marks F r u) (ht : ChainTail F within u v)
      (ha : Assertions F v t) : IsChain s t

/-! ### Values -/

def compoundSigns : List String :=
  [">>>=", "**=", "<<=", ">>=", "&&=", "||=", "??=", "+=", "-=", "*=", "/=", "%=", "&=", "|=",
    "^="]

inductive Assigns : Form
  | plain {s t} (h : Sign '=' s t) : Assigns s t
  | compound {g op t} (hg : Gap g) (hop : op ∈ compoundSigns) :
      Assigns (g ++ (op.toList ++ t)) t

inductive ArrowHead : Form
  | name {w t} (hw : IsName w) (hfree : String.ofList w ∉ reservedWords) (hend : EndsWord t) :
      ArrowHead (w ++ t) t
  | parameters {s r t} (h : Items (IsMarkedParameter F) ')' s r) (ht : Led ':' F.type r t) :
      ArrowHead ('(' :: s) t

inductive ArrowTail : Form
  | block {s r t} (ha : Arrow s r) (hb : IsBlock F r t) : ArrowTail s t
  | value {s r t} (ha : Arrow s r) (hno : NextNot [] ['\x7b'] r)
      (he : Spaced (F.expressionAt within) r t) : ArrowTail s t

inductive IsExpression : Form
  | chain {s t} (h : IsChain F within s t) : IsExpression s t
  | assignment {s r u v t} (h : IsTarget F s r) (hm : Marks F r u) (ho : Assigns u v)
      (he : Spaced (F.expressionAt within) v t) : IsExpression s t
  | conditional {s r u v w t} (h : IsChain F within s r) (hq : Sign '?' r u)
      (ha : Spaced F.expression u v) (hc : Sign ':' v w)
      (hb : Spaced (F.expressionAt within) w t) : IsExpression s t
  | arrow {s r t} (hh : ArrowHead F s r) (ht : ArrowTail F within r t) : IsExpression s t
  | asyncArrow {g s r t} (hg : Gap g) (hline : ∀ c ∈ g, c ∉ lineTerminators)
      (hend : EndsWord (g ++ s)) (hh : ArrowHead F s r) (ht : ArrowTail F within r t) :
      IsExpression ("async".toList ++ (g ++ s)) t
  | yieldNothing {t} (hend : EndsWord t) (hnext : NextIn [')', ']', '\x7d', ',', ';', ':'] t) :
      IsExpression ("yield".toList ++ t) t
  | yield {g s t} (hg : Gap g) (hline : ∀ c ∈ g, c ∉ lineTerminators) (hend : EndsWord (g ++ s))
      (he : F.expressionAt within s t) : IsExpression ("yield".toList ++ (g ++ s)) t
  | yieldAll {g s t} (hg : Gap g) (hline : ∀ c ∈ g, c ∉ lineTerminators)
      (he : Spaced (F.expressionAt within) s t) :
      IsExpression ("yield".toList ++ (g ++ '*' :: s)) t

/-! ### Statements -/

def statementWords : List String :=
  ["export", "var", "let", "const", "function", "async", "class", "abstract", "interface", "type",
    "enum", "module", "declare", "import", "if", "while", "with", "do", "for", "switch", "try",
    "return", "throw", "break", "continue", "debugger", "else", "case", "default", "catch",
    "finally"]

/-- A text that begins a statement only if that is a value. -/
inductive BeginsValue : List Char → Prop
  | sign {c s} (hc : c ∈ "\"'[\x60(!~+-0123456789/".toList) : BeginsValue (c :: s)
  | word {w s} (hw : IsName w) (hfree : String.ofList w ∉ statementWords) (hend : EndsWord s)
      (hlabel : NextNot [] [':'] s) : BeginsValue (w ++ s)

inductive IsVariable : Form
  | mk {s r u v t} (hp : F.pattern s r) (hm : Opt (Sign '!') r u) (ht : Led ':' F.type u v)
      (he : Led '=' (F.expressionAt within) v t) : IsVariable s t

inductive IsClause : Form
  | value {s r t} (hfirst : BeginsValue s) (h : F.expression s r) (hf : Further F.expression r t) :
      IsClause s t
  | declaration {w s t} (hw : w ∈ ["var", "let", "const"]) (hend : EndsWord s)
      (hno : NextNot ["enum"] [] s) (h : Sequenced (IsVariable F true) s t) :
      IsClause (w.toList ++ s) t
  | typeAlias {g w s r u t} (hg : Gap g) (hne : g ≠ []) (hline : ∀ c ∈ g, c ∉ lineTerminators)
      (hw : IsName w) (hend : EndsWord s) (hp : Opt (Enclosed '<' (TypeParameterItem F) '>') s r)
      (he : Sign '=' r u) (h : Spaced F.type u t) : IsClause ("type".toList ++ (g ++ (w ++ s))) t
  | jump {w t} (hw : w ∈ ["return", "break", "continue", "debugger"]) (hend : EndsWord t) :
      IsClause (w.toList ++ t) t
  | jumpTo {w g label t} (hw : w ∈ ["break", "continue"]) (hg : Gap g) (hne : g ≠ [])
      (hline : ∀ c ∈ g, c ∉ lineTerminators) (hlabel : IsName label) (hend : EndsWord t) :
      IsClause (w.toList ++ (g ++ (label ++ t))) t
  | result {g s r t} (hg : Gap g) (hline : ∀ c ∈ g, c ∉ lineTerminators) (hend : EndsWord (g ++ s))
      (h : F.expression s r) (hf : Further F.expression r t) :
      IsClause ("return".toList ++ (g ++ s)) t
  | throw {s t} (hend : EndsWord s) (h : Sequenced F.expression s t) :
      IsClause ("throw".toList ++ s) t

inductive IsCondition : Form
  | mk {s r u t} (ho : Sign '(' s r) (he : Sequenced F.expression r u) (hc : Sign ')' u t) :
      IsCondition s t

inductive IsBranch : Form
  | statement {s t} (h : Spaced F.statement s t) : IsBranch s t
  | clause {s t} (h : Spaced F.clause s t) (hend : EndsClause t) : IsBranch s t

/-- What a loop that counts starts with. -/
inductive LoopStart : Form
  | none {s} : LoopStart s s
  | declaration {w s r t} (hw : w ∈ ["var", "let", "const"]) (hd : Keyword w s r)
      (h : Sequenced (IsVariable F false) r t) : LoopStart s t
  | value {g s r t} (hg : Gap g) (hfirst : BeginsValue s) (h : F.expressionAt false s r)
      (hf : Further (F.expressionAt false) r t) : LoopStart (g ++ s) t

inductive IsLoopHead : Form
  | each {w k s r u v x t} (hw : w ∈ ["var", "let", "const"]) (hd : Keyword w s r)
      (hp : Spaced F.pattern r u) (hk : k ∈ ["of", "in"]) (ho : Keyword k u v)
      (he : Sequenced F.expression v x) (hc : Sign ')' x t) : IsLoopHead s t
  | ranged {k g s r u v t} (hg : Gap g) (hfirst : BeginsValue s) (h : F.expressionAt false s r)
      (hk : k ∈ ["of", "in"]) (ho : Keyword k r u) (he : Sequenced F.expression u v)
      (hc : Sign ')' v t) : IsLoopHead (g ++ s) t
  | count {s r u v x y t} (hstart : LoopStart F s r) (hs : Sign ';' r u)
      (htest : Opt (Sequenced F.expression) u v) (hs' : Sign ';' v x)
      (hstep : Opt (Sequenced F.expression) x y) (hc : Sign ')' y t) : IsLoopHead s t

inductive CaseItem : Form
  | label {s r t} (hend : EndsWord s) (he : Sequenced F.expression s r) (hc : Sign ':' r t) :
      CaseItem ("case".toList ++ s) t
  | default {s t} (hc : Sign ':' s t) : CaseItem ("default".toList ++ s) t
  | statement {s t} (h : F.statement s t) : CaseItem s t

inductive IsCatch : Form
  | parameter {s r u v w x t} (hk : Keyword "catch" s r) (ho : Sign '(' r u)
      (hp : Spaced F.pattern u v) (ht : Led ':' F.type v w) (hc : Sign ')' w x)
      (hb : IsBlock F x t) : IsCatch s t
  | plain {s r t} (hk : Keyword "catch" s r) (hb : IsBlock F r t) : IsCatch s t

inductive IsFinally : Form
  | mk {s r t} (hk : Keyword "finally" s r) (hb : IsBlock F r t) : IsFinally s t

inductive Handlers : Form
  | catch {s t} (h : IsCatch F s t) (hno : NextNot ["finally"] [] t) : Handlers s t
  | finally {s t} (h : IsFinally F s t) : Handlers s t
  | both {s r t} (h : IsCatch F s r) (h' : IsFinally F r t) : Handlers s t

/-- A class with a name, and with the decorators in front of it. -/
inductive IsClass : Form
  | plain {s t} (hend : EndsWord s) (h : NamedClass F s t) : IsClass ("class".toList ++ s) t
  | abstract {g s t} (hg : Gap g) (hne : g ≠ []) (hend : EndsWord s) (h : NamedClass F s t) :
      IsClass ("abstract".toList ++ (g ++ ("class".toList ++ s))) t
  | decorated {s g r t} (hd : IsDecorator F s (g ++ r)) (hg : Gap g) (h : IsClass r t) : IsClass s t

inductive IsStatement : Form
  | empty {t} : IsStatement (';' :: t) t
  | closed {s r t} (h : IsClause F s r) (hc : Sign ';' r t) : IsStatement s t
  | block {s t} (h : Sequence F.statement F.clause s t) : IsStatement ('\x7b' :: s) t
  | ifThen {s r t} (hc : IsCondition F s r) (h : IsBranch F r t) (hno : NextNot ["else"] [] t) :
      IsStatement ("if".toList ++ s) t
  | ifElse {s r u v t} (hc : IsCondition F s r) (h : IsBranch F r u) (he : Keyword "else" u v)
      (h' : IsBranch F v t) : IsStatement ("if".toList ++ s) t
  | while {s r t} (hc : IsCondition F s r) (h : IsBranch F r t) :
      IsStatement ("while".toList ++ s) t
  | doWhile {s r u v t} (hend : EndsWord s) (h : IsBranch F s r) (hk : Keyword "while" r u)
      (hc : IsCondition F u v) (hs : Sign ';' v t ∨ NextNot [] [';'] v ∧ v = t) :
      IsStatement ("do".toList ++ s) t
  | loop {s r u v t} (hend : EndsWord s) (ha : Opt (Keyword "await") s r) (ho : Sign '(' r u)
      (hh : IsLoopHead F u v) (h : IsBranch F v t) : IsStatement ("for".toList ++ s) t
  | switch {s r u t} (hc : IsCondition F s r) (ho : Sign '\x7b' r u)
      (h : Sequence (CaseItem F) F.clause u t) : IsStatement ("switch".toList ++ s) t
  | try {s r t} (hb : IsBlock F s r) (hh : Handlers F r t) : IsStatement ("try".toList ++ s) t
  | labelled {w s r t} (hw : IsName w) (hfree : String.ofList w ∉ statementWords)
      (hc : Sign ':' s r) (h : IsBranch F r t) : IsStatement (w ++ s) t
  | function {s t} (hend : EndsWord s) (h : FunctionTail F Name s t) :
      IsStatement ("function".toList ++ s) t
  | asyncFunction {g s t} (hg : Gap g) (hne : g ≠ []) (hline : ∀ c ∈ g, c ∉ lineTerminators)
      (hend : EndsWord s) (h : FunctionTail F Name s t) :
      IsStatement ("async".toList ++ (g ++ ("function".toList ++ s))) t
  | classLike {s t} (h : IsClass F s t) : IsStatement s t
  | enumeration {s r u t} (hend : EndsWord s) (hn : Name s r) (ho : Sign '\x7b' r u)
      (h : Balanced '\x7d' u t) : IsStatement ("enum".toList ++ s) t
  | constEnumeration {s r u v t} (hend : EndsWord s) (hk : Keyword "enum" s r) (hn : Name r u)
      (ho : Sign '\x7b' u v) (h : Balanced '\x7d' v t) : IsStatement ("const".toList ++ s) t
  | interface {s r u v x t} (hend : EndsWord s) (hn : Name s r)
      (hg : Opt (Enclosed '<' (TypeParameterItem F) '>') r u) (he : Heritage "extends" F.type u v)
      (ho : Sign '\x7b' v x) (h : Balanced '\x7d' x t) : IsStatement ("interface".toList ++ s) t

/-! ### Depth -/

def Forms.empty : Forms where
  type _ _ := False
  pattern _ _ := False
  expressionAt _ _ _ := False
  target _ _ := False
  operand _ _ := False
  statement _ _ := False
  clause _ _ := False

def Forms.deeper : Forms where
  type := IsType F
  pattern := IsPattern F
  expressionAt := IsExpression F
  target := IsTarget F
  operand := IsOperand F
  statement := IsStatement F
  clause := IsClause F

def Forms.ofDepth : Nat → Forms
  | 0 => .empty
  | n + 1 => (Forms.ofDepth n).deeper

def Forms.IsLevel (F : Forms) : Prop := ∃ n, F = Forms.ofDepth n

/-- What may follow the name of a class, however deep its constructs are nested. -/
def IsClassBody : Form := fun s t => ∃ n, IsClassTail (Forms.ofDepth n) s t

end DecoratorGraph.Script
