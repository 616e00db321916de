import DecoratorGraph.Proofs.Script.Lexemes
import DecoratorGraph.Script.Literal
import Mathlib.Data.List.Forall2

/-!
# Ways to write an expression

`Spells e s` says that the text `s` is a way to write the expression `e`, without saying how it is
read. Strings may have any contents and either quotes, lists may end with a comma, and gaps may
stand between any two lexemes. What a way to write an expression leaves open is all that reading
forgets, apart from the text of a dotted reference, which is kept as it is written.
-/

namespace DecoratorGraph.Script

/-! ### Strings -/

/-- What stands behind a backslash for a character: quotes and backslashes stand for themselves,
characters that end a line have letters or numbers. -/
def escapes : List (Char × List Char) :=
  [('"', ['"']), ('\'', ['\'']), ('\\', ['\\']), ('\n', ['n']), ('\r', ['r']),
    ('\u2028', "u2028".toList), ('\u2029', "u2029".toList)]

inductive SpellsCharacter (quote : Char) : Char → List Char → Prop
  | plain {c : Char} (hc : c ∉ [quote, '\\', '\n', '\r']) : SpellsCharacter quote c [c]
  | escaped {c : Char} {u : List Char} (hc : (c, u) ∈ escapes) : SpellsCharacter quote c ('\\' :: u)

def SpellsString (value : String) (s : List Char) : Prop :=
  ∃ quote ∈ ['"', '\''], ∃ pieces,
    List.Forall₂ (SpellsCharacter quote) value.toList pieces ∧
      s = quote :: (pieces.flatten ++ [quote])

/-! ### References -/

/-- The words that mean something else than a name where an expression begins. -/
def reservedWords : List String :=
  ["this", "super", "null", "true", "false", "undefined", "import", "function", "class", "async",
    "namespace", "new", "typeof", "void", "delete", "await", "yield"]

inductive Selections : List Char → Prop
  | nil : Selections []
  | cons {g g' w t : List Char} (hg : Gap g) (hg' : Gap g') (hw : IsName w) (ht : Selections t) :
      Selections (g ++ '.' :: (g' ++ (w ++ t)))

inductive SpellsReference : Expr → List Char → Prop
  | identifier {w : List Char} (hw : IsName w) (hfree : String.ofList w ∉ reservedWords) :
      SpellsReference (.identifier (String.ofList w)) w
  | member {w t : List Char} (hw : IsName w) (hfree : String.ofList w ∉ reservedWords)
      (ht : Selections t) (hne : t ≠ []) :
      SpellsReference (.member (String.ofList (w ++ t))) (w ++ t)

/-! ### Lists -/

/-- The ways to write a list up to the sign that closes it. A comma may follow the last item. -/
inductive SpellsList {α : Type} (Item : α → List Char → Prop) (close : Char) :
    List α → List Char → Prop
  | nil {g : List Char} (hg : Gap g) : SpellsList Item close [] (g ++ [close])
  | last {a : α} {g s g' : List Char} (hg : Gap g) (ha : Item a s) (hg' : Gap g') :
      SpellsList Item close [a] (g ++ (s ++ (g' ++ [close])))
  | cons {a : α} {as : List α} {g s g' t : List Char} (hg : Gap g) (ha : Item a s) (hg' : Gap g')
      (has : SpellsList Item close as t) :
      SpellsList Item close (a :: as) (g ++ (s ++ (g' ++ ',' :: t)))

inductive SpellsKey : String → List Char → Prop
  | word {w : List Char} (hw : IsName w) : SpellsKey (String.ofList w) w
  | string {name : String} {s : List Char} (hs : SpellsString name s) : SpellsKey name s

inductive SpellsMember (Value : Expr → List Char → Prop) : Property → List Char → Prop
  | mk {name : String} {e : Expr} {k g g' s : List Char} (hk : SpellsKey name k) (hg : Gap g)
      (hg' : Gap g') (he : Value e s) :
      SpellsMember Value (.named name e) (k ++ (g ++ ':' :: (g' ++ s)))

/-! ### Expressions -/

/-- The ways to write an expression. -/
inductive Spells : Expr → List Char → Prop
  | string {value : String} {s : List Char} (hs : SpellsString value s) : Spells (.string value) s
  | reference {e : Expr} {s : List Char} (he : SpellsReference e s) : Spells e s
  | array {items : List Expr} {t : List Char} (ht : SpellsList Spells ']' items t) :
      Spells (.array items) ('[' :: t)
  | object {members : List Property} {t : List Char}
      (ht : SpellsList (SpellsMember Spells) '\x7d' members t) :
      Spells (.object members) ('\x7b' :: t)
  | call {callee : Expr} {arguments : List Expr} {s g t : List Char}
      (hcallee : SpellsReference callee s) (hg : Gap g) (ht : SpellsList Spells ')' arguments t) :
      Spells (.call callee arguments) (s ++ (g ++ '(' :: t))
  | construction {callee : Expr} {arguments : List Expr} {g s g' t : List Char}
      (hg : Gap g) (hne : g ≠ []) (hcallee : SpellsReference callee s) (hg' : Gap g')
      (ht : SpellsList Spells ')' arguments t) :
      Spells (.call callee arguments) ("new".toList ++ (g ++ (s ++ (g' ++ '(' :: t))))

/-! ### Decorated classes -/

inductive SpellsDecorator : String × List Expr → List Char → Prop
  | mk {w g g' t : List Char} {arguments : List Expr} (hg : Gap g) (hw : IsName w) (hg' : Gap g')
      (ht : SpellsList Spells ')' arguments t) :
      SpellsDecorator (String.ofList w, arguments) ('@' :: (g ++ (w ++ (g' ++ '(' :: t))))

inductive SpellsDecorators : List (String × List Expr) → List Char → Prop
  | nil : SpellsDecorators [] []
  | cons {d : String × List Expr} {ds : List (String × List Expr)} {g s t : List Char} (hg : Gap g)
      (hd : SpellsDecorator d s) (hds : SpellsDecorators ds t) :
      SpellsDecorators (d :: ds) (g ++ (s ++ t))

inductive ClassWords : List Char → Prop
  | plain : ClassWords "class".toList
  | abstract {g : List Char} (hg : Gap g) (hne : g ≠ []) :
      ClassWords ("abstract".toList ++ (g ++ "class".toList))

inductive ExportWords : List Char → Prop
  | named : ExportWords "export".toList
  | unnamed {g : List Char} (hg : Gap g) (hne : g ≠ []) :
      ExportWords ("export".toList ++ (g ++ "default".toList))

/-- The ways to write what stands in front of the name of a class. The decorators of an exported
class stand in front of the export, behind it, or on both sides. -/
inductive SpellsHead : List (String × List Expr) → List Char → Prop
  | plain {ds : List (String × List Expr)} {t g c : List Char} (hds : SpellsDecorators ds t)
      (hg : Gap g) (hc : ClassWords c) : SpellsHead ds (t ++ (g ++ c))
  | exported {ds ds' : List (String × List Expr)} {t g x t' g' c : List Char}
      (hds : SpellsDecorators ds t) (hg : Gap g) (hx : ExportWords x)
      (hds' : SpellsDecorators ds' t') (hg' : Gap g') (hc : ClassWords c)
      (hend : t' ++ g' ≠ []) : SpellsHead (ds ++ ds') (t ++ (g ++ (x ++ (t' ++ (g' ++ c)))))

/-- What may stand behind the last lexeme of a script: a gap, the last line of which may be a
comment. -/
inductive Trailing : List Char → Prop
  | gap {g : List Char} (hg : Gap g) : Trailing g
  | comment {g body : List Char} (hg : Gap g) (hbody : ∀ c ∈ body, c ∉ lineTerminators) :
      Trailing (g ++ ("//".toList ++ body))

end DecoratorGraph.Script
