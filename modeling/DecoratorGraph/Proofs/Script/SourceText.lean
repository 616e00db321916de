import DecoratorGraph.Proofs.Script.Remainders
import DecoratorGraph.Script.Literal

/-!
# Where expressions stand

What a stretch of a source text has to look like for an expression to stand there. A stretch is
given by the text from its start on and by what is left behind it, so that blanks can be passed over
as they are in reading. Constructs of which only the text is kept are characterised by that text
alone; what is kept in parts stands part by part.
-/

namespace DecoratorGraph.Script

/-! ### Parentheses and lists -/

/-- A stretch that something fills, outer parentheses aside. -/
inductive InParens {α : Type} (R : List Char → List Char → α → Prop) :
    List Char → List Char → α → Prop
  | bare {start rest x} (h : R start rest x) (hrest : rest <:+ start) : InParens R start rest x
  | parens {s r rest x} (h : InParens R (skip s) r x) (hclose : skip r = ')' :: rest) :
    InParens R ('(' :: s) rest x

/-- The items of a list behind its opening character: each fills a stretch, commas stand between
them, and one may be missing. -/
inductive StandsList {α : Type} (R : List Char → List Char → α → Prop) (close : Char) :
    List Char → List Char → List α → Prop
  | close {s rest} (h : skip s = close :: rest) : StandsList R close s rest []
  | gap {s t rest xs} (h : skip s = ',' :: t) (ht : StandsList R close t rest xs) :
    StandsList R close s rest xs
  | last {s r rest x} (h : R (skip s) r x) (hr : skip r = close :: rest) :
    StandsList R close s rest [x]
  | next {s r t rest x xs} (h : R (skip s) r x) (hr : skip r = ',' :: t)
    (ht : StandsList R close t rest xs) : StandsList R close s rest (x :: xs)

/-! ### Members of object literals -/

inductive Key where
  /-- A word or a number. -/
  | plain (text : List Char)
  | quoted (mark : Char) (inner : List Char)
  /-- A private name. -/
  | hidden (word : List Char)
  /-- An expression in brackets. -/
  | computed (inner : List Char)

namespace Key

def text : Key → List Char
  | plain text => text
  | quoted mark inner => mark :: inner ++ [mark]
  | hidden word => '#' :: word
  | computed inner => '[' :: inner ++ [']']

def WellFormed : Key → Prop
  | plain text => ∃ c r, text = c :: r ∧ c ∉ ['"', '\'', '#', '[']
  | quoted mark _ => mark ∈ ['"', '\'']
  | hidden _ => True
  | computed _ => True

/-- The name that a key stands for, however it is written. -/
def name? : Key → Option String
  | computed _ => none
  | quoted mark inner => some (Literal.value (mark :: inner ++ [mark]))
  | key => some (String.ofList key.text)

end Key

inductive MemberForm where
  | pair (key : Key)
  /-- A method, a getter or a setter. -/
  | method (key : Key)
  | shorthand (name : String)
  | spread
  /-- A name with a default value, which only a pattern can have. -/
  | defaulted

inductive Modifiers : List Char → List Char → Prop
  | none {s} : Modifiers s s
  | word {s t w} (hw : w ∈ memberModifiers) (h : Modifiers (skip s) t) :
    Modifiers (w.toList ++ s) t
  | star {s t} (h : Modifiers (skip s) t) : Modifiers ('*' :: s) t

inductive MemberForm.Layout (R : List Char → List Char → Expr → Prop) :
    MemberForm → List Char → List Char → Expr → Prop
  | pair {key s r rest e} (hkey : key.WellFormed) (hcolon : skip r = ':' :: s)
    (hvalue : R (skip s) rest e) : Layout R (.pair key) (key.text ++ r) rest e
  | method {key start r rest text} (hkey : key.WellFormed) (hstart : start = text.toList ++ rest)
    (hmodifiers : Modifiers start (key.text ++ r))
    (hsignature : (skip r).head? ∈ [some '(', some '<', some '?']) :
    Layout R (.method key) start rest (.other "method_definition" text)
  | shorthand {name rest} : Layout R (.shorthand name) (name.toList ++ rest) rest (.identifier name)
  | spread {start rest text} (hstart : start = text.toList ++ rest)
    (hdots : "...".toList <+: start) : Layout R .spread start rest (.other "spread_element" text)
  | defaulted {start rest text} (hstart : start = text.toList ++ rest) :
    Layout R .defaulted start rest (.other "object_assignment_pattern" text)

namespace MemberForm

def name? : MemberForm → Option String
  | pair key => key.name?
  | method key => key.name?
  | shorthand name => some name
  | spread => none
  | defaulted => none

/-- The name that a member is kept under: a private name counts as none in front of a value, and a
method is kept under its key as it is written. -/
def keptName? : MemberForm → Option String
  | pair (.hidden _) => none
  | method key => some (String.ofList key.text)
  | form => form.name?

end MemberForm

inductive StandsMember (R : List Char → List Char → Expr → Prop) :
    List Char → List Char → Property → Prop
  | intro {form start rest p} (h : MemberForm.Layout R form start rest p.value)
    (hname : p.name = form.keptName?) : StandsMember R start rest p

/-! ### Expressions -/

/-- The parts of a template up to and with its closing mark, each kept by its text. -/
inductive StandsParts : List Char → List Char → List Expr → Prop
  | close {rest} : StandsParts ('\x60' :: rest) rest []
  | part {start r rest kind text parts} (hstart : start = text.toList ++ r)
    (h : StandsParts r rest parts) : StandsParts start rest (.other kind text :: parts)

/-- The parenthesis that opens arguments is the next lexeme, unless the mark of an optional chain or
type arguments stand in front of it. -/
inductive OpensArguments : List Char → List Char → Prop
  | plain {r s} (h : skip r = '(' :: s) : OpensArguments r s
  | marked {r s} (hmark : (skip r).head? ∈ [some '?', some '<']) (hs : '(' :: s <:+ skip r) :
    OpensArguments r s

/-- What fills a stretch as an expression. No item begins with two points, so the text of an array
is not `[..]`; nor does a member. -/
inductive Stands : List Char → List Char → Expr → Prop
  | string {start rest mark inner} (hmark : mark ∈ ['"', '\'', '\x60'])
    (hstart : start = mark :: inner ++ [mark] ++ rest) :
    Stands start rest (.string (Literal.value (mark :: inner ++ [mark])))
  | identifier {start rest name} (hstart : start = name.toList ++ rest) :
    Stands start rest (.identifier name)
  | member {start rest text} (hstart : start = text.toList ++ rest) :
    Stands start rest (.member text)
  | other {start rest kind text} (hstart : start = text.toList ++ rest) :
    Stands start rest (.other kind text)
  | array {s rest items} (h : StandsList (InParens Stands) ']' s rest items)
    (hpoints : ¬ ['.', '.', ']'] <+: s) : Stands ('[' :: s) rest (.array items)
  | object {s rest members} (h : StandsList (StandsMember (InParens Stands)) '\x7d' s rest members)
    (hpoints : ¬ ['.', '.', '\x7d'] <+: s) : Stands ('\x7b' :: s) rest (.object members)
  | call {start r s rest callee arguments} (hcallee : InParens Stands start r callee)
    (hopen : OpensArguments r s) (h : StandsList (InParens Stands) ')' s rest arguments) :
    Stands start rest (.call callee arguments)
  | tagged {start r s rest callee parts} (hcallee : InParens Stands start r callee)
    (hopen : skip r = '\x60' :: s) (h : StandsParts s rest parts) :
    Stands start rest (.call callee parts)
  | construction {r s t rest callee arguments} (hcallee : InParens Stands (skip s) r callee)
    (hopen : OpensArguments r t) (h : StandsList (InParens Stands) ')' t rest arguments) :
    Stands ("new".toList ++ s) rest (.call callee arguments)
  | bareConstruction {r s rest callee} (hcallee : InParens Stands (skip s) r callee)
    (hrest : rest <:+ r) : Stands ("new".toList ++ s) rest (.call callee [])

def StandsWithin (s : List Char) (e : Expr) : Prop :=
  ∃ start rest, start <:+ s ∧ InParens Stands start rest e

/-- What an expression is made of, the expression itself included. -/
inductive Inside (e : Expr) : Expr → Prop
  | self : Inside e e
  | item {x items} (hx : x ∈ items) (h : Inside e x) : Inside e (.array items)
  | value {p : Property} {members} (hp : p ∈ members) (h : Inside e p.value) :
    Inside e (.object members)
  | callee {callee arguments} (h : Inside e callee) : Inside e (.call callee arguments)
  | argument {x callee arguments} (hx : x ∈ arguments) (h : Inside e x) :
    Inside e (.call callee arguments)

/-! ### What stands inside -/

section

variable {α : Type} {R : List Char → List Char → α → Prop} {close : Char}
  {s t start rest : List Char} {x : α} {xs : List α}

theorem suffix_of_skip {c : Char} (h : skip s = c :: t) : t <:+ s :=
  (List.suffix_cons c t).trans (h ▸ skip_suffix s)

theorem InParens.suffix (h : InParens R start rest x) : rest <:+ start := by
  induction h with
  | bare _ hrest => exact hrest
  | parens _ hclose ih =>
    exact (suffix_of_skip hclose).trans
      (ih.trans ((skip_suffix _).trans (List.suffix_cons _ _)))

variable (hR : ∀ start rest x, R start rest x → rest <:+ start)

include hR

theorem StandsList.suffix (h : StandsList R close s rest xs) : rest <:+ s := by
  induction h with
  | close h => exact suffix_of_skip h
  | gap h _ ih => exact ih.trans (suffix_of_skip h)
  | last h hr => exact (suffix_of_skip hr).trans ((hR _ _ _ h).trans (skip_suffix _))
  | next h hr _ ih =>
    exact ih.trans ((suffix_of_skip hr).trans ((hR _ _ _ h).trans (skip_suffix _)))

/-- Each item of a list fills a stretch of it. -/
theorem StandsList.exists_of_mem (h : StandsList R close s rest xs) (hx : x ∈ xs) :
    ∃ start r, start <:+ s ∧ R start r x := by
  induction h with
  | close => simp at hx
  | gap h _ ih =>
    obtain ⟨start, r, hstart, hr⟩ := ih hx
    exact ⟨start, r, hstart.trans (suffix_of_skip h), hr⟩
  | last h =>
    obtain rfl := List.mem_singleton.1 hx
    exact ⟨_, _, skip_suffix _, h⟩
  | next h hr _ ih =>
    obtain rfl | hx := List.mem_cons.1 hx
    · exact ⟨_, _, skip_suffix _, h⟩
    · obtain ⟨start, r', hstart, hr'⟩ := ih hx
      exact ⟨start, r', hstart.trans
        ((suffix_of_skip hr).trans ((hR _ _ _ h).trans (skip_suffix _))), hr'⟩

end

section

variable {R : List Char → List Char → Expr → Prop} {s start rest : List Char} {e : Expr}

theorem Modifiers.suffix {t : List Char} (h : Modifiers s t) : t <:+ s := by
  induction h with
  | none => exact List.suffix_rfl
  | word _ _ ih => exact ih.trans ((skip_suffix _).trans (List.suffix_append _ _))
  | star _ ih => exact ih.trans ((skip_suffix _).trans (List.suffix_cons _ _))

theorem MemberForm.Layout.suffix {form : MemberForm}
    (hR : ∀ start rest e, R start rest e → rest <:+ start)
    (h : MemberForm.Layout R form start rest e) : rest <:+ start := by
  cases h with
  | pair _ hcolon hvalue =>
    exact (hR _ _ _ hvalue).trans
      ((skip_suffix _).trans ((suffix_of_skip hcolon).trans (List.suffix_append _ _)))
  | method _ hstart => exact hstart ▸ List.suffix_append _ _
  | shorthand => exact List.suffix_append _ _
  | spread hstart => exact hstart ▸ List.suffix_append _ _
  | defaulted hstart => exact hstart ▸ List.suffix_append _ _

theorem StandsMember.suffix (hR : ∀ start rest e, R start rest e → rest <:+ start) {p : Property}
    (h : StandsMember R start rest p) : rest <:+ start := by
  obtain ⟨hlayout, -⟩ := h
  exact hlayout.suffix hR

theorem StandsWithin.mono {t : List Char} (h : StandsWithin t e) (ht : t <:+ s) :
    StandsWithin s e := by
  obtain ⟨start, rest, hstart, he⟩ := h
  exact ⟨start, rest, hstart.trans ht, he⟩

theorem StandsParts.exists_of_mem {parts : List Expr} (h : StandsParts s rest parts)
    (he : e ∈ parts) : StandsWithin s e := by
  induction h with
  | close => simp at he
  | part hstart _ ih =>
    have hr := hstart ▸ List.suffix_append _ _
    obtain rfl | he := List.mem_cons.1 he
    · exact ⟨_, _, List.suffix_rfl, .bare (.other hstart) hr⟩
    · exact (ih he).mono hr

theorem InParens.within (h : InParens Stands start rest e) : StandsWithin start e :=
  ⟨start, rest, List.suffix_rfl, h⟩

theorem StandsMember.value_within {p : Property}
    (h : StandsMember (InParens Stands) start rest p) : StandsWithin start p.value := by
  obtain ⟨hlayout, -⟩ := h
  have hsuffix := hlayout.suffix fun _ _ _ => InParens.suffix
  generalize p.value = e at hlayout
  cases hlayout with
  | pair _ hcolon hvalue =>
    exact hvalue.within.mono
      ((skip_suffix _).trans ((suffix_of_skip hcolon).trans (List.suffix_append _ _)))
  | method _ hstart => exact (InParens.bare (.other hstart) hsuffix).within
  | shorthand => exact (InParens.bare (.identifier rfl) hsuffix).within
  | spread hstart => exact (InParens.bare (.other hstart) hsuffix).within
  | defaulted hstart => exact (InParens.bare (.other hstart) hsuffix).within

theorem StandsList.within {close : Char} {items : List Expr}
    (h : StandsList (InParens Stands) close s rest items) (he : e ∈ items) : StandsWithin s e := by
  obtain ⟨start, r, hstart, hr⟩ := h.exists_of_mem (fun _ _ _ => InParens.suffix) he
  exact hr.within.mono hstart

theorem OpensArguments.suffix {r : List Char} (h : OpensArguments r s) : s <:+ r := by
  cases h with
  | plain h => exact suffix_of_skip h
  | marked _ hs => exact (List.suffix_cons _ _).trans (hs.trans (skip_suffix r))

/-- Outer parentheses aside, an expression stands as such. -/
theorem StandsWithin.exists_bare (h : StandsWithin s e) :
    ∃ start rest, start <:+ s ∧ Stands start rest e ∧ rest <:+ start := by
  obtain ⟨start, rest, hstart, he⟩ := h
  induction he with
  | bare he hrest => exact ⟨_, _, hstart, he, hrest⟩
  | parens _ _ ih => exact ih ((skip_suffix _).trans ((List.suffix_cons _ _).trans hstart))

/-- What an expression that stands in a text is made of stands in it as well. -/
theorem StandsWithin.of_inside {part : Expr} (hpart : Inside part e) (h : StandsWithin s e) :
    StandsWithin s part := by
  induction hpart with
  | self => exact h
  | item hx _ ih =>
    obtain ⟨start, rest, hstart, he, -⟩ := h.exists_bare
    cases he with
    | array hitems => exact ih ((hitems.within hx).mono ((List.suffix_cons _ _).trans hstart))
  | value hp _ ih =>
    obtain ⟨start, rest, hstart, he, -⟩ := h.exists_bare
    cases he with
    | object hmembers =>
      obtain ⟨place, r, hplace, hr⟩ :=
        hmembers.exists_of_mem (fun _ _ _ => StandsMember.suffix fun _ _ _ => InParens.suffix) hp
      exact ih (hr.value_within.mono (hplace.trans ((List.suffix_cons _ _).trans hstart)))
  | callee _ ih =>
    obtain ⟨start, rest, hstart, he, -⟩ := h.exists_bare
    cases he with
    | call hcallee => exact ih (hcallee.within.mono hstart)
    | tagged hcallee => exact ih (hcallee.within.mono hstart)
    | construction hcallee =>
      exact ih (hcallee.within.mono
        ((skip_suffix _).trans ((List.suffix_append _ _).trans hstart)))
    | bareConstruction hcallee =>
      exact ih (hcallee.within.mono
        ((skip_suffix _).trans ((List.suffix_append _ _).trans hstart)))
  | argument hx _ ih =>
    obtain ⟨start, rest, hstart, he, -⟩ := h.exists_bare
    cases he with
    | call hcallee hopen harguments =>
      exact ih ((harguments.within hx).mono (hopen.suffix.trans (hcallee.suffix.trans hstart)))
    | tagged hcallee hopen hparts =>
      exact ih ((hparts.exists_of_mem hx).mono
        ((suffix_of_skip hopen).trans (hcallee.suffix.trans hstart)))
    | construction hcallee hopen harguments =>
      exact ih ((harguments.within hx).mono (hopen.suffix.trans (hcallee.suffix.trans
        ((skip_suffix _).trans ((List.suffix_append _ _).trans hstart)))))
    | bareConstruction => simp at hx

end

end DecoratorGraph.Script
