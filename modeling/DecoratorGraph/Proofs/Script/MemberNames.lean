import DecoratorGraph.Extraction
import DecoratorGraph.Proofs.Script.Decorators

/-!
# Names of members

A member of an object literal is named by its key: an identifier or a number by its text, a quoted
key by the string that it stands for, and a key in brackets gives no name. Two kinds of members
depart from that rule. A method is kept under its key as it is written, quotes and brackets
included, and a private key in front of a value is dropped.
-/

namespace DecoratorGraph.Script

/-! ### Lengths of values -/

namespace Literal

/-- An escape stands for at most as many characters as spell it. -/
theorem length_escaped_le (r : List Char) :
    (escaped r).1.length ≤ 1 + min (escaped r).2 r.length := by
  unfold escaped
  split
  all_goals grind

theorem length_unescapeFrom_add_le (pending : Nat) (s : List Char) :
    (unescapeFrom pending s).length + min pending s.length ≤ s.length := by
  induction s generalizing pending with
  | nil => cases pending <;> simp [unescapeFrom]
  | cons c r ih =>
    cases pending with
    | succ pending =>
      have hr := ih pending
      simp only [unescapeFrom, List.length_cons]
      omega
    | zero =>
      have hunits := length_escaped_le r
      have hescape := ih (escaped r).2
      have hplain := ih 0
      simp only [unescapeFrom]
      split <;> simp only [List.length_append, List.length_cons] <;> omega

/-- Reading escapes never makes a text longer. -/
theorem length_unescape_le (s : List Char) : (unescape s).length ≤ s.length := by
  have h := length_unescapeFrom_add_le 0 s
  simpa [unescape] using h

/-- The value of a quoted text is not the text, quotes included. -/
theorem value_ne_text (mark : Char) (inner : List Char) :
    value (mark :: inner ++ [mark]) ≠ String.ofList (mark :: inner ++ [mark]) := by
  intro h
  have hlength := congrArg String.length h
  have hle := length_unescape_le inner
  rw [value_of_body] at hlength
  simp only [String.length_ofList] at hlength
  simp at hlength
  omega

end Literal

/-! ### Forms -/

namespace MemberForm

/-- The forms whose members are named by their key. -/
def NamedByKey : MemberForm → Prop
  | pair (.hidden _) => False
  | method (.quoted _ _) => False
  | method (.computed _) => False
  | _ => True

theorem keptName?_eq_name?_iff (form : MemberForm) :
    form.keptName? = form.name? ↔ form.NamedByKey := by
  cases form with
  | pair key => cases key <;> simp [keptName?, name?, Key.name?, NamedByKey]
  | method key =>
    cases key with
    | quoted mark inner =>
      have hne := (Literal.value_ne_text mark inner).symm
      simpa [keptName?, name?, Key.name?, Key.text, NamedByKey] using hne
    | _ => simp [keptName?, name?, Key.name?, Key.text, NamedByKey]
  | _ => simp [keptName?, name?, NamedByKey]

/-- No category is called by the text of a quoted or of a computed key. -/
theorem text_ne_category {key : Key} (hkey : key.WellFormed) (h : ¬ (method key).NamedByKey)
    (c : Category) : String.ofList key.text ≠ c.key := by
  have hfirst : ∃ mark r, key.text = mark :: r ∧ mark ∈ ['"', '\'', '['] := by
    cases key with
    | quoted mark inner =>
      exact ⟨mark, _, rfl, List.mem_append_left ['['] (show mark ∈ ['"', '\''] from hkey)⟩
    | computed inner => exact ⟨'[', _, rfl, by simp⟩
    | _ => simp [NamedByKey] at h
  obtain ⟨mark, r, htext, hmark⟩ := hfirst
  intro heq
  have hchars := congrArg String.toList heq
  rw [htext, String.toList_ofList] at hchars
  have hhead : some mark = c.key.toList.head? := by rw [← hchars]; rfl
  cases c <;> simp_all [Category.key]

/-- A member that is not named by its key belongs to no category. -/
theorem Layout.not_isNamed {R : List Char → List Char → Expr → Prop} {form : MemberForm}
    {start rest : List Char} {p : Property} (hlayout : form.Layout R start rest p.value)
    (hname : p.name = form.keptName?) (h : ¬ form.NamedByKey) (c : Category) :
    p.isNamed c.key = false := by
  have hne : form.keptName? ≠ some c.key := by
    generalize p.value = e at hlayout
    cases hlayout with
    | @pair key =>
      cases key with
      | hidden word => simp [keptName?]
      | _ => simp [NamedByKey] at h
    | method hkey => exact fun heq => text_ne_category hkey h c (Option.some.inj heq)
    | _ => simp [NamedByKey] at h
  rw [Property.isNamed, hname]
  exact beq_false_of_ne hne

end MemberForm

end DecoratorGraph.Script

namespace DecoratorGraph

open Script

/-- Every object literal among the arguments of decorators stands in the source, and each of its
members is written there in one of the forms. It is named by its key in exactly the forms in which
keys count: a private key in front of a value is dropped, and the quoted or computed key of a method
is taken with its quotes or brackets. In the other forms it belongs to no category. -/
theorem ParsedFile.members_namedByKey_iff {dialect : Dialect} {path : Path} {source : String}
    {d : Declaration} {a : Annotation} {argument : Expr} {members : List Property}
    (hd : d ∈ (ParsedFile.read dialect path source).declarations) (ha : a ∈ d.annotations)
    (hargument : argument ∈ a.arguments) (hobject : Inside (.object members) argument) :
    ∃ place rest, place <:+ source.toList ∧ Stands place rest (.object members) ∧
      ∀ p ∈ members, ∃ form start r, start <:+ place ∧
        MemberForm.Layout (InParens Stands) form start r p.value ∧
        p.name = form.keptName? ∧ (p.name = form.name? ↔ form.NamedByKey) ∧
        (¬ form.NamedByKey → ∀ c : Category, p.isNamed c.key = false) := by
  obtain ⟨place, rest, hplace, hstands, -⟩ :=
    (standsWithin_of_inside hd ha hargument hobject).exists_bare
  refine ⟨place, rest, hplace, hstands, fun p hp => ?_⟩
  cases hstands with
  | object hmembers =>
    obtain ⟨start, r, hstart, ⟨hlayout, hname⟩⟩ :=
      hmembers.exists_of_mem (fun _ _ _ => StandsMember.suffix fun _ _ _ => InParens.suffix) hp
    exact ⟨_, start, r, hstart.trans (List.suffix_cons _ _), hlayout, hname,
      hname ▸ MemberForm.keptName?_eq_name?_iff _, hlayout.not_isNamed hname⟩

/-- The members of an object with a method under a quoted key. -/
theorem ParsedFile.members_namedByKey_iff_quotedMethod :
    let source := "@C(\x7b'providers'() \x7b\x7d\x7d) class A \x7b\x7d"
    let p : Property :=
      ⟨some "'providers'", .other "method_definition" "'providers'() \x7b\x7d"⟩
    ∃ place rest, place <:+ source.toList ∧ Stands place rest (.object [p]) ∧
      ∀ q ∈ [p], ∃ form start r, start <:+ place ∧
        MemberForm.Layout (InParens Stands) form start r q.value ∧
        q.name = form.keptName? ∧ (q.name = form.name? ↔ form.NamedByKey) ∧
        (¬ form.NamedByKey → ∀ c : Category, q.isNamed c.key = false) := by
  intro source p
  have hread : (ParsedFile.read .typeScript ⟨"app.ts"⟩
      "@C(\x7b'providers'() \x7b\x7d\x7d) class A \x7b\x7d").declarations =
      [⟨some "A", .classLike, 1,
        [⟨some "C", [.object [p]], "C(\x7b'providers'() \x7b\x7d\x7d)", 1⟩]⟩] := rfl
  exact ParsedFile.members_namedByKey_iff (hread ▸ List.mem_singleton_self _)
    (List.mem_singleton_self _) (List.mem_singleton_self _) .self

end DecoratorGraph
