import DecoratorGraph.Proofs.Script.MemberNames

/-!
# Entries of calls

A call in a category's array is listed by the text of its first argument. The text is the one in the
source where that argument is a reference or of a kind that is kept by its text; a call among the
arguments is listed by its innermost callee, and arrays and objects by a fixed text each, so that
arguments that are written differently can give one entry.
-/

namespace DecoratorGraph

open Script

/-- The expressions whose text in a list of dependencies is the one in the source. -/
def Expr.KeptAsWritten : Expr → Prop
  | .identifier _ | .member _ | .other _ _ => True
  | .string _ | .array _ | .object _ | .call _ _ => False

namespace Script

/-! ### Texts of calls -/

section

variable {α : Type} {R : List Char → List Char → α → Prop} {close : Char}
  {s start rest : List Char} {f : Expr} {arguments : List Expr} {x : α} {xs : List α}

/-- Parentheses aside, what stands in a stretch stands in a part of it. -/
theorem InParens.exists_bare (h : InParens R start rest x) :
    ∃ start' rest', start' <:+ start ∧ rest <:+ rest' ∧ rest' <:+ start' ∧ R start' rest' x := by
  induction h with
  | bare h hrest => exact ⟨_, _, List.suffix_rfl, List.suffix_rfl, hrest, h⟩
  | parens _ hclose ih =>
    obtain ⟨start', rest', hstart, hrest, hstretch, h⟩ := ih
    exact ⟨start', rest', hstart.trans ((skip_suffix _).trans (List.suffix_cons _ _)),
      (suffix_of_skip hclose).trans hrest, hstretch, h⟩

theorem StandsList.close_suffix (hR : ∀ start rest x, R start rest x → rest <:+ start)
    (h : StandsList R close s rest xs) : close :: rest <:+ s := by
  induction h with
  | close h => exact h ▸ skip_suffix _
  | gap h _ ih => exact ih.trans (suffix_of_skip h)
  | last h hr => exact (hr ▸ skip_suffix _).trans ((hR _ _ _ h).trans (skip_suffix _))
  | next h hr _ ih =>
    exact ih.trans ((suffix_of_skip hr).trans ((hR _ _ _ h).trans (skip_suffix _)))

theorem StandsParts.close_suffix {parts : List Expr} (h : StandsParts s rest parts) :
    '\x60' :: rest <:+ s := by
  induction h with
  | close => exact List.suffix_rfl
  | part hstart _ ih => exact ih.trans (hstart ▸ List.suffix_append _ _)

theorem length_between (h : rest <:+ start) :
    (between start rest).length + rest.length = start.length := by
  have hstart := congrArg List.length (between_suffix h)
  rw [List.length_append] at hstart
  exact hstart.symm

def placeholders : List String := ["[..]", "\x7b..\x7d"]

theorem textBetween_not_mem_of_last {c : Char} (h : c :: rest <:+ start) (hc : c ∉ [']', '\x7d']) :
    textBetween start rest ∉ placeholders := by
  obtain ⟨u, rfl⟩ := h
  have hbetween : between (u ++ c :: rest) rest = u ++ [c] := by
    simpa using between_append (u ++ [c]) rest
  intro hmem
  have hlast : (textBetween (u ++ c :: rest) rest).toList.getLast? = some c := by
    simp [textBetween, hbetween]
  rw [placeholders, List.mem_pair] at hmem
  obtain h | h := hmem <;> rw [h] at hlast <;> simp at hlast <;> simp [← hlast] at hc

theorem textBetween_not_mem_of_head {c : Char} {t : List Char} (hstart : start = c :: t)
    (hrest : rest <:+ start) (hc : c ∉ ['[', '\x7b']) : textBetween start rest ∉ placeholders := by
  have htext := textBetween_suffix hrest
  intro hmem
  rw [placeholders, List.mem_pair] at hmem
  obtain h | h := hmem <;> rw [h, hstart] at htext <;> simp at htext <;> simp [htext.1] at hc

/-- The callee of a call stands in a part of its stretch. -/
theorem Stands.exists_callee (h : Stands start rest (.call f arguments)) (hrest : rest <:+ start) :
    ∃ start' r, InParens Stands start' r f ∧
      (between start' r).length < (between start rest).length := by
  have hstretch := length_between hrest
  have hshorter {start' r : List Char} (hf : InParens Stands start' r f)
      (hlength : start'.length + rest.length < start.length + r.length) :
      (between start' r).length < (between start rest).length := by
    have hcallee := length_between hf.suffix
    omega
  -- In every form something stands outside the callee: arguments, a template or `new`.
  cases h with
  | call hcallee hopen hlist =>
    have hclose := ((hlist.close_suffix fun _ _ _ => InParens.suffix).trans hopen.suffix).length_le
    exact ⟨_, _, hcallee, hshorter hcallee (by simp at hclose; omega)⟩
  | tagged hcallee hopen hparts =>
    have hclose := (hparts.close_suffix.trans (suffix_of_skip hopen)).length_le
    exact ⟨_, _, hcallee, hshorter hcallee (by simp at hclose; omega)⟩
  | @construction r s _ _ _ _ hcallee hopen hlist =>
    have hclose := ((hlist.close_suffix fun _ _ _ => InParens.suffix).trans hopen.suffix).length_le
    have hskip := (skip_suffix s).length_le
    exact ⟨_, _, hcallee, hshorter hcallee (by simp at hclose ⊢; omega)⟩
  | @bareConstruction r s _ _ hcallee hbehind =>
    have hclose := hbehind.length_le
    have hskip := (skip_suffix s).length_le
    exact ⟨_, _, hcallee, hshorter hcallee (by simp; omega)⟩

/-- The text of a call ends with the mark that closes its arguments, or it begins with a word. -/
theorem Stands.call_text (h : Stands start rest (.call f arguments)) (hrest : rest <:+ start) :
    textBetween start rest ∉ placeholders := by
  cases h with
  | call hcallee hopen hlist =>
    have hclose := hlist.close_suffix fun _ _ _ => InParens.suffix
    exact textBetween_not_mem_of_last (hclose.trans (hopen.suffix.trans hcallee.suffix)) (by simp)
  | tagged hcallee hopen hparts =>
    exact textBetween_not_mem_of_last
      (hparts.close_suffix.trans ((suffix_of_skip hopen).trans hcallee.suffix)) (by simp)
  | construction => exact textBetween_not_mem_of_head (c := 'n') rfl hrest (by simp)
  | bareConstruction => exact textBetween_not_mem_of_head (c := 'n') rfl hrest (by simp)

theorem length_between_le_of_suffix {start' rest' : List Char} (hstart : start' <:+ start)
    (hrest : rest <:+ rest') (hstretch : rest' <:+ start') :
    (between start' rest').length ≤ (between start rest).length := by
  have hinner := length_between hstretch
  have houter := length_between (hrest.trans (hstretch.trans hstart))
  have hle := hstart.length_le
  have hle' := hrest.length_le
  omega

theorem textBetween_of_eq {text : String} (hstart : start = text.toList ++ rest) :
    textBetween start rest = text := by
  rw [hstart, textBetween, between_append, String.ofList_toList]

theorem length_text {text : String} (hstart : start = text.toList ++ rest) :
    text.length = (between start rest).length := by
  rw [hstart, between_append, String.length_toList]

theorem length_string_value_le {mark : Char} {inner : List Char}
    (hstart : start = mark :: inner ++ [mark] ++ rest) :
    (Literal.value (mark :: inner ++ [mark])).length ≤ (between start rest).length := by
  have hinner := Literal.length_unescape_le inner
  rw [hstart, between_append, Literal.value_of_body, String.length_ofList]
  simp
  omega

/-- What stands for an expression in a list of dependencies is no longer than its text, unless it
stands for an array or an object. -/
theorem length_literalText_le {start rest : List Char} : ∀ {e : Expr}, Stands start rest e →
    rest <:+ start →
    e.literalText.length ≤ (between start rest).length ∨ e.literalText ∈ placeholders
  | .string _, .string _ hstart, _ => .inl (length_string_value_le hstart)
  | .identifier _, .identifier hstart, _ => .inl (length_text hstart).le
  | .member _, .member hstart, _ => .inl (length_text hstart).le
  | .other _ _, .other hstart, _ => .inl (length_text hstart).le
  | .array _, _, _ => .inr (by simp [Expr.literalText, placeholders])
  | .object _, _, _ => .inr (by simp [Expr.literalText, placeholders])
  | .call _ _, h, hrest => by
    obtain ⟨start', r, hcallee, hlength⟩ := h.exists_callee hrest
    obtain ⟨start'', r', hstart, hr, hstretch, hbare⟩ := hcallee.exists_bare
    have hle := length_between_le_of_suffix hstart hr hstretch
    refine (length_literalText_le hbare hstretch).imp_left fun ih => ?_
    rw [Expr.literalText]
    omega

/-- The callee's text is not the text of a call. -/
theorem Stands.literalText_callee_ne (h : Stands start rest (.call f arguments))
    (hrest : rest <:+ start) : f.literalText ≠ textBetween start rest := by
  obtain ⟨start', r, hcallee, hlength⟩ := h.exists_callee hrest
  obtain ⟨start'', r', hstart, hr, hstretch, hbare⟩ := hcallee.exists_bare
  have hle := length_between_le_of_suffix hstart hr hstretch
  intro heq
  obtain hshort | hplaceholder := length_literalText_le hbare hstretch
  · rw [heq, textBetween, String.length_ofList] at hshort
    omega
  · exact h.call_text hrest (heq ▸ hplaceholder)

theorem Stands.array_text {items : List Expr} (h : Stands start rest (.array items))
    (hrest : rest <:+ start) : textBetween start rest ≠ "[..]" := by
  cases h with
  | array hlist hpoints =>
    intro heq
    have htext := heq ▸ textBetween_suffix hrest
    exact hpoints ⟨rest, (List.cons.inj htext).2.symm⟩

theorem Stands.object_text {members : List Property} (h : Stands start rest (.object members))
    (hrest : rest <:+ start) : textBetween start rest ≠ "\x7b..\x7d" := by
  cases h with
  | object hlist hpoints =>
    intro heq
    have htext := heq ▸ textBetween_suffix hrest
    exact hpoints ⟨rest, (List.cons.inj htext).2.symm⟩

/-- What stands for an expression in a list of dependencies is its text in the source in exactly the
forms that are kept as they are written. -/
theorem Stands.literalText_eq_text_iff {e : Expr} (h : Stands start rest e)
    (hrest : rest <:+ start) : e.literalText = textBetween start rest ↔ e.KeptAsWritten := by
  match e, h with
  | .string _, .string _ hstart =>
    refine iff_of_false ?_ id
    rw [hstart, textBetween, between_append]
    exact Literal.value_ne_text _ _
  | .identifier _, .identifier hstart => exact iff_of_true (textBetween_of_eq hstart).symm trivial
  | .member _, .member hstart => exact iff_of_true (textBetween_of_eq hstart).symm trivial
  | .other _ _, .other hstart => exact iff_of_true (textBetween_of_eq hstart).symm trivial
  | .array _, h => exact iff_of_false (h.array_text hrest).symm id
  | .object _, h => exact iff_of_false (h.object_text hrest).symm id
  | .call _ _, h => exact iff_of_false (h.literalText_callee_ne hrest) id

end

/-! ### First arguments -/

/-- Blanks, commas and opening parentheses lead from a place to a later one. -/
inductive LeadsTo : List Char → List Char → Prop
  | here {s} : LeadsTo s s
  | blank {s t} (h : LeadsTo (skip s) t) : LeadsTo s t
  | sign {c s t} (hc : c ∈ [',', '(']) (h : LeadsTo s t) : LeadsTo (c :: s) t

/-- A call as it is written in a source text: it stands from `start` on, `opened` is behind the mark
that opens its arguments, and the first of them stands from `first` on, parentheses around it
aside. -/
structure WrittenCall (source : List Char) (f argument : Expr) (others : List Expr) where
  start : List Char
  rest : List Char
  within : start <:+ source
  stands : Stands start rest (.call f (argument :: others))
  behindCallee : List Char
  opened : List Char
  callee : ∃ place, place <:+ start ∧ InParens Stands place behindCallee f
  opens : OpensArguments behindCallee opened ∨ skip behindCallee = '\x60' :: opened
  first : List Char
  behindFirst : List Char
  leads : LeadsTo opened first
  first_stands : Stands first behindFirst argument
  stretch : behindFirst <:+ first

def WrittenCall.text {source : List Char} {f argument : Expr} {others : List Expr}
    (w : WrittenCall source f argument others) : String := textBetween w.first w.behindFirst

section

variable {R : List Char → List Char → Expr → Prop} {s start rest : List Char} {f e : Expr}
  {es : List Expr}

theorem InParens.exists_leadsTo (h : InParens R start rest e) :
    ∃ first r, LeadsTo start first ∧ R first r e ∧ r <:+ first := by
  induction h with
  | bare h hrest => exact ⟨_, _, .here, h, hrest⟩
  | parens _ _ ih =>
    obtain ⟨first, r, hleads, h, hr⟩ := ih
    exact ⟨first, r, .sign (by simp) (.blank hleads), h, hr⟩

theorem StandsList.exists_first {close : Char}
    (h : StandsList (InParens R) close s rest (e :: es)) :
    ∃ first r, LeadsTo s first ∧ R first r e ∧ r <:+ first := by
  generalize hes : e :: es = items at h
  induction h with
  | close => simp at hes
  | gap hcomma _ ih =>
    obtain ⟨first, r, hleads, h, hr⟩ := ih hes
    exact ⟨first, r, .blank (hcomma ▸ .sign (by simp) hleads), h, hr⟩
  | last h =>
    obtain ⟨rfl, -⟩ := List.cons.inj hes
    obtain ⟨first, r, hleads, h, hr⟩ := h.exists_leadsTo
    exact ⟨first, r, .blank hleads, h, hr⟩
  | next h =>
    obtain ⟨rfl, -⟩ := List.cons.inj hes
    obtain ⟨first, r, hleads, h, hr⟩ := h.exists_leadsTo
    exact ⟨first, r, .blank hleads, h, hr⟩

theorem exists_writtenCall {source : List Char}
    (h : StandsWithin source (.call f (e :: es))) : Nonempty (WrittenCall source f e es) := by
  obtain ⟨start, rest, hstart, hcall, -⟩ := h.exists_bare
  have hwritten {place r opened} (hplace : place <:+ start) (hf : InParens Stands place r f)
      (hopens : OpensArguments r opened ∨ skip r = '\x60' :: opened)
      (hfirst : ∃ first t, LeadsTo opened first ∧ Stands first t e ∧ t <:+ first) :
      Nonempty (WrittenCall source f e es) := by
    obtain ⟨first, t, hleads, he, ht⟩ := hfirst
    exact ⟨start, rest, hstart, hcall, r, opened, ⟨place, hplace, hf⟩, hopens, first, t, hleads, he,
      ht⟩
  cases hcall with
  | call hf hopen hlist => exact hwritten List.suffix_rfl hf (.inl hopen) hlist.exists_first
  | tagged hf hopen hparts =>
    cases hparts with
    | part hpart =>
      exact hwritten List.suffix_rfl hf (.inr hopen)
        ⟨_, _, .here, .other hpart, hpart ▸ List.suffix_append _ _⟩
  | construction hf hopen hlist =>
    exact hwritten ((skip_suffix _).trans (List.suffix_append _ _)) hf (.inl hopen)
      hlist.exists_first

end

end Script

/-- A call among the arguments of decorators is written in the source, and its entry in a category's
array is the source text of its first argument with the mark behind it in exactly the forms that are
kept as they are written. -/
theorem ParsedFile.elementEntry_call_eq_text_iff {dialect : Dialect} {path : Path} {source : String}
    {d : Declaration} {a : Annotation} {argument f first : Expr} {others : List Expr}
    (hd : d ∈ (ParsedFile.read dialect path source).declarations) (ha : a ∈ d.annotations)
    (hargument : argument ∈ a.arguments) (hcall : Inside (.call f (first :: others)) argument) :
    Nonempty (WrittenCall source.toList f first others) ∧
      ∀ (w : WrittenCall source.toList f first others) (site : Site) (property : String),
        elementEntry site property (.call f (first :: others)) = .ok (w.text ++ callMark) ↔
          first.KeptAsWritten := by
  refine ⟨exists_writtenCall (standsWithin_of_inside hd ha hargument hcall),
    fun w site property => ?_⟩
  rw [elementEntry, Except.ok.injEq, String.append_left_inj]
  exact w.first_stands.literalText_eq_text_iff w.stretch

/-- A call as the first argument of a call is not listed by its text. -/
theorem ParsedFile.elementEntry_call_ne_text_nested :
    let source := "@C(\x7bproviders: [provide(make(1))]\x7d) class A \x7b\x7d"
    let made := Expr.call (.identifier "make") [.other "number" "1"]
    Nonempty (WrittenCall source.toList (.identifier "provide") made []) ∧
      ∀ (w : WrittenCall source.toList (.identifier "provide") made []) (site : Site)
        (property : String), elementEntry site property (.call (.identifier "provide") [made]) ≠
          .ok (w.text ++ callMark) := by
  intro source made
  have hread : (ParsedFile.read .typeScript ⟨"app.ts"⟩
      "@C(\x7bproviders: [provide(make(1))]\x7d) class A \x7b\x7d").declarations =
      [⟨some "A", .classLike, 1,
        [⟨some "C", [.object [⟨some "providers", .array [.call (.identifier "provide") [made]]⟩]],
          "C(\x7bproviders: [provide(make(1))]\x7d)", 1⟩]⟩] := rfl
  obtain ⟨hwritten, hentry⟩ := ParsedFile.elementEntry_call_eq_text_iff
    (hread ▸ List.mem_singleton_self _) (List.mem_singleton_self _) (List.mem_singleton_self _)
    (.value (List.mem_singleton_self _) (.item (List.mem_singleton_self _) .self))
  exact ⟨hwritten, fun w site property => (hentry w site property).not.2 id⟩

/-- Arguments that are written differently can give one entry. -/
example (site : Site) (property : String) (made : List Expr) :
    elementEntry site property (.call (.identifier "provide") [.call (.identifier "make") made]) =
      .ok "make*" := rfl

end DecoratorGraph
