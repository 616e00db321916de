import Mathlib.Data.List.Forall2

/-!
# Verdicts on computations that may fail

A computation that may fail has a *verdict*: it yields exactly these results, and it fails with
exactly these failures. Verdicts are put together like the computations: one on each step gives
one on their sequence, and one on each member of a list gives one on the whole list, which fails
with the failure of the first member that does (`FirstFails`).
-/

namespace DecoratorGraph

/-! ### Verdicts -/

/-- An outcome is a result exactly if `Yields` holds of it, and a failure exactly if `Fails`
does. -/
structure Verdict {ε α : Type} (Yields : α → Prop) (Fails : ε → Prop) (x : Except ε α) :
    Prop where
  ok : ∀ a, x = .ok a ↔ Yields a
  error : ∀ e, x = .error e ↔ Fails e

/-- The first member of a list that fails does so with this failure; those before it yield
something. -/
def FirstFails {ε α β : Type} (Yields : α → β → Prop) (Fails : α → ε → Prop) (l : List α)
    (e : ε) : Prop :=
  ∃ before a after, l = before ++ a :: after ∧ (∀ b ∈ before, ∃ y, Yields b y) ∧ Fails a e

section

variable {ε α β : Type}

theorem not_firstFails_nil {Yields : α → β → Prop} {Fails : α → ε → Prop} {e : ε} :
    ¬FirstFails Yields Fails [] e := by
  rintro ⟨before, a, after, hl, -⟩
  simp at hl

theorem firstFails_cons {Yields : α → β → Prop} {Fails : α → ε → Prop} {a : α} {l : List α}
    {e : ε} :
    FirstFails Yields Fails (a :: l) e ↔
      Fails a e ∨ (∃ y, Yields a y) ∧ FirstFails Yields Fails l e := by
  constructor
  · rintro ⟨before, b, after, hl, hbefore, hb⟩
    cases before with
    | nil =>
        obtain ⟨rfl, rfl⟩ := List.cons.inj hl
        exact Or.inl hb
    | cons c before =>
        obtain ⟨rfl, rfl⟩ := List.cons.inj hl
        refine Or.inr ⟨hbefore a List.mem_cons_self, before, b, after, rfl, ?_, hb⟩
        exact fun x hx => hbefore x (List.mem_cons_of_mem a hx)
  · rintro (ha | ⟨ha, before, b, after, rfl, hbefore, hb⟩)
    · exact ⟨[], a, l, rfl, fun b hb => absurd hb List.not_mem_nil, ha⟩
    · exact ⟨a :: before, b, after, rfl, List.forall_mem_cons.2 ⟨ha, hbefore⟩, hb⟩

/-- The failures of a list are those of its members, however they are reported. -/
theorem firstFails_report {ε' : Type} {Yields : α → β → Prop} {Fails : α → ε → Prop}
    (report : ε → ε') (l : List α) (err : ε') :
    FirstFails Yields (fun a err => ∃ e, Fails a e ∧ err = report e) l err ↔
      ∃ e, FirstFails Yields Fails l e ∧ err = report e := by
  constructor
  · rintro ⟨before, a, after, hl, hbefore, e, he, herr⟩
    exact ⟨e, ⟨before, a, after, hl, hbefore, he⟩, herr⟩
  · rintro ⟨e, ⟨before, a, after, hl, hbefore, he⟩, herr⟩
    exact ⟨before, a, after, hl, hbefore, e, he, herr⟩

namespace Verdict

variable {Yields : α → Prop} {Fails : ε → Prop}

theorem of_ok {a : α} (ha : Yields a) (hunique : ∀ b, Yields b → b = a)
    (hfails : ∀ e, ¬Fails e) : Verdict Yields Fails (.ok a) where
  ok b := ⟨fun h => Except.ok.inj h ▸ ha, fun hb => congrArg Except.ok (hunique b hb).symm⟩
  error e := ⟨(nomatch ·), fun he => absurd he (hfails e)⟩

theorem of_error {e : ε} (he : Fails e) (hunique : ∀ e', Fails e' → e' = e)
    (hyields : ∀ a, ¬Yields a) : Verdict Yields Fails (.error e : Except ε α) where
  ok a := ⟨(nomatch ·), fun ha => absurd ha (hyields a)⟩
  error e' := ⟨fun h => Except.error.inj h ▸ he,
    fun he' => congrArg Except.error (hunique e' he').symm⟩

theorem congr {Yields' : α → Prop} {Fails' : ε → Prop} {x : Except ε α}
    (h : Verdict Yields Fails x) (hyields : ∀ a, Yields a ↔ Yields' a)
    (hfails : ∀ e, Fails e ↔ Fails' e) : Verdict Yields' Fails' x :=
  ⟨fun a => (h.ok a).trans (hyields a), fun e => (h.error e).trans (hfails e)⟩

/-- A sequence fails in its first step, or in its second one after a result of the first. -/
theorem bind {Yields' : α → β → Prop} {Fails' : α → ε → Prop} {x : Except ε α}
    {f : α → Except ε β} (hx : Verdict Yields Fails x)
    (hf : ∀ a, Verdict (Yields' a) (Fails' a) (f a)) :
    Verdict (fun b => ∃ a, Yields a ∧ Yields' a b) (fun e => Fails e ∨ ∃ a, Yields a ∧ Fails' a e)
      (x >>= f) := by
  cases x with
  | error e =>
      have hnone (a : α) : ¬Yields a := fun ha => by cases (hx.ok a).2 ha
      refine of_error (Or.inl ((hx.error e).1 rfl)) ?_ fun b ⟨a, ha, _⟩ => hnone a ha
      rintro e' (he' | ⟨a, ha, -⟩)
      · cases (hx.error e').2 he'
        rfl
      · exact absurd ha (hnone a)
  | ok a =>
      have hthis (a' : α) (ha' : Yields a') : a' = a := by
        cases (hx.ok a').2 ha'
        rfl
      have ha := (hx.ok a).1 rfl
      refine (hf a).congr (fun b => ?_) fun e => ?_
      · constructor
        · exact fun hb => ⟨a, ha, hb⟩
        · rintro ⟨a', ha', hb⟩
          rwa [hthis a' ha'] at hb
      · constructor
        · exact fun he => Or.inr ⟨a, ha, he⟩
        · rintro (he | ⟨a', ha', he⟩)
          · cases (hx.error e).2 he
          · rwa [hthis a' ha'] at he

theorem map {x : Except ε α} (h : Verdict Yields Fails x) (f : α → β) :
    Verdict (fun b => ∃ a, Yields a ∧ b = f a) Fails (x >>= fun a => pure (f a)) := by
  have hpure (a : α) : Verdict (fun b => b = f a) (fun _ : ε => False) (pure (f a)) :=
    of_ok rfl (fun _ hb => hb) fun _ he => he
  exact (h.bind hpure).congr (fun b => Iff.rfl) fun e => by simp

/-- A list yields what its members yield, or fails as the first of them that fails. -/
theorem mapM {Yields : α → β → Prop} {Fails : α → ε → Prop} {f : α → Except ε β}
    (h : ∀ a, Verdict (Yields a) (Fails a) (f a)) (l : List α) :
    Verdict (List.Forall₂ Yields l) (FirstFails Yields Fails l) (l.mapM f) := by
  induction l with
  | nil =>
      refine of_ok .nil (fun bs hbs => ?_) fun _ => not_firstFails_nil
      cases hbs
      rfl
  | cons a l ih =>
      rw [List.mapM_cons]
      refine ((h a).bind fun b => ih.map (b :: ·)).congr (fun bs => ?_) fun e => ?_
      · rw [List.forall₂_cons_left_iff]
        constructor
        · rintro ⟨b, hb, bs, hbs, rfl⟩
          exact ⟨b, bs, hb, hbs, rfl⟩
        · rintro ⟨b, bs, hb, hbs, rfl⟩
          exact ⟨b, hb, bs, hbs, rfl⟩
      · rw [firstFails_cons, exists_and_right]

end Verdict

end

/-! ### Related lists -/

theorem exists_forall₂_iff {α β : Type} {R : α → β → Prop} {l : List α} :
    (∃ bs, List.Forall₂ R l bs) ↔ ∀ a ∈ l, ∃ b, R a b := by
  induction l with
  | nil => simp
  | cons a l ih =>
      rw [List.forall_mem_cons, ← ih]
      constructor
      · rintro ⟨_, h⟩
        cases h with
        | cons ha hl => exact ⟨⟨_, ha⟩, _, hl⟩
      · rintro ⟨⟨b, hb⟩, bs, hbs⟩
        exact ⟨b :: bs, .cons hb hbs⟩

/-- What the members of lists are related to, one list after the other. -/
theorem forall₂_flatMap_iff {α β γ : Type} {R : β → γ → Prop} {g : α → List β} {l : List α}
    {cs : List γ} :
    List.Forall₂ R (l.flatMap g) cs ↔
      ∃ lists, List.Forall₂ (fun a bs => List.Forall₂ R (g a) bs) l lists ∧ cs = lists.flatten := by
  induction l generalizing cs with
  | nil => simp
  | cons a l ih =>
      rw [List.flatMap_cons]
      constructor
      · intro h
        have hfirst := (List.forall₂_take_append cs (g a) (l.flatMap g) h.flip).flip
        have hrest := (List.forall₂_drop_append cs (g a) (l.flatMap g) h.flip).flip
        obtain ⟨lists, hlists, hflatten⟩ := ih.1 hrest
        refine ⟨_ :: lists, .cons hfirst hlists, ?_⟩
        rw [List.flatten_cons, ← hflatten, List.take_append_drop]
      · rintro ⟨_, hlists, rfl⟩
        cases hlists with
        | cons hfirst hrest =>
            rw [List.flatten_cons]
            exact List.rel_append hfirst (ih.2 ⟨_, hrest, rfl⟩)

end DecoratorGraph
