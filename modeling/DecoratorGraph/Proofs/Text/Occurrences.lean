import DecoratorGraph.Text.Basic
import Mathlib.Data.List.Infix

/-!
# First occurrences of a pattern

`FirstAt pattern s before after` cuts a text at the first place where a pattern stands in it. Where
a text is put together from known and unknown parts, that place is found by the parts in front of it
in which the pattern cannot begin, whatever follows them (`Bars`).
-/

namespace DecoratorGraph.Text

variable {pattern s u v before after before' after' rest : List Char} {c : Char}

/-- The pattern stands in the text between `before` and `after`, and nowhere earlier. -/
structure FirstAt (pattern s before after : List Char) : Prop where
  split : s = before ++ (pattern ++ after)
  first : ∀ b a, s = b ++ (pattern ++ a) → before.length ≤ b.length

theorem FirstAt.unique (h : FirstAt pattern s before after)
    (h' : FirstAt pattern s before' after') : before = before' ∧ after = after' := by
  have hlength : before.length = before'.length :=
    Nat.le_antisymm (h.first _ _ h'.split) (h'.first _ _ h.split)
  obtain ⟨hbefore, hrest⟩ := List.append_inj (h.split.symm.trans h'.split) hlength
  exact ⟨hbefore, List.append_cancel_left hrest⟩

theorem firstAt_nil (pattern rest : List Char) : FirstAt pattern (pattern ++ rest) [] rest :=
  ⟨rfl, fun _ _ _ => Nat.zero_le _⟩

/-- A character in front of which the pattern does not begin stays in front of its first place. -/
theorem FirstAt.cons (h : FirstAt pattern s before after) (hc : ¬ pattern <+: c :: s) :
    FirstAt pattern (c :: s) (c :: before) after := by
  refine ⟨by rw [h.split]; rfl, fun b a hb => ?_⟩
  cases b with
  | nil => exact absurd ⟨a, hb.symm⟩ hc
  | cons d b =>
      have hs : s = b ++ (pattern ++ a) := (List.cons.inj hb).2
      exact Nat.succ_le_succ (h.first b a hs)

theorem firstAt_nil_iff :
    FirstAt pattern [] before after ↔ pattern = [] ∧ before = [] ∧ after = [] := by
  constructor
  · intro h
    obtain ⟨hbefore, hrest⟩ := List.append_eq_nil_iff.1 h.split.symm
    obtain ⟨hpattern, hafter⟩ := List.append_eq_nil_iff.1 hrest
    exact ⟨hpattern, hbefore, hafter⟩
  · rintro ⟨rfl, rfl, rfl⟩
    exact firstAt_nil [] []

theorem firstAt_cons_iff (hc : ¬ pattern <+: c :: s) :
    FirstAt pattern (c :: s) before after ↔ ∃ b, before = c :: b ∧ FirstAt pattern s b after := by
  constructor
  · intro h
    cases before with
    | nil => exact absurd ⟨after, h.split.symm⟩ hc
    | cons d b =>
        obtain ⟨rfl, hs⟩ := List.cons.inj h.split
        refine ⟨b, rfl, hs, fun b' a hb' => ?_⟩
        exact Nat.le_of_succ_le_succ (h.first (c :: b') a (by rw [hb']; rfl))
  · rintro ⟨b, rfl, h⟩
    exact h.cons hc

/-- A text is cut where the pattern begins for the first time. -/
theorem fromFirst?_eq_some_iff :
    fromFirst? pattern s = some rest ↔
      ∃ before after, FirstAt pattern s before after ∧ rest = pattern ++ after := by
  induction s with
  | nil =>
      rw [fromFirst?]
      by_cases hpattern : pattern = []
      · simp [firstAt_nil_iff, hpattern, eq_comm]
      · simp [firstAt_nil_iff, hpattern]
  | cons c s ih =>
      rw [fromFirst?]
      by_cases hc : pattern.isPrefixOf (c :: s) = true
      · obtain ⟨after, hafter⟩ := List.isPrefixOf_iff_prefix.1 hc
        have hfirst : FirstAt pattern (c :: s) [] after := hafter ▸ firstAt_nil pattern after
        rw [if_pos hc, Option.some.injEq]
        constructor
        · rintro rfl
          exact ⟨[], after, hfirst, hafter.symm⟩
        · rintro ⟨before, after', h, rfl⟩
          rw [← hafter, (hfirst.unique h).2]
      · have hnot : ¬ pattern <+: c :: s := fun h => hc (List.isPrefixOf_iff_prefix.2 h)
        rw [if_neg hc, ih]
        constructor
        · rintro ⟨before, after, h, rfl⟩
          exact ⟨c :: before, after, h.cons hnot, rfl⟩
        · rintro ⟨before, after, h, rfl⟩
          obtain ⟨b, -, h⟩ := (firstAt_cons_iff hnot).1 h
          exact ⟨b, after, h, rfl⟩

theorem fromFirst?_eq_none_iff : fromFirst? pattern s = none ↔ ¬ pattern <:+: s := by
  induction s with
  | nil =>
      rw [fromFirst?, List.infix_nil]
      split <;> simp_all
  | cons c s ih =>
      rw [fromFirst?, List.infix_cons_iff, ← List.isPrefixOf_iff_prefix]
      by_cases hc : pattern.isPrefixOf (c :: s) = true <;> simp [hc, ih]

/-! ### Parts in which a pattern does not begin -/

/-- The pattern does not begin inside the text, whatever follows it. -/
def Bars (pattern u : List Char) : Prop :=
  ∀ rest, ∀ k < u.length, ¬ pattern <+: (u ++ rest).drop k

theorem Bars.append (hu : Bars pattern u) (hv : Bars pattern v) : Bars pattern (u ++ v) := by
  intro rest k hk
  rw [List.append_assoc]
  by_cases hku : k < u.length
  · exact hu (v ++ rest) k hku
  · rw [List.drop_append, List.drop_eq_nil_of_le (Nat.le_of_not_lt hku), List.nil_append]
    exact hv rest _ (by rw [List.length_append] at hk; omega)

/-- A text without the first character of a pattern. -/
theorem bars_of_not_mem (h : c ∉ u) : Bars (c :: pattern) u := by
  rintro rest k hk ⟨after, hafter⟩
  rw [List.drop_append_of_le_length (Nat.le_of_lt hk), List.drop_eq_getElem_cons hk] at hafter
  have hc : c = u[k] := (List.cons.inj hafter).1
  exact h (hc ▸ List.getElem_mem hk)

/-- A text in which the pattern differs at every place from what is there. -/
theorem bars_of_forall_mismatch
    (h : ∀ k < u.length, ¬ pattern <+: u.drop k ∧ ¬ u.drop k <+: pattern) : Bars pattern u := by
  intro rest k hk hprefix
  rw [List.drop_append_of_le_length (Nat.le_of_lt hk)] at hprefix
  rcases List.prefix_or_prefix_of_prefix hprefix (List.prefix_append _ rest) with hle | hle
  · exact (h k hk).1 hle
  · exact (h k hk).2 hle

theorem Bars.firstAt (h : Bars pattern u) (rest : List Char) :
    FirstAt pattern (u ++ (pattern ++ rest)) u rest := by
  refine ⟨rfl, fun b a hb => Nat.le_of_not_lt fun hlt => ?_⟩
  refine h (pattern ++ rest) b.length hlt ?_
  rw [hb, List.drop_left]
  exact List.prefix_append _ _

end DecoratorGraph.Text
