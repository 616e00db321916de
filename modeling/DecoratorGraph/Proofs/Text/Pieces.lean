import DecoratorGraph.Text.Basic

/-!
# Pieces of a text

Joining puts a separator between pieces, and replacing a pattern joins the pieces between its
occurrences by something else. A number ends where no digit follows.
-/

namespace DecoratorGraph.Text

/-! ### Joining -/

theorem join_cons_of_ne_nil (separator piece : List Char) {pieces : List (List Char)}
    (h : pieces ≠ []) :
    join separator (piece :: pieces) = piece ++ separator ++ join separator pieces := by
  cases pieces with
  | nil => exact absurd rfl h
  | cons q pieces => rfl

theorem join_cons_cons (separator piece : List Char) (c : Char) (pieces : List (List Char)) :
    join separator ((c :: piece) :: pieces) = c :: join separator (piece :: pieces) := by
  cases pieces <;> rfl

theorem prefix_join_cons (separator piece : List Char) (pieces : List (List Char)) :
    piece <+: join separator (piece :: pieces) := by
  cases pieces with
  | nil => exact List.prefix_rfl
  | cons q pieces =>
      rw [join_cons_of_ne_nil _ _ (List.cons_ne_nil q pieces), List.append_assoc]
      exact List.prefix_append _ _

theorem mem_join {c : Char} {separator : List Char} {pieces : List (List Char)}
    (h : c ∈ join separator pieces) : c ∈ separator ∨ ∃ piece ∈ pieces, c ∈ piece := by
  induction pieces with
  | nil => cases h
  | cons piece pieces ih =>
      cases pieces with
      | nil => exact Or.inr ⟨piece, List.mem_cons_self, h⟩
      | cons q pieces =>
          rw [join_cons_of_ne_nil _ _ (List.cons_ne_nil q pieces), List.mem_append,
            List.mem_append] at h
          rcases h with (h | h) | h
          · exact Or.inr ⟨piece, List.mem_cons_self, h⟩
          · exact Or.inl h
          · rcases ih h with h | ⟨u, hu, h⟩
            · exact Or.inl h
            · exact Or.inr ⟨u, List.mem_cons_of_mem _ hu, h⟩

theorem length_join (separator : List Char) (pieces : List (List Char)) :
    (join separator pieces).length =
      pieces.flatten.length + (pieces.length - 1) * separator.length := by
  induction pieces with
  | nil => simp [join]
  | cons piece pieces ih =>
      cases pieces with
      | nil => simp [join]
      | cons q pieces =>
          rw [join_cons_of_ne_nil _ _ (List.cons_ne_nil q pieces), List.length_append, ih]
          simp only [List.length_append, List.length_cons, List.flatten_cons,
            Nat.add_sub_cancel, Nat.succ_mul]
          omega

/-- What stands between two or more known pieces can be told from the whole text. -/
theorem join_injective {a b : List Char} {pieces : List (List Char)} (h : 2 ≤ pieces.length)
    (heq : join a pieces = join b pieces) : a = b := by
  have hlength := congrArg List.length heq
  rw [length_join, length_join] at hlength
  have hab : a.length = b.length :=
    Nat.eq_of_mul_eq_mul_left (Nat.sub_pos_of_lt h) (Nat.add_left_cancel hlength)
  obtain - | ⟨piece, pieces⟩ := pieces
  · exact absurd h (by simp)
  · have hne : pieces ≠ [] := by
      rintro rfl
      exact absurd h (by simp)
    rw [join_cons_of_ne_nil _ _ hne, join_cons_of_ne_nil _ _ hne, List.append_assoc,
      List.append_assoc] at heq
    exact (List.append_inj (List.append_cancel_left heq) hab).1

/-- Changes of pieces that keep their lengths can be told from the whole text. -/
theorem eq_of_join_map_eq {separator : List Char} {f : List Char → List Char}
    (hf : ∀ piece, (f piece).length = piece.length) {pieces : List (List Char)}
    (heq : join separator (pieces.map f) = join separator pieces) :
    ∀ piece ∈ pieces, f piece = piece := by
  induction pieces with
  | nil => simp
  | cons piece pieces ih =>
      obtain - | ⟨q, pieces⟩ := pieces
      · simpa [join] using heq
      · rw [List.map_cons, join_cons_of_ne_nil _ _ (by simp),
          join_cons_of_ne_nil _ _ (List.cons_ne_nil q pieces), List.append_assoc,
          List.append_assoc] at heq
        obtain ⟨hpiece, hrest⟩ := List.append_inj heq (hf piece)
        exact List.forall_mem_cons.2 ⟨hpiece, ih (List.append_cancel_left hrest)⟩

/-! ### Replacing a pattern -/

/-- The pieces between the occurrences of a nonempty pattern, with a counter as in
`replaceFrom`. -/
def piecesFrom (old : List Char) : Nat → List Char → List (List Char)
  | _, [] => [[]]
  | skip + 1, _ :: r => piecesFrom old skip r
  | 0, c :: r =>
    if old.isPrefixOf (c :: r) then [] :: piecesFrom old (old.length - 1) r
    else
      match piecesFrom old 0 r with
      | [] => [[c]]
      | piece :: pieces => (c :: piece) :: pieces

def pieces (old s : List Char) : List (List Char) := piecesFrom old 0 s

theorem piecesFrom_ne_nil (old s : List Char) (skip : Nat) : piecesFrom old skip s ≠ [] := by
  fun_induction piecesFrom old skip s <;> simp_all

theorem replaceFrom_eq_join (old new s : List Char) (skip : Nat) :
    replaceFrom old new skip s = join new (piecesFrom old skip s) := by
  fun_induction piecesFrom old skip s with
  | case1 => simp [replaceFrom, join]
  | case2 skip c r ih => rw [replaceFrom, ih]
  | case3 c r h ih =>
      rw [replaceFrom, if_pos h, ih, join_cons_of_ne_nil _ _ (piecesFrom_ne_nil _ _ _)]
      rfl
  | case4 c r h hpieces ih => exact absurd hpieces (piecesFrom_ne_nil _ _ _)
  | case5 c r h piece pieces hpieces ih =>
      rw [replaceFrom, if_neg h, ih, hpieces, join_cons_cons]

/-- What is put in the place of a pattern stands between the pieces of the text. -/
theorem replace_eq_join (old new s : List Char) : replace old new s = join new (pieces old s) :=
  replaceFrom_eq_join old new s 0

theorem join_piecesFrom {old : List Char} (hold : old ≠ []) (s : List Char) (skip : Nat) :
    join old (piecesFrom old skip s) = s.drop skip := by
  fun_induction piecesFrom old skip s with
  | case1 => simp [join]
  | case2 skip c r ih => rw [ih, List.drop_succ_cons]
  | case3 c r h ih =>
      obtain ⟨rest, hrest⟩ := List.isPrefixOf_iff_prefix.1 h
      have hdrop : (c :: r).drop old.length = r.drop (old.length - 1) := by
        rw [← Nat.succ_pred_eq_of_pos (List.length_pos_iff.2 hold)]
        rfl
      rw [join_cons_of_ne_nil _ _ (piecesFrom_ne_nil _ _ _), ih, ← hdrop, ← hrest,
        List.drop_left]
      rfl
  | case4 c r h hpieces ih => exact absurd hpieces (piecesFrom_ne_nil _ _ _)
  | case5 c r h piece pieces hpieces ih =>
      rw [hpieces] at ih
      rw [join_cons_cons, ih]
      rfl

/-- The pattern itself stands between the pieces of the text. -/
theorem join_pieces {old : List Char} (hold : old ≠ []) (s : List Char) :
    join old (pieces old s) = s :=
  join_piecesFrom hold s 0

/-- No piece contains the pattern. -/
theorem not_infix_of_mem_piecesFrom {old : List Char} (hold : old ≠ []) (s : List Char)
    (skip : Nat) : ∀ piece ∈ piecesFrom old skip s, ¬ old <:+: piece := by
  fun_induction piecesFrom old skip s with
  | case1 => simpa using hold
  | case2 skip c r ih => exact ih
  | case3 c r h ih => exact List.forall_mem_cons.2 ⟨by simpa using hold, ih⟩
  | case4 c r h hpieces ih => exact absurd hpieces (piecesFrom_ne_nil _ _ _)
  | case5 c r h piece pieces hpieces ih =>
      rw [hpieces] at ih
      obtain ⟨hpiece, htail⟩ := List.forall_mem_cons.1 ih
      refine List.forall_mem_cons.2 ⟨fun hinfix => ?_, htail⟩
      -- An occurrence at the start of the piece is one at the start of the text.
      have hr : piece <+: r := by
        have hjoin := join_piecesFrom hold r 0
        rw [hpieces, List.drop_zero] at hjoin
        rw [← hjoin]
        exact prefix_join_cons old piece pieces
      rcases List.infix_cons_iff.1 hinfix with hbegin | hinfix
      · exact h (List.isPrefixOf_iff_prefix.2
          (hbegin.trans ((List.prefix_cons_inj c).2 hr)))
      · exact hpiece hinfix

theorem not_infix_of_mem_pieces {old s piece : List Char} (hold : old ≠ [])
    (h : piece ∈ pieces old s) : ¬ old <:+: piece :=
  not_infix_of_mem_piecesFrom hold s 0 piece h

/-- A text in which the pattern occurs has a piece on each side of it. -/
theorem two_le_length_pieces {old s : List Char} (hold : old ≠ []) (h : old <:+: s) :
    2 ≤ (pieces old s).length := by
  induction s with
  | nil => exact absurd (List.infix_nil.1 h) hold
  | cons c r ih =>
      have hne := piecesFrom_ne_nil old r
      rw [pieces, piecesFrom]
      by_cases hbegin : old.isPrefixOf (c :: r) = true
      · have hpos := List.length_pos_iff.2 (hne (old.length - 1))
        rw [if_pos hbegin, List.length_cons]
        omega
      · have hr := ih ((List.infix_cons_iff.1 h).resolve_left
          (mt List.isPrefixOf_iff_prefix.2 hbegin))
        rw [if_neg hbegin]
        cases hpieces : piecesFrom old 0 r with
        | nil => exact absurd hpieces (hne 0)
        | cons piece pieces' => rwa [pieces, hpieces] at hr

/-- Replacing a character is done character by character. -/
theorem replace_singleton (c : Char) (new s : List Char) :
    replace [c] new s = s.flatMap fun d => if d = c then new else [d] := by
  induction s with
  | nil => simp
  | cons d s ih =>
      rw [replace] at ih
      by_cases hd : d = c
      · simp [replace, replaceFrom, hd, ih]
      · simp [replace, replaceFrom, hd, Ne.symm hd, ih]

/-! ### The last piece -/

theorem exists_eq_append_afterLast {α : Type} [DecidableEq α] {separator : α} {s : List α}
    (h : separator ∈ s) : ∃ before, s = before ++ separator :: afterLast separator s := by
  obtain ⟨before, after, hs, hbefore⟩ := List.eq_append_cons_of_mem (List.mem_reverse.2 h)
  have hsplit : s = after.reverse ++ separator :: before.reverse := by
    rw [← List.reverse_reverse s, hs]
    simp
  have hlast : afterLast separator s = before.reverse := by
    rw [hsplit, afterLast_append_cons (by simpa using hbefore)]
  exact ⟨after.reverse, by rw [hlast, ← hsplit]⟩

theorem afterLast_of_not_mem {α : Type} [DecidableEq α] {separator : α} {s : List α}
    (h : separator ∉ s) : afterLast separator s = s := by
  have hall : ∀ c ∈ s.reverse, decide (c ≠ separator) = true := by
    intro c hc
    simp only [ne_eq, decide_eq_true_eq]
    rintro rfl
    exact h (List.mem_reverse.1 hc)
  rw [afterLast, ← List.append_nil s.reverse, List.takeWhile_append_of_pos hall]
  simp

/-! ### Numbers in front of a text -/

theorem isDigit_of_mem_decimal {n : Nat} {c : Char} (h : c ∈ decimal n) : c.isDigit = true :=
  Nat.isDigit_of_mem_toDigits (by decide) (by decide) h

/-- The digits of a number end where no digit follows. -/
theorem takeWhile_decimal (n : Nat) {rest : List Char}
    (h : ∀ c, rest.head? = some c → c.isDigit = false) :
    (decimal n ++ rest).takeWhile Char.isDigit = decimal n := by
  rw [List.takeWhile_append_of_pos fun c hc => isDigit_of_mem_decimal hc]
  cases rest with
  | nil => simp
  | cons c rest => simp [h c rfl]

theorem dropWhile_decimal (n : Nat) {rest : List Char}
    (h : ∀ c, rest.head? = some c → c.isDigit = false) :
    (decimal n ++ rest).dropWhile Char.isDigit = rest := by
  rw [List.dropWhile_append_of_pos fun c hc => isDigit_of_mem_decimal hc]
  cases rest with
  | nil => rfl
  | cons c rest => simp [h c rfl]

theorem decimal_ne_nil (n : Nat) : decimal n ≠ [] := Nat.toDigits_ne_nil

/-- A number does not begin with a zero unless it is zero. -/
theorem head?_decimal_ne_zero {n : Nat} (h : n ≠ 0) : (decimal n).head? ≠ some '0' := by
  induction n using Nat.strongRecOn with
  | ind n ih =>
      rw [decimal]
      by_cases hn : n < 10
      · have hdigit : ∀ m < 10, m ≠ 0 → Nat.digitChar m ≠ '0' := by decide
        rw [Nat.toDigits_of_lt_base hn, List.head?_singleton, ne_eq, Option.some.injEq]
        exact hdigit n hn h
      · have hquotient : n / 10 ≠ 0 := by omega
        have hih := ih (n / 10) (by omega) hquotient
        rw [Nat.toDigits_of_base_le (by decide) (Nat.le_of_not_lt hn)]
        cases hdigits : Nat.toDigits 10 (n / 10) with
        | nil => exact absurd hdigits Nat.toDigits_ne_nil
        | cons c digits => rwa [decimal, hdigits] at hih

end DecoratorGraph.Text
