import DecoratorGraph.Proofs.Script.Consumption
import DecoratorGraph.Proofs.Script.SourceText

/-!
# Texts of lexemes

What was read is what lies between the text ahead and what is left of it: words, quoted texts, and
the keys of members with the words in front of them.
-/

namespace DecoratorGraph.Script

attribute [local grind →] List.IsSuffix.trans Leaves.suffix_of_bind

/-! ### Texts of lexemes -/

section

variable {s r : List Char}

theorem skipBlank_stable (b : Blank) (s : List Char) : skip (skipBlank b s) = skipBlank b s := by
  fun_induction skipBlank b s with
  | case5 c r =>
    rw [skip, skipBlank.eq_def]
    split <;> simp_all
  | _ => first | assumption | rfl

theorem skip_skip (s : List Char) : skip (skip s) = skip s := skipBlank_stable .space s

theorem between_suffix (h : r <:+ s) : s = between s r ++ r := by
  obtain ⟨t, rfl⟩ := h
  rw [between_append]

theorem textBetween_suffix (h : r <:+ s) : s = (textBetween s r).toList ++ r := by
  simpa [textBetween] using between_suffix h

theorem word?_eq {w : String} (h : word? s = some (w, r)) : s = w.toList ++ r := by
  have hr : r <:+ s := reads_word? s _ h
  have hw : w = textBetween s r := by
    unfold word? at h
    grind
  exact hw ▸ textBetween_suffix hr

theorem skip_of_keyword? {w : String} (h : keyword? w s = some r) : skip s = w.toList ++ r := by
  unfold keyword? at h
  split at h
  next v r' hv =>
    have := word?_eq hv
    grind
  · simp at h

theorem skip_of_symbol? {c : Char} (h : symbol? c s = some r) : skip s = c :: r := by
  unfold symbol? at h
  grind

theorem skip_of_symbols? {text : String} (h : symbols? text s = some r) :
    skip s = text.toList ++ r := by
  unfold symbols? ahead? at h
  split at h
  next hprefix =>
    obtain ⟨t, ht⟩ := List.isPrefixOf_iff_prefix.1 hprefix
    rw [← ht, ← String.length_toList, List.drop_left, Option.some.injEq] at h
    rw [← ht, h]
  · simp at h

theorem closeQuote?_eq {quote : Char} (h : closeQuote? quote s = some r) :
    ∃ inner, s = inner ++ quote :: r := by
  fun_induction closeQuote? quote s with
  | case1 => simp at h
  | case2 d s ih =>
    obtain ⟨inner, rfl⟩ := ih h
    exact ⟨'\\' :: d :: inner, rfl⟩
  | case3 s hs =>
    obtain rfl := Option.some.inj h
    exact ⟨[], rfl⟩
  | case4 c s hs hc ih =>
    obtain ⟨inner, rfl⟩ := ih h
    exact ⟨c :: inner, rfl⟩

/-- A number takes at least its first character. -/
theorem afterNumber_cons_suffix {c : Char} (h : c.isDigit ∨ c = '.') (t : List Char) :
    afterNumber (c :: t) <:+ t := by
  have hdecimal : afterNumber.decimal (c :: t) <:+ t := by
    unfold afterNumber.decimal
    obtain hc | rfl := h
    · have hdigits : afterDigits (c :: t) = afterDigits t := by
        simp [afterDigits, hc]
      rw [hdigits]
      grind
    · have hdigits : afterDigits ('.' :: t) = '.' :: t := rfl
      rw [hdigits]
      grind
  unfold afterNumber
  split
  · split_ifs
    all_goals grind
  · exact hdecimal

/-- A word takes at least its first character. -/
theorem skipWord?_cons_suffix {c : Char} {t : List Char} (h : skipWord? (c :: t) = some r) :
    r <:+ t := by
  unfold skipWord? word? at h
  split at h
  next t' heq =>
    obtain ⟨rfl, rfl⟩ := List.cons.inj heq
    obtain rfl := Option.some.inj h
    show afterWord false ('\\' :: 'u' :: t') <:+ 'u' :: t'
    unfold afterWord
    split
    all_goals grind
  next heq =>
    obtain ⟨rfl, rfl⟩ := List.cons.inj heq
    grind
  · simp at h

end

attribute [local grind →] skip_of_symbol? skip_of_symbols? skip_of_keyword? word?_eq

/-! ### Keys -/

section

variable {g : Grammar} (hc : g.Consumes)

include hc

/-- What was read as a key is a key as it is written. -/
theorem exists_key {s r : List Char} (h : g.key s = some r) :
    ∃ key : Key, key.WellFormed ∧ skip s = key.text ++ r := by
  unfold Grammar.key at h
  split at h
  · simp at h
  next c t hs =>
    rw [hs]
    have hplain (hrest : r <:+ t) (hmark : c ∉ ['"', '\'', '#', '[']) :
        ∃ key : Key, key.WellFormed ∧ c :: t = key.text ++ r := by
      obtain ⟨u, rfl⟩ := hrest
      exact ⟨.plain (c :: u), ⟨c, u, rfl, hmark⟩, rfl⟩
    split_ifs at h with hquote hbracket hhash hnumber
    · obtain ⟨inner, rfl⟩ := closeQuote?_eq h
      exact ⟨.quoted c inner, by simpa [Key.WellFormed] using hquote, by simp [Key.text]⟩
    · obtain ⟨t', ht', hclose⟩ := Option.bind_eq_some_iff.1 h
      have hskip := skip_of_symbol? hclose
      obtain ⟨inner, rfl⟩ : ']' :: r <:+ t := by grind
      exact ⟨.computed inner, trivial, by simp [Key.text, hbracket]⟩
    · obtain ⟨word, rfl⟩ := leaves_skipWord? t r h
      exact ⟨.hidden word, trivial, by simp [Key.text, hhash]⟩
    · obtain rfl := Option.some.inj h
      exact hplain (afterNumber_cons_suffix (hnumber.imp id And.left) t) (by grind)
    · exact hplain (skipWord?_cons_suffix h) (by grind)

omit hc in
theorem keyName?_text {s r : List Char} {key : Key} (hkey : key.WellFormed)
    (hs : skip s = key.text ++ r) : keyName? s r = (MemberForm.pair key).keptName? := by
  have hbetween : between (key.text ++ r) r = key.text := between_append key.text r
  unfold keyName?
  cases key with
  | plain text =>
    obtain ⟨c, u, rfl, hmark⟩ := hkey
    simp only [Key.text, List.cons_append] at hs hbetween
    rw [hs]
    dsimp only
    rw [if_neg (by grind), if_neg (by grind), textBetween, hbetween]
    rfl
  | quoted mark inner =>
    simp only [Key.text, List.cons_append] at hs hbetween
    rw [hs]
    dsimp only
    rw [if_pos (by simpa [Key.WellFormed] using hkey), hbetween]
    rfl
  | hidden word => 
    simp only [Key.text, List.cons_append] at hs
    rw [hs]
    rfl
  | computed inner =>
    simp only [Key.text, List.cons_append] at hs
    rw [hs]
    rfl

omit hc in
theorem modifiers_skipMany (n : Nat) (s : List Char) :
    Modifiers (skip s) (skip (skipMany memberModifier n s)) := by
  fun_induction skipMany memberModifier n s with
  | case1 => exact .none
  | case2 n s r hr ih =>
    unfold memberModifier at hr
    split at hr
    next w t hw =>
      split at hr
      next hmodifier =>
        obtain rfl := Option.some.inj hr
        rw [word?_eq hw]
        exact .word hmodifier.1 ih
      · simp at hr
    · rw [skip_of_symbol? hr]
      exact .star ih
  | case3 => exact .none

end

end DecoratorGraph.Script
