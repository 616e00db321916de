import DecoratorGraph.Proofs.Script.Escapes
import Mathlib.Data.Nat.Digits.Lemmas

/-!
# Escapes that are not well formed

Behind `\x` stand two hexadecimal digits, and behind `\u` stand four of them, or any number of them
in braces for a code point up to 10FFFF. What is written in another way is no escape: the two
characters stand for themselves, and reading goes on behind them (`unescape_malformed_iff`). That is
so wherever an escape can begin, which `Reaches` tells. There is one exception: a number in braces
that is beyond 10FFFF and fits 32 bits is taken as an escape all the same, for U+FFFD.
-/

namespace DecoratorGraph.Script.Literal

variable {n code used : Nat} {c : Char} {s t rest body value : List Char}

/-! ### Where escapes begin -/

/-- Reading a body has given `value` when it comes to the end `s` of the body, where the next unit
begins. -/
inductive Reaches : List Char → List Char → List Char → Prop
  | here {s : List Char} : Reaches s [] s
  | plain {c : Char} {r value s : List Char} (hc : c ≠ '\\') (h : Reaches r value s) :
      Reaches (c :: r) (c :: value) s
  | escape {r value s : List Char} (h : Reaches (r.drop (escaped r).2) value s) :
      Reaches ('\\' :: r) ((escaped r).1 ++ value) s

theorem Reaches.unescape_eq (h : Reaches body value s) : unescape body = value ++ unescape s := by
  induction h with
  | here => rfl
  | plain hc _ ih => rw [unescape_cons _ hc, ih, List.cons_append]
  | escape _ ih => rw [unescape_backslash, ih, List.append_assoc]

/-! ### Numbers ahead -/

theorem SpellsHex.lt_pow (h : SpellsHex n s) : n < 16 ^ s.length := by
  obtain ⟨digits, hdigits, rfl⟩ := h
  have hlt : ∀ d ∈ digits, d < 16 := by
    induction hdigits with
    | nil => simp
    | cons hd _ ih => exact List.forall_mem_cons.2 ⟨hd.1, ih⟩
  have hlength : digits.reverse.length = s.length := by
    rw [List.length_reverse, hdigits.length_eq]
  rw [← hlength]
  exact Nat.ofDigits_lt_base_pow_length (by decide) fun d hd => hlt d (List.mem_reverse.1 hd)

theorem hexAhead?_eq_some_iff {k : Nat} :
    hexAhead? k s = some n ↔ ∃ t, t <+: s ∧ t.length = k ∧ SpellsHex n t := by
  unfold hexAhead?
  constructor
  · intro h
    split at h
    · next hlength =>
      exact ⟨s.take k, List.take_prefix k s, hlength, hexNumber?_eq_some_iff.1 h⟩
    · cases h
  · rintro ⟨t, ⟨r, rfl⟩, rfl, ht⟩
    exact ht.hexAhead?_append r

/-- The ways to spell a code point behind `\u`: by four digits, or by any number of them in
braces. -/
inductive SpellsCode : Nat → List Char → Prop
  | digits {code : Nat} {s : List Char} (hs : SpellsHex code s) (hlength : s.length = 4) :
      SpellsCode code s
  | braces {code : Nat} {s : List Char} (hs : SpellsHex code s) (hne : s ≠ []) :
      SpellsCode code ('\x7b' :: (s ++ ['\x7d']))

/-- A text up to a closing brace, if it has one. -/
theorem takeWhile_append_brace (h : (s.takeWhile fun c => decide (c ≠ '\x7d')).length ≠ s.length) :
    ∃ r, s = (s.takeWhile fun c => decide (c ≠ '\x7d')) ++ '\x7d' :: r := by
  induction s with
  | nil => exact absurd rfl h
  | cons c s ih =>
      by_cases hc : c = '\x7d'
      · exact ⟨s, by simp [hc]⟩
      · obtain ⟨r, hr⟩ := ih (by simpa [hc] using h)
        refine ⟨r, ?_⟩
        rw [List.takeWhile_cons_of_pos (by simpa using hc), List.cons_append, ← hr]

/-- A code point is read behind `\u` exactly if it is spelled there and fits 32 bits. -/
theorem unicodeAhead?_eq_some_iff : unicodeAhead? s = some (code, used) ↔
    ∃ t, t <+: s ∧ t.length = used ∧ SpellsCode code t ∧ code < 0x100000000 := by
  constructor
  · intro h
    unfold unicodeAhead? at h
    split at h
    · next r =>
      dsimp only at h
      split at h
      · cases h
      next hdigits =>
        obtain ⟨hne, hlength⟩ := not_or.1 hdigits
        split at h
        · next code' hnumber =>
          split at h
          · next hcode =>
            obtain ⟨rfl, rfl⟩ := Prod.mk.inj (Option.some.inj h)
            obtain ⟨r', hr⟩ := takeWhile_append_brace hlength
            refine ⟨_, ⟨r', ?_⟩, ?_, .braces (hexNumber?_eq_some_iff.1 hnumber) hne, hcode⟩
            · rw [List.cons_append, List.append_assoc, List.singleton_append, ← hr]
            · simp
          · cases h
        · cases h
    · obtain ⟨code', hnumber, heq⟩ := Option.map_eq_some_iff.1 h
      obtain ⟨rfl, rfl⟩ := Prod.mk.inj heq
      obtain ⟨t, hprefix, hlength, ht⟩ := hexAhead?_eq_some_iff.1 hnumber
      have hcode := ht.lt_pow
      rw [hlength] at hcode
      exact ⟨t, hprefix, hlength, .digits ht hlength, hcode.trans (by decide)⟩
  · rintro ⟨t, ⟨r, rfl⟩, rfl, ht, hcode⟩
    cases ht with
    | digits ht hlength => exact ht.unicodeAhead?_append hlength r
    | @braces _ ht hne => simpa using ht.unicodeAhead?_braces hne hcode r

/-! ### What is no escape -/

def ByteAhead (rest : List Char) : Prop := ∃ n t, t <+: rest ∧ SpellsHex n t ∧ t.length = 2

def CodeAhead (bound : Nat) (rest : List Char) : Prop :=
  ∃ code t, t <+: rest ∧ SpellsCode code t ∧ code < bound

theorem byteAhead_iff : ByteAhead rest ↔ (hexAhead? 2 rest).isSome := by
  rw [Option.isSome_iff_exists]
  refine exists_congr fun n => ?_
  rw [hexAhead?_eq_some_iff]
  exact exists_congr fun t => and_congr_right fun _ => and_comm

theorem codeAhead_iff {bound : Nat} (hbound : bound ≤ 0x100000000) :
    CodeAhead bound rest ↔ ∃ p ∈ unicodeAhead? rest, p.1 < bound := by
  constructor
  · rintro ⟨code, t, hprefix, ht, hcode⟩
    exact ⟨(code, t.length), unicodeAhead?_eq_some_iff.2
      ⟨t, hprefix, rfl, ht, hcode.trans_le hbound⟩, hcode⟩
  · rintro ⟨⟨code, used⟩, hahead, hcode⟩
    obtain ⟨t, hprefix, -, ht, -⟩ := unicodeAhead?_eq_some_iff.1 hahead
    exact ⟨code, t, hprefix, ht, hcode⟩

theorem unescape_of_not_byteAhead (h : ¬ByteAhead rest) :
    unescape ('\\' :: 'x' :: rest) = '\\' :: 'x' :: unescape rest := by
  rw [byteAhead_iff, Option.not_isSome_iff_eq_none] at h
  have hescaped : escaped ('x' :: rest) = (['\\', 'x'], 1) := by simp only [escaped, h]
  rw [unescape_backslash, hescaped]
  rfl

theorem unescape_of_not_codeAhead (h : ¬CodeAhead 0x100000000 rest) :
    unescape ('\\' :: 'u' :: rest) = '\\' :: 'u' :: unescape rest := by
  have hahead : unicodeAhead? rest = none := by
    refine Option.eq_none_iff_forall_ne_some.2 fun p hp => h ((codeAhead_iff le_rfl).2 ⟨p, hp, ?_⟩)
    obtain ⟨t, -, -, -, hcode⟩ := unicodeAhead?_eq_some_iff.1 hp
    exact hcode
  have hescaped : escaped ('u' :: rest) = (['\\', 'u'], 1) := by simp only [escaped, hahead]
  rw [unescape_backslash, hescaped]
  rfl

/-- A number beyond the code points is taken for U+FFFD, as long as it fits 32 bits. -/
theorem unescape_beyond (ht : SpellsCode code t) (hcode : 0x110000 ≤ code)
    (hfits : code < 0x100000000) (rest : List Char) :
    unescape ('\\' :: 'u' :: (t ++ rest)) = '\uFFFD' :: unescape rest := by
  have hahead : unicodeAhead? (t ++ rest) = some (code, t.length) :=
    unicodeAhead?_eq_some_iff.2 ⟨t, List.prefix_append t rest, rfl, ht, hfits⟩
  have hhigh : isHighHalf code = false := by
    simp only [isHighHalf, Bool.and_eq_false_iff, decide_eq_false_iff_not]
    omega
  have hvalid : ¬code.isValidChar := by
    unfold Nat.isValidChar
    omega
  have hjoined : joined code rest = ('\uFFFD', 0) := by
    rw [joined, hhigh, character, if_neg hvalid]
    rfl
  rw [unescape_unicode hahead, hjoined, List.drop_zero]

/-- What is no escape is kept as it is written, wherever it stands: `\x` in front of anything but
two hexadecimal digits, and `\u` in front of anything but a code point in four digits or in braces.
The one exception is a number in braces that is no code point and fits 32 bits: it is taken for
U+FFFD together with its braces. -/
theorem unescape_malformed_iff (body value rest : List Char) :
    (Reaches body value ('\\' :: 'x' :: rest) → ¬ByteAhead rest →
      unescape body = value ++ '\\' :: 'x' :: unescape rest) ∧
    (Reaches body value ('\\' :: 'u' :: rest) → ¬CodeAhead 0x110000 rest →
      (unescape body = value ++ '\\' :: 'u' :: unescape rest ↔ ¬CodeAhead 0x100000000 rest) ∧
      ∀ code t, t <+: rest → SpellsCode code t → code < 0x100000000 →
        unescape body = value ++ '\uFFFD' :: unescape (rest.drop t.length)) := by
  refine ⟨fun hbody hrest => ?_, fun hbody hrest => ?_⟩
  · rw [hbody.unescape_eq, unescape_of_not_byteAhead hrest]
  have hbeyond : ∀ code t, t <+: rest → SpellsCode code t → code < 0x100000000 →
      unescape body = value ++ '\uFFFD' :: unescape (rest.drop t.length) := by
    rintro code t ⟨r, rfl⟩ ht hfits
    have hcode : 0x110000 ≤ code :=
      not_lt.1 fun hlt => hrest ⟨code, t, List.prefix_append t r, ht, hlt⟩
    rw [hbody.unescape_eq, unescape_beyond ht hcode hfits, List.drop_left]
  refine ⟨⟨?_, fun hnone => ?_⟩, hbeyond⟩
  · rintro hkept ⟨code, t, hprefix, ht, hfits⟩
    have hread := hbeyond code t hprefix ht hfits
    rw [hkept, List.append_cancel_left_eq] at hread
    exact absurd (List.cons.inj hread).1 (by decide)
  · rw [hbody.unescape_eq, unescape_of_not_codeAhead hnone]

def beyondCodes : List Char :=
  ['\\', 'x', '4', '\\', 'u', '\x7b', '1', '1', '0', '0', '0', '0', '\x7d', '!']

theorem unescape_beyondCodes :
    Reaches beyondCodes [] ('\\' :: 'x' :: beyondCodes.drop 2) ∧ ¬ByteAhead (beyondCodes.drop 2) ∧
    Reaches beyondCodes ['\\', 'x', '4'] ('\\' :: 'u' :: beyondCodes.drop 5) ∧
    ¬CodeAhead 0x110000 (beyondCodes.drop 5) ∧
    unescape beyondCodes = '\\' :: 'x' :: unescape (beyondCodes.drop 2) ∧
    unescape beyondCodes ≠ ['\\', 'x', '4'] ++ '\\' :: 'u' :: unescape (beyondCodes.drop 5) ∧
    unescape beyondCodes = ['\\', 'x', '4', '\uFFFD', '!'] := by
  have hstart : Reaches beyondCodes [] ('\\' :: 'x' :: beyondCodes.drop 2) := .here
  have hplace : Reaches beyondCodes ['\\', 'x', '4'] ('\\' :: 'u' :: beyondCodes.drop 5) :=
    .escape (.plain (by decide) .here)
  have hbyte : ¬ByteAhead (beyondCodes.drop 2) := byteAhead_iff.not.2 (by decide)
  have hcode : ¬CodeAhead 0x110000 (beyondCodes.drop 5) := by
    rw [codeAhead_iff (by decide)]
    decide
  have hspells : SpellsCode 0x110000 ['\x7b', '1', '1', '0', '0', '0', '0', '\x7d'] :=
    .braces (s := ['1', '1', '0', '0', '0', '0'])
      ⟨[1, 1, 0, 0, 0, 0], by decide, by decide⟩ (by decide)
  have hprefix : ['\x7b', '1', '1', '0', '0', '0', '0', '\x7d'] <+: beyondCodes.drop 5 := by decide
  obtain ⟨hkept, hbeyond⟩ := (unescape_malformed_iff beyondCodes _ _).2 hplace hcode
  refine ⟨hstart, hbyte, hplace, hcode, (unescape_malformed_iff beyondCodes _ _).1 hstart hbyte,
    hkept.not.2 (not_not.2 ⟨_, _, hprefix, hspells, by decide⟩),
    hbeyond _ _ hprefix hspells (by decide)⟩

end DecoratorGraph.Script.Literal
