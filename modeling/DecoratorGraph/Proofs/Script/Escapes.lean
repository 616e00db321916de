import DecoratorGraph.Script.Literal
import Mathlib.Data.List.Forall2
import Mathlib.Data.Nat.Digits.Defs

/-!
# Escapes

`SpellsText value s` says that the body `s` of a literal spells the characters `value`: one after
the other, each in one of the ways that there are (`Spelling`), with lines continued anywhere
between them. Two spellings depend on what follows: `\0` is no spelling of NUL in front of a digit,
and a backslash in front of a carriage return also takes a line feed behind it (`Apart`). However a
text is spelled, reading its escapes gives the text (`unescape_of_spellsText`).
-/

namespace DecoratorGraph.Script.Literal

/-! ### Hexadecimal numbers -/

def IsHexDigit (d : Nat) (c : Char) : Prop :=
  d < 16 ∧ c ∈ [Nat.digitChar d, (Nat.digitChar d).toUpper]

instance (d : Nat) (c : Char) : Decidable (IsHexDigit d c) :=
  inferInstanceAs (Decidable (d < 16 ∧ c ∈ [Nat.digitChar d, (Nat.digitChar d).toUpper]))

/-- The ways to spell a number by hexadecimal digits. Zeros may stand in front. -/
def SpellsHex (n : Nat) (s : List Char) : Prop :=
  ∃ digits, List.Forall₂ IsHexDigit digits s ∧ n = Nat.ofDigits 16 digits.reverse

variable {n code : Nat} {c : Char} {s u rest : List Char}

theorem hexDigit?_of_isHexDigit (h : IsHexDigit n c) : hexDigit? c = some n := by
  obtain ⟨hn, hc⟩ := h
  have hdigits : ∀ d < 16, hexDigit? (Nat.digitChar d) = some d ∧
      hexDigit? (Nat.digitChar d).toUpper = some d := by decide
  rcases List.mem_pair.1 hc with rfl | rfl
  · exact (hdigits n hn).1
  · exact (hdigits n hn).2

theorem isHexDigit_of_hexDigit? (h : hexDigit? c = some n) : IsHexDigit n c := by
  have hascii : ∀ k < 128, ∀ n ∈ hexDigit? (Char.ofNat k), IsHexDigit n (Char.ofNat k) := by decide
  have hc : c.toNat < 128 := by
    have hlast : ∀ d : Char, d ≤ 'f' → d.toNat < 128 := fun d hd =>
      Nat.lt_of_le_of_lt (show d.toNat ≤ 'f'.toNat from hd) (by decide)
    unfold hexDigit? at h
    split at h
    · next hdigit => exact hlast c (Char.le_trans hdigit.2 (by decide))
    split at h
    · next hlower => exact hlast c hlower.2
    split at h
    · next hupper => exact hlast c (Char.le_trans hupper.2 (by decide))
    · cases h
  rw [← Char.ofNat_toNat c] at h ⊢
  exact hascii c.toNat hc n h

theorem IsHexDigit.not_brace (h : IsHexDigit n c) : c ≠ '\x7b' ∧ c ≠ '\x7d' := by
  have hdigit := hexDigit?_of_isHexDigit h
  constructor <;> rintro rfl <;> simp [hexDigit?] at hdigit

theorem hexFrom?_digits {digits : List Nat} (h : List.Forall₂ IsHexDigit digits s) (value : Nat) :
    hexFrom? value s = some (Nat.ofDigits 16 (digits.reverse ++ [value])) := by
  induction h generalizing value with
  | nil => simp [hexFrom?]
  | @cons d c digits s hd _ ih =>
      have hshift : Nat.ofDigits 16 (digits.reverse ++ [16 * value + d]) =
          Nat.ofDigits 16 ((d :: digits).reverse ++ [value]) := by
        simp only [List.reverse_cons, Nat.ofDigits_append, Nat.ofDigits_singleton,
          List.length_append, List.length_singleton, pow_succ]
        ring
      rw [hexFrom?, hexDigit?_of_isHexDigit hd, Option.bind_some, ih, hshift]

theorem SpellsHex.hexNumber? (h : SpellsHex n s) : hexNumber? s = some n := by
  obtain ⟨digits, hdigits, rfl⟩ := h
  rw [Literal.hexNumber?, hexFrom?_digits hdigits, Nat.ofDigits_append]
  simp

theorem exists_digits_of_hexFrom? {value : Nat} (h : hexFrom? value s = some n) :
    ∃ digits, List.Forall₂ IsHexDigit digits s := by
  induction s generalizing value with
  | nil => exact ⟨[], .nil⟩
  | cons c s ih =>
      obtain ⟨d, hd, hs⟩ := Option.bind_eq_some_iff.1 h
      obtain ⟨digits, hdigits⟩ := ih hs
      exact ⟨d :: digits, .cons (isHexDigit_of_hexDigit? hd) hdigits⟩

/-- A row is read as a number exactly if it spells that number. -/
theorem hexNumber?_eq_some_iff : Literal.hexNumber? s = some n ↔ SpellsHex n s := by
  refine ⟨fun h => ?_, SpellsHex.hexNumber?⟩
  obtain ⟨digits, hdigits⟩ := exists_digits_of_hexFrom? h
  have hspells : SpellsHex (Nat.ofDigits 16 digits.reverse) s := ⟨digits, hdigits, rfl⟩
  rw [hspells.hexNumber?] at h
  exact Option.some.inj h ▸ hspells

theorem SpellsHex.not_brace (h : SpellsHex n s) : ∀ c ∈ s, c ≠ '\x7b' ∧ c ≠ '\x7d' := by
  obtain ⟨digits, hdigits, -⟩ := h
  intro c hc
  induction hdigits with
  | nil => cases hc
  | cons hd _ ih =>
      obtain rfl | hc := List.mem_cons.1 hc
      · exact hd.not_brace
      · exact ih hc

theorem SpellsHex.hexAhead?_append (h : SpellsHex n s) (rest : List Char) :
    hexAhead? s.length (s ++ rest) = some n := by
  rw [hexAhead?, List.take_left, if_pos rfl, h.hexNumber?]

/-- Four digits behind `\u` are taken. -/
theorem SpellsHex.unicodeAhead?_append (h : SpellsHex code s) (hlength : s.length = 4)
    (rest : List Char) : unicodeAhead? (s ++ rest) = some (code, s.length) := by
  obtain ⟨c, t, rfl⟩ : ∃ c t, s = c :: t := List.exists_cons_of_length_pos (by omega)
  have hbrace := (h.not_brace c List.mem_cons_self).1
  have hnumber := h.hexAhead?_append rest
  rw [hlength] at hnumber
  rw [unicodeAhead?.eq_def, List.cons_append]
  split
  · next heq => exact absurd (List.cons.inj heq).1 hbrace
  · rw [← List.cons_append, hnumber, hlength]
    rfl

/-- Digits in braces behind `\u` are taken with the braces, however many they are. -/
theorem SpellsHex.unicodeAhead?_braces (h : SpellsHex code s) (hne : s ≠ [])
    (hcode : code < 0x100000000) (rest : List Char) :
    unicodeAhead? ('\x7b' :: (s ++ '\x7d' :: rest)) = some (code, s.length + 2) := by
  have hdigits : (s ++ '\x7d' :: rest).takeWhile (fun c => decide (c ≠ '\x7d')) = s := by
    rw [List.takeWhile_append_of_pos fun c hc => by simpa using (h.not_brace c hc).2]
    simp
  have hshorter : s.length ≠ (s ++ '\x7d' :: rest).length := by simp
  simp only [unicodeAhead?, hdigits, hne, hshorter, or_self, if_false, h.hexNumber?, hcode, if_true]

/-! ### Escapes that spell code points -/

theorem character_toNat (c : Char) : character c.toNat = c := by
  have hvalid : c.toNat.isValidChar := c.valid
  rw [character, if_pos hvalid, Char.ofNat_toNat]

/-- The code point of a character is no surrogate half, so it takes nothing behind it along. -/
theorem joined_toNat (c : Char) (rest : List Char) : joined c.toNat rest = (c, 0) := by
  have hhalf : isHighHalf c.toNat = false := by
    have hvalid : c.toNat.isValidChar := c.valid
    unfold Nat.isValidChar at hvalid
    simp only [isHighHalf, Bool.and_eq_false_iff, decide_eq_false_iff_not]
    omega
  rw [joined, hhalf, character_toNat]
  rfl

theorem unescape_byte (h : SpellsHex code s) (hlength : s.length = 2) (rest : List Char) :
    unescape ('\\' :: 'x' :: (s ++ rest)) =
      (joined code rest).1 :: unescape (rest.drop (joined code rest).2) := by
  have hnumber := h.hexAhead?_append rest
  rw [hlength] at hnumber
  have hescaped : escaped ('x' :: (s ++ rest)) =
      ([(joined code rest).1], 3 + (joined code rest).2) := by
    have hrest : (s ++ rest).drop 2 = rest := by rw [← hlength, List.drop_left]
    simp only [escaped, hnumber, hrest]
  have hrest : ('x' :: (s ++ rest)).drop (3 + (joined code rest).2) =
      rest.drop (joined code rest).2 := by
    have hthree : 3 = s.length + 1 := by rw [hlength]
    rw [← List.drop_drop, hthree, List.drop_succ_cons, List.drop_left]
  rw [unescape_backslash, hescaped, hrest]
  rfl

theorem unescape_unicode (h : unicodeAhead? (u ++ rest) = some (code, u.length)) :
    unescape ('\\' :: 'u' :: (u ++ rest)) =
      (joined code rest).1 :: unescape (rest.drop (joined code rest).2) := by
  have hescaped : escaped ('u' :: (u ++ rest)) =
      ([(joined code rest).1], 1 + u.length + (joined code rest).2) := by
    simp only [escaped, h, List.drop_left]
  have hrest : ('u' :: (u ++ rest)).drop (1 + u.length + (joined code rest).2) =
      rest.drop (joined code rest).2 := by
    rw [← List.drop_drop, Nat.add_comm 1, List.drop_succ_cons, List.drop_left]
  rw [unescape_backslash, hescaped, hrest]
  rfl

/-! ### Ways to spell a character -/

def letters : List (Char × Char) :=
  [('n', '\n'), ('t', '\t'), ('r', '\r'), ('b', '\x08'), ('f', '\x0c'), ('v', '\x0b')]

/-- The characters that mean something else than themselves behind a backslash, digits apart. -/
def meaningful : List Char :=
  ['n', 't', 'r', 'b', 'f', 'v', 'x', 'u', '\n', '\r', '\u2028', '\u2029']

inductive Spelling : Char → List Char → Prop
  | itself {c : Char} (hc : c ≠ '\\') : Spelling c [c]
  | letter {l c : Char} (hl : (l, c) ∈ letters) : Spelling c ['\\', l]
  | null : Spelling '\x00' ['\\', '0']
  | byte {c : Char} {s : List Char} (hs : SpellsHex c.toNat s) (hlength : s.length = 2) :
      Spelling c ('\\' :: 'x' :: s)
  | unicode {c : Char} {s : List Char} (hs : SpellsHex c.toNat s) (hlength : s.length = 4) :
      Spelling c ('\\' :: 'u' :: s)
  | braces {c : Char} {s : List Char} (hs : SpellsHex c.toNat s) (hne : s ≠ []) :
      Spelling c ('\\' :: 'u' :: '\x7b' :: (s ++ ['\x7d']))
  /-- A character beyond the first plane, by the halves of its surrogate pair. -/
  | pair {c : Char} {s t : List Char} (hc : 0x10000 ≤ c.toNat)
      (hs : SpellsHex (0xD800 + (c.toNat - 0x10000) / 0x400) s) (hslength : s.length = 4)
      (ht : SpellsHex (0xDC00 + (c.toNat - 0x10000) % 0x400) t) (htlength : t.length = 4) :
      Spelling c ('\\' :: 'u' :: (s ++ '\\' :: 'u' :: t))
  | escaped {c : Char} (hc : c ∉ meaningful) (hdigit : c.isDigit = false) : Spelling c ['\\', c]

def continuations : List (List Char) :=
  [['\\', '\n'], ['\\', '\r'], ['\\', '\r', '\n'], ['\\', '\u2028'], ['\\', '\u2029']]

/-- What follows a piece does not change its meaning. -/
structure Apart (piece rest : List Char) : Prop where
  digit : piece = ['\\', '0'] → ∀ c, rest.head? = some c → c.isDigit = false
  lineFeed : piece = ['\\', '\r'] → rest.head? ≠ some '\n'

/-- The ways to spell a text. Lines may be continued anywhere between two characters. -/
inductive SpellsText : List Char → List Char → Prop
  | nil : SpellsText [] []
  | character {c : Char} {piece value s : List Char} (hc : Spelling c piece)
      (hapart : Apart piece s) (hs : SpellsText value s) : SpellsText (c :: value) (piece ++ s)
  | continuation {piece value s : List Char} (hpiece : piece ∈ continuations)
      (hapart : Apart piece s) (hs : SpellsText value s) : SpellsText value (piece ++ s)

theorem unescape_letter {l : Char} (hl : (l, c) ∈ letters) (rest : List Char) :
    unescape ('\\' :: l :: rest) = c :: unescape rest := by
  have hescaped : escaped (l :: rest) = ([c], 1) := by
    simp only [letters, List.mem_cons, Prod.mk.injEq, List.not_mem_nil, or_false] at hl
    rcases hl with ⟨rfl, rfl⟩ | ⟨rfl, rfl⟩ | ⟨rfl, rfl⟩ | ⟨rfl, rfl⟩ | ⟨rfl, rfl⟩ | ⟨rfl, rfl⟩
    all_goals rfl
  rw [unescape_backslash, hescaped]
  rfl

theorem unescape_null (hrest : ∀ c, rest.head? = some c → c.isDigit = false) :
    unescape ('\\' :: '0' :: rest) = '\x00' :: unescape rest := by
  have hdigit : rest.head?.any Char.isDigit = false := by
    cases h : rest.head? with
    | none => rfl
    | some c => exact hrest c h
  have hescaped : escaped ('0' :: rest) = (['\x00'], 1) := by simp [escaped, hdigit]
  rw [unescape_backslash, hescaped]
  rfl

theorem escaped_meaningless (hc : c ∉ meaningful) (hzero : c ≠ '0') (rest : List Char) :
    escaped (c :: rest) = ([c], 1) := by
  rw [escaped.eq_def]
  split <;> simp_all [meaningful]

/-- A backslash in front of a character without a meaning of its own means nothing. -/
theorem unescape_meaningless (hc : c ∉ meaningful) (hdigit : c.isDigit = false)
    (rest : List Char) : unescape ('\\' :: c :: rest) = c :: unescape rest := by
  have hzero : c ≠ '0' := by
    rintro rfl
    exact absurd hdigit (by decide)
  rw [unescape_backslash, escaped_meaningless hc hzero]
  rfl

/-- The halves of a surrogate pair are joined again. -/
theorem unescape_pair {t : List Char} (hc : 0x10000 ≤ c.toNat)
    (hs : SpellsHex (0xD800 + (c.toNat - 0x10000) / 0x400) s) (hslength : s.length = 4)
    (ht : SpellsHex (0xDC00 + (c.toNat - 0x10000) % 0x400) t) (htlength : t.length = 4)
    (rest : List Char) :
    unescape ('\\' :: 'u' :: (s ++ '\\' :: 'u' :: (t ++ rest))) = c :: unescape rest := by
  have hbound : c.toNat < 0x110000 := by
    have hvalid : c.toNat.isValidChar := c.valid
    unfold Nat.isValidChar at hvalid
    omega
  have hhigh : isHighHalf (0xD800 + (c.toNat - 0x10000) / 0x400) = true := by
    simp only [isHighHalf, Bool.and_eq_true, decide_eq_true_eq]
    omega
  have hlow : isLowHalf (0xDC00 + (c.toNat - 0x10000) % 0x400) = true := by
    simp only [isLowHalf, Bool.and_eq_true, decide_eq_true_eq]
    omega
  have hcode : pairCode (0xD800 + (c.toNat - 0x10000) / 0x400)
      (0xDC00 + (c.toNat - 0x10000) % 0x400) = c.toNat := by
    unfold pairCode
    omega
  have hahead := ht.hexAhead?_append rest
  rw [htlength] at hahead
  have hlowAhead : lowHalfAhead? ('\\' :: 'u' :: (t ++ rest)) =
      some (0xDC00 + (c.toNat - 0x10000) % 0x400) := by
    rw [lowHalfAhead?, hahead, Option.filter_some, if_pos hlow]
  have hjoined : joined (0xD800 + (c.toNat - 0x10000) / 0x400) ('\\' :: 'u' :: (t ++ rest)) =
      (c, 6) := by
    rw [joined, if_pos hhigh, hlowAhead]
    simp only [hcode, character_toNat]
  have hrest : ('\\' :: 'u' :: (t ++ rest)).drop 6 = rest := by
    rw [List.drop_succ_cons, List.drop_succ_cons, ← htlength, List.drop_left]
  rw [unescape_unicode (hs.unicodeAhead?_append hslength _), hjoined, hrest]

/-- However a character is spelled, it is read in front of everything that leaves its spelling
alone. -/
theorem Spelling.unescape_append (h : Spelling c s) (hrest : Apart s rest) :
    unescape (s ++ rest) = c :: unescape rest := by
  cases h with
  | itself hc => exact unescape_cons rest hc
  | letter hl => exact unescape_letter hl rest
  | null => exact unescape_null (hrest.digit rfl)
  | byte hs hlength =>
      rw [List.cons_append, List.cons_append, unescape_byte hs hlength, joined_toNat,
        List.drop_zero]
  | unicode hs hlength =>
      rw [List.cons_append, List.cons_append,
        unescape_unicode (hs.unicodeAhead?_append hlength rest), joined_toNat, List.drop_zero]
  | @braces _ s hs hne =>
      have hcode : c.toNat < 0x100000000 := c.val.toNat_lt
      have hahead := hs.unicodeAhead?_braces hne hcode rest
      have htext : '\x7b' :: (s ++ '\x7d' :: rest) = ('\x7b' :: (s ++ ['\x7d'])) ++ rest := by simp
      have hlength : s.length + 2 = ('\x7b' :: (s ++ ['\x7d'])).length := by simp
      rw [htext, hlength] at hahead
      rw [List.cons_append, List.cons_append, unescape_unicode hahead, joined_toNat, List.drop_zero]
  | @pair _ s t hc hs hslength ht htlength =>
      have htext : '\\' :: 'u' :: (s ++ '\\' :: 'u' :: t) ++ rest =
          '\\' :: 'u' :: (s ++ '\\' :: 'u' :: (t ++ rest)) := by simp
      rw [htext, unescape_pair hc hs hslength ht htlength]
  | escaped hc hdigit => exact unescape_meaningless hc hdigit rest

/-- A line that is continued leaves no trace. -/
theorem unescape_continuation (hs : s ∈ continuations) (hrest : Apart s rest) :
    unescape (s ++ rest) = unescape rest := by
  simp only [continuations, List.mem_cons, List.not_mem_nil, or_false] at hs
  rcases hs with rfl | rfl | rfl | rfl | rfl
  · exact unescape_backslash _
  · have hescaped : escaped ('\r' :: rest) = ([], 1) := by
      have hlineFeed := hrest.lineFeed rfl
      obtain - | ⟨d, r⟩ := rest
      · rfl
      · have hd : d ≠ '\n' := fun h => hlineFeed (congrArg some h)
        simp [escaped, hd]
    rw [List.cons_append, unescape_backslash, List.singleton_append, hescaped]
    rfl
  all_goals exact unescape_backslash _

/-- However a text is spelled, reading its escapes gives the text. -/
theorem unescape_of_spellsText {value s : List Char} (h : SpellsText value s) :
    unescape s = value := by
  induction h with
  | nil => exact unescape_nil
  | character hc hapart _ ih => rw [hc.unescape_append hapart, ih]
  | continuation hpiece hapart _ ih => rw [unescape_continuation hpiece hapart, ih]

def manySpellings : List Char :=
  ['\\', '0', '\\', '\r', '\\', 'u', 'd', '8', '3', 'D', '\\', 'u', 'D', 'E', '0', '0', '\\', 'u',
    '\x7b', '0', '0', '0', '4', '1', '\x7d', '\\', 'x', 'e', '9', '\\', '/', '\\', 'n', '7']

/-- NUL in front of a continued line, the halves of a surrogate pair, a number with zeros in front,
and a digit behind a letter. -/
theorem unescape_manySpellings :
    SpellsText ['\x00', '😀', 'A', 'é', '/', '\n', '7'] manySpellings ∧
      unescape manySpellings = ['\x00', '😀', 'A', 'é', '/', '\n', '7'] := by
  have hhigh : SpellsHex (0xD800 + ('😀'.toNat - 0x10000) / 0x400) ['d', '8', '3', 'D'] :=
    ⟨[13, 8, 3, 13], by decide, by decide⟩
  have hlow : SpellsHex (0xDC00 + ('😀'.toNat - 0x10000) % 0x400) ['D', 'E', '0', '0'] :=
    ⟨[13, 14, 0, 0], by decide, by decide⟩
  have hbraces : SpellsHex 'A'.toNat ['0', '0', '0', '4', '1'] :=
    ⟨[0, 0, 0, 4, 1], by decide, by decide⟩
  have hbyte : SpellsHex 'é'.toNat ['e', '9'] := ⟨[14, 9], by decide, by decide⟩
  have hspells : SpellsText ['\x00', '😀', 'A', 'é', '/', '\n', '7'] manySpellings := by
    refine .character .null ⟨by simp, by simp⟩ ?_
    refine .continuation (by decide : ['\\', '\r'] ∈ continuations) ⟨by simp, by simp⟩ ?_
    refine .character (.pair (by decide) hhigh rfl hlow rfl) ⟨by simp, by simp⟩ ?_
    refine .character (.braces hbraces (by decide)) ⟨by simp, by simp⟩ ?_
    refine .character (.byte hbyte rfl) ⟨by simp, by simp⟩ ?_
    refine .character (.escaped (by decide) (by decide)) ⟨by simp, by simp⟩ ?_
    refine .character (.letter (l := 'n') (by decide)) ⟨by simp, by simp⟩ ?_
    exact .character (.itself (by decide)) ⟨by simp, by simp⟩ .nil
  exact ⟨hspells, unescape_of_spellsText hspells⟩

end DecoratorGraph.Script.Literal
