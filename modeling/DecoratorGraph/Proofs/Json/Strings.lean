import DecoratorGraph.Json.Reader
import DecoratorGraph.Proofs.Script.Escapes

/-!
# Spellings of JSON strings

`Spells value s` says that the text `s` between two quotes spells the characters `value`, each in
one of the ways that there are (`Spelling`). A string is read to the characters that are spelled,
however they are spelled (`stringBody_of_spells`). There are texts that stand between quotes in JSON
and spell no characters, since halves of surrogate pairs need not have partners (`StringText`): if
such a text is read at all, it is read up to its closing quote, and spells what it is read to
(`stringBody_exact`).
-/

namespace DecoratorGraph.JsonText

open Script.Literal (SpellsHex)

variable {c : Char} {n fuel : Nat} {value ds s r rest : List Char}

/-! ### Escapes -/

def letters : List (Char × Char) :=
  [('"', '"'), ('\\', '\\'), ('/', '/'), ('b', '\x08'), ('f', '\x0c'), ('n', '\n'), ('r', '\r'),
    ('t', '\t')]

/-- A character that may stand for itself between quotes. -/
def IsPlain (c : Char) : Prop := c ≠ '"' ∧ c ≠ '\\' ∧ ¬c.toNat < 0x20

instance : DecidablePred IsPlain := fun c =>
  inferInstanceAs (Decidable (c ≠ '"' ∧ c ≠ '\\' ∧ ¬c.toNat < 0x20))

def Code (n : Nat) (ds : List Char) : Prop := SpellsHex n ds ∧ ds.length = 4

theorem shortEscape?_eq_some_iff {e : Char} : shortEscape? e = some c ↔ (e, c) ∈ letters := by
  constructor
  · intro h
    unfold shortEscape? at h
    split at h <;> cases h <;> decide
  · intro h
    simp only [letters, List.mem_cons, Prod.mk.injEq, List.not_mem_nil, or_false] at h
    rcases h with h | h | h | h | h | h | h | h <;> obtain ⟨rfl, rfl⟩ := h <;> rfl

theorem hexDigit?_eq (c : Char) : hexDigit? c = Script.Literal.hexDigit? c := by
  have hlower : 'a' ≤ c → c.toNat - 87 = c.toNat - 'a'.toNat + 10 := fun h => by
    have hle : 'a'.toNat ≤ c.toNat := h
    have ha : 'a'.toNat = 97 := rfl
    omega
  have hupper : 'A' ≤ c → c.toNat - 55 = c.toNat - 'A'.toNat + 10 := fun h => by
    have hle : 'A'.toNat ≤ c.toNat := h
    have ha : 'A'.toNat = 65 := rfl
    omega
  unfold hexDigit? Script.Literal.hexDigit?
  split
  · rfl
  split
  · next h => rw [hlower h.1]
  split
  · next h => rw [hupper h.1]
  · rfl

theorem hexDigit?_eq_some_iff : hexDigit? c = some n ↔ Script.Literal.IsHexDigit n c := by
  rw [hexDigit?_eq]
  exact ⟨Script.Literal.isHexDigit_of_hexDigit?, Script.Literal.hexDigit?_of_isHexDigit⟩

theorem length_le_utf8ByteSize (cs : List Char) :
    cs.length ≤ (String.ofList cs).utf8ByteSize := by
  induction cs with
  | nil => exact Nat.zero_le _
  | cons c cs ih =>
      have hc := c.utf8Size_pos
      rw [String.ofList_cons, String.utf8ByteSize_append, String.utf8ByteSize_singleton,
        List.length_cons]
      omega

/-- The digits of a code are those that are read. -/
theorem code_iff :
    Code n ds ↔ ∃ a b c d : Char, ∃ k l m o : Nat, ds = [a, b, c, d] ∧ hexDigit? a = some k ∧
      hexDigit? b = some l ∧ hexDigit? c = some m ∧ hexDigit? d = some o ∧
      n = ((k * 16 + l) * 16 + m) * 16 + o := by
  have hvalue (k l m o : Nat) :
      Nat.ofDigits 16 [k, l, m, o].reverse = ((k * 16 + l) * 16 + m) * 16 + o := by
    simp only [List.reverse_cons, List.reverse_nil, List.nil_append, List.cons_append,
      Nat.ofDigits_cons, Nat.ofDigits_nil]
    push_cast
    ring
  simp only [hexDigit?_eq_some_iff]
  constructor
  · rintro ⟨⟨digits, hdigits, rfl⟩, hlength⟩
    obtain ⟨a, b, c, d, rfl⟩ : ∃ a b c d, ds = [a, b, c, d] := List.length_eq_four.1 hlength
    obtain - | ⟨ha, hdigits⟩ := hdigits
    obtain - | ⟨hb, hdigits⟩ := hdigits
    obtain - | ⟨hc, hdigits⟩ := hdigits
    obtain - | ⟨hd, hdigits⟩ := hdigits
    cases hdigits
    exact ⟨a, b, c, d, _, _, _, _, rfl, ha, hb, hc, hd, hvalue _ _ _ _⟩
  · rintro ⟨a, b, c, d, k, l, m, o, rfl, ha, hb, hc, hd, rfl⟩
    exact ⟨⟨[k, l, m, o], .cons ha (.cons hb (.cons hc (.cons hd .nil))), (hvalue k l m o).symm⟩,
      rfl⟩

/-- A code is read as its number. -/
theorem Code.hexFour (h : Code n ds) (r : List Char) : hexFour (ds ++ r) = .ok (n, r) := by
  obtain ⟨a, b, c, d, k, l, m, o, rfl, ha, hb, hc, hd, rfl⟩ := code_iff.1 h
  have hbytes : ¬ (String.ofList [a, b, c, d]).utf8ByteSize < 4 :=
    Nat.not_lt.2 (length_le_utf8ByteSize [a, b, c, d])
  simp only [JsonText.hexFour, List.cons_append, List.nil_append, List.take_succ_cons,
    List.take_zero, if_neg hbytes, ha, hb, hc, hd]

/-! ### Spellings -/

inductive Spelling : Char → List Char → Prop
  | itself {c : Char} (hc : IsPlain c) : Spelling c [c]
  | letter {e c : Char} (he : (e, c) ∈ letters) : Spelling c ['\\', e]
  | code {c : Char} {ds : List Char} (hds : Code c.toNat ds) : Spelling c ('\\' :: 'u' :: ds)
  /-- A character beyond the first plane, by the halves of its surrogate pair. -/
  | pair {c : Char} {ds es : List Char} (hc : 0x10000 ≤ c.toNat)
      (hds : Code (0xD800 + (c.toNat - 0x10000) / 0x400) ds)
      (hes : Code (0xDC00 + (c.toNat - 0x10000) % 0x400) es) :
      Spelling c ('\\' :: 'u' :: (ds ++ '\\' :: 'u' :: es))

inductive Spells : List Char → List Char → Prop
  | nil : Spells [] []
  | cons {c : Char} {piece cs s : List Char} (hc : Spelling c piece) (h : Spells cs s) :
      Spells (c :: cs) (piece ++ s)

theorem stringTail_plain (hc : IsPlain c) (r : List Char) :
    stringTail (fuel + 1) (c :: r) =
      (do
        let (cs, rest) ← stringTail fuel r
        .ok (c :: cs, rest)) := by
  simp only [stringTail, if_neg hc.1, if_neg hc.2.1, if_neg hc.2.2]

theorem stringTail_letter {e : Char} (he : (e, c) ∈ letters) (r : List Char) :
    stringTail (fuel + 1) ('\\' :: e :: r) =
      (do
        let (cs, rest) ← stringTail fuel r
        .ok (c :: cs, rest)) := by
  have hne : ('\\' : Char) ≠ '"' := by decide
  simp only [stringTail, if_neg hne, if_true, shortEscape?_eq_some_iff.2 he]

theorem stringTail_unicode (s : List Char) :
    stringTail (fuel + 1) ('\\' :: 'u' :: s) =
      (do
        let (c, r) ← unicodeEscape s
        let (cs, rest) ← stringTail fuel r
        .ok (c :: cs, rest)) := by
  have hne : ('\\' : Char) ≠ '"' := by decide
  have hu : shortEscape? 'u' = none := rfl
  simp only [stringTail, if_neg hne, if_true, hu]

theorem unicodeEscape_code (h : Code n ds) (r : List Char) :
    unicodeEscape (ds ++ r) =
      if 0xDC00 ≤ n ∧ n ≤ 0xDFFF then .error .malformed
      else if 0xD800 ≤ n ∧ n ≤ 0xDBFF then lowHalf n r
      else .ok (Char.ofNat n, r) := by
  rw [unicodeEscape, h.hexFour]
  rfl

theorem lowHalf_code {high : Nat} (h : Code n ds) (r : List Char) :
    lowHalf high ('\\' :: 'u' :: (ds ++ r)) =
      if 0xDC00 ≤ n ∧ n ≤ 0xDFFF then
        .ok (Char.ofNat (0x10000 + (high - 0xD800) * 0x400 + (n - 0xDC00)), r)
      else .error .malformed := by
  simp only [lowHalf, ne_eq, not_true_eq_false, if_false, h.hexFour]
  rfl

/-- A character is read, however it is spelled. -/
theorem stringTail_spelling {piece : List Char} (h : Spelling c piece) (r : List Char) :
    stringTail (fuel + 1) (piece ++ r) =
      (do
        let (cs, rest) ← stringTail fuel r
        .ok (c :: cs, rest)) := by
  have hvalid : c.toNat.isValidChar := c.valid
  unfold Nat.isValidChar at hvalid
  cases h with
  | itself hc => exact stringTail_plain hc r
  | letter he => exact stringTail_letter he r
  | code hds =>
      have hlow : ¬(0xDC00 ≤ c.toNat ∧ c.toNat ≤ 0xDFFF) := by omega
      have hhigh : ¬(0xD800 ≤ c.toNat ∧ c.toNat ≤ 0xDBFF) := by omega
      simp only [List.cons_append, stringTail_unicode, unicodeEscape_code hds, if_neg hlow,
        if_neg hhigh, Char.ofNat_toNat]
      rfl
  | @pair _ ds es hc hds hes =>
      -- The halves carry the two parts of what exceeds the first plane.
      obtain ⟨q, hq⟩ : ∃ q, (c.toNat - 0x10000) / 0x400 = q := ⟨_, rfl⟩
      obtain ⟨m, hm⟩ : ∃ m, (c.toNat - 0x10000) % 0x400 = m := ⟨_, rfl⟩
      rw [hq] at hds
      rw [hm] at hes
      have hnotLow : ¬(0xDC00 ≤ 0xD800 + q ∧ 0xD800 + q ≤ 0xDFFF) := by omega
      have hhigh : 0xD800 ≤ 0xD800 + q ∧ 0xD800 + q ≤ 0xDBFF := by omega
      have hlow : 0xDC00 ≤ 0xDC00 + m ∧ 0xDC00 + m ≤ 0xDFFF := by omega
      have hnumber : 0x10000 + (0xD800 + q - 0xD800) * 0x400 + (0xDC00 + m - 0xDC00) = c.toNat := by
        omega
      simp only [List.cons_append, List.append_assoc, stringTail_unicode, unicodeEscape_code hds,
        if_neg hnotLow, if_pos hhigh, lowHalf_code hes, if_pos hlow, hnumber, Char.ofNat_toNat]
      rfl

theorem spells_of_plain (h : s.all fun c => decide (IsPlain c)) : Spells s s := by
  induction s with
  | nil => exact .nil
  | cons c s ih =>
      simp only [List.all_cons, Bool.and_eq_true, decide_eq_true_eq] at h
      exact (ih h.2).cons (.itself h.1)

theorem Spells.append {value' s' : List Char} (h : Spells value s) (h' : Spells value' s') :
    Spells (value ++ value') (s ++ s') := by
  induction h with
  | nil => exact h'
  | cons hc _ ih =>
      rw [List.append_assoc]
      exact ih.cons hc

theorem Spells.length_le (h : Spells value s) : value.length ≤ s.length := by
  induction h with
  | nil => exact Nat.le_refl 0
  | @cons c piece cs s hc _ ih =>
      have hpiece : 1 ≤ piece.length := List.length_pos_iff.2 (by cases hc <;> simp)
      rw [List.length_cons, List.length_append]
      omega

theorem stringTail_of_spells (h : Spells value s) (hfuel : value.length < fuel) (r : List Char) :
    stringTail fuel (s ++ '"' :: r) = .ok (value, r) := by
  induction h generalizing fuel with
  | nil =>
      obtain ⟨fuel, rfl⟩ := Nat.exists_eq_add_of_lt hfuel
      simp [stringTail]
  | cons hc _ ih =>
      obtain ⟨fuel, rfl⟩ := Nat.exists_eq_add_of_lt (Nat.zero_lt_of_lt hfuel)
      have hs := ih (Nat.lt_of_succ_lt_succ (by simpa using hfuel))
      rw [List.append_assoc, Nat.zero_add, stringTail_spelling hc, hs]
      rfl

/-- A string is read to the characters that it spells. -/
theorem stringBody_of_spells {name : String} (h : Spells name.toList s) (r : List Char) :
    stringBody (s ++ '"' :: r) = .ok (name, r) := by
  have hfuel : name.toList.length < (s ++ '"' :: r).length + 1 := by
    have hlength := h.length_le
    rw [List.length_append]
    omega
  simp only [stringBody, stringTail_of_spells h hfuel, Except.bind, bind, String.ofList_toList]

/-- A text spells no more than one string. -/
theorem Spells.unique {name other : String} (h : Spells name.toList s)
    (h' : Spells other.toList s) : name = other := by
  have hread := stringBody_of_spells h []
  rw [stringBody_of_spells h', Except.ok.injEq, Prod.mk.injEq] at hread
  exact hread.1.symm

/-! ### What is read is spelled -/

/-- A text between two quotes, in which halves of surrogate pairs need not have partners. -/
inductive StringText : List Char → Prop
  | nil : StringText []
  | plain {c : Char} {s : List Char} (hc : IsPlain c) (h : StringText s) : StringText (c :: s)
  | letter {e c : Char} {s : List Char} (he : (e, c) ∈ letters) (h : StringText s) :
      StringText ('\\' :: e :: s)
  | code {n : Nat} {ds s : List Char} (hds : Code n ds) (h : StringText s) :
      StringText ('\\' :: 'u' :: (ds ++ s))

theorem StringText.append_piece {piece : List Char} (hc : Spelling c piece) (h : StringText s) :
    StringText (piece ++ s) := by
  cases hc with
  | itself hc => exact .plain hc h
  | letter he => exact .letter he h
  | code hds => exact .code hds h
  | @pair _ ds es _ hds hes =>
      have htext := StringText.code hds (.code hes h)
      simpa only [List.cons_append, List.append_assoc] using htext

theorem Spells.stringText (h : Spells value s) : StringText s := by
  induction h with
  | nil => exact .nil
  | cons hc _ ih => exact .append_piece hc ih

theorem bind_eq_ok_iff {α β : Type} {x : Except ReadError α} {f : α → Except ReadError β} {b : β} :
    (x >>= f) = .ok b ↔ ∃ a, x = .ok a ∧ f a = .ok b := by
  cases x with
  | error e => simp [bind, Except.bind]
  | ok a => simp [bind, Except.bind]

theorem toNat_ofNat (h : n.isValidChar) : (Char.ofNat n).toNat = n := by
  rw [Char.ofNat, dif_pos h]
  rfl

/-- The number of a code that is no half of a surrogate pair is that of a character. -/
theorem Code.toNat_ofNat (h : Code n ds) (hn : n < 0xD800 ∨ 0xDFFF < n) :
    (Char.ofNat n).toNat = n := by
  refine JsonText.toNat_ofNat ?_
  obtain ⟨a, b, c, d, k, l, m, o, -, ha, hb, hc, hd, rfl⟩ := code_iff.1 h
  have hlt {c : Char} {k : Nat} (hc : hexDigit? c = some k) : k < 16 :=
    (hexDigit?_eq_some_iff.1 hc).1
  have hk := hlt ha
  have hl := hlt hb
  have hm := hlt hc
  have ho := hlt hd
  unfold Nat.isValidChar
  omega

/-- A half of a surrogate pair is read with its partner only. -/
theorem lowHalf_stringText {high : Nat} (hs : StringText s)
    (h : lowHalf high (s ++ '"' :: rest) = .ok (c, r)) :
    ∃ low es t, Code low es ∧ (0xDC00 ≤ low ∧ low ≤ 0xDFFF) ∧ StringText t ∧
      s = '\\' :: 'u' :: (es ++ t) ∧ r = t ++ '"' :: rest ∧
      c = Char.ofNat (0x10000 + (high - 0xD800) * 0x400 + (low - 0xDC00)) := by
  cases hs with
  | nil => simp [lowHalf] at h
  | plain hc => simp [lowHalf, hc.2.1] at h
  | letter he =>
      have hu : ∀ e c : Char, (e, c) ∈ letters → e ≠ 'u' := by
        simp only [letters, List.mem_cons, Prod.mk.injEq, List.not_mem_nil, or_false]
        rintro e c (h | h | h | h | h | h | h | h) <;> rw [h.1] <;> decide
      simp [lowHalf, hu _ _ he] at h
  | @code low es t hes ht =>
      rw [List.cons_append, List.cons_append, List.append_assoc, lowHalf_code hes] at h
      split at h
      · next hlow =>
          rw [Except.ok.injEq, Prod.mk.injEq] at h
          exact ⟨low, es, t, hes, hlow, ht, rfl, h.2.symm, h.1.symm⟩
      · cases h

/-- Two halves of a surrogate pair spell the character that they are read to. -/
theorem spelling_pair {high low : Nat} {es : List Char} (hds : Code high ds)
    (hhigh : 0xD800 ≤ high ∧ high ≤ 0xDBFF) (hes : Code low es)
    (hlow : 0xDC00 ≤ low ∧ low ≤ 0xDFFF)
    (hc : c = Char.ofNat (0x10000 + (high - 0xD800) * 0x400 + (low - 0xDC00))) :
    Spelling c ('\\' :: 'u' :: (ds ++ '\\' :: 'u' :: es)) := by
  have hnumber : c.toNat = 0x10000 + ((high - 0xD800) * 0x400 + (low - 0xDC00)) := by
    rw [hc, Nat.add_assoc]
    refine toNat_ofNat ?_
    unfold Nat.isValidChar
    omega
  have hfirst : 0xD800 + (c.toNat - 0x10000) / 0x400 = high := by
    rw [hnumber]
    omega
  have hsecond : 0xDC00 + (c.toNat - 0x10000) % 0x400 = low := by
    rw [hnumber]
    omega
  exact .pair (by rw [hnumber]; exact Nat.le_add_right _ _) (by rwa [hfirst]) (by rwa [hsecond])

/-- What is read of a text between quotes spells what it is read to. The induction is on the fuel,
since a surrogate pair takes two codes at once. -/
theorem stringTail_exact (hs : StringText s)
    (h : stringTail fuel (s ++ '"' :: rest) = .ok (value, r)) : r = rest ∧ Spells value s := by
  induction fuel generalizing s value with
  | zero => cases h
  | succ fuel ih =>
      have hnext {c : Char} {t : List Char} (ht : StringText t)
          (h : (do
            let (cs, rest) ← stringTail fuel (t ++ '"' :: rest)
            Except.ok (c :: cs, rest)) = Except.ok (value, r)) :
          ∃ cs, value = c :: cs ∧ r = rest ∧ Spells cs t := by
        obtain ⟨⟨cs, r'⟩, hread, hvalue⟩ := bind_eq_ok_iff.1 h
        cases hvalue
        exact ⟨cs, rfl, ih ht hread⟩
      cases hs with
      | nil =>
          simp only [List.nil_append, stringTail, if_true] at h
          cases h
          exact ⟨rfl, .nil⟩
      | @plain c t hc ht =>
          rw [List.cons_append, stringTail_plain hc] at h
          obtain ⟨cs, rfl, hr, hspells⟩ := hnext ht h
          exact ⟨hr, hspells.cons (.itself hc)⟩
      | @letter e c t he ht =>
          rw [List.cons_append, List.cons_append, stringTail_letter he] at h
          obtain ⟨cs, rfl, hr, hspells⟩ := hnext ht h
          exact ⟨hr, hspells.cons (.letter he)⟩
      | @code n ds t hds ht =>
          rw [List.cons_append, List.cons_append, List.append_assoc, stringTail_unicode,
            unicodeEscape_code hds] at h
          split at h
          · cases h
          split at h
          · next hhigh =>
              obtain ⟨⟨c, r'⟩, hlow, h⟩ := bind_eq_ok_iff.1 h
              obtain ⟨low, es, t', hes, hbounds, ht', rfl, rfl, hc⟩ := lowHalf_stringText ht hlow
              obtain ⟨cs, rfl, hr, hspells⟩ := hnext ht' h
              have hspelled := hspells.cons (spelling_pair hds hhigh hes hbounds hc)
              simp only [List.cons_append, List.append_assoc] at hspelled
              exact ⟨hr, hspelled⟩
          · next hnotLow hnotHigh =>
              obtain ⟨cs, rfl, hr, hspells⟩ := hnext ht h
              have hnumber := hds.toNat_ofNat (by omega)
              exact ⟨hr, hspells.cons (.code (by rwa [hnumber]))⟩

/-- A text between quotes that is read is read to its closing quote, and spells the string. -/
theorem stringBody_exact (hs : StringText s) {name : String}
    (h : stringBody (s ++ '"' :: rest) = .ok (name, r)) : r = rest ∧ Spells name.toList s := by
  obtain ⟨⟨value, r'⟩, hread, hvalue⟩ := bind_eq_ok_iff.1 h
  cases hvalue
  rw [String.toList_ofList]
  exact stringTail_exact hs hread

end DecoratorGraph.JsonText
