import DecoratorGraph.Proofs.Text.ByteOrder
import Mathlib.Data.List.Induction

/-!
# Reading the bytes of a text

The bytes of a text are read back as that text: the first byte of a character announces as many
trailing bytes as follow it, and bounds for the next one that the character keeps. Bytes below 128
are characters of their own wherever they stand, so bytes that end like an ASCII text end in it.
-/

namespace DecoratorGraph.Text.Utf8

/-! ### One character -/

theorem step_trailing {n low high bits d : Nat} (hd : d < 64) (hlow : low ≤ d + 128)
    (hhigh : d + 128 ≤ high) :
    step (some ⟨n + 1, low, high, bits⟩) (UInt8.ofNat (d + 128)).toNat =
      settle ⟨n, 0x80, 0xBF, bits * 64 + d⟩ := by
  have hbyte : (UInt8.ofNat (d + 128)).toNat = d + 128 := by
    rw [UInt8.toNat_ofNat']
    omega
  rw [hbyte, step]
  simp [hlow, hhigh]

/-- The trailing bytes of a character are read, if the first of them keeps its bounds. -/
theorem scan_trailing {n v low high : Nat} (hlow : low ≤ v / 64 ^ n % 64 + 128)
    (hhigh : v / 64 ^ n % 64 + 128 ≤ high) (r : List UInt8) :
    scan (some ⟨n + 1, low, high, v / 64 ^ (n + 1)⟩) (trailing (n + 1) v ++ r) =
      some (Char.ofNat v) :: scan none r := by
  induction n generalizing low high with
  | zero =>
      have hbits : v / 64 ^ (0 + 1) * 64 + v / 64 ^ 0 % 64 = v := by omega
      rw [trailing, List.cons_append, scan, step_trailing (Nat.mod_lt _ (by decide)) hlow hhigh,
        hbits]
      rfl
  | succ n ih =>
      have hbits : v / 64 ^ (n + 1 + 1) * 64 + v / 64 ^ (n + 1) % 64 = v / 64 ^ (n + 1) := by
        rw [Nat.pow_succ 64 (n + 1), ← Nat.div_div_eq_div_mul]
        omega
      rw [trailing, List.cons_append, scan, step_trailing (Nat.mod_lt _ (by decide)) hlow hhigh,
        hbits]
      exact ih (by omega) (by omega)

theorem toNat_not_surrogate (c : Char) :
    c.toNat < 0xD800 ∨ 0xDFFF < c.toNat ∧ c.toNat < 0x110000 := by
  have h := c.valid
  simp only [UInt32.isValidChar, Nat.isValidChar] at h
  show c.val.toNat < 0xD800 ∨ 0xDFFF < c.val.toNat ∧ c.val.toNat < 0x110000
  omega

/-- The first byte of a character announces how many trailing bytes there are, and bounds that the
first of them keeps. -/
theorem first?_leading {n v : Nat} (hn : HasTrailing v (n + 1))
    (hvalid : v < 0xD800 ∨ 0xDFFF < v ∧ v < 0x110000) :
    ∃ low high, first? (leading (n + 1) v) = some ⟨n + 1, low, high, v / 64 ^ (n + 1)⟩ ∧
      low ≤ v / 64 ^ n % 64 + 128 ∧ v / 64 ^ n % 64 + 128 ≤ high := by
  match n, hn with
  | 0, hn =>
      simp only [HasTrailing] at hn
      refine ⟨0x80, 0xBF, ?_, by omega, by omega⟩
      simp only [leading, first?]
      grind
  | 1, hn =>
      simp only [HasTrailing] at hn
      by_cases hlow : v < 0x1000
      · refine ⟨0xA0, 0xBF, ?_, by omega, by omega⟩
        simp only [leading, first?]
        grind
      by_cases hhigh : v / 0x1000 = 0xD
      · refine ⟨0x80, 0x9F, ?_, by omega, by omega⟩
        simp only [leading, first?]
        grind
      · refine ⟨0x80, 0xBF, ?_, by omega, by omega⟩
        simp only [leading, first?]
        grind
  | 2, hn =>
      simp only [HasTrailing] at hn
      by_cases hlow : v < 0x40000
      · refine ⟨0x90, 0xBF, ?_, by omega, by omega⟩
        simp only [leading, first?]
        grind
      by_cases hhigh : v < 0x100000
      · refine ⟨0x80, 0xBF, ?_, by omega, by omega⟩
        simp only [leading, first?]
        grind
      · refine ⟨0x80, 0x8F, ?_, by omega, by omega⟩
        simp only [leading, first?]
        grind

theorem scan_utf8EncodeChar (c : Char) (r : List UInt8) :
    scan none (String.utf8EncodeChar c ++ r) = some c :: scan none r := by
  obtain ⟨n, hn, hbytes⟩ := exists_hasTrailing c
  have hlead : (UInt8.ofNat (leading n c.toNat)).toNat = leading n c.toNat := by
    have hlt := leading_lt hn
    rw [UInt8.toNat_ofNat']
    omega
  rw [hbytes, List.cons_append, scan, step, start, hlead]
  cases n with
  | zero =>
      have hascii : first? (leading 0 c.toNat) = some ⟨0, 0x80, 0xBF, c.toNat⟩ := if_pos hn
      simp [hascii, settle, trailing]
  | succ n =>
      obtain ⟨low, high, hfirst, hlow, hhigh⟩ := first?_leading hn (toNat_not_surrogate c)
      simpa [hfirst, settle] using scan_trailing hlow hhigh r

/-! ### Texts -/

/-- The bytes of a text are read as that text. -/
theorem decode?_encode (s : String) : decode? (encode s) = some s := by
  have hscan (cs : List Char) : scan none (cs.flatMap String.utf8EncodeChar) = cs.map some := by
    induction cs with
    | nil => rfl
    | cons c cs ih => rw [List.flatMap_cons, scan_utf8EncodeChar, ih, List.map_cons]
  have hmapM (cs : List Char) : (cs.map some).mapM id = some cs := by
    induction cs with
    | nil => rfl
    | cons c cs ih => simp [ih]
  rw [decode?, encode, hscan, hmapM, Option.map_some, String.ofList_toList]

theorem encode_append (s r : String) : encode (s ++ r) = encode s ++ encode r := by
  simp [encode]

theorem exists_last_trailing (n v : Nat) :
    ∃ front, trailing (n + 1) v = front ++ [UInt8.ofNat (v % 64 + 128)] := by
  induction n with
  | zero => exact ⟨[], by simp [trailing]⟩
  | succ n ih =>
      obtain ⟨front, hfront⟩ := ih
      exact ⟨UInt8.ofNat (v / 64 ^ (n + 1) % 64 + 128) :: front, by rw [trailing, hfront]; rfl⟩

theorem utf8EncodeChar_of_lt {c : Char} (hc : c.toNat < 128) :
    String.utf8EncodeChar c = [UInt8.ofNat c.toNat] := by
  have hc' : c.val.toNat ≤ 0x7F := Nat.le_of_lt_succ hc
  simp only [String.utf8EncodeChar, hc', if_true]
  rfl

/-- A last byte below 128 is a last character. -/
theorem exists_of_flatMap_eq_append {cs : List Char} {x : List UInt8} {d : Char}
    (hd : d.toNat < 128)
    (h : cs.flatMap String.utf8EncodeChar = x ++ String.utf8EncodeChar d) :
    ∃ front, cs = front ++ [d] ∧ front.flatMap String.utf8EncodeChar = x := by
  rw [utf8EncodeChar_of_lt hd] at h
  obtain rfl | ⟨front, c, rfl⟩ := List.eq_nil_or_concat cs
  · simp at h
  rw [List.concat_eq_append, List.flatMap_append, List.flatMap_singleton] at h
  obtain ⟨n, hn, hbytes⟩ := exists_hasTrailing c
  cases n with
  | zero =>
      rw [hbytes, trailing, leading] at h
      obtain ⟨hfront, hbyte⟩ := List.append_inj' h rfl
      have hlt : c.toNat < 0x80 := hn
      have hsame := congrArg UInt8.toNat (List.singleton_inj.1 hbyte)
      rw [UInt8.toNat_ofNat', UInt8.toNat_ofNat'] at hsame
      obtain rfl : c = d := Char.toNat_inj.1 (by omega)
      exact ⟨front, List.concat_eq_append, hfront⟩
  | succ n =>
      obtain ⟨others, hlast⟩ := exists_last_trailing n c.toNat
      rw [hbytes, hlast, ← List.cons_append, ← List.append_assoc] at h
      have hsame := congrArg UInt8.toNat (List.singleton_inj.1 (List.append_inj' h rfl).2)
      rw [UInt8.toNat_ofNat', UInt8.toNat_ofNat'] at hsame
      omega

/-- Bytes of a text that end in those of an ASCII text are the bytes of a text in front of it. -/
theorem encode_eq_append_iff {s e : String} (he : ∀ c ∈ e.toList, c.toNat < 128)
    {x : List UInt8} :
    encode s = x ++ encode e ↔ ∃ stem, encode stem = x ∧ s = stem ++ e := by
  have hfront (cs ds : List Char) (hds : ∀ c ∈ ds, c.toNat < 128)
      (h : cs.flatMap String.utf8EncodeChar = x ++ ds.flatMap String.utf8EncodeChar) :
      ∃ front, cs = front ++ ds ∧ front.flatMap String.utf8EncodeChar = x := by
    induction ds using List.reverseRecOn generalizing cs with
    | nil => exact ⟨cs, by simp, by simpa using h⟩
    | append_singleton ds d ih =>
        rw [List.flatMap_append, List.flatMap_singleton, ← List.append_assoc] at h
        obtain ⟨before, rfl, hbefore⟩ :=
          exists_of_flatMap_eq_append (hds d (by simp)) h
        obtain ⟨front, rfl, hx⟩ := ih before (fun c hc => hds c (by simp [hc])) hbefore
        exact ⟨front, by simp, hx⟩
  constructor
  · intro h
    obtain ⟨front, hs, hx⟩ := hfront s.toList e.toList he h
    refine ⟨String.ofList front, by simpa [encode] using hx, String.toList_inj.1 ?_⟩
    simpa using hs
  · rintro ⟨stem, rfl, rfl⟩
    exact encode_append stem e

end DecoratorGraph.Text.Utf8
