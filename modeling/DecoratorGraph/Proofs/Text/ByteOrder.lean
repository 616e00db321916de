import DecoratorGraph.Text.Utf8
import Mathlib.Algebra.Ring.Nat

/-!
# The order of texts and of their bytes

Texts are compared character by character, file systems compare names byte by byte. The two agree:
a character is a first byte and up to three *trailing* bytes of six bits each, the first byte tells
how many there are, and it grows with the number of the character as well as with their count.
-/

namespace DecoratorGraph.Text.Utf8

/-! ### The bytes of a character -/

/-- The last `n` bytes of the character with a number, six bits in each. -/
def trailing : Nat → Nat → List UInt8
  | 0, _ => []
  | n + 1, v => UInt8.ofNat (v / 64 ^ n % 64 + 128) :: trailing n v

def leading : Nat → Nat → Nat
  | 0, v => v
  | 1, v => v / 64 + 192
  | 2, v => v / 4096 + 224
  | _, v => v / 262144 + 240

/-- Whether the character with a number has `n` trailing bytes. -/
def HasTrailing (v : Nat) : Nat → Prop
  | 0 => v < 0x80
  | 1 => 0x80 ≤ v ∧ v < 0x800
  | 2 => 0x800 ≤ v ∧ v < 0x10000
  | 3 => 0x10000 ≤ v ∧ v < 0x110000
  | _ => False

theorem exists_hasTrailing (c : Char) :
    ∃ n, HasTrailing c.toNat n ∧
      String.utf8EncodeChar c = UInt8.ofNat (leading n c.toNat) :: trailing n c.toNat := by
  have hvalid : c.toNat < 0x110000 := by
    have h := c.valid
    simp only [UInt32.isValidChar, Nat.isValidChar] at h
    show c.val.toNat < 0x110000
    omega
  unfold String.utf8EncodeChar
  rw [Char.toNat] at hvalid ⊢
  generalize c.val.toNat = v at hvalid ⊢
  dsimp only
  -- The bounds on the number are those of the four lengths of an encoding.
  by_cases h₁ : v ≤ 0x7F
  · exact ⟨0, by simp only [HasTrailing]; omega, by rw [if_pos h₁]; rfl⟩
  rw [if_neg h₁]
  by_cases h₂ : v ≤ 0x7FF
  · refine ⟨1, by simp only [HasTrailing]; omega, ?_⟩
    have hlead : v / 64 % 32 = v / 64 := by omega
    rw [if_pos h₂, hlead]
    simp [leading, trailing]
  rw [if_neg h₂]
  by_cases h₃ : v ≤ 0xFFFF
  · refine ⟨2, by simp only [HasTrailing]; omega, ?_⟩
    have hlead : v / 4096 % 16 = v / 4096 := by omega
    rw [if_pos h₃, hlead]
    simp [leading, trailing]
  · refine ⟨3, by simp only [HasTrailing]; omega, ?_⟩
    have hlead : v / 262144 % 8 = v / 262144 := by omega
    rw [if_neg h₃, hlead]
    simp [leading, trailing]

/-! ### Comparing -/

theorem ofNat_cons_lt {a b : Nat} (ha : a < 256) (hb : b < 256) {r s : List UInt8}
    (h : a < b ∨ a = b ∧ r < s) : UInt8.ofNat a :: r < UInt8.ofNat b :: s := by
  rw [List.cons_lt_cons_iff, UInt8.lt_iff_toNat_lt, ← UInt8.toNat_inj,
    UInt8.toNat_ofNat_of_lt' ha, UInt8.toNat_ofNat_of_lt' hb]
  exact h

/-- Among characters that agree in the bits above those of their trailing bytes, the trailing
bytes decide. -/
theorem trailing_append_lt {n v w : Nat} (h : v < w) (hhigh : v / 64 ^ n = w / 64 ^ n)
    (r s : List UInt8) : trailing n v ++ r < trailing n w ++ s := by
  induction n with
  | zero =>
      rw [Nat.pow_zero, Nat.div_one, Nat.div_one] at hhigh
      omega
  | succ n ih =>
      have hdigit : v / 64 ^ n ≤ w / 64 ^ n := Nat.div_le_div_right (Nat.le_of_lt h)
      rw [Nat.pow_succ, ← Nat.div_div_eq_div_mul, ← Nat.div_div_eq_div_mul] at hhigh
      refine ofNat_cons_lt (by omega) (by omega) ?_
      by_cases heq : v / 64 ^ n = w / 64 ^ n
      · exact Or.inr ⟨by rw [heq], ih heq⟩
      · exact Or.inl (by omega)

theorem leading_lt {n v : Nat} (h : HasTrailing v n) : leading n v < 256 := by
  match n, h with
  | 0, h | 1, h | 2, h | 3, h => simp only [HasTrailing] at h; simp only [leading]; omega

/-- The first byte of a larger character is not smaller, and if it is the same one, there are as
many trailing bytes and the bits above theirs agree. -/
theorem leading_le_leading {m n v w : Nat} (hv : HasTrailing v m) (hw : HasTrailing w n)
    (h : v < w) :
    leading m v ≤ leading n w ∧
      (leading m v = leading n w → m = n ∧ v / 64 ^ m = w / 64 ^ m) := by
  match m, n, hv, hw with
  | 0, 0, hv, hw | 0, 1, hv, hw | 0, 2, hv, hw | 0, 3, hv, hw | 1, 0, hv, hw | 1, 1, hv, hw
  | 1, 2, hv, hw | 1, 3, hv, hw | 2, 0, hv, hw | 2, 1, hv, hw | 2, 2, hv, hw | 2, 3, hv, hw
  | 3, 0, hv, hw | 3, 1, hv, hw | 3, 2, hv, hw | 3, 3, hv, hw =>
      simp only [HasTrailing] at hv hw
      simp only [leading, Nat.reducePow, true_and]
      omega

/-- The first character at which two texts differ decides the order of their bytes. -/
theorem utf8EncodeChar_append_lt {c d : Char} (h : c < d) (r s : List UInt8) :
    String.utf8EncodeChar c ++ r < String.utf8EncodeChar d ++ s := by
  obtain ⟨m, hm, hc⟩ := exists_hasTrailing c
  obtain ⟨n, hn, hd⟩ := exists_hasTrailing d
  have hlt : c.toNat < d.toNat := h
  rw [hc, hd, List.cons_append, List.cons_append]
  refine ofNat_cons_lt (leading_lt hm) (leading_lt hn) ?_
  obtain ⟨hle, hsame⟩ := leading_le_leading hm hn hlt
  rcases Nat.lt_or_eq_of_le hle with hlead | hlead
  · exact Or.inl hlead
  · obtain ⟨rfl, hhigh⟩ := hsame hlead
    exact Or.inr ⟨hlead, trailing_append_lt hlt hhigh r s⟩

theorem flatMap_utf8EncodeChar_lt {s r : List Char} (h : s < r) :
    s.flatMap String.utf8EncodeChar < r.flatMap String.utf8EncodeChar := by
  induction h with
  | @nil c r =>
      obtain ⟨n, -, hc⟩ := exists_hasTrailing c
      rw [List.flatMap_cons, hc]
      exact List.Lex.nil
  | @cons c s r _ ih =>
      rw [List.flatMap_cons, List.flatMap_cons]
      exact List.append_left_lt ih
  | rel h => exact utf8EncodeChar_append_lt h _ _

/-- Texts are in the order of their bytes. -/
theorem encode_lt {s r : String} (h : s.toList < r.toList) : encode s < encode r :=
  flatMap_utf8EncodeChar_lt h

theorem encode_injective {s r : String} (h : encode s = encode r) : s = r := by
  refine String.toList_inj.1 (List.le_antisymm (List.not_lt.1 fun hlt => ?_)
    (List.not_lt.1 fun hlt => ?_))
  · exact Std.lt_irrefl (h ▸ encode_lt hlt)
  · exact Std.lt_irrefl (h ▸ encode_lt hlt)

end DecoratorGraph.Text.Utf8
