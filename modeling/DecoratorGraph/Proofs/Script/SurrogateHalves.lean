import DecoratorGraph.Proofs.Script.MalformedEscapes

/-!
# Halves of surrogate pairs

The value of a literal is a row of UTF-16 units, in which a character beyond the first plane is a
pair of halves, and an escape can spell a half alone. Read as characters, two halves side by side
are one character, and a half without a partner is U+FFFD (`ofUnits`). It makes no difference to the
units how the halves are spelled, nor whether a line is continued between them.

Here it does: a high half is joined with the low one only if that is spelled by four digits directly
behind it. So the characters are those of the units unless a literal spells a pair in another way
(`value_eq_ofUnits_iff`).
-/

namespace DecoratorGraph.Script.Literal

variable {code high low : Nat} {c : Char} {s t rest body value : List Char} {row : List Nat}

/-! ### UTF-16 -/

def unitsOf (code : Nat) : List Nat :=
  if code < 0x10000 then [code]
  else [0xD800 + (code - 0x10000) / 0x400, 0xDC00 + (code - 0x10000) % 0x400]

def ofUnits : List Nat → List Char
  | [] => []
  | [unit] => [character unit]
  | first :: second :: units =>
    if isHighHalf first ∧ isLowHalf second then
      character (pairCode first second) :: ofUnits units
    else character first :: ofUnits (second :: units)

theorem isHighHalf_iff : isHighHalf code = true ↔ 0xD800 ≤ code ∧ code < 0xDC00 := by
  simp [isHighHalf]

theorem isLowHalf_iff : isLowHalf code = true ↔ 0xDC00 ≤ code ∧ code < 0xE000 := by
  simp [isLowHalf]

theorem not_isHighHalf_of_isLowHalf (h : isLowHalf code = true) : ¬isHighHalf code = true := by
  rw [isLowHalf_iff] at h
  rw [isHighHalf_iff]
  omega

theorem lt_of_half (h : isHighHalf code = true ∨ isLowHalf code = true) : code < 0x100000000 := by
  rw [isHighHalf_iff, isLowHalf_iff] at h
  omega

theorem toNat_not_half (c : Char) : ¬isHighHalf c.toNat = true ∧ ¬isLowHalf c.toNat = true := by
  have hvalid : c.toNat.isValidChar := c.valid
  unfold Nat.isValidChar at hvalid
  rw [isHighHalf_iff, isLowHalf_iff]
  omega

/-- A half is no character. -/
theorem character_of_half (h : isHighHalf code = true ∨ isLowHalf code = true) :
    character code = '\uFFFD' := by
  rw [isHighHalf_iff, isLowHalf_iff] at h
  have hvalid : ¬code.isValidChar := by
    unfold Nat.isValidChar
    omega
  rw [character, if_neg hvalid]

theorem ofUnits_cons_of_not_high (h : ¬isHighHalf code = true) :
    ofUnits (code :: row) = character code :: ofUnits row := by
  cases row with
  | nil => rfl
  | cons second row => rw [ofUnits, if_neg fun hpair => h hpair.1]

theorem ofUnits_cons_of_not_low (h : ∀ second ∈ row.head?, ¬isLowHalf second = true) :
    ofUnits (code :: row) = character code :: ofUnits row := by
  cases row with
  | nil => rfl
  | cons second row => rw [ofUnits, if_neg fun hpair => h second rfl hpair.2]

theorem ofUnits_pair (hhigh : isHighHalf high = true) (hlow : isLowHalf low = true) :
    ofUnits (high :: low :: row) = character (pairCode high low) :: ofUnits row := by
  rw [ofUnits, if_pos ⟨hhigh, hlow⟩]

/-- The halves of a character beyond the first plane. -/
def highHalf (c : Char) : Nat := 0xD800 + (c.toNat - 0x10000) / 0x400

def lowHalf (c : Char) : Nat := 0xDC00 + (c.toNat - 0x10000) % 0x400

theorem isHighHalf_highHalf (c : Char) : isHighHalf (highHalf c) = true := by
  have hvalid : c.toNat.isValidChar := c.valid
  unfold Nat.isValidChar at hvalid
  rw [isHighHalf_iff, highHalf]
  omega

theorem isLowHalf_lowHalf (c : Char) : isLowHalf (lowHalf c) = true := by
  rw [isLowHalf_iff, lowHalf]
  omega

theorem character_pairCode (hc : 0x10000 ≤ c.toNat) :
    character (pairCode (highHalf c) (lowHalf c)) = c := by
  have hcode : pairCode (highHalf c) (lowHalf c) = c.toNat := by
    unfold pairCode highHalf lowHalf
    omega
  rw [hcode, character_toNat]

theorem ofUnits_unitsOf (c : Char) (row : List Nat) :
    ofUnits (unitsOf c.toNat ++ row) = c :: ofUnits row := by
  unfold unitsOf
  split
  · rw [List.singleton_append, ofUnits_cons_of_not_high (toNat_not_half c).1, character_toNat]
  · next hc =>
    show ofUnits (highHalf c :: lowHalf c :: row) = c :: ofUnits row
    rw [ofUnits_pair (isHighHalf_highHalf c) (isLowHalf_lowHalf c),
      character_pairCode (not_lt.1 hc)]

theorem head_unitsOf_not_low (c : Char) :
    ∀ first ∈ (unitsOf c.toNat ++ row).head?, ¬isLowHalf first = true := by
  unfold unitsOf
  intro first hfirst
  split at hfirst
  · cases hfirst
    exact (toNat_not_half c).2
  · cases hfirst
    exact fun hlow => not_isHighHalf_of_isLowHalf hlow (isHighHalf_highHalf c)

/-! ### Escapes for halves -/

theorem unicodeAhead?_of_spellsCode (h : SpellsCode code t) (hcode : code < 0x100000000)
    (rest : List Char) : unicodeAhead? (t ++ rest) = some (code, t.length) :=
  unicodeAhead?_eq_some_iff.2 ⟨t, List.prefix_append t rest, rfl, h, hcode⟩

/-- Only a low half in four digits is found ahead. -/
theorem lowHalfAhead?_of_spellsCode (h : SpellsCode code t) (rest : List Char) :
    lowHalfAhead? ('\\' :: 'u' :: (t ++ rest)) =
      if isLowHalf code ∧ t.length = 4 then some code else none := by
  rw [lowHalfAhead?]
  cases h with
  | digits ht hlength =>
      have hahead := ht.hexAhead?_append rest
      rw [hlength] at hahead
      rw [hahead, Option.filter_some]
      simp [hlength]
  | @braces t ht hne =>
      have hahead : hexAhead? 4 ('\x7b' :: (t ++ ['\x7d']) ++ rest) = none := by
        refine Option.eq_none_iff_forall_ne_some.2 fun n hn => ?_
        obtain ⟨u, hprefix, hlength, hu⟩ := hexAhead?_eq_some_iff.1 hn
        obtain ⟨d, v, rfl⟩ : ∃ d v, u = d :: v := List.exists_cons_of_length_pos (by omega)
        have hd := (hu.not_brace d List.mem_cons_self).1
        exact hd (List.cons_prefix_cons.1 hprefix).1
      have hfour : ¬(isLowHalf code = true ∧ ('\x7b' :: (t ++ ['\x7d'])).length = 4) := by
        rintro ⟨hlow, hlength⟩
        have hlt := ht.lt_pow
        have htwo : t.length = 2 := by simpa using hlength
        rw [htwo] at hlt
        rw [isLowHalf_iff] at hlow
        omega
      rw [hahead, if_neg hfour]
      rfl

theorem unescape_half (h : SpellsCode code t) (hcode : code < 0x100000000)
    (hnone : isHighHalf code = true → lowHalfAhead? rest = none) :
    unescape ('\\' :: 'u' :: (t ++ rest)) = character code :: unescape rest := by
  have hjoined : joined code rest = (character code, 0) := by
    unfold joined
    split
    · next hhigh => rw [hnone hhigh]
    · rfl
  rw [unescape_unicode (unicodeAhead?_of_spellsCode h hcode rest), hjoined, List.drop_zero]

/-- A high half alone is no character. -/
theorem unescape_high (h : SpellsCode high t) (hhigh : isHighHalf high = true)
    (hnone : lowHalfAhead? rest = none) :
    unescape ('\\' :: 'u' :: (t ++ rest)) = '\uFFFD' :: unescape rest := by
  rw [unescape_half h (lt_of_half (.inl hhigh)) fun _ => hnone, character_of_half (.inl hhigh)]

/-- Nor is a low half that is not read together with the one in front of it. -/
theorem unescape_low (h : SpellsCode low t) (hlow : isLowHalf low = true) (rest : List Char) :
    unescape ('\\' :: 'u' :: (t ++ rest)) = '\uFFFD' :: unescape rest := by
  rw [unescape_half h (lt_of_half (.inr hlow)) fun hhigh =>
    absurd hhigh (not_isHighHalf_of_isLowHalf hlow), character_of_half (.inr hlow)]

theorem lowHalfAhead?_eq_some_iff : lowHalfAhead? s = some low ↔ ∃ t r,
    s = '\\' :: 'u' :: (t ++ r) ∧ SpellsHex low t ∧ t.length = 4 ∧ isLowHalf low = true := by
  constructor
  · intro h
    unfold lowHalfAhead? at h
    split at h
    · next r =>
      obtain ⟨hahead, hlow⟩ := Option.filter_eq_some_iff.1 h
      obtain ⟨t, ⟨r', rfl⟩, hlength, ht⟩ := hexAhead?_eq_some_iff.1 hahead
      exact ⟨t, r', rfl, ht, hlength, hlow⟩
    · cases h
  · rintro ⟨t, r, rfl, ht, hlength, hlow⟩
    rw [lowHalfAhead?_of_spellsCode (.digits ht hlength), if_pos ⟨hlow, hlength⟩]

theorem unescape_joined (hs : SpellsCode high s) (hhigh : isHighHalf high = true)
    (ht : SpellsCode low t) (hlow : isLowHalf low = true) (hlength : t.length = 4)
    (rest : List Char) :
    unescape ('\\' :: 'u' :: (s ++ '\\' :: 'u' :: (t ++ rest))) =
      character (pairCode high low) :: unescape rest := by
  have hahead := lowHalfAhead?_of_spellsCode ht rest
  rw [if_pos ⟨hlow, hlength⟩] at hahead
  have hjoined : joined high ('\\' :: 'u' :: (t ++ rest)) = (character (pairCode high low), 6) := by
    rw [joined, if_pos hhigh, hahead]
  have hrest : ('\\' :: 'u' :: (t ++ rest)).drop 6 = rest := by
    rw [List.drop_succ_cons, List.drop_succ_cons, ← hlength, List.drop_left]
  rw [unescape_unicode (unicodeAhead?_of_spellsCode hs (lt_of_half (.inl hhigh)) _), hjoined, hrest]

/-! ### Bodies with halves -/

inductive Piece
  | character (c : Char) (text : List Char)
  /-- A half of a surrogate pair, by what stands behind `\u`. -/
  | half (code : Nat) (text : List Char)
  | continuation (text : List Char)

namespace Piece

def text : Piece → List Char
  | character _ text => text
  | half _ text => '\\' :: 'u' :: text
  | continuation text => text

/-- What a piece contributes to the value. -/
def units : Piece → List Nat
  | character c _ => unitsOf c.toNat
  | half code _ => [code]
  | continuation _ => []

def IsSpelled : Piece → Prop
  | character c text => Spelling c text
  | half code text => SpellsCode code text ∧ (isHighHalf code = true ∨ isLowHalf code = true)
  | continuation text => text ∈ continuations

end Piece

inductive SpellsPieces : List Piece → List Char → Prop
  | nil : SpellsPieces [] []
  | cons {p : Piece} {pieces : List Piece} {s : List Char} (hp : p.IsSpelled)
      (hapart : Apart p.text s) (hs : SpellsPieces pieces s) :
      SpellsPieces (p :: pieces) (p.text ++ s)

/-- The low half that comes next in the value is not spelled by four digits directly ahead: lines
are continued in front of it, or it is spelled in braces. -/
def LowHalfApart (pieces : List Piece) : Prop :=
  ∃ gap low text after, pieces = gap ++ .half low text :: after ∧ (∀ p ∈ gap, p.units = []) ∧
    isLowHalf low = true ∧ ¬(gap = [] ∧ text.length = 4)

/-- Somewhere a high half is followed by a low one that is not spelled by four digits directly
behind it. -/
inductive SplitsPair : List Piece → Prop
  | here {high : Nat} {text : List Char} {pieces : List Piece} (hhigh : isHighHalf high = true)
      (hlow : LowHalfApart pieces) : SplitsPair (.half high text :: pieces)
  | later {p : Piece} {pieces : List Piece} (h : SplitsPair pieces) : SplitsPair (p :: pieces)

section

variable {p : Piece} {pieces : List Piece} {text : List Char}

theorem splitsPair_cons_iff (hp : ∀ high text, p = .half high text → isHighHalf high = true →
    ¬LowHalfApart pieces) : SplitsPair (p :: pieces) ↔ SplitsPair pieces := by
  refine ⟨fun h => ?_, .later⟩
  cases h with
  | here hhigh hlow => exact absurd hlow (hp _ _ rfl hhigh)
  | later h => exact h

theorem splitsPair_cons_high_iff (hhigh : isHighHalf high = true) :
    SplitsPair (.half high text :: pieces) ↔ LowHalfApart pieces ∨ SplitsPair pieces := by
  constructor
  · rintro (⟨-, hlow⟩ | ⟨h⟩)
    · exact .inl hlow
    · exact .inr h
  · rintro (hlow | h)
    · exact .here hhigh hlow
    · exact .later h

theorem lowHalfAhead?_eq_none_of_ne (h : ∀ r, s ≠ '\\' :: 'u' :: r) : lowHalfAhead? s = none := by
  unfold lowHalfAhead?
  split
  · next r => exact absurd rfl (h r)
  · rfl

theorem lowHalfAhead?_of_continuation (hs : s ∈ continuations) (rest : List Char) :
    lowHalfAhead? (s ++ rest) = none := by
  simp only [continuations, List.mem_cons, List.not_mem_nil, or_false] at hs
  rcases hs with rfl | rfl | rfl | rfl | rfl <;> rfl

theorem lowHalfAhead?_of_spelling (h : Spelling c s) (rest : List Char) :
    lowHalfAhead? (s ++ rest) = none := by
  have hcode (t rest : List Char) (ht : SpellsCode c.toNat t) :
      lowHalfAhead? ('\\' :: 'u' :: (t ++ rest)) = none := by
    rw [lowHalfAhead?_of_spellsCode ht, if_neg fun hlow => (toNat_not_half c).2 hlow.1]
  cases h with
  | itself hc => exact lowHalfAhead?_eq_none_of_ne fun r heq => hc (List.cons.inj heq).1
  | @letter l _ hl =>
      refine lowHalfAhead?_eq_none_of_ne fun r heq => ?_
      have hl' : l = 'u' := (List.cons.inj (List.cons.inj heq).2).1
      rw [hl', letters] at hl
      simp at hl
  | null => rfl
  | byte => exact lowHalfAhead?_eq_none_of_ne fun r heq => by simp at heq
  | unicode hs hlength => exact hcode _ _ (.digits hs hlength)
  | braces hs hne => exact hcode _ _ (.braces hs hne)
  | @pair _ s t _ hs hslength _ _ =>
      have hhigh : ¬(isLowHalf (highHalf c) = true ∧ s.length = 4) := fun hlow =>
        not_isHighHalf_of_isLowHalf hlow.1 (isHighHalf_highHalf c)
      have hspells : SpellsCode (highHalf c) s := .digits hs hslength
      have hahead := lowHalfAhead?_of_spellsCode hspells ('\\' :: 'u' :: (t ++ rest))
      rw [if_neg hhigh] at hahead
      simpa using hahead
  | escaped hc =>
      refine lowHalfAhead?_eq_none_of_ne fun r heq => hc ?_
      rw [(List.cons.inj (List.cons.inj heq).2).1]
      decide

def joinedWith? : List Piece → Option Nat
  | .half code text :: _ => if isLowHalf code ∧ text.length = 4 then some code else none
  | _ => none

theorem lowHalfAhead?_of_spellsPieces (h : SpellsPieces pieces s) :
    lowHalfAhead? s = joinedWith? pieces := by
  cases h with
  | nil => rfl
  | @cons p pieces s hp =>
      cases p with
      | character c text => exact lowHalfAhead?_of_spelling hp s
      | half code text => exact lowHalfAhead?_of_spellsCode hp.1 s
      | continuation text => exact lowHalfAhead?_of_continuation hp s

theorem head_units_of_joinedWith? (h : joinedWith? pieces = some low) :
    (pieces.flatMap Piece.units).head? = some low := by
  unfold joinedWith? at h
  split at h
  · next code text after =>
    split at h
    · cases h
      rfl
    · cases h
  · cases h

/-- The first unit of a body comes from the first piece that has any. -/
theorem exists_of_head_units {unit : Nat} (h : (pieces.flatMap Piece.units).head? = some unit) :
    ∃ gap p after, pieces = gap ++ p :: after ∧ (∀ q ∈ gap, q.units = []) ∧
      p.units.head? = some unit := by
  induction pieces with
  | nil => cases h
  | cons p pieces ih =>
      rw [List.flatMap_cons] at h
      cases hunits : p.units with
      | nil =>
          rw [hunits, List.nil_append] at h
          obtain ⟨gap, q, after, rfl, hgap, hq⟩ := ih h
          exact ⟨p :: gap, q, after, rfl, List.forall_mem_cons.2 ⟨hunits, hgap⟩, hq⟩
      | cons first others =>
          rw [hunits] at h
          exact ⟨[], p, pieces, rfl, by simp, hunits ▸ h⟩

theorem lowHalfApart_iff : LowHalfApart pieces ↔
    (∃ low ∈ (pieces.flatMap Piece.units).head?, isLowHalf low = true) ∧
      joinedWith? pieces = none := by
  constructor
  · rintro ⟨gap, low, text, after, rfl, hgap, hlow, hapart⟩
    have hunits : gap.flatMap Piece.units = [] := List.flatMap_eq_nil_iff.2 hgap
    refine ⟨⟨low, by simp [hunits, Piece.units], hlow⟩, ?_⟩
    cases gap with
    | nil => exact if_neg fun hjoined => hapart ⟨rfl, hjoined.2⟩
    | cons p gap =>
        cases p with
        | half code text => exact absurd (hgap _ List.mem_cons_self) (by simp [Piece.units])
        | _ => rfl
  · rintro ⟨⟨low, hhead, hlow⟩, hnone⟩
    obtain ⟨gap, p, after, rfl, hgap, hp⟩ := exists_of_head_units hhead
    cases p with
    | character c text =>
        have hfirst : low ∈ (unitsOf c.toNat ++ []).head? := by simpa [Piece.units] using hp
        exact absurd hlow (head_unitsOf_not_low c low hfirst)
    | half code text =>
        obtain rfl : code = low := by simpa [Piece.units] using hp
        refine ⟨gap, code, text, after, rfl, hgap, hlow, ?_⟩
        rintro ⟨rfl, hlength⟩
        simp [joinedWith?, hlow, hlength] at hnone
    | continuation text => cases hp

/-- What is read of a body is no shorter than the characters of its units. -/
def ReadsUnits (pieces : List Piece) (s : List Char) : Prop :=
  (ofUnits (pieces.flatMap Piece.units)).length ≤ (unescape s).length ∧
    (unescape s = ofUnits (pieces.flatMap Piece.units) ↔ ¬SplitsPair pieces)

/-- A pair that is split is read as two characters, one too many. -/
theorem ReadsUnits.cons_split (h : ReadsUnits pieces s) (ht : SpellsCode high t)
    (hhigh : isHighHalf high = true) (hnone : lowHalfAhead? s = none)
    (hsplit : LowHalfApart pieces) :
    ReadsUnits (.half high t :: pieces) ('\\' :: 'u' :: (t ++ s)) := by
  obtain ⟨⟨low, hhead, hlow⟩, -⟩ := lowHalfApart_iff.1 hsplit
  unfold ReadsUnits at h ⊢
  rw [splitsPair_cons_high_iff hhigh, List.flatMap_cons, Piece.units, List.singleton_append]
  obtain ⟨others, hunits⟩ := List.head?_eq_some_iff.1 hhead
  rw [hunits, ofUnits_cons_of_not_high (not_isHighHalf_of_isLowHalf hlow), List.length_cons] at h
  rw [hunits, ofUnits_pair hhigh hlow, unescape_high ht hhigh hnone]
  refine ⟨?_, iff_of_false (fun heq => ?_) (not_not.2 (.inl hsplit))⟩
  · simp only [List.length_cons]
    omega
  · have hlength := congrArg List.length heq
    simp only [List.length_cons] at hlength
    omega

/-- A pair that is found is read as one character, which is that of its units. -/
theorem ReadsUnits.cons_joined (h : ReadsUnits pieces s) (hs : SpellsPieces pieces s)
    (ht : SpellsCode high t) (hhigh : isHighHalf high = true)
    (hfound : lowHalfAhead? s = some low) :
    ReadsUnits (.half high t :: pieces) ('\\' :: 'u' :: (t ++ s)) := by
  have hjoined : joinedWith? pieces = some low :=
    (lowHalfAhead?_of_spellsPieces hs).symm.trans hfound
  have htogether : ¬LowHalfApart pieces := fun hsplit => by
    cases hjoined.symm.trans (lowHalfApart_iff.1 hsplit).2
  obtain ⟨others, hunits⟩ := List.head?_eq_some_iff.1 (head_units_of_joinedWith? hjoined)
  obtain ⟨u, r, rfl, hspells, hlength, hlow⟩ := lowHalfAhead?_eq_some_iff.1 hfound
  have hu : SpellsCode low u := .digits hspells hlength
  unfold ReadsUnits at h ⊢
  rw [hunits, ofUnits_cons_of_not_high (not_isHighHalf_of_isLowHalf hlow),
    character_of_half (.inr hlow), unescape_low hu hlow] at h
  rw [splitsPair_cons_high_iff hhigh, List.flatMap_cons, Piece.units, List.singleton_append, hunits,
    ofUnits_pair hhigh hlow, unescape_joined ht hhigh hu hlow hlength]
  simpa [htogether] using h

/-- A high half without a partner is read as what its unit alone is. -/
theorem ReadsUnits.cons_lone (h : ReadsUnits pieces s) (hs : SpellsPieces pieces s)
    (ht : SpellsCode high t) (hhigh : isHighHalf high = true) (hnone : lowHalfAhead? s = none)
    (htogether : ¬LowHalfApart pieces) :
    ReadsUnits (.half high t :: pieces) ('\\' :: 'u' :: (t ++ s)) := by
  have hjoined : joinedWith? pieces = none :=
    (lowHalfAhead?_of_spellsPieces hs).symm.trans hnone
  have hlone : ∀ low ∈ (pieces.flatMap Piece.units).head?, ¬isLowHalf low = true :=
    fun low hhead hlow => htogether (lowHalfApart_iff.2 ⟨⟨low, hhead, hlow⟩, hjoined⟩)
  unfold ReadsUnits at h ⊢
  rw [splitsPair_cons_high_iff hhigh, List.flatMap_cons, Piece.units, List.singleton_append,
    ofUnits_cons_of_not_low hlone, character_of_half (.inl hhigh), unescape_high ht hhigh hnone]
  simpa [htogether] using h

theorem ReadsUnits.cons_high (h : ReadsUnits pieces s) (hs : SpellsPieces pieces s)
    (ht : SpellsCode high t) (hhigh : isHighHalf high = true) :
    ReadsUnits (.half high t :: pieces) ('\\' :: 'u' :: (t ++ s)) := by
  cases hahead : lowHalfAhead? s with
  | some low => exact h.cons_joined hs ht hhigh hahead
  | none =>
      by_cases hsplit : LowHalfApart pieces
      · exact h.cons_split ht hhigh hahead hsplit
      · exact h.cons_lone hs ht hhigh hahead hsplit

theorem SpellsPieces.readsUnits (h : SpellsPieces pieces s) : ReadsUnits pieces s := by
  induction h with
  | nil => exact ⟨le_rfl, iff_of_true unescape_nil fun h => by cases h⟩
  | @cons p pieces s hp hapart hs ih =>
      cases p with
      | character c text =>
          have hread : unescape (text ++ s) = c :: unescape s := hp.unescape_append hapart
          unfold ReadsUnits at ih ⊢
          rw [splitsPair_cons_iff (by simp), List.flatMap_cons, Piece.units, ofUnits_unitsOf,
            Piece.text, hread]
          simpa using ih
      | half code text =>
          obtain ⟨ht, hhalf⟩ := hp
          by_cases hhigh : isHighHalf code = true
          · exact ih.cons_high hs ht hhigh
          · have hread : unescape ('\\' :: 'u' :: (text ++ s)) = character code :: unescape s :=
              unescape_half ht (lt_of_half hhalf) fun h => absurd h hhigh
            unfold ReadsUnits at ih ⊢
            rw [splitsPair_cons_iff (by rintro _ _ ⟨⟩ h; exact absurd h hhigh), List.flatMap_cons,
              Piece.units, List.singleton_append, ofUnits_cons_of_not_high hhigh, Piece.text,
              List.cons_append, List.cons_append, hread]
            simpa using ih
      | continuation text =>
          have hread : unescape (text ++ s) = unescape s := unescape_continuation hp hapart
          unfold ReadsUnits at ih ⊢
          rw [splitsPair_cons_iff (by simp), List.flatMap_cons, Piece.units, List.nil_append,
            Piece.text, hread]
          exact ih

end

/-! ### Pairs in a literal -/

theorem unescape_flatten_continuations {gap : List (List Char)}
    (hgap : ∀ s ∈ gap, s ∈ continuations) (r : List Char) :
    unescape (gap.flatten ++ '\\' :: r) = unescape ('\\' :: r) := by
  induction gap with
  | nil => rfl
  | cons s gap ih =>
      obtain ⟨hs, hgap⟩ := List.forall_mem_cons.1 hgap
      have hhead : (gap.flatten ++ '\\' :: r).head? = some '\\' := by
        cases gap with
        | nil => rfl
        | cons t gap =>
            have ht := hgap t List.mem_cons_self
            simp only [continuations, List.mem_cons, List.not_mem_nil, or_false] at ht
            rcases ht with rfl | rfl | rfl | rfl | rfl <;> rfl
      have hapart : Apart s (gap.flatten ++ '\\' :: r) := by
        rw [continuations] at hs
        constructor <;> simp_all
      rw [List.flatten_cons, List.append_assoc, unescape_continuation hs hapart, ih hgap]

/-- A pair of halves gives its character if the low half is spelled by four digits directly behind
the high one, and otherwise U+FFFD twice. -/
theorem unescape_halves (hc : 0x10000 ≤ c.toNat) (hs : SpellsCode (highHalf c) s)
    (ht : SpellsCode (lowHalf c) t) {gap : List (List Char)}
    (hgap : ∀ s ∈ gap, s ∈ continuations) (rest : List Char) :
    unescape ('\\' :: 'u' :: (s ++ (gap.flatten ++ '\\' :: 'u' :: (t ++ rest)))) =
      (if gap = [] ∧ t.length = 4 then [c] else ['\uFFFD', '\uFFFD']) ++ unescape rest := by
  have hhigh := isHighHalf_highHalf c
  have hlow := isLowHalf_lowHalf c
  split
  · next hjoined =>
    obtain ⟨rfl, hlength⟩ := hjoined
    rw [List.flatten_nil, List.nil_append, unescape_joined hs hhigh ht hlow hlength,
      character_pairCode hc]
    rfl
  · next hsplit =>
    have hnone : lowHalfAhead? (gap.flatten ++ '\\' :: 'u' :: (t ++ rest)) = none := by
      cases gap with
      | nil =>
          rw [List.flatten_nil, List.nil_append, lowHalfAhead?_of_spellsCode ht,
            if_neg fun hfour => hsplit ⟨rfl, hfour.2⟩]
      | cons p gap =>
          rw [List.flatten_cons, List.append_assoc]
          exact lowHalfAhead?_of_continuation (hgap p List.mem_cons_self) _
    rw [unescape_high hs hhigh hnone, unescape_flatten_continuations hgap, unescape_low ht hlow]
    rfl

/-- The value of a literal has the characters of its UTF-16 units exactly if every pair of halves
has its low half in four digits directly behind the high one. Whatever else the literal contains,
such a pair gives its character at its place; one with a line continued between its halves, or with
the low half in braces, gives U+FFFD for each half. -/
theorem value_eq_ofUnits_iff (mark : Char) :
    (∀ (pieces : List Piece) (s : List Char), SpellsPieces pieces s →
      (Literal.value (mark :: s ++ [mark]) = String.ofList (ofUnits (pieces.flatMap Piece.units)) ↔
        ¬SplitsPair pieces)) ∧
    ∀ (body before rest s t : List Char) (gap : List (List Char)) (c : Char),
      Reaches body before ('\\' :: 'u' :: (s ++ (gap.flatten ++ '\\' :: 'u' :: (t ++ rest)))) →
      0x10000 ≤ c.toNat → SpellsCode (highHalf c) s → SpellsCode (lowHalf c) t →
      (∀ p ∈ gap, p ∈ continuations) →
        Literal.value (mark :: body ++ [mark]) = String.ofList (before ++
          ((if gap = [] ∧ t.length = 4 then [c] else ['\uFFFD', '\uFFFD']) ++ unescape rest)) := by
  refine ⟨fun pieces s hs => ?_, fun body before rest s t gap c hbody hc hhigh hlow hgap => ?_⟩
  · rw [value_of_body, String.ofList_inj]
    exact hs.readsUnits.2
  · rw [value_of_body, hbody.unescape_eq, unescape_halves hc hhigh hlow hgap]

def twoPairs : List Char :=
  ['\\', 'u', 'd', '8', '3', 'D', '\\', '\n', '\\', 'u', 'D', 'E', '0', '0', '\\', 'u', '\x7b', '0',
    'd', '8', '3', 'd', '\x7d', '\\', 'u', 'd', 'e', '0', '0']

theorem value_of_twoPairs :
    (∃ pieces, SpellsPieces pieces twoPairs ∧
      Literal.value ('"' :: twoPairs ++ ['"']) ≠
        String.ofList (ofUnits (pieces.flatMap Piece.units)) ∧
      ofUnits (pieces.flatMap Piece.units) = ['😀', '😀']) ∧
    Literal.value ('"' :: twoPairs ++ ['"']) =
      String.ofList ['\uFFFD', '\uFFFD', '😀'] := by
  have hhigh : SpellsCode (highHalf '😀') ['d', '8', '3', 'D'] :=
    .digits ⟨[13, 8, 3, 13], by decide, by decide⟩ rfl
  have hlow : SpellsCode (lowHalf '😀') ['D', 'E', '0', '0'] :=
    .digits ⟨[13, 14, 0, 0], by decide, by decide⟩ rfl
  have hbraces : SpellsCode (highHalf '😀') ['\x7b', '0', 'd', '8', '3', 'd', '\x7d'] :=
    .braces (s := ['0', 'd', '8', '3', 'd']) ⟨[0, 13, 8, 3, 13], by decide, by decide⟩ (by decide)
  have hlower : SpellsCode (lowHalf '😀') ['d', 'e', '0', '0'] :=
    .digits ⟨[13, 14, 0, 0], by decide, by decide⟩ rfl
  have hspells : SpellsPieces [.half (highHalf '😀') ['d', '8', '3', 'D'],
      .continuation ['\\', '\n'], .half (lowHalf '😀') ['D', 'E', '0', '0'],
      .half (highHalf '😀') ['\x7b', '0', 'd', '8', '3', 'd', '\x7d'],
      .half (lowHalf '😀') ['d', 'e', '0', '0']] twoPairs := by
    refine .cons ⟨hhigh, .inl (isHighHalf_highHalf _)⟩ ⟨by simp [Piece.text], by simp⟩ ?_
    refine .cons (by decide : ['\\', '\n'] ∈ continuations) ⟨by simp [Piece.text], by simp⟩ ?_
    refine .cons ⟨hlow, .inr (isLowHalf_lowHalf _)⟩ ⟨by simp [Piece.text], by simp⟩ ?_
    refine .cons ⟨hbraces, .inl (isHighHalf_highHalf _)⟩ ⟨by simp [Piece.text], by simp⟩ ?_
    exact .cons ⟨hlower, .inr (isLowHalf_lowHalf _)⟩ ⟨by simp [Piece.text], by simp⟩ .nil
  have hsplit : SplitsPair [.half (highHalf '😀') ['d', '8', '3', 'D'],
      .continuation ['\\', '\n'], .half (lowHalf '😀') ['D', 'E', '0', '0'],
      .half (highHalf '😀') ['\x7b', '0', 'd', '8', '3', 'd', '\x7d'],
      .half (lowHalf '😀') ['d', 'e', '0', '0']] :=
    .here (isHighHalf_highHalf _) ⟨[.continuation ['\\', '\n']], lowHalf '😀',
      ['D', 'E', '0', '0'], _, rfl, by simp [Piece.units], isLowHalf_lowHalf _, by simp⟩
  obtain ⟨hvalue, hplace⟩ := value_eq_ofUnits_iff '"'
  refine ⟨⟨_, hspells, (hvalue _ _ hspells).not.2 (not_not.2 hsplit), by decide⟩, ?_⟩
  refine (hplace twoPairs [] (twoPairs.drop 14) ['d', '8', '3', 'D'] ['D', 'E', '0', '0']
    [['\\', '\n']] '😀' .here (by decide) hhigh hlow (by decide)).trans ?_
  rw [if_neg (by simp)]
  decide

end DecoratorGraph.Script.Literal
