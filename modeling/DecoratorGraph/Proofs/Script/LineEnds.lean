import DecoratorGraph.Proofs.Script.SurrogateHalves
import DecoratorGraph.Proofs.Text.Pieces

/-!
# Line ends in a literal

A file may end its lines by a line feed, by a carriage return, or by both. A template may go over
several lines. Cooked, its value is the same in all three files, with a line feed at the end of each
raw line (`rawLines`). Here the line ends between the raw lines are taken over from the file, so a
template of more than one raw line has another value in another file; a continued line, on the other
hand, leaves no trace however it ends (`value_withEnds_eq_iff`).
-/

namespace DecoratorGraph.Script.Literal

variable {n code low : Nat} {c : Char} {a l p q r s t w x ending : List Char}

/-! ### Lines -/

def lineEnds : List (List Char) := [['\n'], ['\r', '\n'], ['\r']]

/-- A text with other line ends in the places of its line feeds. -/
def withEnds (ending : List Char) (s : List Char) : List Char :=
  s.flatMap fun c => if c = '\n' then ending else [c]

/-- The raw lines of a body: what stands between the line feeds, those apart that a backslash stands
in front of. -/
def rawLines : List Char → List (List Char)
  | [] => [[]]
  | '\n' :: r => [] :: rawLines r
  | '\\' :: c :: r => (rawLines r).modifyHead fun line => '\\' :: c :: line
  | c :: r => (rawLines r).modifyHead fun line => c :: line

inductive RawLine : List Char → Prop
  | nil : RawLine []
  | plain {c : Char} {l : List Char} (hc : c ≠ '\\') (hfeed : c ≠ '\n') (h : RawLine l) :
      RawLine (c :: l)
  | escaped {c : Char} {l : List Char} (h : RawLine l) : RawLine ('\\' :: c :: l)

/-- What stands behind a line: nothing, a backslash at the end of the body, or a line end. -/
inductive LineStop : List Char → Prop
  | nil : LineStop []
  | backslash : LineStop ['\\']
  | ending {c : Char} {r : List Char} (hc : c = '\n' ∨ c = '\r') : LineStop (c :: r)

theorem mem_lineEnds : ending ∈ lineEnds ↔
    ending = ['\n'] ∨ ending = ['\r', '\n'] ∨ ending = ['\r'] := by
  simp [lineEnds]

theorem withEnds_append (ending s t : List Char) :
    withEnds ending (s ++ t) = withEnds ending s ++ withEnds ending t := List.flatMap_append

theorem withEnds_of_not_mem (ending : List Char) (h : '\n' ∉ s) : withEnds ending s = s := by
  induction s with
  | nil => rfl
  | cons c s ih =>
      rw [List.mem_cons, not_or] at h
      obtain ⟨hc, hs⟩ := h
      have htail := ih hs
      unfold withEnds at htail ⊢
      rw [List.flatMap_cons, htail, if_neg (Ne.symm hc), List.singleton_append]

theorem withEnds_cons (ending : List Char) (h : c ≠ '\n') (s : List Char) :
    withEnds ending (c :: s) = c :: withEnds ending s := by
  unfold withEnds
  rw [List.flatMap_cons, if_neg h, List.singleton_append]

theorem withEnds_cons_lineFeed (ending s : List Char) :
    withEnds ending ('\n' :: s) = ending ++ withEnds ending s := rfl

theorem withEnds_lineFeed (s : List Char) : withEnds ['\n'] s = s := by
  unfold withEnds
  conv_rhs => rw [← List.flatMap_singleton' s]
  congr 1
  funext c
  split
  · next hc => rw [hc]
  · rfl

theorem lineStop_of_ending (h : ending ∈ lineEnds) (r : List Char) : LineStop (ending ++ r) := by
  rcases mem_lineEnds.1 h with rfl | rfl | rfl
  · exact .ending (.inl rfl)
  · exact .ending (.inr rfl)
  · exact .ending (.inr rfl)

/-- A body is one raw line, up to a backslash at its end, or its first raw line ends at a line
feed. -/
theorem rawLines_cases (s : List Char) :
    (∃ l x, RawLine l ∧ (x = [] ∨ x = ['\\']) ∧ s = l ++ x ∧ rawLines s = [s]) ∨
      ∃ l r, RawLine l ∧ s = l ++ '\n' :: r ∧ rawLines s = l :: rawLines r := by
  fun_induction rawLines s with
  | case1 => exact .inl ⟨[], [], .nil, .inl rfl, rfl, rfl⟩
  | case2 r => exact .inr ⟨[], r, .nil, rfl, rfl⟩
  | case3 c r ih =>
      obtain ⟨l, x, hl, hx, rfl, hlines⟩ | ⟨l, r', hl, rfl, hlines⟩ := ih
      · exact .inl ⟨_, x, hl.escaped (c := c), hx, rfl, by rw [hlines]; rfl⟩
      · exact .inr ⟨_, r', hl.escaped (c := c), rfl, by rw [hlines]; rfl⟩
  | case4 c r hfeed hescape ih =>
      by_cases hc : c = '\\'
      · -- Only a backslash at the end is left over by the other cases.
        obtain rfl : r = [] := by
          cases r with
          | nil => rfl
          | cons d r => exact (hescape d r hc rfl).elim
        exact .inl ⟨[], ['\\'], .nil, .inr rfl, by rw [hc]; rfl, rfl⟩
      · obtain ⟨l, x, hl, hx, rfl, hlines⟩ | ⟨l, r', hl, rfl, hlines⟩ := ih
        · exact .inl ⟨_, x, hl.plain hc hfeed, hx, rfl, by rw [hlines]; rfl⟩
        · exact .inr ⟨_, r', hl.plain hc hfeed, rfl, by rw [hlines]; rfl⟩

/-! ### What an escape looks at -/

def Inert (q : List Char) : Prop := ∀ c ∈ q, c ∉ ['\\', '\n', '\r']

/-- The low half that an escape for a high half takes along, or nothing. -/
def HalfTaken (q : List Char) : Prop := q = [] ∨ ∃ t, Inert t ∧ q = '\\' :: 'u' :: t

theorem Inert.backslash_not_mem (h : Inert q) : '\\' ∉ q := fun hmem => h _ hmem (by decide)

theorem Inert.ne_lineEnd (h : Inert q) : ∀ c ∈ q, c ≠ '\n' ∧ c ≠ '\r' := by
  intro c hc
  have hsign := h c hc
  simp only [List.mem_cons, not_or] at hsign
  exact ⟨hsign.2.1, hsign.2.2.1⟩

theorem SpellsHex.inert (h : SpellsHex n t) : Inert t := by
  obtain ⟨digits, hdigits, -⟩ := h
  have hdigit {d : Nat} {c : Char} (hc : IsHexDigit d c) : c ∉ ['\\', '\n', '\r'] := by
    have hnumber := hexDigit?_of_isHexDigit hc
    intro hmem
    simp only [List.mem_cons, List.not_mem_nil, or_false] at hmem
    rcases hmem with rfl | rfl | rfl <;> simp [hexDigit?] at hnumber
  induction hdigits with
  | nil => exact fun c hc => absurd hc List.not_mem_nil
  | cons hd _ ih => exact List.forall_mem_cons.2 ⟨hdigit hd, ih⟩

theorem SpellsCode.inert (h : SpellsCode code t) : Inert t := by
  cases h with
  | digits ht _ => exact ht.inert
  | braces ht _ =>
      intro c hc
      rw [List.mem_cons, List.mem_append, List.mem_singleton] at hc
      obtain rfl | hc | rfl := hc
      · decide
      · exact ht.inert c hc
      · decide

/-- A row without line ends that does not end with a backslash ends where the line stops. -/
theorem prefix_of_prefix_append (hx : LineStop x) (hp : p <+: a ++ x)
    (hinert : ∀ c ∈ p, c ≠ '\n' ∧ c ≠ '\r') (hlast : p.getLast? ≠ some '\\') : p <+: a := by
  cases hx with
  | nil => simpa using hp
  | backslash =>
      rcases List.prefix_concat_iff.1 hp with rfl | hp
      · exact absurd List.getLast?_concat hlast
      · exact hp
  | @ending c r hc =>
      clear hlast
      induction a generalizing p with
      | nil =>
          cases p with
          | nil => exact List.prefix_rfl
          | cons d p =>
              obtain ⟨hd, -⟩ := List.cons_prefix_cons.1 hp
              obtain ⟨hfeed, hreturn⟩ := hinert d List.mem_cons_self
              rw [hd] at hfeed hreturn
              exact (hc.elim hfeed hreturn).elim
      | cons b a ih =>
          cases p with
          | nil => exact List.nil_prefix
          | cons d p =>
              obtain ⟨rfl, htail⟩ := List.cons_prefix_cons.1 hp
              have hprefix := ih (fun c hc => hinert c (.tail _ hc)) htail
              exact List.cons_prefix_cons.2 ⟨rfl, hprefix⟩

theorem Inert.prefix_of_append (h : Inert p) (hx : LineStop x) (hp : p <+: a ++ x) : p <+: a :=
  prefix_of_prefix_append hx hp h.ne_lineEnd fun hlast =>
    h.backslash_not_mem (List.mem_of_getLast? hlast)

theorem hexAhead?_append_stop (hx : LineStop x) (k : Nat) :
    hexAhead? k (a ++ x) = hexAhead? k a := by
  ext n
  rw [hexAhead?_eq_some_iff, hexAhead?_eq_some_iff]
  refine exists_congr fun t => and_congr_left fun ht => ?_
  exact ⟨ht.2.inert.prefix_of_append hx, fun h => h.trans (List.prefix_append a x)⟩

theorem unicodeAhead?_append_stop (hx : LineStop x) : unicodeAhead? (a ++ x) = unicodeAhead? a := by
  ext ⟨code, used⟩
  rw [unicodeAhead?_eq_some_iff, unicodeAhead?_eq_some_iff]
  refine exists_congr fun t => and_congr_left fun ht => ?_
  exact ⟨ht.2.1.inert.prefix_of_append hx, fun h => h.trans (List.prefix_append a x)⟩

theorem lowHalfAhead?_append_stop (hx : LineStop x) : lowHalfAhead? (a ++ x) = lowHalfAhead? a := by
  ext low
  rw [lowHalfAhead?_eq_some_iff, lowHalfAhead?_eq_some_iff]
  refine exists_congr fun t => ⟨?_, ?_⟩
  · rintro ⟨r, heq, ht, hlength, hlow⟩
    have hinert := ht.inert
    have hp : '\\' :: 'u' :: t <+: a ++ x := ⟨r, heq.symm⟩
    have hlines : ∀ c ∈ '\\' :: 'u' :: t, c ≠ '\n' ∧ c ≠ '\r' := by
      refine List.forall_mem_cons.2 ⟨by decide, List.forall_mem_cons.2 ⟨by decide, ?_⟩⟩
      exact hinert.ne_lineEnd
    have hlast : ('\\' :: 'u' :: t).getLast? ≠ some '\\' := by
      obtain ⟨d, u, rfl⟩ : ∃ d u, t = d :: u := List.exists_cons_of_length_pos (by omega)
      rw [List.getLast?_cons_cons, List.getLast?_cons_cons]
      exact fun hlast => hinert.backslash_not_mem (List.mem_of_getLast? hlast)
    obtain ⟨r', rfl⟩ := prefix_of_prefix_append hx hp hlines hlast
    exact ⟨r', rfl, ht, hlength, hlow⟩
  · rintro ⟨r, rfl, ht, hlength, hlow⟩
    exact ⟨r ++ x, by simp, ht, hlength, hlow⟩

/-- What an escape for `code` takes along of a line. -/
theorem exists_halfTaken (code : Nat) (a : List Char) :
    ∃ d h b, a = h ++ b ∧ HalfTaken h ∧ ∀ x, LineStop x → joined code (a ++ x) = (d, h.length) := by
  by_cases hhigh : isHighHalf code = true
  · cases hahead : lowHalfAhead? a with
    | none =>
        refine ⟨character code, [], a, rfl, .inl rfl, fun x hx => ?_⟩
        rw [joined, if_pos hhigh, lowHalfAhead?_append_stop hx, hahead]
        rfl
    | some low =>
        obtain ⟨t, r, rfl, ht, hlength, -⟩ := lowHalfAhead?_eq_some_iff.1 hahead
        refine ⟨character (pairCode code low), '\\' :: 'u' :: t, r, rfl, .inr ⟨t, ht.inert, rfl⟩,
          fun x hx => ?_⟩
        rw [joined, if_pos hhigh, lowHalfAhead?_append_stop hx, hahead]
        simp [hlength]
  · refine ⟨character code, [], a, rfl, .inl rfl, fun x _ => ?_⟩
    rw [joined, if_neg hhigh]
    rfl

/-- Behind a backslash, a character and what it takes along of a line stand for the same wherever
the line stands. -/
def StaysInLine (c : Char) (a : List Char) : Prop :=
  ∃ v q h b, a = q ++ (h ++ b) ∧ Inert q ∧ HalfTaken h ∧
    ∀ x, LineStop x → escaped (c :: (a ++ x)) = (v, 1 + q.length + h.length)

theorem staysInLine_of_alone {v : List Char}
    (h : ∀ x, LineStop x → escaped (c :: (a ++ x)) = (v, 1)) : StaysInLine c a :=
  ⟨v, [], [], a, rfl, fun _ hc => absurd hc List.not_mem_nil, .inl rfl, h⟩

theorem staysInLine_of_code (code : Nat) (ht : Inert t)
    (h : ∀ x, LineStop x → escaped (c :: (t ++ (a ++ x))) =
      ([(joined code (a ++ x)).1], 1 + t.length + (joined code (a ++ x)).2)) :
    StaysInLine c (t ++ a) := by
  obtain ⟨d, taken, b, rfl, htaken, hjoined⟩ := exists_halfTaken code a
  refine ⟨[d], t, taken, b, rfl, ht, htaken, fun x hx => ?_⟩
  rw [List.append_assoc, h x hx, hjoined x hx]

theorem staysInLine_byte (a : List Char) : StaysInLine 'x' a := by
  cases hahead : hexAhead? 2 a with
  | none =>
      refine staysInLine_of_alone (v := ['\\', 'x']) fun x hx => ?_
      simp only [escaped, hexAhead?_append_stop hx, hahead]
  | some code =>
      obtain ⟨t, ⟨r, rfl⟩, hlength, ht⟩ := hexAhead?_eq_some_iff.1 hahead
      refine staysInLine_of_code code ht.inert fun x hx => ?_
      have hahead' := ht.hexAhead?_append (r ++ x)
      rw [hlength] at hahead'
      have hdrop : (t ++ (r ++ x)).drop 2 = r ++ x := by rw [← hlength, List.drop_left]
      simp only [escaped, hahead', hdrop, hlength]

theorem staysInLine_unicode (a : List Char) : StaysInLine 'u' a := by
  cases hahead : unicodeAhead? a with
  | none =>
      refine staysInLine_of_alone (v := ['\\', 'u']) fun x hx => ?_
      simp only [escaped, unicodeAhead?_append_stop hx, hahead]
  | some p =>
      obtain ⟨code, used⟩ := p
      obtain ⟨t, ⟨r, rfl⟩, rfl, ht, hcode⟩ := unicodeAhead?_eq_some_iff.1 hahead
      refine staysInLine_of_code code ht.inert fun x hx => ?_
      have hahead' : unicodeAhead? (t ++ (r ++ x)) = some (code, t.length) := by
        rw [← List.append_assoc, unicodeAhead?_append_stop hx, hahead]
      simp only [escaped, hahead', List.drop_left]

theorem staysInLine_zero (a : List Char) : StaysInLine '0' a := by
  refine staysInLine_of_alone (v := (escaped ('0' :: a)).1) fun x hx => ?_
  have hdigit : (a ++ x).head?.any Char.isDigit = a.head?.any Char.isDigit := by
    cases a with
    | cons d a => rfl
    | nil =>
        cases hx with
        | nil => rfl
        | backslash => rfl
        | ending hc => rcases hc with rfl | rfl <;> rfl
  rw [escaped, escaped, hdigit]
  split <;> rfl

theorem staysInLine (hc : c ≠ '\r') (a : List Char) : StaysInLine c a := by
  by_cases hx : c = 'x'
  · rw [hx]
    exact staysInLine_byte a
  by_cases hu : c = 'u'
  · rw [hu]
    exact staysInLine_unicode a
  by_cases hzero : c = '0'
  · rw [hzero]
    exact staysInLine_zero a
  by_cases hmeaning : c ∈ meaningful
  · refine staysInLine_of_alone (v := (escaped [c]).1) fun x _ => ?_
    simp only [meaningful, List.mem_cons, List.not_mem_nil, or_false] at hmeaning
    rcases hmeaning with rfl | rfl | rfl | rfl | rfl | rfl | rfl | rfl | rfl | rfl | rfl | rfl
    all_goals first | rfl | contradiction
  · exact staysInLine_of_alone fun x _ => escaped_meaningless hmeaning hzero (a ++ x)

/-- An escape is read the same way whatever follows its line. -/
theorem exists_unescape (hc : c ≠ '\r') (a : List Char) :
    ∃ v q h b, a = q ++ (h ++ b) ∧ Inert q ∧ HalfTaken h ∧
      ∀ x, LineStop x → unescape ('\\' :: c :: (a ++ x)) = v ++ unescape (b ++ x) := by
  obtain ⟨v, q, h, b, rfl, hq, hh, hescaped⟩ := staysInLine hc a
  refine ⟨v, q, h, b, rfl, hq, hh, fun x hx => ?_⟩
  have hdrop : (c :: (q ++ (h ++ b) ++ x)).drop (1 + q.length + h.length) = b ++ x := by
    have htext : c :: (q ++ (h ++ b) ++ x) = (c :: (q ++ h)) ++ (b ++ x) := by simp
    have hlength : 1 + q.length + h.length = (c :: (q ++ h)).length := by
      simp only [List.length_cons, List.length_append]
      omega
    rw [htext, hlength, List.drop_left]
  rw [unescape_backslash, hescaped x hx, hdrop]

/-! ### Lines read one by one -/

theorem RawLine.of_append (hq : '\\' ∉ q) (h : RawLine (q ++ l)) : RawLine l := by
  induction q with
  | nil => exact h
  | cons c q ih =>
      rw [List.mem_cons, not_or] at hq
      rw [List.cons_append] at h
      generalize heq : q ++ l = m at h
      cases h with
      | plain _ _ h => exact ih hq.2 (heq ▸ h)
      | escaped h => exact absurd rfl hq.1

theorem RawLine.of_escape (hq : Inert q) (hp : HalfTaken p) (h : RawLine (q ++ (p ++ l))) :
    RawLine l := by
  have hrest := h.of_append hq.backslash_not_mem
  obtain rfl | ⟨t, ht, rfl⟩ := hp
  · exact hrest
  · rw [List.cons_append, List.cons_append] at hrest
    cases hrest with
    | plain hc _ _ => exact absurd rfl hc
    | escaped hrest => exact hrest.of_append ht.backslash_not_mem

def LineBreak (ending x : List Char) : Prop := x = [] ∨ x = ['\\'] ∨ ending <+: x

theorem LineBreak.lineStop (hx : LineBreak ending x) (h : ending ∈ lineEnds) : LineStop x := by
  obtain rfl | rfl | ⟨r, rfl⟩ := hx
  · exact .nil
  · exact .backslash
  · exact lineStop_of_ending h r

/-- A continued line leaves no trace in any file. -/
theorem unescape_continued (h : ending ∈ lineEnds) (hl : RawLine l) (hx : LineBreak ending x) :
    unescape ('\\' :: (ending ++ (withEnds ending l ++ x))) =
      unescape (withEnds ending l ++ x) := by
  rcases mem_lineEnds.1 h with rfl | rfl | rfl
  · exact unescape_continuation (s := ['\\', '\n']) (by decide) ⟨by simp, by simp⟩
  · exact unescape_continuation (s := ['\\', '\r', '\n']) (by decide) ⟨by simp, by simp⟩
  · have hfeed : (withEnds ['\r'] l ++ x).head? ≠ some '\n' := by
      cases hl with
      | nil => obtain rfl | rfl | ⟨r, rfl⟩ := hx <;> simp [withEnds]
      | plain _ hfeed _ => simp [withEnds, hfeed]
      | escaped _ => simp [withEnds]
    exact unescape_continuation (s := ['\\', '\r']) (by decide) ⟨by simp, fun _ => hfeed⟩

/-- A rest of a line goes up to its first continuation. -/
theorem exists_lineStop (h : ending ∈ lineEnds) (hx : LineBreak ending x) (l : List Char) :
    ∃ a b, l = a ++ b ∧ '\n' ∉ a ∧ LineStop b ∧ LineStop (withEnds ending b ++ x) := by
  by_cases hmem : '\n' ∈ l
  · obtain ⟨a, r, rfl, ha⟩ := List.eq_append_cons_of_mem hmem
    refine ⟨a, '\n' :: r, rfl, ha, .ending (.inl rfl), ?_⟩
    rw [withEnds_cons_lineFeed, List.append_assoc]
    exact lineStop_of_ending h _
  · exact ⟨l, [], (List.append_nil l).symm, hmem, .nil, hx.lineStop h⟩

/-- An escape takes along a part of what comes before the next continuation, so a shorter line is
left behind it. -/
theorem unescape_escapedLine (h : ending ∈ lineEnds) (hx : LineBreak ending x) {c : Char}
    (hl : RawLine l) (hc : c ≠ '\r') (hfeed : c ≠ '\n') (hreturn : '\r' ∉ l)
    (ih : ∀ l', l'.length ≤ l.length → RawLine l' → '\r' ∉ l' →
      unescape (withEnds ending l' ++ x) = unescape l' ++ unescape x) :
    unescape (withEnds ending ('\\' :: c :: l) ++ x) =
      unescape ('\\' :: c :: l) ++ unescape x := by
  obtain ⟨a, b, rfl, ha, hb, hbx⟩ := exists_lineStop h hx l
  -- Of what comes before the continuation, the escape takes `q` and reads ahead over `p`.
  obtain ⟨v, q, p, d, rfl, hq, hp, hread⟩ := exists_unescape hc a
  rw [List.append_assoc, List.append_assoc] at hl hreturn ih
  simp only [List.mem_append, not_or] at ha hreturn
  have hreturn' : '\r' ∉ d ++ b := List.not_mem_append hreturn.2.2.1 hreturn.2.2.2
  have hshorter : (d ++ b).length ≤ (q ++ (p ++ (d ++ b))).length := by
    simp only [List.length_append]
    omega
  have htail := ih (d ++ b) hshorter (hl.of_escape hq hp) hreturn'
  rw [withEnds_append, withEnds_of_not_mem _ ha.2.2, List.append_assoc] at htail
  have hends : withEnds ending ('\\' :: c :: (q ++ (p ++ d) ++ b)) =
      '\\' :: c :: (q ++ (p ++ d) ++ withEnds ending b) := by
    rw [withEnds_cons _ (by decide), withEnds_cons _ hfeed, withEnds_append, withEnds_of_not_mem]
    simp [ha]
  calc unescape (withEnds ending ('\\' :: c :: (q ++ (p ++ d) ++ b)) ++ x)
      = unescape ('\\' :: c :: (q ++ (p ++ d) ++ (withEnds ending b ++ x))) := by
        rw [hends]
        simp
    _ = v ++ unescape (d ++ (withEnds ending b ++ x)) := hread _ hbx
    _ = v ++ unescape (d ++ b) ++ unescape x := by rw [htail, List.append_assoc]
    _ = unescape ('\\' :: c :: (q ++ (p ++ d) ++ b)) ++ unescape x := by rw [hread _ hb]

/-- A raw line has the same value in every file and whatever follows it. The induction is on its
length: an escape takes along what it looks at, which holds no line end. -/
theorem unescape_rawLine (h : ending ∈ lineEnds) (hx : LineBreak ending x) (hl : RawLine l)
    (hreturn : '\r' ∉ l) : unescape (withEnds ending l ++ x) = unescape l ++ unescape x := by
  induction hlength : l.length using Nat.strong_induction_on generalizing l with
  | h n ih =>
    subst hlength
    cases hl with
    | nil =>
        rw [unescape_nil]
        rfl
    | @plain c l hc hfeed hl =>
        have htail := ih l.length (by simp) hl (List.not_mem_of_not_mem_cons hreturn) rfl
        rw [withEnds_cons _ hfeed, List.cons_append, unescape_cons _ hc, unescape_cons _ hc, htail,
          List.cons_append]
    | @escaped c l hl =>
        rw [List.mem_cons, List.mem_cons, not_or, not_or] at hreturn
        obtain ⟨-, hc, hreturn⟩ := hreturn
        by_cases hfeed : c = '\n'
        · subst hfeed
          have htail := ih l.length (by simp) hl hreturn rfl
          have hplain : unescape ('\\' :: '\n' :: l) = unescape l := unescape_backslash _
          rw [withEnds_cons _ (by decide), withEnds_cons_lineFeed, List.cons_append,
            List.append_assoc, unescape_continued h hl hx, htail, hplain]
        · refine unescape_escapedLine h hx hl (Ne.symm hc) hfeed hreturn ?_
          intro l' hle hl' hreturn'
          have hshorter : l'.length < ('\\' :: c :: l).length := by
            simp only [List.length_cons]
            omega
          exact ih l'.length hshorter hl' hreturn' rfl

theorem rawLines_ne_nil (s : List Char) : rawLines s ≠ [] := by
  obtain ⟨_, _, _, _, _, hlines⟩ | ⟨_, _, _, _, hlines⟩ := rawLines_cases s
  · rw [hlines]
    exact List.cons_ne_nil _ _
  · rw [hlines]
    exact List.cons_ne_nil _ _

theorem unescape_ending (h : ending ∈ lineEnds) (s : List Char) :
    unescape (ending ++ s) = ending ++ unescape s := by
  rcases mem_lineEnds.1 h with rfl | rfl | rfl
  all_goals simp [unescape_cons]

/-- Read in a file, a body has the values of its raw lines with the line ends of the file between
them. -/
theorem unescape_withEnds (h : ending ∈ lineEnds) (hreturn : '\r' ∉ s) :
    unescape (withEnds ending s) = Text.join ending ((rawLines s).map unescape) := by
  induction hlength : s.length using Nat.strong_induction_on generalizing s with
  | h n ih =>
    subst hlength
    obtain ⟨l, x, hl, hx, rfl, hlines⟩ | ⟨l, r, hl, rfl, hlines⟩ := rawLines_cases s
    · rw [List.mem_append, not_or] at hreturn
      have hends : withEnds ending x = x := by obtain rfl | rfl := hx <;> rfl
      have hbreak (e : List Char) : LineBreak e x := hx.imp_right .inl
      have hfeed : ['\n'] ∈ lineEnds := by decide
      have hplain := unescape_rawLine hfeed (hbreak _) hl hreturn.1
      rw [withEnds_lineFeed] at hplain
      rw [hlines, withEnds_append, hends, unescape_rawLine h (hbreak _) hl hreturn.1, ← hplain]
      rfl
    · rw [List.mem_append, List.mem_cons, not_or, not_or] at hreturn
      have hrest := ih r.length (by simp only [List.length_append, List.length_cons]; omega)
        hreturn.2.2 rfl
      have hne : (rawLines r).map unescape ≠ [] := by simpa using rawLines_ne_nil r
      have hbreak : LineBreak ending (ending ++ withEnds ending r) :=
        .inr (.inr (List.prefix_append _ _))
      rw [hlines, withEnds_append, withEnds_cons_lineFeed, unescape_rawLine h hbreak hl hreturn.1,
        unescape_ending h, hrest, List.map_cons, Text.join_cons_of_ne_nil _ _ hne,
        List.append_assoc]

/-- The line ends of a file stand in the value of a literal as they are, one between two raw lines,
and a continued line leaves none. So the value is the one in a file with line feeds exactly if the
file has line feeds or the literal is on one raw line. -/
theorem value_withEnds_eq_iff (mark : Char) (h : ending ∈ lineEnds) (hreturn : '\r' ∉ s) :
    value (mark :: withEnds ending s ++ [mark]) =
        String.ofList (Text.join ending ((rawLines s).map unescape)) ∧
      (value (mark :: withEnds ending s ++ [mark]) = value (mark :: s ++ [mark]) ↔
        ending = ['\n'] ∨ (rawLines s).length = 1) := by
  have hvalue : value (mark :: withEnds ending s ++ [mark]) =
      String.ofList (Text.join ending ((rawLines s).map unescape)) := by
    rw [value_of_body, unescape_withEnds h hreturn]
  have hplain : unescape s = Text.join ['\n'] ((rawLines s).map unescape) := by
    have hfeed : ['\n'] ∈ lineEnds := by decide
    have hlines := unescape_withEnds hfeed hreturn
    rwa [withEnds_lineFeed] at hlines
  refine ⟨hvalue, ?_⟩
  rw [hvalue, value_of_body, String.ofList_inj, hplain]
  constructor
  · intro heq
    by_cases hlines : 2 ≤ ((rawLines s).map unescape).length
    · exact .inl (Text.join_injective hlines heq)
    · have hpos := List.length_pos_iff.2 (rawLines_ne_nil s)
      rw [List.length_map] at hlines
      exact .inr (by omega)
  · rintro (rfl | hlines)
    · rfl
    · obtain ⟨line, hline⟩ := List.length_eq_one_iff.1 hlines
      rw [hline]
      rfl

def threeLines : List Char := ['a', '\n', 'b', '\\', '\n', 'c']

/-- Where lines end by carriage returns and line feeds, so does the first line of the value. -/
theorem value_of_threeLines :
    ['\r', '\n'] ∈ lineEnds ∧ '\r' ∉ threeLines ∧
      value ('\x60' :: withEnds ['\r', '\n'] threeLines ++ ['\x60']) =
        String.ofList ['a', '\r', '\n', 'b', 'c'] ∧
      value ('\x60' :: withEnds ['\r', '\n'] threeLines ++ ['\x60']) ≠
        value ('\x60' :: threeLines ++ ['\x60']) := by
  have hending : ['\r', '\n'] ∈ lineEnds := by decide
  have hreturn : '\r' ∉ threeLines := by decide
  obtain ⟨hvalue, hsame⟩ := value_withEnds_eq_iff '\x60' hending hreturn
  refine ⟨hending, hreturn, hvalue.trans ?_, mt hsame.1 (by decide)⟩
  decide

end DecoratorGraph.Script.Literal
