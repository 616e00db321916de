import DecoratorGraph.Proofs.Script.Forms
import DecoratorGraph.Proofs.Script.Remainders

/-!
# Reading lexemes and lists

A sign, a word or a name that a text begins with is read, and what is left is what the form leaves.
A list, a row of further items and an optional part are read by their items: what an item needs is
that the next lexeme ends it.
-/

namespace DecoratorGraph.Script

variable {s r t u : List Char} {c d : Char} {w : String}

/-! ### Gaps -/

/-- The rest of a gap, given whether it begins inside a comment. -/
inductive GapRest : Blank → List Char → Prop
  | space {g} (hg : Gap g) : GapRest .space g
  | lineComment {body : List Char} {c : Char} {g : List Char}
      (hbody : ∀ c ∈ body, c ∉ lineTerminators) (hc : c ∈ lineTerminators) (hg : Gap g) :
      GapRest .lineComment (body ++ c :: g)
  | blockComment {body g : List Char} (hbody : ¬ "*/".toList <:+: body) (hg : Gap g) :
      GapRest .blockComment (body ++ "*/".toList ++ g)

theorem exists_gapRest (mode : Blank) (h : skipBlank mode s = c :: r) :
    ∃ g, GapRest mode g ∧ s = g ++ c :: r := by
  fun_induction skipBlank mode s with
  | case1 | case6 | case9 => cases h
  | case2 s ih =>
      obtain ⟨g, hrest, rfl⟩ := ih h
      refine ⟨'/' :: '/' :: g, .space ?_, rfl⟩
      cases hrest with
      | lineComment hbody hd hg => simpa using Gap.lineComment hbody hd hg
  | case3 s ih =>
      obtain ⟨g, hrest, rfl⟩ := ih h
      refine ⟨'/' :: '*' :: g, .space ?_, rfl⟩
      cases hrest with
      | blockComment hbody hg => simpa using Gap.blockComment hbody hg
  | case4 d s _ _ hd ih =>
      obtain ⟨g, hrest, rfl⟩ := ih h
      refine ⟨d :: g, .space ?_, rfl⟩
      cases hrest with
      | space hg => exact .space hd hg
  | case5 => exact ⟨[], .space .nil, h⟩
  | case7 d s hd ih =>
      obtain ⟨g, hrest, rfl⟩ := ih h
      refine ⟨d :: g, ?_, rfl⟩
      cases hrest with
      | space hg => exact @GapRest.lineComment [] _ _ (by simp) (endsComment_iff.1 hd) hg
  | case8 d s hd ih =>
      obtain ⟨g, hrest, rfl⟩ := ih h
      refine ⟨d :: g, ?_, rfl⟩
      cases hrest with
      | lineComment hbody he hg =>
          exact .lineComment (List.forall_mem_cons.2 ⟨mt endsComment_iff.2 hd, hbody⟩) he hg
  | case10 s ih =>
      obtain ⟨g, hrest, rfl⟩ := ih h
      refine ⟨'*' :: '/' :: g, ?_, rfl⟩
      cases hrest with
      | space hg => exact @GapRest.blockComment [] _ (by simp) hg
  | case11 d s hnot ih =>
      obtain ⟨g, hrest, rfl⟩ := ih h
      refine ⟨d :: g, ?_, rfl⟩
      cases hrest with
      | @blockComment body g hbody hg =>
          refine @GapRest.blockComment (d :: body) _ (fun hinfix => ?_) hg
          obtain hprefix | hinfix := List.infix_cons_iff.1 hinfix
          · obtain ⟨rfl, v, rfl⟩ := List.cons_prefix_cons.1 hprefix
            exact hnot _ rfl rfl
          · exact hbody hinfix

/-- What is skipped in front of a lexeme is a gap. -/
theorem exists_gap_of_skip (h : skip s = c :: r) : ∃ g, Gap g ∧ s = g ++ c :: r := by
  obtain ⟨g, ⟨hg⟩, rfl⟩ := exists_gapRest .space h
  exact ⟨g, hg, rfl⟩

/-! ### Signs -/

theorem Sign.skip_eq (h : Sign c s t) (hc : startsLexeme c = true) : skip s = c :: t := by
  obtain @⟨g, _, hg⟩ := h
  exact hg.skip_append hc t

theorem Sign.length_lt (h : Sign c s t) : t.length < s.length := by
  obtain @⟨g, _, hg⟩ := h
  simp only [List.length_append, List.length_cons]
  omega

theorem Sign.symbol?_eq (h : Sign c s t) (hc : startsLexeme c = true) : symbol? c s = some t := by
  rw [symbol?_of_skip (h.skip_eq hc), if_pos rfl]

theorem Sign.symbol?_eq_none (h : Sign c s t) (hc : startsLexeme c = true) (hne : c ≠ d) :
    symbol? d s = none := by
  rw [symbol?_of_skip (h.skip_eq hc), if_neg hne]

theorem Sign.endsWord (h : Sign c s t) (hc : startsLexeme c = true) (hpart : isWordPart c = false)
    (hb : c ≠ '\\') : EndsWord s := endsWord_of_skip (h.skip_eq hc) hpart hb

theorem Sign.suffix (h : Sign c s t) : t <:+ s := by
  obtain @⟨gap, _, hgap⟩ := h
  exact ⟨gap ++ [c], by simp⟩

theorem sign_of_symbol? (h : symbol? c s = some t) : Sign c s t := by
  rw [symbol?] at h
  split at h
  next d r hskip =>
    obtain ⟨g, hg, rfl⟩ := exists_gap_of_skip hskip
    split at h
    next heq =>
      obtain rfl := heq
      obtain rfl := Option.some.inj h
      exact .mk hg
    next => cases h
  next => cases h

theorem Arrow.skip_eq (h : Arrow s t) : skip s = '=' :: '>' :: t := by
  obtain @⟨g, _, hg⟩ := h
  exact hg.skip_append (by decide) _

theorem Arrow.symbols?_eq (h : Arrow s t) : symbols? "=>" s = some t := by
  rw [symbols?, h.skip_eq]
  rfl

theorem Arrow.length_lt (h : Arrow s t) : t.length < s.length := by
  obtain @⟨g, _, hg⟩ := h
  simp only [List.length_append, List.length_cons]
  omega

/-! ### Words -/

theorem Keyword.skip_eq (h : Keyword w s t) (hw : IsName w.toList) :
    skip s = w.toList ++ t ∧ EndsWord t := by
  obtain @⟨g, _, hg, hend⟩ := h
  exact ⟨hg.skip_name hw t, hend⟩

theorem IsName.length_pos {w : List Char} (hw : IsName w) : 0 < w.length := by
  obtain ⟨c, u, rfl, -⟩ := hw.exists_cons
  exact Nat.succ_pos _

theorem Keyword.length_le (h : Keyword w s t) : t.length ≤ s.length := by
  obtain @⟨g, _, hg, hend⟩ := h
  simp only [List.length_append]
  omega

theorem Keyword.length_lt (h : Keyword w s t) (hw : IsName w.toList) : t.length < s.length := by
  obtain @⟨g, _, hg, hend⟩ := h
  have hpos := hw.length_pos
  simp only [List.length_append]
  omega

theorem Keyword.keyword?_eq (h : Keyword w s t) (hw : IsName w.toList) :
    keyword? w s = some t := by
  obtain ⟨hskip, hend⟩ := h.skip_eq hw
  rw [keyword?_of_name hw hskip hend, if_pos String.ofList_toList]

theorem Keyword.keyword?_ne (h : Keyword w s t) (hw : IsName w.toList) {v : String}
    (hne : w ≠ v) : keyword? v s = none := by
  obtain ⟨hskip, hend⟩ := h.skip_eq hw
  rw [keyword?_of_name hw hskip hend, String.ofList_toList, if_neg hne]

theorem Name.exists_name (h : Name s t) :
    ∃ w, IsName w ∧ skip s = w ++ t ∧ EndsWord t := by
  obtain @⟨g, w, _, hg, hw, hend⟩ := h
  exact ⟨w, hw, hg.skip_name hw t, hend⟩

theorem Name.skipWord?_eq (h : Name s t) : skipWord? (skip s) = some t := by
  obtain ⟨w, hw, hskip, hend⟩ := h.exists_name
  rw [hskip, hw.skipWord?_append hend]

theorem Name.length_lt (h : Name s t) : t.length < s.length := by
  obtain @⟨g, w, _, hg, hw, hend⟩ := h
  have hpos := hw.length_pos
  simp only [List.length_append]
  omega

/-! ### The next lexeme -/

theorem NextNot.symbol?_eq_none {words : List String} {signs : List Char}
    (h : NextNot words signs s) (hc : c ∈ signs) (hsign : isWordStart c = false) :
    symbol? c s = none := by
  cases h with
  | @sign g d t hg hstarts _ hnot =>
      have hne : d ≠ c := by
        rintro rfl
        exact hnot (List.mem_cons_of_mem _ hc)
      rw [symbol?_of_skip (hg.skip_append hstarts t), if_neg hne]
  | @slash g t hg ht hnot =>
      have hne : '/' ≠ c := by
        rintro rfl
        exact hnot hc
      rw [symbol?_of_skip (hg.skip_of_skip (skip_of_slash ht)), if_neg hne]
  | word hg hw _ _ => exact symbol?_of_name hw (hg.skip_name hw _) hsign

theorem NextNot.keyword?_eq_none {words : List String} {signs : List Char}
    (h : NextNot words signs s) (hw : w ∈ words) : keyword? w s = none := by
  cases h with
  | @sign g d t hg hstarts hpart hnot =>
      have hd : isWordStart d = false := by
        simp [isWordStart, hpart]
      exact keyword?_of_sign (hg.skip_append hstarts t) hd (fun hb => hnot (hb ▸ .head _)) w
  | slash hg ht _ =>
      exact keyword?_of_sign (hg.skip_of_skip (skip_of_slash ht)) (by decide) (by decide) w
  | @word g v t hg hv hend hnot =>
      rw [keyword?_of_name hv (hg.skip_name hv _) hend, if_neg]
      rintro rfl
      exact hnot hw

/-! ### Parts that may be missing -/

theorem skipMany_of_none {p : Skipper} (h : p s = none) (n : Nat) : skipMany p n s = s := by
  cases n with
  | zero => rfl
  | succ n => rw [skipMany, h]

theorem skipOptional_of_none {p : Skipper} (h : p s = none) : skipOptional p s = s := by
  rw [skipOptional, h, Option.getD_none]

theorem skipOptional_of_some {p : Skipper} (h : p s = some t) : skipOptional p s = t := by
  rw [skipOptional, h, Option.getD_some]

theorem skipOptional_of_opt {c : Char} (h : Opt (Sign c) s r) (hc : startsLexeme c = true)
    (hr : symbol? c r = none) :
    skipOptional (symbol? c) s = r ∧ r.length ≤ s.length := by
  cases h with
  | none => exact ⟨skipOptional_of_none hr, Nat.le_refl _⟩
  | some h => exact ⟨skipOptional_of_some (h.symbol?_eq hc), h.length_lt.le⟩

/-! ### Lists -/

def EndsItem (close : Char) (s : List Char) : Prop :=
  ∃ d t, skip s = d :: t ∧ (d = ',' ∨ d = close)

theorem EndsItem.closes {close : Char} (h : EndsItem close s)
    (hclose : close ∈ [')', ']', '\x7d']) : Closes s := by
  have hsigns : ∀ c ∈ [')', ']', '\x7d'], c ∈ closers := forall_sign (by decide)
  obtain ⟨d, t, hskip, rfl | rfl⟩ := h
  · exact ⟨',', t, hskip, by decide⟩
  · exact ⟨d, t, hskip, hsigns d hclose⟩

/-- What is left is what `t` says, or it begins with a sign that ends no item, if anything is
left. -/
def EndsAt (rest : Option (List Char)) (t : List Char) : Prop :=
  ∀ r, rest = some r → r = t ∨ ∃ d u, skip r = d :: u ∧ d ∉ closers

theorem endsAt_none (t : List Char) : EndsAt none t := by
  intro r hr
  cases hr

theorem endsAt_self (t : List Char) : EndsAt (some t) t := fun _ hr =>
  Or.inl (Option.some.inj hr).symm

theorem endsAt_bind {o : Option (List Char)} {p : Skipper}
    (h : ∀ r, o = some r → EndsAt (p r) t) : EndsAt (o.bind p) t := by
  cases o with
  | none => exact endsAt_none t
  | some r => exact h r rfl

section Lists

variable {α : Type} {Item : Form} {close : Char} {k : Nat}

theorem readList_close (close : Char) (item : Reader α) (n : Nat) {s r : List Char}
    (h : skip s = close :: r) : readList close item (n + 1) s = some ([], r) := by
  rw [readList, h]
  exact if_pos rfl

/-- What a list needs of its items: they begin with a lexeme that neither closes the list nor
separates items, and an item that is shorter than `k` is read up to where it ends. -/
structure ReadsItems (Item : Form) (close : Char) (item : Reader α) (k : Nat) : Prop where
  opens : ∀ {s t : List Char}, Item s t →
    ∃ c r, s = c :: r ∧ skip (c :: r) = c :: r ∧ c ≠ close ∧ c ≠ ','
  leaves : ∀ s : List Char, Reads s (item s)
  read : ∀ {s t : List Char}, Item s t → s.length < k → EndsItem close t →
    ∃ a, item s = some (a, t)

theorem exists_readList_of_item {item : Reader α} (hitem : ReadsItems Item close item k)
    (h : Spaced Item s r) (hs : s.length < k) (hr : skip r = d :: t)
    (hd : d = ',' ∨ d = close) :
    r.length ≤ s.length ∧ ∀ n, ∃ a, readList close item (n + 1) s =
      if d = close then some ([a], t)
      else (readList close item n t).map fun (as, r) => (a :: as, r) := by
  obtain @⟨g, s, _, hg, h⟩ := h
  rw [List.length_append] at hs
  obtain ⟨a, ha⟩ := hitem.read h (by omega) ⟨d, t, hr, hd⟩
  have hlength : r.length ≤ s.length := (hitem.leaves s _ ha).length_le
  obtain ⟨c, v, rfl, hself, hclose, hcomma⟩ := hitem.opens h
  have hskip := hg.skip_of_skip hself
  refine ⟨by rw [List.length_append]; omega, fun n => ⟨a, ?_⟩⟩
  rw [readList, hskip]
  simp only [hclose, hcomma, if_false, ha, hr]
  obtain rfl | rfl := hd <;> simp

theorem Items.elements (h : Items Item close s t) : Elements Item close s t := by
  induction h with
  | nil hc => exact .nil hc
  | last h hc => exact .last h hc
  | cons h hc _ ih => exact .cons h hc ih

/-- A list is read item by item. -/
theorem exists_readList {item : Reader α} (hitem : ReadsItems Item close item k)
    (hclose : startsLexeme close = true) (hcomma : close ≠ ',') (h : Elements Item close s t)
    (hs : s.length < k) (n : Nat) (hn : s.length ≤ n) :
    ∃ as, readList close item n s = some (as, t) := by
  induction h generalizing n with
  | nil hc =>
      have hlength := hc.length_lt
      obtain ⟨n, rfl⟩ : ∃ m, n = m + 1 := ⟨n - 1, by omega⟩
      exact ⟨[], readList_close close item n (hc.skip_eq hclose)⟩
  | @last s r t h hc =>
      have hlength := hc.length_lt
      obtain ⟨hle, hread⟩ := exists_readList_of_item hitem h hs (hc.skip_eq hclose) (Or.inr rfl)
      obtain ⟨n, rfl⟩ : ∃ m, n = m + 1 := ⟨n - 1, by omega⟩
      obtain ⟨a, ha⟩ := hread n
      exact ⟨[a], by simpa using ha⟩
  | @cons s r u t h hc ht ih =>
      have hlength := hc.length_lt
      obtain ⟨hle, hread⟩ :=
        exists_readList_of_item hitem h hs (hc.skip_eq (by decide)) (Or.inl rfl)
      obtain ⟨n, rfl⟩ : ∃ m, n = m + 1 := ⟨n - 1, by omega⟩
      obtain ⟨a, ha⟩ := hread n
      obtain ⟨as, has⟩ := ih (by omega) n (by omega)
      exact ⟨a :: as, by simpa [hcomma.symm, has] using ha⟩
  | hole hc _ ih =>
      have hlength := hc.length_lt
      obtain ⟨n, rfl⟩ : ∃ m, n = m + 1 := ⟨n - 1, by omega⟩
      obtain ⟨as, has⟩ := ih (by omega) n (by omega)
      refine ⟨as, ?_⟩
      rw [readList, hc.skip_eq (by decide)]
      simp only [hcomma.symm, if_false, if_true, has]

def Skipper.reader (p : Skipper) : Reader Unit := fun s => (p s).map fun r => ((), r)

/-- A list is skipped as it is read, if its items are. -/
theorem skipList_map (close : Char) (item : Reader α) (n : Nat) (s : List Char) :
    skipList close (fun s => (item s).map Prod.snd) n s =
      (readList close item n s).map Prod.snd := by
  fun_induction readList close item n s <;>
    simp_all [skipList, Option.map_map, Function.comp_def]

theorem skipList_eq (close : Char) (item : Skipper) (n : Nat) (s : List Char) :
    skipList close item n s = (readList close item.reader n s).map Prod.snd := by
  have hitem : (fun s => (item.reader s).map Prod.snd) = item := by
    funext s
    simp [Skipper.reader, Option.map_map, Function.comp_def]
  rw [← skipList_map, hitem]

theorem Skipper.reads {p : Skipper} (h : ∀ s, Leaves s (p s)) (s : List Char) :
    Reads s (p.reader s) := yields_map fun r hr => h s r hr

/-- A list of which nothing is kept is skipped item by item. -/
theorem skipList_of_elements {item : Skipper} (hitem : ReadsItems Item close item.reader k)
    (hclose : startsLexeme close = true) (hcomma : close ≠ ',') (h : Elements Item close s t)
    (hs : s.length < k) (n : Nat) (hn : s.length ≤ n) : skipList close item n s = some t := by
  obtain ⟨as, has⟩ := exists_readList hitem hclose hcomma h hs n hn
  rw [skipList_eq, has, Option.map_some]

theorem skipList_of_items {item : Skipper} (hitem : ReadsItems Item close item.reader k)
    (hclose : startsLexeme close = true) (hcomma : close ≠ ',') (h : Items Item close s t)
    (hs : s.length < k) (n : Nat) (hn : s.length ≤ n) : skipList close item n s = some t :=
  skipList_of_elements hitem hclose hcomma h.elements hs n hn

/-- What a list needs of its items to be skipped to its end if at all. -/
structure CoversItems (Item : Form) (close : Char) (item : Skipper) (k : Nat) : Prop where
  opens : ∀ {s t : List Char}, Item s t →
    ∃ c r, s = c :: r ∧ skip (c :: r) = c :: r ∧ c ≠ close ∧ c ≠ ','
  leaves : ∀ s : List Char, Leaves s (item s)
  ends : ∀ {s t : List Char}, Item s t → s.length < k → EndsItem close t → EndsAt (item s) t

/-- An item is skipped up to the sign behind it, if the list is skipped. -/
theorem skipList_item {item : Skipper} (hitem : CoversItems Item close item k)
    (hclose : close ∈ [')', ']', '\x7d']) (h : Spaced Item s r) (hs : s.length < k)
    (hr : skip r = d :: t) (hd : d = ',' ∨ d = close) {n : Nat}
    (hread : skipList close item n s = some u) :
    r.length ≤ s.length ∧
      ∃ m, (if d = close then some t else skipList close item m t) = some u := by
  have hsigns : ∀ c ∈ [')', ']', '\x7d'], c ∈ closers := forall_sign (by decide)
  have hcomma : ',' ∈ closers := by decide
  obtain @⟨g, s, _, hg, h⟩ := h
  obtain ⟨c, v, rfl, hself, hne, hne'⟩ := hitem.opens h
  rw [List.length_append] at hs
  cases n with
  | zero => cases hread
  | succ n =>
      rw [skipList, hg.skip_of_skip hself] at hread
      simp only [hne, hne', if_false] at hread
      cases hnone : item (c :: v) with
      | none => simp [hnone] at hread
      | some x =>
          have hends := hitem.ends h (by omega) ⟨d, t, hr, hd⟩ x hnone
          simp only [hnone] at hread
          obtain rfl | ⟨e, w, hskip, he⟩ := hends
          · have hle : x.length ≤ (c :: v).length := (hitem.leaves _ _ hnone).length_le
            refine ⟨by rw [List.length_append]; omega, n, ?_⟩
            simp only [hr] at hread
            obtain rfl | rfl := hd
            · simpa using hread
            · simpa using hread
          · have hnot : e ≠ close ∧ e ≠ ',' :=
              ⟨fun heq => he (heq ▸ hsigns close hclose), fun heq => he (heq ▸ hcomma)⟩
            simp [hskip, hnot] at hread

/-- A list is skipped to its end, if it is skipped. -/
theorem skipList_endsAt {item : Skipper} (hitem : CoversItems Item close item k)
    (hclose : close ∈ [')', ']', '\x7d']) (h : Elements Item close s t) (hs : s.length < k)
    (n : Nat) : ∀ u, skipList close item n s = some u → u = t := by
  have hsigns : ∀ c ∈ [')', ']', '\x7d'], startsLexeme c = true ∧ c ≠ ',' :=
    forall_sign (by decide)
  obtain ⟨hstarts, hcomma⟩ := hsigns close hclose
  intro u hread
  induction h generalizing n with
  | nil hc =>
      cases n with
      | zero => cases hread
      | succ n =>
          rw [skipList, hc.skip_eq hstarts] at hread
          simpa using hread.symm
  | last h hc =>
      obtain ⟨-, m, hrest⟩ :=
        skipList_item hitem hclose h hs (hc.skip_eq hstarts) (Or.inr rfl) hread
      simpa using hrest.symm
  | cons h hc _ ih =>
      obtain ⟨hle, m, hrest⟩ :=
        skipList_item hitem hclose h hs (hc.skip_eq (by decide)) (Or.inl rfl) hread
      have hlength := hc.length_lt
      exact ih (by omega) m (by simpa [hcomma.symm] using hrest)
  | hole hc _ ih =>
      have hlength := hc.length_lt
      cases n with
      | zero => cases hread
      | succ n =>
          rw [skipList, hc.skip_eq (by decide)] at hread
          exact ih (by omega) n (by simpa [hcomma.symm] using hread)

/-- Items between commas up to the sign that closes their list. -/
theorem items_of_sequenced (h : Sequenced Item s r) (hc : Sign close r t) :
    Items Item close s t := by
  obtain ⟨h, hf⟩ := h
  induction hf generalizing s with
  | nil => exact .last h hc
  | cons hcomma h' _ ih => exact .cons h hcomma (ih hc h')

end Lists

end DecoratorGraph.Script
