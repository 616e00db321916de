import DecoratorGraph.Proofs.Text.Pieces
import Mathlib.Algebra.Ring.Nat
import Mathlib.Data.List.Find

/-!
# Simultaneous substitution

`substitute` goes over a text once and puts values at places; what it puts there is not looked at
again. Replacing one place after the other does look at it again. The two are compared for places
that are words in braces: occurrences of such places do not overlap, so a text can be cut at the
occurrences of one place, and both ways work on the pieces independently (`substitute_join`).

Replacing a further place then agrees with substituting it at the same time as the others exactly if
the values of the others have brought no occurrence of it into the text, or its value is the place
itself (`replace_substitute_eq_iff`).
-/

namespace DecoratorGraph.Text

/-- Puts values at places, from left to right. The counter says how many characters of a place are
still to be passed over. -/
def substituteFrom (values : List (List Char × List Char)) : Nat → List Char → List Char
  | _, [] => []
  | skip + 1, _ :: r => substituteFrom values skip r
  | 0, c :: r =>
    match values.find? fun place => place.1.isPrefixOf (c :: r) with
    | some place => place.2 ++ substituteFrom values (place.1.length - 1) r
    | none => c :: substituteFrom values 0 r

/-- Puts values at places in one pass over a text. Every other character is copied. -/
def substitute (values : List (List Char × List Char)) (s : List Char) : List Char :=
  substituteFrom values 0 s

def occurrences (place : List Char) : List Char → Nat
  | [] => 0
  | c :: r => (if place.isPrefixOf (c :: r) then 1 else 0) + occurrences place r

/-- A word in braces, which itself has none. -/
def IsPlace (place : List Char) : Prop :=
  ∃ word, place = '\x7b' :: word ++ ['\x7d'] ∧ '\x7b' ∉ word ∧ '\x7d' ∉ word

variable {values : List (List Char × List Char)} {p : List Char}

/-! ### One pass -/

@[simp] theorem substitute_nil (values : List (List Char × List Char)) :
    substitute values [] = [] := by
  simp [substitute, substituteFrom]

theorem substitute_none (s : List Char) : substitute [] s = s := by
  induction s with
  | nil => simp
  | cons c r ih => simpa [substitute, substituteFrom] using ih

theorem substituteFrom_eq_drop (values : List (List Char × List Char)) (skip : Nat)
    (s : List Char) : substituteFrom values skip s = substitute values (s.drop skip) := by
  induction s generalizing skip with
  | nil => cases skip <;> simp [substituteFrom]
  | cons c r ih =>
      cases skip with
      | zero => rfl
      | succ skip => rw [substituteFrom, ih, List.drop_succ_cons]

theorem substitute_of_find?_some {c : Char} {r : List Char} {place : List Char × List Char}
    (h : values.find? (fun place => place.1.isPrefixOf (c :: r)) = some place) :
    substitute values (c :: r) =
      place.2 ++ substitute values (r.drop (place.1.length - 1)) := by
  rw [substitute, substituteFrom, h, ← substituteFrom_eq_drop]

theorem substitute_of_find?_none {c : Char} {r : List Char}
    (h : values.find? (fun place => place.1.isPrefixOf (c :: r)) = none) :
    substitute values (c :: r) = c :: substitute values r := by
  rw [substitute, substituteFrom, h, ← substitute]

/-- Replacing one place is a substitution of this place alone. -/
theorem replace_eq_substitute (place value s : List Char) :
    replace place value s = substitute [(place, value)] s := by
  rw [replace, substitute]
  generalize 0 = skip
  fun_induction replaceFrom place value skip s with
  | case1 => simp [substituteFrom]
  | case2 skip c r ih => rw [ih, substituteFrom]
  | case3 c r h ih => simp [substituteFrom, h, ih]
  | case4 c r h ih => simp [substituteFrom, h, ih]

/-! ### Words in braces -/

theorem IsPlace.ne_nil (hp : IsPlace p) : p ≠ [] := by
  obtain ⟨word, rfl, -, -⟩ := hp
  simp

/-- Behind its first character a place has no opening brace. -/
theorem IsPlace.exists_cons (hp : IsPlace p) :
    ∃ tail, p = '\x7b' :: tail ∧ '\x7b' ∉ tail := by
  obtain ⟨word, rfl, hopen, -⟩ := hp
  exact ⟨word ++ ['\x7d'], rfl, by simp [hopen]⟩

/-- Of two places neither goes on behind the other. -/
theorem IsPlace.eq_of_prefix {q : List Char} (hp : IsPlace p) (hq : IsPlace q) {y : List Char}
    (h : q <+: p ++ y) : q = p := by
  obtain ⟨word, rfl, -, hword⟩ := hp
  obtain ⟨word', rfl, -, hword'⟩ := hq
  obtain ⟨z, hz⟩ := h
  have htake (u rest : List Char) (hu : '\x7d' ∉ u) :
      (u ++ '\x7d' :: rest).takeWhile (· ≠ '\x7d') = u := by
    rw [List.takeWhile_append_of_pos fun c hc => by
      simpa using ne_of_mem_of_not_mem hc hu]
    simp
  have hwords : word' ++ '\x7d' :: z = word ++ '\x7d' :: y := by simpa using hz
  have heq := congrArg (List.takeWhile (· ≠ '\x7d')) hwords
  rw [htake word' z hword', htake word y hword] at heq
  rw [heq]

/-- A place in front of which something stands does not reach into another place behind it. -/
theorem IsPlace.prefix_iff {q : List Char} (hp : IsPlace p) (hq : IsPlace q) {x : List Char}
    (hx : x ≠ []) (y : List Char) : q <+: x ++ (p ++ y) ↔ q <+: x := by
  refine ⟨fun h => ?_, fun h => h.trans (List.prefix_append x _)⟩
  rcases List.prefix_or_prefix_of_prefix h (List.prefix_append x (p ++ y)) with hle | ⟨z, rfl⟩
  · exact hle
  · obtain ⟨ptail, rfl, -⟩ := hp.exists_cons
    obtain ⟨qtail, hcons, hopen⟩ := hq.exists_cons
    obtain ⟨c, x, rfl⟩ := List.exists_cons_of_ne_nil hx
    have hz : z <+: '\x7b' :: (ptail ++ y) := (List.prefix_append_right_inj (c :: x)).1 h
    obtain - | ⟨d, z⟩ := z
    · simp
    · obtain rfl : d = '\x7b' := (List.cons_prefix_cons.1 hz).1
      rw [List.cons_append, List.cons.injEq] at hcons
      exact absurd (hcons.2 ▸ List.mem_append_right x List.mem_cons_self) hopen

/-! ### Cutting at a place -/

/-- Where no place begins, characters are copied. -/
theorem substitute_append_of_not_mem (hvalues : ∀ place ∈ values, IsPlace place.1)
    {x : List Char} (hx : '\x7b' ∉ x) (y : List Char) :
    substitute values (x ++ y) = x ++ substitute values y := by
  induction x with
  | nil => rfl
  | cons c x ih =>
      rw [List.mem_cons, not_or] at hx
      have hnone : values.find? (fun place => place.1.isPrefixOf (c :: (x ++ y))) = none := by
        rw [List.find?_eq_none]
        intro place hplace hbegin
        obtain ⟨tail, htail, -⟩ := (hvalues place hplace).exists_cons
        rw [List.isPrefixOf_iff_prefix, htail, List.cons_prefix_cons] at hbegin
        exact hx.1 hbegin.1
      rw [List.cons_append, substitute_of_find?_none hnone, ih hx.2, List.cons_append]

theorem lookup_eq_find?_map (place : List Char) (values : List (List Char × List Char)) :
    values.lookup place = (values.find? fun entry => place == entry.1).map Prod.snd := by
  induction values with
  | nil => rfl
  | cons entry values ih =>
      rw [List.lookup_cons, List.find?_cons, ih]
      cases place == entry.1 <;> rfl

/-- A place in front of a text is looked up among the values, and copied if it has none. -/
theorem substitute_place_append (hvalues : ∀ place ∈ values, IsPlace place.1) (hp : IsPlace p)
    (y : List Char) :
    substitute values (p ++ y) = (values.lookup p).getD p ++ substitute values y := by
  have hfind : values.find? (fun place => place.1.isPrefixOf (p ++ y)) =
      values.find? fun place => p == place.1 := by
    refine List.find?_congr fun place hplace => Bool.eq_iff_iff.2 ?_
    rw [List.isPrefixOf_iff_prefix, beq_iff_eq]
    exact ⟨fun h => (hp.eq_of_prefix (hvalues place hplace) h).symm,
      fun h => h ▸ List.prefix_append p y⟩
  obtain ⟨tail, htail, hopen⟩ := hp.exists_cons
  rw [lookup_eq_find?_map]
  rw [htail, List.cons_append] at hfind ⊢
  cases hlookup : values.find? (fun place => '\x7b' :: tail == place.1) with
  | none =>
      rw [substitute_of_find?_none (hfind.trans hlookup),
        substitute_append_of_not_mem hvalues hopen]
      rfl
  | some place =>
      have hfound := List.find?_some hlookup
      have hplace : place.1 = '\x7b' :: tail := (beq_iff_eq.1 hfound).symm
      rw [substitute_of_find?_some (hfind.trans hlookup), hplace, List.length_cons,
        Nat.add_sub_cancel, List.drop_left]
      rfl

/-- What stands on the two sides of a place is substituted independently. -/
theorem substitute_append (hvalues : ∀ place ∈ values, IsPlace place.1) (hp : IsPlace p)
    (x y : List Char) :
    substitute values (x ++ (p ++ y)) =
      substitute values x ++ ((values.lookup p).getD p ++ substitute values y) := by
  induction hn : x.length using Nat.strongRecOn generalizing x with
  | ind n ih =>
      subst hn
      obtain - | ⟨c, x⟩ := x
      · simpa using substitute_place_append hvalues hp y
      · -- The same place, if any, begins here whether the rest of the text is there or not.
        have hfind : values.find? (fun place => place.1.isPrefixOf (c :: (x ++ (p ++ y)))) =
            values.find? fun place => place.1.isPrefixOf (c :: x) := by
          refine List.find?_congr fun place hplace => Bool.eq_iff_iff.2 ?_
          rw [List.isPrefixOf_iff_prefix, List.isPrefixOf_iff_prefix]
          exact hp.prefix_iff (hvalues place hplace) (List.cons_ne_nil c x) y
        rw [List.cons_append]
        cases hplace : values.find? (fun place => place.1.isPrefixOf (c :: x)) with
        | none =>
            rw [substitute_of_find?_none (hfind.trans hplace), substitute_of_find?_none hplace,
              ih x.length (by simp) x rfl, List.cons_append]
        | some place =>
            have hle : place.1.length - 1 ≤ x.length := by
              have hbegins := List.find?_some hplace
              have hbegin : place.1 <+: c :: x := List.isPrefixOf_iff_prefix.1 hbegins
              have hlength := hbegin.length_le
              rw [List.length_cons] at hlength
              omega
            have hshort : (x.drop (place.1.length - 1)).length < (c :: x).length := by
              rw [List.length_drop, List.length_cons]
              omega
            rw [substitute_of_find?_some (hfind.trans hplace), substitute_of_find?_some hplace,
              List.drop_append_of_le_length hle, ih _ hshort _ rfl, List.append_assoc]

/-- A text that is cut at a place is substituted piece by piece. -/
theorem substitute_join (hvalues : ∀ place ∈ values, IsPlace place.1) (hp : IsPlace p)
    (ts : List (List Char)) :
    substitute values (join p ts) =
      join ((values.lookup p).getD p) (ts.map (substitute values)) := by
  induction ts with
  | nil => simp [join]
  | cons t ts ih =>
      obtain rfl | hne := eq_or_ne ts []
      · rfl
      · rw [join_cons_of_ne_nil _ _ hne, List.append_assoc, substitute_append hvalues hp, ih,
          List.map_cons, join_cons_of_ne_nil _ _ (by simpa using hne), List.append_assoc]

/-- A place that does not occur need not be substituted. -/
theorem substitute_concat_of_not_infix {s : List Char} (v : List Char) (h : ¬ p <:+: s) :
    substitute (values ++ [(p, v)]) s = substitute values s := by
  induction hn : s.length using Nat.strongRecOn generalizing s with
  | ind n ih =>
      subst hn
      obtain - | ⟨c, r⟩ := s
      · simp
      · rw [List.infix_cons_iff, not_or] at h
        have hp : p.isPrefixOf (c :: r) = false := by
          simpa [← Bool.not_eq_true, List.isPrefixOf_iff_prefix] using h.1
        have hfind : (values ++ [(p, v)]).find? (fun place => place.1.isPrefixOf (c :: r)) =
            values.find? fun place => place.1.isPrefixOf (c :: r) := by
          simp [List.find?_append, hp]
        cases hplace : values.find? (fun place => place.1.isPrefixOf (c :: r)) with
        | none =>
            rw [substitute_of_find?_none (hfind.trans hplace), substitute_of_find?_none hplace,
              ih r.length (by simp) h.2 rfl]
        | some place =>
            have hshort : (r.drop (place.1.length - 1)).length < (c :: r).length := by
              rw [List.length_drop, List.length_cons]
              omega
            have hrest : ¬ p <:+: r.drop (place.1.length - 1) :=
              mt (fun hr => hr.trans (List.drop_suffix _ r).isInfix) h.2
            rw [substitute_of_find?_some (hfind.trans hplace), substitute_of_find?_some hplace,
              ih _ hshort hrest rfl]

/-- A place that does not occur is not replaced. -/
theorem replace_of_not_infix {s : List Char} (v : List Char) (h : ¬ p <:+: s) :
    replace p v s = s := by
  rw [replace_eq_substitute, ← List.nil_append [(p, v)], substitute_concat_of_not_infix v h,
    substitute_none]

/-! ### Occurrences -/

theorem occurrences_eq_zero_iff (hne : p ≠ []) {s : List Char} :
    occurrences p s = 0 ↔ ¬ p <:+: s := by
  induction s with
  | nil => simp [occurrences, hne]
  | cons c r ih =>
      rw [occurrences, Nat.add_eq_zero_iff, ih, List.infix_cons_iff, not_or,
        ← List.isPrefixOf_iff_prefix]
      simp

theorem occurrences_append_of_not_mem (hp : IsPlace p) {x : List Char} (hx : '\x7b' ∉ x)
    (y : List Char) : occurrences p (x ++ y) = occurrences p y := by
  obtain ⟨tail, rfl, -⟩ := hp.exists_cons
  induction x with
  | nil => rfl
  | cons c x ih =>
      rw [List.mem_cons, not_or] at hx
      rw [List.cons_append, occurrences, ih hx.2]
      simp [hx.1]

/-- Occurrences of a place do not overlap. -/
theorem occurrences_append (hp : IsPlace p) (x y : List Char) :
    occurrences p (x ++ (p ++ y)) = occurrences p x + (occurrences p y + 1) := by
  induction x with
  | nil =>
      obtain ⟨tail, htail, hopen⟩ := hp.exists_cons
      have hbegin : p.isPrefixOf (p ++ y) = true := by simp
      have hcons : p ++ y = '\x7b' :: (tail ++ y) := by rw [htail, List.cons_append]
      calc occurrences p (p ++ y)
          = 1 + occurrences p (tail ++ y) := by
            rw [hcons, occurrences, ← hcons, if_pos hbegin]
        _ = occurrences p [] + (occurrences p y + 1) := by
            rw [occurrences_append_of_not_mem hp hopen, occurrences, Nat.zero_add, Nat.add_comm]
  | cons c x ih =>
      have hbegin : p.isPrefixOf (c :: (x ++ (p ++ y))) = p.isPrefixOf (c :: x) := by
        rw [Bool.eq_iff_iff, List.isPrefixOf_iff_prefix, List.isPrefixOf_iff_prefix]
        exact hp.prefix_iff hp (List.cons_ne_nil c x) y
      rw [List.cons_append, occurrences, occurrences, hbegin, ih, Nat.add_assoc]

theorem occurrences_join (hp : IsPlace p) (ts : List (List Char)) :
    occurrences p (join p ts) = (ts.map (occurrences p)).sum + (ts.length - 1) := by
  induction ts with
  | nil => rfl
  | cons t ts ih =>
      obtain rfl | hne := eq_or_ne ts []
      · rfl
      · have hlength := List.length_pos_iff.2 hne
        rw [join_cons_of_ne_nil _ _ hne, List.append_assoc, occurrences_append hp, ih,
          List.map_cons, List.sum_cons, List.length_cons]
        omega

/-- A text is cut once at every occurrence. -/
theorem occurrences_eq_length_pieces (hp : IsPlace p) (s : List Char) :
    occurrences p s = (pieces p s).length - 1 := by
  have hzero : ((pieces p s).map (occurrences p)).sum = 0 := by
    refine List.sum_eq_zero_iff_forall_eq_nat.2 fun n hn => ?_
    obtain ⟨piece, hpiece, rfl⟩ := List.mem_map.1 hn
    exact (occurrences_eq_zero_iff hp.ne_nil).2 (not_infix_of_mem_pieces hp.ne_nil hpiece)
  have hjoin := occurrences_join hp (pieces p s)
  rwa [join_pieces hp.ne_nil, hzero, Nat.zero_add] at hjoin

theorem length_replace (hp : IsPlace p) (v s : List Char) :
    (replace p v s).length + occurrences p s * p.length =
      s.length + occurrences p s * v.length := by
  have hcut := congrArg List.length (join_pieces hp.ne_nil s)
  rw [length_join] at hcut
  rw [replace_eq_join, length_join, occurrences_eq_length_pieces hp, ← hcut]
  omega

theorem replace_self (hp : IsPlace p) (s : List Char) : replace p p s = s := by
  rw [replace_eq_join, join_pieces hp.ne_nil]

theorem length_flatten_map_replace (hp : IsPlace p) (v : List Char) (us : List (List Char)) :
    (us.map (replace p v)).flatten.length + (us.map (occurrences p)).sum * p.length =
      us.flatten.length + (us.map (occurrences p)).sum * v.length := by
  induction us with
  | nil => simp
  | cons u us ih =>
      have hu := length_replace hp v u
      simp only [List.map_cons, List.flatten_cons, List.length_append, List.sum_cons, Nat.add_mul]
      omega

/-! ### One place after the others -/

/-- Only a text of the same length leaves the length of the whole as it is. -/
theorem length_eq_of_join_map_replace_eq (hp : IsPlace p) {v : List Char} {us : List (List Char)}
    (heq : join v (us.map (replace p v)) = join v us) (hsum : (us.map (occurrences p)).sum ≠ 0) :
    p.length = v.length := by
  have hlengths := length_flatten_map_replace hp v us
  have hjoin := congrArg List.length heq
  rw [length_join, length_join, List.length_map] at hjoin
  have hmul : (us.map (occurrences p)).sum * p.length =
      (us.map (occurrences p)).sum * v.length := by omega
  exact Nat.eq_of_mul_eq_mul_left (Nat.pos_of_ne_zero hsum) hmul

/-- Replacing a place in pieces changes none of them exactly if it stands in none or is replaced by
itself. -/
theorem join_map_replace_eq_iff (hp : IsPlace p) (v : List Char) (us : List (List Char)) :
    join v (us.map (replace p v)) = join v us ↔ (us.map (occurrences p)).sum = 0 ∨ v = p := by
  constructor
  · intro heq
    refine or_iff_not_imp_left.2 fun hsum => ?_
    have hlength := length_eq_of_join_map_replace_eq hp heq hsum
    -- The lengths are the same, so every piece stays what it is, also one with the place in it.
    have hkept := eq_of_join_map_eq (fun u => by
      have hu := length_replace hp v u
      rw [hlength] at hu
      omega) heq
    obtain ⟨u, hu, hne⟩ : ∃ u ∈ us, occurrences p u ≠ 0 := by
      simpa [List.sum_eq_zero_iff_forall_eq_nat] using hsum
    have hinfix : p <:+: u := not_not.1 (mt (occurrences_eq_zero_iff hp.ne_nil).2 hne)
    refine join_injective (two_le_length_pieces hp.ne_nil hinfix) ?_
    rw [← replace_eq_join, hkept u hu, join_pieces hp.ne_nil]
  · rintro (hsum | rfl)
    · have hkept : ∀ u ∈ us, replace p v u = u := fun u hu => by
        have hzero : occurrences p u = 0 :=
          List.sum_eq_zero_iff_forall_eq_nat.1 hsum _ (List.mem_map_of_mem hu)
        exact replace_of_not_infix v ((occurrences_eq_zero_iff hp.ne_nil).1 hzero)
      rw [List.map_congr_left hkept, List.map_id']
    · rw [List.map_congr_left fun u _ => replace_self hp u, List.map_id']

/-- Replacing a further place after the others is the same as substituting all of them at once
exactly if the others bring no occurrence of it into the text, or it is replaced by itself. -/
theorem replace_substitute_eq_iff (hvalues : ∀ place ∈ values, IsPlace place.1) (hp : IsPlace p)
    (hfresh : values.lookup p = none) (v t : List Char) :
    replace p v (substitute values t) = substitute (values ++ [(p, v)]) t ↔
      occurrences p (substitute values t) = occurrences p t ∨ v = p := by
  -- Both sides are the pieces between the occurrences of `p` in `t`, filled and joined again.
  have hcut (values' : List (List Char × List Char)) (h : ∀ place ∈ values', IsPlace place.1) :
      substitute values' t =
        join ((values'.lookup p).getD p) ((pieces p t).map (substitute values')) := by
    rw [← substitute_join h hp, join_pieces hp.ne_nil]
  have hfrom : substitute values t = join p ((pieces p t).map (substitute values)) := by
    simpa [hfresh] using hcut values hvalues
  have hall : substitute (values ++ [(p, v)]) t =
      join v ((pieces p t).map (substitute values)) := by
    have hplaces : ∀ place ∈ values ++ [(p, v)], IsPlace place.1 := fun place hplace =>
      (List.mem_append.1 hplace).elim (hvalues place) fun h => List.mem_singleton.1 h ▸ hp
    rw [hcut _ hplaces, List.lookup_append, hfresh]
    refine congrArg₂ join (by simp) (List.map_congr_left fun piece hpiece => ?_)
    exact substitute_concat_of_not_infix v (not_infix_of_mem_pieces hp.ne_nil hpiece)
  have hafter : replace p v (substitute values t) =
      join v (((pieces p t).map (substitute values)).map (replace p v)) := by
    rw [hfrom, replace_eq_substitute, substitute_join (by simpa using hp) hp]
    refine congrArg₂ join (by simp) (List.map_congr_left fun u _ => ?_)
    rw [replace_eq_substitute]
  have hcount : occurrences p (substitute values t) = occurrences p t ↔
      (((pieces p t).map (substitute values)).map (occurrences p)).sum = 0 := by
    rw [hfrom, occurrences_join hp, occurrences_eq_length_pieces hp t, List.length_map]
    omega
  rw [hafter, hall, hcount, join_map_replace_eq_iff hp]

end DecoratorGraph.Text
