import DecoratorGraph.Proofs.Json.Lexemes

/-!
# Reading JSON values

A reader for the values of `Json`, and the proof that it takes the text of a value, in either
layout, back to this value. The proof is one induction over the value; the fuel is bounded by the
text, since the text of a part is shorter than the text of the whole.
-/

namespace DecoratorGraph

namespace JsonText

def natural : Reader Nat := fun s =>
  let digits := s.takeWhile Char.isDigit
  if digits = [] ∨ (digits.head? = some '0' ∧ digits ≠ ['0']) then .error .malformed
  else .ok (Nat.ofDigitChars 10 digits 0, s.dropWhile Char.isDigit)

def members {α : Type} (reader : Reader α) : Nat → Bool → Reader (List (String × α))
  | 0, _, _ => .error .ended
  | fuel + 1, first, s => do
    let (name, r) ← nextName first s
    match name with
    | none => .ok ([], r)
    | some name =>
      let ((), r) ← colon r
      let (x, r) ← reader r
      let (xs, r) ← members reader fuel false r
      .ok ((name, x) :: xs, r)

def value : Nat → Reader Json
  | 0, _ => .error .ended
  | fuel + 1, s =>
    match skipBlanks s with
    | [] => .error .ended
    | 'n' :: r => do
      let ((), r) ← expect "ull".toList r
      .ok (.null, r)
    | '"' :: r => do
      let (text, r) ← stringBody r
      .ok (.string text, r)
    | '[' :: r => do
      let (items, r) ← items (value fuel) fuel true r
      let ((), r) ← endArray r
      .ok (.array items, r)
    | '{' :: r => do
      let (members, r) ← members (value fuel) fuel true r
      let ((), r) ← endObject r
      .ok (.object members, r)
    | c :: r => do
      let (n, r) ← natural (c :: r)
      .ok (.number n, r)

def valueOf (text : String) : Except ReadError Json :=
  readAll (fun s => value (s.length + 1) s) text

end JsonText

/-! ### Texts of values -/

namespace Json

/-- What holds of a value if it holds of its parts holds of all values. -/
theorem induct {P : Json → Prop} (null : P .null) (number : ∀ n, P (.number n))
    (string : ∀ s, P (.string s)) (array : ∀ items, (∀ j ∈ items, P j) → P (.array items))
    (object : ∀ members, (∀ m ∈ members, P m.2) → P (.object members)) (j : Json) : P j :=
  match j with
  | .null => null
  | .number n => number n
  | .string s => string s
  | .array items => array items fun j _ => induct null number string array object j
  | .object members => object members fun m _ => induct null number string array object m.2
termination_by j
decreasing_by
  · decreasing_tactic
  · obtain ⟨name, j⟩ := m
    have hm := List.sizeOf_lt_of_mem ‹(name, j) ∈ members›
    simp only [Prod.mk.sizeOf_spec] at hm
    simp only [Json.object.sizeOf_spec]
    omega

theorem renderItems_eq_map (layout : Layout) (depth : Nat) (items : List Json) :
    renderItems layout depth items = items.map (render layout depth) := by
  induction items with
  | nil => rfl
  | cons j items ih => rw [renderItems, ih, List.map_cons]

def memberText (layout : Layout) (depth : Nat) (m : String × Json) : List Char :=
  quoted m.1 ++ (layout.colon ++ render layout depth m.2)

theorem renderMembers_eq_map (layout : Layout) (depth : Nat) (members : List (String × Json)) :
    renderMembers layout depth members = members.map (memberText layout depth) := by
  induction members with
  | nil => rfl
  | cons m members ih => rw [renderMembers, ih, List.map_cons, memberText, List.append_assoc]

theorem exists_digit_decimal (n : Nat) : ∃ c r, Text.decimal n = c :: r ∧ c.isDigit = true := by
  cases hdigits : Text.decimal n with
  | nil => exact absurd hdigits (Text.decimal_ne_nil n)
  | cons c r =>
      refine ⟨c, r, rfl, Text.isDigit_of_mem_decimal (n := n) ?_⟩
      rw [hdigits]
      exact List.mem_cons_self

theorem begins_render (layout : Layout) (depth : Nat) (j : Json) :
    JsonText.Begins (render layout depth j) := by
  cases j with
  | null => exact ⟨'n', _, rfl, by decide, by decide⟩
  | number n =>
      obtain ⟨c, r, hdigits, hc⟩ := exists_digit_decimal n
      refine ⟨c, r, hdigits, ?_, ?_⟩
      · rw [Bool.eq_false_iff]
        intro hblank
        rw [JsonText.isDigit_of_isBlank hblank] at hc
        cases hc
      · rintro rfl
        revert hc
        decide
  | string s => exact JsonText.begins_quoted s
  | array items =>
      obtain ⟨b, -, htext⟩ := JsonText.exists_blank_enclosed layout depth '[' ']'
        (renderItems layout (depth + 1) items)
      exact ⟨'[', _, htext, by decide, by decide⟩
  | object members =>
      obtain ⟨b, -, htext⟩ := JsonText.exists_blank_enclosed layout depth '\x7b' '\x7d'
        (renderMembers layout (depth + 1) members)
      exact ⟨'\x7b', _, htext, by decide, by decide⟩

theorem render_ne_nil (layout : Layout) (depth : Nat) (j : Json) : render layout depth j ≠ [] := by
  obtain ⟨c, r, htext, -⟩ := begins_render layout depth j
  rw [htext]
  exact List.cons_ne_nil c r

theorem quoted_ne_nil (s : String) : quoted s ≠ [] := List.cons_ne_nil _ _

theorem memberText_ne_nil (layout : Layout) (depth : Nat) (m : String × Json) :
    memberText layout depth m ≠ [] :=
  List.append_ne_nil_of_left_ne_nil (quoted_ne_nil m.1) _

end Json

/-! ### Reading values back -/

namespace JsonText

theorem expect_append (piece rest : List Char) : expect piece (piece ++ rest) = .ok ((), rest) := by
  induction piece with
  | nil => rfl
  | cons c piece ih => rw [List.cons_append, expect, if_pos rfl, ih]

theorem natural_decimal (n : Nat) {rest : List Char} (hrest : Ends rest) :
    natural (Text.decimal n ++ rest) = .ok (n, rest) := by
  have hvalid : ¬(Text.decimal n = [] ∨
      ((Text.decimal n).head? = some '0' ∧ Text.decimal n ≠ ['0'])) := by
    rintro (hempty | ⟨hhead, hne⟩)
    · exact Text.decimal_ne_nil n hempty
    · by_cases hn : n = 0
      · subst hn
        exact hne rfl
      · exact Text.head?_decimal_ne_zero hn hhead
  simp only [natural, Text.takeWhile_decimal n hrest, Text.dropWhile_decimal n hrest,
    if_neg hvalid]
  rw [Text.decimal, Nat.ofDigitChars_ten_toDigits]

theorem value_number {b : List Char} (hb : Blank b) (fuel n : Nat) {rest : List Char}
    (hrest : Ends rest) :
    value (fuel + 1) (b ++ (Text.decimal n ++ rest)) = .ok (.number n, rest) := by
  obtain ⟨c, r, hdigits, hc⟩ := Json.exists_digit_decimal n
  have hblank : isBlank c = false := by
    rw [Bool.eq_false_iff]
    intro hblank
    rw [isDigit_of_isBlank hblank] at hc
    cases hc
  have hnatural := natural_decimal n hrest
  rw [hdigits, List.cons_append] at hnatural ⊢
  rw [value, skipBlanks_append hb, skipBlanks_cons hblank]
  split <;> simp_all
  rfl

/-- The members of an object are read, if the value of each is read in front of what may follow
it. -/
theorem members_separated {reader : Reader Json} (layout : Json.Layout) {depth : Nat}
    {l : List (String × Json)} {b b' : List Char} (hb : Blank b) (hb' : Blank b')
    (hread : ∀ m ∈ l, ∀ gap, Blank gap → ∀ rest, Ends rest →
      reader (gap ++ (Json.render layout depth m.2 ++ rest)) = .ok (m.2, rest))
    {fuel : Nat} (hfuel : l.length < fuel) (first : Bool) (rest : List Char) :
    members reader fuel first
        (separated b first (l.map (Json.memberText layout depth)) ++ (b' ++ '\x7d' :: rest)) =
      .ok (l, '\x7d' :: rest) := by
  obtain ⟨gap, hgap, hcolon⟩ := exists_blank_colon layout
  obtain ⟨fuel, rfl⟩ := Nat.exists_eq_add_of_lt (Nat.zero_lt_of_lt hfuel)
  rw [Nat.zero_add] at hfuel ⊢
  induction l generalizing fuel first with
  | nil =>
      rw [List.map_nil, separated, List.nil_append, members, nextName_end hb']
      rfl
  | cons m l ih =>
      have hends : Ends (separated b false (l.map (Json.memberText layout depth)) ++
          (b' ++ '\x7d' :: rest)) :=
        ends_separated b _ (hb'.ends (ends_cons (by decide) rest))
      have hfuel' : l.length < fuel := Nat.lt_of_succ_lt_succ hfuel
      obtain ⟨fuel, rfl⟩ := Nat.exists_eq_add_of_lt (Nat.zero_lt_of_lt hfuel')
      rw [Nat.zero_add] at hfuel' ⊢
      have hl := ih (fun k hk => hread k (List.mem_cons_of_mem _ hk)) false fuel hfuel'
      have hm := hread m List.mem_cons_self gap hgap _ hends
      rw [List.map_cons, separated, Json.memberText, hcolon]
      simp only [List.append_assoc, List.cons_append]
      rw [members, nextName_quoted hb]
      simp only [Except.bind, bind, colon_cons, hm, hl]

theorem value_null {b : List Char} (hb : Blank b) (fuel : Nat) (rest : List Char) :
    value (fuel + 1) (b ++ ("null".toList ++ rest)) = .ok (.null, rest) := by
  have hskip : skipBlanks (b ++ ("null".toList ++ rest)) = 'n' :: ("ull".toList ++ rest) := by
    rw [skipBlanks_append hb]
    exact skipBlanks_cons (by decide) _
  rw [value, hskip]
  simp only [expect_append]
  rfl

theorem value_string {b : List Char} (hb : Blank b) (fuel : Nat) (s : String) (rest : List Char) :
    value (fuel + 1) (b ++ (Json.quoted s ++ rest)) = .ok (.string s, rest) := by
  rw [value, skipBlanks_append hb, quoted_append, skipBlanks_cons (by decide)]
  simp only [stringBody_characters]
  rfl

/-- Being read as what it is the text of, at any depth and in front of whatever may follow, given
enough fuel. -/
def ReadBack (layout : Json.Layout) (j : Json) : Prop :=
  ∀ depth fuel, (Json.render layout depth j).length < fuel → ∀ b, Blank b → ∀ rest, Ends rest →
    value fuel (b ++ (Json.render layout depth j ++ rest)) = .ok (j, rest)

theorem readBack_array {layout : Json.Layout} {l : List Json} (ih : ∀ j ∈ l, ReadBack layout j) :
    ReadBack layout (.array l) := by
  rintro depth (_ | fuel) hfuel b hb rest -
  · cases hfuel
  obtain ⟨e, he, htext⟩ := exists_blank_enclosed layout depth '[' ']'
    (l.map (Json.render layout (depth + 1)))
  rw [Json.render, Json.renderItems_eq_map, htext] at hfuel ⊢
  simp only [List.length_cons, List.length_append, List.length_nil] at hfuel
  have hcount : l.length < fuel := by
    have hlength := length_le_separated (Json.render layout (depth + 1))
      (fun j (_ : j ∈ l) => Json.render_ne_nil layout (depth + 1) j)
      (layout.newLine (depth + 1)) true
    omega
  have hread : ∀ j ∈ l, ∀ rest, Ends rest →
      value fuel (Json.render layout (depth + 1) j ++ rest) = .ok (j, rest) := by
    intro j hj rest hrest
    have hlength := length_le_separated_of_mem (Json.render layout (depth + 1)) hj
      (layout.newLine (depth + 1)) true
    exact ih j hj (depth + 1) fuel (by omega) [] blank_nil rest hrest
  have hitems := items_separated id (blank_newLine layout (depth + 1)) he
    (fun j _ => Json.begins_render layout (depth + 1) j) hread hcount true rest
  rw [value, skipBlanks_append hb, List.cons_append, skipBlanks_cons (by decide)]
  simp only [List.append_assoc, List.cons_append, List.nil_append, hitems, List.map_id]
  rfl

theorem readBack_object {layout : Json.Layout} {l : List (String × Json)}
    (ih : ∀ m ∈ l, ReadBack layout m.2) : ReadBack layout (.object l) := by
  rintro depth (_ | fuel) hfuel b hb rest -
  · cases hfuel
  obtain ⟨e, he, htext⟩ := exists_blank_enclosed layout depth '\x7b' '\x7d'
    (l.map (Json.memberText layout (depth + 1)))
  rw [Json.render, Json.renderMembers_eq_map, htext] at hfuel ⊢
  simp only [List.length_cons, List.length_append, List.length_nil] at hfuel
  have hcount : l.length < fuel := by
    have hlength := length_le_separated (Json.memberText layout (depth + 1))
      (fun m (_ : m ∈ l) => Json.memberText_ne_nil layout (depth + 1) m)
      (layout.newLine (depth + 1)) true
    omega
  have hread : ∀ m ∈ l, ∀ gap, Blank gap → ∀ rest, Ends rest →
      value fuel (gap ++ (Json.render layout (depth + 1) m.2 ++ rest)) = .ok (m.2, rest) := by
    intro m hm gap hgap rest hrest
    have hlength := length_le_separated_of_mem (Json.memberText layout (depth + 1)) hm
      (layout.newLine (depth + 1)) true
    rw [Json.memberText, List.length_append, List.length_append] at hlength
    exact ih m hm (depth + 1) fuel (by omega) gap hgap rest hrest
  have hmembers := members_separated layout (blank_newLine layout (depth + 1)) he hread hcount
    true rest
  rw [value, skipBlanks_append hb, List.cons_append, skipBlanks_cons (by decide)]
  simp only [List.append_assoc, List.cons_append, List.nil_append, hmembers]
  rfl

/-- The text of a value is read as this value. -/
theorem readBack (layout : Json.Layout) (j : Json) : ReadBack layout j := by
  induction j using Json.induct with
  | null =>
      rintro depth (_ | fuel) hfuel b hb rest -
      · cases hfuel
      · exact value_null hb fuel rest
  | number n =>
      rintro depth (_ | fuel) hfuel b hb rest hrest
      · cases hfuel
      · exact value_number hb fuel n hrest
  | string s =>
      rintro depth (_ | fuel) hfuel b hb rest -
      · cases hfuel
      · exact value_string hb fuel s rest
  | array l ih => exact readBack_array ih
  | object l ih => exact readBack_object ih

/-- A whole text is read as the value that it is the text of, in either layout. -/
theorem valueOf_text (layout : Json.Layout) (j : Json) : valueOf (j.text layout) = .ok j := by
  have hread := readBack layout j 0 _ (Nat.lt_succ_self _) [] blank_nil [] ends_nil
  rw [List.nil_append, List.append_nil] at hread
  simp only [valueOf, readAll, Json.text, String.toList_ofList, hread]
  rfl

end JsonText

end DecoratorGraph
