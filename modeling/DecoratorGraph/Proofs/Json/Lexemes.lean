import DecoratorGraph.Json.Basic
import DecoratorGraph.Proofs.Json.Strings
import DecoratorGraph.Proofs.Text.Pieces
import Mathlib.Tactic.FinCases

/-!
# Reading the parts of a JSON text

Strings, names of members and the items of a list are read back in front of any text that may
follow them, in either layout. A layout puts blanks only where readers pass over them, so one
statement with unnamed blanks covers both.
-/

namespace DecoratorGraph

namespace JsonText

/-! ### Blanks -/

def Blank (s : List Char) : Prop := ∀ c ∈ s, isBlank c = true

theorem blank_nil : Blank [] := by simp [Blank]

theorem blank_newLine (layout : Json.Layout) (depth : Nat) : Blank (layout.newLine depth) := by
  cases layout with
  | compact => exact blank_nil
  | indented =>
      intro c hc
      rcases List.mem_cons.1 hc with rfl | hc
      · decide
      · rw [List.eq_of_mem_replicate hc]
        decide

theorem exists_blank_colon (layout : Json.Layout) : ∃ b, Blank b ∧ layout.colon = ':' :: b := by
  cases layout with
  | compact => exact ⟨[], blank_nil, rfl⟩
  | indented => exact ⟨[' '], by simp [Blank, isBlank], rfl⟩

theorem skipBlanks_append {b : List Char} (hb : Blank b) (s : List Char) :
    skipBlanks (b ++ s) = skipBlanks s :=
  List.dropWhile_append_of_pos hb

theorem skipBlanks_cons {c : Char} (h : isBlank c = false) (r : List Char) :
    skipBlanks (c :: r) = c :: r := by
  simp [skipBlanks, h]

/-! ### Strings -/

theorem hexDigit?_hexDigit : ∀ n < 16, hexDigit? (Json.hexDigit n) = some n := by decide

/-- A character is written by a letter behind a backslash, by its number, or as it is. -/
theorem character_cases (c : Char) :
    (∃ e, shortEscape? e = some c ∧ Json.character c = ['\\', e]) ∨
      (c.toNat < 0x20 ∧ Json.character c =
        ['\\', 'u', '0', '0', Json.hexDigit (c.toNat / 16), Json.hexDigit (c.toNat % 16)]) ∨
      (c ≠ '"' ∧ c ≠ '\\' ∧ ¬c.toNat < 0x20 ∧ Json.character c = [c]) := by
  by_cases hshort : c ∈ ['"', '\\', '\x08', '\x0c', '\n', '\r', '\t']
  · refine Or.inl ?_
    fin_cases hshort <;> exact ⟨_, rfl, rfl⟩
  · simp only [List.mem_cons, List.not_mem_nil, or_false, not_or] at hshort
    obtain ⟨hquote, hbackslash, hb, hf, hn, hr, ht⟩ := hshort
    refine Or.inr ?_
    by_cases hcontrol : c.toNat < 0x20
    · exact Or.inl ⟨hcontrol, by simp only [Json.character, if_neg, if_pos, *, not_false_eq_true]⟩
    · refine Or.inr ⟨hquote, hbackslash, hcontrol, ?_⟩
      simp only [Json.character, if_neg, *, not_false_eq_true]

/-- Writing a character spells it. -/
theorem spelling_character (c : Char) : Spelling c (Json.character c) := by
  rcases character_cases c with ⟨e, he, htext⟩ | ⟨hcontrol, htext⟩ | ⟨hquote, hbackslash, hc, htext⟩
  · rw [htext]
    exact .letter (shortEscape?_eq_some_iff.1 he)
  · have hhigh := hexDigit?_hexDigit (c.toNat / 16) (by omega)
    have hlow := hexDigit?_hexDigit (c.toNat % 16) (by omega)
    rw [htext]
    exact .code (code_iff.2 ⟨_, _, _, _, 0, 0, _, _, rfl, rfl, rfl, hhigh, hlow, by omega⟩)
  · rw [htext]
    exact .itself ⟨hquote, hbackslash, hc⟩

theorem spells_characters (s : List Char) : Spells s (s.flatMap Json.character) := by
  induction s with
  | nil => exact .nil
  | cons c s ih =>
      rw [List.flatMap_cons]
      exact ih.cons (spelling_character c)

theorem stringBody_characters (s : String) (rest : List Char) :
    stringBody (s.toList.flatMap Json.character ++ '"' :: rest) = .ok (s, rest) :=
  stringBody_of_spells (spells_characters s.toList) rest

theorem quoted_append (s : String) (rest : List Char) :
    Json.quoted s ++ rest = '"' :: (s.toList.flatMap Json.character ++ '"' :: rest) := by
  simp [Json.quoted]

/-- A string in quotes is read, whatever follows. -/
theorem string_quoted {b : List Char} (hb : Blank b) (expected s : String) (rest : List Char) :
    string expected (b ++ (Json.quoted s ++ rest)) = .ok (s, rest) := by
  rw [string, skipBlanks_append hb, quoted_append, skipBlanks_cons (by decide)]
  exact stringBody_characters s rest

/-! ### Items -/

def separated (b : List Char) : Bool → List (List Char) → List Char
  | _, [] => []
  | first, t :: ts => (if first then b else ',' :: b) ++ t ++ separated b false ts

theorem join_eq_separated (b t : List Char) (ts : List (List Char)) :
    Text.join (',' :: b) (t :: ts) = t ++ separated b false ts := by
  induction ts generalizing t with
  | nil => simp [Text.join, separated]
  | cons u ts ih =>
      rw [Text.join_cons_of_ne_nil _ _ (List.cons_ne_nil u ts), ih]
      simp [separated]

/-- Between the brackets of a list stand its items and then blanks. -/
theorem exists_blank_enclosed (layout : Json.Layout) (depth : Nat) (opening closing : Char)
    (items : List (List Char)) :
    ∃ b, Blank b ∧ Json.enclosed layout depth opening closing items =
      opening :: (separated (layout.newLine (depth + 1)) true items ++ (b ++ [closing])) := by
  cases items with
  | nil => exact ⟨[], blank_nil, rfl⟩
  | cons t ts =>
      refine ⟨layout.newLine depth, blank_newLine layout depth, ?_⟩
      simp only [Json.enclosed, join_eq_separated, separated, if_true, List.cons_append,
        List.append_assoc]

theorem length_le_separated_of_mem {β : Type} (write : β → List Char) {x : β} {l : List β}
    (h : x ∈ l) (b : List Char) (first : Bool) :
    (write x).length ≤ (separated b first (l.map write)).length := by
  induction l generalizing first with
  | nil => cases h
  | cons y l ih =>
      rw [List.map_cons, separated, List.length_append, List.length_append]
      rcases List.mem_cons.1 h with rfl | h
      · omega
      · have hl := ih h false
        omega

theorem length_le_separated {β : Type} (write : β → List Char) {l : List β}
    (h : ∀ x ∈ l, write x ≠ []) (b : List Char) (first : Bool) :
    l.length ≤ (separated b first (l.map write)).length := by
  induction l generalizing first with
  | nil => exact Nat.zero_le _
  | cons x l ih =>
      have hx := List.length_pos_iff.2 (h x List.mem_cons_self)
      have hl := ih (fun y hy => h y (List.mem_cons_of_mem _ hy)) false
      rw [List.map_cons, separated, List.length_append, List.length_append, List.length_cons]
      omega

/-- What may follow a value: anything but a digit, which would go on with a number. -/
def Ends (rest : List Char) : Prop := ∀ c, rest.head? = some c → c.isDigit = false

theorem ends_nil : Ends [] := by simp [Ends]

theorem ends_cons {c : Char} (h : c.isDigit = false) (r : List Char) : Ends (c :: r) := by
  rintro d hd
  rw [List.head?_cons, Option.some.injEq] at hd
  rwa [← hd]

theorem isDigit_of_isBlank {c : Char} (h : isBlank c = true) : c.isDigit = false := by
  simp only [isBlank, Bool.or_eq_true, beq_iff_eq] at h
  rcases h with ((rfl | rfl) | rfl) | rfl <;> decide

theorem Blank.ends {b : List Char} (hb : Blank b) {r : List Char} (hr : Ends r) :
    Ends (b ++ r) := by
  cases b with
  | nil => exact hr
  | cons c b => exact ends_cons (isDigit_of_isBlank (hb c List.mem_cons_self)) _

theorem ends_separated (b : List Char) (ts : List (List Char)) {r : List Char} (hr : Ends r) :
    Ends (separated b false ts ++ r) := by
  cases ts with
  | nil => exact hr
  | cons t ts =>
      simp only [separated, List.cons_append, Bool.false_eq_true, if_false]
      exact ends_cons (by decide) _

def Begins (s : List Char) : Prop := ∃ c r, s = c :: r ∧ isBlank c = false ∧ c ≠ ']'

theorem begins_quoted (s : String) : Begins (Json.quoted s) :=
  ⟨'"', _, rfl, by decide, by decide⟩

/-- What stands in front of an item: blanks, and among them a comma unless it is the first. -/
def Lead : Bool → List Char → Prop
  | true, s => Blank s
  | false, s => ∃ b a, Blank b ∧ Blank a ∧ s = b ++ ',' :: a

theorem Blank.lead {b : List Char} (hb : Blank b) (first : Bool) :
    Lead first (if first then b else ',' :: b) := by
  cases first with
  | true => exact hb
  | false => exact ⟨[], b, blank_nil, hb, rfl⟩

theorem nextItem_lead {first : Bool} {lead : List Char} (hlead : Lead first lead) {t : List Char}
    (ht : Begins t) (r : List Char) : nextItem first (lead ++ (t ++ r)) = .ok (true, t ++ r) := by
  obtain ⟨c, t, rfl, hblank, hclose⟩ := ht
  have hskip {b : List Char} (hb : Blank b) : skipBlanks (b ++ (c :: t ++ r)) = c :: (t ++ r) := by
    rw [skipBlanks_append hb, List.cons_append, skipBlanks_cons hblank]
  cases first with
  | true =>
      rw [nextItem, hskip hlead]
      split <;> simp_all
  | false =>
      obtain ⟨b, a, hb, ha, rfl⟩ := hlead
      have hcomma : skipBlanks (b ++ ',' :: (a ++ (c :: t ++ r))) =
          ',' :: (a ++ (c :: t ++ r)) := by
        rw [skipBlanks_append hb, skipBlanks_cons (by decide)]
      rw [List.append_assoc, List.cons_append, nextItem, hcomma]
      simp only [Char.reduceEq, imp_self, Bool.false_eq_true, if_false, if_true, hskip ha]
      split <;> simp_all

theorem nextItem_item {b : List Char} (hb : Blank b) {t : List Char} (ht : Begins t) (first : Bool)
    (r : List Char) :
    nextItem first ((if first then b else ',' :: b) ++ (t ++ r)) = .ok (true, t ++ r) :=
  nextItem_lead (hb.lead first) ht r

theorem nextItem_end {b : List Char} (hb : Blank b) (first : Bool) (r : List Char) :
    nextItem first (b ++ ']' :: r) = .ok (false, ']' :: r) := by
  rw [nextItem, skipBlanks_append hb, skipBlanks_cons (by decide)]
  rfl

/-- The items of an array are read, if each is read in front of what may follow it. -/
theorem items_separated {α β : Type} {reader : Reader α} {write : β → List Char} (value : β → α)
    {l : List β} {b b' : List Char} (hb : Blank b) (hb' : Blank b')
    (hwrite : ∀ x ∈ l, Begins (write x))
    (hread : ∀ x ∈ l, ∀ rest, Ends rest → reader (write x ++ rest) = .ok (value x, rest))
    {fuel : Nat} (hfuel : l.length < fuel) (first : Bool) (rest : List Char) :
    items reader fuel first (separated b first (l.map write) ++ (b' ++ ']' :: rest)) =
      .ok (l.map value, ']' :: rest) := by
  obtain ⟨fuel, rfl⟩ := Nat.exists_eq_add_of_lt (Nat.zero_lt_of_lt hfuel)
  rw [Nat.zero_add] at hfuel ⊢
  induction l generalizing fuel first with
  | nil =>
      rw [List.map_nil, separated, List.nil_append, items, nextItem_end hb']
      rfl
  | cons x l ih =>
      have hends : Ends (separated b false (l.map write) ++ (b' ++ ']' :: rest)) :=
        ends_separated b _ (hb'.ends (ends_cons (by decide) rest))
      have hfuel' : l.length < fuel := Nat.lt_of_succ_lt_succ hfuel
      obtain ⟨fuel, rfl⟩ := Nat.exists_eq_add_of_lt (Nat.zero_lt_of_lt hfuel')
      rw [Nat.zero_add] at hfuel' ⊢
      have hl := ih (fun y hy => hwrite y (List.mem_cons_of_mem _ hy))
        (fun y hy => hread y (List.mem_cons_of_mem _ hy)) false fuel hfuel'
      rw [List.map_cons, separated, List.append_assoc, List.append_assoc, items,
        nextItem_item hb (hwrite x List.mem_cons_self)]
      simp only [Except.bind, bind, if_true, hread x List.mem_cons_self _ hends, hl, List.map_cons]

/-! ### Names of members -/

theorem nextName_lead {first : Bool} {lead : List Char} (hlead : Lead first lead)
    (r : List Char) :
    nextName first (lead ++ '"' :: r) =
      (do
        let (name, r) ← stringBody r
        .ok (some name, r)) := by
  have hskip {b : List Char} (hb : Blank b) : skipBlanks (b ++ '"' :: r) = '"' :: r := by
    rw [skipBlanks_append hb, skipBlanks_cons (by decide)]
  cases first with
  | true =>
      rw [nextName, hskip hlead]
      rfl
  | false =>
      obtain ⟨b, a, hb, ha, rfl⟩ := hlead
      have hcomma : skipBlanks (b ++ ',' :: (a ++ '"' :: r)) = ',' :: (a ++ '"' :: r) := by
        rw [skipBlanks_append hb, skipBlanks_cons (by decide)]
      rw [List.append_assoc, List.cons_append, nextName, hcomma]
      simp only [Char.reduceEq, imp_self, Bool.false_eq_true, if_false, if_true, hskip ha]

theorem nextName_quoted {b : List Char} (hb : Blank b) (first : Bool) (name : String)
    (r : List Char) :
    nextName first ((if first then b else ',' :: b) ++ (Json.quoted name ++ r)) =
      .ok (some name, r) := by
  rw [quoted_append, nextName_lead (hb.lead first), stringBody_characters]
  rfl

theorem nextName_end {b : List Char} (hb : Blank b) (first : Bool) (r : List Char) :
    nextName first (b ++ '}' :: r) = .ok (none, '}' :: r) := by
  rw [nextName, skipBlanks_append hb, skipBlanks_cons (by decide)]
  rfl

theorem colon_append {b : List Char} (hb : Blank b) (r : List Char) :
    colon (b ++ ':' :: r) = .ok ((), r) := by
  rw [colon, skipBlanks_append hb, skipBlanks_cons (by decide)]
  rfl

theorem colon_cons (r : List Char) : colon (':' :: r) = .ok ((), r) := colon_append blank_nil r

end JsonText

end DecoratorGraph
