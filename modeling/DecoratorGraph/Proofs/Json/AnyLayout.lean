import DecoratorGraph.Proofs.Json.Grammar

/-!
# Reading records from texts in any layout

An object may have its members in any order, and leave out those that may be `null`. `ObjectOf`
says so of a text, for fields whose texts are given. A record is read from each such text to the
same value (`Shape.takes_objectOf`), since members are read one after the other whatever their
layout is (`Shape.Sets.members`). Whatever object of JSON a record is read from, its members are
fields of the record, each there once (`Shape.members_exact`).
-/

namespace DecoratorGraph.JsonText

/-! ### Texts of fields -/

def StringOf (value : String) (v : List Char) : Prop :=
  ∃ s, Spells value.toList s ∧ v = '"' :: (s ++ ['"'])

theorem stringOf_of_plain {value : String} (h : value.toList.all fun c => decide (IsPlain c)) :
    StringOf value ('"' :: (value.toList ++ ['"'])) := ⟨_, spells_of_plain h, rfl⟩

/-- The text of what may be there, with `null` for what is not. -/
def OrNull {α : Type} (text : α → List Char → Prop) : Option α → List Char → Prop
  | none, v => v = ['n', 'u', 'l', 'l']
  | some a, v => text a v

def Apart (m m' : List Char × List Char) : Prop :=
  ∀ name : String, Spells name.toList m.1 → ¬Spells name.toList m'.1

/-- The text of an object whose members are these fields, in any order, each with a text of its
value. A field that may be `null` may be left out. -/
def ObjectOf (fields : List (String × (List Char → Prop))) (v : List Char) : Prop :=
  ∃ ms, ObjectText ms v ∧ ms.Pairwise Apart ∧
    (∀ m ∈ ms, ∃ f ∈ fields, Spells f.1.toList m.1 ∧ f.2 m.2) ∧
    ∀ f ∈ fields, (∃ m ∈ ms, Spells f.1.toList m.1) ∨ f.2 ['n', 'u', 'l', 'l']

/-- An object with members for some of the fields has the fields, if the others may be `null`. -/
theorem objectOf_of_members {fields : List (String × (List Char → Prop))}
    {l : List ((String × (List Char → Prop)) × List Char × List Char)} {v : List Char}
    (htext : ObjectText (l.map Prod.snd) v)
    (hl : ∀ p ∈ l, p.1 ∈ fields ∧ Spells p.1.1.toList p.2.1 ∧ p.1.2 p.2.2)
    (hnodup : (l.map fun p => p.1.1).Nodup)
    (hrest : ∀ f ∈ fields, f ∈ l.map Prod.fst ∨ f.2 ['n', 'u', 'l', 'l']) : ObjectOf fields v := by
  refine ⟨_, htext, ?_, List.forall_mem_map.2 fun p hp => ⟨p.1, hl p hp⟩, fun f hf => ?_⟩
  · refine List.pairwise_map.2 ((List.pairwise_map.1 hnodup).imp_of_mem ?_)
    intro p q hp hq hne name hname hname'
    exact hne ((hname.unique (hl p hp).2.1).symm.trans (hname'.unique (hl q hq).2.1))
  · refine (hrest f hf).imp (fun h => ?_) id
    obtain ⟨p, hp, rfl⟩ := List.mem_map.1 h
    exact ⟨p.2, List.mem_map_of_mem hp, (hl p hp).2.1⟩

/-- Texts that begin like values other than `null`. -/
def Present {α : Type} (text : α → List Char → Prop) : Prop :=
  ∀ a v, text a v → ∃ c r, v = c :: r ∧ isBlank c = false ∧ c ≠ 'n'

theorem present_stringOf : Present StringOf := by
  rintro value _ ⟨s, -, rfl⟩
  exact ⟨'"', _, rfl, by decide, by decide⟩

theorem present_objectOf {α : Type} (fields : α → List (String × (List Char → Prop))) :
    Present fun a => ObjectOf (fields a) := by
  rintro a _ ⟨ms, ⟨s, -, rfl⟩, -⟩
  exact ⟨'\x7b', _, rfl, by decide, by decide⟩

theorem Present.orNull_null_iff {α : Type} {text : α → List Char → Prop} (h : Present text)
    {x : Option α} : OrNull text x ['n', 'u', 'l', 'l'] ↔ x = none := by
  cases x with
  | none => exact ⟨fun _ => rfl, fun _ => rfl⟩
  | some a =>
      refine ⟨fun htext => ?_, fun h => (Option.some_ne_none a h).elim⟩
      obtain ⟨c, r, hcr, -, hc⟩ := h a _ htext
      cases hcr
      exact (hc rfl).elim

/-! ### Readers and the texts they take -/

section Readers

variable {α : Type} {reader : Reader α} {text : List Char → Prop} {x : α}
  {b r rest s v : List Char}

/-- The reader takes each of the texts, whatever follows it, and gives `x` for it. -/
def Takes (reader : Reader α) (text : List Char → Prop) (x : α) : Prop :=
  ∀ v, text v → ∀ b, Blank b → ∀ rest, reader (b ++ (v ++ rest)) = .ok (x, rest)

/-- Where the reader takes anything of a value, it takes all of it and nothing else. -/
def Exact (reader : Reader α) : Prop :=
  ∀ v, IsValue v → ∀ b, Blank b → ∀ rest x r, reader (b ++ (v ++ rest)) = .ok (x, r) → r = rest

def Accepts (reader : Reader α) (v : List Char) : Prop :=
  ∃ b rest x r, Blank b ∧ reader (b ++ (v ++ rest)) = .ok (x, r)

theorem skipBlanks_blank_cons {c : Char} (hb : Blank b) (hc : isBlank c = false) (r : List Char) :
    skipBlanks (b ++ c :: r) = c :: r := by
  rw [skipBlanks_append hb, skipBlanks_cons hc]

theorem refuse_ne_ok (expected : String) (s : List Char) (p : α × List Char) :
    refuse expected s ≠ .ok p := by
  intro h
  obtain ⟨_, -, hp⟩ := bind_eq_ok_iff.1 h
  cases hp

theorem takes_string (expected value : String) :
    Takes (string expected) (StringOf value) value := by
  rintro _ ⟨s, hs, rfl⟩ b hb rest
  rw [List.cons_append, List.append_assoc, string, skipBlanks_blank_cons hb (by decide)]
  exact stringBody_of_spells hs rest

theorem takes_optional {text : α → List Char → Prop} (htext : Present text)
    (h : ∀ a, Takes reader (text a) a) (x : Option α) :
    Takes (optional reader) (OrNull text x) x := by
  intro v hv b hb rest
  cases x with
  | none =>
      cases hv
      rw [optional, List.cons_append, skipBlanks_blank_cons hb (by decide)]
      rfl
  | some a =>
      have hread := h a v hv b hb rest
      obtain ⟨c, r, rfl, hblank, hc⟩ := htext a v hv
      rw [optional, List.cons_append, skipBlanks_blank_cons hb hblank]
      split
      · next heq =>
          cases heq
          exact (hc rfl).elim
      · rw [List.cons_append] at hread
        rw [hread]
        rfl

theorem exact_string (expected : String) : Exact (string expected) := by
  have hrefused {c : Char} (hblank : isBlank c = false) (hc : c ≠ '"') {b : List Char}
      (hb : Blank b) {r : List Char} {p : String × List Char} :
      string expected (b ++ c :: r) ≠ .ok p := by
    rw [string, skipBlanks_blank_cons hb hblank]
    split
    · next heq =>
        cases heq
        exact (hc rfl).elim
    · exact refuse_ne_ok expected _ p
  intro v hv b hb rest x r h
  rcases hv.cases_head with rfl | ⟨s, hs, rfl⟩ | ⟨values, s, -, -, rfl⟩ | ⟨ms, ⟨s, -, rfl⟩, -⟩ |
    ⟨c, v, rfl, hc⟩
  · exact (hrefused (by decide) (by decide) hb h).elim
  · rw [List.cons_append, List.append_assoc, string, skipBlanks_blank_cons hb (by decide)] at h
    exact (stringBody_exact hs h).1
  · exact (hrefused (by decide) (by decide) hb h).elim
  · exact (hrefused (by decide) (by decide) hb h).elim
  · exact (hrefused hc.isBlank_eq_false (hc.ne (by decide)) hb h).elim

/-- Where an optional value is taken it is `null`, or its reader takes it. -/
theorem optional_cases (hv : IsValue v) (hb : Blank b) {p : Option α × List Char}
    (h : optional reader (b ++ (v ++ rest)) = .ok p) :
    (v = ['n', 'u', 'l', 'l'] ∧ p = (none, rest)) ∨
      ∃ x, reader (b ++ (v ++ rest)) = .ok (x, p.2) ∧ p.1 = some x := by
  have hpresent {c : Char} (hblank : isBlank c = false) (hc : c ≠ 'n') {s : List Char}
      (h : optional reader (b ++ c :: s) = .ok p) :
      ∃ x, reader (b ++ c :: s) = .ok (x, p.2) ∧ p.1 = some x := by
    rw [optional, skipBlanks_blank_cons hb hblank] at h
    split at h
    · next heq =>
        cases heq
        exact (hc rfl).elim
    · obtain ⟨⟨x, r⟩, hread, hp⟩ := bind_eq_ok_iff.1 h
      cases hp
      exact ⟨x, hread, rfl⟩
  rcases hv.cases_head with rfl | ⟨s, -, rfl⟩ | ⟨values, s, -, -, rfl⟩ | ⟨ms, ⟨s, -, rfl⟩, -⟩ |
    ⟨c, v, rfl, hc⟩
  · rw [optional, List.cons_append, skipBlanks_blank_cons hb (by decide)] at h
    cases h
    exact Or.inl ⟨rfl, rfl⟩
  · exact Or.inr (hpresent (by decide) (by decide) h)
  · exact Or.inr (hpresent (by decide) (by decide) h)
  · exact Or.inr (hpresent (by decide) (by decide) h)
  · exact Or.inr (hpresent hc.isBlank_eq_false (hc.ne (by decide)) h)

theorem Exact.optional (h : Exact reader) : Exact (optional reader) := by
  intro v hv b hb rest x r hread
  rcases optional_cases hv hb hread with ⟨-, hnone⟩ | ⟨a, ha, -⟩
  · cases hnone
    rfl
  · exact h v hv b hb rest a r ha

end Readers

/-! ### Records -/

section Records

variable {σ : Type} {shape : Shape σ} {fields : List (String × (List Char → Prop))}
  {first : Bool} {fuel : Nat} {names seen : List String} {state state' x : σ}
  {b r rest s v : List Char} {ms : List (List Char × List Char)}

inductive Shape.Sets (shape : Shape σ) :
    List String → List (List Char × List Char) → σ → σ → Prop
  | nil (state : σ) : Sets shape [] [] state state
  | cons {name : String} {names : List String} {field : Field σ} {m : List Char × List Char}
      {ms : List (List Char × List Char)} {state state' state'' : σ}
      (hname : Spells name.toList m.1)
      (hfind : (shape.fields.find? fun f => f.name == name) = some field)
      (hread : Takes (field.read state) (· = m.2) state')
      (h : Sets shape names ms state' state'') :
      Sets shape (name :: names) (m :: ms) state state''

/-- Members are read one after the other, if no name comes twice. -/
theorem Shape.Sets.members (h : shape.Sets names ms state state') (htext : MembersText first ms s)
    (hnodup : names.Nodup) (hseen : ∀ name ∈ names, name ∉ seen) (hfuel : ms.length < fuel)
    (rest : List Char) :
    shape.members fuel first seen state (s ++ '\x7d' :: rest) =
      .ok ((names.reverse ++ seen, state'), '\x7d' :: rest) := by
  induction h generalizing first s seen fuel with
  | nil state =>
      obtain ⟨fuel, rfl⟩ := Nat.exists_eq_add_of_lt hfuel
      cases htext with
      | nil hb =>
          rw [Shape.members, nextName_end hb]
          rfl
  | @cons name names field m ms state state₁ state' hname hfind hread _ ih =>
      obtain ⟨fuel, rfl⟩ := Nat.exists_eq_add_of_lt (Nat.zero_lt_of_lt hfuel)
      obtain ⟨hnew, hnodup⟩ := List.nodup_cons.1 hnodup
      obtain ⟨hname', hseen⟩ := List.forall_mem_cons.1 hseen
      have hunseen : seen.contains name = false := by simpa using hname'
      -- The names to come stay apart from those that have been seen.
      have hseen' : ∀ other ∈ names, other ∉ name :: seen := by
        intro other hother hmem
        rcases List.mem_cons.1 hmem with rfl | hmem
        · exact hnew hother
        · exact hseen other hother hmem
      cases htext with
      | @cons _ _ lead b a s _ hlead hb ha htext =>
          have hmembers := ih htext hnodup hseen' (Nat.lt_of_succ_lt_succ hfuel)
          simp only [List.append_assoc, List.cons_append]
          rw [Shape.members, nextName_lead hlead, stringBody_of_spells hname]
          simp only [Except.bind, bind, hfind, hunseen, Bool.false_eq_true, if_false,
            colon_append hb, hread m.2 rfl a ha, hmembers]
          simp

/-- A record is read from the text of an object, if its members set the fields of the record and
none that is needed is missing. -/
theorem Shape.Sets.read (h : shape.Sets names ms shape.start state) (hnodup : names.Nodup)
    (hneeded : ∀ name ∈ shape.needed, name ∈ names) : Takes shape.read (ObjectText ms) state := by
  rintro _ ⟨s, htext, rfl⟩ b hb rest
  have hfuel : ms.length < (s ++ '\x7d' :: rest).length + 1 := by
    have hlength := htext.length_le
    rw [List.length_append]
    omega
  have hmembers := h.members htext hnodup (fun _ _ => List.not_mem_nil) hfuel rest
  have hfound : (shape.needed.find? fun name => !(names.reverse ++ []).contains name) = none := by
    rw [List.find?_eq_none]
    intro name hname
    simpa using hneeded name hname
  rw [List.cons_append, List.append_assoc, Shape.read, skipBlanks_blank_cons hb (by decide)]
  simp only [List.cons_append, List.nil_append, hmembers, Except.bind, bind, hfound]
  rfl

theorem Shape.Sets.exists_name (h : shape.Sets names ms state state') {m : List Char × List Char}
    (hm : m ∈ ms) : ∃ name ∈ names, Spells name.toList m.1 := by
  induction h with
  | nil state => cases hm
  | @cons name names field k ms state state₁ state' hname _ _ _ ih =>
      rcases List.mem_cons.1 hm with rfl | hm
      · exact ⟨name, List.mem_cons_self, hname⟩
      · obtain ⟨other, hother, hspells⟩ := ih hm
        exact ⟨other, List.mem_cons_of_mem _ hother, hspells⟩

theorem Shape.Sets.nodup (h : shape.Sets names ms state state') (hapart : ms.Pairwise Apart) :
    names.Nodup := by
  have hmember {names : List String} {ms : List (List Char × List Char)} {state state' : σ}
      (h : shape.Sets names ms state state') :
      ∀ name ∈ names, ∃ m ∈ ms, Spells name.toList m.1 := by
    induction h with
    | nil state => exact List.forall_mem_nil _
    | @cons name names field m ms state state₁ state' hname _ _ _ ih =>
        refine List.forall_mem_cons.2 ⟨⟨m, List.mem_cons_self, hname⟩, fun other hother => ?_⟩
        obtain ⟨k, hk, hspells⟩ := ih other hother
        exact ⟨k, List.mem_cons_of_mem _ hk, hspells⟩
  induction h with
  | nil state => exact .nil
  | @cons name names field m ms state state₁ state' hname _ _ hrest ih =>
      obtain ⟨hm, hapart⟩ := List.pairwise_cons.1 hapart
      refine List.nodup_cons.2 ⟨fun hagain => ?_, ih hapart⟩
      obtain ⟨k, hk, hspells⟩ := hmember hrest name hagain
      exact hm k hk name hname hspells

/-- Reading a text of one of the fields brings the record from one view to the next: a view is what
has been read when the fields have been read that are listed. -/
def Shape.Advances (shape : Shape σ) (view : List String → σ)
    (f : String × (List Char → Prop)) : Prop :=
  ∃ field, (shape.fields.find? fun g => g.name == f.1) = some field ∧
    ∀ seen, Takes (field.read (view seen)) f.2 (view (f.1 :: seen))

theorem Shape.exists_sets {view : List String → σ} (hfields : ∀ f ∈ fields, shape.Advances view f)
    (hms : ∀ m ∈ ms, ∃ f ∈ fields, Spells f.1.toList m.1 ∧ f.2 m.2) (seen : List String) :
    ∃ names, shape.Sets names ms (view seen) (view (names.reverse ++ seen)) := by
  induction ms generalizing seen with
  | nil => exact ⟨[], .nil _⟩
  | cons m ms ih =>
      obtain ⟨⟨f, hf, hname, htext⟩, hms⟩ := List.forall_mem_cons.1 hms
      obtain ⟨field, hfind, hread⟩ := hfields f hf
      obtain ⟨names, hsets⟩ := ih hms (f.1 :: seen)
      have hm : Takes (field.read (view seen)) (· = m.2) (view (f.1 :: seen)) := by
        rintro _ rfl
        exact hread seen m.2 htext
      exact ⟨f.1 :: names, .cons hname hfind hm (by simpa using hsets)⟩

/-- A record is read to one value from all texts that give its fields, if it is the view of all
names whose fields are there. -/
theorem Shape.takes_objectOf (view : List String → σ) (hneeded : shape.needed = [])
    (hstart : shape.start = view []) (hfields : ∀ f ∈ fields, shape.Advances view f)
    (hview : ∀ seen, (∀ f ∈ fields, f.1 ∈ seen ∨ f.2 ['n', 'u', 'l', 'l']) → view seen = state) :
    Takes shape.read (ObjectOf fields) state := by
  rintro v ⟨ms, htext, hapart, hms, hpresent⟩
  obtain ⟨names, hsets⟩ := Shape.exists_sets hfields hms []
  have hstate : view (names.reverse ++ []) = state := by
    refine hview _ fun f hf => (hpresent f hf).imp ?_ id
    rintro ⟨m, hm, hspells⟩
    obtain ⟨name, hname, hspells'⟩ := hsets.exists_name hm
    rw [hspells.unique hspells']
    simpa using hname
  rw [hstate, ← hstart] at hsets
  exact hsets.read (hsets.nodup hapart) (by simp [hneeded]) v htext

/-! What is read of an object of JSON. -/

theorem endObject_cons (r : List Char) : endObject ('\x7d' :: r) = .ok ((), r) := by
  rw [endObject, skipBlanks_cons (by decide)]
  rfl

/-- A member that is read is one of the record that has not been seen, and what follows it is read
from where its value ends. -/
theorem Shape.member_exact (hclosed : shape.closed = true)
    (hexact : ∀ field ∈ shape.fields, ∀ state, Exact (field.read state))
    {m : List Char × List Char} {lead a : List Char} {p : List String × σ} (hlead : Lead first lead)
    (hname : StringText m.1) (hb : Blank b) (ha : Blank a) (hvalue : IsValue m.2)
    (h : shape.members (fuel + 1) first seen state
      (lead ++ '"' :: (m.1 ++ '"' :: (b ++ ':' :: (a ++ (m.2 ++ rest))))) = .ok (p, r)) :
    ∃ field ∈ shape.fields, Spells field.name.toList m.1 ∧ field.name ∉ seen ∧
      Accepts (field.read state) m.2 ∧
      ∃ state', shape.members fuel false (field.name :: seen) state' rest = .ok (p, r) := by
  rw [Shape.members, nextName_lead hlead] at h
  obtain ⟨⟨name?, r₁⟩, hnext, h⟩ := bind_eq_ok_iff.1 h
  obtain ⟨⟨name, r₂⟩, hbody, heq⟩ := bind_eq_ok_iff.1 hnext
  cases heq
  obtain ⟨rfl, hspells⟩ := stringBody_exact hname hbody
  dsimp only at h
  split at h
  · next field hfind =>
      have hfield := List.mem_of_find?_eq_some hfind
      obtain rfl : field.name = name := by simpa using List.find?_some hfind
      split at h
      · cases h
      · next hnew =>
          obtain ⟨⟨_, r₃⟩, hcolon, h⟩ := bind_eq_ok_iff.1 h
          rw [colon_append hb] at hcolon
          cases hcolon
          obtain ⟨⟨state', r₄⟩, hread, hrest⟩ := bind_eq_ok_iff.1 h
          obtain rfl := hexact field hfield state m.2 hvalue a ha _ _ _ hread
          rw [List.contains_iff_mem] at hnew
          exact ⟨field, hfield, hspells, hnew, ⟨a, _, _, _, ha, hread⟩, state', hrest⟩
  · rw [hclosed, if_pos rfl] at h
    cases h

/-- Members that are read are those of the record, and no two of them are the same. -/
theorem Shape.members_exact (hclosed : shape.closed = true)
    (hexact : ∀ field ∈ shape.fields, ∀ state, Exact (field.read state))
    (htext : MembersText first ms s) (hms : ∀ m ∈ ms, StringText m.1 ∧ IsValue m.2)
    {p : List String × σ}
    (h : shape.members fuel first seen state (s ++ '\x7d' :: rest) = .ok (p, r)) :
    r = '\x7d' :: rest ∧ ms.Pairwise Apart ∧ ∀ m ∈ ms, ∃ field ∈ shape.fields,
      Spells field.name.toList m.1 ∧ field.name ∉ seen ∧
        ∃ state, Accepts (field.read state) m.2 := by
  induction htext generalizing fuel seen state with
  | @nil first b hb =>
      cases fuel with
      | zero => cases h
      | succ fuel =>
          rw [Shape.members, nextName_end hb] at h
          cases h
          exact ⟨rfl, .nil, List.forall_mem_nil _⟩
  | @cons first m lead b a s ms hlead hb ha _ ih =>
      cases fuel with
      | zero => cases h
      | succ fuel =>
          obtain ⟨⟨hname, hvalue⟩, hms⟩ := List.forall_mem_cons.1 hms
          simp only [List.append_assoc, List.cons_append] at h
          obtain ⟨field, hfield, hspells, hnew, haccepts, state', h⟩ :=
            Shape.member_exact hclosed hexact hlead hname hb ha hvalue h
          obtain ⟨hr, hapart, hfields⟩ := ih hms h
          refine ⟨hr, List.pairwise_cons.2 ⟨fun k hk name hm hk' => ?_, hapart⟩,
            List.forall_mem_cons.2 ⟨⟨field, hfield, hspells, hnew, state, haccepts⟩, ?_⟩⟩
          -- A later member is read with this name among those that were seen.
          · obtain ⟨field', -, hspells', hnotMem, -⟩ := hfields k hk
            rw [hm.unique hspells] at hk'
            exact hnotMem (hspells'.unique hk' ▸ List.mem_cons_self)
          · intro k hk
            obtain ⟨field', hfield', hspells', hnotMem, haccepts'⟩ := hfields k hk
            exact ⟨field', hfield', hspells', fun hmem => hnotMem (List.mem_cons_of_mem _ hmem),
              haccepts'⟩

/-- Items of an array are read from the front, and what is left are the items behind them. -/
theorem Shape.elements_exact {l : List (Field σ)} {index : Nat} {values : List (List Char)}
    (hexact : ∀ field ∈ l, ∀ state, Exact (field.read state))
    (htext : ItemsText (index == 0) values s) (hvalues : ∀ value ∈ values, IsValue value)
    (h : shape.elements index l state (s ++ ']' :: rest) = .ok (x, r)) :
    ∃ first values' s', ItemsText first values' s' ∧ (∀ value ∈ values', IsValue value) ∧
      r = s' ++ ']' :: rest := by
  induction l generalizing index values s state with
  | nil =>
      cases h
      exact ⟨_, values, s, htext, hvalues, rfl⟩
  | cons field l ih =>
      cases htext with
      | nil hb =>
          rw [Shape.elements, nextItem_end hb] at h
          obtain ⟨⟨_, r₁⟩, hnext, h⟩ := bind_eq_ok_iff.1 h
          cases hnext
          dsimp only at h
          rw [if_neg Bool.false_ne_true] at h
          split at h
          · cases h
          · cases h
            exact ⟨true, [], [], .nil blank_nil, List.forall_mem_nil _, rfl⟩
      | @cons _ lead value s values hlead htext =>
          obtain ⟨hvalue, hvalues⟩ := List.forall_mem_cons.1 hvalues
          rw [List.append_assoc, List.append_assoc, Shape.elements,
            nextItem_lead hlead hvalue.begins] at h
          obtain ⟨⟨_, r₁⟩, hnext, h⟩ := bind_eq_ok_iff.1 h
          cases hnext
          dsimp only at h
          rw [if_pos rfl] at h
          obtain ⟨⟨state', r₂⟩, hread, h⟩ := bind_eq_ok_iff.1 h
          obtain rfl := hexact field List.mem_cons_self state value hvalue [] blank_nil _ _ _ hread
          have htext' : ItemsText (index + 1 == 0) values s := htext
          exact ih (fun field hfield => hexact field (List.mem_cons_of_mem _ hfield)) htext' hvalues
            h

/-- The end of an array is not found in front of another item. -/
theorem endArray_exact {values : List (List Char)} {u : Unit} (htext : ItemsText first values s)
    (hvalues : ∀ value ∈ values, IsValue value)
    (h : endArray (s ++ ']' :: rest) = .ok (u, r)) : r = rest := by
  have hmissing {b : List Char} (hb : Blank b) {c : Char} (hblank : isBlank c = false)
      (hc : c ≠ ']') {s : List Char} : endArray (b ++ c :: s) ≠ .ok (u, r) := by
    intro h
    rw [endArray, skipBlanks_blank_cons hb hblank] at h
    split at h
    · cases h
    · next heq =>
        cases heq
        exact hc rfl
    · cases h
  cases htext with
  | nil hb =>
      rw [endArray, skipBlanks_blank_cons hb (by decide)] at h
      cases h
      rfl
  | @cons _ lead value s values hlead htext =>
      obtain ⟨c, t, rfl, hblank, hclose⟩ := (hvalues value List.mem_cons_self).begins
      cases first with
      | true =>
          rw [List.append_assoc, List.append_assoc] at h
          exact (hmissing hlead hblank hclose h).elim
      | false =>
          obtain ⟨b, a, hb, ha, rfl⟩ := hlead
          rw [List.append_assoc, List.append_assoc] at h
          exact (hmissing hb (by decide) (by decide) h).elim

/-- What is read of an object is the whole object, and its members are those of the record. -/
theorem Shape.read_object_exact (hclosed : shape.closed = true)
    (hexact : ∀ field ∈ shape.fields, ∀ state, Exact (field.read state)) (hv : IsObject ms v)
    (hb : Blank b) (h : shape.read (b ++ (v ++ rest)) = .ok (x, r)) :
    r = rest ∧ ms.Pairwise Apart ∧ ∀ m ∈ ms, ∃ field ∈ shape.fields,
      Spells field.name.toList m.1 ∧ ∃ state, Accepts (field.read state) m.2 := by
  obtain ⟨⟨s, htext, rfl⟩, hms⟩ := hv
  rw [List.cons_append, List.append_assoc, List.cons_append, List.nil_append, Shape.read,
    skipBlanks_blank_cons hb (by decide)] at h
  obtain ⟨⟨⟨seen, state⟩, r₁⟩, hmembers, h⟩ := bind_eq_ok_iff.1 h
  obtain ⟨rfl, hapart, hfields⟩ := Shape.members_exact hclosed hexact htext hms hmembers
  dsimp only at h
  split at h
  · cases h
  · rw [endObject_cons] at h
    cases h
    refine ⟨rfl, hapart, fun m hm => ?_⟩
    obtain ⟨field, hfield, hspells, -, haccepts⟩ := hfields m hm
    exact ⟨field, hfield, hspells, haccepts⟩

/-- A record leaves behind what follows its text. An array is taken as well, item by item. -/
theorem Shape.exact_read (hclosed : shape.closed = true)
    (hexact : ∀ field ∈ shape.fields, ∀ state, Exact (field.read state)) : Exact shape.read := by
  have hrefused {c : Char} (hblank : isBlank c = false) (harray : c ≠ '[') (hobject : c ≠ '\x7b')
      {b : List Char} (hb : Blank b) {r : List Char} {p : σ × List Char} :
      shape.read (b ++ c :: r) ≠ .ok p := by
    rw [Shape.read, skipBlanks_blank_cons hb hblank]
    split
    · next heq =>
        cases heq
        exact (harray rfl).elim
    · next heq =>
        cases heq
        exact (hobject rfl).elim
    · exact refuse_ne_ok _ _ p
  intro v hv b hb rest x r h
  -- Only arrays and objects are taken for a record.
  rcases hv.cases_head with rfl | ⟨s, -, rfl⟩ | ⟨values, s, htext, hvalues, rfl⟩ | ⟨ms, hobject⟩ |
    ⟨c, v, rfl, hc⟩
  · exact (hrefused (by decide) (by decide) (by decide) hb h).elim
  · exact (hrefused (by decide) (by decide) (by decide) hb h).elim
  · rw [List.cons_append, List.append_assoc, List.cons_append, List.nil_append, Shape.read,
      skipBlanks_blank_cons hb (by decide)] at h
    obtain ⟨⟨state, r₁⟩, helements, h⟩ := bind_eq_ok_iff.1 h
    have htext₀ : ItemsText (0 == 0) values s := htext
    obtain ⟨first, values', s', htext', hvalues', rfl⟩ :=
      Shape.elements_exact hexact htext₀ hvalues helements
    obtain ⟨⟨_, r₂⟩, hend, h⟩ := bind_eq_ok_iff.1 h
    cases h
    exact endArray_exact htext' hvalues' hend
  · exact (Shape.read_object_exact hclosed hexact hobject hb h).1
  · exact (hrefused hc.isBlank_eq_false (hc.ne (by decide)) (hc.ne (by decide)) hb h).elim

end Records

end DecoratorGraph.JsonText
