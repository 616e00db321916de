import DecoratorGraph.Json.Record
import DecoratorGraph.Proofs.Json.AnyLayout
import DecoratorGraph.Proofs.Json.Value
import Mathlib.Data.Finset.Card
import Mathlib.Data.List.Dedup

/-!
# Reading documents back

The text of a document is read to the same value in either layout. Its records are read back as
the records that were written, in their order, where a category that is absent stays absent and an
empty one stays empty. The counts of the document are the number of records and the number of
places that their files name.
-/

namespace DecoratorGraph

/-! ### Reading an object by its fields -/

namespace JsonText

variable {σ : Type} (shape : Shape σ)

/-- The member belongs to a field of the record, whose reader takes the text of its value and sets
the field. -/
def Shape.Puts (m : String × Json) (state state' : σ) : Prop :=
  ∃ field, (shape.fields.find? fun f => f.name == m.1) = some field ∧
    ∀ layout depth gap, Blank gap → ∀ rest,
      field.read state (gap ++ (Json.render layout depth m.2 ++ rest)) = .ok (state', rest)

inductive Shape.PutsAll : List (String × Json) → σ → σ → Prop
  | nil (state : σ) : PutsAll [] state state
  | cons {m : String × Json} {l : List (String × Json)} {state state' state'' : σ}
      (head : shape.Puts m state state') (tail : PutsAll l state' state'') :
      PutsAll (m :: l) state state''

variable {shape}

theorem Shape.PutsAll.append {l k : List (String × Json)} {state state' state'' : σ}
    (hl : shape.PutsAll l state state') (hk : shape.PutsAll k state' state'') :
    shape.PutsAll (l ++ k) state state'' := by
  induction hl with
  | nil state => exact hk
  | cons head tail ih => exact .cons head (ih hk)

/-- The text between the quotes of the name of a member, and the text of its value. -/
def memberTexts (layout : Json.Layout) (depth : Nat) (m : String × Json) :
    List Char × List Char :=
  (m.1.toList.flatMap Json.character, Json.render layout depth m.2)

theorem membersText_separated (layout : Json.Layout) (depth : Nat) {b b' : List Char}
    (hb : Blank b) (hb' : Blank b') (l : List (String × Json)) (first : Bool) :
    MembersText first (l.map (memberTexts layout depth))
      (separated b first (l.map (Json.memberText layout depth)) ++ b') := by
  obtain ⟨gap, hgap, hcolon⟩ := exists_blank_colon layout
  induction l generalizing first with
  | nil => exact .nil hb'
  | cons m l ih =>
      have htext := MembersText.cons (m := memberTexts layout depth m) (hb.lead first) blank_nil
        hgap (ih false)
      rw [List.map_cons, List.map_cons, separated, Json.memberText, hcolon]
      simpa [quoted_append, memberTexts] using htext

theorem objectText_render (layout : Json.Layout) (depth : Nat) (l : List (String × Json)) :
    ObjectText (l.map (memberTexts layout (depth + 1))) (Json.render layout depth (.object l)) := by
  obtain ⟨e, he, htext⟩ := exists_blank_enclosed layout depth '\x7b' '\x7d'
    (l.map (Json.memberText layout (depth + 1)))
  have hb := blank_newLine layout (depth + 1)
  refine ⟨_, membersText_separated layout (depth + 1) hb he l true, ?_⟩
  rw [Json.render, Json.renderMembers_eq_map, htext, List.append_assoc]

theorem Shape.PutsAll.sets {l : List (String × Json)} {state state' : σ}
    (h : shape.PutsAll l state state') (layout : Json.Layout) (depth : Nat) :
    shape.Sets (l.map Prod.fst) (l.map (memberTexts layout depth)) state state' := by
  induction h with
  | nil state => exact .nil state
  | @cons m l state state₁ state' head _ ih =>
      obtain ⟨field, hfind, hread⟩ := head
      refine .cons (spells_characters m.1.toList) hfind ?_ ih
      rintro _ rfl b hb rest
      exact hread layout depth b hb rest

/-- A record is read from the text of an object, if the members of the object set its fields, each
once, and none that is needed is missing. -/
theorem Shape.read_object (layout : Json.Layout) (depth : Nat) {l : List (String × Json)}
    {state : σ} (hputs : shape.PutsAll l shape.start state) (hnodup : (l.map Prod.fst).Nodup)
    (hneeded : ∀ name ∈ shape.needed, name ∈ l.map Prod.fst) (rest : List Char) :
    shape.read (Json.render layout depth (.object l) ++ rest) = .ok (state, rest) :=
  (hputs.sets layout (depth + 1)).read hnodup hneeded _ (objectText_render layout depth l) []
    blank_nil rest

end JsonText

/-! ### Records -/

namespace Record

open JsonText

def putCategory (d : Dependencies) (entries : Option (List String)) : Category → Dependencies
  | .directives => { d with directives := entries }
  | .providers => { d with providers := entries }
  | .templateUrl => { d with templateUrl := entries }

theorem entriesReader_strings (layout : Json.Layout) (depth : Nat) (entries : List String)
    {gap : List Char} (hgap : Blank gap) (rest : List Char) :
    entriesReader (gap ++ (Json.render layout depth (.strings entries) ++ rest)) =
      .ok (some entries, rest) := by
  obtain ⟨e, he, htext⟩ := exists_blank_enclosed layout depth '[' ']' (entries.map Json.quoted)
  have hrender : Json.render layout depth (.strings entries) =
      Json.enclosed layout depth '[' ']' (entries.map Json.quoted) := by
    rw [Json.strings, Json.render, Json.renderItems_eq_map, List.map_map]
    rfl
  have hfuel : entries.length < (separated (layout.newLine (depth + 1)) true
      (entries.map Json.quoted) ++ (e ++ ']' :: rest)).length + 1 := by
    have hcount := length_le_separated Json.quoted
      (fun s (_ : s ∈ entries) => Json.quoted_ne_nil s) (layout.newLine (depth + 1)) true
    rw [List.length_append]
    omega
  have hread : ∀ s ∈ entries, ∀ rest, Ends rest →
      JsonText.string "a string" (Json.quoted s ++ rest) = .ok (s, rest) :=
    fun s _ rest _ => string_quoted blank_nil "a string" s rest
  have hitems := items_separated id (blank_newLine layout (depth + 1)) he
    (fun s _ => begins_quoted s) hread hfuel true rest
  rw [List.map_id] at hitems
  have hskip : skipBlanks (gap ++ (Json.render layout depth (.strings entries) ++ rest)) =
      '[' :: (separated (layout.newLine (depth + 1)) true (entries.map Json.quoted) ++
        (e ++ ']' :: rest)) := by
    rw [skipBlanks_append hgap, hrender, htext, List.cons_append, skipBlanks_cons (by decide)]
    simp only [List.append_assoc, List.cons_append, List.nil_append]
  have hlist : JsonText.list (JsonText.string "a string")
      (gap ++ (Json.render layout depth (.strings entries) ++ rest)) = .ok (entries, rest) := by
    rw [JsonText.list, hskip]
    simp only [hitems]
    rfl
  rw [entriesReader, JsonText.optional, hskip]
  simp only [hlist]
  rfl

theorem puts_category (c : Category) (entries : List String) (r : Record) :
    jsonShape.Puts (c.key, .strings entries)
      r ⟨r.name, r.file, putCategory r.dependencies (some entries) c⟩ := by
  cases c <;> refine ⟨_, rfl, fun layout depth gap hgap rest => ?_⟩ <;>
    simp only [entriesReader_strings layout depth entries hgap] <;> rfl

theorem puts_name (name : String) (r : Record) :
    jsonShape.Puts ("name", .string name) r ⟨name, r.file, r.dependencies⟩ := by
  refine ⟨_, rfl, fun layout depth gap hgap rest => ?_⟩
  simp only [Json.render, string_quoted hgap]
  rfl

theorem puts_file (file : Path) (r : Record) :
    jsonShape.Puts ("file", .string file.text) r ⟨r.name, file, r.dependencies⟩ := by
  refine ⟨_, rfl, fun layout depth gap hgap rest => ?_⟩
  simp only [Json.render, string_quoted hgap]
  rfl

/-- The member of a category sets the category; without one it stays absent. -/
theorem putsAll_category (r s : Record) {c : Category} (h : s.dependencies.get? c = none) :
    jsonShape.PutsAll (r.categoryMember c)
      s ⟨s.name, s.file, putCategory s.dependencies (r.dependencies.get? c) c⟩ := by
  rw [categoryMember]
  cases r.dependencies.get? c with
  | none =>
      have hsame : putCategory s.dependencies none c = s.dependencies := by
        rw [← h]
        cases c <;> rfl
      rw [hsame]
      exact .nil s
  | some entries => exact .cons (puts_category c entries s) (.nil _)

def members (r : Record) : List (String × Json) :=
  r.categoryMember .directives ++ [("file", .string r.file.text), ("name", .string r.name)] ++
    r.categoryMember .providers ++ r.categoryMember .templateUrl

/-- The members of a record set its fields. -/
theorem putsAll_members (r : Record) : jsonShape.PutsAll r.members jsonShape.start r := by
  have hdirectives := putsAll_category r jsonShape.start (c := .directives) rfl
  have hfile := puts_file r.file
    ⟨"", ⟨""⟩, putCategory {} r.dependencies.directives .directives⟩
  have hname := puts_name r.name
    ⟨"", r.file, putCategory {} r.dependencies.directives .directives⟩
  have hproviders := putsAll_category r
    ⟨r.name, r.file, putCategory {} r.dependencies.directives .directives⟩ (c := .providers) rfl
  have htemplate := putsAll_category r
    ⟨r.name, r.file, putCategory (putCategory {} r.dependencies.directives .directives)
      r.dependencies.providers .providers⟩ (c := .templateUrl) rfl
  exact ((hdirectives.append (.cons hfile (.cons hname (.nil _)))).append hproviders).append
    htemplate

theorem names_categoryMember (r : Record) (c : Category) :
    ((r.categoryMember c).map Prod.fst).Sublist [c.key] := by
  rw [categoryMember]
  cases r.dependencies.get? c with
  | none => exact List.nil_sublist _
  | some entries => exact List.Sublist.refl _

theorem nodup_names (r : Record) : (r.members.map Prod.fst).Nodup := by
  have hnames : (r.members.map Prod.fst).Sublist
      ["directives", "file", "name", "providers", "templateUrl"] := by
    simp only [members, List.map_append]
    exact (((names_categoryMember r .directives).append
      (List.Sublist.refl ["file", "name"])).append (names_categoryMember r .providers)).append
        (names_categoryMember r .templateUrl)
  exact hnames.nodup (by decide)

/-- A record is read back from its text, in either layout. -/
theorem ofJsonText_text (layout : Json.Layout) (r : Record) :
    ofJsonText (r.toJson.text layout) = .ok r := by
  have hneeded : ∀ name ∈ jsonShape.needed, name ∈ r.members.map Prod.fst := by
    intro name hname
    simp only [jsonShape, List.mem_cons, List.not_mem_nil, or_false] at hname
    rcases hname with rfl | rfl <;> simp [members]
  have hread := Shape.read_object layout 0 (putsAll_members r) (nodup_names r) hneeded []
  have hjson : r.toJson = .object r.members := rfl
  rw [List.append_nil] at hread
  rw [ofJsonText, readAll, Json.text, String.toList_ofList, hjson, hread]
  rfl

end Record

/-! ### Counting places -/

instance Path.setoid : Setoid Path where
  r p q := p.same q = true
  iseqv := ⟨Path.same_refl, Path.same_symm, Path.same_trans⟩

instance : DecidableRel ((· ≈ ·) : Path → Path → Prop) :=
  fun p q => inferInstanceAs (Decidable (p.same q = true))

/-- The places that paths name: the classes of paths that name one place. -/
def places (paths : List Path) : Finset (Quotient Path.setoid) :=
  (paths.map (Quotient.mk Path.setoid)).toFinset

theorem countPlaces_eq_card (paths : List Path) :
    Record.countPlaces paths = (places paths).card := by
  induction paths with
  | nil => rfl
  | cons p paths ih =>
      have hmem : Quotient.mk Path.setoid p ∈ places paths ↔ paths.any p.same = true := by
        simp only [places, List.mem_toFinset, List.mem_map, List.any_eq_true]
        constructor
        · rintro ⟨q, hq, h⟩
          exact ⟨q, hq, Path.same_symm (Quotient.exact h)⟩
        · rintro ⟨q, hq, h⟩
          exact ⟨q, hq, Quotient.sound (Path.same_symm h)⟩
      have hcons : places (p :: paths) = insert (Quotient.mk Path.setoid p) (places paths) := by
        simp [places]
      rw [Record.countPlaces, hcons]
      by_cases hp : paths.any p.same = true
      · rw [if_pos hp, ih, Finset.insert_eq_of_mem (hmem.2 hp)]
      · rw [if_neg hp, ih, Finset.card_insert_of_notMem (mt hmem.1 hp)]

/-! ### Documents -/

namespace Json

def member? (name : String) : Json → Option Json
  | .object members => members.lookup name
  | _ => none

/-! No line ends inside a string or between the parts of a compact text. -/

theorem newline_not_mem_character (c : Char) : '\n' ∉ character c := by
  have hdigit : ∀ n < 16, hexDigit n ≠ '\n' := by decide
  rcases JsonText.character_cases c with ⟨e, he, htext⟩ | ⟨hcontrol, htext⟩ | ⟨-, -, hc, htext⟩
  · have hne : e ≠ '\n' := by
      rintro rfl
      cases he
    simp [htext, hne.symm]
  · have hhigh := hdigit (c.toNat / 16) (by omega)
    have hlow := hdigit (c.toNat % 16) (by omega)
    simp [htext, hhigh.symm, hlow.symm]
  · have hne : c ≠ '\n' := by
      rintro rfl
      exact hc (by decide)
    simp [htext, hne.symm]

theorem newline_not_mem_quoted (s : String) : '\n' ∉ quoted s := by
  simp [quoted, newline_not_mem_character]

theorem newline_not_mem_decimal (n : Nat) : '\n' ∉ Text.decimal n := by
  intro h
  have hdigit := Text.isDigit_of_mem_decimal h
  revert hdigit
  decide

theorem newline_not_mem_enclosed {depth : Nat} {opening closing : Char} {items : List (List Char)}
    (hopening : opening ≠ '\n') (hclosing : closing ≠ '\n') (h : ∀ item ∈ items, '\n' ∉ item) :
    '\n' ∉ enclosed .compact depth opening closing items := by
  have hjoin : '\n' ∉ Text.join [','] items := by
    intro hmem
    rcases Text.mem_join hmem with hmem | ⟨item, hitem, hmem⟩
    · revert hmem
      decide
    · exact h item hitem hmem
  cases items with
  | nil => simp [enclosed, hopening.symm, hclosing.symm]
  | cons item items => simp [enclosed, Layout.newLine, hopening.symm, hclosing.symm, hjoin]

theorem newline_not_mem_render (j : Json) : ∀ depth, '\n' ∉ render .compact depth j := by
  induction j using induct with
  | null => simp [render]
  | number n => exact fun _ => newline_not_mem_decimal n
  | string s => exact fun _ => newline_not_mem_quoted s
  | array l ih =>
      intro depth
      rw [render, renderItems_eq_map]
      exact newline_not_mem_enclosed (by decide) (by decide)
        (List.forall_mem_map.2 fun j hj => ih j hj (depth + 1))
  | object l ih =>
      intro depth
      rw [render, renderMembers_eq_map]
      refine newline_not_mem_enclosed (by decide) (by decide)
        (List.forall_mem_map.2 fun m hm => ?_)
      simp [memberText, Layout.colon, newline_not_mem_quoted, ih m hm (depth + 1)]

end Json

namespace Record

theorem mapM_ofJsonText (layout : Json.Layout) (records : List Record) :
    (records.map toJson).mapM (fun item => ofJsonText (item.text layout)) = .ok records := by
  induction records with
  | nil => rfl
  | cons r records ih =>
      rw [List.map_cons, List.mapM_cons, ofJsonText_text, ih]
      rfl

/-- A text is a document from which records are read back. -/
def ReadFrom (text : String) (records : List Record) : Prop :=
  ∃ j items, JsonText.valueOf text = .ok j ∧ j.member? "records" = some (.array items) ∧
    ∀ layout, items.mapM (fun item => ofJsonText (item.text layout)) = .ok records

theorem readFrom_documentText (layout : Json.Layout) (records : List Record) :
    ReadFrom (documentText layout records) records :=
  ⟨document records, records.map toJson, JsonText.valueOf_text layout (document records), rfl,
    fun layout => mapM_ofJsonText layout records⟩

/-- The document of records is read back. Both layouts are texts of one value, an object whose list
of records holds the text of each record in its order and whose counts are the number of records
and the number of places that their files name; the compact text is one line. -/
theorem documentText_reads_back (records : List Record) :
    ∃ j items, (∀ layout, JsonText.valueOf (documentText layout records) = .ok j) ∧
      j.member? "records" = some (.array items) ∧
      (∀ layout, items.mapM (fun item => ofJsonText (item.text layout)) = .ok records) ∧
      (j.member? "meta").bind (Json.member? "records") = some (.number records.length) ∧
      (j.member? "meta").bind (Json.member? "files") =
        some (.number (places (records.map Record.file)).card) ∧
      '\n' ∉ (documentText .compact records).toList := by
  refine ⟨document records, records.map toJson, ?_, rfl, ?_, rfl, ?_, ?_⟩
  · exact fun layout => JsonText.valueOf_text layout (document records)
  · exact fun layout => mapM_ofJsonText layout records
  · rw [← countPlaces_eq_card]
    rfl
  · rw [documentText, Json.text, String.toList_ofList]
    exact Json.newline_not_mem_render _ 0

end Record

end DecoratorGraph
