import DecoratorGraph.Proofs.Drawing.Layers
import DecoratorGraph.Proofs.Json.AnyLayout

/-!
# Options files in any layout

The texts of options files, as a relation between a file and a text: the members of each object may
come in any order, those of options that are not set may be left out or be `null`, and blanks and
escapes are free. Such a text is read to the file that it is a text of. An object of JSON that has
another member in one of its three objects, or has a member twice, is not read at all.
-/

namespace DecoratorGraph

open JsonText

/-! ### Texts -/

def PathOf (p : Path) (v : List Char) : Prop := StringOf p.text v

theorem present_pathOf : Present PathOf := fun p => present_stringOf p.text

def OutputOptions.fieldTexts (o : OutputOptions) : List (String × (List Char → Prop)) :=
  [("dot", OrNull PathOf o.dot), ("image", OrNull PathOf o.image), ("html", OrNull PathOf o.html)]

def DotOptions.fieldTexts (o : DotOptions) : List (String × (List Char → Prop)) :=
  [("shapeModules", OrNull StringOf o.shapeModules),
    ("shapeProviders", OrNull StringOf o.shapeProviders),
    ("shapeDirectives", OrNull StringOf o.shapeDirectives),
    ("colorScheme", OrNull StringOf o.colorScheme)]

def OptionsFile.fieldTexts (o : OptionsFile) : List (String × (List Char → Prop)) :=
  [("name", OrNull StringOf o.name),
    ("output", OrNull (fun output => ObjectOf output.fieldTexts) o.output),
    ("dot", OrNull (fun looks => ObjectOf looks.fieldTexts) o.dot),
    ("template", OrNull PathOf o.template), ("graphviz", OrNull StringOf o.graphviz)]

/-! ### Reading -/

section Views

variable {α σ : Type} {name : String} {seen : List String} {x : Option α}

/-- What is known of a field when these have been read. -/
def kept (seen : List String) (name : String) (x : Option α) : Option α :=
  if name ∈ seen then x else none

theorem kept_eq {text : α → List Char → Prop} (htext : Present text)
    (h : name ∈ seen ∨ OrNull text x ['n', 'u', 'l', 'l']) : kept seen name x = x := by
  rcases h with hmem | hnull
  · exact if_pos hmem
  · rw [htext.orNull_null_iff.1 hnull]
    exact ite_self none

theorem advances_fieldOf {shape : Shape σ} {view : List String → σ} {β : Type}
    {reader : Reader β} {set : σ → β → σ} {text : List Char → Prop} {y : β}
    (hfind : (shape.fields.find? fun g => g.name == name) = some (fieldOf name reader set))
    (hread : Takes reader text y) (hset : ∀ seen, set (view seen) y = view (name :: seen)) :
    shape.Advances view (name, text) := by
  refine ⟨_, hfind, fun seen v hv b hb rest => ?_⟩
  simp only [fieldOf, hread v hv b hb rest, Except.bind, bind, hset]

end Views

theorem takes_optionalText (x : Option String) : Takes optionalText (OrNull StringOf x) x :=
  takes_optional present_stringOf (takes_string "a string") x

theorem takes_optionalPath (x : Option Path) : Takes optionalPath (OrNull PathOf x) x := by
  intro v hv b hb rest
  have htext : OrNull StringOf (x.map Path.text) v := by cases x <;> exact hv
  rw [optionalPath,
    takes_optional present_stringOf (takes_string "path string") _ v htext b hb rest]
  cases x <;> rfl

/-- What is known of a block of directories when these fields have been read. -/
def OutputOptions.view (o : OutputOptions) (seen : List String) : OutputOptions :=
  ⟨kept seen "dot" o.dot, kept seen "image" o.image, kept seen "html" o.html⟩

theorem OutputOptions.takes_read (o : OutputOptions) :
    Takes jsonShape.read (ObjectOf o.fieldTexts) o := by
  -- Each field brings the view on by its name, and a field that is never seen is not set.
  refine Shape.takes_objectOf o.view rfl rfl ?_ fun seen h => ?_
  · simp only [fieldTexts, List.forall_mem_cons, List.not_mem_nil, false_imp_iff, implies_true,
      and_true]
    refine ⟨advances_fieldOf rfl (takes_optionalPath o.dot) fun seen => ?_,
      advances_fieldOf rfl (takes_optionalPath o.image) fun seen => ?_,
      advances_fieldOf rfl (takes_optionalPath o.html) fun seen => ?_⟩ <;>
    simp [view, kept]
  · simp only [fieldTexts, List.forall_mem_cons, List.not_mem_nil, false_imp_iff, implies_true,
      and_true] at h
    obtain ⟨hdot, himage, hhtml⟩ := h
    rw [view, kept_eq present_pathOf hdot, kept_eq present_pathOf himage,
      kept_eq present_pathOf hhtml]

def DotOptions.view (o : DotOptions) (seen : List String) : DotOptions :=
  ⟨kept seen "shapeModules" o.shapeModules, kept seen "shapeProviders" o.shapeProviders,
    kept seen "shapeDirectives" o.shapeDirectives, kept seen "colorScheme" o.colorScheme⟩

theorem DotOptions.takes_read (o : DotOptions) :
    Takes jsonShape.read (ObjectOf o.fieldTexts) o := by
  refine Shape.takes_objectOf o.view rfl rfl ?_ fun seen h => ?_
  · simp only [fieldTexts, List.forall_mem_cons, List.not_mem_nil, false_imp_iff, implies_true,
      and_true]
    refine ⟨advances_fieldOf rfl (takes_optionalText o.shapeModules) fun seen => ?_,
      advances_fieldOf rfl (takes_optionalText o.shapeProviders) fun seen => ?_,
      advances_fieldOf rfl (takes_optionalText o.shapeDirectives) fun seen => ?_,
      advances_fieldOf rfl (takes_optionalText o.colorScheme) fun seen => ?_⟩ <;>
    simp [view, kept]
  · simp only [fieldTexts, List.forall_mem_cons, List.not_mem_nil, false_imp_iff, implies_true,
      and_true] at h
    obtain ⟨hmodules, hproviders, hdirectives, hscheme⟩ := h
    rw [view, kept_eq present_stringOf hmodules, kept_eq present_stringOf hproviders,
      kept_eq present_stringOf hdirectives, kept_eq present_stringOf hscheme]

namespace OptionsFile

def view (o : OptionsFile) (seen : List String) : OptionsFile :=
  ⟨kept seen "name" o.name, kept seen "output" o.output, kept seen "dot" o.dot,
    kept seen "template" o.template, kept seen "graphviz" o.graphviz⟩

theorem takes_read (o : OptionsFile) : Takes jsonShape.read (ObjectOf o.fieldTexts) o := by
  have houtput := takes_optional (present_objectOf OutputOptions.fieldTexts)
    OutputOptions.takes_read o.output
  have hlooks := takes_optional (present_objectOf DotOptions.fieldTexts)
    DotOptions.takes_read o.dot
  refine Shape.takes_objectOf o.view rfl rfl ?_ fun seen h => ?_
  · simp only [fieldTexts, List.forall_mem_cons, List.not_mem_nil, false_imp_iff, implies_true,
      and_true]
    refine ⟨advances_fieldOf rfl (takes_optionalText o.name) fun seen => ?_,
      advances_fieldOf rfl houtput fun seen => ?_, advances_fieldOf rfl hlooks fun seen => ?_,
      advances_fieldOf rfl (takes_optionalPath o.template) fun seen => ?_,
      advances_fieldOf rfl (takes_optionalText o.graphviz) fun seen => ?_⟩ <;>
    simp [view, kept]
  · simp only [fieldTexts, List.forall_mem_cons, List.not_mem_nil, false_imp_iff, implies_true,
      and_true] at h
    obtain ⟨hname, houtput, hlooks, htemplate, hgraphviz⟩ := h
    rw [view, kept_eq present_stringOf hname, kept_eq (present_objectOf _) houtput,
      kept_eq (present_objectOf _) hlooks, kept_eq present_pathOf htemplate,
      kept_eq present_stringOf hgraphviz]

end OptionsFile

/-! ### Refusing -/

section Refusals

variable {α σ : Type} {reader : Reader α} {shape : Shape σ} {state : σ} {name : String}
  {set : σ → α → σ} {v : List Char} {ms : List (List Char × List Char)}

/-- Some member has none of these names, or two members have one name. -/
def Misnamed (known : List String) (ms : List (List Char × List Char)) : Prop :=
  (∃ m ∈ ms, ∀ name ∈ known, ¬Spells name.toList m.1) ∨ ¬ms.Pairwise Apart

theorem exact_fieldOf (h : Exact reader) (state : σ) :
    Exact ((fieldOf name reader set).read state) := by
  intro v hv b hb rest y r hread
  obtain ⟨⟨x, r'⟩, hvalue, hy⟩ := bind_eq_ok_iff.1 hread
  cases hy
  exact h v hv b hb rest x r hvalue

theorem accepts_of_fieldOf (h : Accepts ((fieldOf name reader set).read state) v) :
    Accepts reader v := by
  obtain ⟨b, rest, y, r, hb, hread⟩ := h
  obtain ⟨⟨x, r'⟩, hvalue, hy⟩ := bind_eq_ok_iff.1 hread
  exact ⟨b, rest, x, r', hb, hvalue⟩

theorem accepts_of_optional (hv : IsObject ms v) (h : Accepts (optional reader) v) :
    Accepts reader v := by
  obtain ⟨b, rest, y, r, hb, hread⟩ := h
  rcases optional_cases hv.isValue hb hread with ⟨rfl, -⟩ | ⟨x, hx, -⟩
  · obtain ⟨⟨s, -, hs⟩, -⟩ := hv
    cases hs
  · exact ⟨b, rest, x, _, hb, hx⟩

theorem not_misnamed_of_accepts (hclosed : shape.closed = true)
    (hexact : ∀ field ∈ shape.fields, ∀ state, Exact (field.read state)) (hv : IsObject ms v)
    (h : Accepts shape.read v) : ¬Misnamed (shape.fields.map Field.name) ms := by
  obtain ⟨b, rest, x, r, hb, hread⟩ := h
  obtain ⟨-, hapart, hfields⟩ := Shape.read_object_exact hclosed hexact hv hb hread
  rintro (⟨m, hm, hunknown⟩ | hrepeated)
  · obtain ⟨field, hfield, hspells, -⟩ := hfields m hm
    exact hunknown field.name (List.mem_map_of_mem hfield) hspells
  · exact hrepeated hapart

end Refusals

theorem exact_optionalText : Exact optionalText := (exact_string "a string").optional

theorem exact_optionalPath : Exact optionalPath := by
  intro v hv b hb rest y r hread
  obtain ⟨⟨x, r'⟩, hvalue, hy⟩ := bind_eq_ok_iff.1 hread
  cases hy
  exact (exact_string "path string").optional v hv b hb rest x r hvalue

theorem OutputOptions.exact_fields :
    ∀ field ∈ jsonShape.fields, ∀ state, Exact (field.read state) := by
  simp only [jsonShape, List.forall_mem_cons, List.not_mem_nil, false_imp_iff, implies_true,
    and_true]
  exact ⟨exact_fieldOf exact_optionalPath, exact_fieldOf exact_optionalPath,
    exact_fieldOf exact_optionalPath⟩

theorem DotOptions.exact_fields :
    ∀ field ∈ jsonShape.fields, ∀ state, Exact (field.read state) := by
  simp only [jsonShape, List.forall_mem_cons, List.not_mem_nil, false_imp_iff, implies_true,
    and_true]
  exact ⟨exact_fieldOf exact_optionalText, exact_fieldOf exact_optionalText,
    exact_fieldOf exact_optionalText, exact_fieldOf exact_optionalText⟩

namespace OptionsFile

theorem exact_fields : ∀ field ∈ jsonShape.fields, ∀ state, Exact (field.read state) := by
  have houtput := (Shape.exact_read rfl OutputOptions.exact_fields).optional
  have hlooks := (Shape.exact_read rfl DotOptions.exact_fields).optional
  simp only [jsonShape, List.forall_mem_cons, List.not_mem_nil, false_imp_iff, implies_true,
    and_true]
  exact ⟨exact_fieldOf exact_optionalText, exact_fieldOf houtput, exact_fieldOf hlooks,
    exact_fieldOf exact_optionalPath, exact_fieldOf exact_optionalText⟩

def blocks : List (String × List String) :=
  [("output", ["dot", "image", "html"]),
    ("dot", ["shapeModules", "shapeProviders", "shapeDirectives", "colorScheme"])]

/-- The object or one of its blocks has a member that is not known there, or has a member twice. -/
def Misspelled (ms : List (List Char × List Char)) : Prop :=
  Misnamed ["name", "output", "dot", "template", "graphviz"] ms ∨
    ∃ m ∈ ms, ∃ block ∈ blocks, Spells block.1.toList m.1 ∧
      ∃ inner, IsObject inner m.2 ∧ Misnamed block.2 inner

variable {ms : List (List Char × List Char)} {text : String} {before after v : List Char}

/-- A block that is taken by the reader of its field has no other members than its own. -/
theorem not_misnamed_of_field {field : JsonText.Field OptionsFile}
    (hfield : field ∈ jsonShape.fields) {block : String × List String} (hblock : block ∈ blocks)
    (hname : field.name = block.1) {state : OptionsFile} (hv : IsObject ms v)
    (h : Accepts (field.read state) v) : ¬Misnamed block.2 ms := by
  simp only [blocks, List.mem_cons, List.not_mem_nil, or_false] at hblock
  simp only [jsonShape, List.mem_cons, List.not_mem_nil, or_false] at hfield
  rcases hblock with rfl | rfl
  · rcases hfield with rfl | rfl | rfl | rfl | rfl
    · exact absurd hname (by decide)
    · exact not_misnamed_of_accepts rfl OutputOptions.exact_fields hv
        (accepts_of_optional hv (accepts_of_fieldOf h))
    · exact absurd hname (by decide)
    · exact absurd hname (by decide)
    · exact absurd hname (by decide)
  · rcases hfield with rfl | rfl | rfl | rfl | rfl
    · exact absurd hname (by decide)
    · exact absurd hname (by decide)
    · exact not_misnamed_of_accepts rfl DotOptions.exact_fields hv
        (accepts_of_optional hv (accepts_of_fieldOf h))
    · exact absurd hname (by decide)
    · exact absurd hname (by decide)

theorem not_misspelled_of_accepts (hv : IsObject ms v) (h : Accepts jsonShape.read v) :
    ¬Misspelled ms := by
  rintro (hmisnamed | ⟨m, hm, block, hblock, hname, inner, hinner, hmisnamed⟩)
  · exact not_misnamed_of_accepts rfl exact_fields hv h hmisnamed
  · obtain ⟨b, rest, x, r, hb, hread⟩ := h
    obtain ⟨-, -, hfields⟩ := Shape.read_object_exact rfl exact_fields hv hb hread
    obtain ⟨field, hfield, hspells, state, haccepts⟩ := hfields m hm
    exact not_misnamed_of_field hfield hblock (hspells.unique hname) hinner haccepts hmisnamed

/-! ### Whole files -/

theorem ofJsonText_of_text {o : OptionsFile} (htext : text.toList = before ++ (v ++ after))
    (hbefore : Blank before) (hafter : Blank after) (hv : ObjectOf o.fieldTexts v) :
    ofJsonText text = .ok o := by
  have hend : skipBlanks after = [] := by
    have hskip := skipBlanks_append hafter []
    rwa [List.append_nil] at hskip
  have hread := o.takes_read v hv before hbefore after
  simp only [ofJsonText, readAll, htext, hread, Except.bind, bind, hend]

theorem ofJsonText_of_misspelled (htext : text.toList = before ++ (v ++ after))
    (hbefore : Blank before) (hv : IsObject ms v) (hms : Misspelled ms) :
    ∃ cause, ofJsonText text = .error cause := by
  cases hresult : ofJsonText text with
  | error cause => exact ⟨cause, rfl⟩
  | ok o =>
      rw [ofJsonText, readAll, htext] at hresult
      obtain ⟨⟨x, r⟩, hread, -⟩ := bind_eq_ok_iff.1 hresult
      exact (not_misspelled_of_accepts hv ⟨before, after, x, r, hbefore, hread⟩ hms).elim

end OptionsFile

/-! ### Layers -/

/-- The three directories are all set or none is. -/
def SettingsLayer.DirectoriesTogether (layer : SettingsLayer) : Prop :=
  (layer.dotDirectory = none ∧ layer.imageDirectory = none ∧ layer.htmlDirectory = none) ∨
    ∃ dot image html, layer.dotDirectory = some dot ∧ layer.imageDirectory = some image ∧
      layer.htmlDirectory = some html

namespace OptionsFile

/-- What an options file states, option by option. A block that is not there states nothing. -/
def stated (o : OptionsFile) : SettingsLayer where
  name := o.name
  dotDirectory := o.output.bind OutputOptions.dot
  imageDirectory := o.output.bind OutputOptions.image
  htmlDirectory := o.output.bind OutputOptions.html
  moduleShape := o.dot.bind DotOptions.shapeModules
  providerShape := o.dot.bind DotOptions.shapeProviders
  directiveShape := o.dot.bind DotOptions.shapeDirectives
  colorScheme := o.dot.bind DotOptions.colorScheme
  template := o.template
  graphviz := o.graphviz

variable {o : OptionsFile}

/-- A file whose block of directories lacks nothing becomes the layer that it states. -/
theorem toLayer_eq_stated (h : ∀ output, o.output = some output → output.missing? = none) :
    o.toLayer = .ok o.stated := by
  obtain ⟨layer, hlayer, hconveys⟩ := exists_conveys h
  have hstated : o.Conveys o.stated := by
    refine ⟨rfl, ?_, rfl, rfl, rfl, rfl, rfl, rfl⟩
    cases houtput : o.output with
    | none => exact Or.inl ⟨rfl, by simp [stated, houtput]⟩
    | some output =>
        obtain ⟨dot, image, html, rfl⟩ := OutputOptions.missing?_eq_none_iff.1 (h output houtput)
        exact Or.inr ⟨dot, image, html, rfl, by simp [stated, houtput]⟩
  rw [hlayer, hstated.unique hconveys]

theorem toLayer_of_together (h : o.stated.DirectoriesTogether)
    (hblock : o.output = none ∨ o.stated.dotDirectory ≠ none) : o.toLayer = .ok o.stated := by
  refine toLayer_eq_stated fun output houtput => ?_
  simp only [stated, houtput, SettingsLayer.DirectoriesTogether, Option.bind_some] at h hblock
  rcases h with ⟨hdot, -⟩ | ⟨dot, image, html, hdot, himage, hhtml⟩
  · rcases hblock with hblock | hblock
    · cases hblock
    · exact (hblock hdot).elim
  · obtain ⟨dot', image', html'⟩ := output
    cases hdot
    cases himage
    cases hhtml
    rfl

/-- A block that is there without its directories is reported for the first of them. -/
theorem toLayer_of_idle_block (hblock : o.output ≠ none) (h : o.stated.dotDirectory = none) :
    o.toLayer = .error (.incompleteOutput "dot") := by
  obtain ⟨output, houtput⟩ := Option.ne_none_iff_exists'.1 hblock
  refine toLayer_of_missing houtput ?_
  simp only [stated, houtput, Option.bind_some] at h
  simp [OutputOptions.missing?, OutputOptions.directories, h]

end OptionsFile

/-- Options files are read as what they state, whatever their layout. The text of a file that states
a layer is read as this layer, if the layer has all directories or none, unless there is a block of
directories that has none of them: then the block is reported as incomplete. An object of JSON with
a member that is not known where it stands, or with one member twice, is refused as unreadable. -/
theorem SettingsLayer.ofOptionsFile_anyLayout {t : FileTree} {path : Path} {text : String}
    (hread : t.readText path = .ok text) {before v after : List Char}
    (htext : text.toList = before ++ (v ++ after)) (hbefore : Blank before) (hafter : Blank after) :
    (∀ (o : OptionsFile) (layer : SettingsLayer), ObjectOf o.fieldTexts v → o.stated = layer →
      layer.DirectoriesTogether →
        (o.output = none ∨ layer.dotDirectory ≠ none → ofOptionsFile t path = .ok layer) ∧
        (o.output ≠ none → layer.dotDirectory = none →
          ofOptionsFile t path = .error (.incompleteOutput "dot"))) ∧
    ∀ ms, IsObject ms v → OptionsFile.Misspelled ms →
      ∃ cause, ofOptionsFile t path = .error (.unreadable cause) := by
  constructor
  · rintro o layer hv rfl htogether
    have hfile : ofOptionsFile t path = o.toLayer := by
      simp only [ofOptionsFile, hread, ofOptionsText,
        OptionsFile.ofJsonText_of_text htext hbefore hafter hv]
    rw [hfile]
    exact ⟨OptionsFile.toLayer_of_together htogether, OptionsFile.toLayer_of_idle_block⟩
  · intro ms hv hms
    obtain ⟨cause, hcause⟩ := OptionsFile.ofJsonText_of_misspelled htext hbefore hv hms
    refine ⟨cause, ?_⟩
    simp only [ofOptionsFile, hread, ofOptionsText, hcause]

def optionsTree (text : String) : FileTree :=
  { entries := [(["options.json"], .file (Text.Utf8.encode text) false 0)] }

theorem lead_first : Lead true [] := blank_nil

theorem lead_comma {a : List Char} (ha : Blank a) : Lead false (',' :: a) :=
  ⟨[], a, blank_nil, ha, rfl⟩

/-- The directories of a block in another order. -/
theorem objectOf_shuffledBlock :
    ObjectOf (OutputOptions.fieldTexts ⟨some ⟨"d"⟩, some ⟨"i"⟩, some ⟨"h"⟩⟩)
      "\x7b\"html\":\"h\",\"dot\":\"d\",\"image\":\"i\"\x7d".toList := by
  have hcomma := lead_comma blank_nil
  refine objectOf_of_members
    (l := [(("html", OrNull PathOf (some ⟨"h"⟩)), "html".toList, "\"h\"".toList),
      (("dot", OrNull PathOf (some ⟨"d"⟩)), "dot".toList, "\"d\"".toList),
      (("image", OrNull PathOf (some ⟨"i"⟩)), "image".toList, "\"i\"".toList)])
    ⟨_, .cons lead_first blank_nil blank_nil (.cons hcomma blank_nil blank_nil
      (.cons hcomma blank_nil blank_nil (.nil blank_nil))), rfl⟩ ?_ (by decide) ?_
  · have hplain (value : String) (h : value.toList.all fun c => decide (IsPlain c)) :
        OrNull PathOf (some ⟨value⟩) ('"' :: (value.toList ++ ['"'])) := stringOf_of_plain h
    simp only [List.forall_mem_cons, List.not_mem_nil, false_imp_iff, implies_true, and_true]
    refine ⟨⟨?_, spells_of_plain (by decide), hplain "h" (by decide)⟩,
      ⟨?_, spells_of_plain (by decide), hplain "d" (by decide)⟩,
      ⟨?_, spells_of_plain (by decide), hplain "i" (by decide)⟩⟩ <;>
    simp [OutputOptions.fieldTexts]
  · simp only [OutputOptions.fieldTexts, List.forall_mem_cons, List.not_mem_nil, false_imp_iff,
      implies_true, and_true]
    exact ⟨Or.inl (by simp), Or.inl (by simp), Or.inl (by simp)⟩

/-- An options file with escapes in a name and in a value, with blanks, and with a `null`. -/
def looseObject : String :=
  "\x7b\"gra\\u0070hviz\" : \"d\\/t\",\n\"output\":" ++
    "\x7b\"html\":\"h\",\"dot\":\"d\",\"image\":\"i\"\x7d,\"name\":null\x7d"

theorem objectOf_looseObject :
    ObjectOf (OptionsFile.fieldTexts
      { output := some ⟨some ⟨"d"⟩, some ⟨"i"⟩, some ⟨"h"⟩⟩, graphviz := some "d/t" })
      looseObject.toList := by
  have hspace : Blank [' '] := by simp [Blank, isBlank]
  have hline : Blank ['\n'] := by simp [Blank, isBlank]
  have hgraphviz : Spells "graphviz".toList "gra\\u0070hviz".toList := by
    have hp : Spelling 'p' ('\\' :: 'u' :: "0070".toList) :=
      .code (code_iff.2 ⟨'0', '0', '7', '0', 0, 0, 7, 0, rfl, rfl, rfl, rfl, rfl, rfl⟩)
    exact (spells_of_plain (s := "gra".toList) (by decide)).append
      (.cons hp (spells_of_plain (s := "hviz".toList) (by decide)))
  have hvalue : StringOf "d/t" "\"d\\/t\"".toList := by
    have hslash : Spelling '/' ['\\', '/'] := .letter (by decide)
    exact ⟨_, (spells_of_plain (s := "d".toList) (by decide)).append
      (.cons hslash (spells_of_plain (s := "t".toList) (by decide))), rfl⟩
  refine objectOf_of_members
    (l := [(("graphviz", OrNull StringOf (some "d/t")), "gra\\u0070hviz".toList,
        "\"d\\/t\"".toList),
      (("output", OrNull (fun o : OutputOptions => ObjectOf o.fieldTexts)
          (some ⟨some ⟨"d"⟩, some ⟨"i"⟩, some ⟨"h"⟩⟩)), "output".toList,
        "\x7b\"html\":\"h\",\"dot\":\"d\",\"image\":\"i\"\x7d".toList),
      (("name", OrNull StringOf none), "name".toList, "null".toList)])
    ⟨_, .cons lead_first hspace hspace (.cons (lead_comma hline) blank_nil blank_nil
      (.cons (lead_comma blank_nil) blank_nil blank_nil (.nil blank_nil))), rfl⟩ ?_ (by decide) ?_
  · simp only [List.forall_mem_cons, List.not_mem_nil, false_imp_iff, implies_true, and_true]
    exact ⟨⟨by simp [OptionsFile.fieldTexts], hgraphviz, hvalue⟩,
      ⟨by simp [OptionsFile.fieldTexts], spells_of_plain (by decide), objectOf_shuffledBlock⟩,
      ⟨by simp [OptionsFile.fieldTexts], spells_of_plain (by decide), rfl⟩⟩
  · simp only [OptionsFile.fieldTexts, List.forall_mem_cons, List.not_mem_nil, false_imp_iff,
      implies_true, and_true]
    exact ⟨Or.inr rfl, Or.inl (by simp), Or.inr rfl, Or.inr rfl, Or.inl (by simp)⟩

def misspelledObject : String := "\x7b\"grahpviz\":\"d\"\x7d"

/-- The one is read, the other is refused. -/
theorem ofOptionsFile_looseObject :
    SettingsLayer.ofOptionsFile (optionsTree (" " ++ looseObject ++ "\n")) ⟨"options.json"⟩ =
        .ok { dotDirectory := some ⟨"d"⟩, imageDirectory := some ⟨"i"⟩, htmlDirectory := some ⟨"h"⟩,
              graphviz := some "d/t" } ∧
      ∃ cause, SettingsLayer.ofOptionsFile (optionsTree misspelledObject) ⟨"options.json"⟩ =
        .error (.unreadable cause) := by
  constructor
  · have hread : (optionsTree (" " ++ looseObject ++ "\n")).readText ⟨"options.json"⟩ =
        .ok (" " ++ looseObject ++ "\n") := by decide +kernel
    have htext : (" " ++ looseObject ++ "\n").toList =
        [' '] ++ (looseObject.toList ++ ['\n']) := by decide +kernel
    have hfile := (SettingsLayer.ofOptionsFile_anyLayout hread htext (by simp [Blank, isBlank])
      (by simp [Blank, isBlank])).1 _ _ objectOf_looseObject rfl
      (Or.inr ⟨_, _, _, rfl, rfl, rfl⟩)
    exact hfile.1 (Or.inr (by decide))
  · have hname : Spells "grahpviz".toList "grahpviz".toList := spells_of_plain (by decide)
    have hvalue : Spells "d".toList "d".toList := spells_of_plain (by decide)
    have hobject : IsObject [("grahpviz".toList, "\"d\"".toList)] misspelledObject.toList := by
      refine ⟨⟨_, .cons lead_first blank_nil blank_nil (.nil blank_nil), rfl⟩, ?_⟩
      exact List.forall_mem_singleton.2 ⟨hname.stringText, .string hvalue.stringText⟩
    have hunknown : OptionsFile.Misspelled [("grahpviz".toList, "\"d\"".toList)] := by
      refine Or.inl (Or.inl ⟨_, List.mem_singleton_self _, fun name hknown h => ?_⟩)
      rw [h.unique hname] at hknown
      exact absurd hknown (by decide)
    have hread : (optionsTree misspelledObject).readText ⟨"options.json"⟩ =
        .ok misspelledObject := by decide +kernel
    exact (SettingsLayer.ofOptionsFile_anyLayout hread (List.append_nil _).symm blank_nil
      blank_nil).2 _ hobject hunknown

/-- A block in which every directory is `null`. -/
def idleBlock : String := "\x7b\"dot\":null,\"image\":null,\"html\":null\x7d"

/-- A file that states no directory in this way is not read as no directories. -/
theorem idleBlock_refused :
    ObjectOf (OptionsFile.fieldTexts { output := some {} })
        ("\x7b\"output\":" ++ idleBlock ++ "\x7d").toList ∧
      OptionsFile.stated { output := some {} } = {} ∧ SettingsLayer.DirectoriesTogether {} ∧
      (optionsTree ("\x7b\"output\":" ++ idleBlock ++ "\x7d")).readText ⟨"options.json"⟩ =
        .ok ("\x7b\"output\":" ++ idleBlock ++ "\x7d") ∧
      SettingsLayer.ofOptionsFile (optionsTree ("\x7b\"output\":" ++ idleBlock ++ "\x7d"))
        ⟨"options.json"⟩ = .error (.incompleteOutput "dot") := by
  have hcomma := lead_comma blank_nil
  have hblock : ObjectOf (OutputOptions.fieldTexts {}) idleBlock.toList := by
    refine objectOf_of_members
      (l := [(("dot", OrNull PathOf none), "dot".toList, "null".toList),
        (("image", OrNull PathOf none), "image".toList, "null".toList),
        (("html", OrNull PathOf none), "html".toList, "null".toList)])
      ⟨_, .cons lead_first blank_nil blank_nil (.cons hcomma blank_nil blank_nil
        (.cons hcomma blank_nil blank_nil (.nil blank_nil))), rfl⟩ ?_ (by decide)
      fun f hf => Or.inl hf
    simp only [List.forall_mem_cons, List.not_mem_nil, false_imp_iff, implies_true, and_true]
    exact ⟨⟨by simp [OutputOptions.fieldTexts], spells_of_plain (by decide), rfl⟩,
      ⟨by simp [OutputOptions.fieldTexts], spells_of_plain (by decide), rfl⟩,
      ⟨by simp [OutputOptions.fieldTexts], spells_of_plain (by decide), rfl⟩⟩
  refine ⟨?_, rfl, Or.inl ⟨rfl, rfl, rfl⟩, by decide +kernel, by decide +kernel⟩
  refine objectOf_of_members
    (l := [(("output", OrNull (fun o : OutputOptions => ObjectOf o.fieldTexts) (some {})),
      "output".toList, idleBlock.toList)])
    ⟨_, .cons lead_first blank_nil blank_nil (.nil blank_nil), rfl⟩ ?_ (by decide) ?_
  · exact List.forall_mem_singleton.2
      ⟨by simp [OptionsFile.fieldTexts], spells_of_plain (by decide), hblock⟩
  · simp only [OptionsFile.fieldTexts, List.forall_mem_cons, List.not_mem_nil, false_imp_iff,
      implies_true, and_true]
    exact ⟨Or.inr rfl, Or.inl (List.mem_singleton_self _), Or.inr rfl, Or.inr rfl, Or.inr rfl⟩

end DecoratorGraph
