import DecoratorGraph.Drawing.Options
import DecoratorGraph.Proofs.Extraction.Verdict
import Mathlib.Data.List.Induction

/-!
# Layers of settings

`Prevails` says of one field which value a list of layers gives it: that of the last layer in which
the field is set. Laying one layer over another decides every field for itself, so what holds of one
layer on top of others holds of each field of the whole stack (`prevails_stack`), and settings are
given by their layers field by field (`FromLayers`).

An options file is turned into a layer if it names all directories or has no block for them.
-/

namespace DecoratorGraph

namespace SettingsLayer

def stack (layers : List SettingsLayer) : SettingsLayer := layers.foldl overlay {}

theorem stack_concat (layers : List SettingsLayer) (top : SettingsLayer) :
    stack (layers ++ [top]) = (stack layers).overlay top := by
  simp [stack]

theorem stack_append (lower upper : List SettingsLayer) :
    stack (lower ++ upper) = (stack lower).overlay (stack upper) := by
  induction upper using List.reverseRecOn with
  | nil => simp [stack]
  | append_singleton upper top ih =>
      rw [← List.append_assoc, stack_concat, ih, stack_concat, overlay_assoc]

/-- Layers can be stacked in groups. -/
theorem stack_flatten (groups : List (List SettingsLayer)) :
    stack groups.flatten = stack (groups.map stack) := by
  induction groups using List.reverseRecOn with
  | nil => rfl
  | append_singleton groups group ih =>
      rw [List.flatten_concat, stack_append, ih, List.map_append, List.map_singleton, stack_concat]

/-! ### The value of one field -/

section Field

variable {α : Type} {get : SettingsLayer → Option α} {fallback a : α}

/-- The value is that of the last layer in which the field is set, or the fallback if it is set in
none of them. -/
def Prevails (get : SettingsLayer → Option α) (fallback : α) (layers : List SettingsLayer)
    (a : α) : Prop :=
  (∃ before layer after, layers = before ++ layer :: after ∧ get layer = some a ∧
    ∀ upper ∈ after, get upper = none) ∨
  (∀ layer ∈ layers, get layer = none) ∧ a = fallback

theorem prevails_nil : Prevails get fallback [] a ↔ a = fallback := by
  simp [Prevails]

/-- The layer on top decides if it sets the field, and otherwise those below do. -/
theorem prevails_concat (layers : List SettingsLayer) (top : SettingsLayer) :
    Prevails get fallback (layers ++ [top]) a ↔
      get top = some a ∨ get top = none ∧ Prevails get fallback layers a := by
  constructor
  · rintro (⟨before, layer, after, hsplit, hlayer, hafter⟩ | ⟨hnone, rfl⟩)
    · rcases List.eq_nil_or_concat after with rfl | ⟨after, last, rfl⟩
      · obtain ⟨-, htop⟩ := List.append_inj' hsplit rfl
        cases htop
        exact Or.inl hlayer
      · rw [List.concat_eq_append, ← List.cons_append, ← List.append_assoc] at hsplit
        obtain ⟨rfl, htop⟩ := List.append_inj' hsplit rfl
        cases htop
        rw [List.concat_eq_append] at hafter
        simp only [List.forall_mem_append, List.forall_mem_singleton] at hafter
        exact Or.inr ⟨hafter.2, Or.inl ⟨before, layer, after, rfl, hlayer, hafter.1⟩⟩
    · simp only [List.forall_mem_append, List.forall_mem_singleton] at hnone
      exact Or.inr ⟨hnone.2, Or.inr ⟨hnone.1, rfl⟩⟩
  · rintro (htop | ⟨htop, ⟨before, layer, after, rfl, hlayer, hafter⟩ | ⟨hnone, rfl⟩⟩)
    · exact Or.inl ⟨layers, top, [], rfl, htop, List.forall_mem_nil _⟩
    · refine Or.inl ⟨before, layer, after ++ [top], by simp, hlayer, ?_⟩
      simpa only [List.forall_mem_append, List.forall_mem_singleton] using ⟨hafter, htop⟩
    · refine Or.inr ⟨?_, rfl⟩
      simpa only [List.forall_mem_append, List.forall_mem_singleton] using ⟨hnone, htop⟩

/-- In a stack of layers a field has the value that prevails, if each layer is laid over another
field by field. -/
theorem prevails_stack (get : SettingsLayer → Option α)
    (hoverlay : ∀ base top, get (overlay base top) = (get top <|> get base))
    (hempty : get {} = none) (layers : List SettingsLayer) :
    (get (stack layers)).getD fallback = a ↔ Prevails get fallback layers a := by
  induction layers using List.reverseRecOn with
  | nil => simp [stack, hempty, prevails_nil, eq_comm]
  | append_singleton layers top ih =>
      rw [stack_concat, hoverlay, prevails_concat, ← ih]
      cases get top <;> simp

end Field

end SettingsLayer

/-! ### All fields -/

/-- The directory `samples/<name>/<kind>`. A name that is an absolute path does not go below
`samples`, and a slash at the end of the name is not doubled. -/
def sampleDirectory (name kind : String) : Path where
  text :=
    (if name.toList.head? = some '/' then name else "samples/" ++ name) ++
      (if name.toList = [] ∨ name.toList.getLast? = some '/' then kind else "/" ++ kind)

example : sampleDirectory "app" "dot" = ⟨"samples/app/dot"⟩ := by decide

theorem join_samples (name kind : String) (hkind : kind.toList.head? ≠ some '/') :
    (Settings.samples name).join ⟨kind⟩ = sampleDirectory name kind := by
  have hrelative : Path.isAbsolute ⟨kind⟩ = false := by simpa [Path.isAbsolute] using hkind
  by_cases habsolute : name.toList.head? = some '/'
  · have hsamples : Settings.samples name = ⟨name⟩ := by
      simp [Settings.samples, Path.join, Path.isAbsolute, habsolute]
    have hne : name.toList ≠ [] := fun hnil => by simp [hnil] at habsolute
    by_cases hslash : name.toList.getLast? = some '/' <;>
      simp [hsamples, Path.join, hrelative, sampleDirectory, habsolute, hne, hslash,
        String.append_assoc]
  · have hsamples : Settings.samples name = ⟨"samples/" ++ name⟩ := by
      simp [Settings.samples, Path.join, Path.isAbsolute, habsolute]
    have hlast : ("samples/" ++ name).toList.getLast? = some '/' ↔
        name.toList = [] ∨ name.toList.getLast? = some '/' := by
      rcases List.eq_nil_or_concat name.toList with hnil | ⟨front, last, hname⟩
      · simp [hnil]
      · rw [List.concat_eq_append] at hname
        simp [hname, List.getLast?_cons]
    rw [hsamples, Path.join, hrelative, sampleDirectory, if_neg habsolute, if_neg (by simp)]
    simp only [hlast, String.append_assoc]
    split <;> rfl

/-- Settings whose fields are decided by layers, each for itself. The directories have their
defaults below the name that is decided. -/
@[mk_iff]
structure Settings.FromLayers (layers : List SettingsLayer) (s : Settings) : Prop where
  name : SettingsLayer.Prevails (·.name) "dependencies" layers s.name
  dotDirectory : SettingsLayer.Prevails (·.dotDirectory) (sampleDirectory s.name "dot") layers
    s.dotDirectory
  imageDirectory : SettingsLayer.Prevails (·.imageDirectory) (sampleDirectory s.name "image")
    layers s.imageDirectory
  htmlDirectory : SettingsLayer.Prevails (·.htmlDirectory) (sampleDirectory s.name "html") layers
    s.htmlDirectory
  moduleShape : SettingsLayer.Prevails (·.moduleShape) "component" layers s.moduleShape
  providerShape : SettingsLayer.Prevails (·.providerShape) "ellipse" layers s.providerShape
  directiveShape : SettingsLayer.Prevails (·.directiveShape) "cds" layers s.directiveShape
  colorScheme : SettingsLayer.Prevails (·.colorScheme) "paired12" layers s.colorScheme
  template : SettingsLayer.Prevails (·.template.map some) none layers s.template
  graphviz : SettingsLayer.Prevails (·.graphviz) "dot" layers s.graphviz

theorem Settings.resolve_eq_iff {l : SettingsLayer} {s : Settings} :
    resolve l = s ↔ l.name.getD "dependencies" = s.name ∧
      l.dotDirectory.getD (sampleDirectory s.name "dot") = s.dotDirectory ∧
      l.imageDirectory.getD (sampleDirectory s.name "image") = s.imageDirectory ∧
      l.htmlDirectory.getD (sampleDirectory s.name "html") = s.htmlDirectory ∧
      l.moduleShape.getD "component" = s.moduleShape ∧
      l.providerShape.getD "ellipse" = s.providerShape ∧
      l.directiveShape.getD "cds" = s.directiveShape ∧
      l.colorScheme.getD "paired12" = s.colorScheme ∧ l.template = s.template ∧
      l.graphviz.getD "dot" = s.graphviz := by
  have hdot (name : String) := join_samples name "dot" (by decide)
  have himage (name : String) := join_samples name "image" (by decide)
  have hhtml (name : String) := join_samples name "html" (by decide)
  simp only [← hdot, ← himage, ← hhtml]
  constructor
  · rintro rfl
    exact ⟨rfl, rfl, rfl, rfl, rfl, rfl, rfl, rfl, rfl, rfl⟩
  · cases s
    dsimp only
    rintro ⟨rfl, rfl, rfl, rfl, rfl, rfl, rfl, rfl, rfl, rfl⟩
    rfl

/-- The settings that a stack of layers is completed to are those that its layers decide. -/
theorem Settings.resolve_stack_eq_iff {layers : List SettingsLayer} {s : Settings} :
    resolve (SettingsLayer.stack layers) = s ↔ s.FromLayers layers := by
  have htemplate : (SettingsLayer.stack layers).template = s.template ↔
      SettingsLayer.Prevails (·.template.map some) none layers s.template := by
    rw [← SettingsLayer.prevails_stack (·.template.map some) (fun base top => ?_) rfl]
    · cases (SettingsLayer.stack layers).template <;> rfl
    · rw [SettingsLayer.overlay]
      cases top.template <;> rfl
  rw [resolve_eq_iff, fromLayers_iff, htemplate]
  exact and_congr (SettingsLayer.prevails_stack (·.name) (fun _ _ => rfl) rfl layers) <|
    and_congr (SettingsLayer.prevails_stack (·.dotDirectory) (fun _ _ => rfl) rfl layers) <|
    and_congr (SettingsLayer.prevails_stack (·.imageDirectory) (fun _ _ => rfl) rfl layers) <|
    and_congr (SettingsLayer.prevails_stack (·.htmlDirectory) (fun _ _ => rfl) rfl layers) <|
    and_congr (SettingsLayer.prevails_stack (·.moduleShape) (fun _ _ => rfl) rfl layers) <|
    and_congr (SettingsLayer.prevails_stack (·.providerShape) (fun _ _ => rfl) rfl layers) <|
    and_congr (SettingsLayer.prevails_stack (·.directiveShape) (fun _ _ => rfl) rfl layers) <|
    and_congr (SettingsLayer.prevails_stack (·.colorScheme) (fun _ _ => rfl) rfl layers) <|
    and_congr_right' (SettingsLayer.prevails_stack (·.graphviz) (fun _ _ => rfl) rfl layers)

/-! ### Options files -/

def OutputOptions.directories (o : OutputOptions) : List (String × Option Path) :=
  [("dot", o.dot), ("image", o.image), ("html", o.html)]

def OutputOptions.missing? (o : OutputOptions) : Option String :=
  (o.directories.find? fun d => d.2.isNone).map Prod.fst

/-- A layer that has all that an options file says, and nothing else: the directories are all set or
none is. -/
structure OptionsFile.Conveys (o : OptionsFile) (layer : SettingsLayer) : Prop where
  name : layer.name = o.name
  directories :
    o.output = none ∧ layer.dotDirectory = none ∧ layer.imageDirectory = none ∧
      layer.htmlDirectory = none ∨
    ∃ dot image html, o.output = some ⟨some dot, some image, some html⟩ ∧
      layer.dotDirectory = some dot ∧ layer.imageDirectory = some image ∧
      layer.htmlDirectory = some html
  moduleShape : layer.moduleShape = o.dot.bind DotOptions.shapeModules
  providerShape : layer.providerShape = o.dot.bind DotOptions.shapeProviders
  directiveShape : layer.directiveShape = o.dot.bind DotOptions.shapeDirectives
  colorScheme : layer.colorScheme = o.dot.bind DotOptions.colorScheme
  template : layer.template = o.template
  graphviz : layer.graphviz = o.graphviz

theorem OutputOptions.missing?_eq_none_iff {o : OutputOptions} :
    o.missing? = none ↔ ∃ dot image html, o = ⟨some dot, some image, some html⟩ := by
  obtain ⟨_ | dot, _ | image, _ | html⟩ := o <;> simp [missing?, directories]

namespace OptionsFile

variable {o : OptionsFile}

theorem toLayer_of_missing {output : OutputOptions} (houtput : o.output = some output)
    {name : String} (hname : output.missing? = some name) :
    o.toLayer = .error (.incompleteOutput name) := by
  obtain ⟨_ | dot, _ | image, _ | html⟩ := output <;> cases hname <;>
    simp only [toLayer, houtput] <;> rfl

theorem exists_conveys (houtput : ∀ output, o.output = some output → output.missing? = none) :
    ∃ layer, o.toLayer = .ok layer ∧ o.Conveys layer := by
  have hlooks {α : Type} (get : DotOptions → Option α) (hget : get {} = none) :
      get (o.dot.getD {}) = o.dot.bind get := by
    cases o.dot with
    | none => exact hget
    | some looks => rfl
  have hmodule := hlooks DotOptions.shapeModules rfl
  have hprovider := hlooks DotOptions.shapeProviders rfl
  have hdirective := hlooks DotOptions.shapeDirectives rfl
  have hscheme := hlooks DotOptions.colorScheme rfl
  cases hblock : o.output with
  | none =>
      refine ⟨_, by simp only [toLayer, hblock]; rfl, ?_⟩
      exact ⟨rfl, Or.inl ⟨hblock, rfl, rfl, rfl⟩, hmodule, hprovider, hdirective, hscheme, rfl, rfl⟩
  | some output =>
      obtain ⟨dot, image, html, rfl⟩ := OutputOptions.missing?_eq_none_iff.1 (houtput output hblock)
      refine ⟨_, by simp only [toLayer, hblock]; rfl, ?_⟩
      exact ⟨rfl, Or.inr ⟨dot, image, html, hblock, rfl, rfl, rfl⟩, hmodule, hprovider, hdirective,
        hscheme, rfl, rfl⟩

/-- An options file says what each field of its layer is. -/
theorem Conveys.unique {l m : SettingsLayer} (hl : o.Conveys l) (hm : o.Conveys m) : l = m := by
  have hdirectories : l.dotDirectory = m.dotDirectory ∧ l.imageDirectory = m.imageDirectory ∧
      l.htmlDirectory = m.htmlDirectory := by
    rcases hl.directories with ⟨hl, hldot, hlimage, hlhtml⟩ |
        ⟨dot, image, html, hl, hldot, hlimage, hlhtml⟩ <;>
      rcases hm.directories with ⟨hm, hmdot, hmimage, hmhtml⟩ |
        ⟨dot', image', html', hm, hmdot, hmimage, hmhtml⟩ <;>
      cases hl.symm.trans hm <;>
      exact ⟨hldot.trans hmdot.symm, hlimage.trans hmimage.symm, hlhtml.trans hmhtml.symm⟩
  obtain ⟨hdot, himage, hhtml⟩ := hdirectories
  have hname := hl.name.trans hm.name.symm
  have hmodule := hl.moduleShape.trans hm.moduleShape.symm
  have hprovider := hl.providerShape.trans hm.providerShape.symm
  have hdirective := hl.directiveShape.trans hm.directiveShape.symm
  have hscheme := hl.colorScheme.trans hm.colorScheme.symm
  have htemplate := hl.template.trans hm.template.symm
  have hgraphviz := hl.graphviz.trans hm.graphviz.symm
  cases l
  cases m
  simp only [SettingsLayer.mk.injEq]
  exact ⟨hname, hdot, himage, hhtml, hmodule, hprovider, hdirective, hscheme, htemplate, hgraphviz⟩

/-- A layer comes of an options file if its block of directories lacks nothing or is not there, and
otherwise the first directory that it lacks is reported. -/
theorem verdict_toLayer (o : OptionsFile) :
    Verdict o.Conveys (fun e => ∃ output name, o.output = some output ∧
      output.missing? = some name ∧ e = .incompleteOutput name) o.toLayer := by
  by_cases hmissing : ∃ output name, o.output = some output ∧ output.missing? = some name
  · obtain ⟨output, name, houtput, hname⟩ := hmissing
    rw [toLayer_of_missing houtput hname]
    refine .of_error ⟨output, name, houtput, hname, rfl⟩ ?_ fun layer hlayer => ?_
    · rintro e ⟨output', name', houtput', hname', rfl⟩
      cases houtput.symm.trans houtput'
      cases hname.symm.trans hname'
      rfl
    · rcases hlayer.directories with ⟨hnone, -⟩ | ⟨dot, image, html, hsome, -⟩
      · cases houtput.symm.trans hnone
      · cases houtput.symm.trans hsome
        cases hname
  · obtain ⟨layer, hlayer, hconveys⟩ := exists_conveys fun output houtput =>
      Option.eq_none_iff_forall_ne_some.2 fun name hname => hmissing ⟨output, name, houtput, hname⟩
    rw [hlayer]
    refine .of_ok hconveys (fun _ h => h.unique hconveys) ?_
    rintro e ⟨output, name, houtput, hname, -⟩
    exact hmissing ⟨output, name, houtput, hname⟩

end OptionsFile

/-- How settings come about. A stack of layers, completed by the defaults, has in each field what
the last layer says that sets it, and the directories follow the name that prevails. Layers can be
stacked in groups, and an empty one changes nothing. An options file becomes a layer that sets all
directories or none if its block of directories is complete or not there, and otherwise the first
one that is missing is reported. -/
theorem settings_of_layers :
    (∀ layers s, Settings.resolve (SettingsLayer.stack layers) = s ↔ s.FromLayers layers) ∧
    (∀ l m n : SettingsLayer, (l.overlay m).overlay n = l.overlay (m.overlay n)) ∧
    (∀ l : SettingsLayer, SettingsLayer.overlay {} l = l ∧ l.overlay {} = l) ∧
    (∀ groups : List (List SettingsLayer), SettingsLayer.stack groups.flatten =
      SettingsLayer.stack (groups.map SettingsLayer.stack)) ∧
    (∀ o : OptionsFile, (∃ layer, o.toLayer = .ok layer) ↔
      o.output = none ∨ ∃ dot image html, o.output = some ⟨some dot, some image, some html⟩) ∧
    ∀ o : OptionsFile, Verdict o.Conveys (fun e => ∃ output name, o.output = some output ∧
      output.missing? = some name ∧ e = .incompleteOutput name) o.toLayer := by
  refine ⟨fun _ _ => Settings.resolve_stack_eq_iff, SettingsLayer.overlay_assoc,
    fun l => ⟨l.empty_overlay, l.overlay_empty⟩, SettingsLayer.stack_flatten, fun o => ?_,
    OptionsFile.verdict_toLayer⟩
  constructor
  · rintro ⟨layer, hlayer⟩
    rcases (((OptionsFile.verdict_toLayer o).ok layer).1 hlayer).directories with
      ⟨hnone, -⟩ | ⟨dot, image, html, hsome, -⟩
    · exact Or.inl hnone
    · exact Or.inr ⟨dot, image, html, hsome⟩
  · intro houtput
    obtain ⟨layer, hlayer, -⟩ := OptionsFile.exists_conveys (o := o) fun output hblock => by
      rcases houtput with hnone | hsome
      · cases hnone.symm.trans hblock
      · obtain ⟨dot, image, html, hsome⟩ := hsome
        cases hsome.symm.trans hblock
        rfl
    exact ⟨layer, hlayer⟩

end DecoratorGraph
