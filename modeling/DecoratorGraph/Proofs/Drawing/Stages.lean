import Mathlib.Data.List.Basic
import DecoratorGraph.Drawing.Artifacts
import DecoratorGraph.Proofs.FileTree.Changes

/-!
# Drawings that fail on the way

The three artifacts have names with different ends, so they go to different places as long as no
link is on their ways. Each stage changes the place of its own artifact at most, makes directories
where nothing stood, and leaves its artifact complete if it succeeds. Put together: a drawing that
fails keeps what the stages before the failure have made, and later artifacts are what they were.
-/

namespace DecoratorGraph

namespace Path

theorem getLast?_join {p q : Path} {c : Char} (h : q.text.toList.getLast? = some c) :
    (p.join q).text.toList.getLast? = some c := by
  unfold join
  split
  · exact h
  · split <;> simp [h, List.getLast?_cons]

end Path

namespace Drawing

open FileTree (Kept Changed Grown WrittenAt)

/-! ### Where the artifacts go -/

def artifact (s : Settings) : Stage → Path
  | .dot => s.dotFile
  | .image => s.imageFile
  | .html => s.htmlFile

def Stage.lastCharacter : Stage → Char
  | .dot => 't'
  | .image => 'g'
  | .html => 'l'

theorem getLast?_artifact (s : Settings) (stage : Stage) :
    (artifact s stage).text.toList.getLast? = some stage.lastCharacter := by
  cases stage <;> exact Path.getLast?_join (by simp; rfl)

theorem place_artifact_inj {t : FileTree} {s : Settings} {a b : Stage}
    (h : t.place (artifact s a) = t.place (artifact s b)) : a = b := by
  have hname (stage : Stage) := FileTree.exists_place_eq (t := t) (getLast?_artifact s stage)
    (by cases stage <;> decide) (by cases stage <;> decide)
  obtain ⟨above, name, hplace, hlast⟩ := hname a
  obtain ⟨above', name', hplace', hlast'⟩ := hname b
  rw [hplace, hplace'] at h
  obtain ⟨-, hsame⟩ := List.append_inj' h rfl
  cases hsame
  have hcharacter := Option.some.inj (hlast.symm.trans hlast')
  cases a <;> cases b <;> first | rfl | cases hcharacter

/-! ### One stage -/

/-- The tool changes the file at most that its arguments name for the image. -/
def WritesImageOnly (tool : Tool) (s : Settings) : Prop :=
  ∀ t run, tool t s.graphviz (toolArguments s) = .ok run →
    WrittenAt (fun p => t.locate s.imageFile = .ok p) t run.tree

section Stage

variable {tool : Tool} {s : Settings} {template : String} {records : List Record}
  {t u : FileTree} {result : Except DrawingError Unit}

theorem stepOf_eq {stage : Stage} {access : FileTree × Except IoError Unit}
    (h : stepOf stage access = (u, result)) :
    ∃ ending, access = (u, ending) ∧
      result = ending.mapError fun e => .failed stage (.access e) := by
  obtain ⟨v, ending⟩ := access
  cases h
  exact ⟨ending, rfl, rfl⟩

theorem drawDot_cases (hfree : t.LinkFree s.dotFile)
    (h : drawDot s template records t = (u, result)) :
    (∃ cause, result = .error (.failed .dot cause) ∧ Grown t u) ∨
      result = .ok () ∧ Changed (· = t.place s.dotFile) t u ∧
        u.ReadsAt s.dotFile (t.place s.dotFile)
          (Text.Utf8.encode (dotText s template records)) := by
  obtain ⟨ending, hwrite, rfl⟩ := stepOf_eq h
  cases ending with
  | error e =>
      obtain ⟨e', -, hgrown⟩ | ⟨hok, -⟩ := FileTree.writeText_cases hwrite
      · exact Or.inl ⟨_, rfl, hgrown⟩
      · cases hok
  | ok _ => exact Or.inr ⟨rfl, hfree.written hwrite⟩

/-- The tool cannot be called and changes nothing, or it leaves its tree, and the image is made if
it exits with 0. -/
theorem runTool_cases (h : runTool tool s t = (u, result)) :
    (∃ cause, result = .error (.failed .image cause) ∧ u = t) ∨
      ∃ run, tool t s.graphviz (toolArguments s) = .ok run ∧ u = run.tree ∧
        ((∃ cause, result = .error (.failed .image cause)) ∨
          result = .ok () ∧ run.ending = .exited 0) := by
  unfold runTool at h
  cases hcall : tool t s.graphviz (toolArguments s) with
  | error e =>
      rw [hcall] at h
      cases h
      exact Or.inl ⟨_, rfl, rfl⟩
  | ok run =>
      rw [hcall] at h
      dsimp only at h
      split at h
      · rename_i hending
        cases h
        exact Or.inr ⟨run, rfl, rfl, Or.inr ⟨rfl, hending⟩⟩
      · cases h
        exact Or.inr ⟨run, rfl, rfl, Or.inl ⟨_, rfl⟩⟩

theorem drawImage_cases (htool : WritesImageOnly tool s) (hfree : t.LinkFree s.imageFile)
    (h : drawImage tool s t = (u, result)) :
    Changed (· = t.place s.imageFile) t u ∧
      ((∃ cause, result = .error (.failed .image cause)) ∨
        result = .ok () ∧ ∃ run,
          tool (t.makeParents s.imageFile).1 s.graphviz (toolArguments s) = .ok run ∧
          run.ending = .exited 0 ∧ u = run.tree) := by
  have hparents : Changed (· = t.place s.imageFile) t (t.makeParents s.imageFile).1 :=
    (FileTree.grown_makeParents t s.imageFile).changed _
  rcases hmade : t.makeParents s.imageFile with ⟨v, made⟩
  rw [hmade] at hparents
  unfold drawImage at h
  rw [hmade] at h
  cases made with
  | error e =>
      cases h
      exact ⟨hparents, Or.inl ⟨_, rfl⟩⟩
  | ok _ =>
      have hrun : runTool tool s v = (u, result) := h
      obtain ⟨cause, rfl, rfl⟩ | ⟨run, hcall, rfl, hending⟩ := runTool_cases hrun
      · exact ⟨hparents, Or.inl ⟨cause, rfl⟩⟩
      · refine ⟨hparents.trans ((htool v run hcall).changed.mono fun p hp => ?_), ?_⟩
        · rw [← hparents.place_eq]
          exact (hparents.linkFree hfree).eq_place hp
        · exact hending.imp_right fun ⟨hok, hexit⟩ => ⟨hok, run, hcall, hexit, rfl⟩

theorem drawDocument_cases (hfree : t.LinkFree s.htmlFile)
    (h : drawDocument s t = (u, result)) :
    (∃ cause, result = .error (.failed .html cause) ∧ Grown t u ∧
        (u = t ∨ ∃ svg, t.readText s.imageFile = .ok svg)) ∨
      result = .ok () ∧ ∃ svg, t.readText s.imageFile = .ok svg ∧
        Changed (· = t.place s.htmlFile) t u ∧
        u.readBytes s.htmlFile = .ok (Text.Utf8.encode (htmlDocument s.name svg)) := by
  unfold drawDocument at h
  split at h
  · cases h
    exact Or.inl ⟨_, rfl, Grown.refl t, Or.inl rfl⟩
  · rename_i svg hsvg
    obtain ⟨ending, hwrite, rfl⟩ := stepOf_eq h
    cases ending with
    | error e =>
        obtain ⟨e', -, hgrown⟩ | ⟨hok, -⟩ := FileTree.writeText_cases hwrite
        · exact Or.inl ⟨_, rfl, hgrown, Or.inr ⟨svg, hsvg⟩⟩
        · cases hok
    | ok _ =>
        obtain ⟨hchanged, hreads⟩ := hfree.written hwrite
        exact Or.inr ⟨rfl, svg, hsvg, hchanged, hreads.2⟩

end Stage

/-! ### The whole drawing -/

def render (tool : Tool) (s : Settings) (records : List Record) (t : FileTree) : Step :=
  match loadTemplate s t with
  | .ok template => draw tool s template records t
  | .error e => (t, .error e)

/-- The place of a stage in the order of the stages. -/
def Stage.number : Stage → Nat
  | .dot => 0
  | .image => 1
  | .html => 2

def beforeTool (s : Settings) (template : String) (records : List Record) (t : FileTree) :
    FileTree := ((drawDot s template records t).1.makeParents s.imageFile).1

/-- In the second tree the artifact of a stage is complete: the text of the graph, the image as
the tool left it, the document around this image. -/
def Complete (tool : Tool) (s : Settings) (template : String) (records : List Record)
    (t u : FileTree) : Stage → Prop
  | .dot => u.readBytes s.dotFile = .ok (Text.Utf8.encode (dotText s template records))
  | .image => ∃ run,
      tool (beforeTool s template records t) s.graphviz (toolArguments s) = .ok run ∧
      run.ending = .exited 0 ∧
      u.node? (t.place s.imageFile) = run.tree.node? (t.place s.imageFile)
  | .html => ∃ svg, u.readText s.imageFile = .ok svg ∧
      u.readBytes s.htmlFile = .ok (Text.Utf8.encode (htmlDocument s.name svg))

/-- How a drawing ends: with all artifacts, or in a stage that fails after those before it have
made theirs, while those after it have not touched theirs. -/
structure EndsInStages (tool : Tool) (s : Settings) (template : String) (records : List Record)
    (t u : FileTree) (result : Except DrawingError Unit) : Prop where
  complete : result = .ok () → ∀ stage, Complete tool s template records t u stage
  failed : ∀ e, result = .error e → ∃ stage, e.stage? = some stage ∧
    (∀ a : Stage, a.number < stage.number → Complete tool s template records t u a) ∧
    (∀ a : Stage, stage.number < a.number → Kept t u (t.place (artifact s a))) ∧
    (stage ≠ .image → Kept t u (t.place (artifact s stage)))
  frame : ∀ p, (∀ stage, p ≠ t.place (artifact s stage)) → Kept t u p

theorem Step.next_cases {step : Step} {k : FileTree → Step} {u : FileTree}
    {result : Except DrawingError Unit} (h : step.next k = (u, result)) :
    (∃ e, step = (u, .error e) ∧ result = .error e) ∨
      ∃ v, step = (v, .ok ()) ∧ k v = (u, result) := by
  obtain ⟨v, ending⟩ := step
  cases ending with
  | error e =>
      cases h
      exact Or.inl ⟨e, rfl, rfl⟩
  | ok _ => exact Or.inr ⟨v, rfl, h⟩

section Draw

variable {tool : Tool} {s : Settings} {template : String} {records : List Record}
  {t u : FileTree}

/-- A stage fails as a drawing may end if only the artifacts of stages before it have changed, and
the image if the tool was to make it. -/
theorem EndsInStages.of_error {e : DrawingError} {stage : Stage} (done : List Stage)
    (hstage : e.stage? = some stage)
    (hdone : ∀ a ∈ done, a.number < stage.number ∨ a = stage ∧ stage = .image)
    (hcomplete : ∀ a : Stage, a.number < stage.number → Complete tool s template records t u a)
    (hkept : ∀ p, (∀ a ∈ done, p ≠ t.place (artifact s a)) → Kept t u p) :
    EndsInStages tool s template records t u (.error e) where
  complete := nofun
  failed := by
    rintro _ ⟨⟩
    refine ⟨stage, hstage, hcomplete, fun a ha => hkept _ fun b hb hplace => ?_,
      fun hne => hkept _ fun b hb hplace => ?_⟩
    · obtain rfl := place_artifact_inj hplace
      obtain hlt | ⟨rfl, -⟩ := hdone a hb
      · exact Nat.lt_asymm ha hlt
      · exact Nat.lt_irrefl _ ha
    · obtain rfl := place_artifact_inj hplace
      obtain hlt | ⟨-, himage⟩ := hdone stage hb
      · exact Nat.lt_irrefl _ hlt
      · exact hne himage
  frame p hp := hkept p fun a _ => hp a

theorem place_artifact_ne {a b : Stage} (hab : a ≠ b) :
    t.place (artifact s a) ≠ t.place (artifact s b) :=
  fun hplace => hab (place_artifact_inj hplace)

variable (hfree : ∀ stage, t.LinkFree (artifact s stage)) (htool : WritesImageOnly tool s)

include hfree htool

/-- What holds when the tool has been run or could not be run: the text of the graph is as it was
written, and if the image was made, it is what the tool left. -/
theorem drawImage_after_drawDot {u₁ : FileTree} {result : Except DrawingError Unit}
    (hdot : drawDot s template records t = (u₁, .ok ()))
    (himage : drawImage tool s u₁ = (u, result)) :
    Changed (fun p => p = t.place s.dotFile ∨ p = t.place s.imageFile) t u ∧
      u.ReadsAt s.dotFile (t.place s.dotFile)
        (Text.Utf8.encode (dotText s template records)) ∧
      ((∃ cause, result = .error (.failed .image cause)) ∨
        result = .ok () ∧ ∃ run,
          tool (beforeTool s template records t) s.graphviz (toolArguments s) = .ok run ∧
          run.ending = .exited 0 ∧ u = run.tree) := by
  obtain ⟨_, he, -⟩ | ⟨-, hchanged₁, hreads⟩ := drawDot_cases (hfree .dot) hdot
  · cases he
  obtain ⟨hchanged, hend⟩ := drawImage_cases htool (hchanged₁.linkFree (hfree .image)) himage
  rw [hchanged₁.place_eq] at hchanged
  refine ⟨(hchanged₁.mono fun _ => Or.inl).trans (hchanged.mono fun _ => Or.inr),
    hchanged.readsAt hreads (place_artifact_ne (a := .dot) (b := .image) nofun), ?_⟩
  rwa [beforeTool, hdot]

/-- How a drawing ends whose image was made. The document has no influence on the image: it is
written elsewhere, and if the image cannot be read, nothing at all is done. -/
theorem endsInStages_of_image {u₁ u₂ : FileTree} {result : Except DrawingError Unit}
    (hdot : drawDot s template records t = (u₁, .ok ()))
    (himage : drawImage tool s u₁ = (u₂, .ok ()))
    (hdocument : drawDocument s u₂ = (u, result)) :
    EndsInStages tool s template records t u result := by
  obtain ⟨hchanged, hreads, ⟨_, he⟩ | ⟨-, run, hrun, hending, rfl⟩⟩ :=
    drawImage_after_drawDot hfree htool hdot himage
  · cases he
  have himageAt {svg : String} (hsvg : run.tree.readText s.imageFile = .ok svg) :
      ∃ bytes, run.tree.ReadsAt s.imageFile (t.place s.imageFile) bytes ∧
        Text.Utf8.decode? bytes = some svg := by
    rw [← hchanged.place_eq]
    exact (hchanged.linkFree (hfree .image)).readsAt hsvg
  obtain ⟨cause, rfl, hgrown, hread⟩ | ⟨rfl, svg, hsvg, hdocumentOnly, hbytes⟩ :=
    drawDocument_cases (hchanged.linkFree (hfree .html)) hdocument
  -- Without a document, at most directories were made since the tool ran.
  · refine .of_error [.dot, .image] rfl (by simp [Stage.number]) (fun a ha => ?_) fun p hp =>
      (hchanged.kept (not_or.2 ⟨hp .dot (by simp), hp .image (by simp)⟩)).trans (hgrown.node p)
    cases a with
    | dot => exact ((hgrown.changed fun _ => False).readsAt hreads not_false).2
    | image =>
        refine ⟨run, hrun, hending, ?_⟩
        obtain rfl | ⟨svg, hsvg⟩ := hread
        · rfl
        · obtain ⟨bytes, hsvg, -⟩ := himageAt hsvg
          obtain ⟨n, hn⟩ := hsvg.exists_node?
          rw [hn, hgrown.kept hn]
    | html => exact absurd ha (Nat.lt_irrefl _)
  -- The document stands at a place of its own, so the other two are as they were.
  · rw [hchanged.place_eq] at hdocumentOnly
    obtain ⟨bytes, hsvg, htext⟩ := himageAt hsvg
    have hdotHtml : t.place s.dotFile ≠ t.place s.htmlFile :=
      place_artifact_ne (a := .dot) (b := .html) nofun
    have himageHtml : t.place s.imageFile ≠ t.place s.htmlFile :=
      place_artifact_ne (a := .image) (b := .html) nofun
    refine ⟨fun _ stage => ?_, nofun, fun p hp => ?_⟩
    · cases stage with
      | dot => exact (hdocumentOnly.readsAt hreads hdotHtml).2
      | image =>
          obtain ⟨n, hn⟩ := hsvg.exists_node?
          exact ⟨run, hrun, hending, by rw [hn, (hdocumentOnly.kept himageHtml).node? hn]⟩
      | html =>
          have hsvg' := (hdocumentOnly.readsAt hsvg himageHtml).2
          exact ⟨svg, FileTree.readText_ok_iff.2 ⟨bytes, hsvg', htext⟩, hbytes⟩
    · exact (hchanged.kept (not_or.2 ⟨hp .dot, hp .image⟩)).trans (hdocumentOnly.kept (hp .html))

/-- A drawing ends with all artifacts or in the stage that fails. -/
theorem draw_endsInStages {result : Except DrawingError Unit}
    (h : draw tool s template records t = (u, result)) :
    EndsInStages tool s template records t u result := by
  obtain ⟨e, hsteps, rfl⟩ | ⟨u₂, hsteps, hdocument⟩ := Step.next_cases h
  · obtain ⟨_, hdot, he⟩ | ⟨u₁, hdot, himage⟩ := Step.next_cases hsteps
    · cases he
      obtain ⟨cause, he, hgrown⟩ | ⟨hok, -⟩ := drawDot_cases (hfree .dot) hdot
      · cases he
        exact .of_error [] rfl nofun (fun a ha => absurd ha (Nat.not_lt_zero _))
          fun p _ => hgrown.node p
      · cases hok
    · obtain ⟨hchanged, hreads, ⟨cause, he⟩ | ⟨hok, -⟩⟩ :=
        drawImage_after_drawDot hfree htool hdot himage
      · cases he
        refine .of_error [.dot, .image] rfl (by simp [Stage.number]) (fun a ha => ?_)
          fun p hp => hchanged.kept (not_or.2 ⟨hp .dot (by simp), hp .image (by simp)⟩)
        cases a with
        | dot => exact hreads.2
        | image => exact absurd ha (Nat.lt_irrefl _)
        | html => exact absurd ha (by decide)
      · cases hok
  · obtain ⟨_, -, he⟩ | ⟨u₁, hdot, himage⟩ := Step.next_cases hsteps
    · cases he
    · exact endsInStages_of_image hfree htool hdot himage hdocument

/-- A drawing whose template cannot be loaded leaves the files alone. Any other one ends with all
artifacts, or in a stage that fails after those before it have made theirs, while those after it
have not touched theirs. -/
theorem render_endsInStages {result : Except DrawingError Unit}
    (h : render tool s records t = (u, result)) :
    (∃ e, loadTemplate s t = .error e ∧ result = .error e ∧ u = t) ∨
      ∃ template, loadTemplate s t = .ok template ∧
        EndsInStages tool s template records t u result := by
  unfold render at h
  cases htemplate : loadTemplate s t with
  | error e =>
      rw [htemplate] at h
      cases h
      exact Or.inl ⟨e, rfl, rfl, rfl⟩
  | ok template =>
      rw [htemplate] at h
      exact Or.inr ⟨template, rfl, draw_endsInStages hfree htool h⟩

end Draw

def blankTool : Tool := fun t _ arguments =>
  match t.write ⟨arguments.getLast?.getD ""⟩ (Text.Utf8.encode "<svg/>") with
  | .ok u => .ok ⟨u, .exited 0, []⟩
  | .error _ => .ok ⟨t, .exited 1, []⟩

theorem writesImageOnly_blankTool (s : Settings) : WritesImageOnly blankTool s := by
  intro t run hrun
  unfold blankTool at hrun
  split at hrun
  · rename_i u hwrite
    cases hrun
    exact (WrittenAt.refl _ t).of_write (fun _ hp => hp) hwrite
  · cases hrun
    exact WrittenAt.refl _ t

def ownTemplate : Settings := Settings.resolve { template := some ⟨"own.dot"⟩ }

/-- A tree with that template in which a file stands where the directory for the document should
be. -/
def obstructed : FileTree where
  entries := [(["samples", "dependencies", "html"], .file [] false 0),
    (["samples", "dependencies"], .directory), (["samples"], .directory),
    (["own.dot"], .file (Text.Utf8.encode "graph") false 0)]
  distinct := by decide

/-- The document fails there, and the text of the graph and the image stay. -/
theorem render_of_obstructed :
    (∀ stage, obstructed.LinkFree (artifact ownTemplate stage)) ∧
    WritesImageOnly blankTool ownTemplate ∧
    ∃ u e template, render blankTool ownTemplate [] obstructed = (u, .error e) ∧
      e.stage? = some .html ∧
      Complete blankTool ownTemplate template [] obstructed u .dot ∧
      Complete blankTool ownTemplate template [] obstructed u .image ∧
      Kept obstructed u ["samples", "dependencies", "html"] := by
  have hfree : ∀ stage, obstructed.LinkFree (artifact ownTemplate stage) := by
    refine fun stage => FileTree.linkFree_of_forall (fun p target hn => ?_) _
    by_cases hp : p = []
    · rw [hp, FileTree.node?_nil] at hn
      cases hn
    · have hmem := FileTree.mem_entries_of_node? hp hn
      simp [obstructed] at hmem
  have hresult : (render blankTool ownTemplate [] obstructed).2 =
      .error (.failed .html (.access .alreadyExists)) := by decide +kernel
  have htemplate : loadTemplate ownTemplate obstructed = .ok "graph" := by decide +kernel
  generalize hu : render blankTool ownTemplate [] obstructed = ending at hresult ⊢
  obtain ⟨u, result⟩ := ending
  obtain rfl : result = _ := hresult
  refine ⟨hfree, writesImageOnly_blankTool _, ?_⟩
  obtain ⟨e, hnone, -⟩ | ⟨template, -, hends⟩ :=
    render_endsInStages hfree (writesImageOnly_blankTool _) hu
  · rw [htemplate] at hnone
    cases hnone
  · obtain ⟨stage, hstage, hcomplete, -⟩ := hends.failed _ rfl
    cases hstage
    exact ⟨u, _, template, rfl, rfl, hcomplete .dot (by decide), hcomplete .image (by decide),
      hends.frame _ fun stage => by cases stage <;> decide +kernel⟩

end Drawing

end DecoratorGraph
