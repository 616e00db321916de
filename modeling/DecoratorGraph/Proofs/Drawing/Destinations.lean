import DecoratorGraph.Proofs.Drawing.Layers
import DecoratorGraph.Proofs.Drawing.Stages
import DecoratorGraph.Proofs.FileTree.Confinement

/-!
# Whether artifacts stay in their directories

The path of an artifact is the path of its directory with the name of the drawing appended, and the
name is free text. The three paths always differ in their last components, which end as the stages
do. They stay in their directories exactly if the name has no piece in front of a slash that goes up
and does not start at the root: a name that does replaces the directory. Then a drawing changes
nothing outside of the directories.
-/

namespace DecoratorGraph.Drawing

open FileTree (Kept)

def directory (s : Settings) : Stage → Path
  | .dot => s.dotDirectory
  | .image => s.imageDirectory
  | .html => s.htmlDirectory

/-- What is put behind the name of a drawing in the name of an artifact. -/
def Stage.ending : Stage → String
  | .dot => ".dot"
  | .image => ".svg"
  | .html => ".html"

/-- The pieces of the name of a drawing in front of its last slash. -/
def way (s : Settings) : List String := (Path.mk s.name).pieces.dropLast

/-- The name of a drawing keeps an artifact in its directory. It goes up nowhere on its way, and in
the empty directory does not begin with a dot. A name that starts at the root replaces the
directory, so it has to lead into it by itself. -/
def Keeps (s : Settings) (stage : Stage) : Prop :=
  if (Path.mk s.name).isAbsolute then
    (Path.mk (s.name ++ stage.ending)).Within (directory s stage)
  else ".." ∉ way s ∧ ((directory s stage).text = "" → (way s).head? ≠ some ".")

variable {s : Settings} {stage : Stage}

theorem artifact_eq (s : Settings) (stage : Stage) :
    artifact s stage = (directory s stage).join ⟨s.name ++ stage.ending⟩ := by
  cases stage <;> rfl

theorem isAbsolute_append_ending (name : String) (stage : Stage) :
    (Path.mk (name ++ stage.ending)).isAbsolute = (Path.mk name).isAbsolute := by
  unfold Path.isAbsolute
  rw [String.toList_append]
  cases name.toList with
  | nil => cases stage <;> decide
  | cons c cs => rfl

/-- Behind the way of the name comes one more piece, which ends as the stage does. -/
theorem exists_split_name (s : Settings) :
    ∃ before piece, way s = before.map String.ofList ∧
      ∀ stage : Stage, Text.split '/' (s.name ++ stage.ending).toList =
        before ++ [piece ++ stage.ending.toList] := by
  obtain ⟨before, piece, hname, hmore⟩ := Text.exists_split_append '/' s.name.toList
  refine ⟨before, piece, ?_, fun stage => ?_⟩
  · rw [way, Path.pieces, hname, List.map_append, List.map_singleton, List.dropLast_concat]
  · rw [String.toList_append]
    exact hmore _ (by cases stage <;> decide)

theorem three_le_length_ending (piece : List Char) (stage : Stage) :
    3 ≤ (piece ++ stage.ending.toList).length := by
  have hending : 3 ≤ stage.ending.toList.length := by cases stage <;> decide
  rw [List.length_append]
  omega

/-- An artifact stays in its directory exactly if the name keeps it there. -/
theorem within_artifact_iff : (artifact s stage).Within (directory s stage) ↔ Keeps s stage := by
  rw [artifact_eq, Keeps]
  split
  · next habsolute =>
      rw [← isAbsolute_append_ending s.name stage] at habsolute
      rw [Path.join, habsolute, Bool.true_or, if_pos rfl]
  · next hrelative =>
      rw [← isAbsolute_append_ending s.name stage, Bool.not_eq_true] at hrelative
      obtain ⟨before, piece, hway, hsplit⟩ := exists_split_name s
      have hlast : ∀ name : String, name.toList.length < 3 →
          String.ofList (piece ++ stage.ending.toList) ≠ name := by
        rintro name hshort rfl
        rw [String.toList_ofList] at hshort
        exact Nat.not_lt.2 (three_le_length_ending piece stage) hshort
      have hpieces : (Path.mk (s.name ++ stage.ending)).pieces =
          way s ++ [String.ofList (piece ++ stage.ending.toList)] := by
        rw [Path.pieces, hsplit, List.map_append, List.map_singleton, hway]
      have hup : ".." ∉ (Path.mk (s.name ++ stage.ending)).pieces ↔ ".." ∉ way s := by
        rw [hpieces, List.mem_append, List.mem_singleton,
          or_iff_left (hlast ".." (by decide)).symm]
      have hhead : (Path.mk (s.name ++ stage.ending)).pieces.head? ≠ some "." ↔
          (way s).head? ≠ some "." := by
        rw [hpieces]
        cases way s with
        | nil => simpa using hlast "." (by decide)
        | cons first rest => rfl
      rw [Path.within_join_iff hrelative, hup, hhead]

/-- A name without slashes keeps every artifact in its directory. -/
theorem keeps_of_not_mem (h : '/' ∉ s.name.toList) (stage : Stage) : Keeps s stage := by
  have hway : way s = [] := by
    rw [way, Path.pieces, Text.split_of_not_mem h]
    rfl
  have hrelative : (Path.mk s.name).isAbsolute = false := by
    rw [← Bool.not_eq_true, Path.isAbsolute]
    intro habsolute
    exact h (List.mem_of_mem_head? (by simpa using habsolute))
  rw [Keeps, hrelative, if_neg Bool.false_ne_true, hway]
  exact ⟨List.not_mem_nil, fun _ => by simp⟩

/-- The last component of an artifact tells its stage. -/
theorem exists_getLast?_artifact (s : Settings) :
    ∃ piece : List Char, ∀ stage : Stage, (artifact s stage).components.getLast? =
      some (.normal (String.ofList (piece ++ stage.ending.toList))) := by
  obtain ⟨before, piece, -, hsplit⟩ := exists_split_name s
  refine ⟨piece, fun stage => ?_⟩
  obtain ⟨front, hfront⟩ := Path.exists_split_join (directory s stage) ⟨s.name ++ stage.ending⟩
  rw [hsplit, ← List.append_assoc] at hfront
  rw [artifact_eq]
  exact Path.getLast?_components hfront (three_le_length_ending piece stage)

theorem artifact_same_eq_false {a b : Stage} (hab : a ≠ b) :
    (artifact s a).same (artifact s b) = false := by
  rw [Bool.eq_false_iff]
  intro hsame
  obtain ⟨piece, hlast⟩ := exists_getLast?_artifact s
  have hcomponent := hlast a
  rw [Path.same_iff.1 hsame, hlast b, Option.some.injEq, Path.Component.normal.injEq,
    ← String.toList_inj, String.toList_ofList, String.toList_ofList] at hcomponent
  have hending := List.append_cancel_left hcomponent
  cases a <;> cases b <;> first | exact hab rfl | cases hending

/-- A drawing whose name keeps all artifacts in their directories changes nothing outside of them,
if no link is on the way to an artifact. -/
theorem kept_of_keeps {tool : Tool} {records : List Record} {t u : FileTree}
    {result : Except DrawingError Unit} (hfree : ∀ stage, t.LinkFree (artifact s stage))
    (htool : WritesImageOnly tool s) (hkeeps : ∀ stage, Keeps s stage)
    (h : render tool s records t = (u, result)) {p : Place}
    (hp : ∀ stage, ¬ t.place (directory s stage) <+: p) : Kept t u p := by
  unfold render at h
  split at h
  · refine (draw_endsInStages hfree htool h).frame p fun stage => ?_
    rintro rfl
    obtain ⟨names, hnames⟩ :=
      FileTree.exists_place_eq_append (within_artifact_iff.2 (hkeeps stage)) t
    exact hp stage ⟨names, hnames.symm⟩
  · cases h
    exact Or.inl rfl

/-- Where the artifacts of a drawing go, whatever its layers of settings are. The three paths are
different. Each stays in its directory, that is, goes on with names behind the components of the
directory, exactly if the name of the drawing keeps it there, as a name without slashes does; a name
that starts at the root takes the place of the directory. If the name keeps all of them, the drawing
changes nothing outside of the directories. -/
theorem artifacts_within_iff (layers : List SettingsLayer) :
    let s := Settings.resolve (SettingsLayer.stack layers)
    (∀ a b : Stage, a ≠ b → (artifact s a).same (artifact s b) = false) ∧
    (∀ stage, (artifact s stage).Within (directory s stage) ↔ Keeps s stage) ∧
    ('/' ∉ s.name.toList → ∀ stage, Keeps s stage) ∧
    ((Path.mk s.name).isAbsolute = true →
      ∀ stage, artifact s stage = ⟨s.name ++ Stage.ending stage⟩) ∧
    ∀ (tool : Tool) (records : List Record) (t u : FileTree) (result : Except DrawingError Unit),
      (∀ stage, t.LinkFree (artifact s stage)) → WritesImageOnly tool s →
      (∀ stage, Keeps s stage) → render tool s records t = (u, result) →
      ∀ p, (∀ stage, ¬ t.place (directory s stage) <+: p) → Kept t u p := by
  intro s
  refine ⟨fun a b => artifact_same_eq_false, fun stage => within_artifact_iff,
    keeps_of_not_mem, fun habsolute stage => ?_,
    fun tool records t u result hfree htool hkeeps h p => kept_of_keeps hfree htool hkeeps h⟩
  rw [← isAbsolute_append_ending s.name stage] at habsolute
  rw [artifact_eq, Path.join, habsolute, Bool.true_or, if_pos rfl]

/-- A name that starts at the root does not care for the directory. -/
example : (Settings.resolve { name := some "/x", dotDirectory := some ⟨"out/dot"⟩ }).dotFile =
    ⟨"/x.dot"⟩ := by
  decide

end DecoratorGraph.Drawing
