import DecoratorGraph.Extraction

/-!
# Extraction at another path

The path of a file is carried into its records and its errors and is looked at nowhere else.
So the records of the same declarations at another path are those records with the path
replaced, and likewise for an error. In particular every record names the file that it comes
from.
-/

namespace DecoratorGraph

/-- The record with another file. -/
def Record.at (q : Path) (r : Record) : Record := ⟨r.name, q, r.dependencies⟩

def ExtractionError.at (q : Path) : ExtractionError → ExtractionError
  | .unresolvedCallee _ declaration annotation => .unresolvedCallee q declaration annotation
  | .malformedConfig _ declaration property found => .malformedConfig q declaration property found
  | .missingName _ line => .missingName q line

/-- The outcome of an extraction with another file, `move` being what becomes of the result. -/
def relocate {α β : Type} (q : Path) (move : α → β) :
    Except ExtractionError α → Except ExtractionError β
  | .ok x => .ok (move x)
  | .error e => .error (e.at q)

theorem relocate_bind {α β γ δ : Type} {q : Path} {move : α → β} {move' : γ → δ}
    {x : Except ExtractionError α} {y : Except ExtractionError β}
    {f : α → Except ExtractionError γ} {g : β → Except ExtractionError δ}
    (hx : y = relocate q move x) (hf : ∀ a, g (move a) = relocate q move' (f a)) :
    (y >>= g) = relocate q move' (x >>= f) := by
  subst hx
  cases x with
  | error e => rfl
  | ok a => exact hf a

theorem relocate_mapM {α β γ : Type} {q : Path} {move : β → γ}
    {f : α → Except ExtractionError β} {g : α → Except ExtractionError γ}
    (h : ∀ a, g a = relocate q move (f a)) (l : List α) :
    l.mapM g = relocate q (List.map move) (l.mapM f) := by
  induction l with
  | nil => rfl
  | cons a l ih =>
      rw [List.mapM_cons, List.mapM_cons]
      exact relocate_bind (h a) fun b => relocate_bind ih fun bs => rfl

section Values

variable {p q : Path} {name : String}

theorem elementEntry_at (property : String) (e : Expr) :
    elementEntry ⟨q, name⟩ property e = relocate q id (elementEntry ⟨p, name⟩ property e) := by
  cases e with
  | call callee arguments => cases arguments <;> rfl
  | _ => rfl

theorem valueEntries_at (property : String) (value : Expr) :
    valueEntries ⟨q, name⟩ property value =
      relocate q id (valueEntries ⟨p, name⟩ property value) := by
  unfold valueEntries
  cases ConfigValue.ofExpr value with
  | string text => rfl
  | array items => simpa using relocate_mapM (elementEntry_at property) items
  | other found => rfl

theorem Category.entries?_at (c : Category) (members : List Property) :
    c.entries? ⟨q, name⟩ members = relocate q id (c.entries? ⟨p, name⟩ members) := by
  refine relocate_bind (relocate_mapM (fun m : Property => valueEntries_at c.key m.value) _) ?_
  intro values
  simp [relocate, pure, Except.pure]

theorem Annotation.dependencies_at (a : Annotation) :
    a.dependencies ⟨q, name⟩ = relocate q id (a.dependencies ⟨p, name⟩) := by
  unfold Annotation.dependencies
  split
  · rfl
  · refine relocate_bind (Category.entries?_at .directives _) fun directives => ?_
    refine relocate_bind (Category.entries?_at .providers _) fun providers => ?_
    exact relocate_bind (Category.entries?_at .templateUrl _) fun templateUrl => rfl
  · rfl

end Values

namespace Declaration

theorem matching_at (isMatch : String → Bool) (p q : Path) (d : Declaration) :
    d.matching isMatch q = relocate q id (d.matching isMatch p) := by
  unfold matching
  refine relocate_bind (@relocate_mapM _ _ _ q id _ _ (fun a => ?_) d.annotations) fun named => ?_
  · cases a.callee <;> rfl
  · simp [relocate, pure, Except.pure]

theorem record_at (p q : Path) (d : Declaration) (dependencies : Dependencies) :
    d.record q dependencies = relocate q (Record.at q) (d.record p dependencies) := by
  unfold record
  split
  · split <;> rfl
  · rfl

theorem records_at (isMatch : String → Bool) (p q : Path) (d : Declaration) :
    d.records isMatch q = relocate q (List.map (Record.at q)) (d.records isMatch p) := by
  refine relocate_bind (matching_at isMatch p q d) fun matched => ?_
  refine relocate_mapM (fun a => ?_) matched
  exact relocate_bind a.dependencies_at fun dependencies => d.record_at p q dependencies

end Declaration

/-- The records of the same declarations at another path. -/
theorem ParsedFile.records_at (isMatch : String → Bool) (p q : Path)
    (declarations : List Declaration) :
    (⟨q, declarations⟩ : ParsedFile).records isMatch =
      relocate q (List.map (Record.at q)) ((⟨p, declarations⟩ : ParsedFile).records isMatch) := by
  refine relocate_bind (relocate_mapM (fun d => d.records_at isMatch p q) declarations) ?_
  intro perDeclaration
  simp [relocate, pure, Except.pure, List.map_flatten]

/-- Every record names the file that it comes from. -/
theorem ParsedFile.file_of_mem_records {isMatch : String → Bool} {file : ParsedFile}
    {records : List Record} (h : file.records isMatch = .ok records) {r : Record}
    (hr : r ∈ records) : r.file = file.path := by
  have hat := ParsedFile.records_at isMatch file.path file.path file.declarations
  rw [h] at hat
  simp only [relocate, Except.ok.injEq] at hat
  rw [hat] at hr
  obtain ⟨s, -, rfl⟩ := List.mem_map.1 hr
  rfl

end DecoratorGraph
