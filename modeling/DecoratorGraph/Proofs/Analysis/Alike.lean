import DecoratorGraph.Analysis
import DecoratorGraph.Proofs.Extraction.Relocation
import Mathlib.Data.List.Forall2

/-!
# Reports that are alike

A stored parse carries the path under which its file was read first, and a later analysis may
spell that path in another way. So what an analysis gives with a store and without one is
compared up to the spelling of paths: two reports are *alike* if they list the same records and
the same errors in the same order, where paths agree as paths. How many files were found in the
store is left out.

Being alike passes from parses to the records of a file, from files to reports, and through the
concatenation of reports.
-/

namespace DecoratorGraph

/-- Two outcomes of one kind, which are related as failures or as results. -/
inductive AlikeOutcome {ε α : Type} (Error : ε → ε → Prop) (Result : α → α → Prop) :
    Except ε α → Except ε α → Prop
  | error {e e' : ε} (h : Error e e') : AlikeOutcome Error Result (.error e) (.error e')
  | ok {a a' : α} (h : Result a a') : AlikeOutcome Error Result (.ok a) (.ok a')

/-- The same declarations at the same place. -/
structure ParsedFile.Alike (f g : ParsedFile) : Prop where
  path : f.path.same g.path = true
  declarations : f.declarations = g.declarations

structure Record.Alike (r s : Record) : Prop where
  name : r.name = s.name
  file : r.file.same s.file = true
  dependencies : r.dependencies = s.dependencies

/-- The same failure of the same place. -/
inductive ExtractionError.Alike : ExtractionError → ExtractionError → Prop
  | unresolvedCallee {p q : Path} (h : p.same q = true) (declaration annotation : String) :
      Alike (.unresolvedCallee p declaration annotation)
        (.unresolvedCallee q declaration annotation)
  | malformedConfig {p q : Path} (h : p.same q = true) (declaration property found : String) :
      Alike (.malformedConfig p declaration property found)
        (.malformedConfig q declaration property found)
  | missingName {p q : Path} (h : p.same q = true) (line : Nat) :
      Alike (.missingName p line) (.missingName q line)

inductive FileError.Alike : FileError → FileError → Prop
  | unreadable {p q : Path} (h : p.same q = true) (cause : IoError) :
      Alike (.unreadable p cause) (.unreadable q cause)
  | extraction {e e' : ExtractionError} (h : e.Alike e') : Alike (.extraction e) (.extraction e')

structure Report.Alike (r s : Report) : Prop where
  records : List.Forall₂ Record.Alike r.records s.records
  errors : List.Forall₂ (fun e e' => e.1.same e'.1 = true ∧ e.2.Alike e'.2) r.errors s.errors
  filesAnalyzed : r.filesAnalyzed = s.filesAnalyzed

/-! ### Parses -/

theorem ParsedFile.Alike.refl (f : ParsedFile) : f.Alike f := ⟨Path.same_refl _, rfl⟩

theorem FileError.Alike.refl (e : FileError) : e.Alike e := by
  cases e with
  | unreadable path cause => exact .unreadable (Path.same_refl path) cause
  | extraction cause =>
      refine .extraction ?_
      cases cause with
      | unresolvedCallee file _ _ => exact .unresolvedCallee (Path.same_refl file) _ _
      | malformedConfig file _ _ _ => exact .malformedConfig (Path.same_refl file) _ _ _
      | missingName file _ => exact .missingName (Path.same_refl file) _

/-- A failure in a file becomes, in a file at the same place, the same failure. -/
theorem ExtractionError.alike_at {p q : Path} (h : p.same q = true) (e : ExtractionError) :
    (e.at p).Alike (e.at q) := by
  cases e with
  | unresolvedCallee _ _ _ => exact .unresolvedCallee h _ _
  | malformedConfig _ _ _ _ => exact .malformedConfig h _ _ _
  | missingName _ _ => exact .missingName h _

/-- Alike parses have alike records. Both are the records at some path, moved to their own. -/
theorem ParsedFile.Alike.records {f g : ParsedFile} (h : f.Alike g) (isMatch : String → Bool) :
    AlikeOutcome ExtractionError.Alike (List.Forall₂ Record.Alike) (f.records isMatch)
      (g.records isMatch) := by
  obtain ⟨p, declarations⟩ := f
  obtain ⟨q, declarations'⟩ := g
  obtain ⟨hpath, hdeclarations⟩ := h
  cases hdeclarations
  have hp := ParsedFile.records_at isMatch p p declarations
  have hq := ParsedFile.records_at isMatch p q declarations
  rw [hp, hq]
  cases ParsedFile.records isMatch ⟨p, declarations⟩ with
  | error e => exact .error (e.alike_at hpath)
  | ok records =>
      refine .ok ?_
      rw [List.forall₂_map_left_iff, List.forall₂_map_right_iff, List.forall₂_same]
      intro r _
      exact ⟨rfl, hpath, rfl⟩

/-- Files that are loaded alike have alike records. -/
theorem Loading.records_alike {l m : Loading}
    (h : AlikeOutcome FileError.Alike ParsedFile.Alike l.result m.result)
    (isMatch : String → Bool) :
    AlikeOutcome FileError.Alike (List.Forall₂ Record.Alike) (l.records isMatch)
      (m.records isMatch) := by
  unfold Loading.records
  generalize l.result = x at h
  generalize m.result = y at h
  cases h with
  | error h => exact .error h
  | ok h =>
      simp only [bind, Except.bind, ParsedFile.outcome]
      have hrecords := h.records isMatch
      generalize ParsedFile.records isMatch _ = x at hrecords
      generalize ParsedFile.records isMatch _ = y at hrecords
      cases hrecords with
      | error h => exact .error (.extraction h)
      | ok h => exact .ok h

/-! ### Reports -/

namespace Report

theorem Alike.empty : Alike {} {} := ⟨.nil, .nil, rfl⟩

theorem Alike.append {r r' s s' : Report} (h : r.Alike r') (h' : s.Alike s') :
    (r ++ s).Alike (r' ++ s') :=
  ⟨List.rel_append h.records h'.records, List.rel_append h.errors h'.errors,
    congrArg₂ (· + ·) h.filesAnalyzed h'.filesAnalyzed⟩

theorem alike_ofFile (path : Path) (hit hit' : Bool) {x y : Except FileError (List Record)}
    (h : AlikeOutcome FileError.Alike (List.Forall₂ Record.Alike) x y) :
    (ofFile path hit x).Alike (ofFile path hit' y) := by
  cases h with
  | error h => exact ⟨.nil, .cons ⟨Path.same_refl path, h⟩ .nil, rfl⟩
  | ok h => exact ⟨h, .nil, rfl⟩

end Report

end DecoratorGraph
