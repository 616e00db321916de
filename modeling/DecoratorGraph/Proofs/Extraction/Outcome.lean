import DecoratorGraph.Proofs.Extraction.Configuration

/-!
# What the extraction of a file yields, and how it fails

A declaration is well formed if every decorator has a callee, the decorators of interest give
lists, and it has a name should there be one of interest. A file yields records exactly if all
its annotated declarations are well formed. Otherwise it fails as the first declaration that is
not: a decorator without a callee comes before all other faults of its declaration, also those of
earlier decorators, and a fault in a configuration comes before a missing name.
`ParsedFile.records_extracts` says all this of the records of a file.
-/

namespace DecoratorGraph

/-! ### Declarations -/

namespace Declaration

variable (isMatch : String → Bool) (file : Path) (d : Declaration)

def ofInterest : List Annotation := d.annotations.filter fun a => a.callee.any isMatch

/-- Every decorator has a callee. -/
def Resolved : Prop := ∀ a ∈ d.annotations, a.callee ≠ none

def Named : Prop := ∃ name, d.name = some name ∧ name ≠ ""

/-- Every decorator has a callee, the decorators of interest give lists, and if there is one the
declaration has a name. -/
structure WellFormed : Prop where
  resolved : d.Resolved
  lists : ∀ a ∈ d.ofInterest isMatch, ∃ dependencies, a.Lists dependencies
  named : d.ofInterest isMatch ≠ [] → d.Named

/-- The record of a declaration for one of its decorators. -/
structure Gives (a : Annotation) (r : Record) : Prop where
  name : d.name = some r.name
  nonempty : r.name ≠ ""
  file : r.file = file
  lists : a.Lists r.dependencies

/-- Why a decorator gives no record. The name is asked for after the configuration. -/
inductive Refuses (a : Annotation) : ExtractionError → Prop
  | config {fault : String × String} (h : a.Misconfigured fault) :
      Refuses a (.malformedConfig file d.displayName fault.1 fault.2)
  | name {dependencies : Dependencies} (h : a.Lists dependencies) (hname : ¬d.Named) :
      Refuses a (.missingName file d.line)

/-- How a declaration fails: with the first decorator that has no callee, of interest or not,
and if all have one with the first decorator of interest that gives no record. -/
inductive Fails : ExtractionError → Prop
  | callee {before after : List Annotation} {a : Annotation}
      (h : d.annotations = before ++ a :: after) (hbefore : ∀ b ∈ before, b.callee ≠ none)
      (ha : a.callee = none) : Fails (.unresolvedCallee file d.displayName a.text)
  | decorator {e : ExtractionError} (hresolved : d.Resolved)
      (h : FirstFails (d.Gives file) (d.Refuses file) (d.ofInterest isMatch) e) : Fails e

end Declaration

def ParsedFile.ofInterest (isMatch : String → Bool) (file : ParsedFile) :
    List (Declaration × Annotation) :=
  file.declarations.flatMap fun d => (d.ofInterest isMatch).map fun a => (d, a)

/-- The outcome of an extraction: there are records exactly if every annotated declaration is
well formed, one for each decorator of interest, and otherwise the failure is that of the first
declaration that is not. -/
structure ParsedFile.Extracts (isMatch : String → Bool) (file : ParsedFile)
    (outcome : Except ExtractionError (List Record)) : Prop where
  succeeds : (∃ records, outcome = .ok records) ↔
    ∀ d ∈ file.declarations, d.annotations ≠ [] → d.WellFormed isMatch
  records : ∀ records, outcome = .ok records ↔
    (∀ d ∈ file.declarations, d.annotations ≠ [] → d.WellFormed isMatch) ∧
      List.Forall₂ (fun p r => p.1.Gives file.path p.2 r) (file.ofInterest isMatch) records
  fails : ∀ e, outcome = .error e ↔
    ∃ before d after, file.declarations = before ++ d :: after ∧
      (∀ b ∈ before, b.WellFormed isMatch) ∧ d.Fails isMatch file.path e

/-! ### Verdicts on declarations -/

namespace Declaration

variable (isMatch : String → Bool) (file : Path) (d : Declaration)

/-- The decorators whose callee is of interest, if all callees are known. -/
theorem filter_named {l : List Annotation} {named : List (String × Annotation)}
    (h : List.Forall₂ (fun a p => a.callee = some p.1 ∧ p.2 = a) l named) :
    (named.filter fun p => isMatch p.1).map Prod.snd = l.filter fun a => a.callee.any isMatch := by
  induction h with
  | nil => rfl
  | cons ha _ ih =>
      obtain ⟨hcallee, rfl⟩ := ha
      rw [List.filter_cons, List.filter_cons, ← ih, hcallee]
      simp only [Option.any_some]
      split <;> rfl

/-- A callee is known, or its decorator is to blame. -/
theorem verdict_callee (a : Annotation) {x : Except ExtractionError (String × Annotation)}
    (hsome : ∀ callee, a.callee = some callee → x = .ok (callee, a))
    (hnone : a.callee = none → x = .error (.unresolvedCallee file d.displayName a.text)) :
    Verdict (fun p => a.callee = some p.1 ∧ p.2 = a)
      (fun err => a.callee = none ∧ err = .unresolvedCallee file d.displayName a.text) x := by
  cases ha : a.callee with
  | some callee =>
      rw [hsome callee ha]
      refine .of_ok ⟨rfl, rfl⟩ ?_ fun _ h => absurd h.1 (Option.some_ne_none callee)
      rintro ⟨_, _⟩ ⟨hcallee, rfl⟩
      cases hcallee
      rfl
  | none =>
      rw [hnone ha]
      exact .of_error ⟨rfl, rfl⟩ (fun _ h => h.2)
        fun p h => absurd h.1.symm (Option.some_ne_none p.1)

theorem exists_named_iff (a : Annotation) :
    (∃ p : String × Annotation, a.callee = some p.1 ∧ p.2 = a) ↔ a.callee ≠ none := by
  rw [Option.ne_none_iff_exists']
  constructor
  · rintro ⟨p, hp, -⟩
    exact ⟨p.1, hp⟩
  · rintro ⟨callee, h⟩
    exact ⟨(callee, a), h, rfl⟩

theorem verdict_matching :
    Verdict (fun matched => d.Resolved ∧ matched = d.ofInterest isMatch)
      (fun err => ∃ before a after, d.annotations = before ++ a :: after ∧
        (∀ b ∈ before, b.callee ≠ none) ∧ a.callee = none ∧
          err = .unresolvedCallee file d.displayName a.text)
      (d.matching isMatch file) := by
  refine ((Verdict.mapM (fun a => d.verdict_callee file a ?known ?unknown) d.annotations).map
    fun named => (named.filter fun p => isMatch p.1).map Prod.snd).congr (fun matched => ?yields)
      fun err => ?fails
  case known =>
    intro callee ha
    rw [ha]
  case unknown =>
    intro ha
    rw [ha]
  case yields =>
    constructor
    · rintro ⟨named, hnamed, rfl⟩
      refine ⟨fun a ha => (exists_named_iff a).1 (exists_forall₂_iff.1 ⟨named, hnamed⟩ a ha), ?_⟩
      exact filter_named isMatch hnamed
    · rintro ⟨hresolved, rfl⟩
      obtain ⟨named, hnamed⟩ :=
        exists_forall₂_iff.2 fun a ha => (exists_named_iff a).2 (hresolved a ha)
      exact ⟨named, hnamed, (filter_named isMatch hnamed).symm⟩
  case fails => simp only [FirstFails, exists_named_iff]

theorem verdict_record (dependencies : Dependencies) :
    Verdict (fun r => d.name = some r.name ∧ r.name ≠ "" ∧ r.file = file ∧
        r.dependencies = dependencies)
      (fun err => ¬d.Named ∧ err = .missingName file d.line) (d.record file dependencies) := by
  unfold record Named
  split
  · rename_i name hname
    rw [hname]
    split
    · rename_i hempty
      refine .of_error ⟨?_, rfl⟩ (fun _ h => h.2) ?_
      · rintro ⟨_, heq, hne⟩
        cases heq
        exact hne hempty
      · rintro r ⟨hr, hne, -⟩
        cases hr
        exact hne hempty
    · rename_i hne
      refine .of_ok ⟨rfl, hne, rfl, rfl⟩ ?_ fun _ h => h.1 ⟨name, rfl, hne⟩
      rintro ⟨_, _, _⟩ ⟨hr, -, rfl, rfl⟩
      cases hr
      rfl
  · rename_i hname
    rw [hname]
    refine .of_error ⟨?_, rfl⟩ (fun _ h => h.2) fun _ h => nomatch h.1
    rintro ⟨_, heq, -⟩
    cases heq

/-- A decorator gives its record, or is refused for what it says or for the missing name. -/
theorem verdict_annotation (a : Annotation) : Verdict (d.Gives file a) (d.Refuses file a) (do
    let dependencies ← a.dependencies ⟨file, d.displayName⟩
    d.record file dependencies) := by
  refine ((verdict_dependencies ⟨file, d.displayName⟩ a).bind fun dependencies =>
    d.verdict_record file dependencies).congr (fun r => ?_) fun err => ?_
  · constructor
    · rintro ⟨_, hlists, hname, hnonempty, hfile, rfl⟩
      exact ⟨hname, hnonempty, hfile, hlists⟩
    · rintro ⟨hname, hnonempty, hfile, hlists⟩
      exact ⟨_, hlists, hname, hnonempty, hfile, rfl⟩
  · constructor
    · rintro (⟨fault, hfault, rfl⟩ | ⟨_, hlists, hname, rfl⟩)
      · exact .config hfault
      · exact .name hlists hname
    · intro h
      cases h with
      | config hfault => exact Or.inl ⟨_, hfault, rfl⟩
      | name hlists hname => exact Or.inr ⟨_, hlists, hname, rfl⟩

theorem verdict_records :
    Verdict (fun records => d.Resolved ∧ List.Forall₂ (d.Gives file) (d.ofInterest isMatch) records)
      (d.Fails isMatch file) (d.records isMatch file) := by
  refine ((d.verdict_matching isMatch file).bind fun matched =>
    Verdict.mapM (d.verdict_annotation file) matched).congr (fun records => ?_) fun err => ?_
  · simp only [and_assoc, exists_and_left, exists_eq_left]
  · constructor
    · rintro (⟨_, a, _, hl, hbefore, ha, rfl⟩ | ⟨_, ⟨hresolved, rfl⟩, h⟩)
      · exact .callee hl hbefore ha
      · exact .decorator hresolved h
    · intro h
      cases h with
      | callee hl hbefore ha => exact Or.inl ⟨_, _, _, hl, hbefore, ha, rfl⟩
      | decorator hresolved h => exact Or.inr ⟨_, ⟨hresolved, rfl⟩, h⟩

/-- A declaration is well formed if and only if it yields records. -/
theorem wellFormed_iff :
    d.WellFormed isMatch ↔
      ∃ records, d.Resolved ∧ List.Forall₂ (d.Gives file) (d.ofInterest isMatch) records := by
  rw [exists_and_left, exists_forall₂_iff]
  constructor
  · rintro ⟨hresolved, hlists, hnamed⟩
    refine ⟨hresolved, fun a ha => ?_⟩
    obtain ⟨dependencies, hdependencies⟩ := hlists a ha
    obtain ⟨name, hname, hne⟩ := hnamed (List.ne_nil_of_mem ha)
    exact ⟨⟨name, file, dependencies⟩, hname, hne, rfl, hdependencies⟩
  · rintro ⟨hresolved, hgives⟩
    refine ⟨hresolved, fun a ha => ?_, fun hne => ?_⟩
    · obtain ⟨r, hr⟩ := hgives a ha
      exact ⟨r.dependencies, hr.lists⟩
    · obtain ⟨a, ha⟩ := List.exists_mem_of_ne_nil _ hne
      obtain ⟨r, hr⟩ := hgives a ha
      exact ⟨r.name, hr.name, hr.nonempty⟩

/-- A declaration without decorators asks for nothing. -/
theorem wellFormed_of_annotations_eq_nil (h : d.annotations = []) : d.WellFormed isMatch := by
  have hnone : d.ofInterest isMatch = [] := by rw [ofInterest, h, List.filter_nil]
  refine ⟨fun a ha => ?_, fun a ha => ?_, fun hne => absurd hnone hne⟩
  · rw [h] at ha
    exact absurd ha List.not_mem_nil
  · rw [hnone] at ha
    exact absurd ha List.not_mem_nil

end Declaration

/-- A file yields records exactly as its declarations ask for, and fails as the first one that
fails. -/
theorem ParsedFile.records_extracts (isMatch : String → Bool) (file : ParsedFile) :
    file.Extracts isMatch (file.records isMatch) := by
  have hfile := (Verdict.mapM (fun d => d.verdict_records isMatch file.path) file.declarations).map
    List.flatten
  have hannotated : (∀ d ∈ file.declarations, d.annotations ≠ [] → d.WellFormed isMatch) ↔
      ∀ d ∈ file.declarations, d.WellFormed isMatch := by
    refine forall₂_congr fun d _ => ⟨fun h => ?_, fun h _ => h⟩
    by_cases hd : d.annotations = []
    · exact d.wellFormed_of_annotations_eq_nil isMatch hd
    · exact h hd
  have hwellFormed (d : Declaration) := d.wellFormed_iff isMatch file.path
  have hrecords (records : List Record) : file.records isMatch = .ok records ↔
      (∀ d ∈ file.declarations, d.WellFormed isMatch) ∧
        List.Forall₂ (fun p r => p.1.Gives file.path p.2 r) (file.ofInterest isMatch) records := by
    refine (hfile.ok records).trans ?_
    simp only [List.forall₂_and_left, and_assoc, exists_and_left, ofInterest, forall₂_flatMap_iff,
      List.forall₂_map_left_iff]
    constructor
    · rintro ⟨hresolved, lists, hlists, rfl⟩
      refine ⟨fun d hd => (hwellFormed d).2 ?_, lists, hlists, rfl⟩
      obtain ⟨records, h⟩ := exists_forall₂_iff.1 ⟨lists, hlists⟩ d hd
      exact ⟨records, hresolved d hd, h⟩
    · rintro ⟨hall, lists, hlists, rfl⟩
      exact ⟨fun d hd => (hall d hd).resolved, lists, hlists, rfl⟩
  refine ⟨?_, fun records => ?_, fun e => ?_⟩
  · rw [hannotated]
    constructor
    · rintro ⟨records, h⟩
      exact ((hrecords records).1 h).1
    · intro hall
      obtain ⟨lists, hlists⟩ := exists_forall₂_iff.2 fun d hd => (hwellFormed d).1 (hall d hd)
      exact ⟨lists.flatten, (hfile.ok _).2 ⟨lists, hlists, rfl⟩⟩
  · rw [hannotated, hrecords]
  · refine (hfile.error e).trans ?_
    simp only [FirstFails, ← hwellFormed]

/-- The decorator without a callee is reported, though the one before it has no configuration and
the declaration has no name. -/
example : ParsedFile.records (fun _ => true) ⟨⟨"a.ts"⟩, [⟨none, .classLike, 3,
    [⟨some "View", [.identifier "x"], "View(x)", 1⟩, ⟨none, [], "ng.Foo()", 2⟩]⟩]⟩ =
      .error (.unresolvedCallee ⟨"a.ts"⟩ "<anonymous>" "ng.Foo()") := rfl

end DecoratorGraph
