import DecoratorGraph.Proofs.Analysis.Loading
import DecoratorGraph.Proofs.ParseStore.Memory

/-!
# The steps of an analysis

`LoadStep` says once in which ways a file is loaded, and every step of an analysis is one of them. A
step puts at most one entry into memory and never takes one out, so memory fills up, and a step that
makes a parse of its own comes back only while there is room (`load?_eq_some_iff`).
-/

namespace DecoratorGraph.Workspace

variable {t u : FileTree} {s s' : ParseStore} {f : SourceFile} {r : Except FileError ParsedFile}
  {hit : Bool}

/-- The ways in which a file is loaded. What is served from a file is put into memory as long as
there is room, and a parse that is new is put there in any case. -/
inductive LoadStep (t : FileTree) (s : ParseStore) (f : SourceFile) : Loading → Prop
  | remembered {e : StoredParse} (hserves : s.Serves t f.path e)
      (hmemory : s.remembered? f.path = some e) :
      LoadStep t s f ⟨⟨t, some s⟩, .ok e.parsed, true⟩
  | found {e : StoredParse} (hserves : s.Serves t f.path e)
      (hmemory : s.remembered? f.path = none) :
      LoadStep t s f
        ⟨⟨t, some (if s.memoryCount < ParseStore.capacity then s.remember f.path e else s)⟩,
          .ok e.parsed, true⟩
  | failed {cause : FileError} (hserves : ∀ e, ¬s.Serves t f.path e)
      (hparse : f.parse t = .error cause) : LoadStep t s f ⟨⟨t, some s⟩, .error cause, false⟩
  | stored {parsed : ParsedFile} {state : FileState} (hserves : ∀ e, ¬s.Serves t f.path e)
      (hparse : f.parse t = .ok parsed) (hstate : t.fileState f.path = .ok state) :
      LoadStep t s f
        ⟨⟨(s.store t f.path parsed).tree, some (s.remember f.path ⟨parsed, state⟩)⟩, .ok parsed,
          false⟩

theorem loadStep_load (t : FileTree) (s : ParseStore) (f : SourceFile) :
    LoadStep t s f (load ⟨t, some s⟩ f) := by
  obtain ⟨hserves, hcurrent⟩ | ⟨e, hserves, ⟨hmemory, hcurrent⟩ | ⟨hmemory, hcurrent⟩⟩ :=
    ParseStore.current?_cases s t f.path
  · cases hparse : f.parse t with
    | error cause =>
        simp only [load, loadAmid, Workspace.current?, hcurrent, mapTree, id, hparse]
        exact .failed hserves hparse
    | ok parsed =>
        obtain ⟨text, htext, -⟩ := SourceFile.parse_ok_iff.1 hparse
        obtain ⟨state, hstate⟩ := FileTree.exists_fileState_of_readText htext
        have hstored : (s.store t f.path parsed).store = s.remember f.path ⟨parsed, state⟩ := by
          rw [ParseStore.store_of_fileState hstate, ParseStore.save_store]
        simp only [load, loadAmid, Workspace.current?, hcurrent, mapTree, id, hparse, keep, hstored]
        exact .stored hserves hparse hstate
  · simp only [load, loadAmid, Workspace.current?, hcurrent]
    exact .remembered hserves hmemory
  · simp only [load, loadAmid, Workspace.current?, hcurrent]
    exact .found hserves hmemory

theorem exists_load (t : FileTree) (s : ParseStore) (f : SourceFile) :
    ∃ u s' r hit, load ⟨t, some s⟩ f = ⟨⟨u, some s'⟩, r, hit⟩ ∧ s.Fuller s' := by
  have hstep := loadStep_load t s f
  generalize load ⟨t, some s⟩ f = loading at hstep
  cases hstep with
  | remembered _ _ => exact ⟨_, _, _, _, rfl, .refl s⟩
  | @found e _ _ =>
      refine ⟨_, _, _, _, rfl, ?_⟩
      split
      · exact ParseStore.fuller_remember s f.path e
      · exact .refl s
  | failed _ _ => exact ⟨_, _, _, _, rfl, .refl s⟩
  | @stored parsed state _ _ _ =>
      exact ⟨_, _, _, _, rfl, ParseStore.fuller_remember s f.path ⟨parsed, state⟩⟩

theorem loadStep_of_load (hload : load ⟨t, some s⟩ f = ⟨⟨u, some s'⟩, r, hit⟩) :
    LoadStep t s f ⟨⟨u, some s'⟩, r, hit⟩ := hload ▸ loadStep_load t s f

/-- What loading a file does to the files: an entry is saved, or nothing changes. -/
theorem LoadStep.tree_eq_or (h : LoadStep t s f ⟨⟨u, some s'⟩, r, hit⟩) :
    u = t ∨ ∃ q slot content, s.slot? q = some slot ∧ t.write slot content = .ok u := by
  cases h with
  | remembered _ _ => exact Or.inl rfl
  | found _ _ => exact Or.inl rfl
  | failed _ _ => exact Or.inl rfl
  | @stored parsed _ _ _ _ =>
      rcases ParseStore.tree_of_store t s f.path parsed with hsame | ⟨slot, content, hslot, hwrite⟩
      · exact Or.inl hsame
      · exact Or.inr ⟨f.path, slot, content, hslot, hwrite⟩

theorem LoadStep.memoryCount_le (h : LoadStep t s f ⟨⟨u, some s'⟩, r, hit⟩) :
    s'.memoryCount ≤ s.memoryCount + 1 := by
  cases h with
  | remembered _ _ => exact Nat.le_succ _
  | @found e _ _ =>
      split
      · exact s.memoryCount_remember_le f.path e
      · exact Nat.le_succ _
  | failed _ _ => exact Nat.le_succ _
  | @stored parsed state _ _ _ => exact s.memoryCount_remember_le f.path ⟨parsed, state⟩

/-! ### Steps that come back -/

theorem load?_eq_some {w : Workspace} {l : Loading} (h : w.load? f = some l) : l = w.load f := by
  rw [load?] at h
  split at h
  · cases h
  · exact (Option.some.inj h).symm

/-- A load is caught when memory is full and the parse is a new one. -/
theorem load?_eq_none_iff :
    load? ⟨t, some s⟩ f = none ↔
      ParseStore.capacity ≤ s.memoryCount ∧ (∀ e, ¬s.Serves t f.path e) ∧
        ∃ parsed, f.parse t = .ok parsed := by
  rw [load?]
  have hstep := loadStep_load t s f
  generalize load ⟨t, some s⟩ f = loading at hstep
  cases hstep with
  | @remembered e hserves _ => simpa using fun _ h => absurd hserves (h e)
  | @found e hserves _ => simpa using fun _ h => absurd hserves (h e)
  | failed _ hparse => simp [hparse, Except.isOk, Except.toBool]
  | stored hserves hparse hstate =>
      simp [hserves, hparse, ParseStore.storeReturns, hstate, Except.isOk, Except.toBool,
        ParseStore.memoryCount]

theorem load?_of_ne_none (h : load? ⟨t, some s⟩ f ≠ none) :
    load? ⟨t, some s⟩ f = some (load ⟨t, some s⟩ f) := by
  obtain ⟨l, hl⟩ := Option.ne_none_iff_exists'.1 h
  rw [hl, load?_eq_some hl]

theorem load?_of_room (h : s.memoryCount < ParseStore.capacity) :
    load? ⟨t, some s⟩ f = some (load ⟨t, some s⟩ f) :=
  load?_of_ne_none fun hnone => Nat.not_le_of_lt h (load?_eq_none_iff.1 hnone).1

theorem load?_without_store : load? ⟨t, none⟩ f = some (load ⟨t, none⟩ f) := by
  simp [load?]

/-! ### Analyses that come back -/

variable {isMatch : String → Bool} {w v : Workspace} {files : List SourceFile}

theorem analyzeFiles?_eq_some {report : Report}
    (h : w.analyzeFiles? isMatch files = some (v, report)) :
    w.analyzeFiles isMatch files = (v, report) := by
  induction files generalizing w v report with
  | nil => exact Option.some.inj h
  | cons f files ih =>
      simp only [analyzeFiles?, bind, Option.bind_eq_some_iff, Option.map_eq_some_iff] at h
      obtain ⟨l, hload, ⟨v', others⟩, hothers, heq⟩ := h
      obtain rfl := load?_eq_some hload
      simpa only [analyzeFiles, analyzeFile, ih hothers] using heq

theorem analyze?_eq_some {inputs : List Path} {outcome : Workspace × Except AnalysisError Report}
    (h : w.analyze? isMatch inputs = some outcome) : w.analyze isMatch inputs = outcome := by
  unfold analyze? at h
  unfold analyze
  split at h
  · exact Option.some.inj h
  · obtain ⟨⟨v, report⟩, hfiles, rfl⟩ := Option.map_eq_some_iff.1 h
    rw [analyzeFiles?_eq_some hfiles]

theorem analyzeFilesStrict?_eq_some {outcome : Workspace × Except AnalysisError Report}
    (h : w.analyzeFilesStrict? isMatch files = some outcome) :
    w.analyzeFilesStrict isMatch files = outcome := by
  induction files generalizing w outcome with
  | nil => exact Option.some.inj h
  | cons f files ih =>
      simp only [analyzeFilesStrict?, bind, Option.bind_eq_some_iff] at h
      obtain ⟨l, hload, h⟩ := h
      obtain rfl := load?_eq_some hload
      rw [analyzeFilesStrict]
      cases hrecords : (w.load f).records isMatch with
      | error cause =>
          rw [hrecords] at h
          exact Option.some.inj h
      | ok records =>
          rw [hrecords] at h
          obtain ⟨⟨v, others⟩, hothers, rfl⟩ := Option.map_eq_some_iff.1 h
          simp only [ih hothers]

theorem analyzeStrict?_eq_some {inputs : List Path}
    {outcome : Workspace × Except AnalysisError Report}
    (h : w.analyzeStrict? isMatch inputs = some outcome) :
    w.analyzeStrict isMatch inputs = outcome := by
  unfold analyzeStrict? at h
  unfold analyzeStrict
  split at h
  · exact Option.some.inj h
  · exact analyzeFilesStrict?_eq_some h

/-- The store, if there is one, has room for so many entries more. -/
def HasRoom (w : Workspace) (n : Nat) : Prop :=
  ∀ s, w.store = some s → s.memoryCount + n ≤ ParseStore.capacity

theorem HasRoom.load {n : Nat} (h : w.HasRoom (n + 1)) :
    w.load? f = some (w.load f) ∧ (w.load f).workspace.HasRoom n := by
  obtain ⟨t, _ | s⟩ := w
  · refine ⟨load?_without_store, ?_⟩
    rw [load_without_store]
    exact nofun
  · have hroom : s.memoryCount + (n + 1) ≤ ParseStore.capacity := h s rfl
    refine ⟨load?_of_room (by omega), ?_⟩
    obtain ⟨u, s', r, hit, hload, -⟩ := exists_load t s f
    have hcount := (loadStep_of_load hload).memoryCount_le
    rw [hload]
    rintro _ ⟨⟩
    omega

/-- With room for all files, an analysis comes back. -/
theorem analyzeFiles?_of_room (h : w.HasRoom files.length) :
    w.analyzeFiles? isMatch files = some (w.analyzeFiles isMatch files) := by
  induction files generalizing w with
  | nil => rfl
  | cons f files ih =>
      obtain ⟨hload, hothers⟩ := h.load (f := f)
      simp only [analyzeFiles?, hload, bind, Option.bind_some, ih hothers, Option.map_some]
      rfl

end DecoratorGraph.Workspace
