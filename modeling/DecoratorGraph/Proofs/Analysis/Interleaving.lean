import DecoratorGraph.Proofs.Analysis.Loading
import DecoratorGraph.Proofs.ParseStore.RoundTrip
import Mathlib.Data.List.Chain

/-!
# Others who change a file while it is loaded

The parse that a load stores is that of the text it read, but the state beside it is the one
that the file has when the parse is stored. If others change the file between the two, the entry
pairs a new state with an old text, and it counts as up to date as long as the file stays as it
is. Such a load is *torn*.

A run is a list of moves: others change the files, a new store is opened over the directory, or
a file is loaded, with whatever others do at the two points between its accesses. Torn loads are
all that can go wrong: the entries are genuine throughout a run if and only if no load of the
run is torn, and then every parse that is served is the one of the text that the file has.
-/

namespace DecoratorGraph

/-- A load that is about to start, and what others are going to do between its accesses. -/
structure Load where
  workspace : Workspace
  file : SourceFile
  afterCheck : FileTree → FileTree
  afterRead : FileTree → FileTree

namespace Load

def outcome (l : Load) : Loading := l.workspace.loadAmid l.afterCheck l.afterRead l.file

def whenRead (l : Load) : FileTree := l.afterCheck l.workspace.tree

def whenStored (l : Load) : FileTree := l.afterRead l.whenRead

/-- The files at each access of the load: the look at the store, the reading of the file, and
the storing of the parse. -/
def accesses (l : Load) : List FileTree :=
  if l.outcome.hit then [l.workspace.tree]
  else
    match l.file.parse l.whenRead with
    | .error _ => [l.workspace.tree, l.whenRead]
    | .ok _ => [l.workspace.tree, l.whenRead, l.whenStored]

def readings (l : Load) : List Reading := l.accesses.filterMap fun t => t.look l.file.path

/-- The parse is stored when the file does not have the text any more that was read. -/
def Torn (l : Load) : Prop :=
  l.outcome.hit = false ∧ ∃ parsed state, l.file.parse l.whenRead = .ok parsed ∧
    l.whenStored.fileState l.file.path = .ok state ∧ l.file.parse l.whenStored ≠ .ok parsed

end Load

/-- What can happen to an analyser and to the files it works on. -/
inductive Move where
  | change (tree : FileTree)
  | reopen
  | load (file : SourceFile) (afterCheck afterRead : FileTree → FileTree)

namespace Workspace

variable (base : ParseStore)

def move (w : Workspace) : Move → Workspace
  | .change t => ⟨t, w.store⟩
  | .reopen => base.opened w.tree
  | .load f afterCheck afterRead => (w.loadAmid afterCheck afterRead f).workspace

def run (w : Workspace) (moves : List Move) : Workspace := moves.foldl (move base) w

def loads (w : Workspace) : List Move → List Load
  | [] => []
  | .load f afterCheck afterRead :: moves =>
      ⟨w, f, afterCheck, afterRead⟩ :: loads (w.move base (.load f afterCheck afterRead)) moves
  | m :: moves => loads (w.move base m) moves

/-- A run in which source files are loaded and the others leave the files of the store alone. -/
def Undisturbed (w : Workspace) : List Move → Prop
  | [] => True
  | .change t :: moves => base.Untouched w.tree t ∧ Undisturbed (w.move base (.change t)) moves
  | .reopen :: moves =>
      base.Untouched w.tree (base.opened w.tree).tree ∧ Undisturbed (w.move base .reopen) moves
  | .load f afterCheck afterRead :: moves =>
      SourceFile.ofPath? f.path = some f ∧
      (Load.mk w f afterCheck afterRead).accesses.IsChain base.Untouched ∧
      Undisturbed (w.move base (.load f afterCheck afterRead)) moves

/-- An entry is held in memory or in a file of the store. -/
def Held (w : Workspace) (e : StoredParse) : Prop :=
  (∃ s k, w.store = some s ∧ (k, e) ∈ s.memory) ∨ ∃ p, base.saved? w.tree p = some e

def looks (w : Workspace) (moves : List Move) : List Reading :=
  (loads base w moves).flatMap Load.readings

end Workspace

/-! ### One load -/

namespace Load

variable {l : Load}

theorem tree_mem_accesses (l : Load) : l.workspace.tree ∈ l.accesses := by
  unfold accesses
  split
  · exact List.mem_cons_self
  · split <;> exact List.mem_cons_self

theorem accesses_of_error (hhit : l.outcome.hit = false) {cause : FileError}
    (hparse : l.file.parse l.whenRead = .error cause) :
    l.accesses = [l.workspace.tree, l.whenRead] := by
  simp [accesses, hhit, hparse]

theorem accesses_of_ok (hhit : l.outcome.hit = false) {parsed : ParsedFile}
    (hparse : l.file.parse l.whenRead = .ok parsed) :
    l.accesses = [l.workspace.tree, l.whenRead, l.whenStored] := by
  simp [accesses, hhit, hparse]

theorem mem_readings {t : FileTree} (ht : t ∈ l.accesses) {state : FileState}
    (hstate : t.fileState l.file.path = .ok state) :
    ⟨l.file.path, state, t.readText l.file.path⟩ ∈ l.readings :=
  List.mem_filterMap.2 ⟨t, ht, FileTree.look_eq_some hstate⟩

end Load

section

variable {base s : ParseStore} {readings : List Reading} {t : FileTree} {f : SourceFile}
  {afterCheck afterRead : FileTree → FileTree}

/-- A load that is not torn keeps all entries genuine, whatever others do meanwhile. -/
theorem holds_load (hformat : ∀ e, base.format.decode? (base.format.encode e) = some e)
    (hs : base.Holds (Genuine readings) t s) (hname : SourceFile.ofPath? f.path = some f)
    (huntouched :
      (Load.mk ⟨t, some s⟩ f afterCheck afterRead).accesses.IsChain base.Untouched)
    (hreadings : (Load.mk ⟨t, some s⟩ f afterCheck afterRead).readings ⊆ readings)
    (htorn : ¬(Load.mk ⟨t, some s⟩ f afterCheck afterRead).Torn) :
    ∃ u s', (Workspace.loadAmid afterCheck afterRead ⟨t, some s⟩ f).workspace = ⟨u, some s'⟩ ∧
      base.Holds (Genuine readings) u s' := by
  have hcurrent := hs.current? f.path
  rcases Workspace.loadAmid_cases afterCheck afterRead t s f with
    ⟨parsed, -, hload⟩ | ⟨-, ⟨cause, hparse, hload⟩ | ⟨parsed, hparse, hload⟩⟩
  · rw [hload]
    exact ⟨_, _, rfl, hcurrent⟩
  · have hhit : (Load.mk ⟨t, some s⟩ f afterCheck afterRead).outcome.hit = false := by
      rw [Load.outcome, hload]
    rw [Load.accesses_of_error hhit hparse, List.isChain_pair] at huntouched
    rw [hload]
    exact ⟨_, _, rfl, hcurrent.untouched huntouched⟩
  · have hhit : (Load.mk ⟨t, some s⟩ f afterCheck afterRead).outcome.hit = false := by
      rw [Load.outcome, hload]
    have haccesses := Load.accesses_of_ok hhit hparse
    rw [haccesses, List.isChain_cons_cons, List.isChain_pair] at huntouched
    have hstored := (hcurrent.untouched huntouched.1).untouched huntouched.2
    have hsame := SourceFile.same_path_of_parse hparse
    rw [hload]
    refine ⟨_, _, rfl, hstored.store hformat hsame fun state hstate => ?_⟩
    -- The file still has the text that was read, so its state then tells about that text.
    have hfresh : f.parse (afterRead (afterCheck t)) = .ok parsed := by
      by_contra hne
      exact htorn ⟨hhit, parsed, state, hparse, hstate, hne⟩
    refine genuine_of_parse hname (hreadings (Load.mem_readings ?_ hstate)) hfresh
    rw [haccesses]
    simp [Load.whenStored, Load.whenRead]

end

/-! ### Runs -/

namespace Workspace

variable {base s : ParseStore} {readings : List Reading} {t : FileTree} {w : Workspace}
  {moves : List Move}

theorem run_append (w : Workspace) (before after : List Move) :
    run base w (before ++ after) = run base (run base w before) after :=
  List.foldl_append

theorem loads_append (w : Workspace) (before after : List Move) :
    loads base w (before ++ after) =
      loads base w before ++ loads base (run base w before) after := by
  induction before generalizing w with
  | nil => rfl
  | cons m before ih => cases m <;> simp [loads, run, ih]

theorem undisturbed_append (w : Workspace) (before after : List Move) :
    Undisturbed base w (before ++ after) ↔
      Undisturbed base w before ∧ Undisturbed base (run base w before) after := by
  induction before generalizing w with
  | nil => simp [Undisturbed, run]
  | cons m before ih => cases m <;> simp [Undisturbed, run, ih, and_assoc]

theorem looks_subset_of_append (w : Workspace) (before after : List Move) :
    looks base w before ⊆ looks base w (before ++ after) := by
  rw [looks, looks, loads_append, List.flatMap_append]
  exact List.subset_append_left _ _

/-- A load of a run starts in what the moves before it leave behind. -/
theorem exists_of_mem_loads {l : Load} (h : l ∈ loads base w moves) :
    ∃ before after, moves = before ++ .load l.file l.afterCheck l.afterRead :: after ∧
      l.workspace = run base w before := by
  induction moves generalizing w with
  | nil => cases h
  | cons m moves ih =>
      cases m with
      | change u =>
          obtain ⟨before, after, rfl, hw⟩ := ih h
          exact ⟨.change u :: before, after, rfl, hw⟩
      | reopen =>
          obtain ⟨before, after, rfl, hw⟩ := ih h
          exact ⟨.reopen :: before, after, rfl, hw⟩
      | load f afterCheck afterRead =>
          rcases List.mem_cons.1 h with rfl | h
          · exact ⟨[], moves, rfl, rfl⟩
          · obtain ⟨before, after, rfl, hw⟩ := ih h
            exact ⟨.load f afterCheck afterRead :: before, after, rfl, hw⟩

theorem run_with_store (base : ParseStore) (t : FileTree) (s : ParseStore) (moves : List Move) :
    ∃ u s', run base ⟨t, some s⟩ moves = ⟨u, some s'⟩ := by
  induction moves generalizing t s with
  | nil => exact ⟨t, s, rfl⟩
  | cons m moves ih =>
      cases m with
      | change u => exact ih u s
      | reopen => exact ih _ _
      | load f afterCheck afterRead =>
          simp only [run, List.foldl_cons, move]
          rcases loadAmid_cases afterCheck afterRead t s f with
            ⟨_, -, hload⟩ | ⟨-, ⟨_, -, hload⟩ | ⟨_, -, hload⟩⟩ <;> rw [hload] <;> exact ih _ _

/-- A run without torn loads keeps all entries genuine. -/
theorem holds_run (hformat : ∀ e, base.format.decode? (base.format.encode e) = some e)
    (hs : base.Holds (Genuine readings) t s)
    (hundisturbed : Undisturbed base ⟨t, some s⟩ moves)
    (hlooks : looks base ⟨t, some s⟩ moves ⊆ readings)
    (htorn : ∀ l ∈ loads base ⟨t, some s⟩ moves, ¬l.Torn) :
    ∃ u s', run base ⟨t, some s⟩ moves = ⟨u, some s'⟩ ∧ base.Holds (Genuine readings) u s' := by
  induction moves generalizing t s with
  | nil => exact ⟨t, s, rfl, hs⟩
  | cons m moves ih =>
      cases m with
      | change u => exact ih (hs.untouched hundisturbed.1) hundisturbed.2 hlooks htorn
      | reopen =>
          have hopened := ParseStore.holds_openAt (hs.untouched hundisturbed.1).saved t
          exact ih hopened hundisturbed.2 hlooks htorn
      | load f afterCheck afterRead =>
          obtain ⟨hname, huntouched, hundisturbed⟩ := hundisturbed
          simp only [looks, loads, List.flatMap_cons, List.append_subset] at hlooks
          rw [loads, List.forall_mem_cons] at htorn
          obtain ⟨u, s', hload, hs'⟩ :=
            holds_load hformat hs hname huntouched hlooks.1 htorn.1
          have hmove : move base ⟨t, some s⟩ (.load f afterCheck afterRead) = ⟨u, some s'⟩ := hload
          rw [hmove] at hundisturbed hlooks htorn
          obtain ⟨v, s'', hrun, hs''⟩ := ih hs' hundisturbed hlooks.2 htorn.2
          refine ⟨v, s'', ?_, hs''⟩
          rw [← hrun, run, List.foldl_cons, hmove, run]

theorem Held.of_holds (h : base.Holds (Genuine readings) t s) {e : StoredParse}
    (he : Held base ⟨t, some s⟩ e) : Genuine readings e := by
  rcases he with ⟨s', k, hs', hk⟩ | ⟨p, hp⟩
  · cases hs'
    exact (h.remembered _ hk).2
  · exact h.saved p e hp

/-- The entry that a torn load leaves in memory is not genuine: the text that the file has in
the state of the entry has another parse. -/
theorem not_genuine_of_torn (base : ParseStore) (hconsistent : Consistent readings) {l : Load}
    (hl : l.Torn) {u : FileTree} {s : ParseStore} (hworkspace : l.workspace = ⟨u, some s⟩)
    (hname : SourceFile.ofPath? l.file.path = some l.file) (hreadings : l.readings ⊆ readings) :
    ∃ e, Held base l.outcome.workspace e ∧ ¬Genuine readings e := by
  obtain ⟨⟨t, store⟩, f, afterCheck, afterRead⟩ := l
  cases hworkspace
  obtain ⟨hhit, parsed, state, hparse, hstate, hne⟩ := hl
  refine ⟨⟨parsed, state⟩, ?_, fun hgenuine => hne ?_⟩
  · rcases loadAmid_cases afterCheck afterRead u s f with
      ⟨_, -, hload⟩ | ⟨-, ⟨_, hparse', -⟩ | ⟨parsed', hparse', hload⟩⟩
    · rw [Load.outcome, hload] at hhit
      cases hhit
    · rw [show f.parse (afterCheck u) = .ok parsed from hparse] at hparse'
      cases hparse'
    · rw [show f.parse (afterCheck u) = .ok parsed from hparse] at hparse'
      cases hparse'
      rw [Load.outcome, hload]
      exact Or.inl ⟨_, f.path, rfl, ParseStore.mem_memory_of_store hstate⟩
  -- A genuine entry has the parse of what the file held when its state was taken.
  · have hmem : (Load.mk ⟨u, some s⟩ f afterCheck afterRead).whenStored ∈
        (Load.mk ⟨u, some s⟩ f afterCheck afterRead).accesses := by
      rw [Load.accesses_of_ok hhit hparse]
      simp
    have hsame := SourceFile.same_path_of_parse hparse
    obtain ⟨fresh, hfresh, halike⟩ := hgenuine.alike_parse hconsistent hname hsame
      (hreadings (Load.mem_readings hmem hstate))
    have hpath := SourceFile.path_of_parse hparse
    have hpath' := SourceFile.path_of_parse hfresh
    rw [hfresh]
    obtain ⟨p, declarations⟩ := parsed
    obtain ⟨q, declarations'⟩ := fresh
    cases hpath
    cases hpath'
    cases halike.declarations
    rfl

theorem readings_subset_looks {l : Load} (hl : l ∈ loads base w moves) :
    l.readings ⊆ looks base w moves :=
  fun _ hreading => List.mem_flatMap.2 ⟨l, hl, hreading⟩

theorem forall_mem_loads_ofPath? (hundisturbed : Undisturbed base w moves) :
    ∀ l ∈ loads base w moves, SourceFile.ofPath? l.file.path = some l.file := by
  intro l hl
  obtain ⟨before, after, rfl, -⟩ := exists_of_mem_loads hl
  exact ((undisturbed_append w before _).1 hundisturbed).2.1

/-- A parse that is served in a run without torn loads is the one of the text that the file
has. -/
theorem alike_parse_of_hit (hformat : ∀ e, base.format.decode? (base.format.encode e) = some e)
    (hs : base.Holds (Genuine (looks base ⟨t, some s⟩ moves)) t s)
    (hundisturbed : Undisturbed base ⟨t, some s⟩ moves)
    (hconsistent : Consistent (looks base ⟨t, some s⟩ moves))
    (htorn : ∀ l ∈ loads base ⟨t, some s⟩ moves, ¬l.Torn) {l : Load}
    (hl : l ∈ loads base ⟨t, some s⟩ moves) {parsed : ParsedFile} (hhit : l.outcome.hit = true)
    (hresult : l.outcome.result = .ok parsed) :
    ∃ fresh, l.file.parse l.workspace.tree = .ok fresh ∧ parsed.Alike fresh := by
  have hname := forall_mem_loads_ofPath? hundisturbed l hl
  have hreadings := readings_subset_looks hl
  obtain ⟨before, after, rfl, hworkspace⟩ := exists_of_mem_loads hl
  obtain ⟨u, s', hrun, hs'⟩ := holds_run hformat hs
    ((undisturbed_append _ before _).1 hundisturbed).1 (looks_subset_of_append _ before _)
    fun l hl => htorn l (by rw [loads_append]; exact List.mem_append_left _ hl)
  obtain ⟨w, f, afterCheck, afterRead⟩ := l
  cases hworkspace.trans hrun
  rcases loadAmid_cases afterCheck afterRead u s' f with
    ⟨parsed', hcurrent, hload⟩ | ⟨-, ⟨_, -, hload⟩ | ⟨_, -, hload⟩⟩
  · rw [Load.outcome, hload] at hresult
    cases hresult
    exact alike_parse_of_current? hconsistent hs' hname
      (fun state hstate => hreadings (Load.mem_readings (Load.tree_mem_accesses _) hstate)) hcurrent
  · rw [Load.outcome, hload] at hhit
    cases hhit
  · rw [Load.outcome, hload] at hhit
    cases hhit

/-- At every point of a run without torn loads, all entries that are held are genuine. -/
theorem genuine_of_held (hformat : ∀ e, base.format.decode? (base.format.encode e) = some e)
    (hs : ∀ readings, base.Holds (Genuine readings) t s)
    (hundisturbed : Undisturbed base ⟨t, some s⟩ moves)
    (htorn : ∀ l ∈ loads base ⟨t, some s⟩ moves, ¬l.Torn) {before : List Move}
    (hbefore : before <+: moves) {e : StoredParse}
    (he : Held base (run base ⟨t, some s⟩ before) e) :
    Genuine (looks base ⟨t, some s⟩ before) e := by
  obtain ⟨after, rfl⟩ := hbefore
  rw [loads_append] at htorn
  obtain ⟨u, s', hrun, hs'⟩ := holds_run hformat (hs _)
    ((undisturbed_append _ before after).1 hundisturbed).1 (List.Subset.refl _)
    fun l hl => htorn l (List.mem_append_left _ hl)
  rw [hrun] at he
  exact he.of_holds hs'

/-- After a torn load an entry is held that is not genuine. -/
theorem not_torn_of_genuine (hundisturbed : Undisturbed base ⟨t, some s⟩ moves)
    (hconsistent : Consistent (looks base ⟨t, some s⟩ moves))
    (hgenuine : ∀ before, before <+: moves → ∀ e, Held base (run base ⟨t, some s⟩ before) e →
      Genuine (looks base ⟨t, some s⟩ before) e) {l : Load}
    (hl : l ∈ loads base ⟨t, some s⟩ moves) : ¬l.Torn := by
  intro htorn
  have hname := forall_mem_loads_ofPath? hundisturbed l hl
  have hreadings := readings_subset_looks hl
  obtain ⟨before, after, hmoves, hworkspace⟩ := exists_of_mem_loads hl
  obtain ⟨u, s', hrun⟩ := run_with_store base t s before
  obtain ⟨e, hheld, hnot⟩ :=
    not_genuine_of_torn base hconsistent htorn (hworkspace.trans hrun) hname hreadings
  have hsplit : before ++ [.load l.file l.afterCheck l.afterRead] ++ after = moves := by
    rw [hmoves, List.append_assoc, List.singleton_append]
  have hheld' :
      Held base (run base ⟨t, some s⟩ (before ++ [.load l.file l.afterCheck l.afterRead])) e := by
    rw [run_append, ← hworkspace]
    exact hheld
  refine hnot ((hgenuine _ ⟨after, hsplit⟩ e hheld').mono ?_)
  rw [← hsplit]
  exact looks_subset_of_append _ _ _

/-- The entries of a run tell about the states that their files were in, at every point of the
run, if and only if no load of the run is torn. Then a parse that is served is always the one of
the text that the file has. -/
theorem held_genuine_iff_no_load_torn (base : ParseStore)
    (hformat : ∀ e, base.format.decode? (base.format.encode e) = some e) {t : FileTree}
    (hempty : ∀ p, base.saved? (base.opened t).tree p = none)
    (hundisturbed : Undisturbed base (base.opened t) moves)
    (hconsistent : Consistent (looks base (base.opened t) moves)) :
    ((∀ before, before <+: moves → ∀ e, Held base (run base (base.opened t) before) e →
        Genuine (looks base (base.opened t) before) e) ↔
      ∀ l ∈ loads base (base.opened t) moves, ¬l.Torn) ∧
    ((∀ l ∈ loads base (base.opened t) moves, ¬l.Torn) →
      ∀ l ∈ loads base (base.opened t) moves, ∀ parsed, l.outcome.hit = true →
        l.outcome.result = .ok parsed →
          ∃ fresh, l.file.parse l.workspace.tree = .ok fresh ∧ parsed.Alike fresh) := by
  have hopened (readings : List Reading) :
      base.Holds (Genuine readings) (base.opened t).tree
        (ParseStore.openAt base.format base.directory t).2 := by
    refine ParseStore.holds_openAt (fun p e he => ?_) t
    rw [hempty p] at he
    cases he
  refine ⟨⟨fun hgenuine l hl => ?_, fun htorn before hbefore e he => ?_⟩,
    fun htorn l hl parsed hhit hresult => ?_⟩
  · exact not_torn_of_genuine hundisturbed hconsistent hgenuine hl
  · exact genuine_of_held hformat hopened hundisturbed htorn hbefore he
  · exact alike_parse_of_hit hformat (hopened _) hundisturbed hconsistent htorn hl hhit hresult

/-! ### A torn load -/

def tornVisits : List Move :=
  [.load ⟨⟨"a.ts"⟩, .typeScript⟩ id fun _ => .oneFile "class X {} class Y {}" 1,
    .load ⟨⟨"a.ts"⟩, .typeScript⟩ id id]

def unsaved : ParseStore := .inMemory ⟨fun _ => "entry", StoredParse.encode, StoredParse.decode?⟩

theorem untouched_unsaved (t u : FileTree) : unsaved.Untouched t u := by
  intro p slot bytes hslot
  cases hslot

/-- The second load serves a parse of the earlier text, although the file has not changed since
the first one. -/
theorem stale_parse_of_tornVisits :
    ((loads unsaved (unsaved.opened (.oneFile "class X {}" 0)) tornVisits).map fun l =>
      (l.outcome.hit, (l.outcome.result.toOption.map fun parsed => parsed.declarations.length),
        (l.file.parse l.workspace.tree).toOption.map fun parsed => parsed.declarations.length)) =
      [(false, some 1, some 1), (true, some 1, some 2)] ∧
    ¬∀ before, before <+: tornVisits →
      ∀ e, Held unsaved (run unsaved (unsaved.opened (.oneFile "class X {}" 0)) before) e →
        Genuine (looks unsaved (unsaved.opened (.oneFile "class X {}" 0)) before) e := by
  have hundisturbed :
      Undisturbed unsaved (unsaved.opened (.oneFile "class X {}" 0)) tornVisits := by
    have hchain (trees : List FileTree) : trees.IsChain unsaved.Untouched :=
      (List.pairwise_of_forall untouched_unsaved).isChain
    exact ⟨by decide, hchain _, by decide, hchain _, trivial⟩
  have hconsistent :
      Consistent (looks unsaved (unsaved.opened (.oneFile "class X {}" 0)) tornVisits) := by
    unfold Consistent
    decide +kernel
  have hiff := (held_genuine_iff_no_load_torn unsaved StoredParse.decode?_encode (fun _ => rfl)
    hundisturbed hconsistent).1
  refine ⟨by decide +kernel, fun hgenuine => hiff.1 hgenuine _ List.mem_cons_self ?_⟩
  refine ⟨by decide +kernel, .read .typeScript ⟨"a.ts"⟩ "class X {}", ⟨1, 21⟩,
    SourceFile.parse_ok_iff.2 ⟨"class X {}", by decide +kernel, rfl⟩, by decide +kernel, ?_⟩
  intro h
  have hlength := congrArg (fun x => x.toOption.map fun parsed => parsed.declarations.length) h
  revert hlength
  decide +kernel

end Workspace

end DecoratorGraph
