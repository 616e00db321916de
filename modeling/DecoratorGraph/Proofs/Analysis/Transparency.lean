import DecoratorGraph.Proofs.Analysis.Alike
import DecoratorGraph.Proofs.Analysis.Loading
import DecoratorGraph.Proofs.Analysis.Runs
import DecoratorGraph.Proofs.ParseStore.RoundTrip

/-!
# A store does not change what an analysis finds

An analysis with a store gives the report of an analysis without one, in every run in which a
state of a file tells what reading it gives. All that a run stores is *genuine*: a parse of a
text that was read when the file was in the state that stands beside it. So a parse that is
served belongs to a text that was read in the state the file has now, and that text is the one
the file has now.

Within one analysis the files of the store get other bytes while the listed files are loaded.
`Amid` is the invariant that leads from one file to the next, `Holds` the one that leads from
one event to the next.
-/

namespace DecoratorGraph

/-! ### Entries of a run -/

def ParseStore.Places (base : ParseStore) (t : FileTree) (p : Place) : Prop :=
  ∃ q slot, base.slot? q = some slot ∧ t.locate slot = .ok p

/-- What is known of a listed file in an analysis of a tree, as long as nothing but the entries
of the store is written. -/
structure Listed (base : ParseStore) (readings : List Reading) (t : FileTree) (f : SourceFile) :
    Prop where
  name : SourceFile.ofPath? f.path = some f
  found : FileTree.checkPath f.path = .ok () → ∃ p n, t.nodeAt f.path = .ok (p, n) ∧ n.isFile = true
  outside : base.Outside t f.path
  read : ∀ state, t.fileState f.path = .ok state →
    ⟨f.path, state, t.readText f.path⟩ ∈ readings

section Load

variable {base : ParseStore} {readings : List Reading} {t u : FileTree} {s : ParseStore}
  {f : SourceFile}

theorem Listed.nodeAt_eq (h : Listed base readings t f)
    (hu : FileTree.WrittenAt (base.Places t) t u) : u.nodeAt f.path = t.nodeAt f.path := by
  refine hu.nodeAt_eq fun hcheck => ?_
  obtain ⟨p, n, hn, -⟩ := h.found hcheck
  refine ⟨p, n, hn, ?_⟩
  rintro ⟨q, slot, hslot, hp⟩
  exact h.outside q slot p hslot hp (FileTree.nodeAt_ok_iff.1 hn).1

theorem Listed.isFile (h : Listed base readings t f) (p : Place) (n : FileNode)
    (hn : t.nodeAt f.path = .ok (p, n)) : n.isFile = true := by
  have hcheck := (FileTree.locate_ok_iff.1 (FileTree.nodeAt_ok_iff.1 hn).1).1
  obtain ⟨p', n', hn', hfile⟩ := h.found hcheck
  rw [hn] at hn'
  cases hn'
  exact hfile

theorem Listed.readText_eq (h : Listed base readings t f)
    (hu : FileTree.WrittenAt (base.Places t) t u) : u.readText f.path = t.readText f.path :=
  FileTree.readText_congr (h.nodeAt_eq hu)

theorem Listed.fileState_eq (h : Listed base readings t f)
    (hu : FileTree.WrittenAt (base.Places t) t u) : u.fileState f.path = t.fileState f.path :=
  FileTree.fileState_congr (h.nodeAt_eq hu) h.isFile

theorem Listed.mem_readings (h : Listed base readings t f)
    (hu : FileTree.WrittenAt (base.Places t) t u) {state : FileState}
    (hstate : u.fileState f.path = .ok state) :
    ⟨f.path, state, t.readText f.path⟩ ∈ readings := by
  rw [h.fileState_eq hu] at hstate
  exact h.read state hstate

/-! ### One analysis -/

/-- The state of an analysis between two of its files: only entries were written, and all
entries are genuine. -/
structure Amid (base : ParseStore) (readings : List Reading) (t u : FileTree) (s : ParseStore) :
    Prop where
  holds : base.Holds (Genuine readings) u s
  written : FileTree.WrittenAt (base.Places t) t u
  wellNamed : u.WellNamed

theorem Amid.store (hformat : ∀ e, base.format.decode? (base.format.encode e) = some e)
    (h : Amid base readings t u s) (hf : Listed base readings t f) {parsed : ParsedFile}
    (hparse : f.parse t = .ok parsed) :
    Amid base readings t (s.store u f.path parsed).tree (s.store u f.path parsed).store := by
  have hsame := SourceFile.same_path_of_parse hparse
  have hholds := h.holds.store hformat hsame fun _ hstate =>
    genuine_of_parse hf.name (hf.mem_readings h.written hstate) hparse
  rcases ParseStore.tree_of_store u s f.path parsed with htree | ⟨slot, content, hslot, hwrite⟩
  · exact ⟨hholds, by rw [htree]; exact h.written, by rw [htree]; exact h.wellNamed⟩
  · refine ⟨hholds, h.written.of_write (fun p hp => ?_) hwrite, h.wellNamed.write hwrite⟩
    exact ⟨f.path, slot, h.holds.isOver.slot? hslot, hp⟩

/-- Loading a file with the store gives what loading it without one gives, and an analysis can
go on from what it leaves behind. -/
theorem Amid.load (hformat : ∀ e, base.format.decode? (base.format.encode e) = some e)
    (hconsistent : Consistent readings) (h : Amid base readings t u s)
    (hf : Listed base readings t f) :
    AlikeOutcome FileError.Alike ParsedFile.Alike (Workspace.load ⟨u, some s⟩ f).result
        (f.parse t) ∧
      ∃ u' s', (Workspace.load ⟨u, some s⟩ f).workspace = ⟨u', some s'⟩ ∧
        Amid base readings t u' s' := by
  have hparse_eq : f.parse u = f.parse t := SourceFile.parse_congr (hf.readText_eq h.written)
  have hcurrent_amid : Amid base readings t u (s.current? u f.path).2 :=
    ⟨h.holds.current? f.path, h.written, h.wellNamed⟩
  unfold Workspace.load
  rcases Workspace.loadAmid_cases id id u s f with
    ⟨parsed, hcurrent, hload⟩ | ⟨-, ⟨cause, hparse, hload⟩ | ⟨parsed, hparse, hload⟩⟩
  · rw [hload]
    obtain ⟨fresh, hfresh, halike⟩ := alike_parse_of_current? hconsistent h.holds hf.name
      (fun _ hstate => hf.mem_readings h.written hstate) hcurrent
    rw [hfresh]
    exact ⟨.ok halike, _, _, rfl, hcurrent_amid⟩
  · rw [hload]
    rw [id_eq, hparse_eq] at hparse
    rw [hparse]
    exact ⟨.error (FileError.Alike.refl cause), _, _, rfl, hcurrent_amid⟩
  · rw [hload]
    rw [id_eq, hparse_eq] at hparse
    rw [hparse]
    exact ⟨.ok (ParsedFile.Alike.refl parsed), _, _, rfl, hcurrent_amid.store hformat hf hparse⟩

theorem Amid.analyzeFiles (hformat : ∀ e, base.format.decode? (base.format.encode e) = some e)
    (hconsistent : Consistent readings) (isMatch : String → Bool) {files : List SourceFile}
    (h : Amid base readings t u s) (hfiles : ∀ f ∈ files, Listed base readings t f) :
    (Workspace.analyzeFiles isMatch ⟨u, some s⟩ files).2.Alike
        (Workspace.analyzeFiles isMatch ⟨t, none⟩ files).2 ∧
      ∃ u' s', (Workspace.analyzeFiles isMatch ⟨u, some s⟩ files).1 = ⟨u', some s'⟩ ∧
        Amid base readings t u' s' := by
  induction files generalizing u s with
  | nil => exact ⟨Report.Alike.empty, u, s, rfl, h⟩
  | cons f files ih =>
      obtain ⟨hresult, u', s', hworkspace, hamid⟩ :=
        h.load hformat hconsistent (hfiles f List.mem_cons_self)
      obtain ⟨hothers, hrest⟩ := ih hamid fun g hg => hfiles g (List.mem_cons_of_mem f hg)
      have hrecords := Loading.records_alike (m := Workspace.load ⟨t, none⟩ f)
        (by rw [Workspace.load_without_store]; exact hresult) isMatch
      have hwithout : (Workspace.load ⟨t, none⟩ f).workspace = ⟨t, none⟩ := by
        rw [Workspace.load_without_store]
      simp only [Workspace.analyzeFiles, Workspace.analyzeFile, hworkspace, hwithout]
      exact ⟨(Report.alike_ofFile f.path _ _ hrecords).append hothers, hrest⟩

end Load

/-! ### Runs -/

namespace Workspace

variable (isMatch : String → Bool) {base : ParseStore} {readings : List Reading}
  {before t : FileTree} {s : ParseStore} {inputs : List Path}

theorem listed_of_mem_sourceFiles (ht : t.WellNamed) {files : List SourceFile}
    (hfiles : t.sourceFiles inputs = .ok files)
    (houtside : ∀ f ∈ files, base.Outside t f.path)
    (hreadings : t.readings inputs ⊆ readings) : ∀ f ∈ files, Listed base readings t f := by
  intro f hf
  obtain ⟨hname, hfound⟩ := FileTree.nodeAt_of_mem_sourceFiles ht hfiles hf
  refine ⟨hname, hfound, houtside f hf, fun state hstate => hreadings ?_⟩
  rw [FileTree.readings, hfiles]
  exact List.mem_filterMap.2 ⟨f, hf, FileTree.look_eq_some hstate⟩

/-- An analysis with the store gives the report of one without a store. After it all entries
are genuine. -/
theorem analyze_step (hformat : ∀ e, base.format.decode? (base.format.encode e) = some e)
    (hconsistent : Consistent readings) (hs : base.Holds (Genuine readings) t s)
    (ht : t.WellNamed)
    (houtside : ∀ files, t.sourceFiles inputs = .ok files → ∀ f ∈ files, base.Outside t f.path)
    (hreadings : t.readings inputs ⊆ readings) :
    AlikeOutcome Eq Report.Alike (analyze isMatch ⟨t, some s⟩ inputs).2
        (analyze isMatch ⟨t, none⟩ inputs).2 ∧
      ∃ u' s', (analyze isMatch ⟨t, some s⟩ inputs).1 = ⟨u', some s'⟩ ∧
        base.Holds (Genuine readings) u' s' ∧ u'.WellNamed := by
  unfold analyze
  cases hfiles : t.sourceFiles inputs with
  | error cause => exact ⟨.error rfl, t, s, rfl, hs, ht⟩
  | ok files =>
      have hlisted := listed_of_mem_sourceFiles ht hfiles (houtside files hfiles) hreadings
      have hamid : Amid base readings t t s := ⟨hs, FileTree.WrittenAt.refl _ t, ht⟩
      obtain ⟨hreport, u', s', hworkspace, hamid'⟩ :=
        hamid.analyzeFiles hformat hconsistent isMatch hlisted
      exact ⟨.ok hreport, u', s', hworkspace, hamid'.holds, hamid'.wellNamed⟩

theorem analyze_of_mem_calls (hformat : ∀ e, base.format.decode? (base.format.encode e) = some e)
    (hconsistent : Consistent readings) {events : List Event}
    (hs : base.Holds (Genuine readings) before s) (ht : t.WellNamed)
    (hlawful : Lawful isMatch base before ⟨t, some s⟩ events)
    (hreadings : ∀ c ∈ calls isMatch base ⟨t, some s⟩ events,
      c.workspace.tree.readings c.inputs ⊆ readings) :
    ∀ c ∈ calls isMatch base ⟨t, some s⟩ events,
      AlikeOutcome Eq Report.Alike (c.workspace.analyze isMatch c.inputs).2
        (analyze isMatch ⟨c.workspace.tree, none⟩ c.inputs).2 := by
  induction events generalizing before t s with
  | nil =>
      intro c hc
      cases hc
  | cons event events ih =>
      cases event with
      | change u => exact ih hs hlawful.1 hlawful.2 hreadings
      | reopen =>
          exact ih (ParseStore.holds_openAt hs.saved t)
            (ParseStore.wellNamed_openAt ht base.format base.directory) hlawful hreadings
      | analyze inputs =>
          obtain ⟨huntouched, houtside, hlawful⟩ := hlawful
          obtain ⟨hreport, u', s', hstep, hs', hu'⟩ := analyze_step isMatch hformat hconsistent
            (hs.untouched huntouched) ht houtside (hreadings _ List.mem_cons_self)
          have hworkspace : step isMatch base ⟨t, some s⟩ (.analyze inputs) = ⟨u', some s'⟩ := hstep
          intro c hc
          simp only [calls, hworkspace] at hc hlawful hreadings
          rcases List.mem_cons.1 hc with rfl | hc
          · exact hreport
          · exact ih hs' hu' hlawful (fun c hc => hreadings c (List.mem_cons_of_mem _ hc)) c hc

/-- Wherever in a run files are analysed, the store changes nothing in the report, or in the
failure to scan the inputs, as long as a state of a file tells what reading the file gives. The
store may save its entries or not, and may give the entries of all paths one file. -/
theorem analyze_alike_without_store (base : ParseStore)
    (hformat : ∀ e, base.format.decode? (base.format.encode e) = some e) {t : FileTree}
    (ht : t.WellNamed) (hempty : ∀ p, base.saved? (base.opened t).tree p = none)
    {events : List Event}
    (hlawful : Lawful isMatch base (base.opened t).tree (base.opened t) events)
    (hconsistent : Consistent ((calls isMatch base (base.opened t) events).flatMap fun c =>
      c.workspace.tree.readings c.inputs)) :
    ∀ c ∈ calls isMatch base (base.opened t) events,
      AlikeOutcome Eq Report.Alike (c.workspace.analyze isMatch c.inputs).2
        (analyze isMatch ⟨c.workspace.tree, none⟩ c.inputs).2 := by
  have hsaved : ∀ p e, base.saved? (base.opened t).tree p = some e →
      Genuine ((calls isMatch base (base.opened t) events).flatMap fun c =>
        c.workspace.tree.readings c.inputs) e := by
    intro p e he
    rw [hempty p] at he
    cases he
  refine analyze_of_mem_calls isMatch hformat hconsistent (ParseStore.holds_openAt hsaved t)
    (ParseStore.wellNamed_openAt ht base.format base.directory) hlawful ?_
  intro c hc reading hreading
  exact List.mem_flatMap.2 ⟨c, hc, hreading⟩

end Workspace

/-! ### A run over one file -/

namespace ParseStore

variable {t u : FileTree}

/-- A store over a directory in which the entries of all paths share one file. -/
def colliding : ParseStore :=
  .empty ⟨fun _ => "entry", StoredParse.encode, StoredParse.decode?⟩ (some ⟨"store"⟩)

theorem colliding_slot? (p : Path) : colliding.slot? p = some ⟨"store/entry"⟩ := by
  have hjoin : (⟨"store"⟩ : Path).join ⟨"entry"⟩ = ⟨"store/entry"⟩ := by decide +kernel
  exact congrArg some hjoin

theorem colliding_saved? (h : (t.readBytes ⟨"store/entry"⟩).toOption = none) (p : Path) :
    colliding.saved? t p = none := by
  simp [saved?, colliding_slot?, h]

theorem colliding_untouched
    (h : u.readBytes ⟨"store/entry"⟩ = t.readBytes ⟨"store/entry"⟩ ∨
      (u.readBytes ⟨"store/entry"⟩).toOption = none) : colliding.Untouched t u := by
  intro p slot bytes hslot hbytes
  rw [colliding_slot?] at hslot
  cases hslot
  rcases h with h | h
  · rw [← h]
    exact hbytes
  · rw [hbytes] at h
    cases h

theorem colliding_outside {inputs : List Path} {f : SourceFile}
    (hfiles : t.sourceFiles inputs = .ok [f])
    (hplace : t.locate ⟨"store/entry"⟩ ≠ t.locate f.path) :
    ∀ files, t.sourceFiles inputs = .ok files → ∀ g ∈ files, colliding.Outside t g.path := by
  intro files hfiles' g hg p slot place hslot hstored hpath
  rw [hfiles] at hfiles'
  cases hfiles'
  rw [List.mem_singleton.1 hg] at hpath
  rw [colliding_slot?] at hslot
  cases hslot
  exact hplace (hstored.trans hpath.symm)

end ParseStore

namespace Workspace

def visits : List Event :=
  [.analyze [⟨"a.ts"⟩], .reopen, .analyze [⟨"a.ts"⟩], .change (.oneFile "class Y {}" 1),
    .analyze [⟨"a.ts"⟩]]

theorem analyze_alike_of_visits :
    ((calls (fun _ => true) .colliding (ParseStore.colliding.opened (.oneFile "@C() class X {}" 0))
        visits).map fun c =>
      (c.workspace.analyze (fun _ => true) c.inputs).2.toOption.map Report.storeHits) =
        [some 0, some 1, some 0] ∧
    ∀ c ∈ calls (fun _ => true) .colliding
        (ParseStore.colliding.opened (.oneFile "@C() class X {}" 0)) visits,
      AlikeOutcome Eq Report.Alike (c.workspace.analyze (fun _ => true) c.inputs).2
        (analyze (fun _ => true) ⟨c.workspace.tree, none⟩ c.inputs).2 := by
  have houtside {t : FileTree} (hfiles : t.sourceFiles [⟨"a.ts"⟩] = .ok [⟨⟨"a.ts"⟩, .typeScript⟩])
      (hplace : t.locate ⟨"store/entry"⟩ ≠ t.locate ⟨"a.ts"⟩) :=
    ParseStore.colliding_outside hfiles hplace
  refine ⟨by decide +kernel, analyze_alike_without_store _ .colliding StoredParse.decode?_encode
    ⟨by decide, by decide⟩ (ParseStore.colliding_saved? (by decide +kernel)) ?_ ?_⟩
  · refine ⟨.refl _ _, ?_, ?_, ?_, ⟨?_, ?_⟩, ?_, ?_, trivial⟩
    · exact houtside (by decide +kernel) (by decide +kernel)
    · exact ParseStore.colliding_untouched (Or.inl (by decide +kernel))
    · exact houtside (by decide +kernel) (by decide +kernel)
    · decide
    · decide
    · exact ParseStore.colliding_untouched (Or.inr (by decide +kernel))
    · exact houtside (by decide +kernel) (by decide +kernel)
  · unfold Consistent
    decide +kernel

end Workspace

end DecoratorGraph
