import DecoratorGraph.Proofs.ParseStore.Slots

/-!
# What a store answers

An entry is kept in memory, in a file of the directory, or in both; it is taken into memory when it
is found in a file, it outlives the store in the file, and another entry may be saved over it there.
Whoever asks sees none of this. Beside a store a *ledger* is kept, which for each path has the entry
that was stored last since the entries were cleared. `Mirrors` says that what the store holds is
what stands in the ledger; it is kept by every request, and from it all answers follow.

A file may be shared by several paths, so an entry can be lost but is never mistaken for another
one. If the paths that are used have files of their own, every entry of the ledger is found.
-/

namespace DecoratorGraph.ParseStore

/-! ### Requests -/

/-- What is asked of a store, and what happens between: a new store takes its place, over the same
directory, or others change files. -/
inductive Request where
  | store (path : Path) (parsed : ParsedFile)
  | get (path : Path)
  | needsUpdate (path : Path)
  | clear
  | reopen
  | change (tree : FileTree)

def Request.path? : Request → Option Path
  | .store p _ => some p
  | .get p => some p
  | .needsUpdate p => some p
  | _ => none

/-- A store among files. The ledger has for each path the entry that was stored last since the
entries were cleared. -/
structure Scene where
  tree : FileTree
  store : ParseStore
  ledger : Path → Option StoredParse

/-- The ledger with an entry for a path, in the place of an earlier one. -/
def note (ledger : Path → Option StoredParse) (p : Path) (e : StoredParse) :
    Path → Option StoredParse :=
  fun q => if p.same q then some e else ledger q

namespace Scene

variable (base : ParseStore)

def start (t : FileTree) : Scene := ⟨t, empty base.format base.directory, fun _ => none⟩

def next (c : Scene) : Request → Scene
  | .store p parsed =>
    ⟨(c.store.store c.tree p parsed).tree, (c.store.store c.tree p parsed).store,
      match c.tree.fileState p with
      | .ok state => note c.ledger p ⟨parsed, state⟩
      | .error _ => c.ledger⟩
  | .get p => ⟨c.tree, (c.store.get? c.tree p).2, c.ledger⟩
  | .needsUpdate _ => c
  | .clear => ⟨(c.store.clear c.tree).tree, (c.store.clear c.tree).store, fun _ => none⟩
  | .reopen =>
    ⟨(openAt base.format base.directory c.tree).1, (openAt base.format base.directory c.tree).2,
      c.ledger⟩
  | .change t => ⟨t, c.store, c.ledger⟩

def run (c : Scene) (requests : List Request) : Scene := requests.foldl (next base) c

/-- What is taken for granted when a request is made. A parse is stored under its path, while the
memory has room, and the directory can be written: the entry is saved, and what is cleared is made
anew where it was. Others leave the directory and the files of the store alone. -/
def Allows (c : Scene) : Request → Prop
  | .store p parsed =>
    parsed.path.same p = true ∧ c.store.memory.length < capacity ∧
      ∀ state, c.tree.fileState p = .ok state → (c.store.store c.tree p parsed).result = .ok ()
  | .clear =>
    (c.store.clear c.tree).result = .ok () ∧
      ∀ directory, base.directory = some directory →
        (c.store.clear c.tree).tree.locateEntry directory = c.tree.locateEntry directory
  | .change t =>
    t.WellNamed ∧ ∀ directory place, base.directory = some directory →
      c.tree.nodeAt directory = .ok (place, .directory) →
        t.nodeAt directory = .ok (place, .directory) ∧
          ∀ p, t.node? (place ++ [base.format.fileName p]) =
            c.tree.node? (place ++ [base.format.fileName p])
  | _ => True

def Lawful (c : Scene) : List Request → Prop
  | [] => True
  | r :: requests => c.Allows base r ∧ Lawful (c.next base r) requests

end Scene

structure Ready (base : ParseStore) (t : FileTree) : Prop where
  wellNamed : t.WellNamed
  housed : ∀ directory, base.directory = some directory → ∃ place, base.Housed directory place t

/-- What the store holds is what stands in the ledger. An entry is saved in the file of its path. -/
structure Mirrors (base : ParseStore) (c : Scene) : Prop where
  ready : base.Ready c.tree
  format : c.store.format = base.format
  directory : c.store.directory = base.directory
  same : ∀ p q, p.same q = true → c.ledger p = c.ledger q
  own : ∀ p e, c.ledger p = some e → e.parsed.path.same p = true
  remembered : ∀ k e, (k, e) ∈ c.store.memory → c.ledger k = some e
  saved : ∀ p e, base.saved? c.tree p = some e →
    base.format.fileName e.parsed.path = base.format.fileName p ∧
      c.ledger e.parsed.path = some e

variable {base : ParseStore} {c : Scene} {p q : Path}

theorem saved?_eq_none_of_directory (h : base.directory = none) (t : FileTree) :
    base.saved? t p = none := by
  simp [saved?, slot?, h]

theorem Mirrors.saved?_eq (h : base.Mirrors c) (p : Path) :
    c.store.saved? c.tree p = base.saved? c.tree p := by
  simp only [saved?, slot?, h.format, h.directory]

theorem ready_of_housed {t : FileTree} {directory : Path} {place : Place}
    (hdirectory : base.directory = some directory) (ht : t.WellNamed)
    (h : base.Housed directory place t) : base.Ready t := by
  refine ⟨ht, fun d hd => ?_⟩
  cases hdirectory.symm.trans hd
  exact ⟨place, h⟩

/-! ### Effects of requests on the files -/

/-- Clearing takes the directory away and makes it anew. -/
theorem removed_of_clear {s : ParseStore} {t : FileTree} {directory : Path} {place : Place}
    (hdirectory : s.directory = some directory)
    (hfound : t.nodeAt directory = .ok (place, .directory))
    (hresult : (s.clear t).result = .ok ()) :
    ∃ u, t.removeDirectory directory = (u, .ok ()) ∧
      u.makeDirectories directory = ((s.clear t).tree, .ok ()) := by
  have hexists : t.exists? directory = true := by
    rw [FileTree.exists?, hfound]
    rfl
  simp only [clear, hdirectory, hexists, if_true] at hresult ⊢
  rcases hremoved : t.removeDirectory directory with ⟨u, (cause | _)⟩
  · rw [hremoved] at hresult
    cases hresult
  · rw [hremoved] at hresult
    exact ⟨u, rfl, Prod.ext rfl hresult⟩

/-- A new store over the same directory leaves the files as they are. -/
theorem Ready.openAt {t : FileTree} (h : base.Ready t) :
    openAt base.format base.directory t = (t, empty base.format base.directory) := by
  cases hdirectory : base.directory with
  | none => rfl
  | some directory =>
      obtain ⟨place, hhoused⟩ := h.housed directory hdirectory
      simp only [ParseStore.openAt, overDirectory,
        FileTree.makeDirectories_of_nodeAt hhoused.found]

section Effects

variable (hformat : ∀ e, base.format.decode? (base.format.encode e) = some e)
  (hname : ∀ p, ProperName (base.format.fileName p))

include hname

include hformat in
/-- An entry that is saved is found under all paths with its file. -/
theorem Mirrors.tree_save (h : base.Mirrors c) {e : StoredParse}
    (hresult : ((c.store.remember p e).save c.tree p e).result = .ok ()) :
    base.Ready ((c.store.remember p e).save c.tree p e).tree ∧
      ∀ q, base.saved? ((c.store.remember p e).save c.tree p e).tree q =
        if base.format.fileName q = base.format.fileName p then base.directory.map fun _ => e
        else base.saved? c.tree q := by
  have hencode : (c.store.remember p e).format.encode = base.format.encode := by
    rw [← h.format]
    rfl
  have hslot : (c.store.remember p e).slot? p =
      base.directory.map fun d => d.join ⟨base.format.fileName p⟩ := by
    simp only [slot?, remember, h.format, h.directory]
  rw [save, hslot, hencode] at hresult ⊢
  cases hdirectory : base.directory with
  | none =>
      refine ⟨h.ready, fun q => ?_⟩
      simp [saved?_eq_none_of_directory hdirectory]
  | some directory =>
      rw [hdirectory] at hresult
      simp only [Option.map_some] at hresult ⊢
      obtain ⟨place, hhoused⟩ := h.ready.housed directory hdirectory
      cases hwrite : c.tree.write (directory.join ⟨base.format.fileName p⟩)
          (base.format.encode e) with
      | error cause => rw [hwrite] at hresult; cases hresult
      | ok u =>
          obtain ⟨hhoused', hsaved⟩ := hhoused.write hdirectory hname hformat hwrite
          exact ⟨ready_of_housed hdirectory (h.ready.wellNamed.write hwrite) hhoused', hsaved⟩

theorem Mirrors.tree_clear (h : base.Mirrors c) (hallowed : c.Allows base .clear) :
    base.Ready (c.store.clear c.tree).tree ∧
      ∀ q, base.saved? (c.store.clear c.tree).tree q = none := by
  obtain ⟨hresult, hsame⟩ := hallowed
  cases hdirectory : base.directory with
  | none =>
      have htree : (c.store.clear c.tree).tree = c.tree := by
        simp [clear, h.directory, hdirectory]
      rw [htree]
      exact ⟨h.ready, fun q => saved?_eq_none_of_directory hdirectory c.tree⟩
  | some directory =>
      obtain ⟨place, hhoused⟩ := h.ready.housed directory hdirectory
      obtain ⟨u, hremoved, hmade⟩ :=
        removed_of_clear (h.directory.trans hdirectory) hhoused.found hresult
      obtain ⟨place', hfound, hempty⟩ := FileTree.emptied_of_remake h.ready.wellNamed hremoved hmade
        (hsame directory hdirectory)
      obtain ⟨hhoused', hsaved⟩ := housed_of_empty hdirectory hname hfound hempty
      have hnamed := (h.ready.wellNamed.removeDirectory hremoved).makeDirectories directory
      rw [hmade] at hnamed
      exact ⟨ready_of_housed hdirectory hnamed hhoused', hsaved⟩

/-- Changes that leave the directory and the files of the store alone change nothing that is
saved. -/
theorem Mirrors.tree_change (h : base.Mirrors c) {t : FileTree}
    (hallowed : c.Allows base (.change t)) :
    base.Ready t ∧ ∀ q, base.saved? t q = base.saved? c.tree q := by
  obtain ⟨hnamed, halone⟩ := hallowed
  have hhouse (directory : Path) (hdirectory : base.directory = some directory) :
      ∃ place, base.Housed directory place c.tree ∧ base.Housed directory place t ∧
        ∀ p, t.node? (place ++ [base.format.fileName p]) =
          c.tree.node? (place ++ [base.format.fileName p]) := by
    obtain ⟨place, hhoused⟩ := h.ready.housed directory hdirectory
    obtain ⟨hfound, hnodes⟩ := halone directory place hdirectory hhoused.found
    refine ⟨place, hhoused, ⟨hfound, fun p target hlink => ?_⟩, hnodes⟩
    rw [hnodes p] at hlink
    exact hhoused.noLink p target hlink
  refine ⟨⟨hnamed, fun directory hdirectory => ?_⟩, fun q => ?_⟩
  · obtain ⟨place, -, hhoused, -⟩ := hhouse directory hdirectory
    exact ⟨place, hhoused⟩
  · cases hdirectory : base.directory with
    | none => rw [saved?_eq_none_of_directory hdirectory, saved?_eq_none_of_directory hdirectory]
    | some directory =>
        obtain ⟨place, hhoused, hhoused', hnodes⟩ := hhouse directory hdirectory
        refine hhoused.saved?_congr hdirectory hname hhoused' ?_
        rw [FileTree.contentAt?, FileTree.contentAt?, hnodes q]

end Effects

/-! ### What a request keeps -/

theorem note_of_same {ledger : Path → Option StoredParse} {e : StoredParse}
    (h : p.same q = true) : note ledger p e q = some e := if_pos h

theorem note_of_not_same {ledger : Path → Option StoredParse} {e : StoredParse}
    (h : ¬p.same q = true) : note ledger p e q = ledger q := if_neg h

theorem note_congr {ledger : Path → Option StoredParse}
    (h : ∀ p q, p.same q = true → ledger p = ledger q) {e : StoredParse} {q r : Path}
    (hqr : q.same r = true) : note ledger p e q = note ledger p e r := by
  by_cases hq : p.same q = true
  · rw [note_of_same hq, note_of_same (Path.same_trans hq hqr)]
  · have hr : ¬p.same r = true := fun hr => hq (Path.same_trans hr (Path.same_symm hqr))
    rw [note_of_not_same hq, note_of_not_same hr, h q r hqr]

theorem note_eq_self {ledger : Path → Option StoredParse}
    (h : ∀ p q, p.same q = true → ledger p = ledger q) {e : StoredParse}
    (hledger : ledger p = some e) : note ledger p e = ledger := by
  funext q
  by_cases hq : p.same q = true
  · rw [note_of_same hq, ← h p q hq, hledger]
  · rw [note_of_not_same hq]

theorem clear_store (s : ParseStore) (t : FileTree) :
    (s.clear t).store = empty s.format s.directory := by
  simp only [clear]
  split
  · rename_i hdirectory
    rw [hdirectory]
  · rename_i hdirectory
    rw [hdirectory]
    split
    · split <;> rfl
    · rfl

theorem mem_remember {s : ParseStore} {e e' : StoredParse} {k : Path}
    (h : (k, e') ∈ (s.remember p e).memory) :
    (k = p ∧ e' = e) ∨ ((k, e') ∈ s.memory ∧ ¬p.same k = true) := by
  rcases List.mem_cons.1 h with heq | hmem
  · exact Or.inl (Prod.mk.injEq _ _ _ _ ▸ heq)
  · obtain ⟨hold, hother⟩ := List.mem_filter.1 hmem
    refine Or.inr ⟨hold, fun hsame => ?_⟩
    have hback : k.same p = true := Path.same_symm hsame
    simp [hback] at hother

/-- After an entry was put into memory it is the one of its path, and the others are as before. -/
theorem Mirrors.note_remember (h : base.Mirrors c) {e : StoredParse} :
    ∀ k e', (k, e') ∈ (c.store.remember p e).memory → note c.ledger p e k = some e' := by
  intro k e' hmem
  rcases mem_remember hmem with ⟨rfl, rfl⟩ | ⟨hold, hother⟩
  · exact note_of_same (Path.same_refl k)
  · rw [note_of_not_same hother]
    exact h.remembered k e' hold

theorem Mirrors.ledger_of_saved? (h : base.Mirrors c) {e : StoredParse}
    (hsaved : base.saved? c.tree p = some e) (hown : e.parsed.path.same p = true) :
    c.ledger p = some e := by
  rw [← h.same _ _ hown]
  exact (h.saved p e hsaved).2

/-- A saved entry that is taken into memory stands in the ledger. -/
theorem Mirrors.get (h : base.Mirrors c) (p : Path) : base.Mirrors (c.next base (.get p)) := by
  rw [Scene.next]
  rcases get?_store_cases c.store c.tree p with hstore | ⟨e, hsaved, hown, hstore⟩
  · rw [hstore]
    exact h
  · rw [hstore]
    rw [h.saved?_eq] at hsaved
    have hledger := h.ledger_of_saved? hsaved hown
    refine ⟨h.ready, h.format, h.directory, h.same, h.own, ?_, h.saved⟩
    have hnoted := h.note_remember (p := p) (e := e)
    rwa [note_eq_self h.same hledger] at hnoted

/-- A new store remembers nothing, and finds what was saved. -/
theorem Mirrors.reopen (h : base.Mirrors c) : base.Mirrors (c.next base .reopen) := by
  rw [Scene.next, h.ready.openAt]
  exact ⟨h.ready, rfl, rfl, h.same, h.own, fun _ _ hmem => absurd hmem List.not_mem_nil, h.saved⟩

section Requests

variable (hformat : ∀ e, base.format.decode? (base.format.encode e) = some e)
  (hname : ∀ p, ProperName (base.format.fileName p))
  (hcongr : ∀ p q, p.same q = true → base.format.fileName p = base.format.fileName q)

include hformat hname hcongr in
/-- An entry that is stored is noted in the ledger. Another entry may be lost with its file. -/
theorem Mirrors.store (h : base.Mirrors c) {e : StoredParse} (hown : e.parsed.path.same p = true)
    (hresult : ((c.store.remember p e).save c.tree p e).result = .ok ()) :
    base.Mirrors ⟨((c.store.remember p e).save c.tree p e).tree, c.store.remember p e,
      note c.ledger p e⟩ := by
  obtain ⟨hready, hsaved⟩ := h.tree_save hformat hname hresult
  refine ⟨hready, h.format, h.directory, fun q r => note_congr h.same, fun q e' he' => ?_,
    h.note_remember, fun q e' he' => ?_⟩
  · by_cases hq : p.same q = true
    · cases (note_of_same hq).symm.trans he'
      exact Path.same_trans hown hq
    · exact h.own q e' ((note_of_not_same hq).symm.trans he')
  · rw [hsaved q] at he'
    -- The file holds the new entry, or one of a path that has another file than `p`.
    by_cases hq : base.format.fileName q = base.format.fileName p
    · rw [if_pos hq] at he'
      obtain ⟨-, -, rfl⟩ := Option.map_eq_some_iff.1 he'
      exact ⟨(hcongr _ _ hown).trans hq.symm, note_of_same (Path.same_symm hown)⟩
    · rw [if_neg hq] at he'
      obtain ⟨hfile, hledger⟩ := h.saved q e' he'
      have hother : ¬p.same e'.parsed.path = true := fun hsame =>
        hq (hfile.symm.trans (hcongr _ _ hsame).symm)
      exact ⟨hfile, (note_of_not_same hother).trans hledger⟩

include hname in
theorem Mirrors.clear (h : base.Mirrors c) (hallowed : c.Allows base .clear) :
    base.Mirrors (c.next base .clear) := by
  obtain ⟨hready, hsaved⟩ := h.tree_clear hname hallowed
  rw [Scene.next, clear_store]
  refine ⟨hready, h.format, h.directory, fun _ _ _ => rfl, nofun,
    fun _ _ hmem => absurd hmem List.not_mem_nil, fun p e he => ?_⟩
  rw [hsaved p] at he
  cases he

include hname in
theorem Mirrors.change (h : base.Mirrors c) {t : FileTree} (hallowed : c.Allows base (.change t)) :
    base.Mirrors (c.next base (.change t)) := by
  obtain ⟨hready, hsaved⟩ := h.tree_change hname hallowed
  refine ⟨hready, h.format, h.directory, h.same, h.own, h.remembered, fun p e he => ?_⟩
  exact h.saved p e ((hsaved p).symm.trans he)

include hformat hname hcongr in
/-- What the store holds stays what stands in the ledger, whatever is asked of it. -/
theorem Mirrors.next (h : base.Mirrors c) {r : Request} (hallowed : c.Allows base r) :
    base.Mirrors (c.next base r) := by
  cases r with
  | store p parsed =>
      obtain ⟨hown, -, hresult⟩ := hallowed
      cases hstate : c.tree.fileState p with
      | error cause =>
          simp only [Scene.next, ParseStore.store, hstate]
          exact h
      | ok state =>
          have hresult := hresult state hstate
          simp only [Scene.next, store_of_fileState hstate, save_store, hstate] at hresult ⊢
          exact h.store hformat hname hcongr hown hresult
  | get p => exact h.get p
  | needsUpdate p => exact h
  | clear => exact h.clear hname hallowed
  | reopen => exact h.reopen
  | change t => exact h.change hname hallowed

end Requests

end DecoratorGraph.ParseStore
