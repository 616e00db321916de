import DecoratorGraph.Proofs.ParseStore.Ledger
import DecoratorGraph.Proofs.ParseStore.RoundTrip

/-!
# The answers of a store in a run

A run keeps `Mirrors`, so whatever is found is what stands in the ledger. If the paths that are
asked about have files of their own, what is saved for each of them is exactly its entry of the
ledger: this is `Faithful`, which a run keeps as well. Then the answers can be given from the ledger
alone, and tell nothing of where an entry is kept.
-/

namespace DecoratorGraph.ParseStore

variable {base : ParseStore} {c : Scene} {t : FileTree} {p : Path} {used : Path → Prop}

/-! ### Files of their own -/

/-- There is a directory, and different paths in use have different files in it. -/
structure Apart (base : ParseStore) (used : Path → Prop) : Prop where
  directory : base.directory ≠ none
  injective : ∀ p q, used p → used q → base.format.fileName p = base.format.fileName q →
    p.same q = true

/-- What is saved for a path in use is its entry of the ledger. -/
def Faithful (base : ParseStore) (used : Path → Prop) (c : Scene) : Prop :=
  ∀ p, used p → base.saved? c.tree p = c.ledger p

section Requests

variable (hformat : ∀ e, base.format.decode? (base.format.encode e) = some e)
  (hname : ∀ p, ProperName (base.format.fileName p))
  (hcongr : ∀ p q, p.same q = true → base.format.fileName p = base.format.fileName q)

include hformat hname hcongr in
/-- An entry that is saved takes the place of no other one. -/
theorem Faithful.store (hfaithful : base.Faithful used c) (h : base.Mirrors c)
    (hapart : base.Apart used) (hp : used p) {e : StoredParse}
    (hresult : ((c.store.remember p e).save c.tree p e).result = .ok ()) :
    base.Faithful used ⟨((c.store.remember p e).save c.tree p e).tree, c.store.remember p e,
      note c.ledger p e⟩ := by
  obtain ⟨-, hsaved⟩ := h.tree_save hformat hname hresult
  obtain ⟨directory, hdirectory⟩ := Option.ne_none_iff_exists'.1 hapart.directory
  intro q hq
  rw [hsaved q, hdirectory]
  by_cases hsame : p.same q = true
  · rw [if_pos (hcongr p q hsame).symm, Option.map_some]
    exact (note_of_same hsame).symm
  · have hother : base.format.fileName q ≠ base.format.fileName p := fun hfile =>
      hsame (hapart.injective p q hp hq hfile.symm)
    rw [if_neg hother, hfaithful q hq]
    exact (note_of_not_same hsame).symm

include hformat hname hcongr in
theorem Faithful.next (hfaithful : base.Faithful used c) (h : base.Mirrors c)
    (hapart : base.Apart used) {r : Request} (hused : ∀ p, r.path? = some p → used p)
    (hallowed : c.Allows base r) : base.Faithful used (c.next base r) := by
  cases r with
  | store p parsed =>
      obtain ⟨-, -, hresult⟩ := hallowed
      cases hstate : c.tree.fileState p with
      | error cause =>
          simp only [Scene.next, ParseStore.store, hstate]
          exact hfaithful
      | ok state =>
          have hresult := hresult state hstate
          simp only [Scene.next, store_of_fileState hstate, save_store, hstate] at hresult ⊢
          exact hfaithful.store hformat hname hcongr h hapart (hused p rfl) hresult
  | get p => exact hfaithful
  | needsUpdate p => exact hfaithful
  | clear =>
      obtain ⟨-, hsaved⟩ := h.tree_clear hname hallowed
      exact fun q _ => hsaved q
  | reopen =>
      rw [Scene.next, h.ready.openAt]
      exact hfaithful
  | change t =>
      obtain ⟨-, hsaved⟩ := h.tree_change hname hallowed
      exact fun q hq => (hsaved q).trans (hfaithful q hq)

/-! ### Runs -/

include hformat hname hcongr in
theorem Mirrors.run (h : base.Mirrors c) {requests : List Request}
    (hlawful : c.Lawful base requests) : base.Mirrors (c.run base requests) := by
  induction requests generalizing c with
  | nil => exact h
  | cons r requests ih => exact ih (h.next hformat hname hcongr hlawful.1) hlawful.2

include hformat hname hcongr in
theorem Faithful.run (hfaithful : base.Faithful used c) (h : base.Mirrors c)
    (hapart : base.Apart used) {requests : List Request}
    (hused : ∀ r ∈ requests, ∀ p, r.path? = some p → used p)
    (hlawful : c.Lawful base requests) : base.Faithful used (c.run base requests) := by
  induction requests generalizing c with
  | nil => exact hfaithful
  | cons r requests ih =>
      have hfirst := hused r List.mem_cons_self
      exact ih (hfaithful.next hformat hname hcongr h hapart hfirst hlawful.1)
        (h.next hformat hname hcongr hlawful.1)
        (fun r' hr' => hused r' (List.mem_cons_of_mem r hr')) hlawful.2

end Requests

theorem mirrors_start (hready : base.Ready t) (hfresh : ∀ p, base.saved? t p = none) :
    base.Mirrors (Scene.start base t) := by
  refine ⟨hready, rfl, rfl, fun _ _ _ => rfl, nofun,
    fun _ _ hmem => absurd hmem List.not_mem_nil, fun p e he => ?_⟩
  rw [Scene.start, hfresh p] at he
  cases he

/-- A store can be opened over an empty directory, and nothing is saved there. -/
theorem ready_of_empty (hname : ∀ p, ProperName (base.format.fileName p)) {directory : Path}
    {place : Place} (hdirectory : base.directory = some directory) (ht : t.WellNamed)
    (hfound : t.nodeAt directory = .ok (place, .directory))
    (hempty : ∀ e ∈ t.entries, e.1.dropLast ≠ place) :
    base.Ready t ∧ ∀ p, base.saved? t p = none := by
  have hnone (name : String) (n : FileNode) (hn : t.node? (place ++ [name]) = some n) :
      n = .directory := by
    have hmem := FileTree.mem_entries_of_node? (by simp) hn
    exact absurd List.dropLast_concat (hempty _ hmem)
  obtain ⟨hhoused, hsaved⟩ := housed_of_empty hdirectory hname hfound hnone
  exact ⟨ready_of_housed hdirectory ht hhoused, hsaved⟩

/-! ### Answers -/

theorem Mirrors.ledger_of_remembered? (h : base.Mirrors c) {e : StoredParse}
    (hmemory : c.store.remembered? p = some e) : c.ledger p = some e := by
  obtain ⟨k, hk, hsame⟩ := exists_of_remembered? hmemory
  rw [← h.same k p hsame]
  exact h.remembered k e hk

/-- The entry that tells about a path, if it belongs to the path, is the one in the ledger. -/
theorem Mirrors.ledger_of_evidence? (h : base.Mirrors c) {e : StoredParse}
    (hevidence : c.store.evidence? c.tree p = some e) (hown : e.parsed.path.same p = true) :
    c.ledger p = some e := by
  rcases evidence?_eq_some_iff.1 hevidence with hmemory | ⟨-, hsaved⟩
  · exact h.ledger_of_remembered? hmemory
  · rw [h.saved?_eq] at hsaved
    exact h.ledger_of_saved? hsaved hown

/-- A parse that is given is the one that stands in the ledger. -/
theorem Mirrors.get?_eq_none_or (h : base.Mirrors c) (p : Path) :
    (c.store.get? c.tree p).1 = none ∨
      ∃ e, c.ledger p = some e ∧ (c.store.get? c.tree p).1 = some e.parsed := by
  cases hget : (c.store.get? c.tree p).1 with
  | none => exact Or.inl rfl
  | some parsed =>
      have hmemory : ∀ e ∈ c.store.memory, e.2.parsed.path.same e.1 = true :=
        fun e he => h.own e.1 e.2 (h.remembered e.1 e.2 he)
      obtain ⟨e, hevidence, rfl, hown⟩ := get?_eq_some hmemory hget
      exact Or.inr ⟨e, h.ledger_of_evidence? hevidence hown, rfl⟩

theorem Mirrors.evidence?_eq (h : base.Mirrors c) (hsaved : base.saved? c.tree p = c.ledger p) :
    c.store.evidence? c.tree p = c.ledger p := by
  rw [evidence?, h.saved?_eq, hsaved]
  cases hmemory : c.store.remembered? p with
  | some e => exact (h.ledger_of_remembered? hmemory).symm
  | none => rfl

theorem Mirrors.get?_eq (h : base.Mirrors c) (hsaved : base.saved? c.tree p = c.ledger p) :
    (c.store.get? c.tree p).1 = (c.ledger p).map (·.parsed) := by
  rcases h.get?_eq_none_or p with hnone | ⟨e, hledger, hget⟩
  · cases hledger : c.ledger p with
    | none => exact hnone
    | some e =>
        have hevidence := (h.evidence?_eq hsaved).trans hledger
        exact get?_of_evidence? hevidence (h.own p e hledger)
  · rw [hget, hledger, Option.map_some]

theorem Mirrors.needsUpdate_eq (h : base.Mirrors c) (hsaved : base.saved? c.tree p = c.ledger p)
    {state : FileState} (hstate : c.tree.fileState p = .ok state) :
    ∃ answer, c.store.needsUpdate c.tree p = .ok answer ∧
      (answer = false ↔ ∃ e, c.ledger p = some e ∧ e.state = state) := by
  rw [needsUpdate, hstate, h.evidence?_eq hsaved]
  cases c.ledger p with
  | none => exact ⟨true, rfl, by simp⟩
  | some e => exact ⟨e.state != state, rfl, by simp⟩

/-- In every run, the parse that is given for a path is the one that was stored last for it since
the entries were cleared, or none is given, even if all paths share one file. If paths in use have
files of their own, it is always given, and the file of a path needs no update exactly if it is in
the state in which this parse was stored. -/
theorem Scene.answers_of_lawful
    (hformat : ∀ e, base.format.decode? (base.format.encode e) = some e)
    (hname : ∀ p, ProperName (base.format.fileName p))
    (hcongr : ∀ p q, p.same q = true → base.format.fileName p = base.format.fileName q)
    (hready : base.Ready t) (hfresh : ∀ p, base.saved? t p = none) {requests : List Request}
    (hlawful : (Scene.start base t).Lawful base requests) {c : Scene}
    (hc : c = (Scene.start base t).run base requests) (p : Path) :
    ((c.store.get? c.tree p).1 = none ∨
      ∃ e, c.ledger p = some e ∧ (c.store.get? c.tree p).1 = some e.parsed) ∧
    ∀ used : Path → Prop, base.Apart used → used p →
      (∀ r ∈ requests, ∀ q, r.path? = some q → used q) →
        (c.store.get? c.tree p).1 = (c.ledger p).map (·.parsed) ∧
        ∀ state, c.tree.fileState p = .ok state →
          ∃ answer, c.store.needsUpdate c.tree p = .ok answer ∧
            (answer = false ↔ ∃ e, c.ledger p = some e ∧ e.state = state) := by
  subst hc
  have hstart := mirrors_start hready hfresh
  have hrun := hstart.run hformat hname hcongr hlawful
  refine ⟨hrun.get?_eq_none_or p, fun used hapart hp hused => ?_⟩
  have hfaithful : base.Faithful used (Scene.start base t) := fun q _ => hfresh q
  have hsaved := hfaithful.run hformat hname hcongr hstart hapart hused hlawful p hp
  exact ⟨hrun.get?_eq hsaved, fun state hstate => hrun.needsUpdate_eq hsaved hstate⟩

/-! ### A run over one file -/

def hashed : ParseStore := empty StoredParse.format (some ⟨"store"⟩)

def besideStore : FileTree := { entries := [(["a.ts"], .file [] false 7), (["store"], .directory)] }

/-- The file is stored, found by a new store, forgotten, and stored and found once more. -/
def visits : List Request :=
  [.store ⟨"a.ts"⟩ ⟨⟨"a.ts"⟩, []⟩, .reopen, .get ⟨"a.ts"⟩, .clear, .get ⟨"a.ts"⟩,
    .store ⟨"a.ts"⟩ ⟨⟨"a.ts"⟩, [⟨some "X", .classLike, 1, []⟩]⟩, .reopen]

def visited : Scene := (Scene.start hashed besideStore).run hashed visits

theorem answers_of_visits :
    (visited.ledger ⟨"a.ts"⟩).map (·.parsed.declarations.length) = some 1 ∧
    (visited.store.get? visited.tree ⟨"a.ts"⟩).1 = (visited.ledger ⟨"a.ts"⟩).map (·.parsed) ∧
    ∃ answer, visited.store.needsUpdate visited.tree ⟨"a.ts"⟩ = .ok answer ∧
      (answer = false ↔ ∃ e, visited.ledger ⟨"a.ts"⟩ = some e ∧ e.state = ⟨7, 0⟩) := by
  have hfound : besideStore.nodeAt ⟨"store"⟩ = .ok (["store"], .directory) := by decide +kernel
  have hopened : hashed.Ready besideStore ∧ ∀ p, hashed.saved? besideStore p = none :=
    ready_of_empty StoredParse.properName_hashedName rfl ⟨by decide, by decide⟩ hfound (by decide)
  have hlawful : (Scene.start hashed besideStore).Lawful hashed visits := by
    refine ⟨⟨?_, ?_, fun _ _ => ?_⟩, trivial, trivial, ⟨?_, fun directory h => ?_⟩, trivial,
      ⟨?_, ?_, fun _ _ => ?_⟩, trivial, trivial⟩
    · exact Path.same_refl _
    · decide +kernel
    · decide +kernel
    · decide +kernel
    · cases h
      decide +kernel
    · exact Path.same_refl _
    · decide +kernel
    · decide +kernel
  have hapart : hashed.Apart (· = ⟨"a.ts"⟩) := by
    refine ⟨nofun, ?_⟩
    rintro p q rfl rfl -
    exact Path.same_refl _
  obtain ⟨-, hanswers⟩ := Scene.answers_of_lawful StoredParse.decode?_encode
    StoredParse.properName_hashedName (fun _ _ => StoredParse.hashedName_congr) hopened.1 hopened.2
    hlawful (c := visited) rfl ⟨"a.ts"⟩
  obtain ⟨hget, hupdate⟩ := hanswers _ hapart rfl (by simp [visits, Request.path?])
  exact ⟨by decide +kernel, hget, hupdate ⟨7, 0⟩ (by decide +kernel)⟩

end DecoratorGraph.ParseStore
