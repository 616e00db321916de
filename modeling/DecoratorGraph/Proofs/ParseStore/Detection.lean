import DecoratorGraph.Proofs.ParseStore.Ledger
import DecoratorGraph.Proofs.ParseStore.RoundTrip
import Mathlib.Data.Int.ModEq

/-!
# Changes that a store notices

A file is compared with an entry by the timestamp of the entry, which is made from the time of the
last modification: times before 1970 count as its beginning, and 64 bits are kept. So of two times
only the difference after the clamp can be seen, and only up to a multiple of 2⁶⁴ nanoseconds.

Beside a run of a store its *deposits* are listed, each with what was known of the file when its
parse was stored. `Recorded` says that every entry in memory and in the files of the store is the
entry of a deposit; every request keeps it, whether it succeeds or not. Changes between two times
are noticed in all runs exactly if the two have different timestamps.
-/

namespace DecoratorGraph

/-! ### Timestamps -/

/-- Two times have one timestamp if, with times before 1970 counted as its beginning, they differ by
a multiple of 2⁶⁴ nanoseconds. -/
theorem timestampOf_eq_iff {m n : Int} :
    timestampOf m = timestampOf n ↔ (0x10000000000000000 : Int) ∣ max m 0 - max n 0 := by
  have hcast (k : Int) : ((k.toNat % 0x10000000000000000 : Nat) : Int) =
      max k 0 % 0x10000000000000000 := by
    omega
  rw [timestampOf, timestampOf, ← Int.natCast_inj, hcast, hcast, eq_comm]
  exact Int.modEq_iff_dvd

namespace ParseStore

/-! ### Deposits -/

/-- A parse that was stored for a path, and what was known of the file then. -/
structure Deposit where
  path : Path
  parsed : ParsedFile
  status : FileTree.Status

def Deposit.entry (d : Deposit) : StoredParse :=
  ⟨d.parsed, ⟨timestampOf d.status.modified, d.status.size⟩⟩

namespace Scene

variable (base : ParseStore)

def deposit? (c : Scene) : Request → Option Deposit
  | .store p parsed => (c.tree.status p).toOption.map fun status => ⟨p, parsed, status⟩
  | _ => none

def deposits (c : Scene) : List Request → List Deposit
  | [] => []
  | r :: requests => (c.deposit? r).toList ++ (c.next base r).deposits requests

/-- A list of requests during which the files of the store get entries by deposits only. -/
def Unforged (c : Scene) : List Request → Prop
  | [] => True
  | r :: requests =>
    (c.deposit? r = none → ∀ p e, base.saved? (c.next base r).tree p = some e →
      base.saved? c.tree p = some e) ∧
    Unforged (c.next base r) requests

end Scene

/-- All entries, in memory and in the files of the store, are entries of the given deposits. -/
structure Recorded (base : ParseStore) (past : List Deposit) (c : Scene) : Prop where
  isOver : base.Over c.store
  remembered : ∀ k e, (k, e) ∈ c.store.memory → ∃ d ∈ past, d.entry = e
  saved : ∀ p e, base.saved? c.tree p = some e → ∃ d ∈ past, d.entry = e

variable {base : ParseStore} {c : Scene} {past : List Deposit} {p : Path}

theorem fileState_of_status {t : FileTree} {status : FileTree.Status}
    (h : t.status p = .ok status) :
    t.fileState p = .ok ⟨timestampOf status.modified, status.size⟩ := by
  rw [FileTree.fileState, h]
  rfl

/-- A deposit is made exactly when the file has a state, and its entry has that state. -/
theorem Scene.deposit?_store (c : Scene) (p : Path) (parsed : ParsedFile) :
    (∃ cause, c.deposit? (.store p parsed) = none ∧ c.tree.fileState p = .error cause) ∨
      ∃ d, c.deposit? (.store p parsed) = some d ∧ d.entry.parsed = parsed ∧
        c.tree.fileState p = .ok d.entry.state := by
  cases h : c.tree.status p with
  | error cause =>
      refine Or.inl ⟨cause, by simp [deposit?, h, Except.toOption], ?_⟩
      rw [FileTree.fileState, h]
      rfl
  | ok status =>
      exact Or.inr ⟨⟨p, parsed, status⟩, by simp [deposit?, h, Except.toOption], rfl,
        fileState_of_status h⟩

theorem Recorded.mono {more : List Deposit} (h : base.Recorded past c) (hmore : past ⊆ more) :
    base.Recorded more c where
  isOver := h.isOver
  remembered k e he := (h.remembered k e he).imp fun _ hd => ⟨hmore hd.1, hd.2⟩
  saved p e he := (h.saved p e he).imp fun _ hd => ⟨hmore hd.1, hd.2⟩

/-- An entry that tells about a path was deposited. -/
theorem Recorded.evidence? (h : base.Recorded past c) {e : StoredParse}
    (he : c.store.evidence? c.tree p = some e) : ∃ d ∈ past, d.entry = e := by
  rcases evidence?_eq_some_iff.1 he with hmemory | ⟨-, hsaved⟩
  · obtain ⟨k, hk, -⟩ := exists_of_remembered? hmemory
    exact h.remembered k e hk
  · exact h.saved p e (h.isOver.saved? hsaved)

/-! ### What a request keeps -/

section Requests

variable (hformat : ∀ e, base.format.decode? (base.format.encode e) = some e)

include hformat in
/-- The entry of a deposit is remembered and saved, as far as that is possible, and every other
entry was there before. -/
theorem Recorded.store (h : base.Recorded past c) {d : Deposit} (hd : d ∈ past)
    (ledger : Path → Option StoredParse) :
    base.Recorded past ⟨((c.store.remember p d.entry).save c.tree p d.entry).tree,
      c.store.remember p d.entry, ledger⟩ := by
  have hover : base.Over (c.store.remember p d.entry) := ⟨h.isOver.format, h.isOver.directory⟩
  refine ⟨hover, fun k e he => ?_, fun q e he => ?_⟩
  · rcases mem_remember he with ⟨-, rfl⟩ | ⟨he, -⟩
    · exact ⟨d, hd, rfl⟩
    · exact h.remembered k e he
  · rcases hover.saved?_of_save hformat he with rfl | he
    · exact ⟨d, hd, rfl⟩
    · exact h.saved q e he

theorem Recorded.get (h : base.Recorded past c) (p : Path) :
    base.Recorded past (c.next base (.get p)) := by
  rcases get?_store_cases c.store c.tree p with heq | ⟨e, hsaved, -, heq⟩
  · rw [Scene.next, heq]
    exact h
  · rw [Scene.next, heq]
    refine ⟨⟨h.isOver.format, h.isOver.directory⟩, fun k e' he' => ?_, h.saved⟩
    rcases mem_remember he' with ⟨-, rfl⟩ | ⟨he', -⟩
    · exact h.saved p e' (h.isOver.saved? hsaved)
    · exact h.remembered k e' he'

include hformat in
/-- All entries stay entries of deposits, whatever is asked of a store. -/
theorem Recorded.next (h : base.Recorded past c) (r : Request)
    (hunforged : c.deposit? r = none → ∀ p e, base.saved? (c.next base r).tree p = some e →
      base.saved? c.tree p = some e) :
    base.Recorded (past ++ (c.deposit? r).toList) (c.next base r) := by
  have hmore := h.mono (List.subset_append_left past (c.deposit? r).toList)
  have hsaved (hnone : c.deposit? r = none) (q : Path) (e : StoredParse)
      (he : base.saved? (c.next base r).tree q = some e) :
      ∃ d ∈ past ++ (c.deposit? r).toList, d.entry = e :=
    hmore.saved q e (hunforged hnone q e he)
  cases r with
  | store p parsed =>
      rcases c.deposit?_store p parsed with ⟨cause, -, hstate⟩ | ⟨d, hdeposit, rfl, hstate⟩
      · simp only [Scene.next, ParseStore.store, hstate]
        exact hmore
      · have hd : d ∈ past ++ (c.deposit? (.store p d.entry.parsed)).toList := by
          simp [hdeposit]
        simp only [Scene.next, store_of_fileState hstate, save_store]
        exact hmore.store hformat hd _
  | get p => exact hmore.get p
  | needsUpdate p => exact hmore
  | clear =>
      refine ⟨?_, fun k e he => ?_, hsaved rfl⟩
      · rw [Scene.next, clear_store]
        exact ⟨h.isOver.format, h.isOver.directory⟩
      · rw [Scene.next, clear_store] at he
        exact absurd he List.not_mem_nil
  | reopen =>
      have hopened := holds_openAt hmore.saved c.tree
      exact ⟨hopened.isOver, fun k e he => (hopened.remembered _ he).2, hsaved rfl⟩
  | change t => exact ⟨h.isOver, hmore.remembered, hsaved rfl⟩

include hformat in
theorem Recorded.run (h : base.Recorded past c) {requests : List Request}
    (hunforged : c.Unforged base requests) :
    base.Recorded (past ++ c.deposits base requests) (c.run base requests) := by
  induction requests generalizing c past with
  | nil => simpa [Scene.deposits, Scene.run] using h
  | cons r requests ih =>
      rw [Scene.deposits, ← List.append_assoc]
      exact ih (h.next hformat r hunforged.1) hunforged.2

end Requests

theorem recorded_start {t : FileTree} (hfresh : ∀ p, base.saved? t p = none) :
    base.Recorded [] (Scene.start base t) := by
  refine ⟨⟨rfl, Or.inl rfl⟩, fun _ _ he => absurd he List.not_mem_nil, fun p e he => ?_⟩
  rw [Scene.start, hfresh p] at he
  cases he

/-! ### What is noticed -/

/-- A file that needs no update has the state of the entry that tells about it. -/
theorem state_of_needsUpdate {s : ParseStore} {t : FileTree} {e : StoredParse}
    (hevidence : s.evidence? t p = some e) {status : FileTree.Status}
    (hstatus : t.status p = .ok status) (h : s.needsUpdate t p = .ok false) :
    e.state = ⟨timestampOf status.modified, status.size⟩ := by
  have hstate := fileState_of_needsUpdate h hevidence
  rw [fileState_of_status hstatus] at hstate
  exact (Except.ok.inj hstate).symm

/-- Changes between any two of the given times are noticed: in every run of a store that starts
without entries, a file that needs no update because of an entry that was deposited for its path is
as it was when that deposit was made. -/
def NoticesChanges (Times : Set Int) : Prop :=
  ∀ (base : ParseStore) (t : FileTree) (requests : List Request) (c : Scene) (p : Path)
    (d : Deposit) (status : FileTree.Status),
    (∀ e, base.format.decode? (base.format.encode e) = some e) →
    (∀ q, base.saved? t q = none) →
    (Scene.start base t).Unforged base requests →
    c = (Scene.start base t).run base requests →
    d ∈ (Scene.start base t).deposits base requests → d.path.same p = true →
    c.store.evidence? c.tree p = some d.entry →
    c.store.needsUpdate c.tree p = .ok false →
    c.tree.status p = .ok status →
    d.status.modified ∈ Times → status.modified ∈ Times →
    status = d.status

/-! ### A modification -/

def emptyFile (modified : Int) : FileTree :=
  { entries := [(["a.ts"], .file [] false modified)] }

def modification (modified : Int) : List Request :=
  [.store ⟨"a.ts"⟩ ⟨⟨"a.ts"⟩, []⟩, .change (emptyFile modified)]

theorem status_emptyFile (modified : Int) :
    (emptyFile modified).status ⟨"a.ts"⟩ = .ok ⟨modified, 0⟩ := by
  rfl

/-- What a store in memory tells about the file after the modification is what it was before. -/
theorem evidence?_modification (m n : Int) :
    ((Scene.start (inMemory StoredParse.format) (emptyFile m)).run (inMemory StoredParse.format)
        (modification n)).store.evidence? (emptyFile n) ⟨"a.ts"⟩ =
      some (Deposit.entry ⟨⟨"a.ts"⟩, ⟨⟨"a.ts"⟩, []⟩, ⟨m, 0⟩⟩) := by
  have hstate := fileState_of_status (status_emptyFile m)
  simp only [Scene.run, Scene.start, modification, List.foldl_cons, List.foldl_nil, Scene.next,
    store_of_fileState hstate, save_store]
  simp [evidence?, remembered?, remember, Deposit.entry]

/-- Two times that are told apart in all runs have different timestamps. -/
theorem eq_of_noticesChanges {Times : Set Int} (h : NoticesChanges Times) {m n : Int}
    (hm : m ∈ Times) (hn : n ∈ Times) (htimestamp : timestampOf m = timestampOf n) : m = n := by
  have hupdate : ((Scene.start (inMemory StoredParse.format) (emptyFile m)).run
      (inMemory StoredParse.format) (modification n)).store.needsUpdate (emptyFile n) ⟨"a.ts"⟩ =
        .ok false := by
    refine needsUpdate_eq_false_iff.2 ⟨_, evidence?_modification m n, ?_⟩
    rw [fileState_of_status (status_emptyFile n), Deposit.entry, htimestamp]
  have hstatus := h (inMemory StoredParse.format) (emptyFile m) (modification n) _ ⟨"a.ts"⟩
    ⟨⟨"a.ts"⟩, ⟨⟨"a.ts"⟩, []⟩, ⟨m, 0⟩⟩ ⟨n, 0⟩ StoredParse.decode?_encode
    (fun _ => saved?_eq_none_of_directory rfl _) ⟨fun _ _ _ => id, fun _ _ _ => id, trivial⟩ rfl
    List.mem_cons_self (Path.same_refl _) (evidence?_modification m n) hupdate
    (status_emptyFile n) hm hn
  exact (congrArg FileTree.Status.modified hstatus).symm

/-- In every run an entry that tells about a path is the entry of a deposit, and changes between two
times are noticed exactly if the times, with those before 1970 counted as its beginning, do not
differ by a multiple of 2⁶⁴ nanoseconds. The size of a file is compared as it is. -/
theorem noticesChanges_iff (Times : Set Int) :
    (∀ (base : ParseStore) (t : FileTree) (requests : List Request) (p : Path) (e : StoredParse),
      (∀ e, base.format.decode? (base.format.encode e) = some e) →
      (∀ q, base.saved? t q = none) →
      (Scene.start base t).Unforged base requests →
      ((Scene.start base t).run base requests).store.evidence?
        ((Scene.start base t).run base requests).tree p = some e →
      ∃ d ∈ (Scene.start base t).deposits base requests, d.entry = e) ∧
    (NoticesChanges Times ↔
      ∀ m ∈ Times, ∀ n ∈ Times, (0x10000000000000000 : Int) ∣ max m 0 - max n 0 → m = n) := by
  refine ⟨fun base t requests p e hformat hfresh hunforged he => ?_, fun h m hm n hn hdvd => ?_,
    fun hinj base t requests c p d status _ _ _ _ _ _ hevidence hupdate hstatus hd hnow => ?_⟩
  · have hrun := (recorded_start hfresh).run hformat hunforged
    exact hrun.evidence? he
  · exact eq_of_noticesChanges h hm hn (timestampOf_eq_iff.2 hdvd)
  · have hstate := state_of_needsUpdate hevidence hstatus hupdate
    obtain ⟨htimestamp, hsize⟩ := FileState.mk.inj hstate
    have hmodified := hinj _ hd _ hnow (timestampOf_eq_iff.1 htimestamp)
    obtain ⟨modified, size⟩ := status
    obtain ⟨p', parsed, modified', size'⟩ := d
    cases hmodified
    cases hsize
    rfl

end ParseStore

end DecoratorGraph
