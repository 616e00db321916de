import DecoratorGraph.ParseStore.Basic
import DecoratorGraph.Proofs.FileTree.Writing

/-!
# The entries that a store holds

A store comes and goes with the program that opens it, what it saves stays. So a statement on
entries is made about a store *as it is set up*, with its format and its directory, together
with the store that is open over it at the moment: that one has the same directory, or none
when the directory could not be made.

`Holds base Good t s` says that every entry in memory or in a file of the directory is `Good`,
whatever `Good` asks of an entry. It is kept by everything that a store does, as long as what
is stored is good and nobody else writes into the files of the directory.
-/

namespace DecoratorGraph.ParseStore

/-- A store that is open over the place where another one is set up. -/
structure Over (base s : ParseStore) : Prop where
  format : s.format = base.format
  directory : s.directory = base.directory ∨ s.directory = none

/-- All entries are of a kind: those in memory, each of which belongs to its path, and those
that are saved. -/
structure Holds (base : ParseStore) (Good : StoredParse → Prop) (t : FileTree) (s : ParseStore) :
    Prop where
  isOver : base.Over s
  remembered : ∀ e ∈ s.memory, e.2.parsed.path.same e.1 = true ∧ Good e.2
  saved : ∀ p e, base.saved? t p = some e → Good e

/-- No file of the store has bytes that it did not have before. -/
def Untouched (base : ParseStore) (t u : FileTree) : Prop :=
  ∀ p slot bytes, base.slot? p = some slot → u.readBytes slot = .ok bytes →
    t.readBytes slot = .ok bytes

variable {base s : ParseStore} {Good : StoredParse → Prop} {t u : FileTree} {p : Path}

theorem Untouched.refl (base : ParseStore) (t : FileTree) : base.Untouched t t :=
  fun _ _ _ _ h => h

/-! ### Finding entries -/

theorem saved?_eq_some_iff {e : StoredParse} :
    s.saved? t p = some e ↔ ∃ slot bytes, s.slot? p = some slot ∧
      t.readBytes slot = .ok bytes ∧ s.format.decode? bytes = some e := by
  unfold saved?
  cases s.slot? p with
  | none => simp
  | some slot =>
      cases h : t.readBytes slot with
      | error cause => simp [h, Except.toOption]
      | ok bytes => simp [h, Except.toOption]

theorem Over.slot? (h : base.Over s) {slot : Path} (hs : s.slot? p = some slot) :
    base.slot? p = some slot := by
  unfold ParseStore.slot? at hs ⊢
  rcases h.directory with hd | hd
  · rw [← hd, ← h.format]
    exact hs
  · rw [hd] at hs
    cases hs

theorem Over.saved? (h : base.Over s) {e : StoredParse} (hs : s.saved? t p = some e) :
    base.saved? t p = some e := by
  obtain ⟨slot, bytes, hslot, hbytes, hdecode⟩ := saved?_eq_some_iff.1 hs
  rw [h.format] at hdecode
  exact saved?_eq_some_iff.2 ⟨slot, bytes, h.slot? hslot, hbytes, hdecode⟩

theorem Untouched.saved? (h : base.Untouched t u) {e : StoredParse}
    (hs : base.saved? u p = some e) : base.saved? t p = some e := by
  obtain ⟨slot, bytes, hslot, hbytes, hdecode⟩ := saved?_eq_some_iff.1 hs
  exact saved?_eq_some_iff.2 ⟨slot, bytes, hslot, h p slot bytes hslot hbytes, hdecode⟩

theorem exists_of_remembered? {e : StoredParse} (h : s.remembered? p = some e) :
    ∃ k, (k, e) ∈ s.memory ∧ k.same p = true := by
  obtain ⟨⟨k, e'⟩, hfind, rfl⟩ := Option.map_eq_some_iff.1 h
  have hsame : k.same p = true := by simpa using List.find?_some hfind
  exact ⟨k, List.mem_of_find?_eq_some hfind, hsame⟩

theorem evidence?_eq_some_iff {e : StoredParse} :
    s.evidence? t p = some e ↔
      s.remembered? p = some e ∨ s.remembered? p = none ∧ s.saved? t p = some e := by
  rw [evidence?]
  cases s.remembered? p <;> simp

/-- A file needs no update exactly if the entry that tells about it has the state of the file. -/
theorem needsUpdate_eq_false_iff :
    s.needsUpdate t p = .ok false ↔
      ∃ e, s.evidence? t p = some e ∧ t.fileState p = .ok e.state := by
  rw [needsUpdate]
  cases t.fileState p with
  | error cause => simp [bind, Except.bind]
  | ok state =>
      cases s.evidence? t p with
      | none => simp [bind, Except.bind]
      | some e => simpa [bind, Except.bind] using eq_comm

theorem fileState_of_needsUpdate (h : s.needsUpdate t p = .ok false) {e : StoredParse}
    (he : s.evidence? t p = some e) : t.fileState p = .ok e.state := by
  obtain ⟨e', he', hstate⟩ := needsUpdate_eq_false_iff.1 h
  cases he.symm.trans he'
  exact hstate

/-- What asking for a parse gives and leaves behind. An entry is in memory, or it is saved and
belongs to the path, or there is none to give. -/
theorem get?_cases (s : ParseStore) (t : FileTree) (p : Path) :
    (∃ e, s.remembered? p = some e ∧ s.get? t p = (some e.parsed, s)) ∨
      (∃ e, s.remembered? p = none ∧ s.saved? t p = some e ∧ e.parsed.path.same p = true ∧
        s.get? t p = (some e.parsed, if s.memoryCount < capacity then s.remember p e else s)) ∨
      s.remembered? p = none ∧ (∀ e, s.saved? t p = some e → ¬e.parsed.path.same p = true) ∧
        s.get? t p = (none, s) := by
  rw [get?]
  cases hmemory : s.remembered? p with
  | some e => exact Or.inl ⟨e, rfl, rfl⟩
  | none =>
      refine Or.inr ?_
      cases hsaved : s.saved? t p with
      | none => exact Or.inr ⟨rfl, nofun, rfl⟩
      | some e =>
          by_cases hown : e.parsed.path.same p = true
          · exact Or.inl ⟨e, rfl, rfl, hown, if_pos hown⟩
          · refine Or.inr ⟨rfl, ?_, if_neg hown⟩
            rintro e' ⟨⟩
            exact hown

/-- Asking for a parse changes at most the memory, which takes in a saved entry of the path. -/
theorem get?_store_cases (s : ParseStore) (t : FileTree) (p : Path) :
    (s.get? t p).2 = s ∨ ∃ e, s.saved? t p = some e ∧ e.parsed.path.same p = true ∧
      (s.get? t p).2 = s.remember p e := by
  rcases get?_cases s t p with ⟨e, -, hget⟩ | ⟨e, -, hsaved, hown, hget⟩ | ⟨-, -, hget⟩ <;>
    rw [hget]
  · exact Or.inl rfl
  · by_cases hroom : s.memoryCount < capacity
    · exact Or.inr ⟨e, hsaved, hown, if_pos hroom⟩
    · exact Or.inl (if_neg hroom)
  · exact Or.inl rfl

/-- A parse that is given is the one of the entry that tells about the path, and that entry
belongs to the path. -/
theorem get?_eq_some (h : ∀ e ∈ s.memory, e.2.parsed.path.same e.1 = true) {parsed : ParsedFile}
    (hget : (s.get? t p).1 = some parsed) :
    ∃ e, s.evidence? t p = some e ∧ e.parsed = parsed ∧ parsed.path.same p = true := by
  rcases get?_cases s t p with
    ⟨e, hmemory, heq⟩ | ⟨e, hmemory, hsaved, hown, heq⟩ | ⟨-, -, heq⟩ <;> rw [heq] at hget
  · obtain ⟨k, hk, hsame⟩ := exists_of_remembered? hmemory
    have hown : e.parsed.path.same k = true := h (k, e) hk
    cases hget
    exact ⟨e, evidence?_eq_some_iff.2 (Or.inl hmemory), rfl, Path.same_trans hown hsame⟩
  · cases hget
    exact ⟨e, evidence?_eq_some_iff.2 (Or.inr ⟨hmemory, hsaved⟩), rfl, hown⟩
  · cases hget

/-- An entry that tells about a path and belongs to it is given. -/
theorem get?_of_evidence? {e : StoredParse} (h : s.evidence? t p = some e)
    (hown : e.parsed.path.same p = true) : (s.get? t p).1 = some e.parsed := by
  rcases evidence?_eq_some_iff.1 h with hmemory | ⟨hmemory, hsaved⟩
  · simp only [get?, hmemory]
  · simp only [get?, hmemory, hsaved, if_pos hown]

/-- A parse that still holds is the one of an entry with the state that its file has. -/
theorem current?_eq_some (h : ∀ e ∈ s.memory, e.2.parsed.path.same e.1 = true)
    {parsed : ParsedFile} (hcurrent : (s.current? t p).1 = some parsed) :
    ∃ e, s.evidence? t p = some e ∧ e.parsed = parsed ∧ parsed.path.same p = true ∧
      t.fileState p = .ok e.state := by
  unfold current? at hcurrent
  split at hcurrent
  · rename_i hupdate
    obtain ⟨e, hevidence, hparsed, hsame⟩ := get?_eq_some h hcurrent
    exact ⟨e, hevidence, hparsed, hsame, fileState_of_needsUpdate hupdate hevidence⟩
  · cases hcurrent

/-! ### Keeping entries -/

theorem Holds.mono {Better : StoredParse → Prop} (h : base.Holds Good t s)
    (hbetter : ∀ e, Good e → Better e) : base.Holds Better t s :=
  ⟨h.isOver, fun e he => ⟨(h.remembered e he).1, hbetter _ (h.remembered e he).2⟩,
    fun p e he => hbetter e (h.saved p e he)⟩

theorem Holds.untouched (h : base.Holds Good t s) (hu : base.Untouched t u) :
    base.Holds Good u s :=
  ⟨h.isOver, h.remembered, fun p e he => h.saved p e (hu.saved? he)⟩

theorem Holds.evidence? (h : base.Holds Good t s) {e : StoredParse}
    (he : s.evidence? t p = some e) : Good e := by
  rcases evidence?_eq_some_iff.1 he with hmemory | ⟨-, hsaved⟩
  · obtain ⟨k, hk, -⟩ := exists_of_remembered? hmemory
    exact (h.remembered _ hk).2
  · exact h.saved p e (h.isOver.saved? hsaved)

theorem Holds.remember (h : base.Holds Good t s) {e : StoredParse}
    (hsame : e.parsed.path.same p = true) (he : Good e) : base.Holds Good t (s.remember p e) := by
  refine ⟨⟨h.isOver.format, h.isOver.directory⟩, fun e' he' => ?_, h.saved⟩
  rcases List.mem_cons.1 he' with rfl | he'
  · exact ⟨hsame, he⟩
  · exact h.remembered e' (List.mem_filter.1 he').1

theorem Holds.get? (h : base.Holds Good t s) (p : Path) : base.Holds Good t (s.get? t p).2 := by
  rcases get?_store_cases s t p with heq | ⟨e, hsaved, hown, heq⟩ <;> rw [heq]
  · exact h
  · exact h.remember hown (h.saved p e (h.isOver.saved? hsaved))

theorem Holds.current? (h : base.Holds Good t s) (p : Path) :
    base.Holds Good t (s.current? t p).2 := by
  unfold ParseStore.current?
  split
  · exact h.get? p
  · exact h

theorem save_store (s : ParseStore) (t : FileTree) (p : Path) (e : StoredParse) :
    (s.save t p e).store = s := by
  unfold ParseStore.save
  split
  · rfl
  · split <;> rfl

/-- Saving an entry leaves the files alone, or writes the file of the entry. -/
theorem tree_of_save (s : ParseStore) (t : FileTree) (p : Path) (e : StoredParse) :
    (s.save t p e).tree = t ∨ ∃ slot, s.slot? p = some slot ∧
      t.write slot (s.format.encode e) = .ok (s.save t p e).tree := by
  unfold ParseStore.save
  split
  · exact Or.inl rfl
  · rename_i slot hslot
    split
    · rename_i u hwrite
      exact Or.inr ⟨slot, hslot, hwrite⟩
    · exact Or.inl rfl

/-- What is saved is read back, and every other file of the store stays as it is. -/
theorem Over.saved?_of_save (hformat : ∀ e, base.format.decode? (base.format.encode e) = some e)
    (h : base.Over s) {p q : Path} {e e' : StoredParse}
    (he' : base.saved? (s.save t p e).tree q = some e') :
    e' = e ∨ base.saved? t q = some e' := by
  rcases tree_of_save s t p e with htree | ⟨slot, -, hwrite⟩
  · rw [htree] at he'
    exact Or.inr he'
  · obtain ⟨slot', bytes, hslot', hbytes, hdecode⟩ := saved?_eq_some_iff.1 he'
    rcases FileTree.readBytes_of_write hwrite hbytes with rfl | hbytes
    · rw [h.format, hformat] at hdecode
      cases hdecode
      exact Or.inl rfl
    · exact Or.inr (saved?_eq_some_iff.2 ⟨slot', bytes, hslot', hbytes, hdecode⟩)

theorem Holds.save (hformat : ∀ e, base.format.decode? (base.format.encode e) = some e)
    (h : base.Holds Good t s) (p : Path) {e : StoredParse} (he : Good e) :
    base.Holds Good (s.save t p e).tree (s.save t p e).store := by
  rw [save_store]
  refine ⟨h.isOver, h.remembered, fun q e' he' => ?_⟩
  rcases h.isOver.saved?_of_save hformat he' with rfl | he'
  · exact he
  · exact h.saved q e' he'

theorem Holds.store (hformat : ∀ e, base.format.decode? (base.format.encode e) = some e)
    (h : base.Holds Good t s) {parsed : ParsedFile} (hsame : parsed.path.same p = true)
    (hgood : ∀ state, t.fileState p = .ok state → Good ⟨parsed, state⟩) :
    base.Holds Good (s.store t p parsed).tree (s.store t p parsed).store := by
  unfold ParseStore.store
  split
  · exact h
  · rename_i state hstate
    have hremembered := h.remember (p := p) (e := ⟨parsed, state⟩) hsame (hgood state hstate)
    exact hremembered.save hformat p (hgood state hstate)

/-- Storing a parse leaves the files alone, or writes the file of its entry. -/
theorem tree_of_store (t : FileTree) (s : ParseStore) (p : Path) (parsed : ParsedFile) :
    (s.store t p parsed).tree = t ∨
      ∃ slot content, s.slot? p = some slot ∧
        t.write slot content = .ok (s.store t p parsed).tree := by
  unfold ParseStore.store
  split
  · exact Or.inl rfl
  · rename_i state _
    rcases tree_of_save (s.remember p ⟨parsed, state⟩) t p ⟨parsed, state⟩ with
      htree | ⟨slot, hslot, hwrite⟩
    · exact Or.inl htree
    · exact Or.inr ⟨slot, _, hslot, hwrite⟩

theorem store_of_fileState {state : FileState} (hstate : t.fileState p = .ok state)
    {parsed : ParsedFile} :
    s.store t p parsed = (s.remember p ⟨parsed, state⟩).save t p ⟨parsed, state⟩ := by
  rw [ParseStore.store, hstate]

/-- An entry is remembered even if it cannot be saved. -/
theorem mem_memory_of_store {state : FileState} (hstate : t.fileState p = .ok state)
    {parsed : ParsedFile} : (p, ⟨parsed, state⟩) ∈ (s.store t p parsed).store.memory := by
  rw [store_of_fileState hstate, save_store]
  exact List.mem_cons_self

/-! ### Opening a store -/

theorem openAt_store (format : EntryFormat) (directory : Option Path) (t : FileTree) :
    (openAt format directory t).2 = empty format directory ∨
      (openAt format directory t).2 = empty format none := by
  cases directory with
  | none => exact Or.inl rfl
  | some directory =>
      simp only [openAt, overDirectory]
      split
      · exact Or.inl rfl
      · exact Or.inr rfl

/-- A store that has just been opened remembers nothing. -/
theorem holds_openAt (hsaved : ∀ p e, base.saved? t p = some e → Good e) (u : FileTree) :
    base.Holds Good t (openAt base.format base.directory u).2 := by
  rcases openAt_store base.format base.directory u with h | h <;> rw [h]
  · exact ⟨⟨rfl, Or.inl rfl⟩, fun _ he => absurd he List.not_mem_nil, hsaved⟩
  · exact ⟨⟨rfl, Or.inr rfl⟩, fun _ he => absurd he List.not_mem_nil, hsaved⟩

theorem wellNamed_openAt (ht : t.WellNamed) (format : EntryFormat) (directory : Option Path) :
    (openAt format directory t).1.WellNamed := by
  cases directory with
  | none => exact ht
  | some directory =>
      have hmade := ht.makeDirectories directory
      simp only [openAt, overDirectory]
      split
      · rename_i h
        rw [h] at hmade
        exact hmade
      · rename_i h
        rw [h] at hmade
        exact hmade

end DecoratorGraph.ParseStore
