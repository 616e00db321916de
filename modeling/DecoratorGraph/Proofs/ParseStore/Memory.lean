import DecoratorGraph.Proofs.FileTree.Spellings
import DecoratorGraph.Proofs.ParseStore.Ledger

/-!
# What a store serves, and what it remembers afterwards

A store *serves* an entry for a path if the entry has the state that the file has now and is found
in memory, or else in the file for the path, where it has to belong to the path. Looking for a parse
gives the parse of the entry that is served, and as long as there is room the entry is remembered
from then on (`current?_cases`). What is served for one path is served under all spellings of it
that lead to the file, and stays served when an entry for another path is put into memory.
-/

namespace DecoratorGraph.ParseStore

variable {s : ParseStore} {t : FileTree} {p q : Path} {e e' : StoredParse}

/-! ### Memory -/

/-- At most one entry has to make room for a new one. -/
theorem length_le_length_filter {memory : List (Path × StoredParse)}
    (h : memory.Pairwise fun a b => ¬a.1.same b.1 = true) (p : Path) :
    memory.length ≤ (memory.filter fun e => !e.1.same p).length + 1 := by
  induction memory with
  | nil => exact Nat.zero_le _
  | cons a memory ih =>
      obtain ⟨ha, hmemory⟩ := List.pairwise_cons.1 h
      by_cases hsame : a.1.same p = true
      · have hothers : memory.filter (fun e => !e.1.same p) = memory := by
          refine List.filter_eq_self.2 fun b hb => ?_
          rw [Bool.not_eq_true']
          exact Bool.eq_false_iff.2 fun hb' => ha b hb (Path.same_trans hsame (Path.same_symm hb'))
        rw [List.filter_cons_of_neg (by simp [hsame]), hothers]
        exact Nat.le_refl _
      · have hle := ih hmemory
        rw [List.filter_cons_of_pos (by simp [hsame])]
        simp only [List.length_cons]
        omega

/-- A store after entries were put into memory: it is set up as before, and memory has not become
emptier. -/
structure Fuller (s s' : ParseStore) : Prop where
  format : s'.format = s.format
  directory : s'.directory = s.directory
  count : s.memoryCount ≤ s'.memoryCount

theorem Fuller.refl (s : ParseStore) : s.Fuller s := ⟨rfl, rfl, Nat.le_refl _⟩

theorem Fuller.trans {s s' s'' : ParseStore} (h : s.Fuller s') (h' : s'.Fuller s'') :
    s.Fuller s'' :=
  ⟨h'.format.trans h.format, h'.directory.trans h.directory, Nat.le_trans h.count h'.count⟩

theorem fuller_remember (s : ParseStore) (p : Path) (e : StoredParse) :
    s.Fuller (s.remember p e) :=
  ⟨rfl, rfl, length_le_length_filter s.distinct p⟩

theorem memoryCount_remember_le (s : ParseStore) (p : Path) (e : StoredParse) :
    (s.remember p e).memoryCount ≤ s.memoryCount + 1 :=
  Nat.succ_le_succ (List.length_filter_le _ _)

theorem remembered?_congr (h : p.same q = true) : s.remembered? p = s.remembered? q := by
  unfold remembered?
  congr 2
  funext k
  rw [Path.same, Path.same, Path.same_iff.1 h]

theorem remembered?_remember_of_same (h : p.same q = true) :
    (s.remember p e).remembered? q = some e := by
  simp [remembered?, remember, h]

theorem remembered?_remember_of_not_same (h : ¬p.same q = true) :
    (s.remember p e).remembered? q = s.remembered? q := by
  have hfind (memory : List (Path × StoredParse)) :
      (memory.filter fun e => !e.1.same p).find? (fun e => e.1.same q) =
        memory.find? fun e => e.1.same q := by
    rw [List.find?_filter]
    congr 1
    funext k
    have hother : k.1.same q = true → k.1.same p = false := fun hq =>
      Bool.eq_false_iff.2 fun hp => h (Path.same_trans (Path.same_symm hp) hq)
    cases hq : k.1.same q <;> simp_all
  simp [remembered?, remember, h, hfind]

/-! ### Entries that are served -/

/-- The entry has the state of the file, and is found for the path: in memory, or else in the file
for the path, if it belongs to the path. -/
structure Serves (s : ParseStore) (t : FileTree) (p : Path) (e : StoredParse) : Prop where
  state : t.fileState p = .ok e.state
  found : s.remembered? p = some e ∨
    s.remembered? p = none ∧ s.saved? t p = some e ∧ e.parsed.path.same p = true

theorem Serves.evidence? (h : s.Serves t p e) : s.evidence? t p = some e :=
  evidence?_eq_some_iff.2 (h.found.imp_right fun hfound => ⟨hfound.1, hfound.2.1⟩)

theorem Serves.needsUpdate (h : s.Serves t p e) : s.needsUpdate t p = .ok false :=
  needsUpdate_eq_false_iff.2 ⟨e, h.evidence?, h.state⟩

theorem current?_of_needsUpdate (h : s.needsUpdate t p = .ok false) :
    s.current? t p = s.get? t p := by
  rw [current?, h]

theorem current?_of_not_needsUpdate (h : s.needsUpdate t p ≠ .ok false) :
    s.current? t p = (none, s) := by
  rw [current?]
  split
  · contradiction
  · rfl

theorem current?_of_remembered? (hstate : t.fileState p = .ok e.state)
    (hmemory : s.remembered? p = some e) : s.current? t p = (some e.parsed, s) := by
  have hserves : s.Serves t p e := ⟨hstate, Or.inl hmemory⟩
  rw [current?_of_needsUpdate hserves.needsUpdate, get?, hmemory]

/-- What looking for a parse gives and leaves behind. -/
theorem current?_cases (s : ParseStore) (t : FileTree) (p : Path) :
    ((∀ e, ¬s.Serves t p e) ∧ s.current? t p = (none, s)) ∨
      ∃ e, s.Serves t p e ∧
        ((s.remembered? p = some e ∧ s.current? t p = (some e.parsed, s)) ∨
          (s.remembered? p = none ∧ s.current? t p =
            (some e.parsed, if s.memoryCount < capacity then s.remember p e else s))) := by
  by_cases hupdate : s.needsUpdate t p = .ok false
  case neg =>
    exact Or.inl ⟨fun e he => hupdate he.needsUpdate, current?_of_not_needsUpdate hupdate⟩
  rw [current?_of_needsUpdate hupdate]
  rcases get?_cases s t p with
    ⟨e, hmemory, hget⟩ | ⟨e, hmemory, hsaved, hown, hget⟩ | ⟨hmemory, hforeign, hget⟩
  · have hstate : t.fileState p = .ok e.state :=
      fileState_of_needsUpdate hupdate (evidence?_eq_some_iff.2 (Or.inl hmemory))
    exact Or.inr ⟨e, ⟨hstate, Or.inl hmemory⟩, Or.inl ⟨hmemory, hget⟩⟩
  · have hstate : t.fileState p = .ok e.state :=
      fileState_of_needsUpdate hupdate (evidence?_eq_some_iff.2 (Or.inr ⟨hmemory, hsaved⟩))
    exact Or.inr ⟨e, ⟨hstate, Or.inr ⟨hmemory, hsaved, hown⟩⟩, Or.inr ⟨hmemory, hget⟩⟩
  · refine Or.inl ⟨fun e he => ?_, hget⟩
    rcases he.found with hmemory' | ⟨-, hsaved, hown⟩
    · cases hmemory.symm.trans hmemory'
    · exact hforeign e hsaved hown

/-- An entry is served under every spelling of its path that leads to the file. -/
theorem Serves.of_same
    (hcongr : ∀ p q, p.same q = true → s.format.fileName p = s.format.fileName q)
    (h : s.Serves t p e) (hsame : p.same q = true) {state : FileState}
    (hstate : t.fileState q = .ok state) : s.Serves t q e := by
  have hsaved : s.saved? t p = s.saved? t q := by
    simp only [saved?, slot?, hcongr p q hsame]
  constructor
  · rw [hstate, FileTree.fileState_eq_of_same hsame h.state hstate]
  · rw [← remembered?_congr hsame, ← hsaved]
    rcases h.found with hmemory | ⟨hmemory, he, hown⟩
    · exact Or.inl hmemory
    · exact Or.inr ⟨hmemory, he, Path.same_trans hown hsame⟩

/-- An entry for another path changes nothing in what is served. -/
theorem serves_remember_of_not_same (h : ¬p.same q = true) :
    (s.remember p e').Serves t q e ↔ s.Serves t q e := by
  constructor <;> rintro ⟨hstate, hfound⟩ <;> refine ⟨hstate, ?_⟩
  · rwa [remembered?_remember_of_not_same h] at hfound
  · rwa [remembered?_remember_of_not_same h]

/-- What is served after a parse for another path was stored was served before, unless the file has
changed. -/
theorem Serves.of_store
    (hformat : ∀ e, s.format.decode? (s.format.encode e) = some e) {parsed : ParsedFile}
    {state : FileState} (hstate : t.fileState p = .ok state) (hown : parsed.path.same p = true)
    (hother : ¬p.same q = true)
    (h : (s.remember p ⟨parsed, state⟩).Serves (s.store t p parsed).tree q e)
    (hkept : (s.store t p parsed).tree.fileState q = t.fileState q) : s.Serves t q e := by
  obtain ⟨hstate', hfound⟩ := h
  rw [hkept] at hstate'
  rw [store_of_fileState hstate, remembered?_remember_of_not_same hother] at hfound
  refine ⟨hstate', ?_⟩
  rcases hfound with hmemory | ⟨hmemory, hsaved, hsame⟩
  · exact Or.inl hmemory
  refine Or.inr ⟨hmemory, ?_, hsame⟩
  have hover : s.Over (s.remember p ⟨parsed, state⟩) := ⟨rfl, Or.inl rfl⟩
  obtain rfl | hold := hover.saved?_of_save hformat hsaved
  · exact absurd (Path.same_trans (Path.same_symm hown) hsame) hother
  · exact hold

end DecoratorGraph.ParseStore
