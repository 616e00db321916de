import DecoratorGraph.ParseStore.Entry
import DecoratorGraph.Proofs.FileTree.Listing

/-!
# Trees that a write leaves behind

A write that succeeds puts its bytes at the place that the path leads to, where nothing stood
or a file, and changes no other place. So a tree keeps its ways, a file that stands elsewhere
reads as before, and every file has the written bytes or those that it had.

The operations by which entries are stored and directories are made keep the names of a tree
proper.
-/

namespace DecoratorGraph.FileTree

/-! ### Writing -/

/-- What a write does: one place gets the bytes, and nothing else changes. -/
structure Wrote (t : FileTree) (p : Place) (content : List UInt8) (u : FileTree) : Prop where
  workingDirectory : u.workingDirectory = t.workingDirectory
  written : ∃ executable modified, u.node? p = some (.file content executable modified)
  isEnd : t.IsEnd p
  frame : ∀ q, q ≠ p → u.node? q = t.node? q

theorem wrote_putContent {t u : FileTree} {p : Place} {content : List UInt8}
    (h : t.putContent p content = .ok u) : t.Wrote p content u := by
  have hroot : p ≠ [] := by
    rintro rfl
    simp [putContent] at h
  unfold putContent at h
  split at h
  · rename_i hn
    cases h
    refine ⟨rfl, ⟨false, t.now, ?_⟩, ?_, ?_⟩
    · rw [node?_touch, node?_put_self hroot]
    · intro n hn'
      rw [hn] at hn'
      cases hn'
    · intro q hq
      rw [node?_touch, node?_put_of_ne hq]
  · rename_i hn
    cases h
    refine ⟨rfl, ⟨_, _, node?_put_self hroot _ _⟩, ?_, fun q hq => node?_put_of_ne hq _ _⟩
    intro n hn'
    rw [hn] at hn'
    cases hn'
    rfl
  · cases h
  · cases h

/-- A write that succeeds goes to the place that the path leads to. -/
theorem wrote_of_write {t u : FileTree} {path : Path} {content : List UInt8}
    (h : t.write path content = .ok u) :
    ∃ p, t.locate path = .ok p ∧ t.putContent p content = .ok u := by
  unfold write at h
  split at h
  · split at h <;> cases h
  · cases hp : t.locate path with
    | error e => rw [hp] at h; cases h
    | ok p =>
        rw [hp] at h
        exact ⟨p, rfl, h⟩

theorem Wrote.sameWays {t u : FileTree} {p : Place} {content : List UInt8}
    (h : t.Wrote p content u) : SameWays t u := by
  refine ⟨h.workingDirectory, fun q => ?_⟩
  by_cases hq : q = p
  · subst hq
    obtain ⟨_, _, hwritten⟩ := h.written
    refine Or.inr ⟨h.isEnd, fun n hn => ?_⟩
    rw [hwritten] at hn
    cases hn
    rfl
  · exact Or.inl (h.frame q hq)

theorem readBytes_ok_iff {t : FileTree} {path : Path} {bytes : List UInt8} :
    t.readBytes path = .ok bytes ↔
      ∃ p executable modified, t.nodeAt path = .ok (p, .file bytes executable modified) := by
  unfold readBytes
  cases t.nodeAt path with
  | error e => simp [bind, Except.bind]
  | ok found =>
      obtain ⟨p, n⟩ := found
      cases n <;> simp [bind, Except.bind]

/-- After a write a file has the written bytes or those that it had before. -/
theorem readBytes_of_write {t u : FileTree} {path : Path} {content : List UInt8}
    (h : t.write path content = .ok u) {q : Path} {bytes : List UInt8}
    (hq : u.readBytes q = .ok bytes) : bytes = content ∨ t.readBytes q = .ok bytes := by
  obtain ⟨p, -, hput⟩ := wrote_of_write h
  have hw := wrote_putContent hput
  obtain ⟨r, executable, modified, hr⟩ := readBytes_ok_iff.1 hq
  obtain ⟨hlocate, hn⟩ := nodeAt_ok_iff.1 hr
  by_cases hrp : r = p
  · subst hrp
    obtain ⟨_, _, hwritten⟩ := hw.written
    rw [hwritten] at hn
    cases hn
    exact Or.inl rfl
  · refine Or.inr (readBytes_ok_iff.2 ⟨r, executable, modified, nodeAt_ok_iff.2 ⟨?_, ?_⟩⟩)
    · exact (hw.sameWays.locate_iff q r).2 hlocate
    · rw [← hw.frame r hrp]
      exact hn

/-! ### Trees that differ at some places only -/

structure WrittenAt (places : Place → Prop) (t u : FileTree) : Prop where
  sameWays : SameWays t u
  frame : ∀ p, ¬places p → u.node? p = t.node? p

theorem WrittenAt.refl (places : Place → Prop) (t : FileTree) : WrittenAt places t t :=
  ⟨SameWays.refl t, fun _ _ => rfl⟩

theorem WrittenAt.trans {places : Place → Prop} {t u v : FileTree} (h : WrittenAt places t u)
    (h' : WrittenAt places u v) : WrittenAt places t v :=
  ⟨h.sameWays.trans h'.sameWays, fun p hp => (h'.frame p hp).trans (h.frame p hp)⟩

theorem WrittenAt.of_write {places : Place → Prop} {t u v : FileTree} {path : Path}
    {content : List UInt8} (h : WrittenAt places t u)
    (hplaces : ∀ p, t.locate path = .ok p → places p) (hwrite : u.write path content = .ok v) :
    WrittenAt places t v := by
  obtain ⟨p, hlocate, hput⟩ := wrote_of_write hwrite
  have hw := wrote_putContent hput
  have hp := hplaces p ((h.sameWays.locate_iff path p).2 hlocate)
  refine h.trans ⟨hw.sameWays, fun q hq => hw.frame q ?_⟩
  rintro rfl
  exact hq hp

section Reading

variable {places : Place → Prop} {t u : FileTree} {path : Path}

/-- A path that is no path to anything, or that leads to a file which is not written, leads to
what it led to before. -/
theorem WrittenAt.nodeAt_eq (h : WrittenAt places t u)
    (hfound : checkPath path = .ok () → ∃ p n, t.nodeAt path = .ok (p, n) ∧ ¬places p) :
    u.nodeAt path = t.nodeAt path := by
  cases hcheck : checkPath path with
  | error e => simp [nodeAt, locate, hcheck, bind, Except.bind]
  | ok _ =>
      obtain ⟨p, n, hn, hp⟩ := hfound hcheck
      obtain ⟨hlocate, hnode⟩ := nodeAt_ok_iff.1 hn
      rw [hn, nodeAt_ok_iff, ← h.sameWays.locate_iff, h.frame p hp]
      exact ⟨hlocate, hnode⟩

theorem readText_congr (h : u.nodeAt path = t.nodeAt path) : u.readText path = t.readText path := by
  simp only [readText, readBytes, h]

/-- The state of a file is read off its node; only directories report more. -/
theorem fileState_congr (h : u.nodeAt path = t.nodeAt path)
    (hfile : ∀ p n, t.nodeAt path = .ok (p, n) → n.isFile = true) :
    u.fileState path = t.fileState path := by
  unfold fileState status
  rw [h]
  cases hn : t.nodeAt path with
  | error e => rfl
  | ok found =>
      obtain ⟨p, n⟩ := found
      have hisFile := hfile p n hn
      cases n with
      | file _ _ _ => rfl
      | link _ => cases hisFile
      | directory => cases hisFile

end Reading

/-! ### Names -/

theorem WellNamed.put {t : FileTree} (ht : t.WellNamed) {p : Place}
    (hp : ∀ name ∈ p, ProperName name) (n : FileNode) : (t.put p n).WellNamed := by
  refine ⟨fun e he => ?_, ht.workingDirectory⟩
  rcases List.mem_cons.1 he with rfl | he
  · exact hp
  · exact ht.entries e (List.mem_filter.1 he).1

theorem WellNamed.touch {t : FileTree} (ht : t.WellNamed) (p : Place) : (t.touch p).WellNamed :=
  ⟨ht.entries, ht.workingDirectory⟩

/-- A walk at a place with proper names, with only pieces between slashes ahead of it. -/
def Walker.Proper (w : Walker) : Prop :=
  (∀ name ∈ w.place, ProperName name) ∧ ∀ piece ∈ w.ahead, '/' ∉ piece.toList

theorem properName_concat {p : Place} {piece : String} (hp : ∀ name ∈ p, ProperName name)
    (hnamed : Named piece) (hpiece : '/' ∉ piece.toList) :
    ∀ name ∈ p ++ [piece], ProperName name := by
  intro name hname
  rcases List.mem_append.1 hname with hname | hname
  · exact hp name hname
  · rw [List.mem_singleton.1 hname]
    exact ⟨hnamed, hpiece⟩

theorem WalkStep.proper {t : FileTree} {w w' : Walker} (h : t.WalkStep w w') (hw : w.Proper) :
    w'.Proper := by
  cases h with
  | skip _ => exact ⟨hw.1, (List.forall_mem_cons.1 hw.2).2⟩
  | up =>
      exact ⟨fun name hname => hw.1 name (List.dropLast_subset _ hname),
        (List.forall_mem_cons.1 hw.2).2⟩
  | down hnamed _ =>
      obtain ⟨hpiece, hrest⟩ := List.forall_mem_cons.1 hw.2
      exact ⟨properName_concat hw.1 hnamed hpiece, hrest⟩
  | link _ _ =>
      refine ⟨fun name hname => ?_, List.forall_mem_append.2
        ⟨fun _ => Path.not_mem_of_mem_pieces, (List.forall_mem_cons.1 hw.2).2⟩⟩
      split at hname
      · cases hname
      · exact hw.1 name hname

/-- A walk ends at a place with proper names if it starts at one: all names on the way are
pieces between slashes. -/
theorem Arrives.properName {t : FileTree} {w : Walker} {r : Place} (h : t.Arrives w r)
    (hw : w.Proper) : ∀ name ∈ r, ProperName name := by
  induction h with
  | here => exact hw.1
  | last hnamed _ => exact properName_concat hw.1 hnamed (hw.2 _ List.mem_cons_self)
  | step h _ ih => exact ih (h.proper hw)

theorem WellNamed.properName_of_followPieces {t : FileTree} (ht : t.WellNamed) {path : Path}
    {pieces : List String} {p : Place} (h : t.followPieces path pieces = .ok p)
    (hpieces : ∀ piece ∈ pieces, '/' ∉ piece.toList) : ∀ name ∈ p, ProperName name := by
  refine (arrives_of_follow h).properName ⟨fun name hname => ?_, hpieces⟩
  dsimp only at hname
  split at hname
  · cases hname
  · exact ht.workingDirectory name hname

theorem WellNamed.write {t u : FileTree} (ht : t.WellNamed) {path : Path} {content : List UInt8}
    (h : t.write path content = .ok u) : u.WellNamed := by
  obtain ⟨p, hlocate, hput⟩ := wrote_of_write h
  have hp := ht.properName_of_followPieces (locate_ok_iff.1 hlocate).2
    fun _ => Path.not_mem_of_mem_pieces
  unfold putContent at hput
  split at hput
  · cases hput
    exact (ht.put hp _).touch _
  · cases hput
    exact ht.put hp _
  · cases hput
  · cases hput

theorem locateEntry_ok_some {t : FileTree} {path : Path} {directory : Place} {name : String}
    (h : t.locateEntry path = .ok (some (directory, name))) :
    ∃ before, reversedPieces path = name :: before ∧
      t.followPieces path (before.reverse ++ [""]) = .ok directory ∧
        name.utf8ByteSize ≤ longestName := by
  unfold locateEntry at h
  cases hcheck : checkPath path with
  | error e => rw [hcheck] at h; cases h
  | ok _ =>
      rw [hcheck] at h
      cases hpieces : reversedPieces path with
      | nil => rw [hpieces] at h; cases h
      | cons last before =>
          rw [hpieces] at h
          cases hfollow : t.followPieces path (before.reverse ++ [""]) with
          | error e => simp [hfollow, bind, Except.bind] at h
          | ok p =>
              simp only [hfollow, bind, Except.bind] at h
              split at h
              · cases h
              · rename_i hlong
                cases h
                exact ⟨before, rfl, hfollow, Nat.le_of_not_lt hlong⟩

theorem reversedPieces_cons {path : Path} {name : String} {before : List String}
    (h : reversedPieces path = name :: before) :
    name ≠ "" ∧ ∀ piece ∈ name :: before, '/' ∉ piece.toList := by
  constructor
  · have hhead := List.head?_dropWhile_not (fun piece => piece == "") path.pieces.reverse
    rw [reversedPieces] at h
    simpa [h] using hhead
  · intro piece hpiece
    rw [← h, reversedPieces] at hpiece
    exact Path.not_mem_of_mem_pieces (List.mem_reverse.1 (List.dropWhile_subset _ hpiece))

theorem named_of_locateEntry {t : FileTree} {path : Path} {directory : Place} {name : String}
    (h : t.locateEntry path = .ok (some (directory, name))) (hdots : ¬(name = "." ∨ name = "..")) :
    Named name := by
  obtain ⟨before, hreversed, -, hlong⟩ := locateEntry_ok_some h
  rw [not_or] at hdots
  exact ⟨(reversedPieces_cons hreversed).1, hdots.1, hdots.2, hlong⟩

/-- A new entry gets the place that the path names, where nothing stands. -/
theorem newPlace_eq_ok_iff {t : FileTree} {path : Path} {p : Place} :
    t.newPlace path = .ok p ↔ ∃ directory name,
      t.locateEntry path = .ok (some (directory, name)) ∧ Named name ∧
        t.node? (directory ++ [name]) = none ∧ p = directory ++ [name] := by
  rw [newPlace]
  cases hentry : t.locateEntry path with
  | error e => simp [bind, Except.bind]
  | ok entry =>
      obtain _ | ⟨directory, name⟩ := entry
      · simp [bind, Except.bind]
      · by_cases hdots : name = "." ∨ name = ".."
        · have hnot : ¬Named name := fun h => hdots.elim h.2.1 h.2.2.1
          simp [bind, Except.bind, hdots, hnot]
        · have hnamed := named_of_locateEntry hentry hdots
          simp only [bind, Except.bind, if_neg hdots]
          cases hnode : t.node? (directory ++ [name]) with
          | none =>
              constructor
              · rintro ⟨⟩
                exact ⟨directory, name, rfl, hnamed, hnode, rfl⟩
              · rintro ⟨_, _, ⟨⟩, -, -, rfl⟩
                rfl
          | some n =>
              refine ⟨nofun, ?_⟩
              rintro ⟨_, _, ⟨⟩, -, hnone, -⟩
              cases hnode.symm.trans hnone

theorem makeDirectory_eq_ok_iff {t u : FileTree} {path : Path} :
    t.makeDirectory path = .ok u ↔ ∃ p, t.newPlace path = .ok p ∧
      u = ((t.put p .directory).touch p).touch p.dropLast := by
  rw [makeDirectory]
  cases t.newPlace path <;> simp [bind, Except.bind, eq_comm]

theorem WellNamed.newPlace {t : FileTree} (ht : t.WellNamed) {path : Path} {p : Place}
    (h : t.newPlace path = .ok p) : ∀ name ∈ p, ProperName name := by
  obtain ⟨directory, last, hentry, hnamed, -, rfl⟩ := newPlace_eq_ok_iff.1 h
  obtain ⟨before, hpieces, hfollow, -⟩ := locateEntry_ok_some hentry
  obtain ⟨-, hslash⟩ := reversedPieces_cons hpieces
  have hbefore : ∀ piece ∈ before.reverse ++ [""], '/' ∉ piece.toList := by
    intro piece hpiece
    rcases List.mem_append.1 hpiece with hpiece | hpiece
    · exact hslash piece (List.mem_cons_of_mem _ (List.mem_reverse.1 hpiece))
    · simp [List.mem_singleton.1 hpiece]
  intro name hname
  rcases List.mem_append.1 hname with hname | hname
  · exact ht.properName_of_followPieces hfollow hbefore name hname
  · rw [List.mem_singleton.1 hname]
    exact ⟨hnamed, hslash last List.mem_cons_self⟩

theorem WellNamed.makeDirectory {t u : FileTree} (ht : t.WellNamed) {path : Path}
    (h : t.makeDirectory path = .ok u) : u.WellNamed := by
  obtain ⟨p, hp, rfl⟩ := makeDirectory_eq_ok_iff.1 h
  exact ((ht.put (ht.newPlace hp) _).touch _).touch _

/-- What every directory that is made keeps is kept by a chain of them. -/
theorem makeChain_keeps {P : FileTree → Prop}
    (hmake : ∀ t u path, P t → t.makeDirectory path = .ok u → P u) {t : FileTree} (ht : P t)
    (paths : List Path) : P (t.makeChain paths).1 := by
  induction paths generalizing t with
  | nil => exact ht
  | cons path above ih =>
      rw [FileTree.makeChain]
      split
      · exact ht
      · split
        · rename_i hmade
          exact hmake _ _ _ ht hmade
        · have habove := ih ht
          split
          · rename_i hchain
            rw [hchain] at habove
            exact habove
          · rename_i hchain
            rw [hchain] at habove
            split
            · rename_i hmade
              exact hmake _ _ _ habove hmade
            · split <;> exact habove
        · split <;> exact ht

theorem WellNamed.makeChain {t : FileTree} (ht : t.WellNamed) (paths : List Path) :
    (t.makeChain paths).1.WellNamed :=
  makeChain_keeps (fun _ _ _ ht hmade => ht.makeDirectory hmade) ht paths

theorem WellNamed.makeDirectories {t : FileTree} (ht : t.WellNamed) (path : Path) :
    (t.makeDirectories path).1.WellNamed := ht.makeChain path.ancestors

end DecoratorGraph.FileTree
