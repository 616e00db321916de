import DecoratorGraph.Proofs.FileTree.Directories

/-!
# What changes in a tree, and where paths lead afterwards

A run of the program makes directories where nothing stood and writes files, and lets others write
files. So between two trees each place is `Kept`, or it is one of the places that may be written.
Then the directories and links on a way are still there, and a file whose place is kept is found
under its path as before.

A path with no link on its way leads to the place that is read off its pieces, `place`, in every
tree on the way of such changes. So paths can be told apart by how they are spelled.
-/

namespace DecoratorGraph

namespace FileTree

/-! ### Changes -/

/-- Nothing has changed at a place, or a directory was made there where nothing stood. -/
def Kept (t u : FileTree) (p : Place) : Prop :=
  u.node? p = t.node? p ∨ t.node? p = none ∧ u.node? p = some .directory

/-- All places are kept, but for some at which no directory and no link stood, and where no link
stands now. -/
structure Changed (places : Place → Prop) (t u : FileTree) : Prop where
  workingDirectory : u.workingDirectory = t.workingDirectory
  node : ∀ p, Kept t u p ∨
    places p ∧ t.IsEnd p ∧ ∀ target, u.node? p ≠ some (.link target)

section Changed

variable {places places' : Place → Prop} {t u v : FileTree} {p : Place}

theorem Kept.trans (h : Kept t u p) (h' : Kept u v p) : Kept t v p := by
  rcases h' with hv | ⟨hu, hv⟩
  · rcases h with hu | ⟨ht, hu⟩
    · exact Or.inl (hv.trans hu)
    · exact Or.inr ⟨ht, hv.trans hu⟩
  · rcases h with ht | ⟨ht, -⟩
    · exact Or.inr ⟨ht ▸ hu, hv⟩
    · exact Or.inr ⟨ht, hv⟩

theorem Kept.node? (h : Kept t u p) {n : FileNode} (hn : t.node? p = some n) :
    u.node? p = some n := by
  rcases h with hu | ⟨ht, -⟩
  · rw [hu, hn]
  · rw [ht] at hn
    cases hn

theorem Grown.changed (h : Grown t u) (places : Place → Prop) : Changed places t u :=
  ⟨h.workingDirectory, fun p => Or.inl (h.node p)⟩

theorem WrittenAt.changed (h : WrittenAt places t u) : Changed places t u := by
  refine ⟨h.sameWays.workingDirectory, fun p => ?_⟩
  by_cases hp : places p
  · rcases h.sameWays.node p with hnode | ⟨ht, hu⟩
    · exact Or.inl (Or.inl hnode)
    · exact Or.inr ⟨hp, ht, fun target hlink => by cases hu _ hlink⟩
  · exact Or.inl (Or.inl (h.frame p hp))

theorem Wrote.changed {content : List UInt8} (h : t.Wrote p content u) (hp : places p) :
    Changed places t u :=
  WrittenAt.changed ⟨h.sameWays, fun q hq => h.frame q fun heq => hq (heq ▸ hp)⟩

theorem Changed.mono (h : Changed places t u) (hplaces : ∀ p, places p → places' p) :
    Changed places' t u :=
  ⟨h.workingDirectory, fun p => (h.node p).imp_right fun ⟨hp, hnode⟩ => ⟨hplaces p hp, hnode⟩⟩

theorem Changed.trans (h : Changed places t u) (h' : Changed places u v) :
    Changed places t v := by
  refine ⟨h'.workingDirectory.trans h.workingDirectory, fun p => ?_⟩
  rcases h'.node p with hkept' | ⟨hp, hend', hlink'⟩
  · rcases h.node p with hkept | ⟨hp, hend, hlink⟩
    · exact Or.inl (hkept.trans hkept')
    · refine Or.inr ⟨hp, hend, fun target hv => ?_⟩
      rcases hkept' with hsame | ⟨-, hdirectory⟩
      · exact hlink target (hsame ▸ hv)
      · rw [hdirectory] at hv
        cases hv
  · refine Or.inr ⟨hp, fun n hn => ?_, hlink'⟩
    rcases h.node p with hkept | ⟨-, hend, -⟩
    · exact hend' n (hkept.node? hn)
    · exact hend n hn

theorem Changed.kept (h : Changed places t u) (hp : ¬places p) : Kept t u p :=
  (h.node p).resolve_right fun hchanged => hp hchanged.1

/-- Directories and links stay. -/
theorem Changed.node?_of_not_isFile (h : Changed places t u) {n : FileNode}
    (hn : t.node? p = some n) (hfile : n.isFile = false) : u.node? p = some n := by
  rcases h.node p with hkept | ⟨-, hend, -⟩
  · exact hkept.node? hn
  · rw [hend n hn] at hfile
    cases hfile

theorem Changed.node?_eq_link (h : Changed places t u) {target : Path}
    (hu : u.node? p = some (.link target)) : t.node? p = some (.link target) := by
  rcases h.node p with hkept | ⟨-, -, hlink⟩
  · rcases hkept with hsame | ⟨-, hdirectory⟩
    · rwa [← hsame]
    · rw [hdirectory] at hu
      cases hu
  · exact absurd hu (hlink target)

end Changed

/-! ### Where paths lead -/

/-- What stands at a kept place is found as before. -/
theorem Changed.nodeAt {places : Place → Prop} {t u : FileTree} (h : Changed places t u)
    {path : Path} {p : Place} {n : FileNode} (hn : t.nodeAt path = .ok (p, n))
    (hp : ¬places p) : u.nodeAt path = .ok (p, n) := by
  obtain ⟨hlocate, hnode⟩ := nodeAt_ok_iff.1 hn
  obtain ⟨hcheck, hfollow⟩ := locate_ok_iff.1 hlocate
  have hnode' := (h.kept hp).node? hnode
  have hend : t.IsEnd p → u.IsEnd p := by
    intro hend m hm
    rw [hnode'] at hm
    exact hend m (hnode.trans hm)
  refine nodeAt_ok_iff.2 ⟨locate_ok_iff.2 ⟨hcheck, ?_⟩, hnode'⟩
  rw [followPieces, h.workingDirectory]
  exact follow_of_kept (fun _ _ => h.node?_of_not_isFile) hend hfollow

theorem readText_ok_iff {t : FileTree} {path : Path} {text : String} :
    t.readText path = .ok text ↔
      ∃ bytes, t.readBytes path = .ok bytes ∧ Text.Utf8.decode? bytes = some text := by
  unfold readText
  cases t.readBytes path with
  | error e => simp [bind, Except.bind]
  | ok bytes =>
      cases hdecode : Text.Utf8.decode? bytes <;> simp [bind, Except.bind, hdecode]

def ReadsAt (t : FileTree) (path : Path) (p : Place) (bytes : List UInt8) : Prop :=
  t.locate path = .ok p ∧ t.readBytes path = .ok bytes

theorem Changed.readsAt {places : Place → Prop} {t u : FileTree} (h : Changed places t u)
    {path : Path} {p : Place} {bytes : List UInt8} (hreads : t.ReadsAt path p bytes)
    (hp : ¬places p) : u.ReadsAt path p bytes := by
  obtain ⟨q, executable, modified, hq⟩ := readBytes_ok_iff.1 hreads.2
  have hsame := (nodeAt_ok_iff.1 hq).1
  rw [hreads.1, Except.ok.injEq] at hsame
  subst hsame
  have hu := h.nodeAt hq hp
  exact ⟨(nodeAt_ok_iff.1 hu).1, readBytes_ok_iff.2 ⟨p, executable, modified, hu⟩⟩

/-! ### Ways without links -/

/-- The place to which pieces lead from a directory if no link is on the way. -/
def placeAlong : Place → List String → Place
  | p, [] => p
  | p, piece :: rest =>
    if piece = "" ∨ piece = "." then placeAlong p rest
    else if piece = ".." then placeAlong p.dropLast rest
    else placeAlong (p ++ [piece]) rest

def LinkFreeAlong (t : FileTree) : Place → List String → Prop
  | _, [] => True
  | p, piece :: rest =>
    if piece = "" ∨ piece = "." then t.LinkFreeAlong p rest
    else if piece = ".." then t.LinkFreeAlong p.dropLast rest
    else (∀ target, t.node? (p ++ [piece]) ≠ some (.link target)) ∧
      t.LinkFreeAlong (p ++ [piece]) rest

def place (t : FileTree) (path : Path) : Place :=
  placeAlong (if path.isAbsolute then [] else t.workingDirectory) path.pieces

def LinkFree (t : FileTree) (path : Path) : Prop :=
  t.LinkFreeAlong (if path.isAbsolute then [] else t.workingDirectory) path.pieces

/-- In a tree without links there are none on any way. -/
theorem linkFree_of_forall {t : FileTree} (h : ∀ p target, t.node? p ≠ some (.link target))
    (path : Path) : t.LinkFree path := by
  have halong (p : Place) (pieces : List String) : t.LinkFreeAlong p pieces := by
    induction pieces generalizing p with
    | nil => trivial
    | cons piece rest ih =>
        unfold LinkFreeAlong
        split
        · exact ih p
        · split
          · exact ih p.dropLast
          · exact ⟨fun target => h _ target, ih _⟩
  exact halong _ _

theorem placeAlong_append (p : Place) (pieces rest : List String) :
    placeAlong p (pieces ++ rest) = placeAlong (placeAlong p pieces) rest := by
  induction pieces generalizing p with
  | nil => rfl
  | cons piece pieces ih =>
      simp only [List.cons_append, placeAlong, ih]
      split
      · rfl
      · split <;> rfl

theorem placeAlong_of_walk {t : FileTree} {onLink : Place → List String → Except IoError Place}
    {p r : Place} {pieces : List String} (hfree : t.LinkFreeAlong p pieces)
    (h : t.walk onLink p pieces = .ok r) : r = placeAlong p pieces := by
  induction pieces generalizing p with
  | nil =>
      cases h
      rfl
  | cons piece rest ih =>
      unfold LinkFreeAlong at hfree
      unfold placeAlong
      rcases walk_cons_cases h with ⟨hskip, h⟩ | ⟨rfl, h⟩ | ⟨⟨hne, hdot, hup, -⟩, h⟩
      · rw [if_pos hskip] at hfree ⊢
        exact ih hfree h
      · rw [if_neg (by decide), if_pos rfl] at hfree ⊢
        exact ih hfree h
      · rw [if_neg (not_or.2 ⟨hne, hdot⟩), if_neg hup] at hfree ⊢
        rcases h with ⟨rfl, rfl, -⟩ | ⟨-, h⟩ | ⟨target, hn, -⟩
        · rfl
        · exact ih hfree.2 h
        · exact absurd hn (hfree.1 target)

theorem LinkFree.eq_place {t : FileTree} {path : Path} (hfree : t.LinkFree path) {p : Place}
    (h : t.locate path = .ok p) : p = t.place path :=
  placeAlong_of_walk hfree (locate_ok_iff.1 h).2

/-- A text is read at the place of its path. -/
theorem LinkFree.readsAt {t : FileTree} {path : Path} (hfree : t.LinkFree path) {text : String}
    (h : t.readText path = .ok text) :
    ∃ bytes, t.ReadsAt path (t.place path) bytes ∧ Text.Utf8.decode? bytes = some text := by
  obtain ⟨bytes, hbytes, htext⟩ := readText_ok_iff.1 h
  obtain ⟨p, executable, modified, hn⟩ := readBytes_ok_iff.1 hbytes
  have hlocate := (nodeAt_ok_iff.1 hn).1
  rw [hfree.eq_place hlocate] at hlocate
  exact ⟨bytes, ⟨hlocate, hbytes⟩, htext⟩

theorem ReadsAt.exists_node? {t : FileTree} {path : Path} {p : Place} {bytes : List UInt8}
    (h : t.ReadsAt path p bytes) : ∃ n, t.node? p = some n := by
  obtain ⟨q, executable, modified, hq⟩ := readBytes_ok_iff.1 h.2
  obtain ⟨hlocate, hnode⟩ := nodeAt_ok_iff.1 hq
  rw [h.1, Except.ok.injEq] at hlocate
  exact ⟨_, hlocate ▸ hnode⟩

theorem Changed.linkFreeAlong {places : Place → Prop} {t u : FileTree} (h : Changed places t u)
    {p : Place} {pieces : List String} (hfree : t.LinkFreeAlong p pieces) :
    u.LinkFreeAlong p pieces := by
  induction pieces generalizing p with
  | nil => trivial
  | cons piece rest ih =>
      unfold LinkFreeAlong at hfree ⊢
      split at hfree
      · rw [if_pos ‹_›]
        exact ih hfree
      · rw [if_neg ‹_›]
        split at hfree
        · rw [if_pos ‹_›]
          exact ih hfree
        · rw [if_neg ‹_›]
          exact ⟨fun target hlink => hfree.1 target (h.node?_eq_link hlink), ih hfree.2⟩

section LinkFree

variable {places : Place → Prop} {t u : FileTree} (h : Changed places t u) {path : Path}

include h

theorem Changed.place_eq : u.place path = t.place path := by
  rw [place, place, h.workingDirectory]

theorem Changed.linkFree (hfree : t.LinkFree path) : u.LinkFree path := by
  unfold LinkFree
  rw [h.workingDirectory]
  exact h.linkFreeAlong hfree

end LinkFree

end FileTree

namespace Text

theorem exists_split_eq_append {separator c : Char} (hc : c ≠ separator) {s : List Char}
    (h : s.getLast? = some c) :
    ∃ before piece, split separator s = before ++ [piece] ∧ piece.getLast? = some c := by
  induction s with
  | nil => cases h
  | cons d s ih =>
      cases s with
      | nil =>
          have hd : d = c := by simpa using h
          subst hd
          exact ⟨[], [d], by simp [split, hc], rfl⟩
      | cons e s =>
          obtain ⟨before, piece, hsplit, hlast⟩ := ih (by simpa using h)
          by_cases hd : d = separator
          · exact ⟨[] :: before, piece, by rw [split, if_pos hd, hsplit]; rfl, hlast⟩
          · cases before with
            | nil =>
                refine ⟨[], d :: piece, by rw [split, if_neg hd, hsplit]; rfl, ?_⟩
                rw [List.getLast?_cons, hlast]
                rfl
            | cons first before =>
                exact ⟨(d :: first) :: before, piece, by rw [split, if_neg hd, hsplit]; rfl, hlast⟩

end Text

namespace FileTree

/-- The last character of a path is that of the name at its end, if it belongs to a name. -/
theorem exists_place_eq {t : FileTree} {path : Path} {c : Char}
    (h : path.text.toList.getLast? = some c) (hslash : c ≠ '/') (hdot : c ≠ '.') :
    ∃ above name, t.place path = above ++ [name] ∧ name.toList.getLast? = some c := by
  obtain ⟨before, piece, hsplit, hlast⟩ := Text.exists_split_eq_append hslash h
  have hpieces : path.pieces = before.map String.ofList ++ [String.ofList piece] := by
    rw [Path.pieces, hsplit, List.map_append, List.map_singleton]
  have hne {name : String} (hname : name.toList.getLast? ≠ some c) :
      String.ofList piece ≠ name := by
    rintro rfl
    rw [String.toList_ofList] at hname
    exact hname hlast
  have hempty : String.ofList piece ≠ "" := hne (by simp)
  have hcurrent : String.ofList piece ≠ "." := hne (by simpa using Ne.symm hdot)
  have hup : String.ofList piece ≠ ".." := hne (by simpa using Ne.symm hdot)
  have hplace (p : Place) : placeAlong p path.pieces =
      placeAlong p (before.map String.ofList) ++ [String.ofList piece] := by
    rw [hpieces, placeAlong_append, placeAlong, if_neg (not_or.2 ⟨hempty, hcurrent⟩), if_neg hup]
    rfl
  exact ⟨_, String.ofList piece, hplace _, by rw [String.toList_ofList]; exact hlast⟩

/-! ### Writing texts -/

theorem grown_makeParents (t : FileTree) (path : Path) : Grown t (t.makeParents path).1 := by
  unfold makeParents
  split
  · exact grown_makeChain t _
  · exact Grown.refl t

/-- Writing a text makes directories, and puts the text at the place to which the path then leads
unless something fails. -/
theorem writeText_cases {t u : FileTree} {path : Path} {text : String}
    {result : Except IoError Unit} (h : t.writeText path text = (u, result)) :
    (∃ e, result = .error e ∧ Grown t u) ∨
      result = .ok () ∧ ∃ v p, Grown t v ∧ v.locate path = .ok p ∧
        v.Wrote p (Text.Utf8.encode text) u := by
  have hgrown := grown_makeParents t path
  unfold writeText at h
  split at h
  · rename_i v e hparents
    cases h
    rw [hparents] at hgrown
    exact Or.inl ⟨e, rfl, hgrown⟩
  · rename_i v hparents
    rw [hparents] at hgrown
    split at h
    · rename_i hwrite
      cases h
      obtain ⟨p, hlocate, hput⟩ := wrote_of_write hwrite
      exact Or.inr ⟨rfl, v, p, hgrown, hlocate, wrote_putContent hput⟩
    · rename_i e hwrite
      cases h
      exact Or.inl ⟨e, rfl, hgrown⟩

theorem Wrote.readsAt {t u : FileTree} {p : Place} {content : List UInt8}
    (h : t.Wrote p content u) {path : Path} (hlocate : t.locate path = .ok p) :
    u.ReadsAt path p content := by
  have hlocate' := (h.sameWays.locate_iff path p).1 hlocate
  obtain ⟨executable, modified, hn⟩ := h.written
  exact ⟨hlocate', readBytes_ok_iff.2 ⟨p, executable, modified, nodeAt_ok_iff.2 ⟨hlocate', hn⟩⟩⟩

/-- A text that was written can be read, and only its place has changed. -/
theorem LinkFree.written {t u : FileTree} {path : Path} (hfree : t.LinkFree path) {text : String}
    (h : t.writeText path text = (u, .ok ())) :
    Changed (· = t.place path) t u ∧
      u.ReadsAt path (t.place path) (Text.Utf8.encode text) := by
  obtain ⟨e, he, -⟩ | ⟨-, v, p, hgrown, hlocate, hwrote⟩ := writeText_cases h
  · cases he
  · have hchanged := hgrown.changed (· = t.place path)
    have hp : p = t.place path := by
      rw [← hchanged.place_eq]
      exact (hchanged.linkFree hfree).eq_place hlocate
    subst hp
    exact ⟨hchanged.trans (hwrote.changed rfl), hwrote.readsAt hlocate⟩

end FileTree

end DecoratorGraph
