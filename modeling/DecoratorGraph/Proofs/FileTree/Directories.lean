import DecoratorGraph.Proofs.FileTree.Writing

/-!
# Making and removing directories

A walk that goes on behind a place needs only the directories and links on the way, so it goes the
same way in every tree that still has them. In particular nothing changes for it when directories
are made where nothing stood, and the entry of a directory is found again after the directory was
taken away and made anew.
-/

namespace DecoratorGraph.FileTree

/-! ### Walks that go on -/

/-- A walk to a place from which it goes on takes the same way in every tree with the same
directories and links. -/
theorem follow_append_of_follow {t u : FileTree}
    (hkept : ∀ p n, t.node? p = some n → n.isFile = false → u.node? p = some n) {n : Nat}
    {p q : Place} {pieces : List String} (h : t.follow n p (pieces ++ [""]) = .ok q)
    (rest : List String) : ∃ onLink, u.follow n p (pieces ++ rest) = u.walk onLink q rest := by
  obtain ⟨m, q', hsteps, harrives⟩ :=
    exists_steps_of_arrives (List.cons_ne_nil _ _) (arrives_of_follow h)
  have hsteps' := Relation.ReflTransGen.mono (fun _ _ hstep => hstep.mono hkept) _ _ hsteps
  have hfollow : t.follow m q' [""] = .ok q := outcome_eq_ok_iff.2 harrives
  cases m with
  | zero => cases hfollow
  | succ m =>
      obtain rfl : q' = q := Except.ok.inj ((walk_skip (Or.inl rfl)).symm.trans hfollow)
      exact ⟨u.follow m, outcome_append_eq hsteps' rest⟩

/-- The way to a place behind which a walk goes on is a way to this place. -/
theorem follow_of_follow_append {t : FileTree} {n : Nat} {p q : Place} {pieces rest : List String}
    (hrest : rest ≠ []) (h : t.follow n p (pieces ++ rest) = .ok q) :
    ∃ r, t.follow n p (pieces ++ [""]) = .ok r := by
  obtain ⟨m, r, hsteps, harrives⟩ := exists_steps_of_arrives hrest (arrives_of_follow h)
  have hfollow : t.follow m r rest = .ok q := outcome_eq_ok_iff.2 harrives
  cases m with
  | zero => cases hfollow
  | succ m => exact ⟨r, (outcome_append_eq hsteps [""]).trans (walk_skip (Or.inl rfl))⟩

theorem walk_blanks {t : FileTree} {onLink : Place → List String → Except IoError Place}
    {p : Place} {blanks : List String} (h : ∀ b ∈ blanks, b = "") :
    t.walk onLink p blanks = .ok p := by
  induction blanks with
  | nil => rfl
  | cons b blanks ih =>
      rw [walk_skip (Or.inl (h b List.mem_cons_self))]
      exact ih fun c hc => h c (List.mem_cons_of_mem _ hc)

/-! ### The entry that a path names -/

/-- The pieces of a path are those before its last one, that one, and empty ones. -/
theorem pieces_eq_of_reversedPieces {path : Path} {name : String} {before : List String}
    (h : reversedPieces path = name :: before) :
    ∃ blanks, (∀ b ∈ blanks, b = "") ∧ path.pieces = before.reverse ++ name :: blanks := by
  refine ⟨(path.pieces.reverse.takeWhile fun piece => piece == "").reverse, ?_, ?_⟩
  · intro b hb
    have hall := List.all_eq_true.1 List.all_takeWhile b (List.mem_reverse.1 hb)
    simpa using hall
  · have hsplit := List.takeWhile_append_dropWhile (p := fun piece => piece == "")
      (l := path.pieces.reverse)
    rw [reversedPieces] at h
    rw [h] at hsplit
    have hreverse := congrArg List.reverse hsplit
    simpa using hreverse.symm

theorem checkPath_of_locateEntry {t : FileTree} {path : Path} {entry : Option (Place × String)}
    (h : t.locateEntry path = .ok entry) : checkPath path = .ok () := by
  unfold locateEntry at h
  cases hcheck : checkPath path with
  | error e => rw [hcheck] at h; cases h
  | ok _ => rfl

/-- A path is walked through the directory around the entry that it names, and from there along
the name, also in a tree in which directories have been made. -/
theorem locate_of_locateEntry {t u : FileTree} (hworking : u.workingDirectory = t.workingDirectory)
    (hkept : ∀ p n, t.node? p = some n → n.isFile = false → u.node? p = some n) {path : Path}
    {directory : Place} {name : String}
    (h : t.locateEntry path = .ok (some (directory, name))) :
    ∃ onLink blanks, (∀ b ∈ blanks, b = "") ∧
      u.locate path = u.walk onLink directory (name :: blanks) := by
  obtain ⟨before, hreversed, hfollow, -⟩ := locateEntry_ok_some h
  obtain ⟨blanks, hblanks, hpieces⟩ := pieces_eq_of_reversedPieces hreversed
  obtain ⟨onLink, hwalk⟩ := follow_append_of_follow hkept hfollow (name :: blanks)
  refine ⟨onLink, blanks, hblanks, ?_⟩
  rw [locate, checkPath_of_locateEntry h, hpieces, followPieces, hworking]
  exact hwalk

theorem nodeAt_of_locateEntry {t u : FileTree} (hworking : u.workingDirectory = t.workingDirectory)
    (hkept : ∀ p n, t.node? p = some n → n.isFile = false → u.node? p = some n) {path : Path}
    {directory : Place} {name : String} (h : t.locateEntry path = .ok (some (directory, name)))
    (hname : Named name) (hnode : u.node? (directory ++ [name]) = some .directory) :
    u.nodeAt path = .ok (directory ++ [name], .directory) := by
  obtain ⟨onLink, blanks, hblanks, hlocate⟩ := locate_of_locateEntry hworking hkept h
  refine nodeAt_ok_iff.2 ⟨?_, hnode⟩
  rw [hlocate, walk_down hname hnode, walk_blanks hblanks]

theorem node?_of_nodeAt_of_locateEntry {t : FileTree} {path : Path} {directory p : Place}
    {name : String} {n : FileNode} (h : t.locateEntry path = .ok (some (directory, name)))
    (hname : Named name) (hn : t.nodeAt path = .ok (p, n)) :
    t.node? (directory ++ [name]) ≠ none := by
  intro hnone
  obtain ⟨onLink, blanks, -, hlocate⟩ := locate_of_locateEntry rfl (fun _ _ hn _ => hn) h
  obtain ⟨hp, hnode⟩ := nodeAt_ok_iff.1 hn
  rw [hlocate, walk_named hname, hnone] at hp
  by_cases hlast : blanks = []
  · have hplace : p = directory ++ [name] := by simpa [hlast, eq_comm] using hp
    rw [hplace, hnone] at hnode
    cases hnode
  · simp [hlast] at hp

/-! ### Making directories -/

/-- The second tree is the first one with directories made where nothing stood. -/
structure Grown (t u : FileTree) : Prop where
  workingDirectory : u.workingDirectory = t.workingDirectory
  node : ∀ p, u.node? p = t.node? p ∨ t.node? p = none ∧ u.node? p = some .directory

theorem Grown.refl (t : FileTree) : Grown t t := ⟨rfl, fun _ => Or.inl rfl⟩

theorem Grown.trans {t u v : FileTree} (h : Grown t u) (h' : Grown u v) : Grown t v := by
  refine ⟨h'.workingDirectory.trans h.workingDirectory, fun p => ?_⟩
  rcases h'.node p with hv | ⟨hu, hv⟩
  · rw [hv]
    exact h.node p
  · rcases h.node p with ht | ⟨ht, -⟩
    · exact Or.inr ⟨ht ▸ hu, hv⟩
    · exact Or.inr ⟨ht, hv⟩

theorem Grown.kept {t u : FileTree} (h : Grown t u) {p : Place} {n : FileNode}
    (hn : t.node? p = some n) : u.node? p = some n := by
  rcases h.node p with hu | ⟨ht, -⟩
  · rw [hu, hn]
  · rw [ht] at hn
    cases hn

/-- Making a directory puts it at the entry that the path names, where nothing stood. -/
theorem made_of_makeDirectory {t u : FileTree} {path : Path} (h : t.makeDirectory path = .ok u) :
    ∃ directory name, t.locateEntry path = .ok (some (directory, name)) ∧ Named name ∧
      u.node? (directory ++ [name]) = some .directory ∧ Grown t u := by
  obtain ⟨_, hplace, rfl⟩ := makeDirectory_eq_ok_iff.1 h
  obtain ⟨directory, name, hentry, hnamed, hnone, rfl⟩ := newPlace_eq_ok_iff.1 hplace
  have hroot : directory ++ [name] ≠ [] := by simp
  refine ⟨directory, name, hentry, hnamed, ?_, rfl, fun p => ?_⟩
  · rw [node?_touch, node?_touch, node?_put_self hroot]
  · rw [node?_touch, node?_touch]
    by_cases hp : p = directory ++ [name]
    · subst hp
      exact Or.inr ⟨hnone, node?_put_self hroot _ _⟩
    · exact Or.inl (node?_put_of_ne hp _ _)

theorem isDirectory_of_makeDirectory {t u : FileTree} {path : Path}
    (h : t.makeDirectory path = .ok u) : u.isDirectory path = true := by
  obtain ⟨directory, name, hentry, hname, hnode, hgrown⟩ := made_of_makeDirectory h
  rw [isDirectory, nodeAt_of_locateEntry hgrown.workingDirectory (fun _ _ hn _ => hgrown.kept hn)
    hentry hname hnode]
  rfl

theorem grown_makeChain (t : FileTree) (paths : List Path) : Grown t (t.makeChain paths).1 := by
  refine makeChain_keeps (fun u v path hgrown hmade => ?_) (Grown.refl t) paths
  obtain ⟨_, _, -, -, -, hmade⟩ := made_of_makeDirectory hmade
  exact hgrown.trans hmade

theorem isDirectory_of_makeChain {t u : FileTree} {path : Path} {above : List Path}
    (hpath : path.text ≠ "") (h : t.makeChain (path :: above) = (u, .ok ())) :
    u.isDirectory path = true := by
  rw [makeChain, if_neg hpath] at h
  have hthere {v : FileTree} {e : IoError}
      (hv : (if v.isDirectory path then (v, Except.ok ()) else (v, Except.error e)) =
        (u, Except.ok ())) : u.isDirectory path = true := by
    split at hv
    · rename_i hdirectory
      cases hv
      exact hdirectory
    · cases hv
  split at h
  · rename_i hmade
    cases h
    exact isDirectory_of_makeDirectory hmade
  · split at h
    · cases h
    · split at h
      · rename_i hmade
        cases h
        exact isDirectory_of_makeDirectory hmade
      · exact hthere h
  · exact hthere h

theorem exists_ancestors_eq_cons (path : Path) : ∃ above, path.ancestors = path :: above := by
  rw [Path.ancestors]
  cases path.components.length with
  | zero => exact ⟨[], rfl⟩
  | succ n =>
      rw [Path.ancestors.climb]
      cases path.parent? with
      | none => exact ⟨[], rfl⟩
      | some q => exact ⟨_, rfl⟩

theorem isDirectory_of_makeDirectories {t u : FileTree} {path : Path} (hpath : path.text ≠ "")
    (h : t.makeDirectories path = (u, .ok ())) : u.isDirectory path = true := by
  obtain ⟨above, habove⟩ := exists_ancestors_eq_cons path
  rw [makeDirectories, habove] at h
  exact isDirectory_of_makeChain hpath h

/-- A path that leads somewhere names an entry, unless it is the root or its last piece is too
long. -/
theorem locateEntry_of_nodeAt {t : FileTree} {path : Path} {p : Place} {n : FileNode}
    (h : t.nodeAt path = .ok (p, n)) :
    t.locateEntry path = .ok none ∨ t.locateEntry path = .error .nameTooLong ∨
      ∃ directory name, t.locateEntry path = .ok (some (directory, name)) := by
  obtain ⟨hcheck, hfollow⟩ := locate_ok_iff.1 (nodeAt_ok_iff.1 h).1
  cases hreversed : reversedPieces path with
  | nil =>
      refine Or.inl ?_
      rw [locateEntry, hcheck, hreversed]
      rfl
  | cons name before =>
      obtain ⟨blanks, -, hpieces⟩ := pieces_eq_of_reversedPieces hreversed
      rw [hpieces] at hfollow
      obtain ⟨directory, hdirectory⟩ := follow_of_follow_append (List.cons_ne_nil _ _) hfollow
      have haround : t.followPieces path (before.reverse ++ [""]) = .ok directory := hdirectory
      simp only [locateEntry, hcheck, hreversed, haround, bind, Except.bind]
      by_cases hlong : longestName < name.utf8ByteSize
      · exact Or.inr (Or.inl (if_pos hlong))
      · exact Or.inr (Or.inr ⟨directory, name, if_neg hlong⟩)

theorem makeDirectory_of_nodeAt {t : FileTree} {path : Path} {p : Place}
    (h : t.nodeAt path = .ok (p, .directory)) :
    ∃ e, t.makeDirectory path = .error e ∧ e ≠ .notFound := by
  rcases locateEntry_of_nodeAt h with hentry | hentry | ⟨directory, name, hentry⟩
  · exact ⟨.alreadyExists, by rw [makeDirectory, newPlace, hentry]; rfl, by decide⟩
  · exact ⟨.nameTooLong, by rw [makeDirectory, newPlace, hentry]; rfl, by decide⟩
  · refine ⟨.alreadyExists, ?_, by decide⟩
    rw [makeDirectory, newPlace, hentry]
    by_cases hdots : name = "." ∨ name = ".."
    · simp [hdots, bind, Except.bind]
    · have hname := named_of_locateEntry hentry hdots
      obtain ⟨n, hn⟩ :=
        Option.ne_none_iff_exists'.1 (node?_of_nodeAt_of_locateEntry hentry hname h)
      simp [hdots, hn, bind, Except.bind]

/-- Where a path leads to a directory, making directories changes nothing. -/
theorem makeDirectories_of_nodeAt {t : FileTree} {path : Path} {p : Place}
    (h : t.nodeAt path = .ok (p, .directory)) : t.makeDirectories path = (t, .ok ()) := by
  obtain ⟨above, habove⟩ := exists_ancestors_eq_cons path
  obtain ⟨e, hmade, he⟩ := makeDirectory_of_nodeAt h
  have hpath := text_ne_empty_of_locate (nodeAt_ok_iff.1 h).1
  have hdirectory : t.isDirectory path = true := by
    rw [isDirectory, h]
    rfl
  rw [makeDirectories, habove, makeChain, if_neg hpath, hmade]
  cases e <;> first | exact absurd rfl he | simp [hdirectory]

/-! ### Removing directories -/

theorem node?_prune_of_prefix {t : FileTree} {p q : Place} (hp : p <+: q) (hq : q ≠ []) :
    (t.prune p).node? q = none := by
  rw [node?, if_neg hq, List.lookup_eq_none_iff]
  intro e he
  have hkept := (List.mem_filter.1 he).2
  rw [bne_iff_ne]
  rintro rfl
  rw [List.isPrefixOf_iff_prefix.2 hp] at hkept
  cases hkept

theorem mem_entries_of_node? {t : FileTree} {p : Place} {n : FileNode} (hp : p ≠ [])
    (h : t.node? p = some n) : (p, n) ∈ t.entries := by
  rw [node?, if_neg hp, List.lookup_eq_some_iff] at h
  obtain ⟨before, after, hsplit, -⟩ := h
  rw [hsplit]
  exact List.mem_append.2 (Or.inr List.mem_cons_self)

theorem WellNamed.prune {t : FileTree} (ht : t.WellNamed) (p : Place) : (t.prune p).WellNamed :=
  ⟨fun e he => ht.entries e (List.mem_filter.1 he).1, ht.workingDirectory⟩

/-- What removing a directory does: its entry goes, with all that is below it. -/
theorem removed_of_removeDirectory {t u : FileTree} (ht : t.WellNamed) {path : Path}
    (h : t.removeDirectory path = (u, .ok ())) :
    ∃ directory name, t.locateEntry path = .ok (some (directory, name)) ∧ Named name ∧
      u = (t.prune (directory ++ [name])).touch directory := by
  unfold removeDirectory removeEntry at h
  split at h
  · cases h
  · cases h
  · rename_i directory name hentry
    split at h
    · cases h
    · split at h
      · cases h
      · rename_i n hn
        split at h
        · cases h
        · cases h
          have hmem := mem_entries_of_node? (by simp) hn
          have hproper := ht.entries _ hmem name (by simp)
          exact ⟨directory, name, hentry, hproper.1, rfl⟩

theorem WellNamed.removeDirectory {t u : FileTree} (ht : t.WellNamed) {path : Path}
    (h : t.removeDirectory path = (u, .ok ())) : u.WellNamed := by
  obtain ⟨directory, name, -, -, rfl⟩ := removed_of_removeDirectory ht h
  exact (ht.prune (directory ++ [name])).touch directory

theorem text_ne_empty_of_locateEntry {t : FileTree} {path : Path} {entry : Option (Place × String)}
    (h : t.locateEntry path = .ok entry) : path.text ≠ "" := by
  intro htext
  have hcheck := checkPath_of_locateEntry h
  unfold checkPath at hcheck
  rw [htext] at hcheck
  cases hcheck

/-- Below a directory that was taken away there are only directories that were made since. -/
theorem node?_of_regrown {t u v : FileTree} {directory p q : Place}
    (hu : u = (t.prune p).touch directory) (hgrown : Grown u v) (hp : p ≠ []) (hq : p <+: q) :
    v.node? q = none ∨ v.node? q = some .directory := by
  have hne : q ≠ [] := by
    rintro rfl
    exact hp (List.prefix_nil.1 hq)
  have hnone : u.node? q = none := by rw [hu, node?_touch, node?_prune_of_prefix hq hne]
  rcases hgrown.node q with hv | ⟨-, hv⟩
  · exact Or.inl (hv.trans hnone)
  · exact Or.inr hv

/-- A directory that is taken away and made anew at the same entry is empty, but for directories
made in it on the way. -/
theorem emptied_of_remake {t u v : FileTree} (ht : t.WellNamed) {path : Path}
    (hremoved : t.removeDirectory path = (u, .ok ()))
    (hmade : u.makeDirectories path = (v, .ok ()))
    (hsame : v.locateEntry path = t.locateEntry path) :
    ∃ p, v.nodeAt path = .ok (p, .directory) ∧
      ∀ name n, v.node? (p ++ [name]) = some n → n = .directory := by
  obtain ⟨directory, name, hentry, hname, hu⟩ := removed_of_removeDirectory ht hremoved
  have hgrown : Grown u v := by
    have hchain := grown_makeChain u path.ancestors
    rw [← makeDirectories, hmade] at hchain
    exact hchain
  have hgone (q : Place) (hq : directory ++ [name] <+: q) :
      v.node? q = none ∨ v.node? q = some .directory :=
    node?_of_regrown hu hgrown (by simp) hq
  have hpath := text_ne_empty_of_locateEntry hentry
  rw [hentry] at hsame
  obtain ⟨p, hp⟩ := exists_nodeAt_of_isDirectory (isDirectory_of_makeDirectories hpath hmade)
  -- The path leads to a directory again, and it still names the entry that was taken away.
  have hnode : v.node? (directory ++ [name]) = some .directory :=
    (hgone _ (List.prefix_refl _)).resolve_left (node?_of_nodeAt_of_locateEntry hsame hname hp)
  refine ⟨directory ++ [name],
    nodeAt_of_locateEntry rfl (fun _ _ hn _ => hn) hsame hname hnode, ?_⟩
  intro below n hn
  rcases hgone _ (List.prefix_append _ [below]) with hnone | hdirectory
  · cases hnone.symm.trans hn
  · cases hdirectory.symm.trans hn
    rfl

end DecoratorGraph.FileTree
