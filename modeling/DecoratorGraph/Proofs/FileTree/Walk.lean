import DecoratorGraph.FileTree.Access
import Mathlib.Logic.Relation

/-!
# Walks through file trees

A walk takes the pieces of a path one after the other. `walk_cons_cases` says once what its
first step can be, and the equations next to it lead each of these steps on, so that nothing
below has to open the recursion again. The steps themselves make up a relation (`WalkStep`): a walk
comes to a place exactly if steps lead it there (`outcome_eq_ok_iff`).

Two trees have the *same ways* if they differ only at places where a walk ends: nothing stands
there, or a file. Then every path leads to the same place in both, whatever links are on the
way. This is how a file that is written stays out of the way of all other files.
-/

namespace DecoratorGraph

def Named (piece : String) : Prop :=
  piece ≠ "" ∧ piece ≠ "." ∧ piece ≠ ".." ∧ piece.utf8ByteSize ≤ FileTree.longestName

instance (piece : String) : Decidable (Named piece) := by
  unfold Named
  infer_instance

namespace FileTree

/-- A walk can end at the place but not go on: nothing stands there, or a file. -/
def IsEnd (t : FileTree) (p : Place) : Prop := ∀ n, t.node? p = some n → n.isFile = true

/-! ### One step of a walk -/

section Step

variable {t : FileTree} {onLink : Place → List String → Except IoError Place} {p : Place}
  {piece : String} {rest : List String}

theorem walk_skip (h : piece = "" ∨ piece = ".") :
    t.walk onLink p (piece :: rest) = t.walk onLink p rest := by
  rw [walk, if_pos h]

theorem walk_up : t.walk onLink p (".." :: rest) = t.walk onLink p.dropLast rest := by
  rw [walk, if_neg (by decide), if_pos rfl]

theorem walk_named (h : Named piece) :
    t.walk onLink p (piece :: rest) =
      match t.node? (p ++ [piece]) with
      | none => if rest = [] then .ok (p ++ [piece]) else .error .notFound
      | some .directory => walk t onLink (p ++ [piece]) rest
      | some (.file _ _ _) =>
        if rest = [] then .ok (p ++ [piece]) else .error .notADirectory
      | some (.link target) =>
        onLink (if target.isAbsolute then [] else p) (target.pieces ++ rest) := by
  obtain ⟨hne, hdot, hup, hlong⟩ := h
  rw [walk, if_neg (not_or.2 ⟨hne, hdot⟩), if_neg hup]
  exact if_neg (Nat.not_lt.2 hlong)

theorem walk_end (h : Named piece) (hend : t.IsEnd (p ++ [piece])) :
    t.walk onLink p [piece] = .ok (p ++ [piece]) := by
  rw [walk_named h]
  cases hn : t.node? (p ++ [piece]) with
  | none => rfl
  | some n =>
      have hfile := hend n hn
      cases n <;> simp_all [FileNode.isFile]

theorem walk_down (h : Named piece) (hn : t.node? (p ++ [piece]) = some .directory) :
    t.walk onLink p (piece :: rest) = t.walk onLink (p ++ [piece]) rest := by
  rw [walk_named h, hn]

theorem walk_link (h : Named piece) {target : Path}
    (hn : t.node? (p ++ [piece]) = some (.link target)) :
    t.walk onLink p (piece :: rest) =
      onLink (if target.isAbsolute then [] else p) (target.pieces ++ rest) := by
  rw [walk_named h, hn]

/-- How a walk that comes to a place takes its first step. -/
theorem walk_cons_cases {r : Place} (h : t.walk onLink p (piece :: rest) = .ok r) :
    ((piece = "" ∨ piece = ".") ∧ t.walk onLink p rest = .ok r) ∨
    (piece = ".." ∧ t.walk onLink p.dropLast rest = .ok r) ∨
    Named piece ∧
      ((rest = [] ∧ r = p ++ [piece] ∧ t.IsEnd (p ++ [piece])) ∨
      (t.node? (p ++ [piece]) = some .directory ∧ t.walk onLink (p ++ [piece]) rest = .ok r) ∨
      ∃ target, t.node? (p ++ [piece]) = some (.link target) ∧
        onLink (if target.isAbsolute then [] else p) (target.pieces ++ rest) = .ok r) := by
  by_cases hskip : piece = "" ∨ piece = "."
  · rw [walk_skip hskip] at h
    exact Or.inl ⟨hskip, h⟩
  by_cases hup : piece = ".."
  · subst hup
    rw [walk_up] at h
    exact Or.inr (Or.inl ⟨rfl, h⟩)
  by_cases hlong : longestName < piece.utf8ByteSize
  · rw [walk, if_neg hskip, if_neg hup, if_pos hlong] at h
    cases h
  have hnamed : Named piece :=
    ⟨fun h => hskip (Or.inl h), fun h => hskip (Or.inr h), hup, Nat.le_of_not_lt hlong⟩
  refine Or.inr (Or.inr ⟨hnamed, ?_⟩)
  rw [walk_named hnamed] at h
  cases hn : t.node? (p ++ [piece]) with
  | none =>
      rw [hn] at h
      by_cases hrest : rest = []
      · exact Or.inl ⟨hrest, by simpa [hrest, eq_comm] using h, fun n hn' => by simp [hn] at hn'⟩
      · simp [hrest] at h
  | some n =>
      rw [hn] at h
      cases n with
      | file content executable modified =>
          by_cases hrest : rest = []
          · refine Or.inl ⟨hrest, by simpa [hrest, eq_comm] using h, fun n hn' => ?_⟩
            rw [hn] at hn'
            cases hn'
            rfl
          · simp [hrest] at h
      | directory => exact Or.inr (Or.inl ⟨rfl, h⟩)
      | link target => exact Or.inr (Or.inr ⟨target, rfl, h⟩)

end Step

/-! ### The steps of a walk -/

/-- A walk on its way: it follows fewer links than a number, is at a place, and has pieces ahead. -/
structure Walker where
  links : Nat
  place : Place
  ahead : List String

namespace Walker

def append (w : Walker) (more : List String) : Walker := { w with ahead := w.ahead ++ more }

def outcome (t : FileTree) (w : Walker) : Except IoError Place :=
  t.follow w.links w.place w.ahead

end Walker

inductive WalkStep (t : FileTree) : Walker → Walker → Prop
  | skip {n : Nat} {p : Place} {piece : String} {rest : List String}
      (h : piece = "" ∨ piece = ".") : WalkStep t ⟨n, p, piece :: rest⟩ ⟨n, p, rest⟩
  | up {n : Nat} {p : Place} {rest : List String} :
      WalkStep t ⟨n, p, ".." :: rest⟩ ⟨n, p.dropLast, rest⟩
  | down {n : Nat} {p : Place} {piece : String} {rest : List String} (h : Named piece)
      (hn : t.node? (p ++ [piece]) = some .directory) :
      WalkStep t ⟨n, p, piece :: rest⟩ ⟨n, p ++ [piece], rest⟩
  | link {n : Nat} {p : Place} {piece : String} {rest : List String} {target : Path}
      (h : Named piece) (hn : t.node? (p ++ [piece]) = some (.link target)) :
      WalkStep t ⟨n + 1, p, piece :: rest⟩
        ⟨n, if target.isAbsolute then [] else p, target.pieces ++ rest⟩

/-- A walk comes to a place: it is there, or takes one more name, or makes a step first. -/
inductive Arrives (t : FileTree) : Walker → Place → Prop
  | here {n : Nat} {p : Place} : Arrives t ⟨n + 1, p, []⟩ p
  | last {n : Nat} {p : Place} {piece : String} (h : Named piece)
      (hend : t.IsEnd (p ++ [piece])) : Arrives t ⟨n + 1, p, [piece]⟩ (p ++ [piece])
  | step {w w' : Walker} {r : Place} (h : WalkStep t w w') (h' : Arrives t w' r) : Arrives t w r

section Steps

variable {t u : FileTree} {n : Nat} {p q r : Place} {w w' : Walker} {piece : String}
  {pieces rest : List String}

theorem WalkStep.outcome_eq (h : t.WalkStep w w') : w.outcome t = w'.outcome t := by
  cases h with
  | @skip n _ _ _ h =>
      cases n with
      | zero => rfl
      | succ n => exact walk_skip h
  | @up n =>
      cases n with
      | zero => rfl
      | succ n => exact walk_up
  | @down n _ _ _ h hn =>
      cases n with
      | zero => rfl
      | succ n => exact walk_down h hn
  | link h hn => exact walk_link h hn

theorem WalkStep.append (h : t.WalkStep w w') (more : List String) :
    t.WalkStep (w.append more) (w'.append more) := by
  cases h with
  | skip h => exact .skip h
  | up => exact .up
  | down h hn => exact .down h hn
  | link h hn =>
      rw [Walker.append, Walker.append, List.append_assoc]
      exact .link h hn

theorem WalkStep.of_append {more : List String}
    (h : t.WalkStep ⟨n, p, piece :: (pieces ++ more)⟩ w') :
    ∃ w, t.WalkStep ⟨n, p, piece :: pieces⟩ w ∧ w' = w.append more := by
  cases h with
  | skip h => exact ⟨_, .skip h, rfl⟩
  | up => exact ⟨_, .up, rfl⟩
  | down h hn => exact ⟨_, .down h hn, rfl⟩
  | link h hn => exact ⟨_, .link h hn, by rw [Walker.append, List.append_assoc]⟩

/-- A step is made in every tree that has the directory or the link. -/
theorem WalkStep.mono
    (hkept : ∀ p n, t.node? p = some n → n.isFile = false → u.node? p = some n)
    (h : t.WalkStep w w') : u.WalkStep w w' := by
  cases h with
  | skip h => exact .skip h
  | up => exact .up
  | down h hn => exact .down h (hkept _ _ hn rfl)
  | link h hn => exact .link h (hkept _ _ hn rfl)

theorem outcome_append_eq (h : Relation.ReflTransGen t.WalkStep w w') (more : List String) :
    (w.append more).outcome t = (w'.append more).outcome t := by
  induction h with
  | refl => rfl
  | tail _ h ih => rw [ih, (h.append more).outcome_eq]

theorem arrives_of_follow (h : t.follow n p pieces = .ok r) : t.Arrives ⟨n, p, pieces⟩ r := by
  -- The number of links bounds the recursion at a link, the pieces ahead bound it elsewhere.
  induction n generalizing p pieces with
  | zero => cases h
  | succ n ih =>
      simp only [FileTree.follow] at h
      induction pieces generalizing p with
      | nil =>
          cases h
          exact .here
      | cons piece rest ihrest =>
          rcases walk_cons_cases h with ⟨hskip, h⟩ | ⟨rfl, h⟩ | ⟨hnamed, h⟩
          · exact .step (.skip hskip) (ihrest h)
          · exact .step .up (ihrest h)
          · rcases h with ⟨rfl, rfl, hend⟩ | ⟨hn, h⟩ | ⟨target, hn, h⟩
            · exact .last hnamed hend
            · exact .step (.down hnamed hn) (ihrest h)
            · exact .step (.link hnamed hn) (ih h)

/-- A walk leads where steps take it. -/
theorem outcome_eq_ok_iff : w.outcome t = .ok r ↔ t.Arrives w r := by
  refine ⟨arrives_of_follow, fun h => ?_⟩
  induction h with
  | here => rfl
  | last h hend => exact walk_end h hend
  | step h _ ih => rw [h.outcome_eq, ih]

/-- A walk that goes on behind pieces takes them by steps. -/
theorem exists_steps_of_arrives (hrest : rest ≠ []) (h : t.Arrives ⟨n, p, pieces ++ rest⟩ r) :
    ∃ m q, Relation.ReflTransGen t.WalkStep ⟨n, p, pieces⟩ ⟨m, q, []⟩ ∧
      t.Arrives ⟨m, q, rest⟩ r := by
  generalize hw : Walker.mk n p (pieces ++ rest) = w at h
  induction h generalizing n p pieces with
  | here => simp [hrest] at hw
  | last h hend =>
      obtain ⟨rfl, rfl, hpieces⟩ := Walker.mk.inj hw
      -- One piece is left to take, which belongs to `rest`.
      obtain ⟨rfl, rfl⟩ | ⟨-, hnil⟩ := List.append_eq_singleton_iff.1 hpieces
      · exact ⟨_, _, .refl, .last h hend⟩
      · exact absurd hnil hrest
  | step h h' ih =>
      subst hw
      cases pieces with
      | nil => exact ⟨n, p, .refl, .step h h'⟩
      | cons piece pieces =>
          obtain ⟨⟨n', p', pieces'⟩, hstep, hw'⟩ := h.of_append
          obtain ⟨m, q, hsteps, harrives⟩ := ih hw'.symm
          exact ⟨m, q, .head hstep hsteps, harrives⟩

/-- A walk to a directory is made by steps only. -/
theorem exists_steps_of_directory (h : t.Arrives w q) (hq : t.node? q = some .directory) :
    ∃ m, Relation.ReflTransGen t.WalkStep w ⟨m + 1, q, []⟩ := by
  induction h with
  | here => exact ⟨_, .refl⟩
  | last _ hend => cases hend _ hq
  | step h _ ih =>
      obtain ⟨m, hsteps⟩ := ih hq
      exact ⟨m, .head h hsteps⟩

/-- A walk ends where it ended before if directories and links are still there. -/
theorem Arrives.of_kept
    (hkept : ∀ p n, t.node? p = some n → n.isFile = false → u.node? p = some n)
    (hend : t.IsEnd r → u.IsEnd r) (h : t.Arrives w r) : u.Arrives w r := by
  induction h with
  | here => exact .here
  | last h hlast => exact .last h (hend hlast)
  | step h _ ih => exact .step (h.mono hkept) (ih hend)

theorem follow_of_kept
    (hkept : ∀ p n, t.node? p = some n → n.isFile = false → u.node? p = some n)
    (hend : t.IsEnd r → u.IsEnd r) (h : t.follow n p pieces = .ok r) :
    u.follow n p pieces = .ok r :=
  outcome_eq_ok_iff.2 ((arrives_of_follow h).of_kept hkept hend)

/-- A walk to a directory goes on from there. -/
theorem exists_follow_append (h : t.follow n p pieces = .ok q)
    (hq : t.node? q = some .directory) (rest : List String) :
    ∃ onLink, t.follow n p (pieces ++ rest) = t.walk onLink q rest := by
  obtain ⟨m, hsteps⟩ := exists_steps_of_directory (arrives_of_follow h) hq
  exact ⟨t.follow m, outcome_append_eq hsteps rest⟩

end Steps

/-! ### Trees that are walked alike -/

/-- Two trees through which every walk goes the same way: where they differ, a walk can only
end. -/
structure SameWays (t u : FileTree) : Prop where
  workingDirectory : u.workingDirectory = t.workingDirectory
  node : ∀ p, u.node? p = t.node? p ∨ t.IsEnd p ∧ u.IsEnd p

theorem SameWays.refl (t : FileTree) : SameWays t t := ⟨rfl, fun _ => Or.inl rfl⟩

theorem SameWays.symm {t u : FileTree} (h : SameWays t u) : SameWays u t := by
  refine ⟨h.workingDirectory.symm, fun p => ?_⟩
  rcases h.node p with hp | ⟨ht, hu⟩
  · exact Or.inl hp.symm
  · exact Or.inr ⟨hu, ht⟩

theorem SameWays.trans {t u v : FileTree} (h : SameWays t u) (h' : SameWays u v) :
    SameWays t v := by
  refine ⟨h'.workingDirectory.trans h.workingDirectory, fun p => ?_⟩
  rcases h.node p with hp | ⟨ht, hu⟩
  · rcases h'.node p with hp' | ⟨hu, hv⟩
    · exact Or.inl (hp'.trans hp)
    · refine Or.inr ⟨fun n hn => hu n ?_, hv⟩
      rw [hp, hn]
  · rcases h'.node p with hp' | ⟨-, hv⟩
    · refine Or.inr ⟨ht, fun n hn => hu n ?_⟩
      rw [← hp', hn]
    · exact Or.inr ⟨ht, hv⟩

theorem SameWays.isEnd {t u : FileTree} (h : SameWays t u) {p : Place} (hp : t.IsEnd p) :
    u.IsEnd p := by
  rcases h.node p with hn | ⟨-, hu⟩
  · intro n hn'
    rw [hn] at hn'
    exact hp n hn'
  · exact hu

/-- A place where a walk goes on is the same in both trees. -/
theorem SameWays.node?_of_not_isEnd {t u : FileTree} (h : SameWays t u) {p : Place}
    {n : FileNode} (hn : t.node? p = some n) (hfile : n.isFile = false) : u.node? p = some n := by
  rcases h.node p with hp | ⟨ht, -⟩
  · rw [hp, hn]
  · rw [ht n hn] at hfile
    cases hfile

theorem SameWays.follow {t u : FileTree} (h : SameWays t u) {n : Nat} {p r : Place}
    {pieces : List String} (hr : t.follow n p pieces = .ok r) : u.follow n p pieces = .ok r :=
  follow_of_kept (fun _ _ => h.node?_of_not_isEnd) h.isEnd hr

theorem locate_ok_iff {t : FileTree} {path : Path} {r : Place} :
    t.locate path = .ok r ↔
      checkPath path = .ok () ∧ t.followPieces path path.pieces = .ok r := by
  unfold locate
  cases checkPath path with
  | error e => simp [bind, Except.bind]
  | ok _ => simp [bind, Except.bind]

theorem nodeAt_ok_iff {t : FileTree} {path : Path} {p : Place} {n : FileNode} :
    t.nodeAt path = .ok (p, n) ↔ t.locate path = .ok p ∧ t.node? p = some n := by
  unfold nodeAt
  cases t.locate path with
  | error e => simp [bind, Except.bind]
  | ok q =>
      simp only [bind, Except.bind, Except.ok.injEq]
      cases hn : t.node? q with
      | none =>
          simp only [reduceCtorEq, false_iff, not_and]
          rintro rfl
          simp [hn]
      | some m =>
          simp only [Except.ok.injEq, Prod.mk.injEq]
          refine and_congr_right fun hq => ?_
          rw [← hq, hn, Option.some.injEq]

theorem SameWays.locate_iff {t u : FileTree} (h : SameWays t u) (path : Path) (r : Place) :
    t.locate path = .ok r ↔ u.locate path = .ok r := by
  simp only [locate_ok_iff, followPieces, h.workingDirectory]
  exact and_congr_right fun _ => ⟨h.follow, h.symm.follow⟩

/-- A path to a directory leads to it in both trees. -/
theorem SameWays.nodeAt_directory {t u : FileTree} (h : SameWays t u) {path : Path} {p : Place}
    (hfound : t.nodeAt path = .ok (p, .directory)) : u.nodeAt path = .ok (p, .directory) := by
  obtain ⟨hlocate, hnode⟩ := nodeAt_ok_iff.1 hfound
  exact nodeAt_ok_iff.2 ⟨(h.locate_iff path p).1 hlocate, h.node?_of_not_isEnd hnode rfl⟩

end FileTree

end DecoratorGraph
