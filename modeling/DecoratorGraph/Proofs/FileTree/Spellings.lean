import DecoratorGraph.ParseStore.Entry
import DecoratorGraph.Proofs.FileTree.Walk
import Mathlib.Data.List.Basic

/-!
# Spellings of a path

Two spellings of a path have the same components. Between slashes they differ only in pieces that
say nothing, empty ones and single dots. A walk that succeeds still succeeds, and ends at the same
place, when such pieces are dropped; the other way round a slash at the end may make it fail. So two
spellings that both lead somewhere lead to the same place, and what is found there is the same.
-/

namespace DecoratorGraph

/-! ### Pieces that say something -/

namespace Path

/-- The piece that makes a walk take the step of a component, if it takes a step at all. -/
def Component.piece? : Component → Option String
  | .root => none
  | .current => none
  | .parent => some ".."
  | .normal name => some name

def IsStep (piece : String) : Prop := piece ≠ "" ∧ piece ≠ "."

instance (piece : String) : Decidable (IsStep piece) := by
  unfold IsStep
  infer_instance

theorem bind_pieceComponent? (piece : List Char) :
    (pieceComponent? piece).bind Component.piece? =
      if IsStep (String.ofList piece) then some (String.ofList piece) else none := by
  unfold pieceComponent?
  split
  · rfl
  · rfl
  · rfl
  · rename_i hempty hdot _
    have hstep : IsStep (String.ofList piece) := by
      constructor <;> rw [ne_eq, ← String.toList_inj, String.toList_ofList]
      · exact hempty
      · exact hdot
    rw [if_pos hstep]
    rfl

theorem bind_leadComponent? (first : List Char) (rest : List (List Char)) :
    (leadComponent? first rest).bind Component.piece? =
      if IsStep (String.ofList first) then some (String.ofList first) else none := by
  unfold leadComponent?
  split
  · next hempty =>
      subst hempty
      split <;> rfl
  · split
    · next hdot =>
        subst hdot
        rfl
    · exact bind_pieceComponent? first

/-- The components of a path tell the steps of a walk along its pieces. -/
theorem filterMap_components (p : Path) :
    p.components.filterMap Component.piece? = p.pieces.filter IsStep := by
  have hrest (rest : List (List Char)) :
      (rest.filterMap pieceComponent?).filterMap Component.piece? =
        (rest.map String.ofList).filter IsStep := by
    rw [List.filterMap_filterMap, List.filter_map, ← List.filterMap_eq_filter, List.map_filterMap]
    refine List.filterMap_congr fun piece _ => (bind_pieceComponent? piece).trans ?_
    by_cases h : IsStep (String.ofList piece) <;> simp [h, Option.guard]
  have hfirst (first : List Char) (rest : List (List Char)) :
      ((leadComponent? first rest).toList).filterMap Component.piece? =
        [String.ofList first].filter IsStep := by
    have hbind := bind_leadComponent? first rest
    cases hlead : leadComponent? first rest <;> rw [hlead] at hbind <;>
      by_cases h : IsStep (String.ofList first) <;> simp_all
  unfold components pieces
  cases Text.split '/' p.text.toList with
  | nil => rfl
  | cons first rest =>
      rw [List.filterMap_append, hfirst, hrest, ← List.filter_append]
      rfl

/-- A first piece that is not empty stands for a component, which is not the root. -/
theorem exists_leadComponent? (c : Char) (piece : List Char) (rest : List (List Char)) :
    ∃ lead, leadComponent? (c :: piece) rest = some lead ∧ lead ≠ .root := by
  rw [leadComponent?, if_neg (List.cons_ne_nil c piece)]
  split
  · exact ⟨.current, rfl, nofun⟩
  · next hdot =>
      unfold pieceComponent?
      split
      · next h => cases h
      · next h => exact absurd h hdot
      · exact ⟨.parent, rfl, nofun⟩
      · exact ⟨_, rfl, nofun⟩

/-- A path starts at the root if its first component is the root. -/
theorem isAbsolute_iff {p : Path} :
    p.isAbsolute = true ↔ p.components.head? = some .root := by
  unfold isAbsolute components
  cases p.text.toList with
  | nil => simp [Text.split, leadComponent?]
  | cons c r =>
      by_cases hc : c = '/'
      · simp [hc, Text.split, leadComponent?, Text.split_ne_nil]
      · obtain ⟨piece, pieces, hsplit⟩ :
            ∃ piece pieces, Text.split '/' (c :: r) = (c :: piece) :: pieces := by
          rw [Text.split, if_neg hc]
          split <;> exact ⟨_, _, rfl⟩
        obtain ⟨lead, hlead, hroot⟩ := exists_leadComponent? c piece pieces
        simp [hsplit, hlead, hc, hroot]

theorem isAbsolute_eq_of_same {p q : Path} (h : p.same q = true) :
    p.isAbsolute = q.isAbsolute := by
  rw [Bool.eq_iff_iff, isAbsolute_iff, isAbsolute_iff, same_iff.1 h]

end Path

/-! ### Walks without the other pieces -/

namespace FileTree

section Walk

variable {t : FileTree} {n : Nat} {p r : Place}

/-- A piece that says nothing can be dropped from the pieces of a walk that succeeds. -/
theorem follow_of_follow_cons {before after : List String} {piece : String}
    (hpiece : ¬Path.IsStep piece) (h : t.follow n p (before ++ piece :: after) = .ok r) :
    t.follow n p (before ++ after) = .ok r := by
  have hsilent : piece = "" ∨ piece = "." := by
    simpa [Path.IsStep, Classical.or_iff_not_imp_left] using hpiece
  obtain ⟨m, q, hsteps, harrives⟩ :=
    exists_steps_of_arrives (List.cons_ne_nil _ _) (arrives_of_follow h)
  have hskip : t.WalkStep ⟨m, q, piece :: after⟩ ⟨m, q, after⟩ := .skip hsilent
  calc t.follow n p (before ++ after)
      = t.follow m q after := outcome_append_eq hsteps after
    _ = t.follow m q (piece :: after) := hskip.outcome_eq.symm
    _ = .ok r := outcome_eq_ok_iff.2 harrives

theorem follow_filter (before : List String) {pieces : List String}
    (h : t.follow n p (before ++ pieces) = .ok r) :
    t.follow n p (before ++ pieces.filter Path.IsStep) = .ok r := by
  induction pieces generalizing before with
  | nil => exact h
  | cons piece pieces ih =>
      by_cases hpiece : Path.IsStep piece
      · rw [List.filter_cons_of_pos (by simpa using hpiece)]
        rw [List.append_cons] at h ⊢
        exact ih _ h
      · rw [List.filter_cons_of_neg (by simpa using hpiece)]
        exact ih _ (follow_of_follow_cons hpiece h)

end Walk

section Same

variable {t : FileTree} {p q : Path}

/-- Spellings of one path that lead anywhere lead to one place. -/
theorem locate_eq_of_same (h : p.same q = true) {r r' : Place} (hp : t.locate p = .ok r)
    (hq : t.locate q = .ok r') : r = r' := by
  have hp' : t.followPieces p (p.pieces.filter Path.IsStep) = .ok r :=
    follow_filter [] (locate_ok_iff.1 hp).2
  have hq' : t.followPieces q (q.pieces.filter Path.IsStep) = .ok r' :=
    follow_filter [] (locate_ok_iff.1 hq).2
  rw [← Path.filterMap_components, followPieces] at hp' hq'
  rw [Path.isAbsolute_eq_of_same h, Path.same_iff.1 h, hq', Except.ok.injEq] at hp'
  exact hp'.symm

theorem exists_nodeAt_of_fileState {state : FileState} (h : t.fileState p = .ok state) :
    ∃ found, t.nodeAt p = .ok found := by
  unfold fileState status at h
  cases hn : t.nodeAt p with
  | error e =>
      rw [hn] at h
      cases h
  | ok found => exact ⟨found, rfl⟩

/-- Spellings of one path that lead to something with a state lead to the same node. -/
theorem nodeAt_eq_of_same (h : p.same q = true) {state state' : FileState}
    (hp : t.fileState p = .ok state) (hq : t.fileState q = .ok state') :
    t.nodeAt p = t.nodeAt q := by
  obtain ⟨⟨r, n⟩, hp⟩ := exists_nodeAt_of_fileState hp
  obtain ⟨⟨r', n'⟩, hq⟩ := exists_nodeAt_of_fileState hq
  obtain ⟨hlocate, hnode⟩ := nodeAt_ok_iff.1 hp
  obtain ⟨hlocate', hnode'⟩ := nodeAt_ok_iff.1 hq
  have hplace := locate_eq_of_same h hlocate hlocate'
  subst hplace
  rw [hnode] at hnode'
  rw [hp, hq, Option.some.inj hnode']

theorem fileState_eq_of_same (h : p.same q = true) {state state' : FileState}
    (hp : t.fileState p = .ok state) (hq : t.fileState q = .ok state') : state = state' := by
  have hnode := nodeAt_eq_of_same h hp hq
  have hstate : t.fileState p = t.fileState q := by simp only [fileState, status, hnode]
  rwa [hp, hq, Except.ok.injEq] at hstate

theorem readText_eq_of_same (h : p.same q = true) {state state' : FileState}
    (hp : t.fileState p = .ok state) (hq : t.fileState q = .ok state') :
    t.readText p = t.readText q := by
  simp only [readText, readBytes, nodeAt_eq_of_same h hp hq]

/-- A file whose text can be read has a state. -/
theorem exists_fileState_of_readText {text : String} (h : t.readText p = .ok text) :
    ∃ state, t.fileState p = .ok state := by
  unfold readText readBytes at h
  unfold fileState status
  cases hn : t.nodeAt p with
  | error e =>
      rw [hn] at h
      cases h
  | ok found =>
      obtain ⟨r, n⟩ := found
      cases n <;> exact ⟨_, rfl⟩

end Same

end FileTree

end DecoratorGraph
