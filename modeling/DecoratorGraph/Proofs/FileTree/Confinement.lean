import DecoratorGraph.Proofs.FileTree.Changes
import DecoratorGraph.Proofs.FileTree.Spellings

/-!
# Paths that stay in a directory

A path is `Within` a directory if its components are those of the directory and then names. What is
appended to a path goes on with the components of its pieces if it does not start at the root, so
whether the result stays in the directory can be read off these pieces. In a tree without links on
the way such a path leads below the place of the directory.
-/

namespace DecoratorGraph

namespace Text

/-- A text without separators is put behind the last piece of the text to which it is appended. -/
theorem exists_split_append (separator : Char) (s : List Char) :
    ∃ before piece, split separator s = before ++ [piece] ∧
      ∀ e, separator ∉ e → split separator (s ++ e) = before ++ [piece ++ e] := by
  induction s with
  | nil => exact ⟨[], [], rfl, fun e he => split_of_not_mem he⟩
  | cons c s ih =>
      obtain ⟨before, piece, hs, hse⟩ := ih
      by_cases hc : c = separator
      · refine ⟨[] :: before, piece, by rw [split, if_pos hc, hs]; rfl, fun e he => ?_⟩
        rw [List.cons_append, split, if_pos hc, hse e he]
        rfl
      · cases before with
        | nil =>
            refine ⟨[], c :: piece, by rw [split, if_neg hc, hs]; rfl, fun e he => ?_⟩
            rw [List.cons_append, split, if_neg hc, hse e he]
            rfl
        | cons first before =>
            refine ⟨(c :: first) :: before, piece, by rw [split, if_neg hc, hs]; rfl,
              fun e he => ?_⟩
            rw [List.cons_append, split, if_neg hc, hse e he]
            rfl

theorem eq_nil_of_split {separator : Char} {s : List Char} (h : split separator s = [[]]) :
    s = [] := by
  obtain ⟨before, piece, hsplit, hmore⟩ := exists_split_append separator s
  cases s with
  | nil => rfl
  | cons c s =>
      by_cases hc : c = separator
      · rw [split, if_pos hc, List.cons.injEq] at h
        exact absurd h.2 (split_ne_nil separator s)
      · rw [split, if_neg hc] at h
        split at h <;> cases h

end Text

namespace Path

/-! ### Components of joined paths -/

variable {p q directory : Path} {first piece s r : List Char} {before rest : List (List Char)}

theorem components_of_split (h : Text.split '/' p.text.toList = first :: rest) :
    p.components = (leadComponent? first rest).toList ++ rest.filterMap pieceComponent? := by
  unfold components
  rw [h]

/-- The first piece stands for the same component, whatever follows, unless it is empty and all
there is. -/
theorem leadComponent?_append (h : first ≠ [] ∨ rest ≠ []) (more : List (List Char)) :
    leadComponent? first (rest ++ more) = leadComponent? first rest := by
  unfold leadComponent?
  by_cases hfirst : first = []
  · have hrest := h.resolve_left (not_not_intro hfirst)
    simp [hfirst, hrest]
  · simp [hfirst]

/-- Behind a slash the components of the pieces follow. -/
theorem components_of_slash (hp : p.text.toList = s ++ '/' :: r)
    (hq : q.text.toList = s ++ ['/']) :
    p.components = q.components ++ (Text.split '/' r).filterMap pieceComponent? := by
  obtain ⟨first, rest, hs⟩ := List.exists_cons_of_ne_nil (Text.split_ne_nil '/' s)
  have hpsplit : Text.split '/' p.text.toList = first :: (rest ++ Text.split '/' r) := by
    rw [hp, Text.split_append_cons, hs]
    rfl
  have hqsplit : Text.split '/' q.text.toList = first :: (rest ++ [[]]) := by
    rw [hq, Text.split_append_cons, hs]
    rfl
  rw [components_of_split hpsplit, components_of_split hqsplit, List.filterMap_append,
    List.filterMap_append]
  have hlead : leadComponent? first (rest ++ Text.split '/' r) =
      leadComponent? first (rest ++ [[]]) := by
    unfold leadComponent?
    simp [Text.split_ne_nil]
  simp [hlead, pieceComponent?]

/-- A slash at the end says nothing. -/
theorem components_slash (hp : p.text ≠ "") (hq : q.text.toList = p.text.toList ++ ['/']) :
    q.components = p.components := by
  obtain ⟨first, rest, hs⟩ := List.exists_cons_of_ne_nil (Text.split_ne_nil '/' p.text.toList)
  have hne : first ≠ [] ∨ rest ≠ [] := by
    by_contra hnone
    rw [not_or, not_not, not_not] at hnone
    rw [hnone.1, hnone.2] at hs
    exact hp (String.toList_inj.1 (Text.eq_nil_of_split hs))
  have hqsplit : Text.split '/' q.text.toList = first :: (rest ++ [[]]) := by
    rw [hq, Text.split_append_cons, hs]
    rfl
  rw [components_of_split hqsplit, components_of_split hs, leadComponent?_append hne,
    List.filterMap_append]
  simp [pieceComponent?]

/-- A path that does not start at the root goes on behind the one to which it is appended. -/
theorem components_join (hp : p.text ≠ "") (hq : q.isAbsolute = false) :
    (p.join q).components =
      p.components ++ (Text.split '/' q.text.toList).filterMap pieceComponent? := by
  by_cases hend : p.text.toList.getLast? = some '/'
  · obtain ⟨before, hbefore⟩ := List.getLast?_eq_some_iff.1 hend
    have hjoin : (p.join q).text.toList = before ++ '/' :: q.text.toList := by
      simp [join, hq, hbefore]
    exact components_of_slash hjoin hbefore
  · have hslash : (Path.mk (String.ofList (p.text.toList ++ ['/']))).text.toList =
        p.text.toList ++ ['/'] := String.toList_ofList
    have hjoin : (p.join q).text.toList = p.text.toList ++ '/' :: q.text.toList := by
      simp [join, hq, hp, hend]
    rw [components_of_slash hjoin hslash, components_slash hp hslash]

/-- The pieces of an appended path are the last pieces of the result. -/
theorem exists_split_join (p q : Path) :
    ∃ before, Text.split '/' (p.join q).text.toList =
      before ++ Text.split '/' q.text.toList := by
  unfold join
  split
  · exact ⟨[], rfl⟩
  · split
    · next hend =>
        obtain ⟨before, hbefore⟩ := List.getLast?_eq_some_iff.1 hend
        exact ⟨Text.split '/' before, by simp [hbefore, Text.split_append_cons]⟩
    · exact ⟨Text.split '/' p.text.toList, by simp [Text.split_append_cons]⟩

/-! ### Names among the components -/

def Component.IsName (c : Component) : Prop := ∃ name, c = .normal name

theorem pieceComponent?_of_length (h : 3 ≤ piece.length) :
    pieceComponent? piece = some (.normal (String.ofList piece)) := by
  unfold pieceComponent?
  split
  · cases h
  · simp at h
  · simp at h
  · rfl

/-- Between slashes every component is a name, if no piece goes up. -/
theorem forall_isName_iff :
    (∀ c ∈ rest.filterMap pieceComponent?, c.IsName) ↔ ['.', '.'] ∉ rest := by
  constructor
  · intro hnames hup
    obtain ⟨name, hname⟩ := hnames .parent (List.mem_filterMap.2 ⟨_, hup, rfl⟩)
    cases hname
  · intro hup c hc
    obtain ⟨piece, hpiece, hcomponent⟩ := List.mem_filterMap.1 hc
    unfold pieceComponent? at hcomponent
    split at hcomponent
    · cases hcomponent
    · cases hcomponent
    · exact absurd hpiece hup
    · cases hcomponent
      exact ⟨_, rfl⟩

/-- The component of the first piece of a path that does not start at the root is a name, if the
piece is no dots. -/
theorem isName_leadComponent?_iff (hfirst : first = [] → rest = []) :
    (∀ c ∈ (leadComponent? first rest).toList, c.IsName) ↔
      first ≠ ['.'] ∧ first ≠ ['.', '.'] := by
  unfold leadComponent?
  by_cases hempty : first = []
  · simp [hempty, hfirst hempty]
  by_cases hdot : first = ['.']
  · simp [hdot, Component.IsName]
  have hone : (∀ c ∈ [first].filterMap pieceComponent?, c.IsName) ↔ ['.', '.'] ∉ [first] :=
    forall_isName_iff
  simp only [List.filterMap_cons, List.filterMap_nil, List.mem_singleton] at hone
  rw [if_neg hempty, if_neg hdot]
  simp only [ne_eq, hdot, not_false_eq_true, true_and]
  rw [eq_comm, ← hone]
  cases pieceComponent? first <;> simp

theorem isStep_of_pieceComponent? {name : String}
    (h : pieceComponent? piece = some (.normal name)) : IsStep name ∧ name ≠ ".." := by
  unfold pieceComponent? at h
  split at h
  · cases h
  · cases h
  · cases h
  · next hempty hdot hup =>
      cases h
      refine ⟨⟨?_, ?_⟩, ?_⟩ <;> rw [ne_eq, ← String.toList_inj, String.toList_ofList] <;> assumption

/-- A name among the components is a piece that takes a walk down. -/
theorem isStep_of_mem_components {name : String} (h : .normal name ∈ p.components) :
    IsStep name ∧ name ≠ ".." := by
  obtain ⟨first, rest, hs⟩ := List.exists_cons_of_ne_nil (Text.split_ne_nil '/' p.text.toList)
  rw [components_of_split hs, List.mem_append] at h
  rcases h with h | h
  · have hlead : leadComponent? first rest = some (.normal name) := by simpa using h
    unfold leadComponent? at hlead
    split at hlead
    · split at hlead <;> cases hlead
    · split at hlead
      · cases hlead
      · exact isStep_of_pieceComponent? hlead
  · obtain ⟨piece, -, hpiece⟩ := List.mem_filterMap.1 h
    exact isStep_of_pieceComponent? hpiece

/-! ### Staying in a directory -/

/-- The components are those of the directory and then names. -/
def Within (p directory : Path) : Prop :=
  ∃ rest, p.components = directory.components ++ rest ∧ ∀ c ∈ rest, c.IsName

theorem within_iff_of_append {rest : List Component}
    (h : p.components = directory.components ++ rest) :
    p.Within directory ↔ ∀ c ∈ rest, c.IsName := by
  constructor
  · rintro ⟨rest', h', hnames⟩
    rwa [List.append_cancel_left (h.symm.trans h')]
  · exact fun hnames => ⟨rest, h, hnames⟩

theorem not_mem_pieces_iff {cs : List Char} : String.ofList cs ∉ p.pieces ↔
    cs ∉ Text.split '/' p.text.toList := by
  rw [pieces, List.mem_map_of_injective fun a b h => by simpa using congrArg String.toList h]

/-- An appended path that does not start at the root keeps the result in the directory, if no piece
of it goes up. The empty directory has no component, so there it also must not begin with a dot. -/
theorem within_join_iff (hq : q.isAbsolute = false) :
    (p.join q).Within p ↔
      ".." ∉ q.pieces ∧ (p.text = "" → q.pieces.head? ≠ some ".") := by
  have hup : ".." ∉ q.pieces ↔ ['.', '.'] ∉ Text.split '/' q.text.toList :=
    not_mem_pieces_iff
  -- An empty path leaves no trace in a join, so there a first `.` of `q` stays a component.
  by_cases hp : p.text = ""
  · have hjoin : p.join q = q := by simp [join, hp]
    have hnone : p.components = [] := by simp [components, hp, Text.split, leadComponent?]
    obtain ⟨first, rest, hs⟩ := List.exists_cons_of_ne_nil (Text.split_ne_nil '/' q.text.toList)
    have hfirst : first = [] → rest = [] := by
      rintro rfl
      by_contra hrest
      have habsolute : q.components.head? = some .root := by
        simp [components_of_split hs, leadComponent?, hrest]
      rw [← isAbsolute_iff, hq] at habsolute
      cases habsolute
    have hhead : q.pieces.head? ≠ some "." ↔ first ≠ ['.'] := by
      rw [pieces, hs, List.map_cons, List.head?_cons, ne_eq, Option.some.injEq,
        ← String.toList_inj, String.toList_ofList]
      rfl
    have hcomponents : q.components = p.components ++ q.components := by
      rw [hnone, List.nil_append]
    rw [hjoin, within_iff_of_append hcomponents, hup, hs, components_of_split hs,
      List.forall_mem_append, isName_leadComponent?_iff hfirst, forall_isName_iff, List.mem_cons,
      hhead]
    constructor
    · rintro ⟨⟨hdot, hdots⟩, hrest⟩
      exact ⟨not_or.2 ⟨Ne.symm hdots, hrest⟩, fun _ => hdot⟩
    · rintro ⟨hdots, hdot⟩
      exact ⟨⟨hdot hp, Ne.symm (not_or.1 hdots).1⟩, (not_or.1 hdots).2⟩
  · rw [within_iff_of_append (components_join hp hq), forall_isName_iff, hup]
    exact ⟨fun h => ⟨h, fun hempty => absurd hempty hp⟩, And.left⟩

/-- The piece at the end of a path is its last component, if it is long enough to be no dots. -/
theorem getLast?_components (h : Text.split '/' p.text.toList = before ++ [piece])
    (hpiece : 3 ≤ piece.length) :
    p.components.getLast? = some (.normal (String.ofList piece)) := by
  have hname := pieceComponent?_of_length hpiece
  cases before with
  | nil =>
      have hlead : leadComponent? piece [] = some (.normal (String.ofList piece)) := by
        unfold leadComponent?
        rw [if_neg (by rintro rfl; cases hpiece), if_neg (by rintro rfl; simp at hpiece), hname]
      simp [components_of_split h, hlead]
  | cons first rest =>
      simp [components_of_split h, List.filterMap_append, hname]

end Path

/-! ### Places below a directory -/

namespace FileTree

theorem placeAlong_filter (p : Place) (pieces : List String) :
    placeAlong p (pieces.filter Path.IsStep) = placeAlong p pieces := by
  induction pieces generalizing p with
  | nil => rfl
  | cons piece rest ih =>
      by_cases hskip : piece = "" ∨ piece = "."
      · have hstep : ¬ Path.IsStep piece := fun h => hskip.elim h.1 h.2
        rw [List.filter_cons_of_neg (by simpa using hstep), ih, placeAlong, if_pos hskip]
      · have hstep : Path.IsStep piece := not_or.1 hskip
        rw [List.filter_cons_of_pos (by simpa using hstep)]
        simp only [placeAlong, ih]

/-- The place of a path is read off its components. -/
theorem place_eq (t : FileTree) (path : Path) :
    t.place path = placeAlong (if path.isAbsolute then [] else t.workingDirectory)
      (path.components.filterMap Path.Component.piece?) := by
  rw [Path.filterMap_components, placeAlong_filter, place]

theorem placeAlong_names (p : Place) {components : List Path.Component}
    (h : ∀ c ∈ components, ∃ name, c = .normal name ∧ Path.IsStep name ∧ name ≠ "..") :
    ∃ names, placeAlong p (components.filterMap Path.Component.piece?) = p ++ names := by
  induction components generalizing p with
  | nil => exact ⟨[], (List.append_nil p).symm⟩
  | cons c components ih =>
      obtain ⟨name, rfl, hstep, hup⟩ := h c List.mem_cons_self
      obtain ⟨names, hnames⟩ := ih (p ++ [name]) fun d hd => h d (List.mem_cons_of_mem _ hd)
      have hcons : (Path.Component.normal name :: components).filterMap Path.Component.piece? =
          name :: components.filterMap Path.Component.piece? := rfl
      refine ⟨name :: names, ?_⟩
      rw [hcons, placeAlong, if_neg (not_or.2 hstep), if_neg hup, hnames, List.append_assoc]
      rfl

/-- A path that stays in a directory leads below the place of the directory, if no link is on its
way. -/
theorem exists_place_eq_append {path directory : Path} (h : path.Within directory)
    (t : FileTree) : ∃ names, t.place path = t.place directory ++ names := by
  obtain ⟨rest, hcomponents, hnames⟩ := h
  have habsolute : path.isAbsolute = directory.isAbsolute := by
    rw [Bool.eq_iff_iff, Path.isAbsolute_iff, Path.isAbsolute_iff, hcomponents]
    cases hdirectory : directory.components with
    | nil =>
        cases rest with
        | nil => rfl
        | cons c rest =>
            obtain ⟨name, rfl⟩ := hnames c List.mem_cons_self
            simp
    | cons c components => simp
  have hsteps : ∀ c ∈ rest, ∃ name, c = .normal name ∧ Path.IsStep name ∧ name ≠ ".." := by
    intro c hc
    obtain ⟨name, rfl⟩ := hnames c hc
    exact ⟨name, rfl, Path.isStep_of_mem_components (hcomponents ▸ List.mem_append_right _ hc)⟩
  rw [place_eq, place_eq, hcomponents, List.filterMap_append, placeAlong_append, habsolute]
  exact placeAlong_names _ hsteps

end FileTree

end DecoratorGraph
