import DecoratorGraph.ParseStore.Encoding
import DecoratorGraph.Proofs.ParseStore.Entries
import DecoratorGraph.Proofs.FileTree.Directories

/-!
# Where entries are saved

The file for a path stands directly in the directory of the store, under a name that the format
gives. As long as the directory is found and none of these names is a link, two paths have one file
if they have one name, and what is saved for one name is neither seen nor changed under another.
-/

namespace DecoratorGraph

/-- A name that is appended to the path of a directory leads to the entry of that name, unless a
link stands there. -/
theorem FileTree.locate_join_ok_iff {t : FileTree} {directory : Path} {place r : Place}
    (hfound : t.nodeAt directory = .ok (place, .directory)) {name : String}
    (hname : ProperName name) (hlink : ∀ target, t.node? (place ++ [name]) ≠ some (.link target)) :
    t.locate (directory.join ⟨name⟩) = .ok r ↔
      checkPath (directory.join ⟨name⟩) = .ok () ∧ r = place ++ [name] := by
  obtain ⟨hlocate, hnode⟩ := nodeAt_ok_iff.1 hfound
  obtain ⟨onLink, hwalk⟩ := exists_follow_append (locate_ok_iff.1 hlocate).2 hnode [name]
  have hproper : ∀ m ∈ [name], ProperName m := by simpa using hname
  have hjoin : t.followPieces (directory.join ⟨name⟩) (directory.join ⟨name⟩).pieces =
      t.walk onLink place [name] :=
    (followPieces_pathBelow t (text_ne_empty_of_locate hlocate) hproper).trans hwalk
  have hend : t.walk onLink place [name] = .ok (place ++ [name]) := by
    rw [walk_named hname.1]
    cases hn : t.node? (place ++ [name]) with
    | none => rfl
    | some n =>
        cases n with
        | file _ _ _ => rfl
        | directory => rfl
        | link target => exact absurd hn (hlink target)
  rw [locate_ok_iff, hjoin, hend, Except.ok.injEq, eq_comm (a := place ++ [name])]

namespace ParseStore

/-- The directory of the store is found at a place, and nothing that is saved in it would go
through a link. -/
structure Housed (base : ParseStore) (directory : Path) (place : Place) (t : FileTree) : Prop where
  found : t.nodeAt directory = .ok (place, .directory)
  noLink : ∀ p target, t.node? (place ++ [base.format.fileName p]) ≠ some (.link target)

variable {base : ParseStore} {directory : Path} {place : Place} {t u : FileTree} {p q : Path}

section Saved

variable (hdirectory : base.directory = some directory)
  (hname : ∀ p, ProperName (base.format.fileName p))

include hdirectory hname

theorem Housed.saved?_eq_some_iff (h : base.Housed directory place t) {e : StoredParse} :
    base.saved? t p = some e ↔
      FileTree.checkPath (directory.join ⟨base.format.fileName p⟩) = .ok () ∧
        ∃ bytes, t.contentAt? (place ++ [base.format.fileName p]) = some bytes ∧
          base.format.decode? bytes = some e := by
  have hslot : base.slot? p = some (directory.join ⟨base.format.fileName p⟩) := by
    rw [slot?, hdirectory]
    rfl
  have hlocate (r : Place) := FileTree.locate_join_ok_iff (r := r) h.found (hname p) (h.noLink p)
  have hcontent (bytes : List UInt8) :
      t.readBytes (directory.join ⟨base.format.fileName p⟩) = .ok bytes ↔
        FileTree.checkPath (directory.join ⟨base.format.fileName p⟩) = .ok () ∧
          t.contentAt? (place ++ [base.format.fileName p]) = some bytes := by
    simp only [FileTree.readBytes_ok_iff, FileTree.nodeAt_ok_iff, hlocate, FileTree.contentAt?]
    constructor
    · rintro ⟨r, executable, modified, ⟨hcheck, rfl⟩, hn⟩
      exact ⟨hcheck, by rw [hn]⟩
    · rintro ⟨hcheck, hbytes⟩
      split at hbytes
      · rename_i content executable modified hn
        cases hbytes
        exact ⟨_, executable, modified, ⟨hcheck, rfl⟩, hn⟩
      · cases hbytes
  simp only [ParseStore.saved?_eq_some_iff, hslot, Option.some.injEq, exists_and_left,
    exists_eq_left', hcontent, and_assoc]

theorem Housed.saved?_congr (h : base.Housed directory place t)
    (h' : base.Housed directory place u)
    (hsame : t.contentAt? (place ++ [base.format.fileName p]) =
      u.contentAt? (place ++ [base.format.fileName p])) :
    base.saved? u p = base.saved? t p := by
  refine Option.ext fun e => ?_
  rw [h.saved?_eq_some_iff hdirectory hname, h'.saved?_eq_some_iff hdirectory hname, hsame]

theorem Housed.saved?_eq_none (h : base.Housed directory place t)
    (hempty : t.contentAt? (place ++ [base.format.fileName p]) = none) :
    base.saved? t p = none := by
  refine Option.eq_none_iff_forall_ne_some.2 fun e he => ?_
  obtain ⟨-, bytes, hbytes, -⟩ := (h.saved?_eq_some_iff hdirectory hname).1 he
  rw [hempty] at hbytes
  cases hbytes

/-- In a directory that holds at most directories nothing is saved. -/
theorem housed_of_empty (hfound : t.nodeAt directory = .ok (place, .directory))
    (hempty : ∀ name n, t.node? (place ++ [name]) = some n → n = .directory) :
    base.Housed directory place t ∧ ∀ p, base.saved? t p = none := by
  have hhoused : base.Housed directory place t := by
    refine ⟨hfound, fun p target hlink => ?_⟩
    cases hempty _ _ hlink
  refine ⟨hhoused, fun p => hhoused.saved?_eq_none hdirectory hname ?_⟩
  rw [FileTree.contentAt?]
  split
  · rename_i hfile
    cases hempty _ _ hfile
  · rfl

/-- Saving an entry for a path saves it for all paths with the same file, and changes nothing for
the other ones. -/
theorem Housed.write (hformat : ∀ e, base.format.decode? (base.format.encode e) = some e)
    (h : base.Housed directory place t) {e : StoredParse}
    (hwrite : t.write (directory.join ⟨base.format.fileName p⟩) (base.format.encode e) = .ok u) :
    base.Housed directory place u ∧ ∀ q, base.saved? u q =
      if base.format.fileName q = base.format.fileName p then some e else base.saved? t q := by
  obtain ⟨r, hr, hput⟩ := FileTree.wrote_of_write hwrite
  -- No link stands in the directory, so the bytes go to the file for `p` itself.
  obtain ⟨hcheck, rfl⟩ := (FileTree.locate_join_ok_iff h.found (hname p) (h.noLink p)).1 hr
  have hw := FileTree.wrote_putContent hput
  obtain ⟨executable, modified, hwritten⟩ := hw.written
  obtain ⟨hlocate, hnode⟩ := FileTree.nodeAt_ok_iff.1 h.found
  have hhoused : base.Housed directory place u := by
    refine ⟨FileTree.nodeAt_ok_iff.2 ⟨(hw.sameWays.locate_iff _ _).1 hlocate, ?_⟩, ?_⟩
    · rw [hw.frame place (by simp), hnode]
    · intro q target hlink
      by_cases hq : base.format.fileName q = base.format.fileName p
      · rw [hq, hwritten] at hlink
        cases hlink
      · rw [hw.frame _ (by simp [hq])] at hlink
        exact h.noLink q target hlink
  refine ⟨hhoused, fun q => ?_⟩
  by_cases hq : base.format.fileName q = base.format.fileName p
  · rw [if_pos hq, hhoused.saved?_eq_some_iff hdirectory hname, hq]
    exact ⟨hcheck, _, by rw [FileTree.contentAt?, hwritten], hformat e⟩
  · rw [if_neg hq]
    refine h.saved?_congr hdirectory hname hhoused ?_
    rw [FileTree.contentAt?, FileTree.contentAt?, hw.frame _ (by simp [hq])]

end Saved

end ParseStore

/-! ### Names made from hashes -/

namespace StoredParse

theorem exists_digitChar_of_mem_toDigits {n : Nat} {c : Char} (h : c ∈ Nat.toDigits 16 n) :
    ∃ d < 16, c = Nat.digitChar d := by
  induction n using Nat.strongRecOn with
  | ind n ih =>
      by_cases hn : n < 16
      · rw [Nat.toDigits_of_lt_base hn] at h
        exact ⟨n, hn, List.mem_singleton.1 h⟩
      · have hle : 16 ≤ n := Nat.le_of_not_lt hn
        rw [Nat.toDigits_of_base_le (by decide) hle] at h
        rcases List.mem_append.1 h with h | h
        · exact ih (n / 16) (by omega) h
        · exact ⟨n % 16, Nat.mod_lt n (by decide), List.mem_singleton.1 h⟩

theorem utf8ByteSize_ofList_le (cs : List Char) :
    (String.ofList cs).utf8ByteSize ≤ 4 * cs.length := by
  induction cs with
  | nil => exact Nat.le_refl 0
  | cons c cs ih =>
      have hc := c.utf8Size_le_four
      rw [String.ofList_cons, String.utf8ByteSize_append, String.utf8ByteSize_singleton,
        List.length_cons]
      omega

/-- Whatever the hash is, the name made from it is proper. -/
theorem properName_of_hash (hash : UInt64) :
    ProperName ("parsed_" ++ String.ofList (Nat.toDigits 16 hash.toNat) ++ ".entry") := by
  generalize hdigits : Nat.toDigits 16 hash.toNat = digits
  have hchars : ("parsed_" ++ String.ofList digits ++ ".entry").toList =
      "parsed_".toList ++ digits ++ ".entry".toList := by
    simp only [String.toList_append, String.toList_ofList]
  have hother {s : String} (hs : s.toList.head? ≠ some 'p') :
      "parsed_" ++ String.ofList digits ++ ".entry" ≠ s := by
    rintro rfl
    rw [hchars] at hs
    exact hs rfl
  refine ⟨⟨hother (by decide), hother (by decide), hother (by decide), ?_⟩, fun hslash => ?_⟩
  -- At most 16 digits stand between 7 bytes and 6 bytes.
  · have hlength : digits.length ≤ 16 := by
      rw [← hdigits]
      exact (Nat.length_toDigits_le_iff (by decide) (by decide)).2 hash.toNat_lt
    have hbytes := utf8ByteSize_ofList_le digits
    have hfirst : "parsed_".utf8ByteSize = 7 := by decide
    have hlast : ".entry".utf8ByteSize = 6 := by decide
    rw [String.utf8ByteSize_append, String.utf8ByteSize_append, FileTree.longestName]
    omega
  · rw [hchars, List.mem_append, List.mem_append] at hslash
    rcases hslash with (h | h) | h
    · exact absurd h (by decide)
    · rw [← hdigits] at h
      obtain ⟨d, hd, hc⟩ := exists_digitChar_of_mem_toDigits h
      have hdigit : ∀ d < 16, '/' ≠ Nat.digitChar d := by decide
      exact hdigit d hd hc
    · exact absurd h (by decide)

theorem properName_hashedName (p : Path) : ProperName (hashedName p) := properName_of_hash _

theorem hashedName_congr {p q : Path} (h : p.same q = true) : hashedName p = hashedName q := by
  rw [hashedName, hashedName, Path.same_iff.1 h]

end StoredParse

end DecoratorGraph
