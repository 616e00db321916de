import DecoratorGraph.Proofs.FileTree.Listing
import DecoratorGraph.Proofs.Text.Pieces
import DecoratorGraph.Proofs.Text.Utf8

/-!
# Names of source files

A file is a source file by its name alone. The name is the last component of a path, and the path
that is put together for an entry below a directory ends in the name of that entry, whatever the
directory is called. Different entries get different paths.
-/

namespace DecoratorGraph

/-! ### Appended names -/

namespace Path

theorem pieceComponent?_of_properName {name : String} (h : ProperName name) :
    pieceComponent? name.toList = some (.normal name) := by
  obtain ⟨⟨hempty, hdot, hup, -⟩, -⟩ := h
  unfold pieceComponent?
  split
  · rename_i hname
    exact absurd (String.toList_inj.1 hname) hempty
  · rename_i hname
    exact absurd (String.toList_inj.1 hname) hdot
  · rename_i hname
    exact absurd (String.toList_inj.1 hname) hup
  · rw [String.ofList_toList]

section Join

variable {path : Path} {name : String} (hpath : path.text ≠ "") (hname : ProperName name)

include hpath hname

/-- The file name of a path with an appended name is that name. -/
theorem fileName?_join : (path.join ⟨name⟩).fileName? = some name := by
  rw [fileName?, components, toList_join hpath hname, Text.split_append_cons,
    Text.split_of_not_mem hname.2]
  generalize (if path.text.toList.getLast? = some '/' then path.text.toList.dropLast
    else path.text.toList) = before
  obtain ⟨first, rest, hsplit⟩ := List.exists_cons_of_ne_nil (Text.split_ne_nil '/' before)
  rw [hsplit, List.cons_append]
  simp [pieceComponent?_of_properName hname]

end Join

end Path

namespace FileTree

variable {input : Path} (hinput : input.text ≠ "")

include hinput

theorem text_pathBelow_ne_empty {names : Place} (hnames : ∀ name ∈ names, ProperName name) :
    (pathBelow input names).text ≠ "" := by
  induction names generalizing input with
  | nil => exact hinput
  | cons name names ih =>
      exact ih (Path.text_join_ne_empty hinput (hnames name List.mem_cons_self))
        fun m hm => hnames m (List.mem_cons_of_mem _ hm)

/-- The file name of an entry below a directory is its last name. -/
theorem fileName?_pathBelow {names : Place} (hnames : ∀ name ∈ names, ProperName name)
    {name : String} (hlast : names.getLast? = some name) :
    (pathBelow input names).fileName? = some name := by
  obtain ⟨above, rfl⟩ := List.getLast?_eq_some_iff.1 hlast
  have hjoin : pathBelow input (above ++ [name]) = (pathBelow input above).join ⟨name⟩ := by
    rw [pathBelow, List.foldl_append]
    rfl
  have habove := text_pathBelow_ne_empty hinput fun m hm => hnames m (List.mem_append_left _ hm)
  rw [hjoin, Path.fileName?_join habove (hnames name (by simp))]

end FileTree

/-! ### Source files -/

def Script.Dialect.endings : Script.Dialect → List String
  | .typeScript => ["ts", "mts", "cts"]
  | .tsx => ["tsx"]

/-- A name of source files in a dialect: something, a dot and an ending of the dialect, but not
the name of a file that holds types only. -/
structure IsSourceName (name : String) (d : Script.Dialect) : Prop where
  ending : ∃ stem, stem ≠ "" ∧ ∃ e ∈ d.endings, name = stem ++ "." ++ e
  notTypes : ∀ e ∈ [".d.ts", ".d.mts", ".d.cts"], ¬e.toList <:+ name.toList

theorem ascii_of_mem_endings {e : String} {d : Script.Dialect} (h : e ∈ d.endings) :
    Text.Utf8.encode e ≠ [] ∧ FileName.dot ∉ Text.Utf8.encode e ∧
      ∀ c ∈ e.toList, c.toNat < 128 := by
  have hall : ∀ d : Script.Dialect, ∀ e ∈ d.endings, Text.Utf8.encode e ≠ [] ∧
      (Text.Utf8.encode e).contains FileName.dot = false ∧
        e.toList.all (fun c => decide (c.toNat < 128)) = true := by
    intro d
    cases d <;> decide
  simpa using hall d e h

namespace FileName

/-- An extension stands behind the last dot of a name, and something stands in front of that
dot. -/
theorem extension?_eq_some_iff {name e : List UInt8} (he : e ≠ []) :
    extension? name = some e ↔ ∃ stem, stem ≠ [] ∧ name = stem ++ dot :: e ∧ dot ∉ e := by
  have htake {stem rest : List UInt8} :
      (stem ++ dot :: rest).take ((stem ++ dot :: rest).length - rest.length - 1) = stem := by
    have hlength : (stem ++ dot :: rest).length - rest.length - 1 = stem.length := by
      rw [List.length_append, List.length_cons]
      omega
    rw [hlength, List.take_left]
  unfold extension?
  constructor
  · intro h
    dsimp only at h
    split at h
    · cases h
    · rename_i hstem
      cases h
      -- Without a dot the whole name counts as what stands behind it, and nothing is left in front.
      by_cases hdot : dot ∈ name
      · obtain ⟨stem, hname⟩ := Text.exists_eq_append_afterLast hdot
        have hlast := Text.not_mem_afterLast dot name
        generalize Text.afterLast dot name = e at hname hlast hstem ⊢
        subst hname
        rw [htake, not_or] at hstem
        exact ⟨stem, hstem.2, rfl, hlast⟩
      · rw [Text.afterLast_of_not_mem hdot] at hstem
        simp at hstem
  · rintro ⟨stem, hstem, rfl, hdot⟩
    have hdots : stem ++ dot :: e ≠ [dot, dot] := by
      intro h
      have hlength := congrArg List.length h
      have hstem := List.length_pos_iff.2 hstem
      have he := List.length_pos_iff.2 he
      simp only [List.length_append, List.length_cons, List.length_nil] at hlength
      omega
    dsimp only
    rw [Text.afterLast_append_cons hdot, htake]
    simp [hdots, hstem]

theorem dialectOf?_eq_some_iff {e : List UInt8} {d : Script.Dialect} :
    dialectOf? e = some d ↔ ∃ ending ∈ d.endings, e = Text.Utf8.encode ending := by
  have htsx : Text.Utf8.encode "tsx" ∉ ["ts", "mts", "cts"].map Text.Utf8.encode := by decide
  unfold dialectOf?
  cases d with
  | typeScript =>
      by_cases h : e ∈ ["ts", "mts", "cts"].map Text.Utf8.encode
      · rw [if_pos h]
        simpa [Script.Dialect.endings, eq_comm] using h
      · rw [if_neg h]
        simpa [Script.Dialect.endings, eq_comm] using h
  | tsx =>
      by_cases h : e = Text.Utf8.encode "tsx"
      · subst h
        rw [if_neg htsx, if_pos rfl]
        simp [Script.Dialect.endings]
      · simp [h, Script.Dialect.endings]

theorem extension_bind_iff {name : List UInt8} {d : Script.Dialect} :
    (extension? name).bind dialectOf? = some d ↔
      ∃ stem, stem ≠ [] ∧ ∃ e ∈ d.endings, name = stem ++ Text.Utf8.encode ("." ++ e) := by
  have hdotted (e : String) : Text.Utf8.encode ("." ++ e) = dot :: Text.Utf8.encode e := by
    rw [Text.Utf8.encode_append]
    rfl
  simp only [Option.bind_eq_some_iff, dialectOf?_eq_some_iff, hdotted]
  constructor
  · rintro ⟨_, hextension, e, he, rfl⟩
    obtain ⟨stem, hstem, hname, -⟩ :=
      (extension?_eq_some_iff (ascii_of_mem_endings he).1).1 hextension
    exact ⟨stem, hstem, e, he, hname⟩
  · rintro ⟨stem, hstem, e, he, rfl⟩
    obtain ⟨hne, hdot, -⟩ := ascii_of_mem_endings he
    exact ⟨_, (extension?_eq_some_iff hne).2 ⟨stem, hstem, rfl, hdot⟩, e, he, rfl⟩

/-- A name is that of a source file if it is something, a dot and an ending of the dialect, and not
a text that ends like the name of a file that holds types only. -/
theorem dialect?_eq_some_iff {name : List UInt8} {d : Script.Dialect} :
    dialect? name = some d ↔
      (∃ stem, stem ≠ [] ∧ ∃ e ∈ d.endings, name = stem ++ Text.Utf8.encode ("." ++ e)) ∧
        ∀ text, Text.Utf8.decode? name = some text →
          ∀ e ∈ [".d.ts", ".d.mts", ".d.cts"], ¬e.toList <:+ text.toList := by
  have htypes : isTypeDeclaration name = false ↔ ∀ text, Text.Utf8.decode? name = some text →
      ∀ e ∈ [".d.ts", ".d.mts", ".d.cts"], ¬e.toList <:+ text.toList := by
    unfold isTypeDeclaration
    cases Text.Utf8.decode? name with
    | none => simp
    | some text =>
        simp only [typeDeclarationEnds, List.any_eq_false, List.isSuffixOf_iff_suffix,
          Option.some.injEq, forall_eq']
  rw [dialect?, ← extension_bind_iff, ← htypes]
  cases isTypeDeclaration name <;> simp

theorem dialect?_encode {name : String} {d : Script.Dialect} :
    dialect? (Text.Utf8.encode name) = some d ↔ IsSourceName name d := by
  have hending : (∃ stem, stem ≠ [] ∧ ∃ e ∈ d.endings,
      Text.Utf8.encode name = stem ++ Text.Utf8.encode ("." ++ e)) ↔
      ∃ stem, stem ≠ "" ∧ ∃ e ∈ d.endings, name = stem ++ "." ++ e := by
    have hempty {s : String} : Text.Utf8.encode s = [] ↔ s = "" :=
      ⟨fun h => Text.Utf8.encode_injective (h.trans rfl), fun h => h ▸ rfl⟩
    have hascii {e : String} (he : e ∈ d.endings) : ∀ c ∈ ("." ++ e).toList, c.toNat < 128 := by
      simpa using (ascii_of_mem_endings he).2.2
    constructor
    · rintro ⟨_, hstem, e, he, hname⟩
      obtain ⟨stem, rfl, rfl⟩ := (Text.Utf8.encode_eq_append_iff (hascii he)).1 hname
      exact ⟨stem, mt hempty.2 hstem, e, he, (String.append_assoc ..).symm⟩
    · rintro ⟨stem, hstem, e, he, rfl⟩
      exact ⟨_, mt hempty.1 hstem, e, he, (Text.Utf8.encode_eq_append_iff (hascii he)).2
        ⟨stem, rfl, String.append_assoc ..⟩⟩
  rw [dialect?_eq_some_iff, hending, Text.Utf8.decode?_encode]
  simp only [Option.some.injEq, forall_eq']
  exact ⟨fun h => ⟨h.1, h.2⟩, fun h => ⟨h.ending, h.notTypes⟩⟩

end FileName

/-- A path is that of a source file if its file name is the name of one. -/
theorem SourceFile.ofPath?_eq_some_iff {p : Path} {f : SourceFile} :
    ofPath? p = some f ↔
      f.path = p ∧ ∃ name, p.fileName? = some name ∧ IsSourceName name f.dialect := by
  simp only [ofPath?, Option.bind_eq_some_iff, Option.map_eq_some_iff, FileName.dialect?_encode]
  constructor
  · rintro ⟨name, hname, d, hd, rfl⟩
    exact ⟨rfl, name, hname, hd⟩
  · rintro ⟨rfl, name, hname, hd⟩
    exact ⟨name, hname, f.dialect, hd, rfl⟩

end DecoratorGraph
