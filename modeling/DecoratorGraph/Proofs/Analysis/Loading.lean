import DecoratorGraph.Proofs.Analysis.Alike
import DecoratorGraph.Proofs.Analysis.Runs

/-!
# Loading one file

A file is loaded in up to three accesses: the look at the store, the reading of the file, and
the look at the file when its parse is stored. `loadAmid` lets others work on the files between
them, so its cases say what one load can do in any company.
-/

namespace DecoratorGraph

namespace SourceFile

/-- The dialect of a source file depends only on the place that its path names. -/
theorem dialect_eq_of_same {p q : Path} (h : p.same q = true) {f g : SourceFile}
    (hf : ofPath? p = some f) (hg : ofPath? q = some g) : f.dialect = g.dialect := by
  have hname : p.fileName? = q.fileName? := by
    rw [Path.fileName?, Path.fileName?, Path.same_iff.1 h]
  rw [ofPath?, hname] at hf
  obtain ⟨name, hq, hf⟩ := Option.bind_eq_some_iff.1 hf
  rw [ofPath?, hq, Option.bind_some] at hg
  obtain ⟨d, hd, rfl⟩ := Option.map_eq_some_iff.1 hf
  obtain ⟨d', hd', rfl⟩ := Option.map_eq_some_iff.1 hg
  exact Option.some.inj (hd.symm.trans hd')

theorem parse_ok_iff {f : SourceFile} {t : FileTree} {parsed : ParsedFile} :
    f.parse t = .ok parsed ↔
      ∃ text, t.readText f.path = .ok text ∧ parsed = .read f.dialect f.path text := by
  unfold parse
  cases t.readText f.path with
  | error cause => simp
  | ok text => simp [eq_comm]

theorem path_of_parse {f : SourceFile} {t : FileTree} {parsed : ParsedFile}
    (h : f.parse t = .ok parsed) : parsed.path = f.path := by
  obtain ⟨text, -, rfl⟩ := parse_ok_iff.1 h
  rfl

theorem same_path_of_parse {f : SourceFile} {t : FileTree} {parsed : ParsedFile}
    (h : f.parse t = .ok parsed) : parsed.path.same f.path = true := by
  rw [path_of_parse h]
  exact Path.same_refl f.path

theorem parse_congr {f : SourceFile} {t u : FileTree}
    (h : u.readText f.path = t.readText f.path) : f.parse u = f.parse t := by
  unfold parse
  rw [h]

end SourceFile

namespace Workspace

/-- What loading a file can do. A parse that still holds is taken from the store. Otherwise the
file is read as it is after the look at the store, and its parse is stored with the state that
the file has then. -/
theorem loadAmid_cases (afterCheck afterRead : FileTree → FileTree) (t : FileTree)
    (s : ParseStore) (f : SourceFile) :
    (∃ parsed, (s.current? t f.path).1 = some parsed ∧
      loadAmid afterCheck afterRead ⟨t, some s⟩ f =
        ⟨⟨t, some (s.current? t f.path).2⟩, .ok parsed, true⟩) ∨
    (s.current? t f.path).1 = none ∧
      ((∃ cause, f.parse (afterCheck t) = .error cause ∧
        loadAmid afterCheck afterRead ⟨t, some s⟩ f =
          ⟨⟨afterCheck t, some (s.current? t f.path).2⟩, .error cause, false⟩) ∨
      ∃ parsed, f.parse (afterCheck t) = .ok parsed ∧
        loadAmid afterCheck afterRead ⟨t, some s⟩ f =
          ⟨⟨((s.current? t f.path).2.store (afterRead (afterCheck t)) f.path parsed).tree,
            some ((s.current? t f.path).2.store (afterRead (afterCheck t)) f.path parsed).store⟩,
            .ok parsed, false⟩) := by
  cases hcurrent : (s.current? t f.path).1 with
  | some parsed => exact Or.inl ⟨parsed, rfl, by simp [loadAmid, Workspace.current?, hcurrent]⟩
  | none =>
      refine Or.inr ⟨rfl, ?_⟩
      cases hparse : f.parse (afterCheck t) with
      | error cause =>
          exact Or.inl ⟨cause, rfl, by
            simp [loadAmid, Workspace.current?, hcurrent, mapTree, hparse]⟩
      | ok parsed =>
          exact Or.inr ⟨parsed, rfl, by
            simp [loadAmid, Workspace.current?, hcurrent, mapTree, hparse, keep]⟩

theorem load_without_store (t : FileTree) (f : SourceFile) :
    load ⟨t, none⟩ f = ⟨⟨t, none⟩, f.parse t, false⟩ := by
  cases hparse : f.parse t <;>
    simp [load, loadAmid, Workspace.current?, mapTree, keep, hparse]

end Workspace

/-! ### Genuine entries -/

theorem Genuine.mono {readings more : List Reading} {e : StoredParse} (h : Genuine readings e)
    (hmore : readings ⊆ more) : Genuine more e := by
  obtain ⟨f, text, hname, hread, hparsed⟩ := h
  exact ⟨f, text, hname, hmore hread, hparsed⟩

theorem genuine_of_parse {readings : List Reading} {f : SourceFile}
    (hname : SourceFile.ofPath? f.path = some f) {t : FileTree} {state : FileState}
    (hread : ⟨f.path, state, t.readText f.path⟩ ∈ readings) {parsed : ParsedFile}
    (hparse : f.parse t = .ok parsed) : Genuine readings ⟨parsed, state⟩ := by
  obtain ⟨text, htext, rfl⟩ := SourceFile.parse_ok_iff.1 hparse
  rw [htext] at hread
  exact ⟨f, text, hname, hread, rfl⟩

/-- An entry with the state that a file has is alike the parse of the text that the file has. -/
theorem Genuine.alike_parse {readings : List Reading} (hconsistent : Consistent readings)
    {e : StoredParse} (he : Genuine readings e) {f : SourceFile}
    (hname : SourceFile.ofPath? f.path = some f) (hsame : e.parsed.path.same f.path = true)
    {t : FileTree} (hread : ⟨f.path, e.state, t.readText f.path⟩ ∈ readings) :
    ∃ fresh, f.parse t = .ok fresh ∧ e.parsed.Alike fresh := by
  obtain ⟨g, text, hname', hread', hparsed⟩ := he
  rw [hparsed] at hsame
  have htext : Except.ok text = t.readText f.path := hconsistent _ hread' _ hread hsame rfl
  have hdialect := SourceFile.dialect_eq_of_same hsame hname' hname
  refine ⟨.read f.dialect f.path text, SourceFile.parse_ok_iff.2 ⟨text, htext.symm, rfl⟩, ?_⟩
  rw [hparsed, hdialect]
  exact ⟨hsame, rfl⟩

/-- A parse that still holds is alike the parse of the text that the file has, as long as all
entries are genuine. -/
theorem alike_parse_of_current? {base s : ParseStore} {readings : List Reading}
    (hconsistent : Consistent readings) {t u : FileTree}
    (hs : base.Holds (Genuine readings) u s) {f : SourceFile}
    (hname : SourceFile.ofPath? f.path = some f)
    (hread : ∀ state, u.fileState f.path = .ok state →
      ⟨f.path, state, t.readText f.path⟩ ∈ readings) {parsed : ParsedFile}
    (hcurrent : (s.current? u f.path).1 = some parsed) :
    ∃ fresh, f.parse t = .ok fresh ∧ parsed.Alike fresh := by
  obtain ⟨e, hevidence, rfl, hsame, hstate⟩ :=
    ParseStore.current?_eq_some (fun e he => (hs.remembered e he).1) hcurrent
  exact (hs.evidence? hevidence).alike_parse hconsistent hname hsame (hread e.state hstate)

end DecoratorGraph
