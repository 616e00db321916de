import DecoratorGraph.Drawing.Html
import DecoratorGraph.Proofs.Text.Occurrences
import DecoratorGraph.Proofs.Text.Pieces
import Mathlib.Data.List.TakeWhile

/-!
# Titles and images in a document

A title holds no angle bracket once its marks are written as entities, so the first closing tag
behind the opening one is the one that was put there, and reading the entities gives the title.
Nothing in front of the body depends on the image, and no title can open a body of its own. So a
document tells its title and what it shows of its image.
-/

namespace DecoratorGraph.Drawing

open Text (FirstAt Bars)

/-! ### Entities -/

/-- A text with its entities read, each once. -/
def readEntities : List Char → List Char
  | [] => []
  | '&' :: 'a' :: 'm' :: 'p' :: ';' :: r => '&' :: readEntities r
  | '&' :: 'l' :: 't' :: ';' :: r => '<' :: readEntities r
  | '&' :: 'g' :: 't' :: ';' :: r => '>' :: readEntities r
  | c :: r => c :: readEntities r

/-- A character is written by its entity or as it is. -/
theorem markupCharacter_cases (c : Char) :
    (c = '&' ∧ markupCharacter c = "&amp;".toList) ∨
      (c = '<' ∧ markupCharacter c = "&lt;".toList) ∨
      (c = '>' ∧ markupCharacter c = "&gt;".toList) ∨
      (c ≠ '&' ∧ c ≠ '<' ∧ c ≠ '>' ∧ markupCharacter c = [c]) := by
  unfold markupCharacter
  split_ifs <;> simp_all

theorem readEntities_markupCharacter (c : Char) (rest : List Char) :
    readEntities (markupCharacter c ++ rest) = c :: readEntities rest := by
  rcases markupCharacter_cases c with
    ⟨rfl, hc⟩ | ⟨rfl, hc⟩ | ⟨rfl, hc⟩ | ⟨hamp, -, -, hc⟩
  · rw [hc]
    rfl
  · rw [hc]
    rfl
  · rw [hc]
    rfl
  · rw [hc, List.singleton_append, readEntities] <;> simp [hamp]

theorem readEntities_markupText (s : List Char) : readEntities (markupText s) = s := by
  induction s with
  | nil => rfl
  | cons c s ih =>
      rw [markupText] at ih ⊢
      rw [List.flatMap_cons, readEntities_markupCharacter, ih]

theorem not_mem_markupText (s : List Char) : '<' ∉ markupText s ∧ '>' ∉ markupText s := by
  have hcharacter (c : Char) : '<' ∉ markupCharacter c ∧ '>' ∉ markupCharacter c := by
    rcases markupCharacter_cases c with ⟨-, hc⟩ | ⟨-, hc⟩ | ⟨-, hc⟩ | ⟨-, hless, hgreater, hc⟩
    · simp [hc]
    · simp [hc]
    · simp [hc]
    · simp [hc, hless.symm, hgreater.symm]
  simp only [markupText, List.mem_flatMap, not_exists, not_and]
  exact ⟨fun c _ => (hcharacter c).1, fun c _ => (hcharacter c).2⟩

/-- The marks are replaced one after the other, ampersands first. -/
theorem markupText_eq_replace (s : List Char) :
    markupText s = Text.replace ['>'] "&gt;".toList
      (Text.replace ['<'] "&lt;".toList (Text.replace ['&'] "&amp;".toList s)) := by
  rw [Text.replace_singleton, Text.replace_singleton, Text.replace_singleton, List.flatMap_assoc,
    List.flatMap_assoc, markupText]
  refine List.flatMap_congr fun c _ => ?_
  rcases markupCharacter_cases c with
    ⟨rfl, hc⟩ | ⟨rfl, hc⟩ | ⟨rfl, hc⟩ | ⟨hamp, hless, hgreater, hc⟩
  · rw [hc]
    rfl
  · rw [hc]
    rfl
  · rw [hc]
    rfl
  · simp [hc, hamp, hless, hgreater]

/-! ### Images -/

/-- What a document shows of an image: the text from the first `<svg` on, or all of it without one,
less the blanks at its end. -/
def Shows (svg image : List Char) : Prop :=
  ∃ before blanks, svg = before ++ (image ++ blanks) ∧
    (∀ c ∈ blanks, Text.isBlank c = true) ∧
    (∀ c, image.getLast? = some c → Text.isBlank c = false) ∧
    ((∃ after, FirstAt "<svg".toList svg before after) ∨ ¬ "<svg".toList <:+: svg ∧ before = [])

theorem trimEnd_eq_iff {s t : List Char} :
    Text.trimEnd s = t ↔ ∃ blanks, s = t ++ blanks ∧ (∀ c ∈ blanks, Text.isBlank c = true) ∧
      ∀ c, t.getLast? = some c → Text.isBlank c = false := by
  constructor
  · rintro rfl
    refine ⟨(s.reverse.takeWhile Text.isBlank).reverse, ?_, fun c hc => ?_, fun c hc => ?_⟩
    · rw [Text.trimEnd, ← List.reverse_append, List.takeWhile_append_dropWhile,
        List.reverse_reverse]
    · exact List.mem_takeWhile_imp (List.mem_reverse.1 hc)
    · rw [Text.trimEnd, List.getLast?_reverse] at hc
      have hhead := List.head?_dropWhile_not Text.isBlank s.reverse
      simpa [hc] using hhead
  · rintro ⟨blanks, rfl, hblanks, hlast⟩
    rw [Text.trimEnd, List.reverse_append,
      List.dropWhile_append_of_pos fun c hc => hblanks c (List.mem_reverse.1 hc)]
    cases hreverse : t.reverse with
    | nil => simpa using hreverse.symm
    | cons c r =>
        have hc : Text.isBlank c = false := hlast c (by rw [← List.head?_reverse, hreverse]; rfl)
        rw [List.dropWhile_cons_of_neg (by simp [hc]), ← hreverse, List.reverse_reverse]

/-- What is put into a document is what it is to show of the image. -/
theorem shows_iff {svg image : List Char} : Shows svg image ↔ image = imageElement svg := by
  rw [eq_comm, imageElement, trimEnd_eq_iff]
  cases hcut : Text.fromFirst? "<svg".toList svg with
  | none =>
      have hnone := Text.fromFirst?_eq_none_iff.1 hcut
      constructor
      · rintro ⟨before, blanks, hsvg, hblanks, hlast, ⟨after, hfirst⟩ | ⟨-, rfl⟩⟩
        · exact absurd ⟨before, after, by rw [hfirst.split, List.append_assoc]⟩ hnone
        · exact ⟨blanks, hsvg, hblanks, hlast⟩
      · rintro ⟨blanks, hsvg, hblanks, hlast⟩
        exact ⟨[], blanks, hsvg, hblanks, hlast, Or.inr ⟨hnone, rfl⟩⟩
  | some rest =>
      -- There is one first place to cut at, so what is shown is unique.
      obtain ⟨before, after, hfirst, rfl⟩ := Text.fromFirst?_eq_some_iff.1 hcut
      constructor
      · rintro ⟨before', blanks, hsvg, hblanks, hlast, ⟨after', hfirst'⟩ | ⟨hnone, -⟩⟩
        · obtain ⟨rfl, -⟩ := hfirst.unique hfirst'
          exact ⟨blanks, List.append_cancel_left (hfirst.split.symm.trans hsvg), hblanks, hlast⟩
        · exact absurd ⟨before, after, by rw [hfirst.split, List.append_assoc]⟩ hnone
      · rintro ⟨blanks, hafter, hblanks, hlast⟩
        refine ⟨before, blanks, ?_, hblanks, hlast, Or.inl ⟨after, hfirst⟩⟩
        rw [← hafter]
        exact hfirst.split

/-! ### Documents -/

def prolog : List Char := "<!DOCTYPE html>\n<html>\n<head>\n<meta charset=\"utf-8\">\n".toList

def epilog : List Char := "\n</body>\n</html>\n".toList

/-- The parts of a document behind the opening tag of its title. -/
theorem toList_htmlDocument (title svg : String) :
    (htmlDocument title svg).toList =
      prolog ++ ("<title>".toList ++ (markupText title.toList ++ ("</title>".toList ++
        ("\n</head>\n".toList ++ ("<body>\n".toList ++
          (imageElement svg.toList ++ epilog)))))) := by
  have hopening : "<!DOCTYPE html>\n<html>\n<head>\n<meta charset=\"utf-8\">\n<title>".toList =
      prolog ++ "<title>".toList := by decide +kernel
  have hclosing : "</title>\n</head>\n<body>\n".toList =
      "</title>".toList ++ ("\n</head>\n".toList ++ "<body>\n".toList) := by decide +kernel
  delta htmlDocument
  simp only [String.toList_append, String.toList_ofList, hopening, hclosing, List.append_assoc]
  rfl

theorem firstAt_title (title svg : String) :
    ∃ rest after, FirstAt "<title>".toList (htmlDocument title svg).toList prolog rest ∧
      FirstAt "</title>".toList rest (markupText title.toList) after := by
  have hprolog : Bars "<title>".toList prolog := Text.bars_of_forall_mismatch (by decide +kernel)
  have htitle : Bars "</title>".toList (markupText title.toList) :=
    Text.bars_of_not_mem (not_mem_markupText title.toList).1
  rw [toList_htmlDocument]
  exact ⟨_, _, hprolog.firstAt _, htitle.firstAt _⟩

theorem firstAt_body (title svg : String) :
    ∃ before, FirstAt "<body>\n".toList (htmlDocument title svg).toList before
      (imageElement svg.toList ++ epilog) := by
  have hprolog : Bars "<body>\n".toList prolog := Text.bars_of_forall_mismatch (by decide +kernel)
  have hopening : Bars "<body>\n".toList "<title>".toList :=
    Text.bars_of_forall_mismatch (by decide +kernel)
  have htitle : Bars "<body>\n".toList (markupText title.toList) :=
    Text.bars_of_not_mem (not_mem_markupText title.toList).1
  have hclosing : Bars "<body>\n".toList "</title>".toList :=
    Text.bars_of_forall_mismatch (by decide +kernel)
  have hhead : Bars "<body>\n".toList "\n</head>\n".toList :=
    Text.bars_of_forall_mismatch (by decide +kernel)
  have hbefore := ((((hprolog.append hopening).append htitle).append hclosing).append hhead).firstAt
    (imageElement svg.toList ++ epilog)
  rw [toList_htmlDocument]
  simp only [List.append_assoc] at hbefore
  exact ⟨_, hbefore⟩

/-- A document tells its title and what it shows of its image. Between the first opening tag of a
title and the first closing tag behind it stands the title, with its marks replaced one after the
other: no angle bracket is left, and reading the entities gives the title. The first body holds what
is shown of the image, whatever the title is, and the end of the document. So two documents are the
same only if their titles are, and what they show. -/
theorem htmlDocument_holds (title svg : String) :
    (∃ before titleText rest after,
      FirstAt "<title>".toList (htmlDocument title svg).toList before rest ∧
      FirstAt "</title>".toList rest titleText after ∧
      titleText = Text.replace ['>'] "&gt;".toList
        (Text.replace ['<'] "&lt;".toList (Text.replace ['&'] "&amp;".toList title.toList)) ∧
      '<' ∉ titleText ∧ '>' ∉ titleText ∧ readEntities titleText = title.toList) ∧
    (∃ before image,
      FirstAt "<body>\n".toList (htmlDocument title svg).toList before
        (image ++ epilog) ∧
      ∀ shown, Shows svg.toList shown ↔ shown = image) ∧
    ∀ title' svg', htmlDocument title svg = htmlDocument title' svg' ↔
      title = title' ∧ ∀ shown, Shows svg.toList shown ↔ Shows svg'.toList shown := by
  obtain ⟨rest, after, hopening, hclosing⟩ := firstAt_title title svg
  obtain ⟨before, hbody⟩ := firstAt_body title svg
  have hmarks := not_mem_markupText title.toList
  refine ⟨⟨prolog, _, rest, after, hopening, hclosing, markupText_eq_replace _, hmarks.1, hmarks.2,
    readEntities_markupText _⟩, ⟨before, _, hbody, fun _ => shows_iff⟩, fun title' svg' => ?_⟩
  simp only [shows_iff]
  constructor
  · intro hsame
    obtain ⟨rest', after', hopening', hclosing'⟩ := firstAt_title title' svg'
    obtain ⟨before', hbody'⟩ := firstAt_body title' svg'
    rw [← hsame] at hopening' hbody'
    obtain ⟨-, rfl⟩ := hopening.unique hopening'
    have htitle := congrArg readEntities (hclosing.unique hclosing').1
    rw [readEntities_markupText, readEntities_markupText, String.toList_inj] at htitle
    have himage := List.append_cancel_right (hbody.unique hbody').2
    exact ⟨htitle, fun shown => by rw [himage]⟩
  · rintro ⟨rfl, hshown⟩
    have himage : imageElement svg.toList = imageElement svg'.toList := (hshown _).1 rfl
    rw [← String.toList_inj, toList_htmlDocument, toList_htmlDocument, himage]

end DecoratorGraph.Drawing
