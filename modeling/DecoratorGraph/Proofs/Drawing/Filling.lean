import DecoratorGraph.Drawing.Dot
import DecoratorGraph.Proofs.Text.Substitution
import Mathlib.Data.List.Induction

/-!
# Filling the places of a template

The places of a template are filled one after the other, the statements last. What one filling puts
into the text is searched by the fillings after it, so the result is that of one pass over the
template only as long as no value brings an occurrence of a later place into the text, by itself or
together with what stands next to it. `dotText_eq_substitute_iff` says that this is the only
obstacle.
-/

namespace DecoratorGraph.Drawing

open Text (IsPlace occurrences substitute)

/-- The places of a template and what is put there, in the order in which they are filled. -/
def fillings (s : Settings) (records : List Record) : List (List Char × List Char) :=
  settingsFor s ++ [(bodyPlace, body s (.ofRecords records))]

theorem fill_append (values values' : List (List Char × List Char)) (template : List Char) :
    fill (values ++ values') template = fill values' (fill values template) := by
  simp [fill]

/-- The text of a graph is the template with all places filled. -/
theorem dotText_eq_fill (s : Settings) (template : String) (records : List Record) :
    dotText s template records = String.ofList (fill (fillings s records) template.toList) := by
  rw [fillings, fill_append]
  rfl

/-! ### The places -/

theorem isPlace_of_mem_fillings (s : Settings) (records : List Record) :
    ∀ place ∈ fillings s records, IsPlace place.1 := by
  have hword (word : String) (h : '\x7b' ∉ word.toList ∧ '\x7d' ∉ word.toList) :
      IsPlace ('\x7b' :: word.toList ++ ['\x7d']) :=
    ⟨word.toList, rfl, h⟩
  simp only [fillings, settingsFor, List.cons_append, List.nil_append, List.forall_mem_cons,
    List.not_mem_nil, false_imp_iff, implies_true, and_true]
  exact ⟨hword "1" (by decide), hword "2" (by decide), hword "3" (by decide),
    hword "scheme" (by decide), hword "name" (by decide), hword "components" (by decide)⟩

theorem nodup_fillings (s : Settings) (records : List Record) :
    ((fillings s records).map Prod.fst).Nodup := by
  simp only [fillings, settingsFor, List.map_append, List.map_cons, List.map_nil]
  decide

/-! ### One after the other, and at once -/

/-- Places are filled as in one pass, however many of them are filled, exactly if no value brings
an occurrence of a place that is filled later into the text. A place that is filled by itself is
not changed and does no harm. -/
theorem fill_eq_substitute_iff {values : List (List Char × List Char)}
    (hplaces : ∀ place ∈ values, IsPlace place.1) (hnodup : (values.map Prod.fst).Nodup)
    (template : List Char) :
    (∀ filled, filled <+: values → fill filled template = substitute filled template) ↔
      ∀ filled place, filled ++ [place] <+: values →
        occurrences place.1 (substitute filled template) = occurrences place.1 template ∨
          place.2 = place.1 := by
  -- One more place, after others that were filled as in one pass.
  have hstage (filled : List (List Char × List Char)) (place : List Char × List Char)
      (hbegin : filled ++ [place] <+: values)
      (hfilled : fill filled template = substitute filled template) :
      fill (filled ++ [place]) template = substitute (filled ++ [place]) template ↔
        occurrences place.1 (substitute filled template) = occurrences place.1 template ∨
          place.2 = place.1 := by
    have hmem (q : List Char × List Char) (hq : q ∈ filled ++ [place]) : IsPlace q.1 :=
      hplaces q (hbegin.subset hq)
    have hfresh : filled.lookup place.1 = none := by
      have hdistinct := (hbegin.map Prod.fst).sublist.nodup hnodup
      rw [List.map_append, List.nodup_append] at hdistinct
      rw [List.lookup_eq_none_iff]
      intro q hq
      rw [bne_iff_ne]
      exact (hdistinct.2.2 q.1 (List.mem_map_of_mem hq) place.1 List.mem_cons_self).symm
    rw [fill_append, hfilled]
    exact Text.replace_substitute_eq_iff (fun q hq => hmem q (List.mem_append_left _ hq))
      (hmem place (by simp)) hfresh place.2 template
  constructor
  · intro hfill filled place hbegin
    exact (hstage filled place hbegin (hfill filled ((List.prefix_append _ _).trans hbegin))).1
      (hfill _ hbegin)
  · intro hcount filled hbegin
    induction filled using List.reverseRecOn with
    | nil => exact (Text.substitute_none template).symm
    | append_singleton filled place ih =>
        exact (hstage filled place hbegin (ih ((List.prefix_append _ _).trans hbegin))).2
          (hcount filled place hbegin)

/-- The text of a graph is the template with all places filled in turn. Each of them is filled as in
one pass over the template, which looks at no value again, exactly if no value brings an occurrence
of a place that is filled later into the text, unless that place is filled by itself. Otherwise some
value is read as a place, in part or as a whole. -/
theorem dotText_eq_substitute_iff (s : Settings) (template : String) (records : List Record) :
    dotText s template records = String.ofList (fill (fillings s records) template.toList) ∧
      ((∀ filled, filled <+: fillings s records →
          fill filled template.toList = substitute filled template.toList) ↔
        ∀ filled place, filled ++ [place] <+: fillings s records →
          occurrences place.1 (substitute filled template.toList) =
              occurrences place.1 template.toList ∨
            place.2 = place.1) :=
  ⟨dotText_eq_fill s template records,
    fill_eq_substitute_iff (isPlace_of_mem_fillings s records) (nodup_fillings s records) _⟩

/-- A name that looks like the place of the statements is taken for it. -/
example :
    let s := Settings.resolve { name := some "\x7bcomponents\x7d" }
    let template := "digraph \x7bname\x7d \x7b\n\x7bcomponents\x7d\x7d\n"
    dotText s template [] = "digraph \n \x7b\n\n\x7d\n" ∧
      substitute (fillings s []) template.toList =
        "digraph \x7bcomponents\x7d \x7b\n\n\x7d\n".toList := by
  decide +kernel

end DecoratorGraph.Drawing
