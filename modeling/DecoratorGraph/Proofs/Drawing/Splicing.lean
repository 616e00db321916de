import DecoratorGraph.Proofs.Drawing.Reading

/-!
# Splicing statements into a template

Filling a place of a template puts a text between fixed pieces, which are those between the
occurrences of the place. The text is not searched for places again, so the pieces depend on the
template and on the settings only. If the place occurs at all, the text can be told from the
result, and the graph from the text.
-/

namespace DecoratorGraph.Drawing

/-- Escaping replaces backslashes first and then quotes. -/
theorem escape_eq_replace (s : List Char) :
    escape s = Text.replace ['"'] ['\\', '"'] (Text.replace ['\\'] ['\\', '\\'] s) := by
  rw [Text.replace_singleton, Text.replace_singleton, List.flatMap_assoc, escape]
  refine List.flatMap_congr fun c _ => ?_
  by_cases hbackslash : c = '\\'
  · simp [hbackslash]
  · by_cases hquote : c = '"' <;> simp [hbackslash, hquote]

/-! ### The text of a graph -/

/-- The pieces of a template around the statements, after the settings are filled in. -/
def frame (s : Settings) (template : String) : List (List Char) :=
  Text.pieces bodyPlace (fill (settingsFor s) template.toList)

/-- Whatever the records are, their statements stand between the same pieces. -/
theorem toList_dotText (s : Settings) (template : String) (records : List Record) :
    (dotText s template records).toList =
      Text.join (body s (.ofRecords records)) (frame s template) := by
  rw [dotText, String.toList_ofList, Text.replace_eq_join, frame]

/-- The text of a graph determines the graph. The template with the settings filled in is cut at
the place for the statements into pieces that depend on no record, and the statements stand between
them as they are; they are read back to exactly the nodes and edges of the graph. So records with
one text have one graph: the same nodes, and the same edges between the same ids. -/
theorem dotText_determines_graph (s : Settings) (template : String)
    (hplace : bodyPlace <:+: fill (settingsFor s) template.toList) :
    Text.join bodyPlace (frame s template) = fill (settingsFor s) template.toList ∧
      (∀ records, (dotText s template records).toList =
        Text.join (body s (.ofRecords records)) (frame s template)) ∧
      (∀ records, readBody s (body s (.ofRecords records)) =
        some ((DependencyGraph.ofRecords records).nodes, arrows (.ofRecords records))) ∧
      ∀ records records', dotText s template records = dotText s template records' →
        (DependencyGraph.ofRecords records).nodes = (DependencyGraph.ofRecords records').nodes ∧
          arrows (.ofRecords records) = arrows (.ofRecords records') := by
  have hne : bodyPlace ≠ [] := by decide
  refine ⟨Text.join_pieces hne _, toList_dotText s template, readBody_body s, ?_⟩
  intro records records' htext
  have hjoin := congrArg String.toList htext
  rw [toList_dotText, toList_dotText] at hjoin
  have hbody := Text.join_injective (Text.two_le_length_pieces hne hplace) hjoin
  have hread := congrArg (readBody s) hbody
  rw [readBody_body, readBody_body, Option.some.injEq, Prod.mk.injEq] at hread
  exact hread

/-- A record whose name tries to end its statement, and the same one with categories that are
there but list nothing. -/
def hostile (dependencies : Dependencies) : Record :=
  ⟨"\"];\n\x7d \\ \x7bcomponents\x7d -> ", ⟨"a.ts"⟩, dependencies⟩

/-- Both records have one text in a small template, and one graph. -/
theorem hostile_graph_eq :
    let s := Settings.resolve {}
    let template := "digraph \x7bname\x7d \x7b\n\x7bcomponents\x7d\x7d\n"
    bodyPlace <:+: fill (settingsFor s) template.toList ∧
      dotText s template [hostile {}] = dotText s template [hostile .allEmpty] ∧
      (DependencyGraph.ofRecords [hostile {}]).nodes =
        (DependencyGraph.ofRecords [hostile .allEmpty]).nodes := by
  intro s template
  have hplace : bodyPlace <:+: fill (settingsFor s) template.toList := by decide +kernel
  have hgraph : DependencyGraph.ofRecords [hostile {}] =
      DependencyGraph.ofRecords [hostile .allEmpty] := by
    decide +kernel
  have htext : dotText s template [hostile {}] = dotText s template [hostile .allEmpty] := by
    rw [dotText, hgraph, dotText]
  exact ⟨hplace, htext, ((dotText_determines_graph s template hplace).2.2.2 _ _ htext).1⟩

end DecoratorGraph.Drawing
