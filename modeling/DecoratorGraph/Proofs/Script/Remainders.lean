import DecoratorGraph.Script.Reader
import Mathlib.Data.List.Infix

/-!
# What readers leave

A reader takes something off the front of a text and gives back what is left, so what it leaves is
an end of the text that it was given (`Leaves` for skippers, `Reads` for readers). Properties of
results are handed through binds, maps and choices once (`Yields`); here they are proved for the
readers of lexemes, rows and lists.
-/

namespace DecoratorGraph.Script

/-! ### Results with a property -/

/-- What is read, if anything is, has a property. -/
def Yields {β : Type} (P : β → Prop) (result : Option β) : Prop := ∀ b, result = some b → P b

section

variable {α β : Type} {P : β → Prop}

@[grind =] theorem yields_some {b : β} : Yields P (some b) ↔ P b := by simp [Yields]

@[grind .] theorem yields_none : Yields P none := by simp [Yields]

theorem yields_bind {o : Option α} {f : α → Option β} (h : ∀ a, o = some a → Yields P (f a)) :
    Yields P (o.bind f) := by
  intro b hb
  obtain ⟨a, ha, hfa⟩ := Option.bind_eq_some_iff.1 hb
  exact h a ha b hfa

theorem yields_map {o : Option α} {f : α → β} (h : ∀ a, o = some a → P (f a)) :
    Yields P (o.map f) := by
  intro b hb
  obtain ⟨a, ha, rfl⟩ := Option.map_eq_some_iff.1 hb
  exact h a ha

theorem yields_filter {o : Option β} {keep : β → Bool} (ho : Yields P o) :
    Yields P (o.filter keep) := fun b hb => ho b (Option.eq_some_of_filter_eq_some hb)

theorem yields_ite {c : Prop} [Decidable c] {a b : Option β} (ha : c → Yields P a)
    (hb : ¬c → Yields P b) : Yields P (if c then a else b) := by
  split
  · exact ha ‹_›
  · exact hb ‹_›

end

grind_pattern yields_bind => Yields P (o.bind f)
grind_pattern yields_map => Yields P (o.map f)
grind_pattern yields_filter => Yields P (o.filter keep)

/-! ### Ends of a text -/

variable {α : Type} {s t r : List Char}

def IsEnd (s r : List Char) : Prop := r <:+ s

def LeavesEnd (s : List Char) (p : α × List Char) : Prop := p.2 <:+ s

abbrev Leaves (s : List Char) (rest : Option (List Char)) : Prop := Yields (IsEnd s) rest

abbrev Reads (s : List Char) (result : Option (α × List Char)) : Prop := Yields (LeavesEnd s) result

@[grind =] theorem isEnd_iff : IsEnd s r ↔ r <:+ s := Iff.rfl

@[grind =] theorem leavesEnd_iff {p : α × List Char} : LeavesEnd s p ↔ p.2 <:+ s := Iff.rfl

@[grind =] theorem leaves_some : Leaves s (some r) ↔ r <:+ s := yields_some

@[grind =] theorem reads_some {p : α × List Char} : Reads s (some p) ↔ p.2 <:+ s := yields_some

theorem Leaves.mono {rest : Option (List Char)} (h : Leaves t rest) (ht : t <:+ s) :
    Leaves s rest := fun r hr => (isEnd_iff.1 (h r hr)).trans ht

theorem Reads.mono {result : Option (α × List Char)} (h : Reads t result) (ht : t <:+ s) :
    Reads s result := fun p hp => (leavesEnd_iff.1 (h p hp)).trans ht

/-- What one skipper leaves, another skips on from. -/
theorem Leaves.bind {o : Option (List Char)} {p : Skipper} (ho : Leaves s o)
    (hp : ∀ s, Leaves s (p s)) : Leaves s (o.bind p) :=
  yields_bind fun r hr => (hp r).mono (ho r hr)

theorem Leaves.suffix_of_bind {o : Option (List Char)} {p : Skipper} (h : o.bind p = some r)
    (ho : Leaves s o) (hp : ∀ s, Leaves s (p s)) : r <:+ s := ho.bind hp r h

theorem getD_suffix {o : Option (List Char)} (ho : Leaves s o) : o.getD s <:+ s := by
  cases o with
  | none => exact List.suffix_rfl
  | some r => exact ho r rfl

attribute [local grind →] List.IsSuffix.trans
grind_pattern getD_suffix => o.getD s
grind_pattern Leaves.mono => Leaves t rest, Leaves s rest
grind_pattern Reads.mono => Reads t result, Reads s result
grind_pattern List.suffix_cons => a :: l
grind_pattern List.dropWhile_suffix => List.dropWhile p l
grind_pattern List.drop_suffix => List.drop i l

/-! ### Lexemes -/

theorem skipBlank_suffix (b : Blank) (s : List Char) : skipBlank b s <:+ s := by
  fun_induction skipBlank b s <;> grind

theorem skip_suffix (s : List Char) : skip s <:+ s := skipBlank_suffix _ s

theorem afterWord_suffix (inBrace : Bool) (s : List Char) : afterWord inBrace s <:+ s := by
  fun_induction afterWord inBrace s <;> grind

theorem afterDigits_suffix (s : List Char) : afterDigits s <:+ s := List.dropWhile_suffix _

grind_pattern skip_suffix => skip s
grind_pattern afterWord_suffix => afterWord inBrace s
grind_pattern afterDigits_suffix => afterDigits s

theorem afterExponent_suffix (s : List Char) : afterExponent s <:+ s := by
  unfold afterExponent
  grind

theorem afterBigMark_suffix (s : List Char) : afterBigMark s <:+ s := by
  unfold afterBigMark
  grind

grind_pattern afterExponent_suffix => afterExponent s
grind_pattern afterBigMark_suffix => afterBigMark s

theorem afterDecimal_suffix (s : List Char) : afterNumber.decimal s <:+ s := by
  unfold afterNumber.decimal
  grind

grind_pattern afterDecimal_suffix => afterNumber.decimal s

theorem afterNumber_suffix (s : List Char) : afterNumber s <:+ s := by
  unfold afterNumber
  grind

theorem reads_word? (s : List Char) : Reads s (word? s) := by
  unfold word?
  grind

grind_pattern afterNumber_suffix => afterNumber s
grind_pattern reads_word? => word? s

theorem leaves_skipWord? (s : List Char) : Leaves s (skipWord? s) := by
  unfold skipWord?
  grind

theorem leaves_keyword? (word : String) (s : List Char) : Leaves s (keyword? word s) := by
  unfold keyword?
  grind

theorem leaves_symbol? (c : Char) (s : List Char) : Leaves s (symbol? c s) := by
  unfold symbol?
  grind

theorem leaves_ahead? (text : String) (s : List Char) : Leaves s (ahead? text s) := by
  unfold ahead?
  grind

grind_pattern leaves_skipWord? => skipWord? s
grind_pattern leaves_keyword? => keyword? word s
grind_pattern leaves_symbol? => symbol? c s
grind_pattern leaves_ahead? => ahead? text s

theorem leaves_symbols? (text : String) (s : List Char) : Leaves s (symbols? text s) := by
  unfold symbols?
  grind

theorem leaves_closeQuote? (quote : Char) (s : List Char) : Leaves s (closeQuote? quote s) := by
  fun_induction closeQuote? quote s <;> grind

theorem leaves_closePattern? (inClass : Bool) (s : List Char) :
    Leaves s (closePattern? inClass s) := by
  fun_induction closePattern? inClass s <;> grind

grind_pattern leaves_symbols? => symbols? text s
grind_pattern leaves_closeQuote? => closeQuote? quote s
grind_pattern leaves_closePattern? => closePattern? inClass s

theorem leaves_afterPattern? (s : List Char) : Leaves s (afterPattern? s) := by
  unfold afterPattern?
  grind

theorem leaves_closeGroup? (opened : List Enclosure) (s : List Char) :
    Leaves s (closeGroup? opened s) := by
  fun_induction closeGroup? opened s <;> grind

grind_pattern leaves_afterPattern? => afterPattern? s
grind_pattern leaves_closeGroup? => closeGroup? opened s

theorem leaves_group? (s : List Char) : Leaves s (group? s) := by
  unfold group?
  grind

theorem leaves_endStatement (s : List Char) : Leaves s (endStatement s) := by
  unfold endStatement
  grind

grind_pattern leaves_group? => group? s
grind_pattern leaves_endStatement => endStatement s

/-! ### Rows and lists -/

section

variable {p : Skipper} {item : Reader α}

theorem skipMany_suffix (hp : ∀ s, Leaves s (p s)) (n : Nat) (s : List Char) :
    skipMany p n s <:+ s := by
  fun_induction skipMany p n s <;> grind

theorem skipOptional_suffix (hp : ∀ s, Leaves s (p s)) (s : List Char) :
    skipOptional p s <:+ s := by
  unfold skipOptional
  cases h : p s <;> grind

theorem leaves_skipList (hp : ∀ s, Leaves s (p s)) (close : Char) (n : Nat) (s : List Char) :
    Leaves s (skipList close p n s) := by
  fun_induction skipList close p n s <;> grind

theorem reads_readList (hitem : ∀ s, Reads s (item s)) (close : Char) (n : Nat)
    (s : List Char) : Reads s (readList close item n s) := by
  fun_induction readList close item n s <;> grind

theorem leaves_skipTemplate (hp : ∀ s, Leaves s (p s)) (n : Nat) (s : List Char) :
    Leaves s (skipTemplate p n s) := by
  have hbrace := leaves_symbol? '\x7d'
  fun_induction skipTemplate p n s <;> grind [→ Leaves.suffix_of_bind]

theorem dottedTail_suffix (n : Nat) (s : List Char) : dottedTail n s <:+ s := by
  have hword (s : List Char) : Leaves s (skipWord? (skip s)) := by grind
  fun_induction dottedTail n s <;> grind [→ Leaves.suffix_of_bind]

end

grind_pattern dottedTail_suffix => dottedTail n s
grind_pattern skipMany_suffix => skipMany p n s
grind_pattern skipOptional_suffix => skipOptional p s
grind_pattern leaves_skipList => skipList close p n s
grind_pattern reads_readList => readList close item n s
grind_pattern leaves_skipTemplate => skipTemplate p n s

/-! ### Pieces of larger constructs -/

theorem leaves_parameterModifier (s : List Char) : Leaves s (parameterModifier s) := by
  unfold parameterModifier
  grind

grind_pattern leaves_parameterModifier => parameterModifier s

theorem leaves_typeOperator (s : List Char) : Leaves s (typeOperator s) := by
  unfold typeOperator
  grind

grind_pattern leaves_typeOperator => typeOperator s

theorem leaves_unionSign (s : List Char) : Leaves s (unionSign s) := by
  unfold unionSign
  grind

grind_pattern leaves_unionSign => unionSign s

theorem leaves_memberModifier (s : List Char) : Leaves s (memberModifier s) := by
  unfold memberModifier
  grind

grind_pattern leaves_memberModifier => memberModifier s

theorem leaves_endMember (s : List Char) : Leaves s (endMember s) := by
  unfold endMember
  grind

grind_pattern leaves_endMember => endMember s

theorem leaves_afterTagWord? (s : List Char) : Leaves s (afterTagWord? s) := by
  unfold afterTagWord?
  grind

grind_pattern leaves_afterTagWord? => afterTagWord? s

theorem leaves_closeAttribute? (quote : Char) (s : List Char) :
    Leaves s (closeAttribute? quote s) := by
  fun_induction closeAttribute? quote s <;> grind

grind_pattern leaves_closeAttribute? => closeAttribute? quote s

theorem reads_firstAhead? (texts : List String) (s : List Char) :
    Reads s (firstAhead? texts s) := by
  intro p hp
  obtain ⟨text, -, htext⟩ := List.exists_of_findSome?_eq_some hp
  obtain ⟨r, hr, rfl⟩ := Option.map_eq_some_iff.1 htext
  exact leaves_ahead? text s r hr

grind_pattern reads_firstAhead? => firstAhead? texts s

theorem reads_assignment? (s : List Char) : Reads s (assignment? s) := by
  unfold assignment?
  grind

grind_pattern reads_assignment? => assignment? s

theorem reads_binaryOperator? (place : Place) (s : List Char) :
    Reads s (binaryOperator? place s) := by
  unfold binaryOperator?
  grind

grind_pattern reads_binaryOperator? => binaryOperator? place s

theorem reads_typeOperator? (place : Place) (s : List Char) : Reads s (typeOperator? place s) := by
  unfold typeOperator?
  grind

grind_pattern reads_typeOperator? => typeOperator? place s

theorem afterFragment_suffix (s : List Char) : afterFragment s <:+ s := by
  fun_induction afterFragment s <;> grind

grind_pattern afterFragment_suffix => afterFragment s

theorem reads_enumTail (s : List Char) : Reads s (enumTail s) := by
  unfold enumTail
  grind

grind_pattern reads_enumTail => enumTail s

theorem leaves_fromTail (s : List Char) : Leaves s (fromTail s) := by
  unfold fromTail
  extract_lets attributes
  have hattributes (r : List Char) : Leaves r (attributes r) := by grind
  clear_value attributes
  split
  all_goals grind

grind_pattern leaves_fromTail => fromTail s

theorem leaves_importClause (s : List Char) : Leaves s (importClause s) := by
  unfold importClause
  grind

grind_pattern leaves_importClause => importClause s

theorem leaves_label (s : List Char) : Leaves s (Grammar.control.label s) := by
  unfold Grammar.control.label
  grind

grind_pattern leaves_label => Grammar.control.label s

theorem skipFurther_suffix {item : Skipper} (hitem : ∀ s, Leaves s (item s)) (n : Nat)
    (s : List Char) : skipFurther item n s <:+ s := by
  unfold skipFurther
  grind

grind_pattern skipFurther_suffix => skipFurther item n s

end DecoratorGraph.Script
