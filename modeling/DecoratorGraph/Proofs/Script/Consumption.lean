import DecoratorGraph.Proofs.Script.Remainders

/-!
# What grammars leave

Every reader of a grammar leaves an end of the text that it is given, if the readers of the nested
constructs do.
-/

namespace DecoratorGraph.Script

variable {α : Type}

attribute [local grind →] List.IsSuffix.trans Leaves.suffix_of_bind

/-! ### Grammars -/

/-- Every reader of a grammar leaves an end of the text that it is given. -/
structure Grammar.Consumes (g : Grammar) : Prop where
  expression (place : Place) (s : List Char) : Script.Reads s (g.expression place s)
  operand (place : Place) (s : List Char) : Script.Reads s (g.operand place s)
  type (s : List Char) : Leaves s (g.type s)
  pattern (s : List Char) : Leaves s (g.pattern s)
  statement (s : List Char) : Script.Reads s (g.statement s)
  element (s : List Char) : Script.Reads s (g.element s)

grind_pattern Grammar.Consumes.expression => g.expression place s
grind_pattern Grammar.Consumes.operand => g.operand place s
grind_pattern Grammar.Consumes.type => g.type s
grind_pattern Grammar.Consumes.pattern => g.pattern s
grind_pattern Grammar.Consumes.statement => g.statement s
grind_pattern Grammar.Consumes.element => g.element s

section

variable {g : Grammar} (hg : g.Consumes)

include hg

theorem leaves_commaTail (place : Place) (n : Nat) (s : List Char) :
    Leaves s (g.commaTail place n s) := by
  fun_induction Grammar.commaTail g place n s <;> grind

theorem reads_sequence (place : Place) (s : List Char) :
    Reads s (g.sequence place s) := by
  have hcommaTail := leaves_commaTail hg
  unfold Grammar.sequence
  grind

theorem leaves_skipSequence (s : List Char) : Leaves s (g.skipSequence s) := by
  have hsequence := reads_sequence hg
  unfold Grammar.skipSequence
  grind

theorem leaves_blockTail (n : Nat) (s : List Char) : Leaves s (g.blockTail n s) := by
  fun_induction Grammar.blockTail g n s <;> grind

theorem leaves_block (s : List Char) : Leaves s (g.block s) := by
  have hblockTail := leaves_blockTail hg
  unfold Grammar.block
  grind

theorem leaves_condition (s : List Char) : Leaves s (g.condition s) := by
  have hskipSequence := leaves_skipSequence hg
  unfold Grammar.condition
  grind

/-! ### Patterns and signatures -/

theorem leaves_key (s : List Char) : Leaves s (g.key s) := by
  have hskipSequence := leaves_skipSequence hg
  unfold Grammar.key
  grind

theorem leaves_initializer (place : Place) (s : List Char) : Leaves s (g.initializer place s) := by
  unfold Grammar.initializer
  grind

theorem leaves_patternItem (s : List Char) : Leaves s (g.patternItem s) := by
  have hinitializer := leaves_initializer hg
  unfold Grammar.patternItem
  grind

theorem leaves_patternMember (s : List Char) : Leaves s (g.patternMember s) := by
  have hkey := leaves_key hg
  have hinitializer := leaves_initializer hg
  unfold Grammar.patternMember
  grind

theorem leaves_readPattern (s : List Char) : Leaves s (g.readPattern s) := by
  have hpatternMember := leaves_patternMember hg
  have hpatternItem := leaves_patternItem hg
  unfold Grammar.readPattern
  grind

theorem leaves_typeAfterColon (s : List Char) : Leaves s (g.annotation s) := by
  unfold Grammar.annotation
  grind

theorem leaves_skipArguments (s : List Char) : Leaves s (g.skipArguments s) := by
  unfold Grammar.skipArguments
  grind

theorem leaves_typeArguments (s : List Char) : Leaves s (g.typeArguments s) := by
  unfold Grammar.typeArguments
  grind

theorem leaves_skipDecorator (s : List Char) : Leaves s (g.skipDecorator s) := by
  have hskipSequence := leaves_skipSequence hg
  have hskipArguments := leaves_skipArguments hg
  have htypeArguments := leaves_typeArguments hg
  unfold Grammar.skipDecorator
  grind

theorem leaves_parameter (s : List Char) : Leaves s (g.parameter s) := by
  have hskipDecorator := leaves_skipDecorator hg
  have hannotation := leaves_typeAfterColon hg
  have hinitializer := leaves_initializer hg
  unfold Grammar.parameter
  grind

theorem leaves_parameters (s : List Char) : Leaves s (g.parameters s) := by
  have hparameter := leaves_parameter hg
  unfold Grammar.parameters
  grind

theorem leaves_typeParameter (s : List Char) : Leaves s (g.typeParameter s) := by
  unfold Grammar.typeParameter
  extract_lets modifier default
  have hmodifier (s : List Char) : Leaves s (modifier s) := by grind
  have hdefault (r : List Char) : Leaves r (default r) := by grind
  clear_value modifier default
  grind

theorem leaves_typeParameters (s : List Char) : Leaves s (g.typeParameters s) := by
  have htypeParameter := leaves_typeParameter hg
  unfold Grammar.typeParameters
  grind

theorem leaves_signature (s : List Char) : Leaves s (g.signature s) := by
  have hparameters := leaves_parameters hg
  have htypeParameters := leaves_typeParameters hg
  have hannotation := leaves_typeAfterColon hg
  unfold Grammar.signature
  grind

/-! ### Types -/

theorem leaves_tupleItem (s : List Char) : Leaves s (g.tupleItem s) := by
  unfold Grammar.tupleItem
  grind

theorem leaves_functionType (s : List Char) : Leaves s (g.functionType s) := by
  have hparameters := leaves_parameters hg
  have htypeParameters := leaves_typeParameters hg
  unfold Grammar.functionType
  grind

theorem leaves_typeReference (s : List Char) : Leaves s (g.typeReference s) := by
  have htypeArguments := leaves_typeArguments hg
  unfold Grammar.typeReference
  grind

theorem leaves_typeQuery (s : List Char) : Leaves s (g.typeQuery s) := by
  have htypeArguments := leaves_typeArguments hg
  unfold Grammar.typeQuery
  extract_lets step
  have hstep (s : List Char) : Leaves s (step s) := by grind
  clear_value step
  grind

theorem leaves_primaryType (s : List Char) : Leaves s (g.primaryType s) := by
  have hfunctionType := leaves_functionType hg
  have htupleItem := leaves_tupleItem hg
  have htypeReference := leaves_typeReference hg
  have htypeQuery := leaves_typeQuery hg
  have htypeArguments := leaves_typeArguments hg
  unfold Grammar.primaryType
  split
  · grind
  iterate 9 refine yields_ite (fun _ => by grind) fun _ => ?_
  grind

theorem leaves_typeSuffix (s : List Char) : Leaves s (g.typeSuffix s) := by
  unfold Grammar.typeSuffix
  grind

omit hg in
theorem leaves_inferredType {constraint : Skipper} (hc : ∀ s, Leaves s (constraint s))
    (s : List Char) : Leaves s (g.inferredType constraint s) := by
  unfold Grammar.inferredType
  grind

theorem leaves_typeOperand (s : List Char) : Leaves s (g.typeOperand s) := by
  have hinferredType := @leaves_inferredType g
  have hprimaryType := leaves_primaryType hg
  have htypeSuffix := leaves_typeSuffix hg
  unfold Grammar.typeOperand
  grind

theorem leaves_unionType (s : List Char) : Leaves s (g.unionType s) := by
  have htypeOperand := leaves_typeOperand hg
  unfold Grammar.unionType
  grind

theorem leaves_readType (s : List Char) : Leaves s (g.readType s) := by
  have hunionType := leaves_unionType hg
  unfold Grammar.readType
  extract_lets asserted s' subject
  have hs' : s' <:+ s := by grind
  have hsubject : Leaves s' subject := by grind
  clear_value s' subject
  split
  · grind
  refine yields_bind fun r hr => ?_
  split
  · grind
  extract_lets conditional
  have hconditional : Leaves s conditional :=
    yields_bind fun r hr => yields_bind fun r hr => yields_bind fun r hr => by grind
  clear_value conditional
  cases conditional
  all_goals grind

/-! ### Classes -/

theorem leaves_indexParameter (s : List Char) : Leaves s (g.indexParameter s) := by
  unfold Grammar.indexParameter
  refine yields_bind fun opened hopened => yields_bind fun named hnamed => ?_
  grind

theorem leaves_member (s : List Char) : Leaves s (g.member s) := by
  have hskipDecorator := leaves_skipDecorator hg
  have hblock := leaves_block hg
  have hindexParameter := leaves_indexParameter hg
  have hannotation := leaves_typeAfterColon hg
  have hkey := leaves_key hg
  have hsignature := leaves_signature hg
  have hinitializer := leaves_initializer hg
  unfold Grammar.member
  split
  · grind
  split
  · grind
  split
  · grind
  extract_lets s'
  have hs' : s' <:+ s := by grind
  clear_value s'
  split
  · grind
  refine yields_bind fun keyed hkeyed => ?_
  grind

theorem leaves_membersTail (n : Nat) (s : List Char) : Leaves s (g.membersTail n s) := by
  have hmember := leaves_member hg
  fun_induction Grammar.membersTail g n s <;> grind

theorem leaves_heritage (s : List Char) : Leaves s (g.heritage s) := by
  have htypeArguments := leaves_typeArguments hg
  unfold Grammar.heritage
  extract_lets base interfaces
  have hbase (s : List Char) : Leaves s (base s) := by grind
  have hinterfaces (r : List Char) : Leaves r (interfaces r) := by grind
  clear_value base interfaces
  grind

theorem reads_classTail (s : List Char) : Reads s (g.classTail s) := by
  have hheritage := leaves_heritage hg
  have htypeParameters := leaves_typeParameters hg
  have hmembersTail := leaves_membersTail hg
  unfold Grammar.classTail
  grind

/-! ### Markup -/

omit hg in
theorem leaves_tagName (s : List Char) : Leaves s (g.tagName s) := by
  unfold Grammar.tagName
  grind

theorem leaves_embedded (s : List Char) : Leaves s (g.embedded s) := by
  have hskipSequence := leaves_skipSequence hg
  unfold Grammar.embedded
  grind

theorem leaves_attribute (s : List Char) : Leaves s (g.attribute s) := by
  have hembedded := leaves_embedded hg
  have htagName := @leaves_tagName g
  unfold Grammar.attribute
  split
  · grind
  refine yields_bind fun named hnamed => ?_
  split
  · grind
  split
  all_goals grind

theorem leaves_contents (n : Nat) (s : List Char) : Leaves s (g.contents n s) := by
  have htagName := @leaves_tagName g
  have hembedded := leaves_embedded hg
  fun_induction Grammar.contents g n s <;> grind

theorem reads_readElement (s : List Char) : Reads s (g.readElement s) := by
  have htagName := @leaves_tagName g
  have hattribute := leaves_attribute hg
  have hcontents := leaves_contents hg
  unfold Grammar.readElement
  refine yields_bind fun opened hopened => ?_
  extract_lets head r
  have hhead (s : List Char) : Leaves s (head s) := by grind
  have hr : r <:+ s := by grind
  clear_value r
  split
  · grind
  refine yields_bind fun contents hcontents => ?_
  grind

/-! ### Expressions -/

theorem reads_argument (s : List Char) : Reads s (g.argument s) := by
  unfold Grammar.argument
  grind

theorem reads_arguments (s : List Char) : Reads s (g.arguments s) := by
  have hargument := reads_argument hg
  unfold Grammar.arguments
  grind

theorem reads_pair (s : List Char) : Reads s (g.pair s) := by
  have hkey := leaves_key hg
  unfold Grammar.pair
  grind

theorem reads_method (s : List Char) : Reads s (g.method s) := by
  have hkey := leaves_key hg
  have hsignature := leaves_signature hg
  have hblock := leaves_block hg
  unfold Grammar.method
  grind

theorem reads_shorthand (s : List Char) : Reads s (g.shorthand s) := by
  unfold Grammar.shorthand
  grind

theorem reads_property (s : List Char) : Reads s (g.property s) := by
  have hpair := reads_pair hg
  have hmethod := reads_method hg
  have hshorthand := reads_shorthand hg
  unfold Grammar.property
  grind

theorem reads_templateParts (n : Nat) (s : List Char) : Reads s (g.templateParts n s) := by
  have hsequence := reads_sequence hg
  fun_induction Grammar.templateParts g n s
  all_goals grind [→ Option.bind_eq_some_iff.1]

theorem reads_template (start : List Char) (r : List Char) : Reads r (g.template start r) := by
  have hskipSequence := leaves_skipSequence hg
  unfold Grammar.template
  grind

theorem reads_functionTail (start : List Char) (r : List Char) :
    Reads r (g.functionTail start r) := by
  have hsignature := leaves_signature hg
  have hblock := leaves_block hg
  unfold Grammar.functionTail
  grind

theorem leaves_arrowTail (place : Place) (s : List Char) : Leaves s (g.arrowTail place s) := by
  have hblock := leaves_block hg
  unfold Grammar.arrowTail
  grind

theorem leaves_arrowHead (place : Place) (s : List Char) : Leaves s (g.arrowHead place s) := by
  have hparameters := leaves_parameters hg
  have htypeParameters := leaves_typeParameters hg
  have hsignature := leaves_signature hg
  unfold Grammar.arrowHead
  grind

theorem reads_arrow (place : Place) (s : List Char) : Reads s (g.arrow place s) := by
  have harrowHead := leaves_arrowHead hg
  have harrowTail := leaves_arrowTail hg
  unfold Grammar.arrow
  grind

theorem reads_classExpression (start : List Char) (r : List Char) :
    Reads r (g.classExpression start r) := by
  have hclassTail := reads_classTail hg
  unfold Grammar.classExpression
  grind

theorem leaves_ownTypeArguments (s : List Char) : Leaves s (g.ownTypeArguments s) := by
  have htypeArguments := leaves_typeArguments hg
  unfold Grammar.ownTypeArguments
  grind

theorem reads_selection (start : List Char) (s : List Char) : Reads s (g.selection start s) := by
  have hsequence := reads_sequence hg
  unfold Grammar.selection
  grind

theorem reads_optionalSelection (start : List Char) (e : Expr) (s : List Char) :
    Reads s (g.optionalSelection start e s) := by
  have hselection := reads_selection hg
  have harguments := reads_arguments hg
  have htypeArguments := leaves_typeArguments hg
  unfold Grammar.optionalSelection
  grind

theorem reads_suffix (start : List Char) (e : Expr) (s : List Char) :
    Reads s (g.suffix start e s) := by
  have harguments := reads_arguments hg
  have hselection := reads_selection hg
  have htemplateParts := reads_templateParts hg
  have hoptionalSelection := reads_optionalSelection hg
  have hownTypeArguments := leaves_ownTypeArguments hg
  unfold Grammar.suffix
  grind

theorem suffixes_suffix (start : List Char) (n : Nat) (e : Expr) (s : List Char) :
    (g.suffixes start n e s).2 <:+ s := by
  have hreads := reads_suffix hg
  fun_induction Grammar.suffixes g start n e s <;> grind

theorem selections_suffix (start : List Char) (n : Nat) (e : Expr) (s : List Char) :
    (g.selections start n e s).2 <:+ s := by
  have hselection := reads_selection hg
  fun_induction Grammar.selections g start n e s <;> grind

theorem reads_namespaceTail (start : List Char) (r : List Char) :
    Reads r (g.namespaceTail start r) := by
  have hblock := leaves_block hg
  unfold Grammar.namespaceTail
  grind

theorem reads_wordExpression (start : List Char) (w : String) (r : List Char) :
    Reads r (g.wordExpression start w r) := by
  have hfunctionTail := reads_functionTail hg
  have hclassExpression := reads_classExpression hg
  have hnamespaceTail := reads_namespaceTail hg
  unfold Grammar.wordExpression
  grind

theorem reads_atom (s : List Char) : Reads s (g.atom s) := by
  have hargument := reads_argument hg
  have hproperty := reads_property hg
  have hsequence := reads_sequence hg
  have htemplate := reads_template hg
  have hskipDecorator := leaves_skipDecorator hg
  have hclassExpression := reads_classExpression hg
  have hwordExpression := reads_wordExpression hg
  unfold Grammar.atom
  split
  · grind
  extract_lets start
  iterate 3 refine yields_ite (fun _ => by grind) fun _ => ?_
  refine yields_ite (fun _ => yields_bind fun e he => by grind) fun _ => ?_
  iterate 5 refine yields_ite (fun _ => by grind) fun _ => ?_
  grind

theorem reads_newTail (start : List Char) (n : Nat) (s : List Char) :
    Reads s (g.newTail start n s) := by
  have hatom := reads_atom hg
  have hselections := selections_suffix hg
  have htypeArguments := leaves_typeArguments hg
  have harguments := reads_arguments hg
  induction n generalizing start s with
  | zero => exact yields_none
  | succ n ih =>
    unfold Grammar.newTail
    split
    · grind
    extract_lets inner
    have hinner : Reads s inner := by
      cases hnew : keyword? "new" s with
      | none => simpa only [inner, hnew] using hatom s
      | some r => simpa only [inner, hnew] using (ih _ r).mono (leaves_keyword? _ _ r hnew)
    clear_value inner
    split
    all_goals grind

theorem reads_primary (s : List Char) : Reads s (g.primary s) := by
  have hnewTail := reads_newTail hg
  have hatom := reads_atom hg
  unfold Grammar.primary
  grind

theorem awaitTail_suffix (place : Place) (start : List Char) (n : Nat) (s : List Char) :
    g.awaitTail place start n s <:+ s := by
  have hselection := reads_selection hg
  have hsuffixes := suffixes_suffix hg
  fun_induction Grammar.awaitTail g place start n s <;> grind

theorem reads_prefixed (place : Place) (kind : String) (start : List Char) (r : List Char) :
    Reads r (g.prefixed place kind start r) := by
  unfold Grammar.prefixed
  grind

theorem reads_typeAssertion (place : Place) (s : List Char) :
    Reads s (g.typeAssertion place s) := by
  have hprefixed := reads_prefixed hg
  unfold Grammar.typeAssertion
  grind

theorem reads_readOperand (place : Place) (s : List Char) : Reads s (g.readOperand place s) := by
  have hprefixed := reads_prefixed hg
  have htypeAssertion := reads_typeAssertion hg
  have hsuffixes := suffixes_suffix hg
  have hawaitTail := awaitTail_suffix hg
  have hprimary := reads_primary hg
  unfold Grammar.readOperand
  split
  · grind
  extract_lets start element
  have helement : Reads start element := by grind
  clear_value element
  iterate 3 refine yields_ite (fun _ => by grind) fun _ => ?_
  split
  all_goals grind

theorem chainTail_suffix (place : Place) (start : List Char) (n : Nat) (power : Bool) (e : Expr)
    (s : List Char) : (g.chainTail place start n power e s).2 <:+ s := by
  have hselection := reads_selection hg
  have hsuffixes := suffixes_suffix hg
  fun_induction Grammar.chainTail g place start n power e s <;> grind

theorem reads_chain (place : Place) (s : List Char) : Reads s (g.chain place s) := by
  have hreadOperand := reads_readOperand hg
  have hchainTail := chainTail_suffix hg
  unfold Grammar.chain
  grind

theorem leaves_branches (place : Place) (s : List Char) : Leaves s (g.branches place s) := by
  unfold Grammar.branches
  extract_lets first second
  have hfirst (b : Bool) : Leaves s (first b) := by grind
  have hsecond (r : List Char) : Leaves r (second r) := by grind
  clear_value first second
  grind

theorem reads_assignment (place : Place) (s : List Char) : Reads s (g.assignment place s) := by
  have hchain := reads_chain hg
  have hbranches := leaves_branches hg
  unfold Grammar.assignment
  refine yields_bind fun p hp => ?_
  split
  all_goals grind

theorem leaves_yieldTail (place : Place) (s : List Char) : Leaves s (g.yieldTail place s) := by
  unfold Grammar.yieldTail
  grind

theorem reads_readExpression (place : Place) (s : List Char) :
    Reads s (g.readExpression place s) := by
  have harrow := reads_arrow hg
  have hyieldTail := leaves_yieldTail hg
  have hassignment := reads_assignment hg
  unfold Grammar.readExpression
  grind

/-! ### Statements -/

theorem reads_decorator (s : List Char) : Reads s (g.decorator s) := by
  have hskipSequence := leaves_skipSequence hg
  have harguments := reads_arguments hg
  have htypeArguments := leaves_typeArguments hg
  unfold Grammar.decorator
  extract_lets start
  refine yields_bind fun r hr => ?_
  split
  · grind
  refine yields_bind fun p hp => ?_
  grind

theorem decorators_suffix (n : Nat) (s : List Char) : (g.decorators n s).2 <:+ s := by
  have hdecorator := reads_decorator hg
  fun_induction Grammar.decorators g n s <;> grind

theorem leaves_variableRest (place : Place) (s : List Char) :
    Leaves s (g.variableRest place s) := by
  have hannotation := leaves_typeAfterColon hg
  have hinitializer := leaves_initializer hg
  unfold Grammar.variableRest
  grind

theorem reads_variables (place : Place) (s : List Char) : Reads s (g.variables place s) := by
  have hvariableRest := leaves_variableRest hg
  unfold Grammar.variables
  grind

theorem reads_variableTail (s : List Char) : Reads s (g.variableTail s) := by
  have hvariables := reads_variables hg
  unfold Grammar.variableTail
  grind

theorem reads_functionDeclaration (s : List Char) : Reads s (g.functionDeclaration s) := by
  have hsignature := leaves_signature hg
  have hblock := leaves_block hg
  unfold Grammar.functionDeclaration
  grind

theorem reads_classDeclaration (s : List Char) : Reads s (g.classDeclaration s) := by
  have hclassTail := reads_classTail hg
  unfold Grammar.classDeclaration
  grind

theorem reads_interfaceTail (s : List Char) : Reads s (g.interfaceTail s) := by
  have htypeParameters := leaves_typeParameters hg
  unfold Grammar.interfaceTail
  refine yields_bind fun p hp => ?_
  split
  next name r =>
    extract_lets parametrised body
    have hbody (r : List Char) : Reads r (body r) := by grind
    have hparametrised : parametrised <:+ s := by grind
    clear_value parametrised body
    grind

theorem reads_typeAlias (s : List Char) : Reads s (g.typeAlias s) := by
  have htypeParameters := leaves_typeParameters hg
  unfold Grammar.typeAlias
  refine yields_ite (fun _ => by grind) fun _ => yields_bind fun p hp => yields_bind fun r hr => ?_
  grind

theorem reads_moduleTail (s : List Char) : Reads s (g.moduleTail s) := by
  have hblock := leaves_block hg
  unfold Grammar.moduleTail
  grind

theorem leaves_importTail (s : List Char) : Leaves s (g.importTail s) := by
  have hskipSequence := leaves_skipSequence hg
  unfold Grammar.importTail
  extract_lets source named typed
  have hsource (r : List Char) : Leaves r (source r) := by grind
  clear_value source
  have hnamed (s : List Char) : Leaves s (named s) := by
    refine yields_bind fun r hr => ?_
    split
    all_goals grind
  clear_value named
  grind

theorem reads_ambient (r : List Char) : Reads r (Grammar.declaration.ambient g r) := by
  have hmoduleTail := reads_moduleTail hg
  have hblock := leaves_block hg
  unfold Grammar.declaration.ambient
  extract_lets plain annotated
  have hannotated (r : List Char) : Leaves r (annotated r) := by grind
  clear_value annotated
  split
  · grind
  refine yields_bind fun p hp => ?_
  split
  next w r' =>
    iterate 2 refine yields_ite (fun _ => by grind) fun _ => ?_
    extract_lets property
    have hproperty : Leaves r property := by grind
    clear_value property
    grind

theorem reads_declaration (w : String) (r : List Char) : Reads r (g.declaration w r) := by
  have hvariableTail := reads_variableTail hg
  have hfunctionDeclaration := reads_functionDeclaration hg
  have hclassDeclaration := reads_classDeclaration hg
  have hinterfaceTail := reads_interfaceTail hg
  have htypeAlias := reads_typeAlias hg
  have hmoduleTail := reads_moduleTail hg
  have himportTail := leaves_importTail hg
  have hambient := reads_ambient hg
  unfold Grammar.declaration
  grind

theorem leaves_exportClause (s : List Char) : Leaves s (g.exportClause s) := by
  have hskipSequence := leaves_skipSequence hg
  unfold Grammar.exportClause
  split
  next r hr =>
    have hnamed (r : List Char) : (skipWord? (skip r)).getD ((fromTail r).getD r) <:+ r := by
      cases h : skipWord? (skip r)
      all_goals grind
    refine Leaves.bind ?_ leaves_fromTail
    grind
  all_goals grind

theorem reads_exportedValue (s : List Char) : Reads s (g.exportedValue s) := by
  unfold Grammar.exportedValue
  grind

theorem reads_decorated (s : List Char) : Reads s (g.decorated s) := by
  have hdecorators := decorators_suffix hg
  have hmoduleTail := reads_moduleTail hg
  have hdeclaration := reads_declaration hg
  unfold Grammar.decorated
  grind

theorem reads_exportTail (annotations : List Annotation) (s : List Char) :
    Reads s (g.exportTail annotations s) := by
  have hdecorated := reads_decorated hg
  have hexportedValue := reads_exportedValue hg
  have hexportClause := leaves_exportClause hg
  unfold Grammar.exportTail
  extract_lets exported plain
  have hexported (t : List Char) (inner : Option (Statement × List Char)) (h : Reads t inner) :
      Reads t (exported inner) := by grind
  have hplain (rest : Option (List Char)) (h : Leaves s rest) : Reads s (plain rest) := by grind
  clear_value exported plain
  split
  · split
    all_goals grind
  split
  · grind
  split
  · grind
  split
  all_goals grind

theorem leaves_skipStatement (s : List Char) : Leaves s (g.skipStatement s) := by
  unfold Grammar.skipStatement
  grind

theorem leaves_loopHead (s : List Char) : Leaves s (g.loopHead s) := by
  have hvariables := reads_variables hg
  have hsequence := reads_sequence hg
  have hskipSequence := leaves_skipSequence hg
  unfold Grammar.loopHead
  extract_lets place declared start range
  have hdeclared : Leaves s declared := by grind
  have hstart : start <:+ s := by grind
  have hrange : Leaves start range := by grind
  clear_value declared start range
  split
  · grind
  refine yields_bind fun r hr => ?_
  grind

theorem leaves_switchTail (n : Nat) (s : List Char) : Leaves s (g.switchTail n s) := by
  have hskipSequence := leaves_skipSequence hg
  have hskipStatement := leaves_skipStatement hg
  fun_induction Grammar.switchTail g n s
  all_goals grind

theorem leaves_handlers (s : List Char) : Leaves s (g.handlers s) := by
  have hannotation := leaves_typeAfterColon hg
  have hblock := leaves_block hg
  unfold Grammar.handlers
  extract_lets last parameter
  have hlast (r : List Char) : Leaves r (last r) := by grind
  have hparameter (s : List Char) : Leaves s (parameter s) := by grind
  clear_value last parameter
  grind

theorem leaves_optionalValue (s : List Char) : Leaves s (g.optionalValue s) := by
  have hsequence := reads_sequence hg
  unfold Grammar.optionalValue
  grind

theorem leaves_control (w : String) (r : List Char) : Leaves r (g.control w r) := by
  have hcondition := leaves_condition hg
  have hskipStatement := leaves_skipStatement hg
  have hloopHead := leaves_loopHead hg
  have hswitchTail := leaves_switchTail hg
  have hblock := leaves_block hg
  have hhandlers := leaves_handlers hg
  have hoptionalValue := leaves_optionalValue hg
  have hsequence := reads_sequence hg
  unfold Grammar.control
  have hloop : Leaves r
      ((g.skipStatement r).bind fun r => (keyword? "while" r).bind g.condition) := by grind
  split
  all_goals grind

theorem reads_expressionStatement (s : List Char) : Reads s (g.expressionStatement s) := by
  have hsequence := reads_sequence hg
  unfold Grammar.expressionStatement
  grind

theorem reads_decoratedStatement (s : List Char) : Reads s (g.decoratedStatement s) := by
  have hdecorators := decorators_suffix hg
  have hexportTail := reads_exportTail hg
  have hdecorated := reads_decorated hg
  have hexpressionStatement := reads_expressionStatement hg
  unfold Grammar.decoratedStatement
  grind

theorem reads_wordStatement (start : List Char) (w : String) (r : List Char) (hr : r <:+ start) :
    Reads start (g.wordStatement start w r) := by
  have hexportTail := reads_exportTail hg
  have hdeclaration := reads_declaration hg
  have hcontrol := leaves_control hg
  have hskipStatement := leaves_skipStatement hg
  have hexpressionStatement := reads_expressionStatement hg
  unfold Grammar.wordStatement
  grind

theorem reads_readStatement (s : List Char) : Reads s (g.readStatement s) := by
  have hblock := leaves_block hg
  have hdecoratedStatement := reads_decoratedStatement hg
  have hwordStatement := @reads_wordStatement g hg
  have hexpressionStatement := reads_expressionStatement hg
  unfold Grammar.readStatement
  grind

end

grind_pattern leaves_commaTail => g.commaTail place n s
grind_pattern reads_sequence => g.sequence place s
grind_pattern leaves_skipSequence => g.skipSequence s
grind_pattern leaves_block => g.block s
grind_pattern leaves_typeAfterColon => g.annotation s
grind_pattern leaves_typeArguments => g.typeArguments s
grind_pattern leaves_skipDecorator => g.skipDecorator s
grind_pattern leaves_parameter => g.parameter s
grind_pattern leaves_typeParameter => g.typeParameter s
grind_pattern leaves_signature => g.signature s
grind_pattern reads_classTail => g.classTail s
grind_pattern leaves_tagName => g.tagName s
grind_pattern leaves_attribute => g.attribute s
grind_pattern leaves_contents => g.contents n s
grind_pattern reads_argument => g.argument s
grind_pattern reads_templateParts => g.templateParts n s
grind_pattern leaves_arrowTail => g.arrowTail place s
grind_pattern leaves_arrowHead => g.arrowHead place s
grind_pattern awaitTail_suffix => g.awaitTail place start n s
grind_pattern leaves_branches => g.branches place s
grind_pattern leaves_yieldTail => g.yieldTail place s
grind_pattern decorators_suffix => g.decorators n s

/-! ### Levels -/

theorem consumes_deeper {g : Grammar} (hg : g.Consumes) : g.deeper.Consumes where
  expression := reads_readExpression hg
  operand := reads_readOperand hg
  type := leaves_readType hg
  pattern := leaves_readPattern hg
  statement := reads_readStatement hg
  element := reads_readElement hg

theorem consumes_ofDepth (dialect : Dialect) (line : List Char → Nat) (n : Nat) :
    (Grammar.ofDepth dialect line n).Consumes := by
  induction n with
  | zero => constructor <;> simp [Grammar.ofDepth, Grammar.empty, yields_none, yields_none]
  | succ n ih => exact consumes_deeper ih

end DecoratorGraph.Script
