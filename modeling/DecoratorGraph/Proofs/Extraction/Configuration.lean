import DecoratorGraph.Extraction
import DecoratorGraph.Proofs.Extraction.Verdict

/-!
# What a configuration says

Which entry an expression stands for, which list a category has, which lists a decorator gives,
and what is found in the place of one that is not there: all this is said of what is written,
without a reader. The only order in it is that several faults count as the first of them. The
verdicts then say that the configuration of a decorator is read exactly so.
-/

namespace DecoratorGraph

/-! ### Entries -/

inductive Expr.Entry : Expr → String → Prop
  | identifier (name : String) : Entry (.identifier name) name
  | member (text : String) : Entry (.member text) text
  | string (text : String) : Entry (.string text) (lastSegment text)
  | call (callee first : Expr) (others : List Expr) :
      Entry (.call callee (first :: others)) (first.literalText ++ callMark)

/-- What is found in the place of an element, if it stands for no entry. -/
inductive Expr.NoEntry : Expr → String → Prop
  | call (callee : Expr) : NoEntry (.call callee []) "call expression without arguments"
  | array (items : List Expr) : NoEntry (.array items) "array literal element"
  | object (members : List Property) : NoEntry (.object members) "object literal element"
  | other (kind text : String) : NoEntry (.other kind text) "unsupported expression element"

inductive Expr.Entries : Expr → List String → Prop
  | string (text : String) : Entries (.string text) [lastSegment text]
  | array {items : List Expr} {entries : List String} (h : List.Forall₂ Entry items entries) :
      Entries (.array items) entries

inductive Expr.NoEntries : Expr → String → Prop
  | array {items : List Expr} {found : String} (h : FirstFails Entry NoEntry items found) :
      NoEntries (.array items) found
  | shape {e : Expr} (hstring : ∀ text, e ≠ .string text) (harray : ∀ items, e ≠ .array items) :
      NoEntries e e.shape

namespace Category

def own (c : Category) (members : List Property) : List Property :=
  members.filter fun m => m.isNamed c.key

/-- The list of a category: every member of its name stands for entries, and those of the last
one count. -/
def Listed (c : Category) (members : List Property) (result : Option (List String)) : Prop :=
  ∃ lists, List.Forall₂ (fun m entries => m.value.Entries entries) (c.own members) lists ∧
    result = lists.getLast?

/-- What is found in the first member of the name of a category that stands for no entries. -/
def Unlisted (c : Category) (members : List Property) (found : String) : Prop :=
  FirstFails (fun m entries => m.value.Entries entries) (fun m found => m.value.NoEntries found)
    (c.own members) found

end Category

/-- The lists that a decorator gives: nothing under every category if it has no arguments, and
otherwise what its last argument says, which is an object. -/
inductive Annotation.Lists (a : Annotation) : Dependencies → Prop
  | nothing (h : a.arguments = []) : a.Lists .allEmpty
  | config {members : List Property} {d : Dependencies}
      (h : a.arguments.getLast? = some (.object members))
      (hlisted : ∀ c : Category, c.Listed members (d.get? c)) : a.Lists d

/-- A decorator that gives no lists, with the property that is at fault and what is found
there. -/
inductive Annotation.Misconfigured (a : Annotation) : String × String → Prop
  | argument {e : Expr} (h : a.arguments.getLast? = some e)
      (hshape : ∀ members, e ≠ .object members) :
      a.Misconfigured ("configuration argument", e.shape)
  | category {members : List Property} {fault : String × String}
      (h : a.arguments.getLast? = some (.object members))
      (hfault : FirstFails (fun c : Category => c.Listed members)
        (fun c fault => fault.1 = c.key ∧ c.Unlisted members fault.2) Category.all fault) :
      a.Misconfigured fault

/-! ### Verdicts on the reading of a configuration -/

section

variable (site : Site) (property : String)

theorem verdict_elementEntry (e : Expr) :
    Verdict e.Entry (fun err => ∃ found, e.NoEntry found ∧ err = site.malformed property found)
      (elementEntry site property e) where
  ok entry := by
    constructor
    · intro h
      unfold elementEntry at h
      split at h <;> cases h <;> constructor
    · intro h
      cases h <;> rfl
  error err := by
    constructor
    · intro h
      cases e with
      | call callee arguments =>
          cases arguments with
          | nil => exact ⟨_, .call callee, (Except.error.inj h).symm⟩
          | cons first others => cases h
      | array items => exact ⟨_, .array items, (Except.error.inj h).symm⟩
      | object members => exact ⟨_, .object members, (Except.error.inj h).symm⟩
      | other kind text => exact ⟨_, .other kind text, (Except.error.inj h).symm⟩
      | string _ => cases h
      | identifier _ => cases h
      | member _ => cases h
    · rintro ⟨found, h, rfl⟩
      cases h <;> rfl

theorem verdict_valueEntries (value : Expr) :
    Verdict value.Entries
      (fun err => ∃ found, value.NoEntries found ∧ err = site.malformed property found)
      (valueEntries site property value) := by
  have hshape (e : Expr) (hstring : ∀ text, e ≠ .string text) (harray : ∀ items, e ≠ .array items) :
      Verdict e.Entries
        (fun err => ∃ found, e.NoEntries found ∧ err = site.malformed property found)
        (.error (site.malformed property e.shape)) := by
    refine .of_error ⟨e.shape, .shape hstring harray, rfl⟩ ?_ fun entries h => ?_
    · rintro err ⟨found, h, rfl⟩
      cases h with
      | array _ => exact absurd rfl (harray _)
      | shape _ _ => rfl
    · cases h with
      | string text => exact hstring text rfl
      | array _ => exact harray _ rfl
  cases value with
  | string text =>
      refine .of_ok (.string text) (fun entries h => ?_) fun err ⟨found, h, _⟩ => ?_
      · cases h
        rfl
      · cases h with
        | shape hstring _ => exact hstring text rfl
  | array items =>
      refine (Verdict.mapM (verdict_elementEntry site property) items).congr ?_ fun err => ?_
      · exact fun entries => ⟨.array, fun | .array h => h⟩
      · rw [firstFails_report (site.malformed property)]
        refine exists_congr fun found => and_congr_left fun _ => ⟨.array, fun h => ?_⟩
        cases h with
        | array h => exact h
        | shape _ harray => exact absurd rfl (harray items)
  | _ => exact hshape _ nofun nofun

theorem verdict_entries? (c : Category) (members : List Property) :
    Verdict (c.Listed members)
      (fun err => ∃ found, c.Unlisted members found ∧ err = site.malformed c.key found)
      (c.entries? site members) :=
  ((Verdict.mapM (fun m : Property => verdict_valueEntries site c.key m.value) _).map
    List.getLast?).congr (fun _ => Iff.rfl)
      fun err => firstFails_report (site.malformed c.key) _ err

section Arguments

variable {a : Annotation} {e : Expr} {members : List Property} {d : Dependencies}
  {fault : String × String}

theorem lists_iff_of_nil (h : a.arguments = []) : a.Lists d ↔ d = .allEmpty := by
  constructor
  · rintro (_ | ⟨hconfig, -⟩)
    · rfl
    · simp [h] at hconfig
  · rintro rfl
    exact .nothing h

theorem not_misconfigured_of_nil (h : a.arguments = []) : ¬a.Misconfigured fault := by
  rintro (⟨he, -⟩ | ⟨hconfig, -⟩)
  · simp [h] at he
  · simp [h] at hconfig

theorem lists_iff_of_config (hconfig : a.arguments.getLast? = some (.object members)) :
    a.Lists d ↔ ∀ c : Category, c.Listed members (d.get? c) := by
  refine ⟨fun h => ?_, .config hconfig⟩
  cases h with
  | nothing h => simp [h] at hconfig
  | config h hlisted =>
      cases hconfig.symm.trans h
      exact hlisted

theorem misconfigured_iff_of_config (hconfig : a.arguments.getLast? = some (.object members)) :
    a.Misconfigured fault ↔ FirstFails (fun c : Category => c.Listed members)
      (fun c fault => fault.1 = c.key ∧ c.Unlisted members fault.2) Category.all fault := by
  refine ⟨fun h => ?_, .category hconfig⟩
  cases h with
  | argument h hshape =>
      cases hconfig.symm.trans h
      exact absurd rfl (hshape members)
  | category h hfault =>
      cases hconfig.symm.trans h
      exact hfault

theorem not_lists_of_argument (he : a.arguments.getLast? = some e)
    (hshape : ∀ members, e ≠ .object members) : ¬a.Lists d := by
  rintro (⟨h⟩ | ⟨h, -⟩)
  · simp [h] at he
  · cases he.symm.trans h
    exact hshape _ rfl

theorem misconfigured_iff_of_argument (he : a.arguments.getLast? = some e)
    (hshape : ∀ members, e ≠ .object members) :
    a.Misconfigured fault ↔ fault = ("configuration argument", e.shape) := by
  constructor
  · rintro (⟨h, -⟩ | ⟨h, -⟩)
    · cases he.symm.trans h
      rfl
    · cases he.symm.trans h
      exact absurd rfl (hshape _)
  · rintro rfl
    exact .argument he hshape

end Arguments

theorem verdict_dependencies (a : Annotation) :
    Verdict a.Lists
      (fun err => ∃ fault, a.Misconfigured fault ∧ err = site.malformed fault.1 fault.2)
      (a.dependencies site) := by
  unfold Annotation.dependencies Annotation.configArgument?
  split
  · rename_i hnone
    have hnil : a.arguments = [] := List.getLast?_eq_none_iff.1 hnone
    exact .of_ok ((lists_iff_of_nil hnil).2 rfl) (fun d => (lists_iff_of_nil hnil).1)
      fun err ⟨fault, h, _⟩ => not_misconfigured_of_nil hnil h
  · rename_i members hconfig
    refine ((verdict_entries? site .directives members).bind fun directives =>
      (verdict_entries? site .providers members).bind fun providers =>
        (verdict_entries? site .templateUrl members).map fun templateUrl =>
          (⟨directives, providers, templateUrl⟩ : Dependencies)).congr (fun d => ?_) fun err => ?_
    · rw [lists_iff_of_config hconfig]
      constructor
      · rintro ⟨directives, hd, providers, hp, templateUrl, ht, rfl⟩ c
        cases c with
        | directives => exact hd
        | providers => exact hp
        | templateUrl => exact ht
      · intro h
        exact ⟨_, h .directives, _, h .providers, _, h .templateUrl, rfl⟩
    · simp only [misconfigured_iff_of_config hconfig,
        ← firstFails_report fun fault : String × String => site.malformed fault.1 fault.2]
      simp [Category.all, firstFails_cons, not_firstFails_nil, and_assoc]
  · rename_i e hshape he
    refine .of_error ⟨_, .argument he hshape, rfl⟩ ?_ fun d => not_lists_of_argument he hshape
    rintro err ⟨fault, h, rfl⟩
    rw [(misconfigured_iff_of_argument he hshape).1 h]

end

end DecoratorGraph
