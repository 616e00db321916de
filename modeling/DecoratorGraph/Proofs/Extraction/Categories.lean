import DecoratorGraph.Proofs.Extraction.Configuration
import DecoratorGraph.Proofs.Text.Pieces

/-!
# The list of a category

What the members of a configuration say under one category, spelled out: which values stand for
entries (`Expr.IsListing`), which member counts and which entries it gives, and which member is at
fault if there is no list. `Category.Normalizes` puts this together; members of other names have no
part in it.
-/

namespace DecoratorGraph

/-! ### Values that stand for entries -/

namespace Expr

/-- An element that stands for an entry: a reference, a string, or a call with an argument. -/
def IsElement : Expr → Prop
  | .identifier _ | .member _ | .string _ => True
  | .call _ arguments => arguments ≠ []
  | .array _ | .object _ | .other _ _ => False

def IsListing : Expr → Prop
  | .string _ => True
  | .array items => ∀ e ∈ items, e.IsElement
  | _ => False

theorem exists_entry_iff (e : Expr) : (∃ entry, e.Entry entry) ↔ e.IsElement := by
  constructor
  · rintro ⟨entry, h⟩
    cases h <;> simp [IsElement]
  · intro h
    match e, h with
    | .identifier name, _ => exact ⟨_, .identifier name⟩
    | .member text, _ => exact ⟨_, .member text⟩
    | .string text, _ => exact ⟨_, .string text⟩
    | .call callee (first :: others), _ => exact ⟨_, .call callee first others⟩

theorem exists_entries_iff (e : Expr) : (∃ entries, e.Entries entries) ↔ e.IsListing := by
  constructor
  · rintro ⟨entries, h⟩
    cases h with
    | string text => trivial
    | array h => exact fun e he => e.exists_entry_iff.1 (exists_forall₂_iff.1 ⟨entries, h⟩ e he)
  · intro h
    match e, h with
    | .string text, _ => exact ⟨_, .string text⟩
    | .array items, h =>
        obtain ⟨entries, hentries⟩ :=
          exists_forall₂_iff.2 fun e he => (exists_entry_iff e).2 (h e he)
        exact ⟨entries, .array hentries⟩

end Expr

/-- A value stands for at most one list. -/
theorem Expr.Entries.unique {e : Expr} {entries entries' : List String} (h : e.Entries entries)
    (h' : e.Entries entries') : entries = entries' := by
  have hverdict := verdict_valueEntries ⟨⟨""⟩, ""⟩ "" e
  exact Except.ok.inj (((hverdict.ok entries).2 h).symm.trans ((hverdict.ok entries').2 h'))

/-- The last members of related lists are related. -/
theorem exists_getLast?_of_forall₂ {α β : Type} {R : α → β → Prop} {as : List α} {bs : List β}
    {a : α} (h : List.Forall₂ R as bs) (ha : as.getLast? = some a) :
    ∃ b, bs.getLast? = some b ∧ R a b := by
  have hreverse := List.rel_reverse h
  rw [List.getLast?_eq_head?_reverse] at ha ⊢
  obtain ⟨l, hl⟩ := List.head?_eq_some_iff.1 ha
  rw [hl, List.forall₂_cons_left_iff] at hreverse
  obtain ⟨b, l', hb, -, hbs⟩ := hreverse
  exact ⟨b, by rw [hbs, List.head?_cons], hb⟩

/-- What is left of a text behind its last slash, or the whole text. -/
def IsLastSegment (text segment : String) : Prop :=
  '/' ∉ segment.toList ∧ (text = segment ∨ ∃ before, text = before ++ "/" ++ segment)

theorem isLastSegment_lastSegment (text : String) : IsLastSegment text (lastSegment text) := by
  refine ⟨?_, ?_⟩
  · rw [lastSegment, String.toList_ofList]
    exact Text.not_mem_afterLast '/' text.toList
  · by_cases hslash : '/' ∈ text.toList
    · obtain ⟨before, hbefore⟩ := Text.exists_eq_append_afterLast hslash
      refine Or.inr ⟨String.ofList before, String.toList_inj.1 ?_⟩
      rw [lastSegment]
      simpa using hbefore
    · rw [lastSegment, Text.afterLast_of_not_mem hslash, String.ofList_toList]
      exact Or.inl rfl

/-! ### Members of a category -/

namespace Category

variable (c : Category) (members : List Property)

theorem mem_own {m : Property} : m ∈ c.own members ↔ m ∈ members ∧ m.name = some c.key := by
  simp [own, Property.isNamed]

theorem own_eq_nil_iff : c.own members = [] ↔ ∀ m ∈ members, m.name ≠ some c.key := by
  simp [own, Property.isNamed]

/-- The last member of the name of a category, wherever it stands. -/
theorem getLast?_own_eq_some_iff {m : Property} :
    (c.own members).getLast? = some m ↔
      ∃ before after, members = before ++ m :: after ∧ m.name = some c.key ∧
        ∀ other ∈ after, other.name ≠ some c.key := by
  rw [List.getLast?_eq_some_iff]
  simp only [own, List.filter_eq_append_iff, List.filter_eq_cons_iff]
  constructor
  · rintro ⟨_, l, _, rfl, -, before, after, rfl, -, hm, hafter⟩
    exact ⟨l ++ before, after, by simp, by simpa [Property.isNamed] using hm,
      (own_eq_nil_iff c after).1 hafter⟩
  · rintro ⟨before, after, rfl, hm, hafter⟩
    exact ⟨_, before, m :: after, rfl, rfl, [], after, rfl, by simp,
      by simpa [Property.isNamed] using hm, (own_eq_nil_iff c after).2 hafter⟩

theorem exists_listed_iff :
    (∃ result, c.Listed members result) ↔
      ∀ m ∈ members, m.name = some c.key → m.value.IsListing := by
  have hlists : (∃ result, c.Listed members result) ↔
      ∃ lists, List.Forall₂ (fun m entries => m.value.Entries entries) (c.own members) lists := by
    constructor
    · rintro ⟨_, lists, hlists, rfl⟩
      exact ⟨lists, hlists⟩
    · rintro ⟨lists, hlists⟩
      exact ⟨_, lists, hlists, rfl⟩
  simp only [hlists, exists_forall₂_iff, Expr.exists_entries_iff, mem_own, and_imp]

theorem listed_none_iff : c.Listed members none ↔ ∀ m ∈ members, m.name ≠ some c.key := by
  rw [← own_eq_nil_iff]
  constructor
  · rintro ⟨lists, hlists, hlast⟩
    rw [List.getLast?_eq_none_iff.1 hlast.symm] at hlists
    exact List.forall₂_nil_right_iff.1 hlists
  · intro h
    exact ⟨[], by rw [h]; exact .nil, rfl⟩

theorem listed_some_iff {entries : List String} :
    c.Listed members (some entries) ↔
      (∀ m ∈ members, m.name = some c.key → m.value.IsListing) ∧
        ∃ before m after, members = before ++ m :: after ∧ m.name = some c.key ∧
          (∀ other ∈ after, other.name ≠ some c.key) ∧ m.value.Entries entries := by
  constructor
  · rintro ⟨lists, hlists, hlast⟩
    obtain ⟨m, hm, hentries⟩ := exists_getLast?_of_forall₂ hlists.flip hlast.symm
    obtain ⟨before, after, hmembers, hname, hafter⟩ := (getLast?_own_eq_some_iff c members).1 hm
    exact ⟨(exists_listed_iff c members).1 ⟨_, lists, hlists, hlast⟩,
      before, m, after, hmembers, hname, hafter, hentries⟩
  · rintro ⟨hall, before, m, after, hmembers, hname, hafter, hentries⟩
    obtain ⟨_, lists, hlists, -⟩ := (exists_listed_iff c members).2 hall
    have hm := (getLast?_own_eq_some_iff c members).2 ⟨before, after, hmembers, hname, hafter⟩
    obtain ⟨entries', hlast, hentries'⟩ := exists_getLast?_of_forall₂ hlists hm
    exact ⟨lists, hlists, by rw [hlast, hentries.unique hentries']⟩

theorem unlisted_iff {found : String} :
    c.Unlisted members found ↔
      ∃ before m after, members = before ++ m :: after ∧ m.name = some c.key ∧
        (∀ other ∈ before, other.name = some c.key → other.value.IsListing) ∧
          m.value.NoEntries found := by
  simp only [Unlisted, FirstFails, own, List.filter_eq_append_iff, List.filter_eq_cons_iff,
    Expr.exists_entries_iff]
  constructor
  · rintro ⟨_, m, _, ⟨l, _, rfl, rfl, before, after, rfl, hforeign, hm, -⟩, hbefore, hfound⟩
    refine ⟨l ++ before, m, after, by simp, by simpa [Property.isNamed] using hm, ?_, hfound⟩
    intro other hother hname
    obtain hother | hother := List.mem_append.1 hother
    · exact hbefore other ((mem_own c l).2 ⟨hother, hname⟩)
    · exact absurd hname (by simpa [Property.isNamed] using hforeign other hother)
  · rintro ⟨before, m, after, rfl, hm, hbefore, hfound⟩
    refine ⟨_, m, _, ⟨before, m :: after, rfl, rfl, [], after, rfl, by simp,
      by simpa [Property.isNamed] using hm, rfl⟩, fun other hother => ?_, hfound⟩
    obtain ⟨hmem, hname⟩ := (mem_own c before).1 hother
    exact hbefore other hmem hname

/-- How the members of a configuration are read under a category. There is a list exactly if every
member of the name of the category has a value that stands for entries, also one that does not
count. The last of them counts, and without any the category is absent. Otherwise the fault is that
of the first such member whose value stands for none. -/
structure Normalizes (site : Site) (outcome : Except ExtractionError (Option (List String))) :
    Prop where
  succeeds : (∃ result, outcome = .ok result) ↔
    ∀ m ∈ members, m.name = some c.key → m.value.IsListing
  absent : outcome = .ok none ↔ ∀ m ∈ members, m.name ≠ some c.key
  present : ∀ entries, outcome = .ok (some entries) ↔
    (∀ m ∈ members, m.name = some c.key → m.value.IsListing) ∧
      ∃ before m after, members = before ++ m :: after ∧ m.name = some c.key ∧
        (∀ other ∈ after, other.name ≠ some c.key) ∧ m.value.Entries entries
  fails : ∀ err, outcome = .error err ↔
    ∃ before m after found, members = before ++ m :: after ∧ m.name = some c.key ∧
      (∀ other ∈ before, other.name = some c.key → other.value.IsListing) ∧
        m.value.NoEntries found ∧
          err = .malformedConfig site.file site.declaration c.key found

/-- A category is read from the members of its name, in the order of the source. Members of other
names or without one have no part in it, and of a string only what stands behind its last slash is
an entry. -/
theorem entries?_normalizes (site : Site) :
    c.Normalizes members site (c.entries? site members) ∧
      (∀ members', c.own members' = c.own members →
        c.entries? site members' = c.entries? site members) ∧
          ∀ text, IsLastSegment text (lastSegment text) := by
  have hverdict := verdict_entries? site c members
  refine ⟨⟨?_, ?_, fun entries => ?_, fun err => ?_⟩, fun members' h => ?_,
    isLastSegment_lastSegment⟩
  · simp only [hverdict.ok, exists_listed_iff]
  · rw [hverdict.ok, listed_none_iff]
  · rw [hverdict.ok, listed_some_iff]
  · simp only [hverdict.error, unlisted_iff]
    constructor
    · rintro ⟨found, ⟨before, m, after, hmembers, hname, hbefore, hfound⟩, rfl⟩
      exact ⟨before, m, after, found, hmembers, hname, hbefore, hfound, rfl⟩
    · rintro ⟨before, m, after, found, hmembers, hname, hbefore, hfound, rfl⟩
      exact ⟨found, ⟨before, m, after, hmembers, hname, hbefore, hfound⟩, rfl⟩
  · rw [own, own] at h
    rw [entries?, entries?, h]

end Category

end DecoratorGraph
