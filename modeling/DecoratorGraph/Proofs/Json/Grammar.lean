import DecoratorGraph.Proofs.Json.Lexemes

/-!
# The grammar of JSON

The texts of JSON values, as a relation without a reader. Blanks may stand around every value, name
and mark. The texts of the members of an object and of the items of an array are kept beside it, so
that one can speak of the names that an object spells.
-/

namespace DecoratorGraph.JsonText

/-! ### Texts of values -/

def Digits (s : List Char) : Prop := s ≠ [] ∧ ∀ c ∈ s, c.isDigit = true

/-- The parts of a number: the digits of a whole number behind its sign, without leading zeros, then
a fraction and an exponent, if there are any. -/
structure NumberText (sign whole fraction exponent : List Char) : Prop where
  sign_cases : sign = [] ∨ sign = ['-']
  digits : Digits whole
  noZero : whole.head? = some '0' → whole = ['0']
  fraction_cases : fraction = [] ∨ ∃ ds, Digits ds ∧ fraction = '.' :: ds
  exponent_cases : exponent = [] ∨ ∃ e sign ds, (e = 'e' ∨ e = 'E') ∧
    (sign = [] ∨ sign = ['+'] ∨ sign = ['-']) ∧ Digits ds ∧ exponent = e :: (sign ++ ds)

inductive ItemsText : Bool → List (List Char) → List Char → Prop
  | nil {first : Bool} {b : List Char} (hb : Blank b) : ItemsText first [] b
  | cons {first : Bool} {lead value s : List Char} {values : List (List Char)}
      (hlead : Lead first lead) (h : ItemsText false values s) :
      ItemsText first (value :: values) (lead ++ (value ++ s))

/-- The members of an object, each with the text between the quotes of its name and the text of its
value. -/
inductive MembersText : Bool → List (List Char × List Char) → List Char → Prop
  | nil {first : Bool} {b : List Char} (hb : Blank b) : MembersText first [] b
  | cons {first : Bool} {m : List Char × List Char} {lead b a s : List Char}
      {ms : List (List Char × List Char)} (hlead : Lead first lead) (hb : Blank b) (ha : Blank a)
      (h : MembersText false ms s) :
      MembersText first (m :: ms)
        (lead ++ '"' :: (m.1 ++ '"' :: (b ++ ':' :: (a ++ (m.2 ++ s)))))

inductive IsValue : List Char → Prop
  | null : IsValue ['n', 'u', 'l', 'l']
  | boolean {s : List Char} (h : s = ['t', 'r', 'u', 'e'] ∨ s = ['f', 'a', 'l', 's', 'e']) :
      IsValue s
  | number {sign whole fraction exponent : List Char}
      (h : NumberText sign whole fraction exponent) :
      IsValue (sign ++ (whole ++ (fraction ++ exponent)))
  | string {s : List Char} (h : StringText s) : IsValue ('"' :: (s ++ ['"']))
  | array {values : List (List Char)} {s : List Char} (hs : ItemsText true values s)
      (h : ∀ value ∈ values, IsValue value) : IsValue ('[' :: (s ++ [']']))
  | object {ms : List (List Char × List Char)} {s : List Char} (hs : MembersText true ms s)
      (hnames : ∀ m ∈ ms, StringText m.1) (h : ∀ m ∈ ms, IsValue m.2) :
      IsValue ('\x7b' :: (s ++ ['\x7d']))

def ObjectText (ms : List (List Char × List Char)) (v : List Char) : Prop :=
  ∃ s, MembersText true ms s ∧ v = '\x7b' :: (s ++ ['\x7d'])

def IsObject (ms : List (List Char × List Char)) (v : List Char) : Prop :=
  ObjectText ms v ∧ ∀ m ∈ ms, StringText m.1 ∧ IsValue m.2

variable {c : Char} {s v : List Char} {ms : List (List Char × List Char)}

theorem IsObject.isValue (h : IsObject ms v) : IsValue v := by
  obtain ⟨⟨s, hs, rfl⟩, hms⟩ := h
  exact .object hs (fun m hm => (hms m hm).1) fun m hm => (hms m hm).2

/-- What a number, `true` or `false` begins with. -/
def BeginsOther (c : Char) : Prop := c = 't' ∨ c = 'f' ∨ c = '-' ∨ c.isDigit = true

instance : DecidablePred BeginsOther := fun c =>
  inferInstanceAs (Decidable (c = 't' ∨ c = 'f' ∨ c = '-' ∨ c.isDigit = true))

theorem NumberText.begins {sign whole fraction exponent : List Char}
    (h : NumberText sign whole fraction exponent) :
    ∃ c r, sign ++ (whole ++ (fraction ++ exponent)) = c :: r ∧ BeginsOther c := by
  obtain ⟨hne, hdigits⟩ := h.digits
  rcases h.sign_cases with rfl | rfl
  · obtain ⟨c, whole, rfl⟩ := List.exists_cons_of_ne_nil hne
    exact ⟨c, _, rfl, Or.inr (Or.inr (Or.inr (hdigits c List.mem_cons_self)))⟩
  · exact ⟨'-', _, rfl, Or.inr (Or.inr (Or.inl rfl))⟩

theorem BeginsOther.ne {d : Char} (h : BeginsOther c) (hd : ¬BeginsOther d) : c ≠ d := by
  rintro rfl
  exact hd h

theorem BeginsOther.isBlank_eq_false (h : BeginsOther c) : isBlank c = false := by
  have hspace := h.ne (d := ' ') (by decide)
  have hline := h.ne (d := '\n') (by decide)
  have htab := h.ne (d := '\t') (by decide)
  have hreturn := h.ne (d := '\r') (by decide)
  simp [isBlank, hspace, hline, htab, hreturn]

/-- What a text begins with tells what kind of value it is. -/
theorem IsValue.cases_head (h : IsValue v) :
    v = ['n', 'u', 'l', 'l'] ∨ (∃ s, StringText s ∧ v = '"' :: (s ++ ['"'])) ∨
      (∃ values s, ItemsText true values s ∧ (∀ value ∈ values, IsValue value) ∧
        v = '[' :: (s ++ [']'])) ∨
      (∃ ms, IsObject ms v) ∨ ∃ c r, v = c :: r ∧ BeginsOther c := by
  cases h with
  | null => exact Or.inl rfl
  | string h => exact Or.inr (Or.inl ⟨_, h, rfl⟩)
  | array hs h => exact Or.inr (Or.inr (Or.inl ⟨_, _, hs, h, rfl⟩))
  | object hs hnames h =>
      exact Or.inr (Or.inr (Or.inr (Or.inl ⟨_, ⟨_, hs, rfl⟩, fun m hm => ⟨hnames m hm, h m hm⟩⟩)))
  | boolean h =>
      rcases h with rfl | rfl <;> exact Or.inr (Or.inr (Or.inr (Or.inr ⟨_, _, rfl, by decide⟩)))
  | number h => exact Or.inr (Or.inr (Or.inr (Or.inr h.begins)))

theorem IsValue.begins (h : IsValue v) : Begins v := by
  rcases h.cases_head with rfl | ⟨s, -, rfl⟩ | ⟨values, s, -, -, rfl⟩ | ⟨ms, ⟨s, -, rfl⟩, -⟩ |
    ⟨c, r, rfl, hc⟩
  · exact ⟨_, _, rfl, by decide, by decide⟩
  · exact ⟨_, _, rfl, by decide, by decide⟩
  · exact ⟨_, _, rfl, by decide, by decide⟩
  · exact ⟨_, _, rfl, by decide, by decide⟩
  · exact ⟨c, r, rfl, hc.isBlank_eq_false, hc.ne (by decide)⟩

theorem MembersText.length_le {first : Bool} (h : MembersText first ms s) :
    ms.length ≤ s.length := by
  induction h with
  | nil _ => exact Nat.zero_le _
  | cons _ _ _ _ ih =>
      simp only [List.length_cons, List.length_append]
      omega

end DecoratorGraph.JsonText
