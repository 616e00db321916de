/-!
# Splitting, trimming and replacing text

Operations on the characters of a text. They are stated on `List Char`, where each is one
recursion over the text, and read through `String.toList` and `String.ofList`.
-/

namespace DecoratorGraph.Text

/-- The pieces between the separators; a text without separator is one piece. -/
def split (separator : Char) : List Char → List (List Char)
  | [] => [[]]
  | c :: r =>
    if c = separator then [] :: split separator r
    else
      match split separator r with
      | [] => [[c]]
      | piece :: pieces => (c :: piece) :: pieces

theorem split_ne_nil (separator : Char) (s : List Char) : split separator s ≠ [] := by
  cases s with
  | nil => simp [split]
  | cons c r =>
    by_cases h : c = separator
    · simp [split, h]
    · simp only [split, h, if_false]
      split <;> simp

def afterLast {α : Type} [DecidableEq α] (separator : α) (s : List α) : List α :=
  (s.reverse.takeWhile fun c => c ≠ separator).reverse

section AfterLast

variable {α : Type} [DecidableEq α]

theorem not_mem_takeWhile_ne (separator : α) (s : List α) :
    separator ∉ s.takeWhile fun c => c ≠ separator := by
  induction s with
  | nil => simp
  | cons c r ih =>
    by_cases h : c = separator
    · simp [h]
    · simpa [h, Ne.symm h] using ih

theorem not_mem_afterLast (separator : α) (s : List α) :
    separator ∉ afterLast separator s := by
  simpa [afterLast] using not_mem_takeWhile_ne separator s.reverse

theorem afterLast_append_cons {separator : α} {r : List α} (h : separator ∉ r) (s : List α) :
    afterLast separator (s ++ separator :: r) = r := by
  have hreverse : (s ++ separator :: r).reverse = r.reverse ++ separator :: s.reverse := by simp
  rw [afterLast, hreverse, List.takeWhile_append_of_pos]
  · simp
  · intro c hc
    simp only [ne_eq, decide_eq_true_eq]
    rintro rfl
    exact h (List.mem_reverse.1 hc)

end AfterLast

/-- Replaces every occurrence of a nonempty pattern, from left to right and without overlap.
The counter says how many characters of an occurrence are still to be passed over. -/
def replaceFrom (old new : List Char) : Nat → List Char → List Char
  | _, [] => []
  | skip + 1, _ :: r => replaceFrom old new skip r
  | 0, c :: r =>
    if old.isPrefixOf (c :: r) then new ++ replaceFrom old new (old.length - 1) r
    else c :: replaceFrom old new 0 r

def replace (old new s : List Char) : List Char := replaceFrom old new 0 s

@[simp] theorem replace_nil (old new : List Char) : replace old new [] = [] := by
  simp [replace, replaceFrom]

/-- The suffix that starts at the first occurrence of a pattern. -/
def fromFirst? (pattern : List Char) : List Char → Option (List Char)
  | [] => if pattern = [] then some [] else none
  | c :: r => if pattern.isPrefixOf (c :: r) then some (c :: r) else fromFirst? pattern r

def isBlank (c : Char) : Bool :=
  let n := c.toNat
  (9 ≤ n && n ≤ 13) || n == 0x20 || n == 0x85 || n == 0xA0 || n == 0x1680 ||
    (0x2000 ≤ n && n ≤ 0x200A) || n == 0x2028 || n == 0x2029 || n == 0x202F || n == 0x205F ||
    n == 0x3000

def trimStart (s : List Char) : List Char := s.dropWhile isBlank

def trimEnd (s : List Char) : List Char := (s.reverse.dropWhile isBlank).reverse

def trim (s : List Char) : List Char := trimEnd (trimStart s)

/-- Puts a separator between the pieces. -/
def join (separator : List Char) : List (List Char) → List Char
  | [] => []
  | [piece] => piece
  | piece :: pieces => piece ++ separator ++ join separator pieces

def decimal (n : Nat) : List Char := Nat.toDigits 10 n

end DecoratorGraph.Text
