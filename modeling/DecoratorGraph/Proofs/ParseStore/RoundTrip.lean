import DecoratorGraph.ParseStore.Encoding
import Mathlib.Tactic.Ring

/-!
# What is written of an entry is read back

Every writer has a reader that takes exactly what was written from the front of a list of
numbers, whatever comes behind it. `Takes` says this for one value. It passes from the parts
of a value to the whole, so each reader has one lemma, which only names the lemmas of its
parts. Expressions are read with a bound on their depth; the number of numbers written for an
expression is always enough.
-/

namespace DecoratorGraph.StoredParse

/-! ### Numbers as bytes -/

theorem numbersOfBytes?_cons_of_lt {sum unit : Nat} {b : UInt8} {r : List UInt8}
    (h : b.toNat < 128) :
    numbersOfBytes? sum unit (b :: r) =
      (numbersOfBytes? 0 1 r).map fun ns => (sum + b.toNat * unit) :: ns := by
  rw [numbersOfBytes?, if_pos h]

theorem numbersOfBytes?_cons_of_le {sum unit : Nat} {b : UInt8} {r : List UInt8}
    (h : 128 ≤ b.toNat) :
    numbersOfBytes? sum unit (b :: r) =
      numbersOfBytes? (sum + (b.toNat - 128) * unit) (unit * 128) r := by
  rw [numbersOfBytes?, if_neg (Nat.not_lt.2 h)]

theorem numbersOfBytes?_last {m : Nat} (h : m < 128) (sum unit : Nat) (r : List UInt8) :
    numbersOfBytes? sum unit (UInt8.ofNat m :: r) =
      (numbersOfBytes? 0 1 r).map fun ns => (sum + m * unit) :: ns := by
  have htoNat : (UInt8.ofNat m).toNat = m :=
    UInt8.toNat_ofNat_of_lt (Nat.lt_trans h (by decide))
  rw [numbersOfBytes?_cons_of_lt (by omega), htoNat]

/-- The digits of a number are read behind what its lower digits came to. -/
theorem numbersOfBytes?_digits {fuel n : Nat} (h : n ≤ fuel) (sum unit : Nat) (r : List UInt8) :
    numbersOfBytes? sum unit (digits fuel n ++ r) =
      (numbersOfBytes? 0 1 r).map fun ns => (sum + n * unit) :: ns := by
  induction fuel generalizing n sum unit with
  | zero =>
      have hn : n = 0 := by omega
      subst hn
      exact numbersOfBytes?_last (by decide) sum unit r
  | succ fuel ih =>
      rw [digits]
      split
      · rename_i hlt
        exact numbersOfBytes?_last hlt sum unit r
      · have hbyte : n % 128 + 128 < UInt8.size :=
          Nat.add_lt_add_right (Nat.mod_lt n (by decide)) 128
        have htoNat : (UInt8.ofNat (n % 128 + 128)).toNat = n % 128 + 128 :=
          UInt8.toNat_ofNat_of_lt hbyte
        have hdigits : n % 128 * unit + n / 128 * (unit * 128) = n * unit := by
          calc n % 128 * unit + n / 128 * (unit * 128)
              = (n % 128 + 128 * (n / 128)) * unit := by ring
            _ = n * unit := by rw [Nat.mod_add_div]
        rw [List.cons_append, numbersOfBytes?_cons_of_le (by omega), htoNat, ih (by omega),
          Nat.add_sub_cancel, Nat.add_assoc, hdigits]

theorem numbersOfBytes?_numbersToBytes (ns : List Nat) :
    numbersOfBytes? 0 1 (numbersToBytes ns) = some ns := by
  induction ns with
  | nil => rfl
  | cons n ns ih =>
      rw [numbersToBytes, List.flatMap_cons, numbersOfBytes?_digits (Nat.le_refl n)]
      rw [numbersToBytes] at ih
      simp [ih]

/-! ### Readers -/

def Takes {α : Type} (read : Reader α) (written : List Nat) (x : α) : Prop :=
  ∀ rest, read (written ++ rest) = some (x, rest)

theorem takes_readNumber (n : Nat) : Takes readNumber [n] n := fun _ => rfl

theorem takes_readMany {α : Type} {read : Reader α} {write : α → List Nat} {xs : List α}
    (h : ∀ x ∈ xs, Takes read (write x) x) :
    Takes (readMany read xs.length) (xs.flatMap write) xs := by
  induction xs with
  | nil => exact fun _ => rfl
  | cons x xs ih =>
      intro rest
      have hx := h x List.mem_cons_self
      have hxs := ih fun y hy => h y (List.mem_cons_of_mem _ hy)
      simp [readMany, List.append_assoc, hx _, hxs _]

theorem takes_readList {α : Type} {read : Reader α} {write : α → List Nat} {xs : List α}
    (h : ∀ x ∈ xs, Takes read (write x) x) : Takes (readList read) (writeList write xs) xs := by
  intro rest
  simp [readList, writeList, readNumber, takes_readMany h _]

theorem takes_readOption {α : Type} {read : Reader α} {write : α → List Nat} {x : Option α}
    (h : ∀ y, x = some y → Takes read (write y) y) :
    Takes (readOption read) (writeOption write x) x := by
  intro rest
  cases x with
  | none => rfl
  | some y => simp [readOption, writeOption, h y rfl _]

theorem takes_readString (s : String) : Takes readString (writeString s) s := by
  intro rest
  have hchars : Takes (readList readNumber) (writeList (fun n => [n]) (s.toList.map Char.toNat))
      (s.toList.map Char.toNat) := takes_readList fun n _ => takes_readNumber n
  have hwritten : writeString s = writeList (fun n => [n]) (s.toList.map Char.toNat) := by
    simp [writeString, writeList, List.flatMap_singleton', String.length_toList]
  rw [hwritten]
  have hback : (s.toList.map Char.toNat).map Char.ofNat = s.toList := by
    simp [Function.comp_def]
  simp only [readString, hchars rest, hback, Option.bind_eq_bind, Option.bind_some,
    String.ofList_toList]

mutual

theorem takes_readExpr : ∀ (e : Expr) (depth : Nat), (writeExpr e).length ≤ depth →
    Takes (readExpr depth) (writeExpr e) e
  | e, 0, h => by cases e <;> simp [writeExpr] at h
  | .string v, depth + 1, _ => fun rest => by
      simp [writeExpr, readExpr, takes_readString v rest]
  | .identifier v, depth + 1, _ => fun rest => by
      simp [writeExpr, readExpr, takes_readString v rest]
  | .member v, depth + 1, _ => fun rest => by
      simp [writeExpr, readExpr, takes_readString v rest]
  | .array items, depth + 1, h => fun rest => by
      have hitems := takes_readExprs items depth (by simp [writeExpr] at h; omega)
      simp [writeExpr, readExpr, readList, readNumber, hitems rest]
  | .object members, depth + 1, h => fun rest => by
      have hmembers := takes_readProperties members depth (by simp [writeExpr] at h; omega)
      simp [writeExpr, readExpr, readList, readNumber, hmembers rest]
  | .call callee arguments, depth + 1, h => fun rest => by
      have hcallee := takes_readExpr callee depth (by simp [writeExpr] at h; omega)
      have harguments := takes_readExprs arguments depth (by simp [writeExpr] at h; omega)
      simp [writeExpr, readExpr, readList, readNumber, hcallee _, harguments rest]
  | .other kind text, depth + 1, _ => fun rest => by
      simp [writeExpr, readExpr, takes_readString kind _, takes_readString text rest]

theorem takes_readExprs : ∀ (es : List Expr) (depth : Nat), (writeExprs es).length ≤ depth →
    Takes (readMany (readExpr depth) es.length) (writeExprs es) es
  | [], _, _ => fun _ => rfl
  | e :: es, depth, h => fun rest => by
      have hfirst := takes_readExpr e depth (by simp [writeExprs] at h; omega)
      have hothers := takes_readExprs es depth (by simp [writeExprs] at h; omega)
      simp [writeExprs, readMany, hfirst _, hothers rest]

theorem takes_readProperties : ∀ (ps : List Property) (depth : Nat),
    (writeProperties ps).length ≤ depth →
      Takes (readMany (readProperty (readExpr depth)) ps.length) (writeProperties ps) ps
  | [], _, _ => fun _ => rfl
  | p :: ps, depth, h => fun rest => by
      have hfirst := takes_readProperty p depth (by simp [writeProperties] at h; omega)
      have hothers := takes_readProperties ps depth (by simp [writeProperties] at h; omega)
      simp [writeProperties, readMany, hfirst _, hothers rest]

theorem takes_readProperty : ∀ (p : Property) (depth : Nat), (writeProperty p).length ≤ depth →
    Takes (readProperty (readExpr depth)) (writeProperty p) p
  | ⟨name, value⟩, depth, h => fun rest => by
      have hname : Takes (readOption readString) (writeOption writeString name) name :=
        takes_readOption fun s _ => takes_readString s
      have hvalue := takes_readExpr value depth (by simp [writeProperty] at h; omega)
      simp [writeProperty, readProperty, hname _, hvalue rest]

end

theorem kindOfNumber?_kindNumber (k : DeclarationKind) : kindOfNumber? (kindNumber k) = some k := by
  cases k <;> rfl

theorem length_le_length_writeList {α : Type} (write : α → List Nat) {x : α} {xs : List α}
    (hx : x ∈ xs) : (write x).length ≤ (writeList write xs).length := by
  obtain ⟨before, after, rfl⟩ := List.append_of_mem hx
  simp only [writeList, List.flatMap_append, List.flatMap_cons, List.length_cons,
    List.length_append]
  omega

theorem takes_readAnnotation (a : Annotation) : Takes readAnnotation ( writeAnnotation a) a := by
  intro rest
  have hcallee : Takes (readOption readString) (writeOption writeString a.callee) a.callee :=
    takes_readOption fun s _ => takes_readString s
  -- The bound on the depth is the number of all numbers that are left behind the callee.
  have harguments : ∀ behind : List Nat, Takes
      (readList (readExpr (writeList writeExpr a.arguments ++ behind).length))
      (writeList writeExpr a.arguments) a.arguments := by
    intro behind
    refine takes_readList fun e he => takes_readExpr e _ ?_
    have hlength := length_le_length_writeList writeExpr he
    rw [List.length_append]
    omega
  simp only [List.append_assoc, writeAnnotation, readAnnotation, hcallee _, harguments _ _,
    takes_readString _ _, Option.bind_eq_bind, Option.bind_some, readNumber, List.singleton_append]

theorem takes_readDeclaration (d : Declaration) :
    Takes readDeclaration (writeDeclaration d) d := by
  intro rest
  have hname : Takes (readOption readString) (writeOption writeString d.name) d.name :=
    takes_readOption fun s _ => takes_readString s
  have hannotations : Takes (readList readAnnotation) (writeList writeAnnotation d.annotations)
      d.annotations := takes_readList fun a _ => takes_readAnnotation a
  simp [writeDeclaration, readDeclaration, readNumber, hname _, kindOfNumber?_kindNumber,
    hannotations rest]

theorem takes_readEntry (e : StoredParse) : Takes readEntry (writeEntry e) e := by
  intro rest
  have hdeclarations : Takes (readList readDeclaration)
      (writeList writeDeclaration e.parsed.declarations) e.parsed.declarations :=
    takes_readList fun d _ => takes_readDeclaration d
  simp [writeEntry, readEntry, readNumber, takes_readString _ _, hdeclarations _]

/-- What is written of an entry is read back. -/
theorem decode?_encode (e : StoredParse) : decode? (encode e) = some e := by
  have hentry := takes_readEntry e []
  rw [List.append_nil] at hentry
  simp [decode?, encode, numbersOfBytes?_numbersToBytes, hentry]

end DecoratorGraph.StoredParse
