import Mathlib.Algebra.Group.Nat.Defs
import UriTemplate.Datum

set_option autoImplicit false

namespace UriTemplate

section Errors

variable {ε α β : Type}

def errorOf? : Except ε α → Option ε
  | .ok _ => none
  | .error e => some e

theorem eq_ok_of_errorOf? {x : Except ε α} (h : errorOf? x = none) : ∃ a, x = .ok a := by
  cases x with
  | ok a => exact ⟨a, rfl⟩
  | error e => cases h

theorem eq_error_of_errorOf? {x : Except ε α} {e : ε} (h : errorOf? x = some e) : x = .error e := by
  cases x with
  | ok a => cases h
  | error own => exact congrArg _ (Option.some.inj h)

theorem errorOf?_bind (x : Except ε α) {f : α → Except ε β} {e? : Option ε}
    (h : ∀ a, errorOf? (f a) = e?) : errorOf? (x >>= f) = (errorOf? x).or e? := by
  cases x with
  | ok a => exact h a
  | error e => rfl

theorem errorOf?_bind_pure (x : Except ε α) (f : α → β) :
    errorOf? (x >>= fun a => pure (f a)) = errorOf? x := by
  cases x <;> rfl

theorem errorOf?_mapM (f : α → Except ε β) (items : List α) :
    errorOf? (items.mapM f) = items.findSome? fun a => errorOf? (f a) := by
  induction items with
  | nil => rfl
  | cons a items ih =>
    rw [List.mapM_cons, List.findSome?_cons,
      errorOf?_bind _ fun b => (errorOf?_bind_pure _ _).trans ih]
    cases errorOf? (f a) <;> rfl

theorem mapM_congr {f g : α → Except ε β} {items : List α} (h : ∀ a ∈ items, f a = g a) :
    items.mapM f = items.mapM g := by
  induction items with
  | nil => rfl
  | cons a items ih =>
    rw [List.mapM_cons, List.mapM_cons, h a List.mem_cons_self,
      ih fun b hb => h b (List.mem_cons_of_mem a hb)]

theorem findSome?_flatMap (f : α → List β) (g : β → Option ε) (items : List α) :
    (items.flatMap f).findSome? g = items.findSome? fun a => (f a).findSome? g := by
  induction items with
  | nil => rfl
  | cons a items ih =>
    rw [List.flatMap_cons, List.findSome?_append, ih, List.findSome?_cons]
    cases (f a).findSome? g <;> rfl

end Errors

/-- Some whole number in the text of the number has too many digits. -/
def Number.isLong : Number → Bool
  | .integer n => 10 ^ Digits.limit ≤ n.natAbs
  | .fraction num den => 10 ^ Digits.limit ≤ num.natAbs || 10 ^ Digits.limit ≤ den
  | _ => false

namespace Digits

def excess? (long : Bool) : Option Excess := if long then some .writing else none

theorem excess?_or (a b : Bool) : (excess? a).or (excess? b) = excess? (a || b) := by
  cases a <;> rfl

theorem errorOf?_writeNat (n : Nat) : errorOf? (writeNat n) = excess? (10 ^ limit ≤ n) := by
  unfold writeNat excess?
  rw [Nat.pow_eq]
  by_cases h : 10 ^ limit ≤ n <;> simp [h, errorOf?]

theorem errorOf?_writeInt (n : Int) : errorOf? (writeInt n) = excess? (Number.integer n).isLong :=
  (errorOf?_bind_pure _ _).trans (errorOf?_writeNat n.natAbs)

theorem errorOf?_mapM_writeInt (items : List Int) :
    errorOf? (items.mapM writeInt) = excess? (items.any fun n => (Number.integer n).isLong) := by
  rw [errorOf?_mapM]
  induction items with
  | nil => rfl
  | cons n items ih =>
    rw [List.findSome?_cons, ih, List.any_cons, ← excess?_or, errorOf?_writeInt]
    cases (Number.integer n).isLong <;> rfl

theorem not_isLong_one : (Number.integer 1).isLong = false := by
  have hone : ¬ 10 ^ limit ≤ 1 := Nat.not_le.2 (Nat.one_lt_pow (by decide) (by decide))
  rw [Number.isLong, Int.natAbs_one]
  exact decide_eq_false hone

end Digits

theorem Number.errorOf?_text (n : Number) : errorOf? n.text = Digits.excess? n.isLong := by
  cases n with
  | integer n => exact Digits.errorOf?_writeInt n
  | float x => rfl
  | decimal d => rfl
  | fraction num den =>
    rw [text]
    by_cases hden : den = 1
    · have hone := Digits.not_isLong_one
      rw [isLong, Int.natAbs_one] at hone
      rw [if_pos hden, Digits.errorOf?_writeInt, isLong, isLong, hden, hone, Bool.or_false]
    · rw [if_neg hden, errorOf?_bind _ fun _ => errorOf?_bind_pure _ _, Digits.errorOf?_writeInt,
        Digits.errorOf?_writeNat, Digits.excess?_or]
      rfl

namespace Datum

theorem errorOf?_displayNumber (n : Number) :
    errorOf? (displayNumber n) = Digits.excess? n.isLong := by
  cases n with
  | integer n => exact Number.errorOf?_text (.integer n)
  | float x => rfl
  | decimal d => rfl
  | fraction num den =>
    rw [displayNumber, errorOf?_bind _ fun _ => errorOf?_bind_pure _ _, Digits.errorOf?_writeInt,
      Digits.errorOf?_writeNat, Digits.excess?_or]
    rfl

theorem errorOf?_displayRange (start stop step : Int) : errorOf? (displayRange start stop step) =
    Digits.excess? ([start, stop, step].any fun n => (Number.integer n).isLong) := by
  unfold displayRange
  refine (errorOf?_bind_pure _ _).trans ((Digits.errorOf?_mapM_writeInt _).trans ?_)
  by_cases hstep : step = 1
  · simp [hstep, Digits.not_isLong_one]
  · simp [hstep]

mutual

def holdsLong : Datum → Bool
  | .number n => n.isLong
  | .sequence _ items => anyLong items
  | .range start stop step => [start, stop, step].any fun n => (Number.integer n).isLong
  | .mapping entries => anyLongEntry entries
  | .set _ items => anyLong items
  | .member _ value => holdsLong value
  | _ => false

def anyLong : List Datum → Bool
  | [] => false
  | d :: rest => holdsLong d || anyLong rest

def anyLongEntry : List (Datum × Datum) → Bool
  | [] => false
  | (key, item) :: rest => holdsLong key || holdsLong item || anyLongEntry rest

end

mutual

theorem errorOf?_display (d : Datum) : errorOf? d.display = Digits.excess? d.holdsLong := by
  cases d with
  | number n =>
    rw [display, holdsLong]
    exact errorOf?_displayNumber n
  | sequence kind items =>
    rw [display, holdsLong, errorOf?_bind_pure]
    exact errorOf?_displayAll items
  | range start stop step =>
    rw [display, holdsLong]
    exact errorOf?_displayRange start stop step
  | mapping entries =>
    rw [display, holdsLong, errorOf?_bind_pure]
    exact errorOf?_displayEntries entries
  | set frozen items =>
    rw [display, holdsLong, errorOf?_bind_pure]
    exact errorOf?_displayAll items
  | member name value =>
    rw [display, holdsLong, errorOf?_bind_pure]
    exact errorOf?_display value
  | bytes mutable content =>
    cases mutable <;> simp [display, holdsLong, errorOf?, Digits.excess?]
  | _ => simp [display, holdsLong, errorOf?, Digits.excess?]

theorem errorOf?_displayAll (items : List Datum) :
    errorOf? (displayAll items) = Digits.excess? (anyLong items) := by
  cases items with
  | nil => simp [displayAll, anyLong, errorOf?, Digits.excess?]
  | cons d rest =>
    rw [displayAll, anyLong, errorOf?_bind _ fun _ => errorOf?_bind_pure _ _, errorOf?_display d,
      errorOf?_displayAll rest, Digits.excess?_or]

theorem errorOf?_displayEntries (entries : List (Datum × Datum)) :
    errorOf? (displayEntries entries) = Digits.excess? (anyLongEntry entries) := by
  cases entries with
  | nil => simp [displayEntries, anyLongEntry, errorOf?, Digits.excess?]
  | cons e rest =>
    obtain ⟨key, item⟩ := e
    rw [displayEntries, anyLongEntry,
      errorOf?_bind _ fun _ => errorOf?_bind _ fun _ => errorOf?_bind_pure _ _,
      errorOf?_display key, errorOf?_display item, errorOf?_displayEntries rest,
      Digits.excess?_or, Digits.excess?_or, Bool.or_assoc]

end

end Datum

end UriTemplate
