import UriTemplate.Text.Run

set_option autoImplicit false

namespace UriTemplate.Text

open Character

variable {accept : Char → Bool}

inductive OneUnit (accept : Char → Bool) : Text → Prop
  | char {c : Char} (hc : accept c = true) : OneUnit accept [c]
  | escape {a b : Char} (ha : isHexDigit a = true) (hb : isHexDigit b = true) :
      OneUnit accept ['%', a, b]

inductive Units (accept : Char → Bool) : Text → Prop
  | nil : Units accept []
  | char {c : Char} {t : Text} (hc : accept c = true) (ht : Units accept t) : Units accept (c :: t)
  | escape {a b : Char} {t : Text} (ha : isHexDigit a = true) (hb : isHexDigit b = true)
      (ht : Units accept t) : Units accept ('%' :: a :: b :: t)

/-- Nothing at the front of `rest` could be a unit or the rest of an escape. -/
def Foreign (accept : Char → Bool) (rest : Text) : Prop :=
  ∀ c ∈ rest.head?, accept c = false ∧ c ≠ '%' ∧ isHexDigit c = false

theorem Units.append {t u : Text} (ht : Units accept t) (hu : Units accept u) :
    Units accept (t ++ u) := by
  induction ht with
  | nil => exact hu
  | char hc _ ih => exact .char hc ih
  | escape ha hb _ ih => exact .escape ha hb ih

theorem Units.mono {wider : Char → Bool} {t : Text} (ht : Units accept t)
    (h : ∀ c ∈ t, accept c = true → wider c = true) : Units wider t := by
  induction ht with
  | nil => exact .nil
  | char hc _ ih =>
    have htail := ih fun c hm => h c (List.mem_cons_of_mem _ hm)
    exact .char (h _ List.mem_cons_self hc) htail
  | @escape a b t ha hb _ ih =>
    have htail := ih fun c hm => h c (List.mem_append_right ['%', a, b] hm)
    exact .escape ha hb htail

theorem Units.mem {t : Text} (ht : Units accept t) {c : Char} (hc : c ∈ t) :
    accept c = true ∨ c = '%' ∨ isHexDigit c = true := by
  induction ht with
  | nil => cases hc
  | char ha _ ih =>
    rcases List.mem_cons.1 hc with rfl | hc
    · exact .inl ha
    · exact ih hc
  | escape ha hb _ ih =>
    simp only [List.mem_cons] at hc
    rcases hc with rfl | rfl | rfl | hc
    · exact .inr (.inl rfl)
    · exact .inr (.inr ha)
    · exact .inr (.inr hb)
    · exact ih hc

theorem Units.flatMap {α : Type} {f : α → Text} {items : List α}
    (h : ∀ i ∈ items, Units accept (f i)) : Units accept (items.flatMap f) := by
  induction items with
  | nil => exact .nil
  | cons i items ih =>
    exact (h i List.mem_cons_self).append (ih fun j hj => h j (List.mem_cons_of_mem _ hj))

theorem Units.intercalate {j : Char} (hj : accept j = true) {pieces : List Text}
    (h : ∀ piece ∈ pieces, Units accept piece) : Units accept ([j].intercalate pieces) := by
  match pieces with
  | [] => exact .nil
  | [piece] => simpa using h piece List.mem_cons_self
  | piece :: next :: rest =>
    have hrest := Units.intercalate hj fun p hp => h p (List.mem_cons_of_mem piece hp)
    rw [List.intercalate_cons_cons, List.append_assoc]
    exact (h piece List.mem_cons_self).append (.char hj hrest)

theorem isUnreserved_of_isHexDigit {c : Char} (h : isHexDigit c = true) : isUnreserved c = true := by
  unfold isHexDigit hexValue? at h
  have hand : ∀ {p q : Prop} [Decidable p] [Decidable q], p → q → (decide p && decide q) = true :=
    fun hp hq => Bool.and_eq_true_iff.2 ⟨decide_eq_true hp, decide_eq_true hq⟩
  have halnum : c.isAlphanum = true → isUnreserved c = true :=
    fun h => Bool.or_eq_true_iff.2 (.inl h)
  split at h
  · next hd =>
    have hdigit : c.isDigit = true := hand hd.1 hd.2
    exact halnum (Bool.or_eq_true_iff.2 (.inr hdigit))
  split at h
  · next hu =>
    have hupper : c.isUpper = true := decide_eq_true ⟨hu.1, UInt32.le_trans hu.2 (by decide)⟩
    have halpha : c.isAlpha = true := Bool.or_eq_true_iff.2 (.inl hupper)
    exact halnum (Bool.or_eq_true_iff.2 (.inl halpha))
  split at h
  · next hl =>
    have hlower : c.isLower = true := hand hl.1 (UInt32.le_trans hl.2 (by decide))
    have halpha : c.isAlpha = true := Bool.or_eq_true_iff.2 (.inr hlower)
    exact halnum (Bool.or_eq_true_iff.2 (.inl halpha))
  · cases h

theorem oneUnit_of_unit? {t taken left : Text} (h : unit? accept t = some (taken, left)) :
    OneUnit accept taken := by
  cases t with
  | nil => simp [unit?] at h
  | cons c t =>
    by_cases hc : accept c = true
    · simp only [unit?, hc, if_true, Option.some.injEq, Prod.mk.injEq] at h
      exact h.1 ▸ .char hc
    · simp only [unit?, hc] at h
      obtain ⟨a, b, ha, hb, rfl, -⟩ := escape?_eq_some h
      exact .escape ha hb

theorem Units.of_unit? {t taken left : Text} (h : unit? accept t = some (taken, left)) :
    Units accept taken := by
  cases oneUnit_of_unit? h with
  | char hc => exact .char hc .nil
  | escape ha hb => exact .escape ha hb .nil

theorem Units.steps (limit : Nat) (t : Text) : Units accept (steps (unit? accept) limit t).1 := by
  induction limit generalizing t with
  | zero => exact .nil
  | succ limit ih =>
    unfold Text.steps
    split
    · exact .nil
    · next taken left h => exact (Units.of_unit? h).append (ih left)

theorem Units.run (limit : Option Nat) (t : Text) : Units accept (run accept limit t).1 :=
  Units.steps _ t

theorem steps_congr {step : Text → Option (Text × Text)} (hs : Advances step) {limit more : Nat}
    {t : Text} (h : t.length ≤ limit) (hm : t.length ≤ more) :
    steps step limit t = steps step more t := by
  induction limit generalizing more t with
  | zero =>
    rw [List.length_eq_zero_iff.1 (Nat.le_zero.1 h)]
    cases more with
    | zero => rfl
    | succ more => simp [steps, hs.nil]
  | succ limit ih =>
    cases more with
    | zero =>
      rw [List.length_eq_zero_iff.1 (Nat.le_zero.1 hm)]
      simp [steps, hs.nil]
    | succ more =>
      unfold steps
      cases hstep : step t with
      | none => rfl
      | some r =>
        obtain ⟨ht, hne⟩ := hs _ r.1 r.2 hstep
        have hlen : t.length = r.1.length + r.2.length := by rw [ht, List.length_append]
        have hpos : 0 < r.1.length := List.length_pos_iff.2 hne
        have hleft : steps step limit r.2 = steps step more r.2 := ih (by omega) (by omega)
        simp only [hleft]

theorem steps_of_eq_none {step : Text → Option (Text × Text)} {t : Text} (h : step t = none)
    (limit : Nat) : steps step limit t = ([], t) := by
  cases limit with
  | zero => rfl
  | succ n => simp [steps, h]

theorem steps_cons {step : Text → Option (Text × Text)} (hs : Advances step) {t taken left : Text}
    (h : step t = some (taken, left)) {limit : Nat} (hlimit : t.length ≤ limit) :
    steps step limit t =
      (taken ++ (steps step left.length left).1, (steps step left.length left).2) := by
  obtain ⟨ht, hne⟩ := hs _ _ _ h
  have hpos : 0 < taken.length := List.length_pos_iff.2 hne
  have hlen : t.length = taken.length + left.length := by rw [ht, List.length_append]
  obtain ⟨n, rfl⟩ : ∃ n, limit = n + 1 := ⟨limit - 1, by omega⟩
  have hsteps : steps step n left = steps step left.length left :=
    steps_congr hs (by omega) (Nat.le_refl _)
  simp only [steps, h, hsteps]

theorem run_of_unit?_eq_none {rest : Text} (limit : Option Nat) (h : unit? accept rest = none) :
    run accept limit rest = ([], rest) := steps_of_eq_none h _

theorem unit?_cons_eq_none {c : Char} (hc : accept c = false) (hp : c ≠ '%') (rest : Text) :
    unit? accept (c :: rest) = none := by
  simp only [unit?, hc, Bool.false_eq_true, if_false]
  unfold escape?
  split
  · next heq => exact absurd (List.cons.inj heq).1 hp
  · rfl

theorem run_cons {t taken left : Text} (h : unit? accept t = some (taken, left)) :
    run accept none t = (taken ++ (run accept none left).1, (run accept none left).2) :=
  steps_cons (unit?_advances accept) h (Nat.le_refl _)

theorem unit?_escape (hp : accept '%' = false) {a b : Char} (ha : isHexDigit a = true)
    (hb : isHexDigit b = true) (t : Text) :
    unit? accept ('%' :: a :: b :: t) = some (['%', a, b], t) := by
  simp [unit?, hp, escape?, ha, hb]

theorem OneUnit.unit?_append (hp : accept '%' = false) {u : Text} (hu : OneUnit accept u)
    (rest : Text) : unit? accept (u ++ rest) = some (u, rest) := by
  cases hu with
  | char hc => simp [unit?, hc]
  | escape ha hb => exact unit?_escape hp ha hb rest

theorem OneUnit.length_pos {u : Text} (hu : OneUnit accept u) : 0 < u.length := by
  cases hu <;> simp

theorem run_of_units (hp : accept '%' = false) {t rest : Text} (ht : Units accept t)
    (hr : unit? accept rest = none) : run accept none (t ++ rest) = (t, rest) := by
  induction ht with
  | nil => exact run_of_unit?_eq_none none hr
  | @char c t hc _ ih =>
    have h : unit? accept (c :: (t ++ rest)) = some ([c], t ++ rest) := by simp [unit?, hc]
    rw [List.cons_append, run_cons h, ih]
    rfl
  | escape ha hb _ ih =>
    rw [List.cons_append, List.cons_append, List.cons_append, run_cons (unit?_escape hp ha hb _), ih]
    rfl

theorem Foreign.unit?_eq_none {rest : Text} (h : Foreign accept rest) :
    unit? accept rest = none := by
  cases rest with
  | nil => rfl
  | cons c rest =>
    obtain ⟨hc, hp, -⟩ := h c rfl
    exact unit?_cons_eq_none hc hp rest

theorem escape?_append {t rest : Text} (ht : t ≠ []) (h : Foreign accept rest) :
    escape? (t ++ rest) = (escape? t).map fun r => (r.1, r.2 ++ rest) := by
  match t, ht with
  | [c], _ =>
    have hn : escape? [c] = none := by unfold escape?; split <;> simp_all
    rw [hn]
    match rest with
    | [] => simpa using hn
    | [r] => unfold escape?; split <;> simp_all
    | r :: s :: rest =>
      obtain ⟨-, -, hr⟩ := h r rfl
      by_cases hc : c = '%' <;> simp [escape?, hc, hr]
  | [c, d], _ =>
    have hn : escape? [c, d] = none := by unfold escape?; split <;> simp_all
    rw [hn]
    match rest with
    | [] => simpa using hn
    | r :: rest =>
      obtain ⟨-, -, hr⟩ := h r rfl
      by_cases hc : c = '%' <;> simp [escape?, hc, hr]
  | c :: d :: e :: t, _ =>
    by_cases hc : c = '%'
    · subst hc
      by_cases hx : (isHexDigit d && isHexDigit e) = true <;> simp [escape?, hx]
    · simp [escape?, hc]

theorem unit?_append (t : Text) {rest : Text} (h : Foreign accept rest) :
    unit? accept (t ++ rest) = (unit? accept t).map fun r => (r.1, r.2 ++ rest) := by
  cases t with
  | nil => simpa [unit?] using h.unit?_eq_none
  | cons c t =>
    by_cases hc : accept c = true
    · simp [unit?, hc]
    · have he := escape?_append (List.cons_ne_nil c t) h
      simpa [unit?, hc] using he

theorem steps_append_foreign (limit : Nat) (t : Text) {rest : Text} (h : Foreign accept rest) :
    steps (unit? accept) limit (t ++ rest) =
      ((steps (unit? accept) limit t).1, (steps (unit? accept) limit t).2 ++ rest) := by
  induction limit generalizing t with
  | zero => rfl
  | succ limit ih =>
    unfold steps
    rw [unit?_append t h]
    cases unit? accept t with
    | none => rfl
    | some r => simp [ih]

theorem run_append_foreign (limit : Option Nat) (t : Text) {rest : Text} (h : Foreign accept rest) :
    run accept limit (t ++ rest) = ((run accept limit t).1, (run accept limit t).2 ++ rest) := by
  unfold run
  cases limit with
  | some n => exact steps_append_foreign n t h
  | none =>
    simp only [Option.getD_none]
    rw [steps_append_foreign _ t h]
    have hlen : t.length ≤ (t ++ rest).length := by simp
    rw [steps_congr (unit?_advances accept) hlen (Nat.le_refl t.length)]

end UriTemplate.Text
