import UriTemplate.Text.Character

set_option autoImplicit false

namespace UriTemplate.Text

open Character

def escape? : Text → Option (Text × Text)
  | '%' :: a :: b :: rest =>
    if isHexDigit a && isHexDigit b then some (['%', a, b], rest) else none
  | _ => none

/-- The unit at the front of a text. An accepted percent sign stands for itself. -/
def unit? (accept : Char → Bool) : Text → Option (Text × Text)
  | [] => none
  | c :: rest => if accept c then some ([c], rest) else escape? (c :: rest)

def steps (step : Text → Option (Text × Text)) : Nat → Text → Text × Text
  | 0, t => ([], t)
  | limit + 1, t =>
    match step t with
    | none => ([], t)
    | some (taken, left) =>
      let more := steps step limit left
      (taken ++ more.1, more.2)

def run (accept : Char → Bool) (limit : Option Nat) (t : Text) : Text × Text :=
  steps (unit? accept) (limit.getD t.length) t

def Advances (step : Text → Option (Text × Text)) : Prop :=
  ∀ t taken left, step t = some (taken, left) → t = taken ++ left ∧ taken ≠ []

theorem escape?_eq_some {t taken left : Text} (h : escape? t = some (taken, left)) :
    ∃ a b, isHexDigit a ∧ isHexDigit b ∧ taken = ['%', a, b] ∧ t = taken ++ left := by
  unfold escape? at h
  split at h
  · split at h
    · next hx => simp at h hx; obtain ⟨rfl, rfl⟩ := h; exact ⟨_, _, hx.1, hx.2, rfl, rfl⟩
    · simp at h
  · simp at h

theorem unit?_advances (accept : Char → Bool) : Advances (unit? accept) := by
  intro t taken left h
  cases t with
  | nil => simp [unit?] at h
  | cons c rest =>
    by_cases hc : accept c
    · simp [unit?, hc] at h
      obtain ⟨rfl, rfl⟩ := h
      simp
    · simp only [unit?, hc] at h
      obtain ⟨a, b, -, -, rfl, ht⟩ := escape?_eq_some h
      exact ⟨ht, by simp⟩

theorem Advances.nil {step : Text → Option (Text × Text)} (hs : Advances step) : step [] = none := by
  cases h : step [] with
  | none => rfl
  | some r => exact absurd (hs _ r.1 r.2 h) fun ⟨ht, hne⟩ => hne (List.append_eq_nil_iff.1 ht.symm).1

theorem steps_append {step : Text → Option (Text × Text)} (hs : Advances step) (limit : Nat)
    (t : Text) : (steps step limit t).1 ++ (steps step limit t).2 = t := by
  induction limit generalizing t with
  | zero => rfl
  | succ limit ih =>
    unfold steps
    split
    · rfl
    · next taken left h => simp [ih, ← (hs _ _ _ h).1]

theorem steps_of_length_le {step : Text → Option (Text × Text)} (hs : Advances step) {limit : Nat}
    {t : Text} (h : t.length ≤ limit) : step (steps step limit t).2 = none := by
  induction limit generalizing t with
  | zero => rw [List.length_eq_zero_iff.1 (Nat.le_zero.1 h)]; exact hs.nil
  | succ limit ih =>
    unfold steps
    split
    · next hn => exact hn
    · next taken left hsome =>
      obtain ⟨rfl, hne⟩ := hs _ _ _ hsome
      have : 0 < taken.length := List.length_pos_iff.2 hne
      exact ih (by simp at h; omega)

theorem run_append (accept : Char → Bool) (limit : Option Nat) (t : Text) :
    (run accept limit t).1 ++ (run accept limit t).2 = t :=
  steps_append (unit?_advances accept) _ t

end UriTemplate.Text
