import UriTemplate.Text.Percent

set_option autoImplicit false

/-!
No character begins with a byte that goes on with another one. So the bytes of a character end
whatever was pending and give the character, `feedAll_bytes_of_bounded`, and it makes no difference
to decoding whether a character is escaped or not, `decodeFrom_encodeChar`.
-/

namespace UriTemplate

open Character Text

namespace Utf8

def State.Bounded : State → Prop
  | .idle => True
  | .pending _ _ low high => 0x80 ≤ low ∧ high ≤ 0xBF

theorem start_bounded (b : Nat) : (start b).2.Bounded := by
  unfold start
  split
  · trivial
  split
  · trivial
  split
  · exact ⟨Nat.le_refl _, Nat.le_refl _⟩
  split
  · constructor <;> split <;> decide
  split
  · constructor <;> split <;> decide
  · trivial

theorem feed_bounded (s : State) (b : Nat) : (feed s b).2.Bounded := by
  cases s with
  | idle => exact start_bounded b
  | pending bits owed low high =>
    rw [feed]
    split
    · simp only
      split
      · trivial
      · exact ⟨Nat.le_refl _, Nat.le_refl _⟩
    · exact start_bounded b

variable {s : State}

theorem feed_of_bounded (hs : s.Bounded) {b : Nat} (hb : b < 0x80 ∨ 0xBF < b) :
    feed s b = (flush s ++ (start b).1, (start b).2) := by
  cases s with
  | idle => rfl
  | pending bits owed low high =>
    obtain ⟨hlow, hhigh⟩ := hs
    have hout : ¬ (low ≤ b ∧ b ≤ high) := by omega
    rw [feed, if_neg hout]
    rfl

theorem exists_bytes_eq_cons (c : Char) : ∃ b bs, bytes c = b :: bs ∧ (b < 0x80 ∨ 0xBF < b) := by
  unfold bytes
  simp only
  split
  · next h => exact ⟨_, _, rfl, .inl h⟩
  split
  · exact ⟨_, _, rfl, .inr (by omega)⟩
  split
  · exact ⟨_, _, rfl, .inr (by omega)⟩
  · exact ⟨_, _, rfl, .inr (by omega)⟩

theorem feedAll_bytes_of_bounded (hs : s.Bounded) (c : Char) :
    feedAll s (bytes c) = (flush s ++ [c], .idle) := by
  obtain ⟨b, bs, hbytes, hb⟩ := exists_bytes_eq_cons c
  have hidle := feedAll_bytes c
  rw [hbytes] at hidle ⊢
  have hfirst : (start b).1 ++ (feedAll (start b).2 bs).1 = [c] := congrArg Prod.fst hidle
  have hlast : (feedAll (start b).2 bs).2 = .idle := congrArg Prod.snd hidle
  simp only [feedAll, feed_of_bounded hs hb, List.append_assoc, hfirst, hlast]

end Utf8

theorem Text.escape?_of_ne {c : Char} (hc : c ≠ '%') (t : Text) : escape? (c :: t) = none := by
  unfold escape?
  split
  · next h => exact absurd (List.cons.inj h).1 hc
  · rfl

/-- A text ends, or begins with an escape, or with a character that opens none. -/
@[elab_as_elim]
theorem Text.escapeRec {motive : Text → Prop} (nil : motive [])
    (escape : ∀ (a b : Char) (rest : Text), isHexDigit a = true → isHexDigit b = true →
      motive rest → motive ('%' :: a :: b :: rest))
    (char : ∀ (c : Char) (rest : Text), escape? (c :: rest) = none → motive rest →
      motive (c :: rest))
    (t : Text) : motive t := by
  induction hlen : t.length using Nat.strongRecOn generalizing t with
  | ind n ih =>
    subst hlen
    cases t with
    | nil => exact nil
    | cons c rest =>
      cases h : escape? (c :: rest) with
      | none => exact char c rest h (ih _ (Nat.lt_succ_self _) rest rfl)
      | some r =>
        obtain ⟨taken, left⟩ := r
        obtain ⟨a, b, ha, hb, rfl, ht⟩ := escape?_eq_some h
        rw [ht]
        exact escape a b left ha hb (ih _ (by simp [ht]; omega) left rfl)

namespace Percent

open Utf8

theorem exists_byte?_eq_some {a b : Char} (ha : isHexDigit a = true) (hb : isHexDigit b = true) :
    ∃ byte, byte? a b = some byte := by
  obtain ⟨high, hhigh⟩ := Option.isSome_iff_exists.1 ha
  obtain ⟨low, hlow⟩ := Option.isSome_iff_exists.1 hb
  exact ⟨16 * high + low, by rw [byte?, hhigh, hlow]⟩

theorem byte?_eq_none {a b : Char} (h : (isHexDigit a && isHexDigit b) = false) :
    byte? a b = none := by
  unfold byte?
  split
  · next high low hhigh hlow =>
    rw [isHexDigit, isHexDigit, hhigh, hlow] at h
    cases h
  · rfl

theorem decodeFrom_escape (s : State) {a b : Char} {byte : Nat} (h : byte? a b = some byte)
    (t : Text) :
    decodeFrom s ('%' :: a :: b :: t) = (feed s byte).1 ++ decodeFrom (feed s byte).2 t := by
  rw [decodeFrom, h]

theorem decodeFrom_cons (s : State) {c : Char} {t : Text} (h : escape? (c :: t) = none) :
    decodeFrom s (c :: t) = flush s ++ c :: decodeFrom .idle t := by
  unfold escape? at h
  split at h
  · next a b rest heq =>
    obtain ⟨rfl, rfl⟩ := List.cons.inj heq
    split at h
    · cases h
    · next hx => rw [decodeFrom, byte?_eq_none (Bool.eq_false_iff.2 hx)]
  · next hnot =>
    rw [decodeFrom]
    rintro a b rest rfl rfl
    exact hnot a b rest rfl

theorem decodeFrom_encodeChar {safe : Char → Bool} (hp : safe '%' = false) {s : State}
    (hs : s.Bounded) (c : Char) (t : Text) :
    decodeFrom s (encodeChar safe c ++ t) = flush s ++ c :: decodeFrom .idle t := by
  unfold encodeChar
  split
  · next hc =>
    refine decodeFrom_cons s (escape?_of_ne ?_ t)
    rintro rfl
    rw [hp] at hc
    cases hc
  · rw [decodeFrom_escapeBytes s (bytes_lt c), feedAll_bytes_of_bounded hs, List.append_assoc]
    rfl

end Percent

end UriTemplate
