import UriTemplate.Proofs.Units
import UriTemplate.Name

set_option autoImplicit false

namespace UriTemplate.Name

open Character Text

variable {u rest : Text}

inductive Continued : Text → Prop
  | nil : Continued []
  | unit {u t : Text} (hu : Part u) (ht : Continued t) : Continued (u ++ t)
  | dotted {u t : Text} (hu : Part u) (ht : Continued t) : Continued ('.' :: u ++ t)

theorem Continued.append {s t : Text} (hs : Continued s) (ht : Continued t) :
    Continued (s ++ t) := by
  induction hs with
  | nil => exact ht
  | unit hu _ ih => rw [List.append_assoc]; exact .unit hu ih
  | dotted hu _ ih => rw [List.append_assoc]; exact .dotted hu ih

theorem Valid.exists_continued {name : Text} (h : Valid name) :
    ∃ u t, Part u ∧ Continued t ∧ name = u ++ t := by
  induction h with
  | @unit u hu => exact ⟨u, [], hu, .nil, (List.append_nil u).symm⟩
  | @next name u _ hu ih =>
    obtain ⟨first, t, hfirst, ht, rfl⟩ := ih
    have hlast := Continued.unit hu .nil
    rw [List.append_nil] at hlast
    exact ⟨first, t ++ u, hfirst, ht.append hlast, List.append_assoc ..⟩
  | @dotted name u _ hu ih =>
    obtain ⟨first, t, hfirst, ht, rfl⟩ := ih
    have hlast := Continued.dotted hu .nil
    rw [List.append_nil] at hlast
    exact ⟨first, t ++ '.' :: u, hfirst, ht.append hlast, List.append_assoc ..⟩

theorem Valid.ne_nil {name : Text} (h : Valid name) : name ≠ [] := by
  induction h with
  | unit hu => cases hu <;> simp
  | next _ _ ih => simp [ih]
  | dotted _ _ _ => simp

theorem Part.oneUnit (hu : Part u) : OneUnit isVarchar u := by
  cases hu with
  | char c hc => exact .char hc
  | escape a b ha hb => exact .escape ha hb

theorem Part.unit?_append (hu : Part u) (rest : Text) :
    unit? isVarchar (u ++ rest) = some (u, rest) :=
  hu.oneUnit.unit?_append (by decide) rest

theorem Valid.unit?_append_ne_none {name : Text} (h : Valid name) (rest : Text) :
    unit? isVarchar (name ++ rest) ≠ none := by
  obtain ⟨u, t, hu, -, rfl⟩ := h.exists_continued
  rw [List.append_assoc, hu.unit?_append]
  exact Option.some_ne_none _

theorem more?_of_unit? {t taken left : Text} (h : unit? isVarchar t = some (taken, left)) :
    more? t = some (taken, left) := by
  unfold more?
  split
  · next rest =>
    rw [unit?_cons_eq_none (by decide) (by decide) rest] at h
    cases h
  · exact h

theorem more?_dot (hu : Part u) (rest : Text) : more? ('.' :: u ++ rest) = some ('.' :: u, rest) := by
  rw [List.cons_append, more?, hu.unit?_append]
  rfl

theorem more?_cons_eq_none {c : Char} (hc : isVarchar c = false) (hp : c ≠ '%') (hdot : c ≠ '.')
    (rest : Text) : more? (c :: rest) = none := by
  unfold more?
  split
  · next heq => exact absurd (List.cons.inj heq).1 hdot
  · exact unit?_cons_eq_none hc hp rest

theorem Continued.steps_append {t : Text} (ht : Continued t) (rest : Text) :
    steps more? (t ++ rest).length (t ++ rest) =
      (t ++ (steps more? rest.length rest).1, (steps more? rest.length rest).2) := by
  induction ht with
  | nil => rfl
  | @unit u t hu _ ih =>
    have hmore := more?_of_unit? (hu.unit?_append (t ++ rest))
    rw [List.append_assoc, steps_cons more?_advances hmore (Nat.le_refl _), ih, List.append_assoc]
  | @dotted u t hu _ ih =>
    have hmore := more?_dot hu (t ++ rest)
    rw [List.append_assoc, steps_cons more?_advances hmore (Nat.le_refl _), ih, List.append_assoc]

theorem Valid.munch_append {name : Text} (h : Valid name) (rest : Text) :
    munch (name ++ rest) =
      (name ++ (steps more? rest.length rest).1, (steps more? rest.length rest).2) := by
  obtain ⟨u, t, hu, ht, rfl⟩ := h.exists_continued
  unfold munch
  rw [List.append_assoc, hu.unit?_append]
  simp only [ht.steps_append rest, List.append_assoc]

theorem munch_append_of_valid {name : Text} (h : Valid name) (hrest : more? rest = none) :
    munch (name ++ rest) = (name, rest) := by
  rw [h.munch_append, steps_of_eq_none hrest, List.append_nil]

theorem more?_munch {t : Text} (h : (munch t).1 ≠ []) : more? (munch t).2 = none := by
  unfold munch at h ⊢
  split
  · next hn => simp [hn] at h
  · exact steps_of_length_le more?_advances (Nat.le_refl _)

/-- Text in front of a text that is empty or a name, and than which no name there is longer. -/
structure Longest (t name : Text) : Prop where
  isPrefix : name <+: t
  valid : name ≠ [] → Valid name
  longest : ∀ other, Valid other → other <+: t → other.length ≤ name.length

theorem longest_munch (t : Text) : Longest t (munch t).1 where
  isPrefix := ⟨_, munch_append t⟩
  valid := munch_valid
  longest := by
    rintro other hother ⟨rest, rfl⟩
    rw [hother.munch_append, List.length_append]
    exact Nat.le_add_right _ _

theorem Longest.length_le {t name other : Text} (h : Longest t name) (hother : Longest t other) :
    other.length ≤ name.length := by
  by_cases hnil : other = []
  · rw [hnil]
    exact Nat.zero_le _
  · exact h.longest other (hother.valid hnil) hother.isPrefix

theorem Longest.eq {t name other : Text} (h : Longest t name) (hother : Longest t other) :
    name = other := by
  have hpre : name <+: other :=
    List.prefix_of_prefix_length_le h.isPrefix hother.isPrefix (hother.length_le h)
  exact hpre.eq_of_length_le (h.length_le hother)

/-- The name that is taken at a place of a text is the longest one there, and it is empty exactly
    where no name stands. -/
theorem longest_drop_iff (t : Text) (pos : Nat) :
    let stop := pos + (munch (t.drop pos)).1.length
    (munch (t.drop pos)).1 = t.extract pos stop ∧
      (∀ name, Longest (t.drop pos) name ↔ name = t.extract pos stop) ∧
      (stop = pos ↔ ∀ name, Valid name → ¬ name <+: t.drop pos) := by
  intro stop
  have htaken := longest_munch (t.drop pos)
  have hslice : (munch (t.drop pos)).1 = t.extract pos stop := by
    rw [List.extract_eq_take_drop, Nat.add_sub_cancel_left]
    exact List.prefix_iff_eq_take.1 htaken.isPrefix
  refine ⟨hslice, fun name => ⟨fun h => ?_, ?_⟩, fun hstop name hname hpre => ?_, fun hnone => ?_⟩
  · rw [← hslice]
    exact h.eq htaken
  · rintro rfl
    rw [← hslice]
    exact htaken
  · have hpos := List.length_pos_iff.2 hname.ne_nil
    have hlen := htaken.longest name hname hpre
    omega
  · by_cases hnil : (munch (t.drop pos)).1 = []
    · change pos + (munch (t.drop pos)).1.length = pos
      rw [hnil]
      rfl
    · exact absurd htaken.isPrefix (hnone _ (htaken.valid hnil))

example : (munch ("?a.b%2Fc..d".toList.drop 1)).1 = "a.b%2Fc".toList ∧
    (munch "a.%4".toList).1 = ['a'] ∧ (munch ".a".toList).1 = [] := by decide

end UriTemplate.Name
