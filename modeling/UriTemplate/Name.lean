import UriTemplate.Text.Run

set_option autoImplicit false

namespace UriTemplate.Name

open Character Text

inductive Part : Text → Prop
  | char (c : Char) (h : isVarchar c) : Part [c]
  | escape (a b : Char) (ha : isHexDigit a) (hb : isHexDigit b) : Part ['%', a, b]

/-- The names: a unit, a name and a unit, or a name, a dot and a unit. -/
inductive Valid : Text → Prop
  | unit {u : Text} : Part u → Valid u
  | next {name u : Text} : Valid name → Part u → Valid (name ++ u)
  | dotted {name u : Text} : Valid name → Part u → Valid (name ++ '.' :: u)

def more? : Text → Option (Text × Text)
  | '.' :: rest => (unit? isVarchar rest).map fun (u, left) => ('.' :: u, left)
  | t => unit? isVarchar t

def munch (t : Text) : Text × Text :=
  match unit? isVarchar t with
  | none => ([], t)
  | some (u, rest) =>
    let tail := steps more? rest.length rest
    (u ++ tail.1, tail.2)

theorem more?_advances : Advances more? := by
  intro t taken left h
  unfold more? at h
  split at h
  · simp only [Option.map_eq_some_iff, Prod.mk.injEq] at h
    obtain ⟨⟨u, l⟩, hu, rfl, rfl⟩ := h
    obtain ⟨ht, -⟩ := unit?_advances _ _ _ _ hu
    exact ⟨by simpa using ht, by simp⟩
  · exact unit?_advances _ _ _ _ h

theorem part_of_unit? {t u rest : Text} (h : unit? isVarchar t = some (u, rest)) : Part u := by
  cases t with
  | nil => simp [unit?] at h
  | cons c t =>
    by_cases hc : isVarchar c
    · simp [unit?, hc] at h
      exact h.1 ▸ .char c hc
    · simp only [unit?, hc] at h
      obtain ⟨a, b, ha, hb, rfl, -⟩ := escape?_eq_some h
      exact .escape a b ha hb

theorem Valid.append_more {name t taken left : Text} (hn : Valid name)
    (h : more? t = some (taken, left)) : Valid (name ++ taken) := by
  unfold more? at h
  split at h
  · simp only [Option.map_eq_some_iff, Prod.mk.injEq] at h
    obtain ⟨⟨u, l⟩, hu, rfl, rfl⟩ := h
    exact .dotted hn (part_of_unit? hu)
  · exact .next hn (part_of_unit? h)

theorem Valid.append_steps {name : Text} (hn : Valid name) (limit : Nat) (t : Text) :
    Valid (name ++ (steps more? limit t).1) := by
  induction limit generalizing name t with
  | zero => simpa [steps] using hn
  | succ limit ih =>
    unfold steps
    split
    · simpa using hn
    · next taken left h => simpa using ih (hn.append_more h) left

theorem munch_valid {t : Text} (h : (munch t).1 ≠ []) : Valid (munch t).1 := by
  unfold munch at h ⊢
  split
  · next hn => simp [hn] at h
  · next u rest hu => exact (Valid.unit (part_of_unit? hu)).append_steps _ _

theorem munch_append (t : Text) : (munch t).1 ++ (munch t).2 = t := by
  unfold munch
  split
  · rfl
  · next u rest h =>
    have hu := (unit?_advances _ _ _ _ h).1
    simp only [List.append_assoc, steps_append more?_advances]
    exact hu.symm

end UriTemplate.Name
