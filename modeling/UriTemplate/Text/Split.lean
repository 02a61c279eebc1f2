import UriTemplate.Text.Character

set_option autoImplicit false

namespace UriTemplate.Text

def partition? (sep : Char) : Text → Option (Text × Text)
  | [] => none
  | c :: t => if c = sep then some ([], t) else (partition? sep t).map fun (l, r) => (c :: l, r)

/-- How many characters stand before the first occurrence of `target`. -/
def find? (target : Text) : Text → Option Nat
  | [] => if target.isEmpty then some 0 else none
  | c :: t => if target.isPrefixOf (c :: t) then some 0 else (find? target t).map (· + 1)

theorem partition?_eq_some {sep : Char} {t left right : Text}
    (h : partition? sep t = some (left, right)) : t = left ++ sep :: right ∧ sep ∉ left := by
  induction t generalizing left with
  | nil => simp [partition?] at h
  | cons c t ih =>
    by_cases hc : c = sep
    · simp only [partition?, hc, if_true, Option.some.injEq, Prod.mk.injEq] at h
      obtain ⟨rfl, rfl⟩ := h
      simp [hc]
    · simp only [partition?, hc, if_false, Option.map_eq_some_iff, Prod.mk.injEq] at h
      obtain ⟨⟨l, r⟩, hlr, rfl, rfl⟩ := h
      obtain ⟨rfl, hl⟩ := ih hlr
      simp [hl, Ne.symm hc]

theorem find?_eq_some {target t : Text} {n : Nat} (h : find? target t = some n) :
    target <+: t.drop n := by
  induction t generalizing n with
  | nil => simp [find?] at h; simp [h]
  | cons c t ih =>
    by_cases hp : target.isPrefixOf (c :: t)
    · simp only [find?, hp, if_true, Option.some.injEq] at h
      rw [← h]
      exact List.isPrefixOf_iff_prefix.1 hp
    · simp only [find?, hp, Bool.false_eq_true, if_false, Option.map_eq_some_iff] at h
      obtain ⟨m, hm, rfl⟩ := h
      exact ih hm

end UriTemplate.Text
