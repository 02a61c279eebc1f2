import UriTemplate.Proofs.Boundary

set_option autoImplicit false

namespace UriTemplate

open Character Text

def Text.Takes (accept : Char → Bool) (t left : Text) : Prop :=
  ∃ taken, t = taken ++ left ∧ Units accept taken

namespace Text.Takes

variable {accept : Char → Bool}

theorem refl (t : Text) : Takes accept t t := ⟨[], rfl, .nil⟩

theorem trans {t u w : Text} (ht : Takes accept t u) (hu : Takes accept u w) :
    Takes accept t w := by
  obtain ⟨first, rfl, hfirst⟩ := ht
  obtain ⟨next, rfl, hnext⟩ := hu
  exact ⟨first ++ next, (List.append_assoc ..).symm, hfirst.append hnext⟩

theorem cons {c : Char} {t : Text} (hc : accept c = true) : Takes accept (c :: t) t :=
  ⟨[c], rfl, .char hc .nil⟩

theorem run {narrow : Char → Bool} (limit : Option Nat) (t : Text)
    (h : ∀ c, narrow c = true → accept c = true) :
    Takes accept t (Text.run narrow limit t).2 :=
  ⟨_, (run_append narrow limit t).symm, (Units.run limit t).mono fun c _ => h c⟩

end Text.Takes

namespace Operator

variable {op : Operator}

theorem bodyChar_of_positionalChar {explode final : Bool} {c : Char}
    (h : op.positionalChar explode final c = true) : op.bodyChar c = true := by
  unfold positionalChar at h
  unfold bodyChar
  cases ha : op.allowsReserved <;> cases explode <;> simp [ha] at h ⊢ <;> grind

theorem bodyChar_of_namedChar {c : Char} (h : namedChar c = true) : op.bodyChar c = true := by
  unfold namedChar at h
  unfold bodyChar
  simp only [Bool.or_eq_true] at h ⊢
  rcases h with h | h
  · simp [h]
  · simp [h]

theorem bodyChar_joiner : op.bodyChar op.joiner = true := by simp [bodyChar]

end Operator

section positional

variable {op : Operator}

theorem VarSpec.readPositional_takes (v : VarSpec) (final : Bool) (t : Text) :
    Takes op.bodyChar t (v.readPositional op final t).2 := by
  unfold readPositional
  split
  · exact .run none t fun _ => Operator.bodyChar_of_positionalChar
  · exact .run v.limit? t fun _ => Operator.bodyChar_of_positionalChar

theorem readPositionals_takes (specs : List VarSpec) (t : Text) :
    Takes op.bodyChar t (readPositionals op specs t).2 := by
  induction specs generalizing t with
  | nil => exact .refl t
  | cons v later ih =>
    cases later with
    | nil => exact v.readPositional_takes true t
    | cons next later =>
      have hv : Takes op.bodyChar t (v.readPositional op false t).2 := v.readPositional_takes false t
      unfold readPositionals
      simp only
      split
      · exact hv
      · next rest hj =>
        rw [← List.append_eq_of_isPrefixOf?_eq_some hj] at hv
        exact (hv.trans (.cons Operator.bodyChar_joiner)).trans (ih rest)

end positional

section named

variable {op : Operator}

theorem readKey?_eq_some {first : Bool} {t key rest : Text}
    (h : readKey? op first t = some (key, rest)) :
    ∃ start, itemStart? op first t = some start ∧ run isUnreserved none start = (key, rest) ∧
      key ≠ [] := by
  unfold readKey? at h
  split at h
  · cases h
  · next start hs =>
    simp only at h
    split at h
    · cases h
    · next hne =>
      have hrun := Option.some.inj h
      refine ⟨start, hs, hrun, ?_⟩
      rw [hrun] at hne
      simpa using hne

theorem itemStart?_takes {first : Bool} {t start : Text} (h : itemStart? op first t = some start) :
    Takes op.bodyChar t start := by
  cases first with
  | true =>
    cases h
    exact .refl t
  | false =>
    rw [← List.append_eq_of_isPrefixOf?_eq_some h]
    exact .cons Operator.bodyChar_joiner

theorem readKey?_takes {first : Bool} {t key rest : Text}
    (h : readKey? op first t = some (key, rest)) : Takes op.bodyChar t rest := by
  obtain ⟨start, hs, hrun, -⟩ := readKey?_eq_some h
  have htail : Takes op.bodyChar start (run isUnreserved none start).2 :=
    .run none start fun _ => Operator.bodyChar_of_isUnreserved
  rw [hrun] at htail
  exact (itemStart?_takes hs).trans htail

theorem readNamedValue_takes (limit : Option Nat) (t : Text) :
    Takes op.bodyChar t (readNamedValue limit t).2 := by
  unfold readNamedValue
  split
  · next rest =>
    have heq : op.bodyChar '=' = true := by simp [Operator.bodyChar]
    exact (Takes.cons heq).trans (.run limit rest fun _ => Operator.bodyChar_of_namedChar)
  · exact .refl t

theorem readItems_takes (later : List Text) (first : Bool) (t : Text) :
    Takes op.bodyChar t (readItems op later first t).2 := by
  fun_induction readItems op later first t with
  | case1 => exact .refl _
  | case2 => exact .refl _
  | case3 first t key rest hkey _ value more ih =>
    exact ((readKey?_takes hkey).trans (readNamedValue_takes none rest)).trans ih

theorem readNamed_takes (first : Bool) (specs : List VarSpec) (t : Text) :
    Takes op.bodyChar t (readNamed op first specs t).2 := by
  fun_induction readNamed op first specs t with
  | case1 => exact .refl _
  | case2 first v later t _ read _ ih => exact ih
  | case3 first v later t _ read _ ih => exact (readItems_takes _ first t).trans ih
  | case4 first v later t _ _ ih => exact ih
  | case5 first v later t _ rest read hkey ih =>
    exact ((readKey?_takes hkey).trans (readNamedValue_takes v.limit? rest)).trans ih
  | case6 first v later t _ key rest _ _ ih => exact ih

end named

theorem Expression.readValues_takes (strategy : Strategy) (e : Expression) (t : Text) :
    Takes e.operator.bodyChar t (e.readValues strategy t).2 := by
  cases strategy with
  | positional => exact readPositionals_takes e.specs t
  | named => exact readNamed_takes true e.specs t

section closed

variable {op : Operator} {rest : Text}

theorem VarSpec.readPositional_append (hop : op.allowsReserved = false) (hrest : op.Closed rest)
    (v : VarSpec) (final : Bool) (t : Text) :
    v.readPositional op final (t ++ rest) =
      ((v.readPositional op final t).1, (v.readPositional op final t).2 ++ rest) := by
  have hforeign : ∀ explode, Foreign (op.positionalChar explode final) rest := fun _ =>
    hrest.foreign hop fun _ => Operator.bodyChar_of_positionalChar
  unfold readPositional
  split
  · rw [run_append_foreign none t (hforeign true)]
  · rw [run_append_foreign v.limit? t (hforeign false)]

theorem isPrefixOf?_joiner_append (hrest : op.Closed rest) (t : Text) :
    [op.joiner].isPrefixOf? (t ++ rest) = ([op.joiner].isPrefixOf? t).map (· ++ rest) := by
  cases t with
  | nil =>
    rw [List.nil_append, hrest.isPrefixOf?_joiner]
    rfl
  | cons c t =>
    have h : ∀ u : Text, [op.joiner].isPrefixOf? (c :: u) =
        if op.joiner == c then some u else none := by
      intro u
      cases u <;> rfl
    rw [List.cons_append, h, h]
    split <;> rfl

theorem readPositionals_append (hop : op.allowsReserved = false) (hrest : op.Closed rest)
    (specs : List VarSpec) (t : Text) :
    readPositionals op specs (t ++ rest) =
      ((readPositionals op specs t).1, (readPositionals op specs t).2 ++ rest) := by
  induction specs generalizing t with
  | nil => rfl
  | cons v later ih =>
    cases later with
    | nil =>
      unfold readPositionals
      rw [v.readPositional_append hop hrest]
    | cons next later =>
      unfold readPositionals
      simp only [v.readPositional_append hop hrest, isPrefixOf?_joiner_append hrest]
      cases [op.joiner].isPrefixOf? (v.readPositional op false t).2 with
      | none => rfl
      | some u =>
        simp only [Option.map_some, ih u]
        rfl

theorem itemStart?_append (hrest : op.Closed rest) (first : Bool) (t : Text) :
    itemStart? op first (t ++ rest) = (itemStart? op first t).map (· ++ rest) := by
  cases first with
  | true => rfl
  | false => exact isPrefixOf?_joiner_append hrest t

theorem readKey?_append (hop : op.allowsReserved = false) (hrest : op.Closed rest) (first : Bool)
    (t : Text) :
    readKey? op first (t ++ rest) = (readKey? op first t).map fun r => (r.1, r.2 ++ rest) := by
  have hforeign : Foreign isUnreserved rest :=
    hrest.foreign hop fun _ => Operator.bodyChar_of_isUnreserved
  unfold readKey?
  rw [itemStart?_append hrest]
  cases itemStart? op first t with
  | none => rfl
  | some start =>
    simp only [Option.map_some, run_append_foreign none start hforeign]
    split <;> rfl

theorem readNamedValue_append (hop : op.allowsReserved = false) (hrest : op.Closed rest)
    (limit : Option Nat) (t : Text) :
    readNamedValue limit (t ++ rest) =
      ((readNamedValue limit t).1, (readNamedValue limit t).2 ++ rest) := by
  have hforeign : Foreign namedChar rest :=
    hrest.foreign hop fun _ => Operator.bodyChar_of_namedChar
  unfold readNamedValue
  split
  · next u heq =>
    cases t with
    | nil =>
      rw [List.nil_append] at heq
      rw [heq] at hrest
      exact absurd rfl (hrest '=' rfl).2.2.2.1
    | cons c t =>
      obtain ⟨rfl, htail⟩ := List.cons.inj heq
      simp only [← htail, List.append_eq, run_append_foreign limit t hforeign]
  · next hne =>
    cases t with
    | nil => rfl
    | cons c t =>
      split
      · next u heq =>
        obtain ⟨rfl, rfl⟩ := List.cons.inj heq
        exact absurd rfl (hne (t ++ rest))
      · rfl

theorem readItems_of_none {later : List Text} {first : Bool} {t : Text}
    (h : readKey? op first t = none) : readItems op later first t = ([], t) := by
  rw [readItems]
  split
  · rfl
  · next hs => rw [h] at hs; cases hs

theorem readItems_of_mem {later : List Text} {first : Bool} {t key u : Text}
    (h : readKey? op first t = some (key, u)) (hkey : key ∈ later) :
    readItems op later first t = ([], t) := by
  rw [readItems]
  split
  · rfl
  · next hs =>
    rw [h] at hs
    cases hs
    rw [if_pos hkey]

theorem readItems_of_not_mem {later : List Text} {first : Bool} {t key u : Text}
    (h : readKey? op first t = some (key, u)) (hkey : key ∉ later) :
    readItems op later first t =
      (⟨key, (readNamedValue none u).1⟩ ::
          (readItems op later false (readNamedValue none u).2).1,
        (readItems op later false (readNamedValue none u).2).2) := by
  rw [readItems]
  split
  · next hs => rw [h] at hs; cases hs
  · next hs =>
    rw [h] at hs
    cases hs
    rw [if_neg hkey]

theorem readItems_append (hop : op.allowsReserved = false) (hrest : op.Closed rest)
    (later : List Text) (first : Bool) (t : Text) :
    readItems op later first (t ++ rest) =
      ((readItems op later first t).1, (readItems op later first t).2 ++ rest) := by
  fun_induction readItems op later first t with
  | case1 first t hkey =>
    refine readItems_of_none ?_
    rw [readKey?_append hop hrest, hkey]
    rfl
  | case2 first t key u hkey hmem =>
    have happend : readKey? op first (t ++ rest) = some (key, u ++ rest) := by
      rw [readKey?_append hop hrest, hkey]
      rfl
    exact readItems_of_mem happend hmem
  | case3 first t key u hkey hmem value more ih =>
    have happend : readKey? op first (t ++ rest) = some (key, u ++ rest) := by
      rw [readKey?_append hop hrest, hkey]
      rfl
    rw [readItems_of_not_mem happend hmem, readNamedValue_append hop hrest, ih]

theorem readNamed_append (hop : op.allowsReserved = false) (hrest : op.Closed rest) (first : Bool)
    (specs : List VarSpec) (t : Text) :
    readNamed op first specs (t ++ rest) =
      ((readNamed op first specs t).1, (readNamed op first specs t).2 ++ rest) := by
  induction specs generalizing first t with
  | nil => rfl
  | cons v later ih =>
    unfold readNamed
    split
    · simp only [readItems_append hop hrest, ih]
      split <;> rfl
    · rw [readKey?_append hop hrest]
      cases readKey? op first t with
      | none => exact ih first t
      | some r =>
        simp only [Option.map_some, readNamedValue_append hop hrest, ih]
        split <;> rfl

end closed

theorem Expression.readValues_append {e : Expression} (hop : e.operator.allowsReserved = false)
    {rest : Text} (hrest : e.operator.Closed rest) (strategy : Strategy) (t : Text) :
    e.readValues strategy (t ++ rest) =
      ((e.readValues strategy t).1, (e.readValues strategy t).2 ++ rest) := by
  cases strategy with
  | positional => exact readPositionals_append hop hrest e.specs t
  | named => exact readNamed_append hop hrest true e.specs t

end UriTemplate
