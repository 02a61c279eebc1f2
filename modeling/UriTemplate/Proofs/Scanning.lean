import UriTemplate.Proofs.Capturing

set_option autoImplicit false

namespace UriTemplate

open Character Text

variable {accept : Char → Bool}

namespace Text

theorem length_le_length_flatten {units : List Text} (h : ∀ u ∈ units, OneUnit accept u) :
    units.length ≤ units.flatten.length := by
  induction units with
  | nil => exact Nat.le_refl 0
  | cons u units ih =>
    have hu := (h u List.mem_cons_self).length_pos
    have htail := ih fun v hv => h v (List.mem_cons_of_mem u hv)
    rw [List.flatten_cons, List.length_append, List.length_cons]
    omega

theorem OneUnit.unit?_of_flatten_isPrefix (hp : accept '%' = false) {u t : Text}
    (hu : OneUnit accept u) {others : List Text} (h : (u :: others).flatten <+: t) :
    ∃ left, unit? accept t = some (u, left) ∧ others.flatten <+: left := by
  obtain ⟨more, rfl⟩ := h
  refine ⟨others.flatten ++ more, ?_, List.prefix_append _ _⟩
  rw [List.flatten_cons, List.append_assoc]
  exact hu.unit?_append hp _

theorem exists_units_of_steps (hp : accept '%' = false) (limit : Nat) (t : Text) :
    ∃ units : List Text, (steps (unit? accept) limit t).1 = units.flatten ∧
      (∀ u ∈ units, OneUnit accept u) ∧ units.length ≤ limit ∧
      ∀ others : List Text, (∀ u ∈ others, OneUnit accept u) → others.flatten <+: t →
        others.length ≤ limit → others <+: units := by
  induction limit generalizing t with
  | zero =>
    refine ⟨[], rfl, by simp, Nat.le_refl 0, fun others _ _ hlen => ?_⟩
    obtain rfl := List.length_eq_zero_iff.1 (Nat.le_zero.1 hlen)
    exact List.nil_prefix
  | succ limit ih =>
    cases hunit : unit? accept t with
    | none =>
      refine ⟨[], by simp [steps, hunit], by simp, Nat.zero_le _, fun others hothers hpre _ => ?_⟩
      cases others with
      | nil => exact List.nil_prefix
      | cons u others =>
        have hu := hothers u List.mem_cons_self
        obtain ⟨left, hleft, -⟩ := hu.unit?_of_flatten_isPrefix hp hpre
        rw [hunit] at hleft
        cases hleft
    | some step =>
      obtain ⟨taken, left⟩ := step
      obtain ⟨units, htaken, hunits, hlen, hlongest⟩ := ih left
      refine ⟨taken :: units, ?_, ?_, ?_, fun others hothers hpre hcount => ?_⟩
      · simp [steps, hunit, htaken]
      · exact List.forall_mem_cons.2 ⟨oneUnit_of_unit? hunit, hunits⟩
      · simpa using hlen
      · cases others with
        | nil => exact List.nil_prefix
        | cons u others =>
          obtain ⟨hu, hrest⟩ := List.forall_mem_cons.1 hothers
          obtain ⟨behind, hbehind, hpre⟩ := hu.unit?_of_flatten_isPrefix hp hpre
          rw [hunit] at hbehind
          cases hbehind
          apply (List.prefix_cons_inj taken).2
          apply hlongest others hrest hpre
          simpa using hcount

end Text

namespace Cursor

variable {text : Text} {c : Cursor} {limit : Option Nat}

/-- Units one behind the other at a cursor, up to its bound and at most as many as the limit says. -/
structure Scannable (c : Cursor) (accept : Char → Bool) (limit : Option Nat) (units : List Text) :
    Prop where
  each : ∀ u ∈ units, OneUnit accept u
  here : units.flatten <+: c.text.drop c.pos
  bounded : units = [] ∨ c.pos + units.flatten.length ≤ c.stop
  limited : ∀ n ∈ limit, units.length ≤ n

theorem scannable_iff {units : List Text} : c.Scannable accept limit units ↔
    (∀ u ∈ units, OneUnit accept u) ∧ units.flatten <+: c.window ∧
      units.length ≤ limit.getD c.window.length := by
  have hwindow : ∀ t : Text, t <+: c.window ↔ t <+: c.text.drop c.pos ∧ t.length ≤ c.stop - c.pos :=
    fun t => List.prefix_take_iff
  constructor
  · intro h
    have hcount := length_le_length_flatten h.each
    have hin : units.flatten <+: c.window := by
      refine (hwindow _).2 ⟨h.here, ?_⟩
      rcases h.bounded with rfl | hbound
      · exact Nat.zero_le _
      · omega
    refine ⟨h.each, hin, ?_⟩
    cases limit with
    | none => exact Nat.le_trans hcount hin.length_le
    | some n => exact h.limited n rfl
  · rintro ⟨hunits, hin, hlen⟩
    have hcount := length_le_length_flatten hunits
    obtain ⟨hhere, hshort⟩ := (hwindow _).1 hin
    refine ⟨hunits, hhere, ?_, ?_⟩
    · cases units with
      | nil => exact .inl rfl
      | cons u units =>
        rw [List.length_cons] at hcount
        exact .inr (by omega)
    · rintro n ⟨⟩
      exact hlen

theorem scan_isPrefix (c : Cursor) (accept : Char → Bool) (limit : Option Nat) :
    (c.scan accept limit).1 <+: c.window :=
  ⟨_, run_append accept limit c.window⟩

theorem scan_longest (hp : accept '%' = false) (c : Cursor) (limit : Option Nat) :
    ∃ units : List Text, (c.scan accept limit).1 = units.flatten ∧
      c.Scannable accept limit units ∧
      ∀ others, c.Scannable accept limit others → others <+: units := by
  obtain ⟨units, htaken, hunits, hlen, hlongest⟩ :=
    exists_units_of_steps hp (limit.getD c.window.length) c.window
  refine ⟨units, htaken, scannable_iff.2 ⟨hunits, ?_, hlen⟩, fun others hothers => ?_⟩
  · rw [← htaken]
    exact c.scan_isPrefix accept limit
  · obtain ⟨hothers, hin, hcount⟩ := scannable_iff.1 hothers
    exact hlongest others hothers hin hcount

theorem scan_eq_extract (c : Cursor) (accept : Char → Bool) (limit : Option Nat) :
    (c.scan accept limit).1 = c.text.extract c.pos (c.scan accept limit).2.pos := by
  have hpre : (c.scan accept limit).1 <+: c.text.drop c.pos :=
    (c.scan_isPrefix accept limit).trans (List.take_prefix _ _)
  change _ = c.text.extract c.pos (c.pos + (c.scan accept limit).1.length)
  rw [List.extract_eq_take_drop, Nat.add_sub_cancel_left]
  exact List.prefix_iff_eq_take.1 hpre

inductive Action
  | bound (boundary : Option Text)
  | peek (literal : Text)
  | consume (literal : Text)
  | matchLiteral (literal : Text)
  | scan (accept : Char → Bool) (limit : Option Nat)

/-- The cursor behind an action. A text that does not stand there leaves it where it is. -/
def act (c : Cursor) : Action → Cursor
  | .bound boundary => c.bound boundary
  | .peek _ => c
  | .consume literal => (c.consume? literal).getD c
  | .matchLiteral literal => (c.matchLiteral? literal).getD c
  | .scan accept limit => (c.scan accept limit).2

def after (c : Cursor) (actions : List Action) : Cursor := actions.foldl act c

structure Inside (text : Text) (c : Cursor) : Prop where
  text_eq : c.text = text
  pos_le : c.pos ≤ text.length
  stop_le : c.stop ≤ text.length

theorem Inside.ofText (text : Text) : Inside text (ofText text) :=
  ⟨rfl, Nat.zero_le _, Nat.le_refl _⟩

theorem Inside.bound (h : Inside text c) (boundary : Option Text) :
    Inside text (c.bound boundary) := by
  have hend : c.text.length ≤ text.length := Nat.le_of_eq (congrArg List.length h.text_eq)
  refine ⟨h.text_eq, h.pos_le, ?_⟩
  match boundary with
  | none => exact hend
  | some [] => exact hend
  | some (d :: target) =>
    unfold Cursor.bound
    cases hfind : find? (d :: target) c.remaining with
    | none => simpa only [hfind] using hend
    | some n =>
      have hlen := (find?_eq_some hfind).length_le
      rw [remaining, List.length_drop, List.length_drop, List.length_cons, h.text_eq] at hlen
      simp only [hfind]
      omega

theorem Inside.advance (h : Inside text c) {t : Text} (ht : t <+: c.remaining) :
    Inside text (c.advance t.length) := by
  have hlen := ht.length_le
  have hpos := h.pos_le
  rw [length_remaining, h.text_eq] at hlen
  refine ⟨h.text_eq, ?_, h.stop_le⟩
  change c.pos + t.length ≤ text.length
  omega

theorem consume?_eq_some {next : Cursor} {literal : Text} (h : c.consume? literal = some next) :
    literal <+: c.remaining ∧ next = c.advance literal.length := by
  unfold consume? at h
  split at h
  · next hpeek =>
    cases h
    exact ⟨List.isPrefixOf_iff_prefix.1 (Bool.and_eq_true_iff.1 hpeek).2, rfl⟩
  · cases h

theorem Inside.getD (h : Inside text c) {literal : Text} {next? : Option Cursor}
    (hnext : ∀ next, next? = some next →
      literal <+: c.remaining ∧ next = c.advance literal.length) :
    Inside text (next?.getD c) ∧ c.pos ≤ (next?.getD c).pos := by
  cases next? with
  | none => exact ⟨h, Nat.le_refl _⟩
  | some next =>
    obtain ⟨hstands, rfl⟩ := hnext next rfl
    exact ⟨h.advance hstands, Nat.le_add_right _ _⟩

theorem act_inside (h : Inside text c) (action : Action) :
    Inside text (c.act action) ∧ c.pos ≤ (c.act action).pos := by
  cases action with
  | bound boundary => exact ⟨h.bound boundary, Nat.le_refl _⟩
  | peek literal => exact ⟨h, Nat.le_refl _⟩
  | consume literal => exact h.getD fun _ => consume?_eq_some
  | matchLiteral literal => exact h.getD fun _ => matchLiteral?_eq_some
  | scan accept limit =>
    have htaken : (c.scan accept limit).1 <+: c.remaining :=
      (c.scan_isPrefix accept limit).trans (List.take_prefix _ _)
    exact ⟨h.advance htaken, Nat.le_add_right _ _⟩

theorem after_inside (h : Inside text c) (actions : List Action) :
    Inside text (c.after actions) ∧ c.pos ≤ (c.after actions).pos := by
  induction actions generalizing c with
  | nil => exact ⟨h, Nat.le_refl _⟩
  | cons action actions ih =>
    obtain ⟨hnext, hstep⟩ := act_inside h action
    obtain ⟨hlast, hrun⟩ := ih hnext
    exact ⟨hlast, Nat.le_trans hstep hrun⟩

/-- A cursor in front of a text stays in it and never goes back, and whenever it scans it takes the
    longest sequence of units that its bound and the limit allow, which is none beyond the bound. -/
theorem after_inside_and_scan_longest (text : Text) (done next : List Action) :
    let c := (ofText text).after done
    (c.text = text ∧ c.pos ≤ text.length ∧ c.stop ≤ text.length) ∧
      c.pos ≤ ((ofText text).after (done ++ next)).pos ∧
      ∀ (accept : Char → Bool) (limit : Option Nat), accept '%' = false →
        (c.scan accept limit).1 = text.extract c.pos (c.scan accept limit).2.pos ∧
          (c.stop < c.pos → (c.scan accept limit).1 = []) ∧
          ∃ units : List Text, (c.scan accept limit).1 = units.flatten ∧
            c.Scannable accept limit units ∧
            ∀ others, c.Scannable accept limit others → others <+: units := by
  intro c
  obtain ⟨hinside, -⟩ := after_inside (Inside.ofText text) done
  refine ⟨⟨hinside.text_eq, hinside.pos_le, hinside.stop_le⟩, ?_, fun accept limit hp => ?_⟩
  · rw [after, List.foldl_append]
    exact (after_inside hinside next).2
  · obtain ⟨units, htaken, hfits, hlongest⟩ := scan_longest hp c limit
    refine ⟨?_, fun hbehind => ?_, units, htaken, hfits, hlongest⟩
    · rw [scan_eq_extract, hinside.text_eq]
    · rcases hfits.bounded with rfl | hbound
      · exact htaken
      · omega

/-- The bound falls into an escape, and the scan stops in front of that. Behind the whole literal the
    same bound is stale. -/
theorem after_inside_and_scan_longest_stale :
    let text := "ab%C3%A9;".toList
    let c := (ofText text).after [.bound (some ['9'])]
    let d := (ofText text).after [.bound (some ['9']), .matchLiteral text]
    isUnreserved '%' = false ∧ (c.pos, c.stop) = (0, 7) ∧ (d.pos, d.stop) = (9, 7) ∧
      (∃ units : List Text, "ab%C3".toList = units.flatten ∧ c.Scannable isUnreserved none units ∧
        ∀ others, c.Scannable isUnreserved none others → others <+: units) ∧
      (d.scan isUnreserved none).1 = [] := by
  intro text c d
  have hp : isUnreserved '%' = false := by decide
  have htaken : (c.scan isUnreserved none).1 = "ab%C3".toList := by decide
  obtain ⟨-, -, hc⟩ := after_inside_and_scan_longest text [.bound (some ['9'])] []
  obtain ⟨-, -, hd⟩ :=
    after_inside_and_scan_longest text [.bound (some ['9']), .matchLiteral text] []
  obtain ⟨-, -, hlongest⟩ := hc isUnreserved none hp
  rw [htaken] at hlongest
  exact ⟨hp, by decide, by decide, hlongest, (hd isUnreserved none hp).2.1 (by decide)⟩

end Cursor

end UriTemplate
