import Mathlib.Algebra.Group.Nat.Defs
import UriTemplate.Proofs.Grammar

set_option autoImplicit false

namespace UriTemplate

open Text

namespace Digits

theorem ofDigitChars_lt {digits : Text} (h : ∀ c ∈ digits, c.isDigit = true) :
    Nat.ofDigitChars 10 digits 0 < 10 ^ digits.length := by
  have hfrom : ∀ (digits : Text) (start : Nat), (∀ c ∈ digits, c.isDigit = true) →
      Nat.ofDigitChars 10 digits start < (start + 1) * 10 ^ digits.length := by
    intro digits
    induction digits with
    | nil =>
      intro start _
      simp [Nat.ofDigitChars]
    | cons c digits ih =>
      intro start h
      have hc : c.toNat - '0'.toNat ≤ 9 := by
        have hdigit := h c List.mem_cons_self
        simp only [Char.isDigit, Bool.and_eq_true, decide_eq_true_eq] at hdigit
        have hle : c.toNat ≤ 57 := hdigit.2
        change c.toNat - 48 ≤ 9
        omega
      have hlater := ih (10 * start + (c.toNat - '0'.toNat)) fun d hd =>
        h d (List.mem_cons_of_mem c hd)
      rw [Nat.ofDigitChars_cons]
      calc Nat.ofDigitChars 10 digits (10 * start + (c.toNat - '0'.toNat))
          < (10 * start + (c.toNat - '0'.toNat) + 1) * 10 ^ digits.length := hlater
        _ ≤ ((start + 1) * 10) * 10 ^ digits.length := Nat.mul_le_mul_right _ (by omega)
        _ = (start + 1) * 10 ^ (c :: digits).length := by
          rw [List.length_cons, Nat.pow_succ, Nat.mul_assoc, Nat.mul_comm 10]
  simpa using hfrom digits 0 h

theorem length_ofNat_le {digits : Text} (h : ∀ c ∈ digits, c.isDigit = true)
    (hlength : digits.length ≤ limit) :
    (ofNat (Nat.ofDigitChars 10 digits 0)).length ≤ limit := by
  refine (Nat.length_toDigits_le_iff (by decide) (by decide)).2 ?_
  exact Nat.lt_of_lt_of_le (ofDigitChars_lt h) (Nat.pow_le_pow_right (by decide) hlength)

end Digits

namespace VarSpec

variable {v : VarSpec} {s : Text}

theorem Spelled.length_ofNat_le (h : v.Spelled s) :
    ∀ count ∈ v.limit?, (Digits.ofNat count).length ≤ Digits.limit := by
  cases h with
  | plain => exact fun count h => by cases h
  | exploded => exact fun count h => by cases h
  | limited _ hdigits hlength hcount =>
    intro count h
    cases h
    exact hcount ▸ Digits.length_ofNat_le hdigits hlength

theorem spelled_text (hname : Name.Valid v.name)
    (hlimit : ∀ count ∈ v.limit?, (Digits.ofNat count).length ≤ Digits.limit) :
    v.Spelled v.text := by
  obtain ⟨name, modifier⟩ := v
  cases modifier with
  | none => exact .plain hname
  | explode => exact .exploded hname
  | first count positive =>
    exact .limited hname (fun c hc => Nat.isDigit_of_mem_toDigits (by decide) (by decide) hc)
      (hlimit count rfl) (Nat.ofDigitChars_toDigits (by decide) (by decide)) positive

end VarSpec

theorem Scattered.spelled {specs : List VarSpec} {body : Text} (h : Scattered specs body) :
    ∀ v ∈ specs, ∃ s, v.Spelled s := by
  induction h with
  | nil => exact fun v hv => by cases hv
  | comma _ ih => exact ih
  | spec hv _ _ ih => exact List.forall_mem_cons.2 ⟨⟨_, hv⟩, ih⟩

theorem listed_intercalate {specs : List VarSpec} (hne : specs ≠ [])
    (h : ∀ v ∈ specs, v.Spelled v.text) : Listed specs ([','].intercalate (specs.map VarSpec.text)) := by
  induction specs with
  | nil => exact absurd rfl hne
  | cons v later ih =>
    obtain ⟨hv, hlater⟩ := List.forall_mem_cons.1 h
    cases later with
    | nil =>
      rw [List.map_singleton, List.intercalate_singleton]
      exact .one hv
    | cons w later =>
      rw [List.map_cons, List.map_cons, List.intercalate_cons_cons, List.append_assoc]
      exact .cons hv (ih (List.cons_ne_nil w later) hlater)

namespace Node

variable {nodes : List Node} {t : Text}

structure Regular (nodes : List Node) : Prop where
  wellFormed : ∀ n ∈ nodes, n.WellFormed
  limited : ∀ e, .expression e ∈ nodes → ∀ v ∈ e.specs, ∀ count ∈ v.limit?,
    (Digits.ofNat count).length ≤ Digits.limit
  apart : ∀ before first second after,
    nodes ≠ before ++ .literal first :: .literal second :: after

theorem Regular.tail {n : Node} (h : Regular (n :: nodes)) : Regular nodes where
  wellFormed m hm := h.wellFormed m (List.mem_cons_of_mem n hm)
  limited e he := h.limited e (List.mem_cons_of_mem n he)
  apart before first second after heq := h.apart (n :: before) first second after (by rw [heq]; rfl)

theorem length_ofNat_le_of_spelling (h : Spelling Scattered nodes t) :
    ∀ e, .expression e ∈ nodes → ∀ v ∈ e.specs, ∀ count ∈ v.limit?,
      (Digits.ofNat count).length ≤ Digits.limit := by
  induction h with
  | nil => exact fun e he => by cases he
  | literal _ _ _ _ ih =>
    intro e he
    rcases List.mem_cons.1 he with heq | he
    · cases heq
    · exact ih e he
  | expression _ _ hbody _ ih =>
    intro e he
    rcases List.mem_cons.1 he with heq | he
    · cases heq
      intro v hv
      obtain ⟨s, hs⟩ := hbody.spelled v hv
      exact hs.length_ofNat_le
    · exact ih e he

theorem not_spelling_literals {list : List VarSpec → Text → Prop} {first second : Text} :
    ¬ Spelling list (.literal first :: .literal second :: nodes) t := by
  intro h
  cases h with
  | literal _ _ hnext h =>
    cases h with
    | literal hne hbrace _ _ =>
      obtain ⟨c, second, rfl⟩ := List.exists_cons_of_ne_nil hne
      cases hnext c rfl
      exact hbrace List.mem_cons_self

theorem exists_spelling_of_append {list : List VarSpec → Text → Prop} {before : List Node}
    (h : Spelling list (before ++ nodes) t) : ∃ rest, Spelling list nodes rest := by
  induction before generalizing t with
  | nil => exact ⟨t, h⟩
  | cons n before ih =>
    cases h with
    | literal _ _ _ h => exact ih h
    | expression _ _ _ h => exact ih h

theorem regular_of_readNodes (h : readNodes t = .ok nodes) : Regular nodes where
  wellFormed := readNodes_wellFormed h
  limited := length_ofNat_le_of_spelling (spelling_of_readNodes h)
  apart before first second after heq := by
    obtain ⟨rest, hrest⟩ := exists_spelling_of_append (heq ▸ spelling_of_readNodes h)
    exact not_spelling_literals hrest

theorem Regular.head?_render {text : Text} (h : Regular (.literal text :: nodes)) :
    ∀ c ∈ (render nodes).head?, c = '{' := by
  cases nodes with
  | nil => exact fun c hc => by cases hc
  | cons n nodes =>
    cases n with
    | literal next => exact absurd rfl (h.apart [] text next nodes)
    | expression e => exact fun c hc => (Option.some.inj hc).symm

theorem Regular.spelling_render (h : Regular nodes) : Spelling Listed nodes (render nodes) := by
  induction nodes with
  | nil => exact .nil
  | cons n nodes ih =>
    have hlater := ih h.tail
    cases n with
    | literal text =>
      obtain ⟨hne, hbrace⟩ := h.wellFormed _ List.mem_cons_self
      exact .literal hne hbrace h.head?_render hlater
    | expression e =>
      obtain ⟨hne, hnames, hvalid⟩ := h.wellFormed _ List.mem_cons_self
      have hlimited := h.limited e List.mem_cons_self
      have hspelled : ∀ v ∈ e.specs, v.Spelled v.text := fun v hv =>
        VarSpec.spelled_text (hvalid _ (List.mem_map_of_mem hv)) (hlimited v hv)
      have hbody := listed_intercalate hne hspelled
      have htext : render (.expression e :: nodes) = '{' :: e.operator.symbol ++
          [','].intercalate (e.specs.map VarSpec.text) ++ '}' :: render nodes := by
        change e.text ++ render nodes = _
        unfold Expression.text
        rw [List.append_assoc, List.singleton_append]
      rw [htext]
      exact .expression hne hnames hbody hlater

/-- Reading gives regular nodes only, and each of these sequences from its own spelling. -/
theorem regular_and_ofText_render (nodes : List Node) :
    (∀ t, ofText t = .ok nodes → Regular nodes) ∧
      (Regular nodes → ofText (render nodes) = .ok nodes) := by
  refine ⟨fun t h => regular_of_readNodes (ofText_eq_ok_iff.1 h), fun h => ?_⟩
  have hscattered := h.spelling_render.mono fun _ _ => Listed.scattered
  exact ofText_eq_ok_iff.2 (readNodes_of_spelling hscattered)

theorem regular_and_ofText_render_stray :
    let nodes : List Node := [.literal "a,:*".toList,
      .expression ⟨.reserved, [⟨"b.%2A".toList, .first 10 (by decide)⟩, ⟨"%2c".toList, .explode⟩]⟩,
      .expression ⟨.plain, [⟨"d_1".toList, .none⟩]⟩]
    ofText "a,:*{+,b.%2A:010,,%2c*,}{d_1}".toList = .ok nodes ∧ Regular nodes ∧
      render nodes = "a,:*{+b.%2A:10,%2c*}{d_1}".toList ∧ ofText (render nodes) = .ok nodes := by
  intro nodes
  have hread : ofText "a,:*{+,b.%2A:010,,%2c*,}{d_1}".toList = .ok nodes := by
    with_unfolding_all rfl
  have hregular := (regular_and_ofText_render nodes).1 _ hread
  exact ⟨hread, hregular, by decide +kernel, (regular_and_ofText_render nodes).2 hregular⟩

end Node

end UriTemplate
