import Mathlib.Data.List.Forall2
import UriTemplate.Proofs.Expansion

set_option autoImplicit false

/-!
What is left of an expansion without unreserved characters and escapes are its delimiters. Encoded
text has none, so they depend on the shapes of the values alone, and values that are alike expand to
texts with the same delimiters. The dot between labels is no delimiter in this sense, since it is
unreserved and texts keep it.
-/

namespace UriTemplate

open Character Text

/-- What is left of a text without its unreserved characters and its escapes. -/
def Text.delimiters : Text → Text
  | [] => []
  | '%' :: a :: b :: rest =>
    if isHexDigit a && isHexDigit b then delimiters rest else '%' :: delimiters (a :: b :: rest)
  | c :: rest => if isUnreserved c then delimiters rest else c :: delimiters rest

namespace Text

theorem delimiters_cons {c : Char} (hp : c ≠ '%') (t : Text) :
    delimiters (c :: t) = if isUnreserved c then delimiters t else c :: delimiters t := by
  rw [delimiters]
  exact fun _ _ _ h _ => hp h

theorem delimiters_percent {t : Text} (h : escape? ('%' :: t) = none) :
    delimiters ('%' :: t) = '%' :: delimiters t := by
  match t with
  | [] => rfl
  | [a] => rfl
  | a :: b :: rest =>
    have hdigits : ¬ (isHexDigit a && isHexDigit b) = true := by simpa [escape?] using h
    rw [delimiters, if_neg hdigits]

theorem ne_percent_of_isUnreserved {c : Char} (hu : isUnreserved c = true) : c ≠ '%' := by
  rintro rfl
  cases hu

theorem Units.delimiters_eq_nil {t : Text} (h : Units isUnreserved t) : t.delimiters = [] := by
  induction h with
  | nil => rfl
  | char hc _ ih => rw [delimiters_cons (ne_percent_of_isUnreserved hc), if_pos hc, ih]
  | escape ha hb _ ih => simp [delimiters, ha, hb, ih]

variable {j : Char}

theorem delimiters_append_of_not_mem {t : Text} (h : '%' ∉ t) (u : Text) :
    delimiters (t ++ u) = delimiters t ++ delimiters u := by
  induction t with
  | nil => rfl
  | cons c t ih =>
    have hc : c ≠ '%' := fun heq => h (heq ▸ List.mem_cons_self)
    have htail := ih fun hmem => h (List.mem_cons_of_mem c hmem)
    rw [List.cons_append, delimiters_cons hc, delimiters_cons hc, htail]
    split <;> rfl

theorem delimiters_append_cons (hx : isHexDigit j = false) (t u : Text) :
    delimiters (t ++ j :: u) = delimiters t ++ delimiters (j :: u) := by
  fun_induction delimiters t with
  | case1 => rfl
  | case2 a b rest hdigits ih => simp [delimiters, hdigits, ih]
  | case3 a b rest hdigits ih => simpa [delimiters, hdigits] using ih
  | case4 c rest _ hu ih =>
    rw [List.cons_append, delimiters_cons (ne_percent_of_isUnreserved hu), if_pos hu, ih]
  | case5 c rest hshort hu ih =>
    by_cases hc : c = '%'
    · subst hc
      have hnone : escape? ('%' :: (rest ++ j :: u)) = none := by
        match rest, u with
        | [], [] => rfl
        | [], b :: u => simp [escape?, hx]
        | [a], u => simp [escape?, hx]
        | a :: b :: rest, u => exact absurd rfl (hshort a b rest rfl)
      rw [List.cons_append, delimiters_percent hnone, ih, List.cons_append]
    · rw [List.cons_append, delimiters_cons hc, if_neg hu, ih, List.cons_append]

theorem delimiters_intercalate (hp : j ≠ '%') (hx : isHexDigit j = false) (pieces : List Text) :
    delimiters ([j].intercalate pieces) = (delimiters [j]).intercalate (pieces.map delimiters) := by
  match pieces with
  | [] => rfl
  | [piece] => simp
  | piece :: next :: rest =>
    have hrest := delimiters_intercalate hp hx (next :: rest)
    have hnot : '%' ∉ [j] := fun h => hp (List.mem_singleton.1 h).symm
    rw [List.intercalate_cons_cons, List.append_assoc, List.singleton_append,
      delimiters_append_cons hx, ← List.singleton_append, delimiters_append_of_not_mem hnot, hrest]
    simp [List.intercalate_cons_cons]

theorem count_delimiters {c : Char} (hu : isUnreserved c = false) (hp : c ≠ '%') (t : Text) :
    (delimiters t).count c = t.count c := by
  have hne : ∀ {d : Char}, isUnreserved d = true → d ≠ c := by
    rintro d hd rfl
    rw [hu] at hd
    cases hd
  fun_induction delimiters t with
  | case1 => rfl
  | case2 a b rest hdigits ih =>
    obtain ⟨ha, hb⟩ := Bool.and_eq_true_iff.1 hdigits
    rw [ih, List.count_cons_of_ne hp.symm, List.count_cons_of_ne (hne (isUnreserved_of_isHexDigit ha)),
      List.count_cons_of_ne (hne (isUnreserved_of_isHexDigit hb))]
  | case3 a b rest _ ih => rw [List.count_cons_of_ne hp.symm, ih, List.count_cons_of_ne hp.symm]
  | case4 d rest _ hd ih => rw [ih, List.count_cons_of_ne (hne hd)]
  | case5 d rest _ _ ih => rw [List.count_cons, ih, List.count_cons]

end Text

/-- Where an operator leaves empty texts out, both texts are empty or neither is. -/
def Operator.BlankAlike (op : Operator) (s t : Text) : Prop :=
  op.naming = .pathStyle → (s = [] ↔ t = [])

theorem Operator.BlankAlike.isEmpty_eq {op : Operator} {s t : Text} (h : op.BlankAlike s t)
    (hstyle : op.naming = .pathStyle) : s.isEmpty = t.isEmpty := by
  rw [Bool.eq_iff_iff, List.isEmpty_iff, List.isEmpty_iff]
  exact h hstyle

/-- Values of one shape: texts, lists of one length, or mappings of one size. Only an operator that
    leaves empty texts out asks more, which is that they are empty at the same places. -/
inductive Value.Alike (op : Operator) : Value → Value → Prop
  | scalar {s t : Text} (h : op.BlankAlike s t) : Alike op (.scalar s) (.scalar t)
  | list {l m : List Text} (h : List.Forall₂ op.BlankAlike l m) : Alike op (.list l) (.list m)
  | mapping {d e : Assoc Text Text} (h : List.Forall₂ (fun p q => op.BlankAlike p.2 q.2) d e) :
      Alike op (.mapping d) (.mapping e)

structure Akin (op : Operator) (s t : Text) : Prop where
  delimiters_eq : s.delimiters = t.delimiters
  blank : op.BlankAlike s t

theorem forall₂_map {α β : Type} {r : α → α → Prop} {q : β → β → Prop} {f : α → β} {l m : List α}
    (h : List.Forall₂ r l m) (hf : ∀ a b, r a b → q (f a) (f b)) :
    List.Forall₂ q (l.map f) (m.map f) :=
  List.forall₂_map_left_iff.2 (List.forall₂_map_right_iff.2 (h.imp hf))

theorem map_eq_of_forall₂ {α β : Type} {r : α → α → Prop} {f : α → β} {l m : List α}
    (h : List.Forall₂ r l m) (hf : ∀ a b, r a b → f a = f b) : l.map f = m.map f := by
  have heq : List.Forall₂ Eq (l.map f) (m.map f) := forall₂_map h hf
  rwa [List.forall₂_eq_eq_eq] at heq

section

variable {op : Operator} (hop : op.allowsReserved = false)

theorem delimiters_pair {c : Char} (hu : isUnreserved c = false) (hp : c ≠ '%') (key t : Text) :
    (key ++ c :: t).delimiters = key.delimiters ++ c :: t.delimiters := by
  have hx : isHexDigit c = false := by
    rw [Bool.eq_false_iff]
    intro hx
    rw [isUnreserved_of_isHexDigit hx] at hu
    cases hu
  rw [delimiters_append_cons hx, delimiters_cons hp, hu, if_neg Bool.false_ne_true]

theorem delimiters_equals (key t : Text) :
    (key ++ '=' :: t).delimiters = key.delimiters ++ '=' :: t.delimiters :=
  delimiters_pair (by decide) (by decide) key t

theorem akin_commas {l m : List Text} (h : List.Forall₂ (Akin op) l m) :
    Akin op (commas l) (commas m) where
  delimiters_eq := by
    have hmap : l.map Text.delimiters = m.map Text.delimiters :=
      map_eq_of_forall₂ h fun _ _ hst => hst.delimiters_eq
    unfold commas
    rw [delimiters_intercalate (by decide) (by decide),
      delimiters_intercalate (by decide) (by decide), hmap]
  blank hstyle := by
    -- A single empty text has no comma that would show it.
    cases h with
    | nil => exact Iff.rfl
    | cons hst hrest =>
      cases hrest with
      | nil => simpa [commas] using hst.blank hstyle
      | cons => simp [commas, List.intercalate_cons_cons]

include hop

theorem delimiters_encode (t : Text) : (op.encode t).delimiters = [] := by
  rw [Operator.encode_eq hop]
  exact (Percent.encode_units isUnreserved t).delimiters_eq_nil

theorem akin_encode {s t : Text} (h : op.BlankAlike s t) : Akin op (op.encode s) (op.encode t) where
  delimiters_eq := by rw [delimiters_encode hop, delimiters_encode hop]
  blank hstyle := by
    rw [Operator.encode_eq hop, Percent.encode_eq_nil, Percent.encode_eq_nil]
    exact h hstyle

theorem akin_entry (d e : Text × Text) :
    Akin op (op.encode d.1 ++ ',' :: op.encode d.2) (op.encode e.1 ++ ',' :: op.encode e.2) where
  delimiters_eq := by
    have hencode := delimiters_encode hop
    rw [delimiters_pair (by decide) (by decide), delimiters_pair (by decide) (by decide)]
    simp only [hencode]
  blank _ := by simp

end

namespace VarSpec

variable {v : VarSpec} {op : Operator}

theorem cut_eq_nil {t : Text} : v.cut t = [] ↔ t = [] := by
  unfold cut limit?
  split
  · next count hcount =>
    split at hcount
    · next n hn hmod =>
      cases hcount
      simp [List.take_eq_nil_iff, Nat.pos_iff_ne_zero.1 hn]
    · cases hcount
  · exact Iff.rfl

theorem blankAlike_cut {s t : Text} (h : op.BlankAlike s t) : op.BlankAlike (v.cut s) (v.cut t) := by
  intro hstyle
  rw [cut_eq_nil, cut_eq_nil]
  exact h hstyle

theorem map_delimiters_units {r q : Rendered} (hname : r.name = q.name) (hr : r.keypairs = false)
    (hq : q.keypairs = false) (h : List.Forall₂ (Akin op) r.items q.items) :
    (r.units op.naming).map Text.delimiters = (q.units op.naming).map Text.delimiters := by
  unfold Rendered.units
  rw [hr, hq, if_neg Bool.false_ne_true, if_neg Bool.false_ne_true, hname]
  cases hstyle : op.naming with
  | bare => exact map_eq_of_forall₂ h fun s t hst => hst.delimiters_eq
  | named =>
    simp only [List.map_map]
    refine map_eq_of_forall₂ h fun s t hst => ?_
    simp only [Function.comp_apply, delimiters_equals, hst.delimiters_eq]
  | pathStyle =>
    simp only [List.map_map]
    refine map_eq_of_forall₂ h fun s t hst => ?_
    simp only [Function.comp_apply, hst.blank.isEmpty_eq hstyle]
    split
    · rfl
    · rw [delimiters_equals, delimiters_equals, hst.delimiters_eq]

theorem delimiters_keypair (hop : op.allowsReserved = false) {d e : Text × Text}
    (h : op.BlankAlike d.2 e.2) : (op.keypair d).delimiters = (op.keypair e).delimiters := by
  have hencode := delimiters_encode hop
  unfold Operator.keypair
  by_cases hstyle : op.naming = .pathStyle
  · rw [h.isEmpty_eq hstyle]
    split
    · rw [hencode, hencode]
    · simp only [delimiters_equals, hencode]
  · rw [if_neg fun hand => hstyle hand.2, if_neg fun hand => hstyle hand.2]
    simp only [delimiters_equals, hencode]

theorem map_delimiters_unitsOf (hop : op.allowsReserved = false) {x y : Option Value}
    (h : Option.Rel (Value.Alike op) x y) :
    (v.unitsOf op x).map Text.delimiters = (v.unitsOf op y).map Text.delimiters := by
  have hcut : ∀ s t : Text, op.BlankAlike s t → Akin op (op.encode (v.cut s)) (op.encode (v.cut t)) :=
    fun s t hst => akin_encode hop (blankAlike_cut hst)
  cases h with
  | none => rfl
  | some hshape =>
    cases hshape with
    | scalar hst => exact map_delimiters_units rfl rfl rfl (.cons (hcut _ _ hst) .nil)
    | list hlm =>
      have hitems : List.Forall₂ (Akin op) _ _ := forall₂_map hlm hcut
      unfold unitsOf render
      cases v.explodes with
      | false => exact map_delimiters_units rfl rfl rfl (.cons (akin_commas hitems) .nil)
      | true => exact map_delimiters_units rfl rfl rfl hitems
    | mapping hde =>
      unfold unitsOf render
      cases v.explodes with
      | false =>
        have hitems : List.Forall₂ (Akin op) _ _ := forall₂_map hde fun d e _ => akin_entry hop d e
        exact map_delimiters_units rfl rfl rfl (.cons (akin_commas hitems) .nil)
      | true =>
        -- Entries carry keys of their own, so they are the units themselves.
        have hkeypairs : ∀ entries : Assoc Text Text,
            (Rendered.mk v.name (.several (entries.map op.keypair)) true).units op.naming =
              entries.map op.keypair := fun _ => rfl
        simp only [if_true, hkeypairs, List.map_map]
        exact map_eq_of_forall₂ hde fun d e hde => delimiters_keypair hop hde

end VarSpec

theorem Operator.percent_not_mem_leader (op : Operator) : '%' ∉ op.leader := by
  cases op <;> decide

namespace Expression

theorem delimiters_assemble (op : Operator) (units : List Text) :
    (assemble op units).delimiters =
      if (units.map Text.delimiters).isEmpty then []
      else op.leader.delimiters ++ (delimiters [op.joiner]).intercalate (units.map Text.delimiters) := by
  obtain ⟨hp, hx⟩ := op.joiner_outside_escapes
  unfold assemble
  rw [List.isEmpty_map]
  split
  · rfl
  · rw [delimiters_append_of_not_mem op.percent_not_mem_leader, delimiters_intercalate hp hx]

variable {e : Expression}

theorem delimiters_write (hop : e.operator.allowsReserved = false)
    {given other : Text → Option Value}
    (h : ∀ v ∈ e.specs, Option.Rel (Value.Alike e.operator) (given v.name) (other v.name)) :
    (e.write given).delimiters = (e.write other).delimiters := by
  have hunits : (e.specs.flatMap fun v => v.unitsOf e.operator (given v.name)).map Text.delimiters =
      (e.specs.flatMap fun v => v.unitsOf e.operator (other v.name)).map Text.delimiters := by
    rw [List.map_flatMap, List.map_flatMap]
    exact List.flatMap_congr fun v hv => VarSpec.map_delimiters_unitsOf hop (h v hv)
  unfold write
  rw [delimiters_assemble, delimiters_assemble, hunits]

/-- Alike values give expansions with the same delimiters, of which encoded text brings none. -/
theorem expand_delimiters (hop : e.operator.allowsReserved = false) {first second : Assoc Text Datum}
    {given other : Text → Option Value} (hgiven : Gives first e.specs given)
    (hother : Gives second e.specs other)
    (h : ∀ v ∈ e.specs, Option.Rel (Value.Alike e.operator) (given v.name) (other v.name)) :
    ∃ uri more, e.expand .bare first = .ok uri ∧ e.expand .bare second = .ok more ∧
      uri.delimiters = more.delimiters ∧
      ∀ c ∈ ',' :: '=' :: e.operator.joiner :: e.operator.leader, isUnreserved c = false →
        uri.count c = more.count c ∧ ∀ t, c ∉ e.operator.encode t := by
  have hdelimiters := delimiters_write hop h
  refine ⟨e.write given, e.write other, expand_eq_write hgiven, expand_eq_write hother, hdelimiters,
    fun c hc hu => ?_⟩
  have hp : c ≠ '%' := by
    rintro rfl
    revert hc
    cases e.operator <;> decide
  refine ⟨?_, ?_⟩
  · rw [← count_delimiters hu hp, hdelimiters, count_delimiters hu hp]
  · rw [Operator.encode_eq hop]
    exact Percent.not_mem_encode hu hp

theorem expand_delimiters_pathParams :
    let e : Expression := ⟨.pathParams,
      [⟨['m'], .explode⟩, ⟨['l'], .none⟩, ⟨['u'], .none⟩, ⟨['s'], .first 2 (by decide)⟩]⟩
    let b : Assoc Text Value := [(['m'], .mapping [("k=".toList, ['v']), ("é".toList, [])]),
      (['l'], .list ["a,b".toList, []]), (['s'], .scalar "x;y".toList)]
    let c : Assoc Text Value := [(['m'], .mapping [([], ['/']), ("%".toList, [])]),
      (['l'], .list [['&'], []]), (['s'], .scalar ['z'])]
    e.operator.allowsReserved = false ∧ Gives (Datum.ofValues b) e.specs b.find? ∧
      Gives (Datum.ofValues c) e.specs c.find? ∧
      (∀ v ∈ e.specs,
        Option.Rel (Value.Alike e.operator) (b.find? v.name) (c.find? v.name)) ∧
      ∃ uri more, e.expand .bare (Datum.ofValues b) = .ok uri ∧
        e.expand .bare (Datum.ofValues c) = .ok more ∧ uri.delimiters = more.delimiters ∧
        uri.count ';' = more.count ';' := by
  intro e b c
  have hspecs : ∀ {p : VarSpec → Prop}, p ⟨['m'], .explode⟩ → p ⟨['l'], .none⟩ →
      p ⟨['u'], .none⟩ → p ⟨['s'], .first 2 (by decide)⟩ → ∀ v ∈ e.specs, p v := by
    intro p hm hl hu hs v hv
    simp only [e, List.mem_cons, List.not_mem_nil, or_false] at hv
    rcases hv with rfl | rfl | rfl | rfl
    · exact hm
    · exact hl
    · exact hu
    · exact hs
  have hb : Gives (Datum.ofValues b) e.specs b.find? := hspecs rfl rfl rfl rfl
  have hc : Gives (Datum.ofValues c) e.specs c.find? := hspecs rfl rfl rfl rfl
  have halike : ∀ v ∈ e.specs,
      Option.Rel (Value.Alike e.operator) (b.find? v.name) (c.find? v.name) := by
    refine hspecs (.some (.mapping ?_)) (.some (.list ?_)) .none (.some (.scalar ?_))
    · exact .cons (fun _ => by decide) (.cons (fun _ => by decide) .nil)
    · exact .cons (fun _ => by decide) (.cons (fun _ => by decide) .nil)
    · exact fun _ => by decide
  obtain ⟨uri, more, huri, hmore, hdelimiters, hcount⟩ := expand_delimiters rfl hb hc halike
  exact ⟨rfl, hb, hc, halike, uri, more, huri, hmore, hdelimiters,
    (hcount ';' (by decide) (by decide)).1⟩

/-- The dot between labels comes from a text as well: one text is written like a list of two, and
    texts of one shape are written with more dots or fewer. -/
theorem expand_label_dot :
    let e : Expression := ⟨.label, [⟨['x'], .explode⟩]⟩
    e.operator.allowsReserved = false ∧ e.operator.joiner = '.' ∧
      Value.Alike e.operator (.scalar "a.b".toList) (.scalar "ab".toList) ∧
      e.expand .bare [(['x'], .text "a.b".toList)] = .ok ".a.b".toList ∧
      e.expand .bare [(['x'], .text "ab".toList)] = .ok ".ab".toList ∧
      e.expand .bare [(['x'], .sequence .list [.text ['a'], .text ['b']])] = .ok ".a.b".toList ∧
      ".a.b".toList.count e.operator.joiner ≠ ".ab".toList.count e.operator.joiner := by
  intro e
  refine ⟨rfl, rfl, .scalar nofun, ?_, ?_, ?_, by decide⟩
  · with_unfolding_all rfl
  · with_unfolding_all rfl
  · with_unfolding_all rfl

end Expression

end UriTemplate
