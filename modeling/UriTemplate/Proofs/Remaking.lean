import UriTemplate.Proofs.Captured
import UriTemplate.Proofs.Naming

set_option autoImplicit false

/-!
Without modifiers an expression writes one raw text for each defined variable. What it captures
from its own text may be other values than were written, shifted to other variables or cut at other
places, but these make the same units again.
-/

namespace UriTemplate

open Character Text

variable {op : Operator}

namespace VarSpec

variable {v : VarSpec}

theorem render_ofRaw (hop : op.allowsReserved = false) (hv : v.modifier = .none) {raw : Text}
    (hraw : Percent.Canonical (· = ',') raw) :
    v.render op (.ofRaw raw) = ⟨v.name, .single raw, false⟩ := by
  have he := explodes_of_none hv
  have hcut : ∀ t : Text, v.cut t = t := cut_of_limit? (limit?_of_none hv)
  obtain ⟨items, hne, rfl⟩ := hraw.exists_items
  unfold Value.ofRaw
  rw [Percent.decode_splitOn_commas hne, ← Operator.encode_eq hop]
  match items with
  | [] => exact absurd rfl hne
  | [t] => simp [Value.ofTexts, render, hcut]
  | t :: next :: rest => simp [Value.ofTexts, render, hcut, he, commas]

theorem unitsOf_ofRaw (hn : op.naming = .bare) (hop : op.allowsReserved = false)
    (hv : v.modifier = .none) {raw : Text} (hraw : Percent.Canonical (· = ',') raw) :
    v.unitsOf op (some (.ofRaw raw)) = [raw] := by
  change (v.render op (.ofRaw raw)).units op.naming = [raw]
  rw [render_ofRaw hop hv hraw, hn]
  rfl

end VarSpec

/-- Captures of some of the variables, in order, that make these units again. -/
inductive Remakes (op : Operator) : List VarSpec → List (Text × Value) → List Text → Prop
  | nil : Remakes op [] [] []
  | skip (v : VarSpec) {specs : List VarSpec} {captures : List (Text × Value)} {units : List Text}
      (h : Remakes op specs captures units) : Remakes op (v :: specs) captures units
  | take (v : VarSpec) (raw : Text) {specs : List VarSpec} {captures : List (Text × Value)}
      {units : List Text} (h : Remakes op specs captures units) :
      Remakes op (v :: specs) ((v.name, .ofRaw raw) :: captures)
        (v.unitsOf op (some (.ofRaw raw)) ++ units)

namespace Remakes

variable {specs : List VarSpec} {captures : List (Text × Value)} {units : List Text}

theorem none (op : Operator) (specs : List VarSpec) : Remakes op specs [] [] := by
  induction specs with
  | nil => exact .nil
  | cons v specs ih => exact .skip v ih

theorem keys_sublist (h : Remakes op specs captures units) :
    (Assoc.keys captures).Sublist (VarSpec.names specs) := by
  induction h with
  | nil => exact .slnil
  | skip v _ ih => exact ih.cons v.name
  | take v raw _ ih => exact ih.cons_cons v.name

theorem exists_raw (h : Remakes op specs captures units) {name : Text} {x : Value}
    (hx : Assoc.find? captures name = some x) : ∃ raw, x = .ofRaw raw := by
  induction h with
  | nil => cases hx
  | skip _ _ ih => exact ih hx
  | take _ raw _ ih =>
    unfold Assoc.find? at hx
    split at hx
    · cases hx
      exact ⟨raw, rfl⟩
    · exact ih hx

theorem units_eq (h : Remakes op specs captures units) (hn : (VarSpec.names specs).Nodup)
    {value : Text → Option Value} (hvalue : ∀ v ∈ specs, value v.name = Assoc.find? captures v.name) :
    (specs.flatMap fun v => v.unitsOf op (value v.name)) = units := by
  induction h with
  | nil => rfl
  | @skip v specs captures units h ih =>
    obtain ⟨hv, hn⟩ := List.nodup_cons.1 hn
    have habsent : Assoc.find? captures v.name = .none :=
      Assoc.find?_eq_none_iff.2 fun hm => hv (h.keys_sublist.subset hm)
    rw [List.flatMap_cons, hvalue v List.mem_cons_self, habsent,
      ih hn fun w hw => hvalue w (List.mem_cons_of_mem v hw)]
    rfl
  | @take v raw specs captures units h ih =>
    obtain ⟨hv, hn⟩ := List.nodup_cons.1 hn
    have hlater : ∀ w ∈ specs, value w.name = Assoc.find? captures w.name := by
      intro w hw
      rw [hvalue w (List.mem_cons_of_mem v hw), VarSpec.find?_cons_of_mem hv hw]
    rw [List.flatMap_cons, hvalue v List.mem_cons_self, Assoc.find?, if_pos rfl, ih hn hlater]

end Remakes

theorem positionalChar_joiner (op : Operator) : op.positionalChar false false op.joiner = false := by
  simp [Operator.positionalChar]

theorem positionalChar_percent (op : Operator) (explode final : Bool) :
    op.positionalChar explode final '%' = false := by
  revert explode final
  cases op <;> decide

theorem readPositional_units {v : VarSpec} (hv : v.modifier = .none) {final : Bool} {raw rest : Text}
    (hraw : Units (op.positionalChar false final) raw)
    (hstop : unit? (op.positionalChar false final) rest = none) :
    v.readPositional op final (raw ++ rest) = (.ofRaw raw, rest) := by
  have hrun := run_of_units (positionalChar_percent op false final) hraw hstop
  have he := VarSpec.explodes_of_none hv
  have hlimit := VarSpec.limit?_of_none hv
  unfold VarSpec.readPositional
  simp only [he, Bool.false_eq_true, if_false, hlimit, hrun]

section positional

variable (hop : op.allowsReserved = false)

include hop

theorem readPositional_canonical {v : VarSpec} (hv : v.modifier = .none) {final : Bool}
    {raw rest : Text} (hraw : Percent.Canonical (· = ',') raw)
    (hjoiner : final = true ∨ op.joiner ∉ raw)
    (hstop : unit? (op.positionalChar false final) rest = none) :
    v.readPositional op final (raw ++ rest) = (.ofRaw raw, rest) := by
  have hunits : Units (op.positionalChar false final) raw := by
    refine hraw.units fun c hc hclass => ?_
    have hkept : final = true ∨ c ≠ op.joiner := hjoiner.imp_right fun h heq => h (heq ▸ hc)
    unfold Operator.positionalChar
    simpa [hop, hkept] using hclass
  exact readPositional_units hv hunits hstop

/-- Positional variables read canonical text to its end, and what they capture makes it again. The
    joiner stays in the last value, so it must not come too often where no value can have it. -/
theorem readPositionals_remakes (hn : op.naming = .bare) {specs : List VarSpec} (hne : specs ≠ [])
    (hmod : ∀ v ∈ specs, v.modifier = .none) {t : Text}
    (ht : Percent.Canonical (fun c => c = ',' || c = op.joiner) t)
    (hfit : isUnreserved op.joiner = true ∨ op.joiner = ',' ∨ t.count op.joiner < specs.length) :
    ∃ captures units, readPositionals op specs t = (captures, []) ∧
      Remakes op specs captures units ∧ units ≠ [] ∧ [op.joiner].intercalate units = t := by
  have hp := op.joiner_outside_escapes
  induction specs generalizing t with
  | nil => exact absurd rfl hne
  | cons v later ih =>
    have hv := hmod v List.mem_cons_self
    have hlast : Percent.Canonical (· = ',') t → ∀ final, (final = true ∨ op.joiner ∉ t) →
        v.readPositional op final t = (.ofRaw t, []) := by
      intro hraw final hjoiner
      have hread := readPositional_canonical hop hv hraw hjoiner (show unit? _ [] = none from rfl)
      rwa [List.append_nil] at hread
    have htake : Percent.Canonical (· = ',') t →
        Remakes op (v :: later) [(v.name, .ofRaw t)] [t] := by
      intro hraw
      have h := Remakes.take v t (Remakes.none op later)
      rwa [VarSpec.unitsOf_ofRaw hn hop hv hraw] at h
    cases later with
    | nil =>
      have hraw : Percent.Canonical (· = ',') t := by
        refine ht.of_separator (hfit.imp_right (Or.imp_right fun h => ?_))
        exact List.count_eq_zero.1 (Nat.lt_one_iff.1 h)
      refine ⟨_, _, ?_, htake hraw, List.cons_ne_nil t [], by simp⟩
      simp only [readPositionals, hlast hraw true (.inl rfl)]
    | cons next later =>
      by_cases hmem : op.joiner ∈ t
      · -- The value ends at the first joiner.
        obtain ⟨raw, rest, rfl, hnot⟩ := List.eq_append_cons_of_mem hmem
        obtain ⟨hraw, hrest⟩ := ht.split hp.2 hp.1
        have hraw := hraw.of_separator (.inr (.inr hnot))
        have hfit : isUnreserved op.joiner = true ∨ op.joiner = ',' ∨
            rest.count op.joiner < (next :: later).length := by
          refine hfit.imp_right (Or.imp_right fun h => ?_)
          rw [List.count_append, List.count_cons_self, List.length_cons] at h
          omega
        obtain ⟨captures, units, hread, hremakes, hunits, hjoin⟩ :=
          ih (List.cons_ne_nil next later) (fun w hw => hmod w (List.mem_cons_of_mem v hw)) hrest
            hfit
        have hown := readPositional_canonical hop hv hraw (.inr hnot)
          (unit?_cons_eq_none (positionalChar_joiner op) hp.1 rest)
        have htaken := Remakes.take v raw hremakes
        rw [VarSpec.unitsOf_ofRaw hn hop hv hraw] at htaken
        refine ⟨_, _, ?_, htaken, List.cons_ne_nil raw units, ?_⟩
        · have hnext : [op.joiner].isPrefixOf? (op.joiner :: rest) = some rest :=
            List.isPrefixOf?_eq_some_iff_append_eq.2 rfl
          simp only [readPositionals, hown, hnext, hread]
          rfl
        · obtain ⟨u, units, rfl⟩ := List.exists_cons_of_ne_nil hunits
          rw [List.singleton_append, List.intercalate_cons_cons, hjoin, List.append_assoc]
          rfl
      · have hraw := ht.of_separator (.inr (.inr hmem))
        refine ⟨_, _, ?_, htake hraw, List.cons_ne_nil t [], by simp⟩
        have hnext : [op.joiner].isPrefixOf? ([] : Text) = none := rfl
        simp only [readPositionals, hlast hraw false (.inr hmem), hnext]

end positional

theorem count_intercalate {j : Char} {pieces : List Text} (h : ∀ piece ∈ pieces, j ∉ piece) :
    ([j].intercalate pieces).count j = pieces.length - 1 := by
  match pieces with
  | [] => rfl
  | [piece] =>
    rw [List.intercalate_singleton]
    exact List.count_eq_zero.2 (h piece List.mem_cons_self)
  | piece :: next :: rest =>
    have hpiece := List.count_eq_zero.2 (h piece List.mem_cons_self)
    have hrest := count_intercalate fun p hp => h p (List.mem_cons_of_mem piece hp)
    rw [List.intercalate_cons_cons, List.append_assoc, List.count_append, List.singleton_append,
      List.count_cons_self, hpiece, hrest]
    simp only [List.length_cons]
    omega

theorem units_canonical (hn : op.naming = .bare) (hres : op.allowsReserved = false)
    (value : Text → Option Value) {specs : List VarSpec} (hmod : ∀ v ∈ specs, v.modifier = .none) :
    (∀ u ∈ specs.flatMap (fun v => v.unitsOf op (value v.name)), Percent.Canonical (· = ',') u) ∧
      (specs.flatMap fun v => v.unitsOf op (value v.name)).length ≤ specs.length := by
  induction specs with
  | nil => simp
  | cons v specs ih =>
    obtain ⟨hcanonical, hlength⟩ := ih fun w hw => hmod w (List.mem_cons_of_mem v hw)
    have he := VarSpec.explodes_of_none (hmod v List.mem_cons_self)
    rw [List.flatMap_cons, List.length_append, List.length_cons]
    cases value v.name with
    | none => exact ⟨hcanonical, Nat.le_succ_of_le (by simpa [VarSpec.unitsOf] using hlength)⟩
    | some x =>
      obtain ⟨raw, hraw, hrender⟩ := v.render_of_not_explodes hres he x
      have hone : v.unitsOf op (some x) = [raw] := by
        change (v.render op x).units op.naming = [raw]
        rw [hrender, hn]
        rfl
      rw [hone]
      constructor
      · intro u hu
        rcases List.mem_cons.1 hu with rfl | hu
        · exact hraw
        · exact hcanonical u hu
      · rw [List.length_singleton]
        omega

theorem remakes_items (hop : op.isNamed = true) (value : Text → Option Value)
    {specs : List VarSpec} (hmod : ∀ v ∈ specs, v.modifier = .none) :
    Remakes op specs
      (specs.filterMap fun v => (v.valueOf (v.itemsFor op (value v.name))).map (v.name, ·))
      (specs.flatMap fun v => v.unitsOf op (value v.name)) := by
  have hres := allowsReserved_of_isNamed hop
  induction specs with
  | nil => exact .nil
  | cons v specs ih =>
    have hv := hmod v List.mem_cons_self
    have hlater := ih fun w hw => hmod w (List.mem_cons_of_mem v hw)
    have he := VarSpec.explodes_of_none hv
    cases hx : value v.name with
    | none =>
      rw [List.filterMap_cons_none (by rw [hx]; rfl), List.flatMap_cons, hx]
      exact .skip v hlater
    | some x =>
      obtain ⟨raw, hraw, hrender⟩ := v.render_of_not_explodes hres he x
      have hvalue : v.valueOf (v.itemsFor op (some x)) = some (.ofRaw raw) := by
        change v.valueOf (v.items op x) = _
        rw [VarSpec.items_of_not_explodes he hrender]
        simp only [VarSpec.valueOf, he, Bool.false_eq_true, if_false, Operator.value?_item]
      have hunits : v.unitsOf op (some x) = v.unitsOf op (some (.ofRaw raw)) := by
        change (v.render op x).units op.naming = (v.render op (.ofRaw raw)).units op.naming
        rw [hrender, VarSpec.render_ofRaw hres hv hraw]
      rw [List.filterMap_cons_some (by rw [hx, hvalue]; rfl), List.flatMap_cons, hx, hunits]
      exact .take v raw hlater

namespace Expression

variable {e : Expression}

theorem parted_of_none (hmod : ∀ v ∈ e.specs, v.modifier = .none) (value : Text → Option Value) :
    e.Parted value := by
  have hplain : ∀ v ∈ e.specs, v.explodes = false := fun v hv => VarSpec.explodes_of_none (hmod v hv)
  refine ⟨fun v hv => VarSpec.limit?_of_none (hmod v hv), fun v hv he => ?_, ?_⟩
  · rw [hplain v hv] at he
    cases he
  · refine List.pairwise_of_forall_mem_list fun v hv w _ he => ?_
    rw [hplain v hv] at he
    cases he

theorem exists_remakes_of_body (hn : e.operator.naming = .bare)
    (hres : e.operator.allowsReserved = false) (hmod : ∀ v ∈ e.specs, v.modifier = .none)
    (hne : e.specs ≠ []) {own body : Text} (hown : own = e.operator.leader ++ body)
    (hbody : Percent.Canonical (fun c => c = ',' || c = e.operator.joiner) body)
    (hfit : isUnreserved e.operator.joiner = true ∨ e.operator.joiner = ',' ∨
      body.count e.operator.joiner < e.specs.length) :
    ∃ units, Remakes e.operator e.specs (e.readAlone own).1 units ∧
      assemble e.operator units = own ∧ (e.readAlone own).2.pos = own.length := by
  obtain ⟨captures, units, hread, hremakes, hunits, hjoin⟩ :=
    readPositionals_remakes hres hn hne hmod hbody hfit
  have hvalues : e.readValues (.ofOperator e.operator) body = (captures, []) := by
    rw [readValues_of_not_isNamed (Operator.isNamed_eq_false_iff.2 hn)]
    exact hread
  obtain ⟨hcaptured, hpos⟩ := readAlone_of_readValues hown hvalues
  refine ⟨units, hcaptured ▸ hremakes, ?_, hpos⟩
  unfold assemble
  rw [if_neg (by simpa using hunits), hjoin, hown]

theorem exists_remakes (hres : e.operator.allowsReserved = false)
    (hmod : ∀ v ∈ e.specs, v.modifier = .none) (hne : e.specs ≠ []) (hnames : e.names.Nodup)
    (hvalid : ∀ name ∈ e.names, Name.Valid name) (value : Text → Option Value) :
    ∃ units, Remakes e.operator e.specs (e.readAlone (e.write value)).1 units ∧
      assemble e.operator units = e.write value ∧
      (e.readAlone (e.write value)).2.pos = (e.write value).length := by
  by_cases hn : e.operator.naming = .bare
  · obtain ⟨hcanonical, hlength⟩ := units_canonical hn hres value hmod
    by_cases hnone : (e.specs.flatMap fun v => v.unitsOf e.operator (value v.name)) = []
    · have hwrite : e.write value = [] := by
        unfold write assemble
        rw [hnone]
        rfl
      rw [hwrite]
      by_cases hleader : e.operator.leader = []
      · -- Without a leader the first variable reads the empty text.
        refine exists_remakes_of_body hn hres hmod hne (by rw [hleader]; rfl) .nil
          (.inr (.inr ?_))
        exact List.length_pos_iff.2 hne
      · obtain ⟨hcaptured, hpos⟩ := readAlone_nil hleader
        rw [hcaptured, hpos]
        exact ⟨[], Remakes.none _ _, rfl, rfl⟩
    · have hwrite : e.write value = e.operator.leader ++ [e.operator.joiner].intercalate
          (e.specs.flatMap fun v => v.unitsOf e.operator (value v.name)) := by
        unfold write assemble
        rw [if_neg (by simpa using hnone)]
      refine exists_remakes_of_body hn hres hmod hne hwrite ?_ ?_
      · refine .intercalate (by simp) fun u hu => (hcanonical u hu).mono fun c _ hc => ?_
        rw [hc, Bool.true_or]
      · by_cases hu : isUnreserved e.operator.joiner = true
        · exact .inl hu
        by_cases hcomma : e.operator.joiner = ','
        · exact .inr (.inl hcomma)
        · obtain ⟨hp, -⟩ := e.operator.joiner_outside_escapes
          have hcount := count_intercalate fun u hm => (hcanonical u hm).not_mem
            (Bool.eq_false_iff.2 hu) (decide_eq_false hcomma) hp
          have hpos := List.length_pos_iff.2 hnone
          right
          right
          rw [hcount]
          omega
  · have hop : e.operator.isNamed = true := by simp [Operator.isNamed, hn]
    obtain ⟨hread, hpos⟩ := readAlone_of_assigned hop
      ((parted_of_none hmod value).assigned hop hnames hvalid)
    exact ⟨_, hread ▸ remakes_items hop value hmod, rfl, hpos⟩

end Expression

end UriTemplate
