import UriTemplate.Proofs.Alone
import UriTemplate.Proofs.Remaking

set_option autoImplicit false

namespace UriTemplate

open Character Text

def Operator.rawChar (op : Operator) (c : Char) : Bool :=
  isUnreserved c || if op.allowsReserved then isReserved c else c = ','

/-- What raw text gives to its variable: its pieces if it has commas, and one text otherwise. -/
def Value.spelled (raw : Text) : Value :=
  if ',' ∈ raw then .list ((raw.splitOn ',').map Percent.decode) else .scalar (Percent.decode raw)

/-- Raw texts for the first of `count` variables, at least for one. Only the text of the last of all
    variables may have joiners in it. -/
structure RawTexts (op : Operator) (count : Nat) (raws : List Text) : Prop where
  ne_nil : raws ≠ []
  length_le : raws.length ≤ count
  units : ∀ raw ∈ raws, Units op.rawChar raw
  apart : ∀ raw ∈ raws.take (count - 1), op.joiner ∉ raw

variable {op : Operator} {specs : List VarSpec}

theorem rawChar_of_positionalChar {final : Bool} {c : Char}
    (h : op.positionalChar false final c = true) : op.rawChar c = true := by
  unfold Operator.positionalChar at h
  exact (Bool.and_eq_true_iff.1 h).1

theorem positionalChar_of_rawChar {final : Bool} {c : Char} (h : op.rawChar c = true)
    (hj : final = true ∨ c ≠ op.joiner) : op.positionalChar false final c = true := by
  unfold Operator.positionalChar
  refine Bool.and_eq_true_iff.2 ⟨h, ?_⟩
  simpa using hj

theorem joiner_not_mem_of_units {raw : Text} (h : Units (op.positionalChar false false) raw) :
    op.joiner ∉ raw := by
  obtain ⟨hp, hx⟩ := op.joiner_outside_escapes
  intro hmem
  rcases h.mem hmem with hc | hc | hc
  · rw [positionalChar_joiner] at hc
    cases hc
  · exact hp hc
  · rw [hx] at hc
    cases hc

namespace RawTexts

variable {raw : Text} {raws : List Text} {count : Nat}

theorem single (hcount : 0 < count) (hraw : Units op.rawChar raw)
    (hj : count = 1 ∨ op.joiner ∉ raw) : RawTexts op count [raw] where
  ne_nil := List.cons_ne_nil raw []
  length_le := hcount
  units r hr := List.mem_singleton.1 hr ▸ hraw
  apart r hr := by
    rcases hj with rfl | hj
    · cases hr
    · exact List.mem_singleton.1 (List.mem_of_mem_take hr) ▸ hj

theorem cons (hraw : Units op.rawChar raw) (hj : op.joiner ∉ raw)
    (h : RawTexts op (count + 1) raws) : RawTexts op (count + 2) (raw :: raws) where
  ne_nil := List.cons_ne_nil raw raws
  length_le := Nat.succ_le_succ h.length_le
  units := List.forall_mem_cons.2 ⟨hraw, h.units⟩
  apart := List.forall_mem_cons.2 ⟨hj, h.apart⟩

theorem head_units (h : RawTexts op count (raw :: raws)) : Units op.rawChar raw :=
  h.units raw List.mem_cons_self

theorem head_apart (h : RawTexts op (count + 2) (raw :: raws)) : op.joiner ∉ raw :=
  h.apart raw List.mem_cons_self

theorem tail (h : RawTexts op (count + 2) (raw :: raws)) (hne : raws ≠ []) :
    RawTexts op (count + 1) raws where
  ne_nil := hne
  length_le := Nat.le_of_succ_le_succ h.length_le
  units r hr := h.units r (List.mem_cons_of_mem raw hr)
  apart r hr := h.apart r (List.mem_cons_of_mem raw hr)

end RawTexts

def Captures.ofRaws (specs : List VarSpec) (raws : List Text) : List (Text × Value) :=
  List.zipWith (fun v raw => (v.name, .ofRaw raw)) specs raws

theorem exists_raw_of_readPositional {v : VarSpec} (hmod : v.modifier = .none) (op : Operator)
    (final : Bool) (t : Text) :
    ∃ raw rest, v.readPositional op final t = (.ofRaw raw, rest) ∧
      Units (op.positionalChar false final) raw ∧ t = raw ++ rest := by
  refine ⟨_, _, ?_, Units.run none t, (run_append _ none t).symm⟩
  unfold VarSpec.readPositional
  rw [VarSpec.explodes_of_none hmod, VarSpec.limit?_of_none hmod]
  rfl

theorem exists_raws_of_readPositionals (hmod : ∀ v ∈ specs, v.modifier = .none) (hne : specs ≠ [])
    (t : Text) :
    ∃ raws, RawTexts op specs.length raws ∧ (readPositionals op specs t).1 = Captures.ofRaws specs raws ∧
      t = [op.joiner].intercalate raws ++ (readPositionals op specs t).2 := by
  induction specs generalizing t with
  | nil => exact absurd rfl hne
  | cons v later ih =>
    have hv := hmod v List.mem_cons_self
    cases later with
    | nil =>
      obtain ⟨raw, rest, hown, hunits, ht⟩ := exists_raw_of_readPositional hv op true t
      have hraw := hunits.mono fun c _ => rawChar_of_positionalChar
      refine ⟨[raw], .single Nat.one_pos hraw (.inl rfl), ?_, ?_⟩
      · simp only [readPositionals, hown]
        rfl
      · simp only [readPositionals, hown, List.intercalate_singleton]
        exact ht
    | cons next later =>
      obtain ⟨raw, rest, hown, hunits, ht⟩ := exists_raw_of_readPositional hv op false t
      have hraw := hunits.mono fun c _ => rawChar_of_positionalChar
      have hj := joiner_not_mem_of_units hunits
      cases hnext : [op.joiner].isPrefixOf? rest with
      | none =>
        refine ⟨[raw], .single (Nat.succ_pos _) hraw (.inr hj), ?_, ?_⟩
        · simp only [readPositionals, hown, hnext]
          rfl
        · simp only [readPositionals, hown, hnext, List.intercalate_singleton]
          exact ht
      | some u =>
        obtain ⟨raws, hraws, hcaptured, hu⟩ := ih (fun w hw => hmod w (List.mem_cons_of_mem v hw))
          (List.cons_ne_nil next later) u
        refine ⟨raw :: raws, hraws.cons hraw hj, ?_, ?_⟩
        · simp only [readPositionals, hown, hnext, Captures.push, hcaptured]
          rfl
        · simp only [readPositionals, hown, hnext, Captures.push]
          rw [List.intercalate_cons_of_ne_nil hraws.ne_nil, List.append_assoc, ← hu, ht,
            ← List.append_eq_of_isPrefixOf?_eq_some hnext, List.append_assoc]

theorem readPositionals_intercalate (hmod : ∀ v ∈ specs, v.modifier = .none) {raws : List Text}
    (h : RawTexts op specs.length raws) :
    readPositionals op specs ([op.joiner].intercalate raws) = (Captures.ofRaws specs raws, []) := by
  induction specs generalizing raws with
  | nil => exact absurd (List.length_eq_zero_iff.1 (Nat.le_zero.1 h.length_le)) h.ne_nil
  | cons v later ih =>
    have hv := hmod v List.mem_cons_self
    obtain ⟨raw, raws, rfl⟩ := List.exists_cons_of_ne_nil h.ne_nil
    cases later with
    | nil =>
      cases List.length_eq_zero_iff.1 (Nat.le_zero.1 (Nat.le_of_succ_le_succ h.length_le))
      have hunits : Units (op.positionalChar false true) raw :=
        h.head_units.mono fun c _ hc => positionalChar_of_rawChar hc (.inl rfl)
      have hread := readPositional_units hv hunits (show unit? _ [] = none from rfl)
      rw [List.append_nil] at hread
      rw [List.intercalate_singleton]
      simp only [readPositionals, hread]
      rfl
    | cons next later =>
      have hunits : Units (op.positionalChar false false) raw :=
        h.head_units.mono fun c hc hraw =>
          positionalChar_of_rawChar hraw (.inr fun heq => h.head_apart (heq ▸ hc))
      by_cases hrest : raws = []
      · have hread := readPositional_units hv hunits (show unit? _ [] = none from rfl)
        have hend : [op.joiner].isPrefixOf? ([] : Text) = none := rfl
        rw [List.append_nil] at hread
        rw [hrest, List.intercalate_singleton]
        simp only [readPositionals, hread, hend]
        rfl
      · have hstop : ∀ t : Text, unit? (op.positionalChar false false) (op.joiner :: t) = none :=
          unit?_cons_eq_none (positionalChar_joiner op) op.joiner_outside_escapes.1
        have hbehind : ∀ t : Text, [op.joiner].isPrefixOf? (op.joiner :: t) = some t :=
          fun _ => List.isPrefixOf?_eq_some_iff_append_eq.2 rfl
        have hlater := ih (fun w hw => hmod w (List.mem_cons_of_mem v hw)) (h.tail hrest)
        rw [List.intercalate_cons_of_ne_nil hrest, List.append_assoc, List.singleton_append]
        simp only [readPositionals, readPositional_units hv hunits (hstop _), hbehind, hlater]
        rfl

theorem Captures.ofRaws_eq (specs : List VarSpec) (raws : List Text) :
    ofRaws specs raws =
      List.zipWith (fun name raw => (name, Value.spelled raw)) (VarSpec.names specs) raws := by
  unfold ofRaws VarSpec.names
  rw [List.zipWith_map_left]
  exact congrArg (List.zipWith · specs raws)
    (funext fun v => funext fun raw => congrArg (v.name, ·) (Value.ofRaw_eq raw))

namespace Expression

variable {e : Expression} (hop : e.operator.isNamed = false)

include hop

theorem readAlone_of_rawTexts (hmod : ∀ v ∈ e.specs, v.modifier = .none) {raws : List Text}
    (h : RawTexts e.operator e.specs.length raws) {t : Text}
    (ht : t = e.operator.leader ++ [e.operator.joiner].intercalate raws) :
    (e.readAlone t).1 = Captures.ofRaws e.specs raws ∧ (e.readAlone t).2.pos = t.length := by
  have hread := readPositionals_intercalate hmod h
  rw [← readValues_of_not_isNamed hop] at hread
  exact readAlone_of_readValues ht hread

theorem exists_raws_of_readAlone (hmod : ∀ v ∈ e.specs, v.modifier = .none) (hne : e.specs ≠ [])
    {t : Text} (hpos : (e.readAlone t).2.pos = t.length) :
    (t = [] ∧ e.operator.leader ≠ []) ∨ ∃ raws, RawTexts e.operator e.specs.length raws ∧
      t = e.operator.leader ++ [e.operator.joiner].intercalate raws := by
  by_cases hlead : e.operator.leader <+: t
  · obtain ⟨body, hbody⟩ := hlead
    have hleft := readValues_eq_nil hbody.symm hpos
    rw [readValues_of_not_isNamed hop] at hleft
    obtain ⟨raws, hraws, -, hjoin⟩ := exists_raws_of_readPositionals hmod hne body
    rw [hleft, List.append_nil] at hjoin
    exact .inr ⟨raws, hraws, hjoin ▸ hbody.symm⟩
  · refine .inl ⟨?_, fun hnil => hlead (hnil ▸ List.nil_prefix)⟩
    obtain ⟨-, hstart⟩ := readAlone_of_not_isPrefix hlead
    exact List.length_eq_zero_iff.1 (hpos.symm.trans hstart)

end Expression

namespace Template

/-- The texts that a positional expression without modifiers matches, and what it binds. -/
theorem match?_bindings_eq_some_iff_rawTexts {source : Text} {config : Config} {t : Template}
    (ht : Template.ofText source config = .ok t) {e : Expression} (he : t.nodes = [.expression e])
    (hop : e.operator.isNamed = false) (hmod : ∀ v ∈ e.specs, v.modifier = .none)
    (hfull : config.fullMatch = true) (uri : Text) (bindings : Assoc Text Value) :
    (t.match? uri).map (·.bindings) = some bindings ↔
      (uri = [] ∧ e.operator.leader ≠ [] ∧ bindings = []) ∨
        ∃ raws, RawTexts e.operator e.specs.length raws ∧
          uri = e.operator.leader ++ [e.operator.joiner].intercalate raws ∧
          bindings = List.zipWith (fun name raw => (name, Value.spelled raw)) e.names raws := by
  obtain ⟨hne, hnames, -⟩ := specs_wellFormed ht he
  have hconfig : t.config.fullMatch = true := by
    rw [(Template.ofText_eq_ok ht).2.1, hfull]
  have hempty : e.operator.leader ≠ [] → t.match? [] = some ⟨[], t.declared, []⟩ := by
    intro hleader
    obtain ⟨hnil, hpos⟩ := Expression.readAlone_nil hleader
    rw [match?_of_pos_eq he hpos, hnil]
    rfl
  have hraws : ∀ raws, RawTexts e.operator e.specs.length raws →
      uri = e.operator.leader ++ [e.operator.joiner].intercalate raws →
      (t.match? uri).map (·.bindings) =
        some (List.zipWith (fun name raw => (name, Value.spelled raw)) e.names raws) := by
    intro raws h huri
    obtain ⟨hread, hpos⟩ := Expression.readAlone_of_rawTexts hop hmod h huri
    have hkeys := (e.captured_readAlone uri).keys_sublist.nodup hnames
    rw [match?_of_pos_eq he hpos]
    change some (Assoc.ofList _) = _
    rw [Assoc.ofList_of_nodup hkeys, hread, Captures.ofRaws_eq]
    rfl
  constructor
  · intro h
    by_cases hpos : (e.readAlone uri).2.pos = uri.length
    · rcases Expression.exists_raws_of_readAlone hop hmod hne hpos with
        ⟨rfl, hleader⟩ | ⟨raws, hfits, huri⟩
      · rw [hempty hleader] at h
        exact .inl ⟨rfl, hleader, (Option.some.inj h).symm⟩
      · rw [hraws raws hfits huri] at h
        exact .inr ⟨raws, hfits, huri, (Option.some.inj h).symm⟩
    · rw [match?_eq_none_of_pos_ne he hconfig hpos] at h
      cases h
  · rintro (⟨rfl, hleader, rfl⟩ | ⟨raws, hfits, huri, rfl⟩)
    · rw [hempty hleader]
      rfl
    · exact hraws raws hfits huri

theorem match?_bindings_eq_some_iff_rawTexts_label :
    let e : Expression := ⟨.label, [⟨['a'], .none⟩, ⟨['b'], .none⟩, ⟨['c'], .none⟩]⟩
    let t : Template := ⟨"{.a,b,c}".toList, [.expression e], {}⟩
    Template.ofText t.source {} = .ok t ∧ e.operator.isNamed = false ∧
      (∀ v ∈ e.specs, v.modifier = .none) ∧
      (t.match? "..x,%2c.y..z".toList).map (·.bindings) =
        some [(['a'], .scalar []), (['b'], .list [['x'], [',']]), (['c'], .scalar "y..z".toList)] := by
  intro e t
  have ht : Template.ofText t.source {} = .ok t := by with_unfolding_all rfl
  have hmod : ∀ v ∈ e.specs, v.modifier = .none := by decide
  have hunits : ∀ raw ∈ [[], "x,%2c".toList, "y..z".toList], Units e.operator.rawChar raw := by
    refine List.forall_mem_cons.2 ⟨.nil, List.forall_mem_cons.2 ⟨?_, List.forall_mem_cons.2 ⟨?_, ?_⟩⟩⟩
    · exact .char (by decide) (.char (by decide) (.escape (by decide) (by decide) .nil))
    · exact .char (by decide) (.char (by decide) (.char (by decide) (.char (by decide) .nil)))
    · exact fun raw hraw => by cases hraw
  have hraws : RawTexts e.operator e.specs.length [[], "x,%2c".toList, "y..z".toList] :=
    ⟨by decide, by decide, hunits, by decide⟩
  refine ⟨ht, rfl, hmod, ?_⟩
  exact (match?_bindings_eq_some_iff_rawTexts ht rfl rfl hmod rfl _ _).2
    (.inr ⟨_, hraws, by decide, by decide⟩)

end Template

end UriTemplate
