import UriTemplate.Proofs.Bindings
import UriTemplate.Proofs.Boundary
import UriTemplate.Proofs.Encoding
import UriTemplate.Template

set_option autoImplicit false

namespace UriTemplate

open Character Text

def Settings.bare : Settings := ⟨none, {}⟩

def Gives (named : Assoc Text Datum) (specs : List VarSpec) (value : Text → Option Value) : Prop :=
  ∀ v ∈ specs, ((named.find? v.name).getD .null).coerce v.name = .ok (value v.name)

/-- The value that bindings give a name; what has none counts as undefined. -/
def valueOf (named : Assoc Text Datum) (name : Text) : Option Value :=
  match ((named.find? name).getD .null).coerce name with
  | .ok value => value
  | .error _ => none

theorem Gives.defined {named : Assoc Text Datum} {specs : List VarSpec}
    {value : Text → Option Value} (h : Gives named specs value) {v : VarSpec} (hv : v ∈ specs)
    {x : Value} (hx : value v.name = some x) : x.isDefined = true ∧ x.Distinct := by
  have hc := h v hv
  rw [hx] at hc
  exact Datum.coerce_eq_some hc

theorem gives_text {x s : Text} {modifier : Modifier} {specs : List VarSpec}
    (hspecs : specs = [⟨x, modifier⟩]) {value : Text → Option Value}
    (hx : value x = some (.scalar s)) : Gives [(x, .text s)] specs value := by
  have hfind : Assoc.find? [(x, Datum.text s)] x = some (.text s) := if_pos rfl
  intro v hv
  rw [hspecs] at hv
  cases List.mem_singleton.1 hv
  rw [hx, hfind]
  rfl

namespace VarSpec

def unitsOf (v : VarSpec) (op : Operator) : Option Value → List Text
  | none => []
  | some x => (v.render op x).units op.naming

theorem renderDatum_bare (v : VarSpec) (op : Operator) {d : Datum} {x : Option Value}
    (h : d.coerce v.name = .ok x) :
    v.renderDatum .bare op d = .ok (x.map fun x => v.render op x) := by
  unfold renderDatum
  rw [h]
  cases x with
  | none => rfl
  | some x => rfl

end VarSpec

namespace Expression

def write (value : Text → Option Value) (e : Expression) : Text :=
  assemble e.operator (e.specs.flatMap fun v => v.unitsOf e.operator (value v.name))

theorem write_eq_nil {e : Expression} {value : Text → Option Value}
    (h : ∀ v ∈ e.specs, value v.name = none) : e.write value = [] := by
  have hunits : (e.specs.flatMap fun v => v.unitsOf e.operator (value v.name)) = [] :=
    List.flatMap_eq_nil_iff.2 fun v hv => by rw [h v hv]; rfl
  unfold write assemble
  rw [hunits]
  rfl

theorem expand_eq_write {named : Assoc Text Datum} {e : Expression} {value : Text → Option Value}
    (h : Gives named e.specs value) : e.expand .bare named = .ok (e.write value) := by
  have hread : e.specs.mapM (fun v =>
      v.renderDatum .bare e.operator ((named.find? v.name).getD .null)) =
      .ok (e.specs.map fun v => (value v.name).map fun x => v.render e.operator x) :=
    mapM_eq_ok fun v hv => VarSpec.renderDatum_bare v e.operator (h v hv)
  unfold expand expandBy
  rw [hread]
  refine congrArg (fun units => Except.ok (assemble e.operator units)) ?_
  rw [List.flatMap_map]
  refine congrArg e.specs.flatMap (funext fun v => ?_)
  cases value v.name with
  | none => rfl
  | some x => rfl

theorem gives_of_expand_eq_ok {named : Assoc Text Datum} {e : Expression} {text : Text}
    (h : e.expand .bare named = .ok text) : Gives named e.specs (valueOf named) := by
  intro v hv
  obtain ⟨rendered, hread, -⟩ := bind_eq_ok.1 h
  obtain ⟨r, hr⟩ := exists_of_mapM_eq_ok hread v hv
  obtain ⟨x, hx, -⟩ := bind_eq_ok.1 hr
  unfold valueOf
  rw [hx]

end Expression

namespace Template

def write (value : Text → Option Value) (nodes : List Node) : Text :=
  nodes.flatMap fun
    | .literal text => text
    | .expression e => e.write value

def GivesAll (named : Assoc Text Datum) (nodes : List Node) (value : Text → Option Value) : Prop :=
  ∀ e, .expression e ∈ nodes → Gives named e.specs value

theorem expandNodes_eq_ok {ε : Type} {expand : Expression → Except ε Text} {nodes : List Node}
    {value : Text → Option Value}
    (h : ∀ e, .expression e ∈ nodes → expand e = .ok (e.write value)) :
    expandNodes expand nodes = .ok (write value nodes) := by
  have hread : nodes.mapM (expandNodes.expandNode expand) =
      .ok (nodes.map fun
        | .literal text => text
        | .expression e => e.write value) := by
    refine mapM_eq_ok fun n hn => ?_
    cases n with
    | literal text => rfl
    | expression e => exact h e hn
  unfold expandNodes
  rw [hread]
  exact congrArg Except.ok (List.flatMap_def ..).symm

theorem expandNodes_eq_write {named : Assoc Text Datum} {nodes : List Node}
    {value : Text → Option Value} (h : GivesAll named nodes value) :
    expandNodes (Expression.expand .bare named) nodes = .ok (write value nodes) :=
  expandNodes_eq_ok fun e he => Expression.expand_eq_write (h e he)

theorem givesAll_of_expandNodes_eq_ok {named : Assoc Text Datum} {nodes : List Node} {text : Text}
    (h : expandNodes (Expression.expand .bare named) nodes = .ok text) :
    GivesAll named nodes (valueOf named) := by
  intro e he
  obtain ⟨texts, hread, -⟩ := bind_eq_ok.1 h
  obtain ⟨own, hown⟩ := exists_of_mapM_eq_ok hread _ he
  exact Expression.gives_of_expand_eq_ok hown

/-- Expanding as values are succeeds exactly if everything bound to a variable has a value. -/
theorem expand_eq_ok_iff {t : Template} {bindings : List (Datum × Datum)} {text : Text} :
    t.expand bindings (some false) {} = .ok text ↔
      ∃ named, Datum.nameKeys bindings = .ok named ∧ GivesAll named t.nodes (valueOf named) ∧
        text = write (valueOf named) t.nodes := by
  constructor
  · intro h
    obtain ⟨named, hnamed, h⟩ := bind_eq_ok.1 h
    have hgives := givesAll_of_expandNodes_eq_ok h
    have hwrite := expandNodes_eq_write hgives
    exact ⟨named, hnamed, hgives, Except.ok.inj (h.symm.trans hwrite)⟩
  · rintro ⟨named, hnamed, hgives, rfl⟩
    exact bind_eq_ok.2 ⟨named, hnamed, expandNodes_eq_write hgives⟩

theorem expand_nil (t : Template) (normalize : Option Bool) (hooks : Hooks) :
    t.expand [] normalize hooks = .ok (write (fun _ => none) t.nodes) := by
  refine bind_eq_ok.2 ⟨[], rfl, expandNodes_eq_ok fun e _ => ?_⟩
  have hread : e.specs.mapM (fun v => v.renderDatum ⟨t.form? normalize, hooks⟩ e.operator
      (((Assoc.find? [] v.name).getD .null))) = .ok (e.specs.map fun _ => none) :=
    mapM_eq_ok fun v _ => rfl
  unfold Expression.expand Expression.expandBy
  rw [hread, Expression.write_eq_nil fun v _ => rfl]
  simp [bind, Except.bind, pure, Except.pure, Expression.assemble]

end Template

theorem Operator.encode_eq {op : Operator} (hop : op.allowsReserved = false) :
    op.encode = Percent.encode isUnreserved := by
  simp [Operator.encode, hop]

theorem Operator.encode_of_allowsReserved {op : Operator} (hop : op.allowsReserved = true) :
    op.encode = Percent.encodeKeeping fun c => isUnreserved c || isReserved c := by
  simp [Operator.encode, hop]

theorem Operator.encode_canonical {op : Operator} (hop : op.allowsReserved = false) (t : Text) :
    Percent.Canonical (· = ',') (op.encode t) := by
  rw [Operator.encode_eq hop]
  exact .encode t

theorem commas_canonical {pieces : List Text}
    (h : ∀ piece ∈ pieces, Percent.Canonical (· = ',') piece) :
    Percent.Canonical (· = ',') (commas pieces) := .intercalate (decide_eq_true rfl) h

namespace VarSpec

variable {v : VarSpec} {op : Operator}

theorem explodes_of_none (hv : v.modifier = .none) : v.explodes = false := by
  unfold explodes
  rw [hv]
  rfl

theorem limit?_of_none (hv : v.modifier = .none) : v.limit? = none := by
  unfold limit?
  rw [hv]

theorem limit?_of_explodes (he : v.explodes = true) : v.limit? = none := by
  unfold explodes at he
  unfold limit?
  rw [of_decide_eq_true he]

theorem cut_of_limit? (h : v.limit? = none) {α : Type} (t : List α) : v.cut t = t := by
  unfold cut
  rw [h]

theorem render_name (x : Value) : (v.render op x).name = v.name := by
  cases x with
  | scalar t => rfl
  | list items => rfl
  | mapping entries => by_cases he : v.explodes = true <;> simp [render, he]

theorem render_of_not_explodes (hop : op.allowsReserved = false) (he : v.explodes = false)
    (x : Value) :
    ∃ raw, Percent.Canonical (· = ',') raw ∧ v.render op x = ⟨v.name, .single raw, false⟩ := by
  have hencode := Operator.encode_canonical hop
  cases x with
  | scalar t => exact ⟨_, hencode _, rfl⟩
  | list members =>
    refine ⟨_, commas_canonical fun piece hpiece => ?_, by rw [render, he, if_neg (by decide)]⟩
    obtain ⟨t, -, rfl⟩ := List.mem_map.1 hpiece
    exact hencode _
  | mapping entries =>
    refine ⟨_, commas_canonical fun piece hpiece => ?_, by rw [render, he, if_neg (by decide)]⟩
    obtain ⟨d, -, rfl⟩ := List.mem_map.1 hpiece
    exact (hencode _).append (.separator (decide_eq_true rfl) (hencode _))

theorem render_items_units (hop : op.allowsReserved = false) (x : Value) :
    ∀ t ∈ (v.render op x).items, Units op.bodyChar t := by
  have hcanonical : ∀ {t}, Percent.Canonical (· = ',') t → Units op.bodyChar t := by
    refine fun h => h.units fun c _ hc => ?_
    rcases hc with hu | hcomma
    · exact Operator.bodyChar_of_isUnreserved hu
    · simp [Operator.bodyChar, of_decide_eq_true hcomma]
  have hencode : ∀ t, Units op.bodyChar (op.encode t) :=
    fun t => hcanonical (Operator.encode_canonical hop t)
  cases he : v.explodes with
  | false =>
    obtain ⟨raw, hraw, hrender⟩ := v.render_of_not_explodes hop he x
    rw [hrender]
    intro t ht
    cases List.mem_singleton.1 ht
    exact hcanonical hraw
  | true =>
    cases x with
    | scalar t => simpa [render, Rendered.items] using hencode _
    | list members =>
      intro t ht
      simp only [render, he, if_true, Rendered.items, List.mem_map] at ht
      obtain ⟨m, -, rfl⟩ := ht
      exact hencode _
    | mapping entries =>
      intro t ht
      simp only [render, he, if_true, Rendered.items, List.mem_map] at ht
      obtain ⟨d, -, rfl⟩ := ht
      unfold Operator.keypair
      split
      · exact hencode _
      · exact (hencode _).append (.char (by simp [Operator.bodyChar]) (hencode _))

theorem unitsOf_units (hop : op.allowsReserved = false) (hname : Units isUnreserved v.name)
    (x : Option Value) : ∀ t ∈ v.unitsOf op x, Units op.bodyChar t := by
  cases x with
  | none => simp [unitsOf]
  | some x =>
    have hn : Units op.bodyChar v.name := hname.mono fun _ _ => Operator.bodyChar_of_isUnreserved
    have hnamed : ∀ t, Units op.bodyChar t → Units op.bodyChar (v.name ++ '=' :: t) :=
      fun t ht => hn.append (.char (by simp [Operator.bodyChar]) ht)
    have hitems := render_items_units (v := v) hop x
    intro t ht
    simp only [unitsOf, Rendered.units, render_name] at ht
    split at ht
    · exact hitems t ht
    split at ht
    · exact hitems t ht
    · obtain ⟨item, hitem, rfl⟩ := List.mem_map.1 ht
      split
      · exact hn
      · exact hnamed item (hitems item hitem)
    · obtain ⟨item, hitem, rfl⟩ := List.mem_map.1 ht
      exact hnamed item (hitems item hitem)

end VarSpec

theorem Expression.write_eq {e : Expression} (hop : e.operator.allowsReserved = false)
    (hnames : ∀ v ∈ e.specs, Units isUnreserved v.name) (value : Text → Option Value) :
    e.write value = [] ∨
      ∃ body, e.write value = e.operator.leader ++ body ∧ Units e.operator.bodyChar body := by
  unfold write assemble
  split
  · exact .inl rfl
  · refine .inr ⟨_, rfl, Units.intercalate (by simp [Operator.bodyChar]) fun t ht => ?_⟩
    obtain ⟨v, hv, ht⟩ := List.mem_flatMap.1 ht
    exact VarSpec.unitsOf_units hop (hnames v hv) _ t ht

end UriTemplate
