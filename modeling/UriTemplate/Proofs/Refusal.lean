import Mathlib.Algebra.Group.Int.Defs
import Mathlib.Data.List.Find
import UriTemplate.Proofs.Excess
import UriTemplate.Proofs.Exploding

set_option autoImplicit false

namespace UriTemplate

namespace Datum

variable {α : Type}

def name? : Datum → Option Text
  | .text t => some t
  | .member _ (.text t) => some t
  | .member name _ => some name
  | _ => none

/-- The error of a key that is no name. It shows the key, which can fail. -/
def refusal (key : Datum) : ExpandError :=
  match key.display with
  | .ok shown => .unsupportedKey shown key.kind
  | .error e => .excess e

/-- What the last of the bindings of a name binds it to. -/
def bound? (bindings : List (Datum × α)) (name : Text) : Option α :=
  (bindings.reverse.find? (·.1.name? = some name)).map (·.2)

theorem refusal_of_holdsLong {key : Datum} (h : key.holdsLong = true) :
    key.refusal = .excess .writing := by
  have hdisplay := errorOf?_display key
  rw [h] at hdisplay
  rw [refusal, eq_error_of_errorOf? hdisplay]

theorem exists_refusal_eq {key : Datum} (h : key.holdsLong = false) :
    ∃ shown, key.display = .ok shown ∧ key.refusal = .unsupportedKey shown key.kind := by
  have hdisplay := errorOf?_display key
  rw [h] at hdisplay
  obtain ⟨shown, hshown⟩ := eq_ok_of_errorOf? hdisplay
  exact ⟨shown, hshown, by rw [refusal, hshown]⟩

theorem keyName_eq (key : Datum) : nameKeys.keyName key =
    match key.name? with
    | some name => .ok name
    | none => .error key.refusal := by
  have hrefusal : (key.display.mapError .excess >>= fun shown =>
      (.error (.unsupportedKey shown key.kind) : Except ExpandError Text)) =
      .error key.refusal := by
    unfold refusal
    cases key.display <;> rfl
  cases key with
  | text t => rfl
  | member name value => cases value <;> rfl
  | _ => exact hrefusal

theorem errorOf?_nameKeys (bindings : List (Datum × α)) : errorOf? (nameKeys bindings) =
    (bindings.find? (·.1.name?.isNone)).map (·.1.refusal) := by
  unfold nameKeys
  rw [errorOf?_bind_pure, errorOf?_mapM]
  induction bindings with
  | nil => rfl
  | cons e rest ih =>
    rw [List.findSome?_cons, List.find?_cons, errorOf?_bind_pure, keyName_eq]
    cases e.1.name? with
    | none => rfl
    | some name => exact ih

theorem nameKeys_of_names {bindings : List (Datum × α)}
    (h : bindings.find? (·.1.name?.isNone) = none) :
    ∃ named, nameKeys bindings = .ok named ∧ ∀ name, named.find? name = bound? bindings name := by
  have hname : ∀ e ∈ bindings, ∃ name, e.1.name? = some name := by
    intro e he
    have hsome := List.find?_eq_none.1 h e he
    cases hname : e.1.name? with
    | none => exact absurd (congrArg Option.isNone hname) hsome
    | some name => exact ⟨name, rfl⟩
  have hread : bindings.mapM (fun e => do return (← nameKeys.keyName e.1, e.2)) =
      .ok (bindings.map fun e => (e.1.name?.getD [], e.2)) := by
    refine mapM_eq_ok fun e he => ?_
    obtain ⟨name, hname⟩ := hname e he
    rw [keyName_eq, hname]
    rfl
  refine ⟨_, bind_eq_ok.2 ⟨_, hread, rfl⟩, fun name => ?_⟩
  rw [Assoc.find?_ofList, ← List.map_reverse, List.find?_map, Option.map_map]
  refine congrArg (Option.map _) (List.find?_congr fun e he => ?_)
  obtain ⟨own, hown⟩ := hname e (List.mem_reverse.1 he)
  simp [hown]

end Datum

namespace Datum

def partError? (name : Text) : Datum → Option ExpandError
  | .bool _ | .text _ => none
  | .number n => if n.isLong then some (.excess .writing) else none
  | d => some (.unsupported name d.kind)

/-- What has to be a scalar in a datum without its outer layer: the items of a sequence, each key
    and its item of a mapping, or else the datum itself. -/
def parts (d : Datum) : List Datum :=
  match d with
  | .mapping entries => entries.flatMap fun e => [e.1.unwrap, e.2.unwrap]
  | _ =>
    match d.items? with
    | some items => items.map unwrap
    | none => [d]

def error? (name : Text) (d : Datum) : Option ExpandError :=
  match d with
  | .null => none
  | _ => d.unwrap.parts.findSome? (partError? name)

variable (name : Text)

theorem errorOf?_toScalar (d : Datum) : errorOf? (d.toScalar name) = d.partError? name := by
  cases d with
  | number n =>
    have htext := n.errorOf?_text
    simp only [toScalar, scalar?, partError?]
    cases hlong : n.isLong with
    | true =>
      rw [hlong] at htext
      rw [eq_error_of_errorOf? htext]
      rfl
    | false =>
      rw [hlong] at htext
      obtain ⟨shown, hshown⟩ := eq_ok_of_errorOf? htext
      rw [hshown]
      rfl
  | _ => rfl

theorem errorOf?_toEntry (e : Datum × Datum) :
    errorOf? (toEntry name e) = [e.1.unwrap, e.2.unwrap].findSome? (partError? name) := by
  unfold toEntry
  rw [errorOf?_bind _ fun _ => errorOf?_bind_pure _ _, toPart, errorOf?_toScalar, toPart,
    errorOf?_toScalar, List.findSome?_cons, List.findSome?_singleton]
  cases e.1.unwrap.partError? name <;> rfl

theorem errorOf?_toValue (d : Datum) :
    errorOf? (d.toValue name) = d.parts.findSome? (partError? name) := by
  have hlist : ∀ items : List Datum,
      errorOf? (items.mapM (toPart name) >>= fun texts => pure (Shape.ifDefined (.list texts))) =
        (items.map unwrap).findSome? (partError? name) := by
    intro items
    rw [errorOf?_bind_pure, errorOf?_mapM, List.findSome?_map]
    exact congrArg (List.findSome? · _) (funext fun item => errorOf?_toScalar name item.unwrap)
  have hscalar : ∀ d : Datum,
      errorOf? (d.toScalar name >>= fun t => pure (some (Shape.scalar t))) =
        [d].findSome? (partError? name) := by
    intro d
    rw [errorOf?_bind_pure, errorOf?_toScalar, List.findSome?_singleton]
  cases d with
  | mapping entries =>
    simp only [toValue, parts]
    rw [errorOf?_bind_pure, errorOf?_mapM, findSome?_flatMap]
    exact congrArg (List.findSome? · _) (funext fun e => errorOf?_toEntry name e)
  | sequence kind items => exact hlist items
  | range start stop step => exact hlist _
  | view content => exact hlist _
  | _ => exact hscalar _

theorem errorOf?_coerce (d : Datum) : errorOf? (d.coerce name) = d.error? name := by
  have hvalue := errorOf?_toValue name d.unwrap
  cases d with
  | null => rfl
  | _ => exact hvalue

end Datum

def Hooks.accepts (hooks : Hooks) (name : Text) (x : Value) : Bool :=
  match hooks.validate? with
  | some validate => validate name x
  | none => true

namespace VarSpec

def error? (hooks : Hooks) (v : VarSpec) (d : Datum) : Option ExpandError :=
  (d.error? v.name).or (match d.coerce v.name with
    | .ok (some x) => if hooks.accepts v.name x then none else some (.rejected v.name x)
    | _ => none)

theorem renderValue_of_rejected {settings : Settings} {v : VarSpec} {x : Value}
    (h : settings.hooks.accepts v.name x = false) (op : Operator) :
    v.renderValue settings op x = .error (.rejected v.name x) := by
  unfold Hooks.accepts at h
  cases hv : settings.hooks.validate? with
  | none => simp [hv] at h
  | some validate =>
    rw [hv] at h
    simp [renderValue, hv, show validate v.name x = false from h]

theorem renderValue_of_accepted {form? : Option Normalization.Form} {hooks : Hooks} {v : VarSpec}
    {x : Value} (h : hooks.accepts v.name x = true) (op : Operator) :
    v.renderValue ⟨form?, hooks⟩ op x = v.renderValue ⟨form?, { hooks with validate? := none }⟩ op x := by
  unfold Hooks.accepts at h
  cases hv : hooks.validate? with
  | none => rw [← hv]
  | some validate =>
    rw [hv] at h
    simp [renderValue, hv, show validate v.name x = true from h]

theorem errorOf?_renderValue (settings : Settings) (v : VarSpec) (op : Operator) (x : Value) :
    errorOf? (v.renderValue settings op x) =
      if settings.hooks.accepts v.name x then none else some (.rejected v.name x) := by
  cases haccepts : settings.hooks.accepts v.name x with
  | false =>
    rw [renderValue_of_rejected haccepts]
    rfl
  | true =>
    rw [renderValue_of_accepted haccepts]
    unfold renderValue
    cases settings.hooks.transform? <;> rfl

theorem errorOf?_renderDatum (settings : Settings) (v : VarSpec) (op : Operator) (d : Datum) :
    errorOf? (v.renderDatum settings op d) = v.error? settings.hooks d := by
  unfold renderDatum error?
  rw [← Datum.errorOf?_coerce]
  cases d.coerce v.name with
  | error e => rfl
  | ok x =>
    cases x with
    | none => rfl
    | some x => exact (errorOf?_bind_pure _ _).trans (errorOf?_renderValue settings v op x)

theorem renderDatum_of_accepted {form? : Option Normalization.Form} {hooks : Hooks} {v : VarSpec}
    {d : Datum} (h : v.error? hooks d = none) (op : Operator) :
    v.renderDatum ⟨form?, hooks⟩ op d =
      v.renderDatum ⟨form?, { hooks with validate? := none }⟩ op d := by
  unfold error? at h
  obtain ⟨-, hrejected⟩ := Option.or_eq_none_iff.1 h
  unfold renderDatum
  cases hx : d.coerce v.name with
  | error e => rfl
  | ok x =>
    cases x with
    | none => rfl
    | some x =>
      rw [hx] at hrejected
      have haccepted : hooks.accepts v.name x = true := by
        by_contra hnot
        simp [hnot] at hrejected
      exact congrArg (· >>= fun r => pure (some r)) (renderValue_of_accepted haccepted op)

end VarSpec

def Node.specs : Node → List VarSpec
  | .literal _ => []
  | .expression e => e.specs

namespace Template

section Nodes

variable {ε : Type} {render other : Operator → VarSpec → Except ε (Option Rendered)}
  {nodes : List Node}

theorem errorOf?_expandNodes {own? : VarSpec → Option ε}
    (h : ∀ op v, errorOf? (render op v) = own? v) (nodes : List Node) :
    errorOf? (expandNodes (Expression.expandBy render) nodes) =
      (nodes.flatMap Node.specs).findSome? own? := by
  unfold expandNodes
  rw [errorOf?_bind_pure, errorOf?_mapM, findSome?_flatMap]
  refine congrArg (List.findSome? · nodes) (funext fun n => ?_)
  cases n with
  | literal text => rfl
  | expression e =>
    change errorOf? (e.expandBy render) = e.specs.findSome? own?
    unfold Expression.expandBy
    rw [errorOf?_bind_pure, errorOf?_mapM]
    exact congrArg (List.findSome? · e.specs) (funext fun v => h e.operator v)

theorem expandNodes_congr (h : ∀ v ∈ nodes.flatMap Node.specs, ∀ op, render op v = other op v) :
    expandNodes (Expression.expandBy render) nodes =
      expandNodes (Expression.expandBy other) nodes := by
  have hread : nodes.mapM (expandNodes.expandNode (Expression.expandBy render)) =
      nodes.mapM (expandNodes.expandNode (Expression.expandBy other)) := by
    refine mapM_congr fun n hn => ?_
    cases n with
    | literal text => rfl
    | expression e =>
      have hspecs : e.specs.mapM (render e.operator) = e.specs.mapM (other e.operator) :=
        mapM_congr fun v hv => h v (List.mem_flatMap.2 ⟨_, hn, hv⟩) e.operator
      change e.expandBy render = e.expandBy other
      unfold Expression.expandBy
      rw [hspecs]
  unfold expandNodes
  rw [hread]

end Nodes

variable {t : Template} {bindings : List (Datum × Datum)} {normalize : Option Bool} {hooks : Hooks}

theorem expand_eq : t.expand bindings normalize hooks =
    match bindings.find? (·.1.name?.isNone) with
    | some e => .error e.1.refusal
    | none => expandNodes (Expression.expandBy fun op v =>
        v.renderDatum ⟨t.form? normalize, hooks⟩ op ((Datum.bound? bindings v.name).getD .null))
        t.nodes := by
  have hkeys := Datum.errorOf?_nameKeys bindings
  cases hfind : bindings.find? (·.1.name?.isNone) with
  | some e =>
    rw [hfind] at hkeys
    unfold expand
    rw [eq_error_of_errorOf? hkeys]
    rfl
  | none =>
    obtain ⟨named, hnamed, hlook⟩ := Datum.nameKeys_of_names hfind
    unfold expand
    rw [hnamed]
    refine expandNodes_congr fun v _ op => ?_
    rw [hlook]

theorem expand_of_holdsLong {key : Datum} (hname : key.name? = none) (hlong : key.holdsLong = true)
    (d : Datum) : t.expand [(key, d)] normalize hooks = .error (.excess .writing) := by
  have hkey : [(key, d)].find? (·.1.name?.isNone) = some (key, d) :=
    List.find?_cons_of_pos (Option.isNone_iff_eq_none.2 hname)
  rw [expand_eq, hkey]
  exact congrArg _ (Datum.refusal_of_holdsLong hlong)

theorem mem_declared_of_mem_specs {v : VarSpec} (h : v ∈ t.nodes.flatMap Node.specs) :
    v.name ∈ t.declared := by
  obtain ⟨n, hn, hv⟩ := List.mem_flatMap.1 h
  refine mem_declared.2 (List.mem_flatMap.2 ⟨n, hn, ?_⟩)
  cases n with
  | literal text => cases hv
  | expression e => exact List.mem_map_of_mem hv

def concerning (t : Template) (bindings : List (Datum × Datum)) : List (Datum × Datum) :=
  bindings.filter fun e => e.1.name?.all t.declared.contains

theorem find?_concerning {p : Datum × Datum → Bool}
    (h : ∀ e, p e = true → e.1.name?.all t.declared.contains = true) (bindings : List (Datum × Datum)) :
    (t.concerning bindings).find? p = bindings.find? p := by
  unfold concerning
  rw [List.find?_filter]
  refine List.find?_congr fun e _ => ?_
  rw [Bool.eq_iff_iff, decide_eq_true_iff]
  exact and_iff_right_of_imp (h e)

theorem bound?_concerning (bindings : List (Datum × Datum)) {name : Text} (h : name ∈ t.declared) :
    Datum.bound? (t.concerning bindings) name = Datum.bound? bindings name := by
  have hreverse : (t.concerning bindings).reverse = t.concerning bindings.reverse :=
    List.filter_reverse.symm
  unfold Datum.bound?
  rw [hreverse, find?_concerning]
  intro e he
  rw [of_decide_eq_true he]
  exact List.contains_iff_mem.2 h

theorem expand_concerning (bindings : List (Datum × Datum)) :
    t.expand (t.concerning bindings) normalize hooks = t.expand bindings normalize hooks := by
  rw [expand_eq, expand_eq, find?_concerning]
  · split
    · rfl
    · refine expandNodes_congr fun v hv op => ?_
      rw [bound?_concerning bindings (mem_declared_of_mem_specs hv)]
  · intro e he
    rw [Option.isNone_iff_eq_none.1 he]
    rfl

/-- The error of the first variable that has one, in the order in which they occur. -/
def firstError? (t : Template) (bindings : List (Datum × Datum)) (hooks : Hooks) :
    Option ExpandError :=
  (t.nodes.flatMap Node.specs).findSome? fun v =>
    v.error? hooks ((Datum.bound? bindings v.name).getD .null)

/-- The first key that is no name is refused, or cannot even be shown. Where all keys are names the
    first variable that is refused decides; if there is none the text is the one without validation.
    Undeclared names do not matter. -/
theorem expand_of_firstError? (t : Template) (bindings : List (Datum × Datum))
    (normalize : Option Bool) (validate? : Option (Text → Value → Bool)) :
    (∀ key d, bindings.find? (·.1.name?.isNone) = some (key, d) →
      (key.holdsLong = false → ∃ shown, key.display = .ok shown ∧
        t.expand bindings normalize ⟨validate?, none⟩ = .error (.unsupportedKey shown key.kind)) ∧
      (key.holdsLong = true →
        t.expand bindings normalize ⟨validate?, none⟩ = .error (.excess .writing))) ∧
    (bindings.find? (·.1.name?.isNone) = none →
      (∀ e, t.firstError? bindings ⟨validate?, none⟩ = some e →
        t.expand bindings normalize ⟨validate?, none⟩ = .error e) ∧
      (t.firstError? bindings ⟨validate?, none⟩ = none →
        ∃ text, t.expand bindings normalize ⟨validate?, none⟩ = .ok text ∧
          t.expand bindings normalize {} = .ok text)) ∧
    ∀ other, t.concerning other = t.concerning bindings →
      t.expand other normalize ⟨validate?, none⟩ = t.expand bindings normalize ⟨validate?, none⟩ := by
  refine ⟨fun key d hkey => ?_, fun hnames => ?_, fun other hother => ?_⟩
  · rw [expand_eq, hkey]
    refine ⟨fun hshort => ?_, fun hlong => congrArg _ (Datum.refusal_of_holdsLong hlong)⟩
    obtain ⟨shown, hshown, hrefusal⟩ := Datum.exists_refusal_eq hshort
    exact ⟨shown, hshown, congrArg _ hrefusal⟩
  · have herror := errorOf?_expandNodes (fun op (v : VarSpec) =>
      v.errorOf?_renderDatum ⟨t.form? normalize, ⟨validate?, none⟩⟩ op
        ((Datum.bound? bindings v.name).getD .null)) t.nodes
    rw [expand_eq, expand_eq, hnames]
    refine ⟨fun e he => eq_error_of_errorOf? (herror.trans he), fun hnone => ?_⟩
    obtain ⟨text, htext⟩ := eq_ok_of_errorOf? (herror.trans hnone)
    refine ⟨text, htext, ?_⟩
    rw [← htext]
    refine (expandNodes_congr fun v hv op => ?_).symm
    exact VarSpec.renderDatum_of_accepted (List.findSome?_eq_none_iff.1 hnone v hv) op
  · rw [← expand_concerning, hother, expand_concerning]

theorem expand_of_firstError?_rejected :
    let t : Template := ⟨"{x}{y}".toList,
      [.expression ⟨.plain, [⟨['x'], .none⟩]⟩, .expression ⟨.plain, [⟨['y'], .none⟩]⟩], {}⟩
    let digits : Text → Value → Bool := fun _ x => x.texts.all (·.all Char.isDigit)
    let bindings : List (Datum × Datum) := [(.text ['y'], .object), (.text ['z'], .object),
      (.member ['Y'] (.text ['y']), .text ['b']), (.text ['x'], .sequence .tuple [.text ['7']])]
    Template.ofText t.source {} = .ok t ∧ bindings.find? (·.1.name?.isNone) = none ∧
      t.expand bindings none ⟨some digits, none⟩ = .error (.rejected ['y'] (.scalar ['b'])) ∧
      t.expand (bindings.eraseIdx 1) none ⟨some digits, none⟩ =
        .error (.rejected ['y'] (.scalar ['b'])) := by
  intro t digits bindings
  have ht : Template.ofText t.source {} = .ok t := by with_unfolding_all rfl
  have hnames : bindings.find? (·.1.name?.isNone) = none := by decide
  have hfirst : t.firstError? bindings ⟨some digits, none⟩ =
      some (.rejected ['y'] (.scalar ['b'])) := by decide +kernel
  obtain ⟨-, hvalues, hundeclared⟩ := expand_of_firstError? t bindings none (some digits)
  have hexpand := (hvalues hnames).1 _ hfirst
  exact ⟨ht, hnames, hexpand, (hundeclared _ (by rfl)).trans hexpand⟩

/-- A key that is no name and too long to be shown. -/
theorem expand_of_long_key :
    let t : Template := ⟨['x'], [.literal ['x']], {}⟩
    let key : Datum := .number (.fraction (10 ^ Digits.limit) 1)
    Template.ofText t.source {} = .ok t ∧ key.name? = none ∧
      t.expand [(key, .text ['v'])] none {} = .error (.excess .writing) ∧
      ∀ shown, t.expand [(key, .text ['v'])] none {} ≠ .error (.unsupportedKey shown key.kind) := by
  intro t key
  have ht : Template.ofText t.source {} = .ok t := by with_unfolding_all rfl
  have hlong : key.holdsLong = true := by
    have hle : 10 ^ Digits.limit ≤ (10 ^ Digits.limit : Int).natAbs := by
      rw [Int.natAbs_pow, show Int.natAbs 10 = 10 from rfl]
    simp only [key, Datum.holdsLong, Number.isLong, Bool.or_eq_true, decide_eq_true_iff]
    exact .inl hle
  have hexpand : ∀ d, t.expand [(key, d)] none {} = .error (.excess .writing) :=
    expand_of_holdsLong rfl hlong
  refine ⟨ht, rfl, hexpand _, fun shown => ?_⟩
  rw [hexpand]
  intro h
  cases h

end Template

end UriTemplate
