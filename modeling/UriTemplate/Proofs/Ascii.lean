import UriTemplate.Proofs.Refusal

set_option autoImplicit false

namespace UriTemplate

def Text.Ascii (t : Text) : Prop := ∀ c ∈ t, c.toNat < 0x80

instance (t : Text) : Decidable t.Ascii :=
  List.decidableBAll (fun c : Char => c.toNat < 0x80) t

theorem Text.ascii_cons {c : Char} {t : Text} :
    Text.Ascii (c :: t) ↔ c.toNat < 0x80 ∧ Text.Ascii t := List.forall_mem_cons

namespace Normalization

variable {c : Char} {t : Text}

theorem decompose_of_ascii (form : Form) (h : c.toNat < 0x80) : decompose form c = [c] := by
  cases form with
  | nfc | nfd => exact if_pos h
  | nfkc | nfkd => exact if_pos h

theorem combiningClass_of_ascii (h : c.toNat < 0x80) : combiningClass c = 0 :=
  if_pos (Nat.lt_trans h (by decide))

theorem composite?_of_ascii (starter : Char) (h : c.toNat < 0x80) : composite? starter c = none :=
  if_pos (Nat.lt_trans h (by decide))

theorem flatMap_decompose_of_ascii (form : Form) (h : t.Ascii) : t.flatMap (decompose form) = t := by
  induction t with
  | nil => rfl
  | cons c t ih =>
    obtain ⟨hc, ht⟩ := Text.ascii_cons.1 h
    rw [List.flatMap_cons, decompose_of_ascii form hc, ih ht]
    rfl

theorem sortMarks_of_starters {marks : List (Nat × Char)} (h : ∀ mark ∈ marks, mark.1 = 0) :
    sortMarks marks = marks := by
  induction marks with
  | nil => rfl
  | cons mark rest ih =>
    obtain ⟨hmark, hrest⟩ := List.forall_mem_cons.1 h
    rw [sortMarks, if_pos hmark, ih hrest]

theorem reorder_of_ascii (h : t.Ascii) : reorder t = t := by
  have hstarters : ∀ mark ∈ t.map fun c => (combiningClass c, c), mark.1 = 0 := by
    intro mark hmark
    obtain ⟨c, hc, rfl⟩ := List.mem_map.1 hmark
    exact combiningClass_of_ascii (h c hc)
  rw [reorder, sortMarks_of_starters hstarters, List.map_map]
  exact List.map_id t

theorem composeFrom_of_ascii (starter : Char) (h : t.Ascii) :
    composeFrom starter 0 [] t = starter :: t := by
  induction t generalizing starter with
  | nil => rfl
  | cons c t ih =>
    obtain ⟨hc, ht⟩ := Text.ascii_cons.1 h
    -- nothing is joined with the starter, and the character is the next one
    simp only [composeFrom, combiningClass_of_ascii hc, composite?_of_ascii starter hc, ih c ht]
    rfl

theorem compose_of_ascii (h : t.Ascii) : compose t = t := by
  cases t with
  | nil => rfl
  | cons c t =>
    obtain ⟨hc, ht⟩ := Text.ascii_cons.1 h
    rw [compose, if_pos (combiningClass_of_ascii hc), composeFrom_of_ascii c ht]

theorem normalize_of_ascii (form : Form) (h : t.Ascii) : normalize form t = t := by
  unfold normalize
  rw [flatMap_decompose_of_ascii form h, reorder_of_ascii h]
  cases form with
  | nfc | nfkc => exact compose_of_ascii h
  | nfd | nfkd => rfl

end Normalization

open Normalization

theorem Value.map_of_texts {f : Text → Text} {x : Value} (h : ∀ text ∈ x.texts, f text = text)
    (hdistinct : x.Distinct) : x.map f = x := by
  cases x with
  | scalar text => exact congrArg Shape.scalar (h text (List.mem_singleton_self text))
  | list items =>
    exact congrArg Shape.list ((List.map_congr_left h).trans (List.map_id items))
  | mapping entries =>
    have hsame : entries.map (fun e => (f e.1, f e.2)) = entries := by
      refine (List.map_congr_left fun e he => ?_).trans (List.map_id entries)
      have hkey : e.1 ∈ Shape.texts (.mapping entries) := List.mem_flatMap.2 ⟨e, he, by simp⟩
      have hitem : e.2 ∈ Shape.texts (.mapping entries) := List.mem_flatMap.2 ⟨e, he, by simp⟩
      exact Prod.ext (h _ hkey) (h _ hitem)
    simp only [Shape.map, hsame]
    exact congrArg Shape.mapping (Assoc.ofList_of_nodup hdistinct)

/-- Every text of what the datum gives the variable is ASCII. -/
def Datum.Ascii (name : Text) (d : Datum) : Prop :=
  ∀ x, d.coerce name = .ok (some x) → ∀ text ∈ x.texts, text.Ascii

theorem Datum.ascii_of_coerce {name : Text} {d : Datum} {x : Value}
    (h : d.coerce name = .ok (some x)) (hx : ∀ text ∈ x.texts, text.Ascii) : d.Ascii name := by
  intro given hgiven
  rw [h] at hgiven
  cases hgiven
  exact hx

namespace VarSpec

variable {v : VarSpec} {d : Datum} {x : Value}

theorem renderValue_of_ascii (h : ∀ text ∈ x.texts, text.Ascii) (hdistinct : x.Distinct)
    (form? : Option Form) (hooks : Hooks) (op : Operator) :
    v.renderValue ⟨form?, hooks⟩ op x = v.renderValue ⟨none, hooks⟩ op x := by
  cases form? with
  | none => rfl
  | some form =>
    have hmap : x.map (normalize form) = x :=
      Value.map_of_texts (fun text htext => normalize_of_ascii form (h text htext)) hdistinct
    simp only [renderValue, hmap]

theorem renderDatum_of_ascii (h : d.Ascii v.name) (form? : Option Form) (hooks : Hooks)
    (op : Operator) : v.renderDatum ⟨form?, hooks⟩ op d = v.renderDatum ⟨none, hooks⟩ op d := by
  unfold renderDatum
  cases hx : d.coerce v.name with
  | error e => rfl
  | ok x? =>
    cases x? with
    | none => rfl
    | some x =>
      obtain ⟨-, hdistinct⟩ := Datum.coerce_eq_some hx
      have hvalue := renderValue_of_ascii (v := v) (h x hx) hdistinct form? hooks op
      exact congrArg (· >>= fun r => pure (some r)) hvalue

end VarSpec

namespace Template

/-- Where the declared variables are bound to nothing but ASCII, a template has the same expansion
    under any configuration and with any choice of normalization, or fails with the same error. -/
theorem expand_of_ascii {t u : Template} (hnodes : u.nodes = t.nodes)
    {bindings : List (Datum × Datum)}
    (hascii : ∀ name ∈ t.declared, ∀ d ∈ Datum.bound? bindings name, d.Ascii name)
    (normalize other : Option Bool) (hooks : Hooks) :
    u.expand bindings normalize hooks = t.expand bindings other hooks := by
  have hplain : ∀ v ∈ t.nodes.flatMap Node.specs, ∀ op form?,
      v.renderDatum ⟨form?, hooks⟩ op ((Datum.bound? bindings v.name).getD .null) =
        v.renderDatum ⟨none, hooks⟩ op ((Datum.bound? bindings v.name).getD .null) := by
    intro v hv op form?
    cases hbound : Datum.bound? bindings v.name with
    | none => rfl
    | some d =>
      have hd := hascii v.name (mem_declared_of_mem_specs hv) d hbound
      exact VarSpec.renderDatum_of_ascii hd form? hooks op
  rw [expand_eq, expand_eq, hnodes]
  split
  · rfl
  · apply expandNodes_congr
    intro v hv op
    -- both are what is rendered without a form
    exact (hplain v hv op _).trans (hplain v hv op _).symm

/-- Keys and items of a mapping, a list that is cut, and a ligature that nothing declares. -/
theorem expand_of_ascii_forms :
    let nodes : List Node :=
      [.expression ⟨.form, [⟨['m'], .explode⟩, ⟨['l'], .first 1 (by decide)⟩]⟩]
    let t : Template := ⟨"{?m*,l:1}".toList, nodes, { normalizeValues := true, form := .nfkc }⟩
    let u : Template := ⟨"{?m*,l:1}".toList, nodes, { normalizeValues := false, form := .nfd }⟩
    let bindings : List (Datum × Datum) := [(.text ['m'], .mapping [(.text "a b".toList, .bool true)]),
      (.text ['l'], .sequence .list [.text "~~".toList, .text "%41".toList]),
      (.text ['z'], .text ['ﬁ'])]
    Template.ofText t.source t.config = .ok t ∧ Template.ofText u.source u.config = .ok u ∧
      u.nodes = t.nodes ∧
      (∀ name ∈ t.declared, ∀ d ∈ Datum.bound? bindings name, d.Ascii name) ∧
      u.expand bindings (some true) {} = t.expand bindings none {} ∧
      u.expand bindings none {} = .ok "?a%20b=true&l=~,%25".toList := by
  intro nodes t u bindings
  have ht : Template.ofText t.source t.config = .ok t := by with_unfolding_all rfl
  have hu : Template.ofText u.source u.config = .ok u := by with_unfolding_all rfl
  have hascii : ∀ name ∈ t.declared, ∀ d ∈ Datum.bound? bindings name, d.Ascii name := by
    intro name hname d hd
    have hnames : t.declared = [['m'], ['l']] := by decide
    rw [hnames] at hname
    simp only [List.mem_cons, List.not_mem_nil, or_false] at hname
    rcases hname with rfl | rfl
    · cases hd
      exact Datum.ascii_of_coerce (x := .mapping [("a b".toList, "true".toList)]) rfl (by decide)
    · cases hd
      exact Datum.ascii_of_coerce (x := .list ["~~".toList, "%41".toList]) rfl (by decide)
  have hexpand : u.expand bindings none {} = .ok "?a%20b=true&l=~,%25".toList := by
    with_unfolding_all rfl
  have hnodes : u.nodes = t.nodes := rfl
  exact ⟨ht, hu, hnodes, hascii, expand_of_ascii hnodes hascii (some true) none {}, hexpand⟩

end Template

end UriTemplate
