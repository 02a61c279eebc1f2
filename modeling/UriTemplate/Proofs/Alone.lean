import UriTemplate.Proofs.Naming

set_option autoImplicit false

namespace UriTemplate

/-- What stands in front of the text of the only variable, of which an empty text needs no equals
    sign in path style. -/
def Operator.opening (op : Operator) (name : Text) (empty : Bool) : Text :=
  op.leader ++ match op.naming with
    | .bare => []
    | .named => name ++ ['=']
    | .pathStyle => if empty then name else name ++ ['=']

theorem Expression.write_of_scalar {e : Expression} {v : VarSpec} (hspecs : e.specs = [v])
    {value : Text → Option Value} {s : Text} (hx : value v.name = some (.scalar s)) :
    e.write value =
      e.operator.opening v.name (v.cut s).isEmpty ++ e.operator.encode (v.cut s) := by
  have hunits : (v.unitsOf e.operator (some (.scalar s))) =
      (Rendered.mk v.name (.single (e.operator.encode (v.cut s))) false).units e.operator.naming :=
    rfl
  rw [write, hspecs, List.flatMap_singleton, hx, hunits, Operator.opening, List.append_assoc]
  cases hn : e.operator.naming with
  | bare => simp [assemble, Rendered.units, Rendered.items]
  | named => simp [assemble, Rendered.units, Rendered.items]
  | pathStyle =>
    have hop : e.operator.isNamed = true := by rw [Operator.isNamed, hn]; rfl
    cases hempty : (v.cut s).isEmpty with
    | true =>
      have hnil : e.operator.encode (v.cut s) = [] := by
        rwa [← List.isEmpty_iff, isEmpty_encode hop]
      simp [assemble, Rendered.units, Rendered.items, hnil]
    | false =>
      have hcons : e.operator.encode (v.cut s) ≠ [] := by
        rwa [Ne, ← List.isEmpty_iff, isEmpty_encode hop, Bool.not_eq_true]
      simp [assemble, Rendered.units, Rendered.items, hcons]

theorem Expression.atEnd_readAlone_iff (e : Expression) (uri : Text) :
    (e.readAlone uri).2.atEnd = true ↔ (e.readAlone uri).2.pos = uri.length := by
  obtain ⟨htext, segment, hpre, -, hplace⟩ :=
    e.capture_covers (c := .ofText uri) (Nat.zero_le _) (.ofOperator e.operator) none
  change (e.readAlone uri).2.text = uri at htext
  change (e.readAlone uri).2.pos = 0 + segment.length at hplace
  have hle : segment.length ≤ uri.length := hpre.length_le
  unfold Cursor.atEnd
  rw [decide_eq_true_eq, htext]
  omega

namespace Template

variable {t : Template} {e : Expression}

theorem match?_of_nodes_eq (he : t.nodes = [.expression e]) (uri : Text) :
    t.match? uri = if t.config.fullMatch && !(e.readAlone uri).2.atEnd then none
      else some ⟨uri, t.declared, Assoc.ofList (e.readAlone uri).1⟩ := by
  have hrun : matchNodes 0 t.nodes ⟨.ofText uri, [], []⟩ =
      .ok ⟨(e.readAlone uri).2, Assoc.ofList (e.readAlone uri).1, []⟩ := by
    rw [he]
    rfl
  unfold match? trace
  rw [hrun]
  simp only
  split <;> rfl

theorem match?_of_pos_eq (he : t.nodes = [.expression e]) {uri : Text}
    (hpos : (e.readAlone uri).2.pos = uri.length) :
    t.match? uri = some ⟨uri, t.declared, Assoc.ofList (e.readAlone uri).1⟩ := by
  rw [match?_of_nodes_eq he, (e.atEnd_readAlone_iff uri).2 hpos, Bool.not_true, Bool.and_false,
    if_neg Bool.false_ne_true]

theorem match?_eq_none_of_pos_ne (he : t.nodes = [.expression e]) (hfull : t.config.fullMatch = true)
    {uri : Text} (hpos : (e.readAlone uri).2.pos ≠ uri.length) : t.match? uri = none := by
  have hend : (e.readAlone uri).2.atEnd = false :=
    Bool.eq_false_iff.2 fun h => hpos ((e.atEnd_readAlone_iff uri).1 h)
  rw [match?_of_nodes_eq he, hfull, hend]
  rfl

theorem expand_of_nodes_eq (he : t.nodes = [.expression e]) {bindings : List (Datum × Datum)}
    {named : Assoc Text Datum} (hnamed : Datum.nameKeys bindings = .ok named)
    {value : Text → Option Value} (hvalue : Gives named e.specs value) :
    t.expand bindings (some false) {} = .ok (e.write value) := by
  have hgives : GivesAll named t.nodes value := by
    intro d hd
    rw [he] at hd
    cases List.mem_singleton.1 hd
    exact hvalue
  have hwrite : write value t.nodes = e.write value := by
    rw [he]
    exact List.append_nil _
  rw [← hwrite]
  exact bind_eq_ok.2 ⟨named, hnamed, expandNodes_eq_write hgives⟩

theorem specs_wellFormed {source : Text} {config : Config}
    (ht : Template.ofText source config = .ok t) (he : t.nodes = [.expression e]) :
    e.specs ≠ [] ∧ e.names.Nodup ∧ ∀ name ∈ e.names, Name.Valid name := by
  refine Template.wellFormed ht (.expression e) ?_
  rw [he]
  exact List.mem_singleton_self _

end Template

end UriTemplate
