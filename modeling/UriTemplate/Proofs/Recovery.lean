import UriTemplate.Proofs.Expansion
import UriTemplate.Proofs.Passage
import UriTemplate.Proofs.WellFormed

set_option autoImplicit false

/-!
An expression that reads its own text back does so in a longer text too, if what follows is closed
to its operator. Node after node, a template whose expressions all read their own texts back goes
through its expansion to the end, and binds what they capture.
-/

namespace UriTemplate

open Text

theorem Operator.isNamed_eq_false_iff {op : Operator} : op.isNamed = false ↔ op.naming = .bare := by
  cases op <;> decide

namespace Expression

variable {e : Expression} {own rest : Text} {c : Cursor}

theorem readValues_of_isNamed (hop : e.operator.isNamed = true) (t : Text) :
    e.readValues (.ofOperator e.operator) t = readNamed e.operator true e.specs t := by
  unfold readValues Strategy.ofOperator
  rw [if_pos hop]

theorem readValues_of_not_isNamed (hop : e.operator.isNamed = false) (t : Text) :
    e.readValues (.ofOperator e.operator) t = readPositionals e.operator e.specs t := by
  unfold readValues Strategy.ofOperator
  rw [if_neg (Bool.eq_false_iff.1 hop)]

def readAlone (e : Expression) (own : Text) : List (Text × Value) × Cursor :=
  e.capture (.ofOperator e.operator) none (.ofText own)

theorem readAlone_eq {body : Text} (hown : own = e.operator.leader ++ body) :
    (e.readAlone own).1 = (e.readValues (.ofOperator e.operator) body).1 ∧
      (e.readAlone own).2.pos = e.operator.leader.length +
        (body.length - (e.readValues (.ofOperator e.operator) body).2.length) := by
  have hrem : (Cursor.ofText own).remaining = e.operator.leader ++ body := hown
  obtain ⟨hcaptured, -, hplace⟩ :=
    capture_of_isPrefix hrem (Nat.zero_le _) (.ofOperator e.operator) none
  refine ⟨hcaptured, hplace.trans ?_⟩
  change 0 + _ + _ = _
  rw [Nat.zero_add]
  rfl

theorem readAlone_of_readValues {body : Text} {captures : List (Text × Value)}
    (hown : own = e.operator.leader ++ body)
    (hread : e.readValues (.ofOperator e.operator) body = (captures, [])) :
    (e.readAlone own).1 = captures ∧ (e.readAlone own).2.pos = own.length := by
  obtain ⟨hcaptured, hplace⟩ := readAlone_eq hown
  rw [hread] at hcaptured hplace
  refine ⟨hcaptured, hplace.trans ?_⟩
  rw [hown, List.length_append, List.length_nil, Nat.sub_zero]

theorem readAlone_of_not_isPrefix (h : ¬ e.operator.leader <+: own) :
    (e.readAlone own).1 = [] ∧ (e.readAlone own).2.pos = 0 := by
  have hnot : ¬ e.operator.leader <+: (Cursor.ofText own).remaining := h
  unfold readAlone
  rw [capture_of_not_isPrefix hnot]
  exact ⟨rfl, rfl⟩

theorem readAlone_nil (hne : e.operator.leader ≠ []) :
    (e.readAlone []).1 = [] ∧ (e.readAlone []).2.pos = 0 :=
  readAlone_of_not_isPrefix fun h => hne (List.prefix_nil.1 h)

theorem readValues_eq_nil {body : Text} (hown : own = e.operator.leader ++ body)
    (halone : (e.readAlone own).2.pos = own.length) :
    (e.readValues (.ofOperator e.operator) body).2 = [] := by
  obtain ⟨-, hplace⟩ := readAlone_eq hown
  obtain ⟨taken, hbody, -⟩ := e.readValues_takes (.ofOperator e.operator) body
  have hlen := congrArg List.length hbody
  rw [List.length_append] at hlen
  rw [hplace, hown, List.length_append] at halone
  exact List.length_eq_zero_iff.1 (by omega)

theorem capture_of_find? {body literal : Text} (hne : literal ≠ [])
    (hown : own = e.operator.leader ++ body)
    (hfind : find? literal (body ++ rest) = some body.length)
    (halone : (e.readAlone own).2.pos = own.length) (hrem : c.remaining = own ++ rest)
    (hpos : c.pos ≤ c.text.length) :
    (e.capture (.ofOperator e.operator) (some literal) c).1 = (e.readAlone own).1 ∧
      (e.capture (.ofOperator e.operator) (some literal) c).2.text = c.text ∧
      (e.capture (.ofOperator e.operator) (some literal) c).2.pos = c.pos + own.length := by
  obtain ⟨hcaptured, -⟩ := readAlone_eq hown
  have hleft := readValues_eq_nil hown halone
  rw [hown, List.append_assoc] at hrem
  obtain ⟨hread, htext, hplace⟩ :=
    capture_of_isPrefix hrem hpos (.ofOperator e.operator) (some literal)
  have hwindow : before (some literal) (body ++ rest) = body := by
    rw [before_of_find? hne hfind, List.take_left]
  rw [hwindow] at hread hplace
  refine ⟨hread.trans hcaptured.symm, htext, hplace.trans ?_⟩
  rw [hleft, hown, List.length_append, List.length_nil, Nat.sub_zero, Nat.add_assoc]

theorem capture_eq_readAlone (hop : e.operator.allowsReserved = false) (hcov : e.Covers own)
    (hclosed : e.operator.Closed rest) {boundary : Option Text}
    (hboundary : ∀ literal ∈ boundary, literal ≠ [] ∧ literal <+: rest)
    (halone : (e.readAlone own).2.pos = own.length) (hrem : c.remaining = own ++ rest)
    (hpos : c.pos ≤ c.text.length) :
    (e.capture (.ofOperator e.operator) boundary c).1 = (e.readAlone own).1 ∧
      (e.capture (.ofOperator e.operator) boundary c).2.text = c.text ∧
      (e.capture (.ofOperator e.operator) boundary c).2.pos = c.pos + own.length := by
  by_cases habsent : own = [] ∧ e.operator.leader ≠ []
  · obtain ⟨rfl, hne⟩ := habsent
    have hnot : ¬ e.operator.leader <+: c.remaining := by
      rw [hrem]
      exact hclosed.not_isPrefix_leader hne
    obtain ⟨hnil, -⟩ := readAlone_nil hne
    rw [capture_of_not_isPrefix hnot, hnil]
    exact ⟨rfl, rfl, rfl⟩
  · obtain ⟨body, hown, hunits⟩ : ∃ body, own = e.operator.leader ++ body ∧
        Units e.operator.bodyChar body := by
      rcases hcov with hnil | hcov
      · exact ⟨[], by grind, .nil⟩
      · exact hcov
    cases boundary with
    | none =>
      obtain ⟨hcaptured, -⟩ := readAlone_eq hown
      have hleft := readValues_eq_nil hown halone
      rw [hown, List.append_assoc] at hrem
      obtain ⟨hread, htext, hplace⟩ := capture_of_isPrefix hrem hpos (.ofOperator e.operator) none
      rw [show before none (body ++ rest) = body ++ rest from rfl,
        readValues_append hop hclosed] at hread hplace
      refine ⟨hread.trans hcaptured.symm, htext, hplace.trans ?_⟩
      simp only [hleft, hown, List.nil_append, List.length_append]
      omega
    | some literal =>
      obtain ⟨hne, hstands⟩ := hboundary literal rfl
      have hfind := hclosed.find?_eq hop hunits hne hstands
      exact capture_of_find? hne hown hfind halone hrem hpos

end Expression

def Node.names : Node → List Text
  | .literal _ => []
  | .expression e => e.names

namespace Template

variable {value : Text → Option Value} {nodes : List Node}

structure ReadsBack (value : Text → Option Value) (nodes : List Node) : Prop where
  literal : ∀ text, .literal text ∈ nodes → text ≠ []
  covers : ∀ e, .expression e ∈ nodes →
    e.operator.allowsReserved = false ∧ e.Covers (e.write value)
  alone : ∀ e, .expression e ∈ nodes →
    (e.readAlone (e.write value)).2.pos = (e.write value).length
  closed : ∀ before e after, nodes = before ++ .expression e :: after →
    e.operator.Closed (write value after)

theorem ReadsBack.tail {n : Node} (h : ReadsBack value (n :: nodes)) : ReadsBack value nodes where
  literal text hm := h.literal text (List.mem_cons_of_mem n hm)
  covers e he := h.covers e (List.mem_cons_of_mem n he)
  alone e he := h.alone e (List.mem_cons_of_mem n he)
  closed before e after heq := h.closed (n :: before) e after (by rw [heq]; rfl)

def captured (value : Text → Option Value) (nodes : List Node) : List (Text × Value) :=
  nodes.flatMap fun
    | .literal _ => []
    | .expression e => (e.readAlone (e.write value)).1

theorem boundary?_eq_some (value : Text → Option Value) {literal : Text}
    (h : boundary? nodes = some literal) :
    .literal literal ∈ nodes ∧ literal <+: write value nodes := by
  unfold boundary? at h
  split at h
  · next text rest =>
    cases h
    exact ⟨List.mem_cons_self, List.prefix_append _ _⟩
  · cases h

theorem opensLiteral_eq_false {op : Operator} {rest literal : Text} (hclosed : op.Closed rest)
    (hl : literal <+: rest) : opensLiteral op literal = false := by
  rw [Bool.eq_false_iff]
  intro h
  obtain ⟨hleader, hpre⟩ := opensLiteral_eq_true_iff.1 h
  exact hclosed.not_isPrefix_leader hleader (hpre.trans hl)

theorem matchExpression_of_not_opens (i : Nat) {e : Expression} {boundary : Option Text}
    {p : Progress} (h : ∀ literal ∈ boundary, opensLiteral e.operator literal = false) :
    matchExpression i e boundary p =
      { p with
        cursor := (read e boundary p).2
        bindings := p.bindings.putAll (read e boundary p).1 } := by
  refine matchExpression_of_stands i fun literal hl hopens => ?_
  rw [h literal hl] at hopens
  cases hopens

theorem matchNodes_write (h : ReadsBack value nodes) (i : Nat) {p : Progress}
    (hrem : p.cursor.remaining = write value nodes) (hpos : p.cursor.pos ≤ p.cursor.text.length) :
    ∃ q, matchNodes i nodes p = .ok q ∧ q.cursor.atEnd = true ∧
      q.bindings = p.bindings.putAll (captured value nodes) := by
  induction nodes generalizing i p with
  | nil =>
    refine ⟨p, rfl, ?_, rfl⟩
    have hlen := congrArg List.length hrem
    rw [Cursor.length_remaining] at hlen
    unfold Cursor.atEnd
    rw [decide_eq_true_eq]
    change p.cursor.text.length - p.cursor.pos = 0 at hlen
    omega
  | cons n rest ih =>
    cases n with
    | literal text =>
      change p.cursor.remaining = text ++ write value rest at hrem
      have hpre : text <+: p.cursor.remaining := ⟨_, hrem.symm⟩
      have hlen := hpre.length_le
      rw [Cursor.length_remaining] at hlen
      let next : Progress := { p with cursor := p.cursor.advance text.length }
      have hnext : next.cursor.remaining = write value rest := by
        rw [Cursor.remaining_advance, hrem, List.drop_left]
      have hle : next.cursor.pos ≤ next.cursor.text.length := by
        change p.cursor.pos + text.length ≤ p.cursor.text.length
        omega
      obtain ⟨q, hq, hend, hbind⟩ := ih h.tail (i + 1) hnext hle
      refine ⟨q, ?_, hend, hbind⟩
      unfold matchNodes
      rw [Cursor.matchLiteral?_of_isPrefix hpre]
      exact hq
    | expression e =>
      change p.cursor.remaining = e.write value ++ write value rest at hrem
      obtain ⟨hop, hcov⟩ := h.covers e List.mem_cons_self
      have hclosed := h.closed [] e rest rfl
      have hboundary : ∀ literal ∈ boundary? rest, literal ≠ [] ∧ literal <+: write value rest := by
        intro literal hl
        obtain ⟨hmem, hpre⟩ := boundary?_eq_some value hl
        exact ⟨h.literal literal (List.mem_cons_of_mem _ hmem), hpre⟩
      obtain ⟨hcaptured, htext, hplace⟩ := e.capture_eq_readAlone hop hcov hclosed hboundary
        (h.alone e List.mem_cons_self) hrem hpos
      let next : Progress :=
        { p with
          cursor := (read e (boundary? rest) p).2
          bindings := p.bindings.putAll (read e (boundary? rest) p).1 }
      have hnext : next.cursor.remaining = write value rest := by
        change ((read e (boundary? rest) p).2.text).drop (read e (boundary? rest) p).2.pos = _
        rw [read, htext, hplace, ← List.drop_drop]
        change p.cursor.remaining.drop _ = _
        rw [hrem, List.drop_left]
      have hle : next.cursor.pos ≤ next.cursor.text.length := by
        have hlen := congrArg List.length hrem
        rw [Cursor.length_remaining, List.length_append] at hlen
        change (read e (boundary? rest) p).2.pos ≤ (read e (boundary? rest) p).2.text.length
        rw [read, htext, hplace]
        omega
      obtain ⟨q, hq, hend, hbind⟩ := ih h.tail (i + 1) hnext hle
      have hopens : ∀ literal ∈ boundary? rest, opensLiteral e.operator literal = false :=
        fun literal hl => opensLiteral_eq_false hclosed (hboundary literal hl).2
      refine ⟨q, ?_, hend, ?_⟩
      · unfold matchNodes
        rw [matchExpression_of_not_opens i hopens]
        exact hq
      · rw [hbind]
        change (p.bindings.putAll (read e (boundary? rest) p).1).putAll (captured value rest) = _
        rw [read, hcaptured, ← Assoc.putAll_append]
        rfl

theorem match?_of_matchNodes {t : Template} {uri : Text} {q : Progress}
    (hq : matchNodes 0 t.nodes ⟨.ofText uri, [], []⟩ = .ok q) (hend : q.cursor.atEnd = true) :
    t.match? uri = some ⟨uri, t.declared, q.bindings⟩ := by
  unfold match? trace
  rw [hq]
  simp only [hend, Bool.not_true, Bool.and_false, Bool.false_eq_true, if_false]

theorem match?_write {t : Template} (h : ReadsBack value t.nodes) :
    t.match? (write value t.nodes) =
      some ⟨write value t.nodes, t.declared, Assoc.ofList (captured value t.nodes)⟩ := by
  let start : Progress := ⟨.ofText (write value t.nodes), [], []⟩
  have hrem : start.cursor.remaining = write value t.nodes := rfl
  obtain ⟨q, hq, hend, hbind⟩ := matchNodes_write h 0 hrem (Nat.zero_le _)
  rw [match?_of_matchNodes hq hend, hbind]
  rfl

/-- Behind every expression the expanded text is closed to its operator. -/
def Separated (named : Assoc Text Datum) : List Node → Prop
  | [] => True
  | .literal _ :: rest => Separated named rest
  | .expression e :: rest =>
    (∀ text, expandNodes (Expression.expand .bare named) rest = .ok text → e.operator.Closed text) ∧
      Separated named rest

theorem Separated.closed {named : Assoc Text Datum} {before after : List Node} {e : Expression}
    {text : Text} (h : Separated named (before ++ .expression e :: after))
    (htext : expandNodes (Expression.expand .bare named) after = .ok text) :
    e.operator.Closed text := by
  induction before with
  | nil => exact h.1 text htext
  | cons n before ih =>
    cases n with
    | literal _ => exact ih h
    | expression _ => exact ih h.2

theorem readsBack_of_separated {source : Text} {config : Config} {t : Template}
    (ht : Template.ofText source config = .ok t)
    (hop : ∀ e, .expression e ∈ t.nodes → e.operator.allowsReserved = false)
    {named : Assoc Text Datum} (hgives : GivesAll named t.nodes value)
    (halone : ∀ e, .expression e ∈ t.nodes →
      (e.readAlone (e.write value)).2.pos = (e.write value).length)
    (hsep : Separated named t.nodes) : ReadsBack value t.nodes where
  literal text hm := (Template.wellFormed ht _ hm).1
  covers e he := by
    obtain ⟨-, -, hvalid⟩ := Template.wellFormed ht _ he
    have hnames : ∀ v ∈ e.specs, Units Character.isUnreserved v.name := fun v hv =>
      (hvalid v.name (List.mem_map_of_mem hv)).units
    exact ⟨hop e he, Expression.write_eq (hop e he) hnames value⟩
  alone := halone
  closed before e after heq := by
    rw [heq] at hsep
    refine hsep.closed (expandNodes_eq_write fun e' he' => ?_)
    exact hgives e' (by rw [heq]; exact List.mem_append_right _ (List.mem_cons_of_mem _ he'))

theorem declared_eq_foldl (nodes : List Node) :
    Node.declared nodes = (nodes.flatMap Node.names).foldl
      (fun seen name => if name ∈ seen then seen else seen ++ [name]) [] := by
  unfold Node.declared
  refine congrArg (List.foldl _ []) (congrArg nodes.flatMap (funext fun n => ?_))
  cases n <;> rfl

theorem mem_declared {nodes : List Node} {name : Text} :
    name ∈ Node.declared nodes ↔ name ∈ nodes.flatMap Node.names := by
  have hfold : ∀ (names seen : List Text),
      name ∈ names.foldl (fun seen name => if name ∈ seen then seen else seen ++ [name]) seen ↔
        name ∈ seen ∨ name ∈ names := by
    intro names
    induction names with
    | nil => simp
    | cons first names ih =>
      intro seen
      rw [List.foldl_cons, ih]
      split <;> grind
  rw [declared_eq_foldl, hfold]
  simp

theorem find?_captured_cons (value : Text → Option Value) (n : Node) (rest : List Node)
    (name : Text) :
    (Assoc.ofList (captured value (n :: rest))).find? name =
      ((Assoc.ofList (captured value rest)).find? name).or
        ((Assoc.ofList (captured value [n])).find? name) := by
  have happend : captured value (n :: rest) = captured value [n] ++ captured value rest := by
    simp [captured]
  rw [happend]
  change (Assoc.putAll [] _).find? name = _
  rw [Assoc.putAll_append, Assoc.find?_putAll]
  rfl

theorem captured_singleton (value : Text → Option Value) (e : Expression) :
    captured value [.expression e] = (e.readAlone (e.write value)).1 := List.append_nil _

theorem find?_captured {given : Text → Option Value}
    (h : ∀ e, .expression e ∈ nodes → ∀ name,
      (Assoc.ofList (e.readAlone (e.write value)).1).find? name =
        if name ∈ e.names then given name else none) (name : Text) :
    (Assoc.ofList (captured value nodes)).find? name =
      if name ∈ nodes.flatMap Node.names then given name else none := by
  induction nodes with
  | nil => rfl
  | cons n rest ih =>
    have hrest := ih fun e he => h e (List.mem_cons_of_mem n he)
    have hfirst : (Assoc.ofList (captured value [n])).find? name =
        if name ∈ n.names then given name else none := by
      cases n with
      | literal text => rfl
      | expression e =>
        rw [captured_singleton, h e List.mem_cons_self name]
        rfl
    rw [find?_captured_cons, hrest, hfirst, List.flatMap_cons]
    simp only [List.mem_append]
    by_cases hr : name ∈ rest.flatMap Node.names
    · by_cases hn : name ∈ n.names <;> simp [hr, hn]
    · simp [hr]

def given (b : Assoc Text Value) (name : Text) : Option Value :=
  (b.find? name).bind Shape.ifDefined

/-- An expression recovers what bindings give its variables from its own text alone. -/
def RecoversAlone (b : Assoc Text Value) (e : Expression) : Prop :=
  ∀ own, e.expand .bare (Datum.ofValues b) = .ok own →
    (e.readAlone own).2.pos = own.length ∧
      (∀ name ∈ (Assoc.ofList (e.readAlone own).1).keys, name ∈ e.names) ∧
      ∀ name ∈ e.names, (Assoc.ofList (e.readAlone own).1).find? name = given b name

theorem RecoversAlone.find?_eq {b : Assoc Text Value} {e : Expression} (h : RecoversAlone b e)
    {own : Text} (hown : e.expand .bare (Datum.ofValues b) = .ok own) (name : Text) :
    (Assoc.ofList (e.readAlone own).1).find? name =
      if name ∈ e.names then given b name else none := by
  obtain ⟨-, hkeys, hnames⟩ := h own hown
  split
  · next hname => exact hnames name hname
  · next hname => exact Assoc.find?_eq_none_iff.2 fun hmem => hname (hkeys name hmem)

theorem givesAll_ofValues (b : Assoc Text Value) (nodes : List Node) :
    GivesAll (Datum.ofValues b) nodes (valueOf (Datum.ofValues b)) := by
  intro e _ v _
  have hcoerce : ∃ x, (((Datum.ofValues b).find? v.name).getD .null).coerce v.name = .ok x := by
    unfold Datum.ofValues
    rw [Assoc.find?_map]
    cases b.find? v.name with
    | none => exact ⟨none, rfl⟩
    | some x => exact Datum.exists_coerce_ofValue v.name x
  obtain ⟨x, hx⟩ := hcoerce
  unfold valueOf
  rw [hx]

/-- Recovery is compositional: where every expression recovers its variables alone, and the text
    behind each is closed to it, the whole template recovers what is given to its variables. -/
theorem match?_expand_of_recoversAlone {source : Text} {config : Config} {t : Template}
    (ht : Template.ofText source config = .ok t)
    (hop : ∀ e, .expression e ∈ t.nodes → e.operator.allowsReserved = false)
    {b : Assoc Text Value} (hb : b.keys.Nodup)
    (halone : ∀ e, .expression e ∈ t.nodes → RecoversAlone b e)
    (hsep : Separated (Datum.ofValues b) t.nodes) :
    ∃ uri m, t.expand (Datum.keyed (Datum.ofValues b)) (some false) {} = .ok uri ∧
      t.match? uri = some m ∧ m.bindings.keys.Nodup ∧
      ∀ name, m.bindings.find? name = if name ∈ t.declared then given b name else none := by
  have hgives := givesAll_ofValues b t.nodes
  have hown : ∀ e, .expression e ∈ t.nodes →
      e.expand .bare (Datum.ofValues b) = .ok (e.write (valueOf (Datum.ofValues b))) :=
    fun e he => Expression.expand_eq_write (hgives e he)
  have hread := readsBack_of_separated ht hop hgives
    (fun e he => (halone e he _ (hown e he)).1) hsep
  have hkeys : (Datum.ofValues b).keys.Nodup := by
    unfold Datum.ofValues
    rwa [Assoc.keys_map]
  refine ⟨_, _, expand_eq_ok_iff.2 ⟨_, Datum.nameKeys_keyed hkeys, hgives, rfl⟩, match?_write hread,
    Assoc.nodup_keys_ofList _, fun name => ?_⟩
  have hfind := find?_captured (fun e he => (halone e he).find?_eq (hown e he)) name
  change (Assoc.ofList _).find? name = if name ∈ Node.declared t.nodes then given b name else none
  rw [hfind]
  simp only [mem_declared]

theorem match?_expand_of_recoversAlone_repeated :
    let t : Template := ⟨"/{x}{?q*,r}#{x}{;z}".toList,
      [.literal ['/'], .expression ⟨.plain, [⟨['x'], .none⟩]⟩,
        .expression ⟨.form, [⟨['q'], .explode⟩, ⟨['r'], .none⟩]⟩, .literal ['#'],
        .expression ⟨.plain, [⟨['x'], .none⟩]⟩, .expression ⟨.pathParams, [⟨['z'], .none⟩]⟩], {}⟩
    let b : Assoc Text Value := [(['x'], .scalar "a/b".toList), (['q'], .mapping [(['k'], ['v'])])]
    Template.ofText t.source {} = .ok t ∧
      (∀ e, .expression e ∈ t.nodes → e.operator.allowsReserved = false) ∧ b.keys.Nodup ∧
      (∀ e, .expression e ∈ t.nodes → RecoversAlone b e) ∧
      Separated (Datum.ofValues b) t.nodes ∧
      ∃ uri m, t.expand (Datum.keyed (Datum.ofValues b)) (some false) {} = .ok uri ∧
        t.match? uri = some m ∧ m.bindings.keys.Nodup ∧
        ∀ name, m.bindings.find? name = if name ∈ t.declared then given b name else none := by
  intro t b
  have ht : Template.ofText t.source {} = .ok t := by with_unfolding_all rfl
  have hb : b.keys.Nodup := by decide
  have hnodes : ∀ {p : Expression → Prop}, p ⟨.plain, [⟨['x'], .none⟩]⟩ →
      p ⟨.form, [⟨['q'], .explode⟩, ⟨['r'], .none⟩]⟩ → p ⟨.pathParams, [⟨['z'], .none⟩]⟩ →
      ∀ e, .expression e ∈ t.nodes → p e := by
    intro p hx hq hz e he
    simp only [t, List.mem_cons, Node.expression.injEq, reduceCtorEq, List.not_mem_nil, false_or,
      or_false] at he
    rcases he with rfl | rfl | rfl | rfl
    · exact hx
    · exact hq
    · exact hx
    · exact hz
  have hop : ∀ e, .expression e ∈ t.nodes → e.operator.allowsReserved = false := hnodes rfl rfl rfl
  have halone : ∀ e, .expression e ∈ t.nodes → RecoversAlone b e := by
    refine hnodes ?_ ?_ ?_
    all_goals
      rintro own ⟨⟩
      decide +kernel
  have hsep : Separated (Datum.ofValues b) t.nodes := by
    refine ⟨?_, ?_, ?_, ?_, trivial⟩
    all_goals
      intro text h
      cases h
      decide +kernel
  exact ⟨ht, hop, hb, halone, hsep, match?_expand_of_recoversAlone ht hop hb halone hsep⟩

end Template

end UriTemplate
