import UriTemplate.Proofs.Escaping
import UriTemplate.Proofs.Naming

set_option autoImplicit false

/-!
The algorithm of RFC 6570, Appendix A, writes an expression from left to right: one table row for
each operator, one step for each variable, and each member or pair of an exploded value as it comes.
`Expression.expand_eq_stream` says that the units that expanding collects and joins are this text.
-/

namespace UriTemplate

open Character

namespace Stream

inductive Allow
  | unreserved
  | withReserved
  deriving DecidableEq, Repr

/-- One row of the table: what comes before the first defined variable and before the others,
    whether names are written, and what a name has behind it in place of an empty value. -/
structure Row where
  first : Text
  sep : Text
  named : Bool
  ifemp : Text
  allow : Allow
  deriving DecidableEq, Repr

def row : Operator → Row
  | .plain => ⟨[], [','], false, [], .unreserved⟩
  | .reserved => ⟨[], [','], false, [], .withReserved⟩
  | .fragment => ⟨['#'], [','], false, [], .withReserved⟩
  | .label => ⟨['.'], ['.'], false, [], .unreserved⟩
  | .path => ⟨['/'], ['/'], false, [], .unreserved⟩
  | .pathParams => ⟨[';'], [';'], true, [], .unreserved⟩
  | .form => ⟨['?'], ['&'], true, ['='], .unreserved⟩
  | .formContinuation => ⟨['&'], ['&'], true, ['='], .unreserved⟩

def digit (n : Nat) : Char := "0123456789ABCDEF".toList.getD n '0'

def triplets (c : Char) : Text :=
  (String.utf8EncodeChar c).flatMap fun b => ['%', digit (b.toNat / 16), digit (b.toNat % 16)]

namespace Allow

def keeps (a : Allow) (c : Char) : Bool := isUnreserved c || (a = .withReserved && isReserved c)

/-- Writes a text, each character as it is or as triplets. Beside reserved characters the triplets
    of the text itself are kept. -/
def encode (a : Allow) : Text → Text
  | '%' :: x :: y :: rest =>
    if a = .withReserved && isHexDigit x && isHexDigit y then '%' :: x :: y :: encode a rest
    else triplets '%' ++ encode a (x :: y :: rest)
  | c :: rest => (if a.keeps c then [c] else triplets c) ++ encode a rest
  | [] => []

end Allow

def truncated (v : VarSpec) (t : Text) : Text :=
  match v.modifier with
  | .first count _ => t.take count
  | _ => t

def oneByOne {α : Type} (sep : Text) (write : α → Text) (out : Text) : List α → Text
  | [] => out
  | [a] => out ++ write a
  | a :: b :: rest => oneByOne sep write (out ++ write a ++ sep) (b :: rest)

namespace Row

def tagged (r : Row) (name : Text) (empty : Bool) (shown : Text) : Text :=
  if r.named then name ++ (if empty then r.ifemp else '=' :: shown) else shown

def pair (r : Row) (d : Text × Text) : Text :=
  if r.named then r.tagged (r.allow.encode d.1) d.2.isEmpty (r.allow.encode d.2)
  else r.allow.encode d.1 ++ '=' :: r.allow.encode d.2

def write (r : Row) (v : VarSpec) (out : Text) : Value → Text
  | .scalar t => out ++ r.tagged v.name t.isEmpty (r.allow.encode (truncated v t))
  | .list members =>
    if v.explodes then
      oneByOne r.sep (fun t => r.tagged v.name t.isEmpty (r.allow.encode t)) out members
    else
      let joined := oneByOne [','] (fun t => r.allow.encode (truncated v t)) [] members
      out ++ r.tagged v.name joined.isEmpty joined
  | .mapping entries =>
    if v.explodes then oneByOne r.sep r.pair out entries
    else
      let joined := oneByOne [',']
        (fun d => r.allow.encode d.1 ++ ',' :: r.allow.encode d.2) [] entries
      out ++ r.tagged v.name joined.isEmpty joined

def start (r : Row) : Option Text → Text
  | none => r.first
  | some text => text ++ r.sep

/-- One variable more. Null, an empty list and an empty mapping are undefined. -/
def step (r : Row) (value : Text → Option Value) (out : Option Text) (v : VarSpec) : Option Text :=
  match value v.name with
  | none | some (.list []) | some (.mapping []) => out
  | some x => some (r.write v (r.start out) x)

end Row

def text (op : Operator) (value : Text → Option Value) (specs : List VarSpec) : Text :=
  (specs.foldl ((row op).step value) none).getD []

theorem digit_eq : ∀ n < 16, digit n = Percent.hexDigit n := by decide

theorem triplets_eq (c : Char) : triplets c = (Utf8.bytes c).flatMap Percent.escapeByte := by
  rw [← Utf8.map_utf8EncodeChar, List.flatMap_map]
  refine congrArg (String.utf8EncodeChar c).flatMap (funext fun b => ?_)
  have hb : b.toNat < 256 := b.toNat_lt
  rw [Percent.escapeByte, digit_eq _ (by omega), digit_eq _ (by omega)]

theorem encode_unreserved (t : Text) : Allow.unreserved.encode t = Percent.encode isUnreserved t := by
  fun_induction Allow.encode Allow.unreserved t with
  | case1 x y rest h ih => simp at h
  | case2 x y rest h ih =>
    rw [ih, triplets_eq, Percent.encode_cons]
    rfl
  | case3 c rest h ih =>
    rw [ih, triplets_eq, Percent.encode_cons]
    simp [Allow.keeps, Percent.encodeChar]
  | case4 => rfl

theorem encode_withReserved (t : Text) :
    Allow.withReserved.encode t =
      Percent.encodeKeeping (fun c => isUnreserved c || isReserved c) t := by
  fun_induction Allow.encode Allow.withReserved t with
  | case1 x y rest h ih =>
    have hx : (isHexDigit x && isHexDigit y) = true := by simpa using h
    rw [Percent.encodeKeeping, if_pos hx, ih]
  | case2 x y rest h ih =>
    have hx : ¬ (isHexDigit x && isHexDigit y) = true := by simpa using h
    rw [Percent.encodeKeeping, if_neg hx, ih, triplets_eq]
    rfl
  | case3 c rest h ih =>
    rw [Percent.encodeKeeping, ih, triplets_eq]
    · simp [Allow.keeps, Percent.encodeChar]
    · exact h
  | case4 => rfl

theorem encode_row (op : Operator) (t : Text) : (row op).allow.encode t = op.encode t := by
  cases h : op.allowsReserved with
  | false =>
    have hallow : (row op).allow = .unreserved := by
      revert h
      cases op <;> decide
    rw [hallow, encode_unreserved, Operator.encode_eq h]
  | true =>
    have hallow : (row op).allow = .withReserved := by
      revert h
      cases op <;> decide
    rw [hallow, encode_withReserved, Operator.encode_of_allowsReserved h]

theorem oneByOne_eq {α : Type} (sep : Text) (write : α → Text) (out : Text) (items : List α) :
    oneByOne sep write out items = out ++ sep.intercalate (items.map write) := by
  fun_induction oneByOne sep write out items with
  | case1 out => exact (List.append_nil out).symm
  | case2 out a => rw [List.map_singleton, List.intercalate_singleton]
  | case3 out a b rest ih =>
    rw [ih, List.map_cons, List.map_cons, List.map_cons, List.intercalate_cons_cons]
    simp only [List.append_assoc]

theorem intercalate_append {sep : Text} {units more : List Text} (h : units ≠ [])
    (hmore : more ≠ []) :
    sep.intercalate (units ++ more) = sep.intercalate units ++ sep ++ sep.intercalate more := by
  induction units with
  | nil => exact absurd rfl h
  | cons unit rest ih =>
    cases rest with
    | nil => rw [List.singleton_append, List.intercalate_cons_of_ne_nil hmore,
        List.intercalate_singleton]
    | cons next rest =>
      rw [List.cons_append, List.cons_append, List.intercalate_cons_cons, ← List.cons_append,
        ih (List.cons_ne_nil next rest), List.intercalate_cons_cons]
      simp only [List.append_assoc]

variable (op : Operator)

theorem first_row : (row op).first = op.leader := by cases op <;> rfl

theorem sep_row : (row op).sep = [op.joiner] := by cases op <;> rfl

theorem named_row : (row op).named = op.isNamed := by cases op <;> rfl

variable {op}

theorem tagged_of_not_named (hop : op.isNamed = false) (name shown : Text) (empty : Bool) :
    (row op).tagged name empty shown = shown := by
  rw [Row.tagged, named_row, hop, if_neg Bool.false_ne_true]

theorem tagged_of_isNamed (hop : op.isNamed = true) (name shown : Text) :
    (row op).tagged name shown.isEmpty shown = (op.item name shown).text := by
  rw [Operator.text_item, Row.tagged, named_row, hop, if_pos rfl]
  cases shown with
  | nil =>
    revert hop
    cases op <;> simp [Operator.isNamed, Operator.naming, row]
  | cons c shown => simp

theorem units_eq_map_tagged (name : Text) (body : Body) :
    Rendered.units ⟨name, body, false⟩ op.naming =
      (Rendered.items ⟨name, body, false⟩).map fun t => (row op).tagged name t.isEmpty t := by
  cases hop : op.isNamed with
  | true =>
    rw [Rendered.units_of_isNamed hop _ rfl]
    exact List.map_congr_left fun t _ => (tagged_of_isNamed hop name t).symm
  | false =>
    rw [Operator.isNamed_eq_false_iff.1 hop]
    refine (List.map_id _).symm.trans (List.map_congr_left fun t _ => ?_)
    exact (tagged_of_not_named hop name t t.isEmpty).symm

theorem tagged_encode (name t : Text) :
    (row op).tagged name t.isEmpty (op.encode t) =
      (row op).tagged name (op.encode t).isEmpty (op.encode t) := by
  cases hop : op.isNamed with
  | true => rw [isEmpty_encode hop]
  | false => rw [tagged_of_not_named hop, tagged_of_not_named hop]

theorem pair_row : (row op).pair = op.keypair := by
  funext d
  unfold Row.pair Operator.keypair
  rw [encode_row, encode_row, named_row]
  cases hop : op.isNamed with
  | true =>
    rw [if_pos rfl, tagged_encode, tagged_of_isNamed hop, Operator.text_item, isEmpty_encode hop]
  | false =>
    rw [if_neg Bool.false_ne_true, Operator.isNamed_eq_false_iff.1 hop, if_neg fun h => nomatch h.2]

theorem truncated_eq_cut (v : VarSpec) (t : Text) : truncated v t = v.cut t := by
  unfold truncated VarSpec.cut VarSpec.limit?
  cases v.modifier <;> rfl

theorem isEmpty_cut (v : VarSpec) (t : Text) : (v.cut t).isEmpty = t.isEmpty := by
  unfold VarSpec.cut VarSpec.limit?
  cases v.modifier with
  | none => rfl
  | explode => rfl
  | first count positive =>
    obtain ⟨n, rfl⟩ := Nat.exists_eq_succ_of_ne_zero (Nat.ne_of_gt positive)
    cases t <;> rfl

theorem unitsOf_ne_nil (op : Operator) (v : VarSpec) {x : Value}
    (hx : x.isDefined = true) :
    v.unitsOf op (some x) ≠ [] := by
  unfold VarSpec.unitsOf VarSpec.render
  cases x with
  | scalar t => simp [units_eq_map_tagged, Rendered.items]
  | list members =>
    cases he : v.explodes
    · simp [units_eq_map_tagged, Rendered.items]
    · simpa [units_eq_map_tagged, Rendered.items, Shape.isDefined] using hx
  | mapping entries =>
    cases he : v.explodes
    · simp [units_eq_map_tagged, Rendered.items]
    · simpa [Rendered.units, Rendered.items, Shape.isDefined] using hx

theorem join_single (name shown : Text) :
    [op.joiner].intercalate (Rendered.units ⟨name, .single shown, false⟩ op.naming) =
      (row op).tagged name shown.isEmpty shown := by
  rw [units_eq_map_tagged]
  exact List.intercalate_singleton

theorem write_eq (v : VarSpec) (out : Text) (x : Value) :
    (row op).write v out x = out ++ [op.joiner].intercalate (v.unitsOf op (some x)) := by
  unfold VarSpec.unitsOf VarSpec.render
  cases x with
  | scalar t =>
    rw [join_single, Row.write, encode_row, truncated_eq_cut, ← isEmpty_cut v t, tagged_encode]
  | list members =>
    cases he : v.explodes with
    | true =>
      have hcut : ∀ t : Text, v.cut t = t := VarSpec.cut_of_limit? (VarSpec.limit?_of_explodes he)
      simp only [Row.write, he, if_true, oneByOne_eq, sep_row, units_eq_map_tagged, Rendered.items,
        List.map_map, encode_row, tagged_encode, hcut]
      rfl
    | false =>
      simp only [Row.write, he, Bool.false_eq_true, if_false, join_single, oneByOne_eq, encode_row,
        truncated_eq_cut, List.nil_append]
      rfl
  | mapping entries =>
    cases he : v.explodes with
    | true =>
      simp only [Row.write, he, if_true, oneByOne_eq, sep_row, Rendered.units, Rendered.items,
        pair_row]
    | false =>
      simp only [Row.write, he, Bool.false_eq_true, if_false, join_single, oneByOne_eq, encode_row,
        List.nil_append]
      rfl

def written (op : Operator) (units : List Text) : Option Text :=
  if units.isEmpty then none else some (op.leader ++ [op.joiner].intercalate units)

theorem assemble_eq (op : Operator) (units : List Text) :
    Expression.assemble op units = (written op units).getD [] := by
  unfold Expression.assemble written
  split <;> rfl

theorem step_eq (r : Row) (value : Text → Option Value) (out : Option Text) (v : VarSpec) :
    r.step value out v =
      (((value v.name).bind Shape.ifDefined).map (r.write v (r.start out))).or out := by
  unfold Row.step
  cases value v.name with
  | none => rfl
  | some x =>
    cases x with
    | scalar t => rfl
    | list members => cases members <;> rfl
    | mapping entries => cases entries <;> rfl

theorem step_written (value : Text → Option Value) (units : List Text) (v : VarSpec) :
    (row op).step value (written op units) v =
      written op (units ++ v.unitsOf op ((value v.name).bind Shape.ifDefined)) := by
  rw [step_eq]
  cases hx : (value v.name).bind Shape.ifDefined with
  | none => rw [VarSpec.unitsOf, List.append_nil]; rfl
  | some x =>
    obtain ⟨given, -, hgiven⟩ := Option.bind_eq_some_iff.1 hx
    have hown := unitsOf_ne_nil op v (Datum.ifDefined_eq_some hgiven).2
    have hall : ¬ (units ++ v.unitsOf op (some x)).isEmpty = true := by simp [hown]
    rw [Option.map_some, Option.some_or, write_eq, written, written, if_neg hall]
    by_cases hunits : units = []
    · simp [hunits, Row.start, first_row]
    · simp [hunits, Row.start, sep_row, intercalate_append hunits hown]

theorem foldl_step_written (value : Text → Option Value) (specs : List VarSpec)
    (units : List Text) :
    specs.foldl ((row op).step value) (written op units) =
      written op (units ++ specs.flatMap fun v =>
        v.unitsOf op ((value v.name).bind Shape.ifDefined)) := by
  induction specs generalizing units with
  | nil => rw [List.foldl_nil, List.flatMap_nil, List.append_nil]
  | cons v specs ih =>
    rw [List.foldl_cons, step_written, ih, List.flatMap_cons, List.append_assoc]

theorem text_eq_write (e : Expression) (value : Text → Option Value) :
    text e.operator value e.specs = e.write fun name => (value name).bind Shape.ifDefined := by
  unfold text Expression.write
  rw [assemble_eq]
  exact congrArg (Option.getD · []) (foldl_step_written value e.specs [])

end Stream

def Datum.ofOption : Option Value → Datum
  | none => .null
  | some x => .ofValue x

/-- Expanding without normalization and hooks writes the stream. -/
theorem Expression.expand_eq_stream (e : Expression) {b : Assoc Text (Option Value)}
    (h : ∀ d ∈ b, ∀ x ∈ d.2, x.Distinct) :
    e.expand .bare (b.map fun d => (d.1, Datum.ofOption d.2)) =
      .ok (Stream.text e.operator (fun name => (b.find? name).join) e.specs) := by
  rw [Stream.text_eq_write]
  refine expand_eq_write fun v _ => ?_
  rw [Assoc.find?_map]
  cases hb : b.find? v.name with
  | none => rfl
  | some given =>
    cases given with
    | none => rfl
    | some x => exact Datum.coerce_ofValue v.name (h _ (Assoc.mem_of_find?_eq_some hb) x rfl)

theorem Expression.expand_eq_stream_pathParams :
    let e : Expression := ⟨.pathParams, [⟨['x'], .first 3 (by decide)⟩, ⟨['l'], .none⟩,
      ⟨['m'], .explode⟩, ⟨['u'], .none⟩]⟩
    let b : Assoc Text (Option Value) := [(['x'], some (.scalar "é/ab".toList)),
      (['l'], some (.list [[]])), (['m'], some (.mapping [(['k'], []), (['a'], ['b'])])),
      (['u'], none)]
    (∀ d ∈ b, ∀ x ∈ d.2, x.Distinct) ∧
      e.expand .bare (b.map fun d => (d.1, Datum.ofOption d.2)) =
        .ok (Stream.text e.operator (fun name => (b.find? name).join) e.specs) ∧
      Stream.text e.operator (fun name => (b.find? name).join) e.specs =
        ";x=%C3%A9%2Fa;l;k;a=b".toList := by
  intro e b
  have hdistinct : ∀ d ∈ b, ∀ x ∈ d.2, x.Distinct := by
    simp [b, Shape.Distinct, Assoc.keys]
  exact ⟨hdistinct, e.expand_eq_stream hdistinct, by rfl⟩

end UriTemplate
