import UriTemplate.Proofs.Alone
import UriTemplate.Proofs.NamedRoundTrip

set_option autoImplicit false

/-!
A prefix counts characters where it writes and units where it reads, and an escaped character is as
many units as it has bytes. So a prefix is recovered exactly if the text that it writes has no more
units than the prefix counts; otherwise units are left over, and the match is refused.
-/

namespace UriTemplate

open Character Text

namespace Percent

def charPieces (safe : Char → Bool) (c : Char) : List Text :=
  if safe c then [[c]] else (Utf8.bytes c).map escapeByte

def pieces (safe : Char → Bool) (t : Text) : List Text := t.flatMap (charPieces safe)

theorem flatten_charPieces (safe : Char → Bool) (c : Char) :
    (charPieces safe c).flatten = encodeChar safe c := by
  unfold charPieces encodeChar
  split
  · rfl
  · exact (List.flatMap_def ..).symm

theorem flatten_pieces (safe : Char → Bool) (t : Text) : (pieces safe t).flatten = encode safe t := by
  induction t with
  | nil => rfl
  | cons c t ih =>
    rw [pieces, List.flatMap_cons, List.flatten_append, flatten_charPieces]
    exact congrArg (encodeChar safe c ++ ·) ih

theorem length_pieces_of_lt {safe : Char → Bool} {t : Text} (h : ∀ c ∈ t, c.toNat < 0x80) :
    (pieces safe t).length = t.length := by
  induction t with
  | nil => rfl
  | cons c t ih =>
    have hone : (charPieces safe c).length = 1 := by
      unfold charPieces Utf8.bytes
      split
      · rfl
      · simp [h c List.mem_cons_self]
    have htail := ih fun d hd => h d (List.mem_cons_of_mem c hd)
    rw [pieces, List.flatMap_cons, List.length_append, hone, Nat.add_comm]
    exact congrArg (· + 1) htail

variable {safe accept : Char → Bool} {t piece : Text}

theorem unit?_charPiece (hp : accept '%' = false) (hsafe : ∀ c, safe c = true → accept c = true)
    {c : Char} (h : piece ∈ charPieces safe c) (rest : Text) :
    unit? accept (piece ++ rest) = some (piece, rest) := by
  unfold charPieces at h
  split at h
  · next hc =>
    cases List.mem_singleton.1 h
    simp [unit?, hsafe c hc]
  · obtain ⟨b, hb, rfl⟩ := List.mem_map.1 h
    have hlt := Utf8.bytes_lt c b hb
    exact unit?_escape hp (isHexDigit_hexDigit (by omega)) (isHexDigit_hexDigit (by omega)) rest

theorem unit?_piece (hp : accept '%' = false) (hsafe : ∀ c, safe c = true → accept c = true)
    (h : piece ∈ pieces safe t) (rest : Text) :
    unit? accept (piece ++ rest) = some (piece, rest) := by
  obtain ⟨c, -, hc⟩ := List.mem_flatMap.1 h
  exact unit?_charPiece hp hsafe hc rest

theorem ne_nil_of_mem_pieces (h : piece ∈ pieces safe t) : piece ≠ [] := by
  obtain ⟨c, -, hc⟩ := List.mem_flatMap.1 h
  unfold charPieces at hc
  split at hc
  · cases List.mem_singleton.1 hc
    exact List.cons_ne_nil c []
  · obtain ⟨b, -, rfl⟩ := List.mem_map.1 hc
    exact List.cons_ne_nil _ _

end Percent

theorem Text.steps_flatten {step : Text → Option (Text × Text)} (hnil : step [] = none)
    {pieces : List Text} (h : ∀ piece ∈ pieces, ∀ rest, step (piece ++ rest) = some (piece, rest))
    (limit : Nat) :
    steps step limit pieces.flatten =
      ((pieces.take limit).flatten, (pieces.drop limit).flatten) := by
  induction limit generalizing pieces with
  | zero => rfl
  | succ limit ih =>
    cases pieces with
    | nil => exact steps_of_eq_none hnil _
    | cons piece pieces =>
      have hmore := ih fun p hp => h p (List.mem_cons_of_mem piece hp)
      rw [List.flatten_cons, steps, h piece List.mem_cons_self]
      simp only [hmore, List.take_succ_cons, List.drop_succ_cons, List.flatten_cons]

theorem Percent.run_encode {safe accept : Char → Bool} (hp : accept '%' = false)
    (hsafe : ∀ c, safe c = true → accept c = true) (limit : Nat) (t : Text) :
    run accept (some limit) (encode safe t) =
      (((pieces safe t).take limit).flatten, ((pieces safe t).drop limit).flatten) := by
  rw [← flatten_pieces]
  exact steps_flatten (unit?_advances accept).nil (fun _ hpiece => unit?_piece hp hsafe hpiece) limit

theorem Operator.readNamedValue_tail (op : Operator) (key raw : Text) (limit : Nat) :
    (readNamedValue (some limit) (op.item key raw).tail).1.getD [] =
        (run namedChar (some limit) raw).1 ∧
      (readNamedValue (some limit) (op.item key raw).tail).2 =
        (run namedChar (some limit) raw).2 := by
  unfold item
  split
  · next hempty =>
    rw [List.isEmpty_iff.1 hempty.1, run_of_unit?_eq_none (some limit) rfl]
    exact ⟨rfl, rfl⟩
  · exact ⟨rfl, rfl⟩

section readers

variable {op : Operator} {x : Text} {n : Nat} {hn : 0 < n}

theorem readPositionals_of_first (hop : op.allowsReserved = false) (t : Text) :
    readPositionals op [⟨x, .first n hn⟩] (Percent.encode isUnreserved t) =
      ([(x, .ofRaw ((Percent.pieces isUnreserved t).take n).flatten)],
        ((Percent.pieces isUnreserved t).drop n).flatten) := by
  have hpercent : op.positionalChar false true '%' = false := by
    simp [Operator.positionalChar, hop, Percent.isUnreserved_percent]
  have hsafe : ∀ c, isUnreserved c = true → op.positionalChar false true c = true := by
    intro c hc
    simp [Operator.positionalChar, hc]
  change ([(x, Value.ofRaw (run _ (some n) _).1)], (run _ (some n) _).2) = _
  rw [Percent.run_encode hpercent hsafe]

theorem readNamed_of_first (hop : op.isNamed = true) (hvalid : Name.Valid x) (t : Text) :
    readNamed op true [⟨x, .first n hn⟩]
        (stream op true [op.item x (Percent.encode isUnreserved t)]) =
      ([(x, .ofRaw ((Percent.pieces isUnreserved t).take n).flatten)],
        ((Percent.pieces isUnreserved t).drop n).flatten) := by
  have hsound : (op.item x (Percent.encode isUnreserved t)).Sound :=
    Operator.sound_item hvalid.ne_nil hvalid.units (.encode t)
  have htail : (op.item x (Percent.encode isUnreserved t)).tail ++ stream op false [] =
      (op.item x (Percent.encode isUnreserved t)).tail := List.append_nil _
  have hsafe : ∀ c, isUnreserved c = true → namedChar c = true :=
    fun c hc => Bool.or_eq_true_iff.2 (.inl hc)
  obtain ⟨hvalue, hleft⟩ := op.readNamedValue_tail x (Percent.encode isUnreserved t) n
  have hread : readNamed op true [⟨x, .first n hn⟩]
      (stream op true [op.item x (Percent.encode isUnreserved t)]) =
      ([(x, .ofRaw (run namedChar (some n) (Percent.encode isUnreserved t)).1)],
        (run namedChar (some n) (Percent.encode isUnreserved t)).2) := by
    simp [readNamed, VarSpec.explodes, VarSpec.limit?, readKey?_stream hop hsound, htail,
      Operator.key_item, Captures.push, hvalue, hleft]
  rw [hread, Percent.run_encode (by decide) hsafe]

end readers

namespace Expression

variable {e : Expression} {x s : Text} {n : Nat} {hn : 0 < n} {value : Text → Option Value}

theorem readValues_of_first (hspecs : e.specs = [⟨x, .first n hn⟩]) (hvalid : Name.Valid x)
    (hop : e.operator.allowsReserved = false) (hx : value x = some (.scalar s)) :
    ∃ body, e.write value = e.operator.leader ++ body ∧
      e.readValues (.ofOperator e.operator) body =
        ([(x, .ofRaw ((Percent.pieces isUnreserved (s.take n)).take n).flatten)],
          ((Percent.pieces isUnreserved (s.take n)).drop n).flatten) := by
  have hencode : e.operator.encode (VarSpec.cut ⟨x, .first n hn⟩ s) =
      Percent.encode isUnreserved (s.take n) := by
    rw [Operator.encode_eq hop]
    rfl
  cases hnamed : e.operator.isNamed with
  | false =>
    have hbare := Operator.isNamed_eq_false_iff.1 hnamed
    refine ⟨Percent.encode isUnreserved (s.take n), ?_, ?_⟩
    · rw [write_of_scalar hspecs hx, Operator.opening, hbare, List.append_nil, hencode]
    · rw [readValues_of_not_isNamed hnamed, hspecs]
      exact readPositionals_of_first hop (s.take n)
  | true =>
    have hitems : (e.specs.flatMap fun v => v.itemsFor e.operator (value v.name)) =
        [e.operator.item x (Percent.encode isUnreserved (s.take n))] := by
      rw [hspecs, List.flatMap_singleton, hx]
      simp only [VarSpec.itemsFor, VarSpec.items, hencode]
    refine ⟨stream e.operator true [e.operator.item x (Percent.encode isUnreserved (s.take n))],
      ?_, ?_⟩
    · rw [write_eq_stream hnamed, hitems]
      rfl
    · rw [readValues_of_isNamed hnamed, hspecs]
      exact readNamed_of_first hnamed hvalid (s.take n)

/-- A prefix is read back to the end if what it writes has no more units than it counts, and
    otherwise reading stops short. -/
theorem readAlone_of_first (hspecs : e.specs = [⟨x, .first n hn⟩]) (hvalid : Name.Valid x)
    (hop : e.operator.allowsReserved = false) (hx : value x = some (.scalar s)) :
    ((Percent.pieces isUnreserved (s.take n)).length ≤ n →
      (e.readAlone (e.write value)).1 = [(x, .scalar (s.take n))] ∧
        (e.readAlone (e.write value)).2.pos = (e.write value).length) ∧
      (n < (Percent.pieces isUnreserved (s.take n)).length →
        (e.readAlone (e.write value)).2.pos ≠ (e.write value).length) := by
  obtain ⟨body, hwrite, hread⟩ := readValues_of_first hspecs hvalid hop hx
  constructor
  · intro hle
    have hscalar : Value.ofRaw (Percent.encode isUnreserved (s.take n)) = .scalar (s.take n) := by
      have hone := Value.ofRaw_commas (List.cons_ne_nil (s.take n) [])
      rwa [show commas ([s.take n].map (Percent.encode isUnreserved)) =
        Percent.encode isUnreserved (s.take n) by simp [commas]] at hone
    rw [List.take_of_length_le hle, List.drop_of_length_le hle, Percent.flatten_pieces, hscalar]
      at hread
    exact readAlone_of_readValues hwrite hread
  · intro hlt hend
    have hnil := readValues_eq_nil hwrite hend
    rw [hread, List.flatten_eq_nil_iff] at hnil
    have hdrop : (Percent.pieces isUnreserved (s.take n)).drop n = [] :=
      List.eq_nil_iff_forall_not_mem.2 fun piece hpiece =>
        Percent.ne_nil_of_mem_pieces (List.mem_of_mem_drop hpiece) (hnil piece hpiece)
    exact Nat.not_le_of_lt hlt (List.drop_eq_nil_iff.1 hdrop)

end Expression

namespace Template

/-- A prefix is recovered exactly if the text that it writes has no more units than the prefix counts
    characters, as single-byte text always has; otherwise a full match is refused. -/
theorem match?_expand_of_first {source : Text} {config : Config} {t : Template}
    (ht : Template.ofText source config = .ok t) (hfull : t.config.fullMatch = true)
    {e : Expression} (he : t.nodes = [.expression e]) (hop : e.operator.allowsReserved = false)
    {x : Text} {n : Nat} {hn : 0 < n} (hspecs : e.specs = [⟨x, .first n hn⟩]) (s : Text) :
    ∃ uri, t.expand [(.text x, .text s)] (some false) {} = .ok uri ∧
      ((∃ m, t.match? uri = some m ∧ m.bindings = [(x, .scalar (s.take n))]) ↔
        (Percent.pieces isUnreserved (s.take n)).length ≤ n) ∧
      (n < (Percent.pieces isUnreserved (s.take n)).length → t.match? uri = none) ∧
      ((∀ c ∈ s.take n, c.toNat < 0x80) →
        (Percent.pieces isUnreserved (s.take n)).length ≤ n) := by
  let value : Text → Option Value := fun name => if name = x then some (.scalar s) else none
  have hx : value x = some (.scalar s) := if_pos rfl
  have hgives : Gives [(x, .text s)] e.specs value := gives_text hspecs hx
  obtain ⟨-, -, hvalid⟩ := specs_wellFormed ht he
  have hname : Name.Valid x := hvalid x (by simp [Expression.names, VarSpec.names, hspecs])
  obtain ⟨hwhole, hshort⟩ := Expression.readAlone_of_first hspecs hname hop hx
  have hnone : n < (Percent.pieces isUnreserved (s.take n)).length →
      t.match? (e.write value) = none :=
    fun hlt => match?_eq_none_of_pos_ne he hfull (hshort hlt)
  refine ⟨e.write value, expand_of_nodes_eq he rfl hgives, ⟨?_, ?_⟩, hnone, ?_⟩
  · rintro ⟨m, hm, -⟩
    refine Nat.le_of_not_lt fun hlt => ?_
    rw [hnone hlt] at hm
    cases hm
  · intro hle
    obtain ⟨hread, hpos⟩ := hwhole hle
    refine ⟨_, match?_of_pos_eq he hpos, ?_⟩
    rw [hread]
    rfl
  · intro hbytes
    rw [Percent.length_pieces_of_lt hbytes]
    exact List.length_take_le n s

theorem match?_expand_of_first_form :
    let t : Template := ⟨"{?q:4}".toList,
      [.expression ⟨.form, [⟨['q'], .first 4 (by decide)⟩]⟩], {}⟩
    Template.ofText t.source {} = .ok t ∧ t.config.fullMatch = true ∧
      (∃ uri m, t.expand [(.text ['q'], .text "€,".toList)] (some false) {} = .ok uri ∧
        t.match? uri = some m ∧ m.bindings = [(['q'], .scalar "€,".toList)]) ∧
      ∃ uri, t.expand [(.text ['q'], .text "€,z/z".toList)] (some false) {} = .ok uri ∧
        t.match? uri = none := by
  intro t
  have ht : Template.ofText t.source {} = .ok t := by with_unfolding_all rfl
  obtain ⟨uri, huri, hiff, -⟩ := match?_expand_of_first ht rfl rfl rfl rfl "€,".toList
  obtain ⟨more, hmore, -, hnone, -⟩ := match?_expand_of_first ht rfl rfl rfl rfl "€,z/z".toList
  obtain ⟨m, hm, hbindings⟩ := hiff.2 (by decide +kernel)
  exact ⟨ht, rfl, ⟨uri, m, huri, hm, hbindings⟩, more, hmore, hnone (by decide +kernel)⟩

/-- The first two characters of a text are written as three units, and the third is left over. -/
theorem match?_expand_first_escaped :
    let t : Template := ⟨"{var:2}".toList,
      [.expression ⟨.plain, [⟨"var".toList, .first 2 (by decide)⟩]⟩], {}⟩
    Template.ofText t.source {} = .ok t ∧ t.config.fullMatch = true ∧
      t.expand [(.text "var".toList, .text "héllo".toList)] (some false) {} =
        .ok "h%C3%A9".toList ∧
      t.match? "h%C3%A9".toList = none := by
  refine ⟨?_, rfl, ?_, ?_⟩
  · with_unfolding_all rfl
  · with_unfolding_all rfl
  · with_unfolding_all rfl

end Template

end UriTemplate
