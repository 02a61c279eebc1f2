import UriTemplate.Proofs.Encoding
import UriTemplate.Proofs.Reading

set_option autoImplicit false

namespace UriTemplate

open Character Text

namespace Item

def tail (i : Item) : Text :=
  match i.value? with
  | none => []
  | some value => '=' :: value

def text (i : Item) : Text := i.key ++ i.tail

structure Sound (i : Item) : Prop where
  key_ne : i.key ≠ []
  key_units : Units isUnreserved i.key
  value_units : ∀ value ∈ i.value?, Units namedChar value

end Item

def stream (op : Operator) : Bool → List Item → Text
  | _, [] => []
  | true, i :: rest => i.text ++ stream op false rest
  | false, i :: rest => op.joiner :: (i.text ++ stream op false rest)

theorem stream_true (op : Operator) (items : List Item) :
    stream op true items = [op.joiner].intercalate (items.map Item.text) := by
  have hfalse : ∀ items : List Item, items ≠ [] →
      stream op false items = op.joiner :: [op.joiner].intercalate (items.map Item.text) := by
    intro items
    induction items with
    | nil => intro h; exact absurd rfl h
    | cons i rest ih =>
      intro _
      cases rest with
      | nil => simp [stream]
      | cons next rest =>
        rw [stream, ih (List.cons_ne_nil next rest)]
        simp [List.intercalate_cons_cons]
  cases items with
  | nil => rfl
  | cons i rest =>
    cases rest with
    | nil => simp [stream]
    | cons next rest =>
      rw [stream, hfalse _ (List.cons_ne_nil next rest)]
      simp [List.intercalate_cons_cons]

section named

variable {op : Operator} (hop : op.isNamed = true)

include hop

theorem joiner_of_isNamed : isUnreserved op.joiner = false ∧ namedChar op.joiner = false ∧
    op.joiner ≠ '%' ∧ op.joiner ≠ '=' := by
  cases op <;> first | decide | cases hop

theorem unit?_stream_eq_none {accept : Char → Bool} (haccept : accept op.joiner = false)
    (items : List Item) : unit? accept (stream op false items) = none := by
  obtain ⟨-, -, hp, -⟩ := joiner_of_isNamed hop
  cases items with
  | nil => rfl
  | cons i rest => exact unit?_cons_eq_none haccept hp _

theorem readKey?_stream {i : Item} (hi : i.Sound) (first : Bool) (rest : List Item) :
    readKey? op first (stream op first (i :: rest)) =
      some (i.key, i.tail ++ stream op false rest) := by
  obtain ⟨hu, -, -, -⟩ := joiner_of_isNamed hop
  have hstart : itemStart? op first (stream op first (i :: rest)) =
      some (i.key ++ (i.tail ++ stream op false rest)) := by
    cases first with
    | true => simp [itemStart?, stream, Item.text]
    | false =>
      unfold itemStart?
      rw [if_neg (by decide), List.isPrefixOf?_eq_some_iff_append_eq, stream, Item.text]
      simp
  have hstop : unit? isUnreserved (i.tail ++ stream op false rest) = none := by
    unfold Item.tail
    cases i.value? with
    | none => exact unit?_stream_eq_none hop hu rest
    | some value =>
      have heq : isUnreserved '=' = false := by decide
      simp [unit?, heq, escape?]
  have hrun := run_of_units Percent.isUnreserved_percent hi.key_units hstop
  unfold readKey?
  rw [hstart]
  simp only [hrun]
  rw [if_neg (by simpa using hi.key_ne)]

theorem readNamedValue_stream {i : Item} (hi : i.Sound) (rest : List Item) :
    readNamedValue none (i.tail ++ stream op false rest) = (i.value?, stream op false rest) := by
  obtain ⟨-, hn, -, heq⟩ := joiner_of_isNamed hop
  unfold Item.tail
  cases hv : i.value? with
  | none =>
    cases rest with
    | nil => rfl
    | cons next rest =>
      unfold readNamedValue
      split
      · next u h => exact absurd (List.cons.inj h).1 heq
      · rfl
  | some value =>
    have hrun := run_of_units (show namedChar '%' = false by decide)
      (hi.value_units value (by rw [hv]; rfl)) (unit?_stream_eq_none hop hn rest)
    simp only [readNamedValue, List.cons_append, hrun]

theorem readKey?_stream_head {items : List Item} (hitems : ∀ i ∈ items, i.Sound) (first : Bool) :
    (readKey? op first (stream op first items)).map (·.1) = items.head?.map (·.key) := by
  cases items with
  | nil => cases first <;> rfl
  | cons i rest =>
    rw [readKey?_stream hop (hitems i List.mem_cons_self)]
    rfl

theorem readItems_stream {later : List Text} {own others : List Item}
    (hown : ∀ i ∈ own, i.Sound ∧ i.key ∉ later) (hothers : ∀ i ∈ others, i.Sound ∧ i.key ∈ later)
    (first : Bool) :
    readItems op later first (stream op first (own ++ others)) =
      (own, stream op (first && own.isEmpty) others) := by
  induction own generalizing first with
  | nil =>
    rw [List.nil_append, List.isEmpty_nil, Bool.and_true]
    cases others with
    | nil => exact readItems_of_none (by cases first <;> rfl)
    | cons i rest =>
      obtain ⟨hi, hkey⟩ := hothers i List.mem_cons_self
      exact readItems_of_mem (readKey?_stream hop hi first rest) hkey
  | cons i own ih =>
    obtain ⟨hi, hkey⟩ := hown i List.mem_cons_self
    rw [List.cons_append, readItems_of_not_mem (readKey?_stream hop hi first _) hkey,
      readNamedValue_stream hop hi, ih (fun j hj => hown j (List.mem_cons_of_mem i hj)) false]
    simp

end named

theorem Value.ofRaw_eq (raw : Text) : Value.ofRaw raw =
    if ',' ∈ raw then .list ((raw.splitOn ',').map Percent.decode) else .scalar (Percent.decode raw) := by
  unfold Value.ofRaw
  split
  · next hcomma =>
    obtain ⟨first, rest, rfl, hfirst⟩ := List.eq_append_cons_of_mem hcomma
    rw [List.splitOn_append_cons_self_of_not_mem hfirst]
    obtain ⟨next, more, hsplit⟩ := List.exists_cons_of_ne_nil (List.splitOn_ne_nil ',' rest)
    rw [hsplit]
    rfl
  · next hcomma =>
    rw [List.splitOn_eq_singleton hcomma]
    rfl

def VarSpec.valueOf (v : VarSpec) : List Item → Option Value
  | [] => none
  | i :: rest =>
    some (if v.explodes then .ofNamedItems v.name (i :: rest) else .ofRaw (i.value?.getD []))

/-- Items that variables in the order of declaration will read as their own: at most one for a plain
    variable, under its name, which no later item has; for an exploded variable none that carries a
    later name, and behind them only such. -/
def Assigned (own : VarSpec → List Item) : List VarSpec → Prop
  | [] => True
  | v :: later =>
    (∀ i ∈ own v, i.Sound) ∧
      (if v.explodes then
        (∀ i ∈ own v, i.key ∉ VarSpec.names later) ∧
          ∀ i ∈ later.flatMap own, i.key ∈ VarSpec.names later
      else
        v.limit? = none ∧ (own v = [] ∨ ∃ value?, own v = [⟨v.name, value?⟩]) ∧
          ∀ i ∈ later.flatMap own, i.key ≠ v.name) ∧
      Assigned own later

theorem Assigned.sound {own : VarSpec → List Item} {specs : List VarSpec}
    (h : Assigned own specs) : ∀ i ∈ specs.flatMap own, i.Sound := by
  induction specs with
  | nil => simp
  | cons v later ih =>
    intro i hi
    rw [List.flatMap_cons] at hi
    rcases List.mem_append.1 hi with hi | hi
    · exact h.1 i hi
    · exact ih h.2.2 i hi

theorem assigned_of_pairwise {own : VarSpec → List Item} {specs : List VarSpec}
    (hsound : ∀ v ∈ specs, ∀ i ∈ own v, i.Sound)
    (hplain : ∀ v ∈ specs, v.explodes = false →
      v.limit? = none ∧ (own v = [] ∨ ∃ value?, own v = [⟨v.name, value?⟩]))
    (hapart : specs.Pairwise fun v w =>
      if v.explodes then (∀ i ∈ own v, i.key ≠ w.name) ∧ ∀ i ∈ own w, i.key = w.name
      else ∀ i ∈ own w, i.key ≠ v.name) : Assigned own specs := by
  induction specs with
  | nil => trivial
  | cons v later ih =>
    obtain ⟨hv, hlater⟩ := List.pairwise_cons.1 hapart
    refine ⟨hsound v List.mem_cons_self, ?_, ih (fun w hw => hsound w (List.mem_cons_of_mem v hw))
      (fun w hw => hplain w (List.mem_cons_of_mem v hw)) hlater⟩
    by_cases he : v.explodes = true
    · rw [if_pos he]
      constructor
      · intro i hi hmem
        obtain ⟨w, hw, hname⟩ := List.mem_map.1 hmem
        have hvw := hv w hw
        rw [if_pos he] at hvw
        exact hvw.1 i hi hname.symm
      · intro i hi
        obtain ⟨w, hw, hi⟩ := List.mem_flatMap.1 hi
        have hvw := hv w hw
        rw [if_pos he] at hvw
        rw [hvw.2 i hi]
        exact List.mem_map_of_mem hw
    · rw [if_neg he]
      obtain ⟨hlimit, hown⟩ := hplain v List.mem_cons_self (Bool.eq_false_iff.2 he)
      refine ⟨hlimit, hown, fun i hi => ?_⟩
      obtain ⟨w, hw, hi⟩ := List.mem_flatMap.1 hi
      have hvw := hv w hw
      rw [if_neg he] at hvw
      exact hvw i hi

section reading

variable {op : Operator} (hop : op.isNamed = true) {v : VarSpec} (hv : v.explodes = false)

include hop hv

theorem readNamed_stream_skip (later : List VarSpec) {items : List Item}
    (hitems : ∀ i ∈ items, i.Sound) (hother : ∀ i ∈ items, i.key ≠ v.name) (first : Bool) :
    readNamed op first (v :: later) (stream op first items) =
      readNamed op first later (stream op first items) := by
  have hnext := readKey?_stream_head hop hitems first
  rw [readNamed, if_neg (Bool.eq_false_iff.1 hv)]
  cases hkey : readKey? op first (stream op first items) with
  | none => rfl
  | some r =>
    rw [hkey] at hnext
    cases items with
    | nil => cases hnext
    | cons i rest =>
      have hkeys : r.1 = i.key := Option.some.inj hnext
      have hne : r.1 ≠ v.name := hkeys ▸ hother i List.mem_cons_self
      simp only [hne, if_false]

theorem readNamed_stream_take (hlimit : v.limit? = none) (later : List VarSpec) {i : Item}
    (hi : i.Sound) (hkey : i.key = v.name) (rest : List Item) (first : Bool) :
    readNamed op first (v :: later) (stream op first (i :: rest)) =
      (readNamed op false later (stream op false rest)).push v.name (.ofRaw (i.value?.getD [])) := by
  rw [readNamed, if_neg (Bool.eq_false_iff.1 hv), readKey?_stream hop hi]
  simp only [hkey, if_true, hlimit, readNamedValue_stream hop hi]

end reading

theorem readNamed_stream {op : Operator} (hop : op.isNamed = true) {own : VarSpec → List Item}
    {specs : List VarSpec} (h : Assigned own specs) (first : Bool) :
    readNamed op first specs (stream op first (specs.flatMap own)) =
      (specs.filterMap fun v => (v.valueOf (own v)).map (v.name, ·), []) := by
  induction specs generalizing first with
  | nil => cases first <;> rfl
  | cons v later ih =>
    obtain ⟨hsound, hv, hlater⟩ := h
    have hrest := hlater.sound
    rw [List.flatMap_cons]
    by_cases he : v.explodes = true
    · rw [if_pos he] at hv
      have hread := readItems_stream hop (fun i hi => ⟨hsound i hi, hv.1 i hi⟩)
        (fun i hi => ⟨hrest i hi, hv.2 i hi⟩) first
      rw [readNamed, if_pos he]
      simp only [hread]
      cases hown : own v with
      | nil =>
        rw [List.isEmpty_nil, if_pos rfl, List.nil_append, ih hlater first]
        simp [VarSpec.valueOf, hown]
      | cons i items =>
        rw [List.isEmpty_cons, if_neg (by decide), Bool.and_false, ih hlater false]
        simp [VarSpec.valueOf, hown, he, Captures.push]
    · rw [if_neg he] at hv
      obtain ⟨hlimit, hv, hother⟩ := hv
      have hplain : v.explodes = false := Bool.eq_false_iff.2 he
      rcases hv with hown | ⟨value?, hown⟩
      · rw [hown, List.nil_append, readNamed_stream_skip hop hplain later hrest hother,
          ih hlater first]
        simp [VarSpec.valueOf, hown]
      · have hi := hsound ⟨v.name, value?⟩ (by rw [hown]; exact List.mem_singleton_self _)
        rw [hown, List.singleton_append, readNamed_stream_take hop hplain hlimit later hi rfl,
          ih hlater false]
        simp [VarSpec.valueOf, hown, he, Captures.push]

end UriTemplate
