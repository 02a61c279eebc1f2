import UriTemplate.Proofs.Reserved

set_option autoImplicit false

/-!
Encoding that keeps escapes rewrites a text from the left, by one rule for each front that the text
can have. The rules are `Rewriting`, and they leave one text. Escapes may also be looked for from
one percent sign to the next, and what stands between two of them encoded in one piece; this is
`encodeChunks`. A percent sign that opens no escape waits there with the piece that it is in.
-/

namespace UriTemplate

open Character Text

namespace Text

theorem partition?_length_lt {sep : Char} {t left right : Text}
    (h : partition? sep t = some (left, right)) : right.length < t.length := by
  obtain ⟨rfl, -⟩ := partition?_eq_some h
  simp only [List.length_append, List.length_cons]
  omega

theorem escape?_length {t taken left : Text} (h : escape? t = some (taken, left)) :
    left.length + 3 = t.length := by
  obtain ⟨a, b, -, -, rfl, rfl⟩ := escape?_eq_some h
  rfl

theorem escape?_cons_eq_none_iff {c : Char} {s : Text} : escape? (c :: s) = none ↔
    ∀ a b rest, c :: s = '%' :: a :: b :: rest → ¬ (isHexDigit a ∧ isHexDigit b) := by
  constructor
  · rintro h a b rest heq ⟨ha, hb⟩
    rw [heq] at h
    simp [escape?, ha, hb] at h
  · intro h
    cases hescape : escape? (c :: s) with
    | none => rfl
    | some r =>
      obtain ⟨a, b, ha, hb, hr, htext⟩ := escape?_eq_some hescape
      rw [hr] at htext
      exact absurd ⟨ha, hb⟩ (h a b r.2 htext)

end Text

namespace Percent

def UpperEscapeOf (octet : UInt8) (t : Text) : Prop :=
  ∃ a b, "0123456789ABCDEF".toList[octet.toNat / 16]? = some a ∧
    "0123456789ABCDEF".toList[octet.toNat % 16]? = some b ∧ t = ['%', a, b]

/-- A text and what the rules make of it: an escape is copied, and so is a reserved or unreserved
    character; for any other character that opens no escape the escapes of its octets in UTF-8 are
    written. -/
inductive Rewriting : Text → Text → Prop
  | nil : Rewriting [] []
  | escape {a b : Char} (ha : isHexDigit a = true) (hb : isHexDigit b = true) {s t : Text}
      (h : Rewriting s t) : Rewriting ('%' :: a :: b :: s) ('%' :: a :: b :: t)
  | kept {c : Char} (hc : isReserved c = true ∨ isUnreserved c = true) {s t : Text}
      (h : Rewriting s t) : Rewriting (c :: s) (c :: t)
  | escaped {c : Char} {escapes : List Text} (hr : isReserved c = false)
      (hu : isUnreserved c = false) {s t : Text}
      (hs : ∀ a b rest, c :: s = '%' :: a :: b :: rest → ¬ (isHexDigit a ∧ isHexDigit b))
      (hc : List.Forall₂ UpperEscapeOf (String.utf8EncodeChar c) escapes) (h : Rewriting s t) :
      Rewriting (c :: s) (escapes.flatten ++ t)

theorem upperEscapeOf_iff {octet : UInt8} {t : Text} :
    UpperEscapeOf octet t ↔ t = escapeByte octet.toNat := by
  have hlt := octet.toNat_lt
  rw [UpperEscapeOf, getElem?_upperDigits _ (by omega), getElem?_upperDigits _ (by omega)]
  constructor
  · rintro ⟨a, b, ha, hb, rfl⟩
    cases ha
    cases hb
    rfl
  · rintro rfl
    exact ⟨_, _, rfl, rfl, rfl⟩

theorem forall₂_upperEscapeOf_iff {octets : List UInt8} {escapes : List Text} :
    List.Forall₂ UpperEscapeOf octets escapes ↔
      escapes = octets.map fun octet => escapeByte octet.toNat := by
  constructor
  · intro h
    induction h with
    | nil => rfl
    | cons hoctet _ ih => rw [upperEscapeOf_iff.1 hoctet, ih, List.map_cons]
  · rintro rfl
    exact List.forall₂_map_right_iff.2 (List.forall₂_same.2 fun _ _ => upperEscapeOf_iff.2 rfl)

theorem flatten_upperEscapes (c : Char) :
    ((String.utf8EncodeChar c).map fun octet => escapeByte octet.toNat).flatten =
      (Utf8.bytes c).flatMap escapeByte := by
  rw [← Utf8.map_utf8EncodeChar, List.flatMap_map, List.flatMap_def]

section Safe

variable {safe : Char → Bool}

theorem ne_percent_of_safe (hp : safe '%' = false) {c : Char} (hc : safe c = true) : c ≠ '%' := by
  rintro rfl
  rw [hp] at hc
  cases hc

theorem encodeKeeping_of_units (hp : safe '%' = false) {t : Text} (h : Units safe t) :
    encodeKeeping safe t = t := by
  induction h with
  | nil => rfl
  | char hc _ ih => rw [encodeKeeping_safe hc (ne_percent_of_safe hp hc), ih]
  | escape ha hb _ ih => rw [encodeKeeping_escape safe ha hb, ih]

end Safe

def isKept (c : Char) : Bool := isUnreserved c || isReserved c

theorem rewriting_encodeKeeping (s : Text) : Rewriting s (encodeKeeping isKept s) := by
  induction s using Text.escapeRec with
  | nil => exact .nil
  | escape a b rest ha hb ih =>
    rw [encodeKeeping_escape isKept ha hb]
    exact .escape ha hb ih
  | char c rest h ih =>
    rw [encodeKeeping_cons isKept h, encodeChar]
    split
    · next hc => exact .kept (Bool.or_eq_true_iff.1 hc).symm ih
    · next hc =>
      obtain ⟨hu, hr⟩ := Bool.or_eq_false_iff.1 (Bool.eq_false_iff.2 hc)
      rw [← flatten_upperEscapes]
      exact .escaped hr hu (escape?_cons_eq_none_iff.1 h) (forall₂_upperEscapeOf_iff.2 rfl) ih

theorem eq_encodeKeeping_of_rewriting {s out : Text} (h : Rewriting s out) :
    out = encodeKeeping isKept s := by
  induction h with
  | nil => rfl
  | escape ha hb _ ih => rw [encodeKeeping_escape isKept ha hb, ih]
  | kept hc _ ih =>
    have hkept : isKept _ = true := Bool.or_eq_true_iff.2 hc.symm
    rw [encodeKeeping_safe hkept (ne_percent_of_safe (by decide) hkept), ih]
  | @escaped c escapes hr hu s t hs hc _ ih =>
    have hkept : ¬ isKept c = true := by simp [isKept, hr, hu]
    rw [encodeKeeping_cons isKept (escape?_cons_eq_none_iff.2 hs), encodeChar, if_neg hkept,
      forall₂_upperEscapeOf_iff.1 hc, flatten_upperEscapes, ih]

/-- Looks at the next percent sign of `t`. What is in front of an escape is encoded in one piece, with
    the part `pending` of it that has been passed already, and the escape is copied. -/
def encodeChunks (safe : Char → Bool) (pending t : Text) : Text :=
  match _h : Text.partition? '%' t with
  | none => encode safe (pending ++ t)
  | some (before, rest) =>
    match _ht : escape? ('%' :: rest) with
    | some (taken, left) => encode safe (pending ++ before) ++ taken ++ encodeChunks safe [] left
    | none => encodeChunks safe (pending ++ before ++ ['%']) rest
termination_by t.length
decreasing_by
  · have := partition?_length_lt ‹_›
    have := escape?_length ‹_›
    simp only [List.length_cons] at this
    omega
  · exact partition?_length_lt ‹_›

def encodeByChunks (safe : Char → Bool) (t : Text) : Text :=
  if '%' ∈ t then encodeChunks safe [] t else encode safe t

variable {safe : Char → Bool}

theorem encode_append (t u : Text) : encode safe (t ++ u) = encode safe t ++ encode safe u :=
  List.flatMap_append

theorem encodeKeeping_of_not_mem {t : Text} (h : '%' ∉ t) : encodeKeeping safe t = encode safe t := by
  induction t with
  | nil => rfl
  | cons c t ih =>
    obtain ⟨hc, ht⟩ := not_or.1 (mt List.mem_cons.2 h)
    rw [encodeKeeping_cons safe (escape?_of_ne (Ne.symm hc) t), ih ht]
    rfl

theorem encodeKeeping_append_percent {before : Text} (h : '%' ∉ before) (rest : Text) :
    encodeKeeping safe (before ++ '%' :: rest) =
      encode safe before ++ encodeKeeping safe ('%' :: rest) := by
  rw [encodeKeeping_append fun _ _ _ _ => not_severed_of_not_digit (by decide),
    encodeKeeping_of_not_mem h]

theorem encodeChunks_eq (pending t : Text) :
    encodeChunks safe pending t = encode safe pending ++ encodeKeeping safe t := by
  fun_induction encodeChunks safe pending t with
  | case1 pending t h =>
    have hnot : '%' ∉ t := fun hmem => by
      obtain ⟨before, rest, rfl, hbefore⟩ := List.eq_append_cons_of_mem hmem
      rw [partition?_append hbefore] at h
      cases h
    rw [encode_append, encodeKeeping_of_not_mem hnot]
  | case2 pending t before rest h taken left hescape ih =>
    obtain ⟨rfl, hbefore⟩ := partition?_eq_some h
    obtain ⟨a, b, ha, hb, rfl, hrest⟩ := escape?_eq_some hescape
    -- the chunk ends in front of the escape, and the next one starts behind it
    rw [ih, encodeKeeping_append_percent hbefore, hrest, encode_append]
    simp only [List.cons_append, List.nil_append]
    rw [encodeKeeping_escape safe ha hb]
    simp [encode]
  | case3 pending t before rest h hescape ih =>
    obtain ⟨rfl, hbefore⟩ := partition?_eq_some h
    -- the sign opens no escape and stays in the chunk, which ends later
    have hsign : encode safe ['%'] = encodeChar safe '%' := List.append_nil _
    rw [ih, encodeKeeping_append_percent hbefore, encodeKeeping_cons safe hescape, encode_append,
      encode_append, hsign]
    simp only [List.append_assoc]

theorem encodeByChunks_eq (t : Text) : encodeByChunks safe t = encodeKeeping safe t := by
  unfold encodeByChunks
  split
  · rw [encodeChunks_eq]
    rfl
  · next h => exact (encodeKeeping_of_not_mem h).symm

/-- Reserved encoding is rewriting by the rules, whether it is done character by character or chunk by
    chunk. What it leaves are reserved and unreserved characters and whole escapes, and in that there is
    nothing left to encode. -/
theorem rewriting_iff_encodeByChunks (s : Text) :
    let encoded := encodeKeeping (fun c => isUnreserved c || isReserved c) s
    (∀ out, Rewriting s out ↔ out = encoded) ∧
      encodeByChunks (fun c => isUnreserved c || isReserved c) s = encoded ∧
      Units (fun c => isUnreserved c || isReserved c) encoded ∧
      encodeKeeping (fun c => isUnreserved c || isReserved c) encoded = encoded := by
  intro encoded
  have hunits : Units isKept encoded := encodeKeeping_units s
  refine ⟨fun out => ⟨eq_encodeKeeping_of_rewriting, ?_⟩, encodeByChunks_eq s, hunits,
    encodeKeeping_of_units (by decide) hunits⟩
  rintro rfl
  exact rewriting_encodeKeeping s

example : encodeKeeping isKept "%zz%%4a é%2%".toList = "%25zz%25%4a%20%C3%A9%252%25".toList := by
  decide

end Percent

end UriTemplate
