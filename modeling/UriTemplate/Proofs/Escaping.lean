import Mathlib.Data.List.Forall2
import UriTemplate.Proofs.Encoding

set_option autoImplicit false

namespace UriTemplate

open Character Text Utf8

theorem Utf8.map_utf8EncodeChar (c : Char) :
    (String.utf8EncodeChar c).map UInt8.toNat = bytes c := by
  have hc : c.val.toNat < 0x110000 := by
    have hv := c.valid
    simp only [UInt32.isValidChar, Nat.isValidChar] at hv
    omega
  unfold String.utf8EncodeChar bytes
  simp only [show c.toNat = c.val.toNat from rfl]
  generalize c.val.toNat = n at hc
  simp only [show n < 0x80 ↔ n ≤ 127 by omega, show n < 0x800 ↔ n ≤ 2047 by omega,
    show n < 0x10000 ↔ n ≤ 65535 by omega]
  rcases (by omega : n ≤ 127 ∨ (¬ n ≤ 127 ∧ n ≤ 2047) ∨ (¬ n ≤ 127 ∧ ¬ n ≤ 2047 ∧ n ≤ 65535) ∨
    (¬ n ≤ 127 ∧ ¬ n ≤ 2047 ∧ ¬ n ≤ 65535)) with h | h | h | h
  all_goals
    simp only [h, if_true, if_false, List.map_cons, List.map_nil, UInt8.toNat_ofNat',
      List.cons.injEq, and_true]
    omega

/-- The cut behind `n` characters falls into an escape, after its sign and before its end. -/
structure Text.Severed (s : Text) (n : Nat) (before : Text) (a b : Char) (rest : Text) : Prop where
  text : s = before ++ '%' :: a :: b :: rest
  high : isHexDigit a = true
  low : isHexDigit b = true
  after_sign : before.length < n
  before_end : n < before.length + 3

namespace Text

variable {s t u before rest : Text} {n : Nat} {a b : Char}

theorem Severed.isHexDigit_of_mem (h : s.Severed n before a b rest) {c : Char} (hc : c ∈ s[n]?) :
    isHexDigit c = true := by
  have hafter := h.after_sign
  have hend := h.before_end
  rw [h.text, List.getElem?_append_right (by omega)] at hc
  obtain hn | hn : n - before.length = 1 ∨ n - before.length = 2 := by omega
  · rw [hn] at hc
    cases hc
    exact h.high
  · rw [hn] at hc
    cases hc
    exact h.low

theorem Severed.take_eq (h : s.Severed n before a b rest) :
    s.take n = before ++ '%' :: [a].take (n - before.length - 1) := by
  have hafter := h.after_sign
  have hend := h.before_end
  rw [h.text, List.take_append, List.take_of_length_le (by omega)]
  obtain hn | hn : n - before.length = 1 ∨ n - before.length = 2 := by omega
  · rw [hn]
    rfl
  · rw [hn]
    rfl

theorem Severed.append_left (front : Text) (h : Severed (t ++ u) t.length before a b rest) :
    Severed (front ++ t ++ u) (front ++ t).length (front ++ before) a b rest where
  text := by rw [List.append_assoc, h.text, List.append_assoc]
  high := h.high
  low := h.low
  after_sign := by
    rw [List.length_append, List.length_append]
    exact Nat.add_lt_add_left h.after_sign _
  before_end := by
    rw [List.length_append, List.length_append, Nat.add_assoc]
    exact Nat.add_lt_add_left h.before_end _

theorem not_severed_of_not_digit {c : Char} (hx : isHexDigit c = false) :
    ¬ Severed (t ++ c :: u) t.length before a b rest := by
  intro h
  have hdigit : isHexDigit c = true := h.isHexDigit_of_mem (by simp)
  rw [hx] at hdigit
  cases hdigit

theorem escape?_append_of_not_severed {c : Char} (h : escape? (c :: t) = none)
    (hcut : ∀ a b rest, ¬ Severed (c :: t ++ u) (c :: t).length [] a b rest) :
    escape? (c :: (t ++ u)) = none := by
  cases hescape : escape? (c :: (t ++ u)) with
  | none => rfl
  | some r =>
    obtain ⟨a, b, ha, hb, hr, htext⟩ := escape?_eq_some hescape
    rw [hr] at htext
    have hlong : 3 ≤ (c :: t).length := by
      by_contra hshort
      exact hcut a b r.2 ⟨htext, ha, hb, Nat.succ_pos _, Nat.lt_of_not_le hshort⟩
    obtain ⟨rfl, htail⟩ := List.cons.inj htext
    match t, hlong with
    | d :: e :: more, _ =>
      obtain ⟨hd, htail⟩ := List.cons.inj htail
      obtain ⟨he, -⟩ := List.cons.inj htail
      simp [escape?, hd, he, ha, hb] at h

end Text

namespace Percent

variable {safe : Char → Bool}

def DigitOf (n : Nat) (d : Char) : Prop :=
  "0123456789ABCDEF".toList[n]? = some d ∨ "0123456789abcdef".toList[n]? = some d

def EscapeOf (octet : UInt8) (t : Text) : Prop :=
  ∃ a b, DigitOf (octet.toNat / 16) a ∧ DigitOf (octet.toNat % 16) b ∧ t = ['%', a, b]

/-- A text and a way of escaping it: each character is written as itself, or as the escapes of all
    its octets in UTF-8. A percent sign is always escaped. -/
inductive Escaping : Text → Text → Prop
  | nil : Escaping [] []
  | plain {c : Char} (hc : c ≠ '%') {s t : Text} (h : Escaping s t) : Escaping (c :: s) (c :: t)
  | escaped {c : Char} {escapes : List Text}
      (hc : List.Forall₂ EscapeOf (String.utf8EncodeChar c) escapes) {s t : Text}
      (h : Escaping s t) : Escaping (c :: s) (escapes.flatten ++ t)

theorem hexValue?_of_digitOf {n : Nat} (hn : n < 16) {d : Char} (h : DigitOf n d) :
    hexValue? d = some n := by
  have hupper : ∀ n < 16, "0123456789ABCDEF".toList[n]?.bind hexValue? = some n := by decide
  have hlower : ∀ n < 16, "0123456789abcdef".toList[n]?.bind hexValue? = some n := by decide
  rcases h with h | h
  · have hvalue := hupper n hn
    rwa [h] at hvalue
  · have hvalue := hlower n hn
    rwa [h] at hvalue

theorem getElem?_upperDigits : ∀ n < 16, "0123456789ABCDEF".toList[n]? = some (hexDigit n) := by
  decide

theorem digitOf_hexDigit {n : Nat} (hn : n < 16) : DigitOf n (hexDigit n) :=
  .inl (getElem?_upperDigits n hn)

theorem escapeOf_escapeByte (octet : UInt8) : EscapeOf octet (escapeByte octet.toNat) := by
  have hlt := octet.toNat_lt
  exact ⟨_, _, digitOf_hexDigit (by omega), digitOf_hexDigit (by omega), rfl⟩

theorem byte?_of_digitOf {octet : UInt8} {a b : Char} (ha : DigitOf (octet.toNat / 16) a)
    (hb : DigitOf (octet.toNat % 16) b) : byte? a b = some octet.toNat := by
  have hlt := octet.toNat_lt
  rw [byte?, hexValue?_of_digitOf (by omega) ha, hexValue?_of_digitOf (by omega) hb]
  exact congrArg some (by omega)

theorem decodeFrom_escapes (s : State) {octets : List UInt8} {escapes : List Text}
    (h : List.Forall₂ EscapeOf octets escapes) (t : Text) :
    decodeFrom s (escapes.flatten ++ t) = (feedAll s (octets.map UInt8.toNat)).1 ++
      decodeFrom (feedAll s (octets.map UInt8.toNat)).2 t := by
  induction h generalizing s with
  | nil => rfl
  | @cons octet escape octets escapes hescape _ ih =>
    obtain ⟨a, b, ha, hb, rfl⟩ := hescape
    change decodeFrom s ('%' :: a :: b :: (escapes.flatten ++ t)) = _
    rw [decodeFrom_escape s (byte?_of_digitOf ha hb), ih, ← List.append_assoc]
    rfl

theorem decode_of_escaping {s t : Text} (h : Escaping s t) : decode t = s := by
  induction h with
  | nil => rfl
  | plain hc _ ih => rw [decode_cons hc, ih]
  | @escaped c escapes hc s t _ ih =>
    rw [decode, decodeFrom_escapes .idle hc, map_utf8EncodeChar, feedAll_bytes]
    exact congrArg (c :: ·) ih

theorem escaping_encode (hp : safe '%' = false) (t : Text) : Escaping t (encode safe t) := by
  induction t with
  | nil => exact .nil
  | cons c t ih =>
    rw [encode_cons]
    unfold encodeChar
    split
    · next hc =>
      refine .plain ?_ ih
      rintro rfl
      rw [hp] at hc
      cases hc
    · have hescapes : List.Forall₂ EscapeOf (String.utf8EncodeChar c)
          ((String.utf8EncodeChar c).map fun octet => escapeByte octet.toNat) :=
        List.forall₂_map_right_iff.2 (List.forall₂_same.2 fun octet _ => escapeOf_escapeByte octet)
      have hflat : (bytes c).flatMap escapeByte =
          ((String.utf8EncodeChar c).map fun octet => escapeByte octet.toNat).flatten := by
        rw [← map_utf8EncodeChar, List.flatMap_map, List.flatMap_def]
      rw [hflat]
      exact .escaped hescapes ih

/-- Decoding gives a text back from every way of escaping it. Encoding is one of these ways. -/
theorem decode_escaping_and_encode (s : Text) :
    (∀ t, Escaping s t → decode t = s) ∧ Escaping s (encode isUnreserved s) ∧
      decode (encode isUnreserved s) = s :=
  ⟨fun _ h => decode_of_escaping h, escaping_encode isUnreserved_percent s,
    decode_of_escaping (escaping_encode isUnreserved_percent s)⟩

theorem decode_escaping_of_mixed_digits :
    Escaping "é%a€".toList "%c3%A9%25%61€".toList ∧
      decode "%c3%A9%25%61€".toList = "é%a€".toList := by
  have hsmall : List.Forall₂ EscapeOf (String.utf8EncodeChar 'é') ["%c3".toList, "%A9".toList] :=
    .cons ⟨_, _, .inr rfl, .inl rfl, rfl⟩ (.cons ⟨_, _, .inl rfl, .inl rfl, rfl⟩ .nil)
  have hpercent : List.Forall₂ EscapeOf (String.utf8EncodeChar '%') ["%25".toList] :=
    .cons ⟨_, _, .inl rfl, .inl rfl, rfl⟩ .nil
  have hletter : List.Forall₂ EscapeOf (String.utf8EncodeChar 'a') ["%61".toList] :=
    .cons ⟨_, _, .inl rfl, .inl rfl, rfl⟩ .nil
  have h : Escaping "é%a€".toList "%c3%A9%25%61€".toList :=
    .escaped hsmall (.escaped hpercent (.escaped hletter (.plain (by decide) .nil)))
  exact ⟨h, (decode_escaping_and_encode _).1 _ h⟩

theorem encodeKeeping_escape (safe : Char → Bool) {a b : Char} (ha : isHexDigit a = true)
    (hb : isHexDigit b = true) (t : Text) :
    encodeKeeping safe ('%' :: a :: b :: t) = '%' :: a :: b :: encodeKeeping safe t := by
  rw [encodeKeeping, ha, hb]
  rfl

theorem encodeKeeping_cons (safe : Char → Bool) {c : Char} {t : Text} (h : escape? (c :: t) = none) :
    encodeKeeping safe (c :: t) = encodeChar safe c ++ encodeKeeping safe t := by
  unfold escape? at h
  split at h
  · next a b rest heq =>
    obtain ⟨rfl, rfl⟩ := List.cons.inj heq
    split at h
    · cases h
    · next hx => rw [encodeKeeping, if_neg hx]
  · next hnot =>
    rw [encodeKeeping]
    rintro a b rest rfl rfl
    exact hnot a b rest rfl

theorem encodeKeeping_safe {c : Char} (hc : safe c = true) (hp : c ≠ '%') (t : Text) :
    encodeKeeping safe (c :: t) = c :: encodeKeeping safe t := by
  rw [encodeKeeping_cons safe (escape?_of_ne hp t), encodeChar, if_pos hc]
  rfl

theorem encodeKeeping_append {t u : Text}
    (hcut : ∀ before a b rest, ¬ Text.Severed (t ++ u) t.length before a b rest) :
    encodeKeeping safe (t ++ u) = encodeKeeping safe t ++ encodeKeeping safe u := by
  induction t using Text.escapeRec with
  | nil => rfl
  | escape a b rest ha hb ih =>
    have hrest := ih fun before c d more h => hcut _ c d more (h.append_left ['%', a, b])
    simp only [List.cons_append, encodeKeeping_escape safe ha hb, hrest]
  | char c rest h ih =>
    have hrest := ih fun before a b more h => hcut _ a b more (h.append_left [c])
    have hnone : escape? (c :: (rest ++ u)) = none := escape?_append_of_not_severed h (hcut [])
    rw [List.cons_append, encodeKeeping_cons safe hnone, encodeKeeping_cons safe h, hrest,
      List.append_assoc]

theorem decodeFrom_encodeKeeping (hp : safe '%' = false) {s : State} (hs : s.Bounded) (t : Text) :
    decodeFrom s (encodeKeeping safe t) = decodeFrom s t := by
  induction t using Text.escapeRec generalizing s with
  | nil => rfl
  | escape a b rest ha hb ih =>
    obtain ⟨byte, hbyte⟩ := exists_byte?_eq_some ha hb
    rw [encodeKeeping_escape safe ha hb, decodeFrom_escape s hbyte, decodeFrom_escape s hbyte,
      ih (feed_bounded s byte)]
  | char c rest h ih =>
    rw [encodeKeeping_cons safe h, decodeFrom_encodeChar hp hs, decodeFrom_cons s h,
      ih (s := .idle) trivial]

/-- Reserved encoding keeps the decoded meaning, whatever escapes and percent signs are in the text. -/
theorem decode_encodeKeeping_reserved (t : Text) :
    decode (encodeKeeping (fun c => isUnreserved c || isReserved c) t) = decode t :=
  decodeFrom_encodeKeeping (by decide) (s := .idle) trivial t

example : decode (encodeKeeping (fun c => isUnreserved c || isReserved c) "%e2%82é%%4%31".toList) =
    "\uFFFDé%%41".toList := by decide

end Percent

end UriTemplate
