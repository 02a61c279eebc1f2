import UriTemplate.Proofs.Escaping
import UriTemplate.Proofs.Items

set_option autoImplicit false

namespace UriTemplate

open Character Text

def Item.decoded (i : Item) : Item := ⟨Percent.decode i.key, i.value?.map Percent.decode⟩

namespace Percent

section separator

variable {c : Char} (hp : c ≠ '%') (hx : isHexDigit c = false)

include hp hx

/-- Whatever is pending ends in front of the character, and nothing is pending behind it. -/
theorem decodeFrom_append_cons (s : Utf8.State) (a b : Text) :
    decodeFrom s (a ++ c :: b) = decodeFrom s a ++ c :: decode b := by
  induction a using Text.escapeRec generalizing s with
  | nil => exact decodeFrom_cons s (escape?_of_ne hp b)
  | escape d e rest hd he ih =>
    obtain ⟨byte, hbyte⟩ := exists_byte?_eq_some hd he
    simp only [List.cons_append]
    rw [decodeFrom_escape s hbyte, decodeFrom_escape s hbyte, ih, List.append_assoc]
  | char d rest h ih =>
    -- an escape that began here would have the character for a digit
    have hnone : escape? (d :: (rest ++ c :: b)) = none :=
      escape?_append_of_not_severed h fun _ _ _ => not_severed_of_not_digit hx
    rw [List.cons_append, decodeFrom_cons s hnone, decodeFrom_cons s h, ih, List.append_assoc,
      List.cons_append]

theorem decode_append_cons (a b : Text) : decode (a ++ c :: b) = decode a ++ c :: decode b :=
  decodeFrom_append_cons hp hx .idle a b

theorem decode_intercalate (pieces : List Text) :
    decode ([c].intercalate pieces) = [c].intercalate (pieces.map decode) := by
  induction pieces with
  | nil => rfl
  | cons piece rest ih =>
    cases rest with
    | nil => simp
    | cons next rest =>
      rw [List.map_cons] at ih
      simp only [List.map_cons, List.intercalate_cons_cons, List.append_assoc, List.cons_append,
        List.nil_append]
      rw [decode_append_cons hp hx, ih]

theorem intercalate_map_decode_splitOn (raw : Text) :
    [c].intercalate ((raw.splitOn c).map decode) = decode raw := by
  rw [← decode_intercalate hp hx, List.intercalate_splitOn]

end separator

theorem text_decoded_ofText (t : Text) : (Item.ofText t).decoded.text = decode t := by
  unfold Item.ofText
  split
  · next key value h =>
    obtain ⟨rfl, -⟩ := partition?_eq_some h
    exact (decode_append_cons (by decide) (by decide) key value).symm
  · exact List.append_nil (decode t)

theorem texts_ofTexts (texts : List Text) : (Value.ofTexts texts).texts = texts := by
  unfold Value.ofTexts
  split <;> rfl

/-- Decoding a text is decoding what is on both sides of a character that is no part of an escape. So
    nothing is lost or changed where a value is cut at its commas, equals signs or joiners, and then
    decoded piece by piece. -/
theorem decode_append_cons_and_splitOn {c : Char} (hp : c ≠ '%') (hx : isHexDigit c = false)
    (a b : Text) :
    decode (a ++ c :: b) = decode a ++ c :: decode b ∧
      ∀ (op : Operator) (raw : Text), [','].intercalate (Value.ofRaw raw).texts = decode raw ∧
        ∀ sep ∈ [',', '=', op.joiner],
          [sep].intercalate ((raw.splitOn sep).map decode) = decode raw ∧
          [sep].intercalate ((raw.splitOn sep).map fun piece => (Item.ofText piece).decoded.text) =
            decode raw := by
  refine ⟨decode_append_cons hp hx a b, fun op raw => ⟨?_, fun sep hsep => ?_⟩⟩
  · rw [Value.ofRaw, texts_ofTexts]
    exact intercalate_map_decode_splitOn (by decide) (by decide) raw
  · have houtside : sep ≠ '%' ∧ isHexDigit sep = false := by
      simp only [List.mem_cons, List.not_mem_nil, or_false] at hsep
      rcases hsep with rfl | rfl | rfl
      · decide
      · decide
      · exact op.joiner_outside_escapes
    have hpieces := intercalate_map_decode_splitOn houtside.1 houtside.2 raw
    refine ⟨hpieces, ?_⟩
    simpa only [text_decoded_ofText] using hpieces

theorem decode_append_cons_and_splitOn_truncated :
    let front := "k=%E2%82%".toList
    let behind := "%AC=%4".toList
    ';' ≠ '%' ∧ isHexDigit ';' = false ∧
      decode (front ++ ';' :: behind) = decode front ++ ';' :: decode behind ∧
      decode front = "k=\uFFFD%".toList ∧ decode behind = "\uFFFD=%4".toList ∧
      [';'].intercalate (((front ++ ';' :: behind).splitOn ';').map fun piece =>
        (Item.ofText piece).decoded.text) = decode (front ++ ';' :: behind) := by
  intro front behind
  have hp : ';' ≠ '%' := by decide
  have hx : isHexDigit ';' = false := by decide
  obtain ⟨hcut, hpieces⟩ := decode_append_cons_and_splitOn hp hx front behind
  have hitems := ((hpieces .pathParams (front ++ ';' :: behind)).2 ';' (by decide)).2
  exact ⟨hp, hx, hcut, by decide, by decide, hitems⟩

end Percent

end UriTemplate
