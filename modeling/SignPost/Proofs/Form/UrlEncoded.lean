import SignPost.Form.UrlEncoded
import SignPost.Proofs.Text.Utf8

/-!
# Forms survive the wire

`form_survives_wire`: a form, written as a text and read again from the bytes of that text, is the
same form, whatever its names and values are; order, repeated names and empty texts included. Any
bytes may be read as a form, and writing what was read changes nothing for its reader.

Three facts carry it. A part comes back byte by byte (`decodeBytes_encodeByte`), because `+` and `%`
never stand for themselves. Neither `&` nor `=` is ever written inside a part (`encodePart_plain`),
so a body falls apart where its fields were joined, and a field at its own `=`; an empty field, as
reading drops it, is never written, since each has its `=`. And all that is written is ASCII
(`toBody_ascii`), so the bytes of the text are the body (`ofString_toUrlEncoded`).
-/

namespace SignPost.Form

/-! ## One byte -/

theorem upperDigit_isPlain {n : Nat} (h : n < 16) :
    isPlain (UInt8.ofNat (Hex.upperDigit n).toNat) = true := by
  revert n
  decide

theorem digitValue_upperDigit {n : Nat} (h : n < 16) :
    Hex.digitValue (UInt8.ofNat (Hex.upperDigit n).toNat).toNat = some n := by
  revert n
  decide

theorem escaped_upperDigit (b : UInt8) :
    escaped (UInt8.ofNat (Hex.upperDigit (b.toNat / 16)).toNat)
      (UInt8.ofNat (Hex.upperDigit (b.toNat % 16)).toNat) = some b := by
  have hb : b.toNat < 256 := b.toNat_lt
  have hback : b.toNat / 16 * 16 + b.toNat % 16 = b.toNat := by omega
  rw [escaped, digitValue_upperDigit (by omega), digitValue_upperDigit (by omega)]
  simp only [hback, UInt8.ofNat_toNat]

theorem decodeBytes_cons {b : UInt8} (h : b ≠ 37) (rest : Bytes) :
    decodeBytes (b :: rest) = (if b = 43 then 32 else b) :: decodeBytes rest := by
  match rest with
  | [] => rfl
  | [_] => rfl
  | _ :: _ :: _ => rw [decodeBytes, if_neg h]

/-- A written byte is read back, whatever follows it. -/
theorem decodeBytes_encodeByte (b : UInt8) (rest : Bytes) :
    decodeBytes (encodeByte b ++ rest) = b :: decodeBytes rest := by
  unfold encodeByte
  split_ifs with hplain hspace
  · have hpercent : b ≠ 37 := by rintro rfl; revert hplain; decide
    have hplus : b ≠ 43 := by rintro rfl; revert hplain; decide
    rw [List.singleton_append, decodeBytes_cons hpercent, if_neg hplus]
  · rw [List.singleton_append, decodeBytes_cons (by decide), if_pos rfl, hspace]
  · simp only [List.cons_append, List.nil_append]
    rw [decodeBytes, if_pos rfl, escaped_upperDigit]

/-! ## One part -/

theorem decodeBytes_flatMap (bytes : Bytes) : decodeBytes (bytes.flatMap encodeByte) = bytes := by
  induction bytes with
  | nil => rfl
  | cons b bytes ih => rw [List.flatMap_cons, decodeBytes_encodeByte, ih]

theorem decodePart_encodePart (text : String) : decodePart (encodePart text) = text := by
  rw [decodePart, encodePart, decodeBytes_flatMap, Utf8.ofString, Utf8.decodeLossy_encode,
    String.ofList_toList]

/-- What is written for a byte: plain bytes, `+` and `%`. -/
theorem encodeByte_plain {b x : UInt8} (h : x ∈ encodeByte b) :
    isPlain x = true ∨ x = 43 ∨ x = 37 := by
  have hb : b.toNat < 256 := b.toNat_lt
  unfold encodeByte at h
  split_ifs at h with hplain
  · rw [List.mem_singleton] at h
    subst h
    exact Or.inl hplain
  · rw [List.mem_singleton] at h
    exact Or.inr (Or.inl h)
  · simp only [List.mem_cons, List.not_mem_nil, or_false] at h
    rcases h with rfl | rfl | rfl
    · exact Or.inr (Or.inr rfl)
    · exact Or.inl (upperDigit_isPlain (by omega))
    · exact Or.inl (upperDigit_isPlain (by omega))

theorem encodePart_plain {text : String} {x : UInt8} (h : x ∈ encodePart text) :
    x ≠ 38 ∧ x ≠ 61 := by
  obtain ⟨b, _, hx⟩ := List.mem_flatMap.1 h
  constructor <;> rintro rfl <;>
    exact absurd (encodeByte_plain hx) (by decide)

theorem isPlain_ascii {b : UInt8} (h : isPlain b = true) : b.toNat < 128 := by
  simp only [isPlain, Bool.or_eq_true, Bool.and_eq_true, decide_eq_true_eq] at h
  omega

theorem encodePart_ascii {text : String} {x : UInt8} (h : x ∈ encodePart text) :
    x.toNat < 128 := by
  obtain ⟨b, _, hx⟩ := List.mem_flatMap.1 h
  rcases encodeByte_plain hx with hplain | rfl | rfl
  · exact isPlain_ascii hplain
  · decide
  · decide

/-! ## Fields and forms -/

theorem takeWhile_encodePart (text : String) (rest : Bytes) :
    (encodePart text ++ 61 :: rest).takeWhile (· ≠ 61) = encodePart text := by
  have hall : ∀ x ∈ encodePart text, decide (x ≠ 61) = true :=
    fun x hx => decide_eq_true (encodePart_plain hx).2
  rw [List.takeWhile_append_of_pos hall, List.takeWhile_cons_of_neg (by decide), List.append_nil]

theorem dropWhile_encodePart (text : String) (rest : Bytes) :
    (encodePart text ++ 61 :: rest).dropWhile (· ≠ 61) = 61 :: rest := by
  have hall : ∀ x ∈ encodePart text, decide (x ≠ 61) = true :=
    fun x hx => decide_eq_true (encodePart_plain hx).2
  rw [List.dropWhile_append_of_pos hall, List.dropWhile_cons_of_neg (by decide)]

theorem decodeField_encodeField (field : String × String) :
    decodeField (encodeField field) = field := by
  rw [decodeField, encodeField, takeWhile_encodePart, dropWhile_encodePart, List.drop_one,
    List.tail_cons, decodePart_encodePart, decodePart_encodePart]

theorem encodeField_ne_nil (field : String × String) : encodeField field ≠ [] := by
  simp [encodeField]

theorem encodeField_plain {field : String × String} {x : UInt8} (h : x ∈ encodeField field) :
    x ≠ 38 := by
  rw [encodeField, List.mem_append, List.mem_cons] at h
  rcases h with h | rfl | h
  · exact (encodePart_plain h).1
  · decide
  · exact (encodePart_plain h).1

theorem pieces_toBody {form : Form} (h : form.fields ≠ []) :
    pieces (· = 38) form.toBody = form.fields.map encodeField := by
  rw [toBody]
  refine pieces_intercalate (by simp) (by simpa using h) fun piece hpiece x hx => ?_
  obtain ⟨f, _, rfl⟩ := List.mem_map.1 hpiece
  exact decide_eq_false (encodeField_plain hx)

/-- A form that is written as a body is read back. -/
theorem ofBody_toBody (form : Form) : ofBody form.toBody = form := by
  by_cases h : form.fields = []
  · obtain ⟨fields⟩ := form
    subst h
    rfl
  · have hfilter : (form.fields.map encodeField).filter (fun f => !f.isEmpty) =
        form.fields.map encodeField := by
      refine List.filter_eq_self.2 fun piece hpiece => ?_
      obtain ⟨f, _, rfl⟩ := List.mem_map.1 hpiece
      simp [encodeField_ne_nil]
    have hdecode : decodeField ∘ encodeField = id := funext decodeField_encodeField
    rw [ofBody, pieces_toBody h, hfilter, List.map_map, hdecode, List.map_id]

/-! ## The text on the wire -/

theorem encodeField_ascii {field : String × String} {x : UInt8} (h : x ∈ encodeField field) :
    x.toNat < 128 := by
  rw [encodeField, List.mem_append, List.mem_cons] at h
  rcases h with h | rfl | h
  · exact encodePart_ascii h
  · decide
  · exact encodePart_ascii h

theorem intercalate_ascii {fields : List (String × String)} {x : UInt8}
    (h : x ∈ [38].intercalate (fields.map encodeField)) : x.toNat < 128 := by
  induction fields with
  | nil => exact absurd h List.not_mem_nil
  | cons field fields ih =>
    cases fields with
    | nil =>
      rw [List.map_singleton, List.intercalate_singleton] at h
      exact encodeField_ascii h
    | cons next fields =>
      rw [List.map_cons, List.map_cons, List.intercalate_cons_cons, List.mem_append,
        List.mem_append, List.mem_singleton] at h
      rcases h with (h | rfl) | h
      · exact encodeField_ascii h
      · decide
      · exact ih h

theorem toBody_ascii {form : Form} {x : UInt8} (h : x ∈ form.toBody) : x.toNat < 128 :=
  intercalate_ascii h

theorem ofString_toUrlEncoded (form : Form) : Utf8.ofString form.toUrlEncoded = form.toBody := by
  rw [Utf8.ofString, toUrlEncoded, String.toList_ofList,
    Utf8.encode_map_ofNat fun _ => toBody_ascii]

/-- A form that is written and sent is the form that is received: all its fields, in their order,
repeated ones too, and so the first value of every name. A body that was not written so is read as
some form, and that form is received when it is sent on. -/
theorem form_survives_wire :
    (∀ form : Form, ofBody (Utf8.ofString form.toUrlEncoded) = form) ∧
      ∀ body : Bytes, ofBody (Utf8.ofString (ofBody body).toUrlEncoded) = ofBody body := by
  have hsent : ∀ form : Form, ofBody (Utf8.ofString form.toUrlEncoded) = form := by
    intro form
    rw [ofString_toUrlEncoded, ofBody_toBody]
  exact ⟨hsent, fun body => hsent (ofBody body)⟩

/-- Empty names and values, a name twice, the separators themselves and a control character. -/
example :
    (Form.mk [("", ""), ("é", "a&b=c+d%20"), ("é", "\x00"), ("", "x y")]).toUrlEncoded =
      "=&%C3%A9=a%26b%3Dc%2Bd%2520&%C3%A9=%00&=x+y" := by
  decide +kernel

end SignPost.Form
