import SignPost.Service.Signature
import SignPost.Proofs.Certificate.Reading
import SignPost.Proofs.Service.SignedList
import SignPost.Proofs.Text.Decimal

/-!
# Service signatures in a form

`ofForm_appendTo`: a service signature is read back from the form that its fields were added to,
if the form had none of them. `SameFields.ofForm_eq`: reading looks at nothing but the list, the
value, the size of the chain and as many certificates, so no other field of a form, and nothing that
stands behind the first value of a field, decides whether there is a signature, and which.
-/

namespace SignPost

/-! ## The names of its fields -/

namespace Field

/-- The names of the fields of service signatures, and no others of the protocol, begin with
`Service`. -/
def isService (name : String) : Bool :=
  "Service".toList.isPrefixOf name.toList

theorem certificate_toList (index : Nat) :
    (certificate index).toList = "ServiceCertificate.".toList ++ (toString index).toList :=
  String.toList_append

theorem isService_certificate (index : Nat) : isService (certificate index) = true := by
  rw [isService, certificate_toList, List.isPrefixOf_iff_prefix]
  exact List.prefix_append_of_prefix (by decide)

theorem isService_serviceSigned : isService serviceSigned = true := by decide
theorem isService_serviceSignature : isService serviceSignature = true := by decide
theorem isService_chainSize : isService chainSize = true := by decide
theorem not_isService_status : isService status = false := by decide

theorem not_isService_name (f : SignableField) : isService f.name = false := by
  cases f <;> decide

theorem certificate_injective {i j : Nat} (h : certificate i = certificate j) : i = j := by
  have hlist := congrArg String.toList h
  rw [certificate_toList, certificate_toList] at hlist
  exact Decimal.toString_injective (String.toList_injective (List.append_cancel_left hlist))

/-- The fields of certificates are told from the three others by the character behind
`ServiceCertificate`. -/
theorem certificate_ne {index : Nat} {name : String} (h : name.toList[18]? ≠ some '.') :
    certificate index ≠ name := by
  rintro rfl
  refine h ?_
  rw [certificate_toList, List.getElem?_append_left (by decide)]
  decide

end Field

namespace Service.Signature

variable {s : Signature} {form : Form}

/-! ## Where its fields stand -/

theorem lookup_chainFields (chain : List Certificate) (first k : Nat) :
    (chainFields first chain).lookup (Field.certificate (first + k)) =
      chain[k]?.map Certificate.toBase64 := by
  induction chain generalizing first k with
  | nil => rfl
  | cons c rest ih =>
    rw [chainFields]
    cases k with
    | zero => rw [Nat.add_zero, List.lookup_cons_self]; rfl
    | succ k =>
      have hne : Field.certificate (first + (k + 1)) ≠ Field.certificate first :=
        fun h => absurd (Field.certificate_injective h) (by omega)
      have hnext : first + (k + 1) = first + 1 + k := by omega
      rw [List.lookup_cons, beq_eq_false_iff_ne.2 hne, hnext]
      exact ih (first + 1) k

theorem lookup_serviceSigned : s.fields.lookup Field.serviceSigned = some s.signed.render :=
  List.lookup_cons_self

theorem lookup_serviceSignature :
    s.fields.lookup Field.serviceSignature = some (Base64.encode s.value) := by
  have hne : (Field.serviceSignature == Field.serviceSigned) = false := by decide
  rw [fields, List.lookup_cons, hne]
  exact List.lookup_cons_self

theorem lookup_chainSize :
    s.fields.lookup Field.chainSize = some (toString s.chain.length) := by
  rw [fields, List.lookup_cons, show (Field.chainSize == Field.serviceSigned) = false by decide]
  dsimp only
  rw [List.lookup_cons, show (Field.chainSize == Field.serviceSignature) = false by decide]
  exact List.lookup_cons_self

theorem lookup_certificate (k : Nat) :
    s.fields.lookup (Field.certificate (1 + k)) = s.chain[k]?.map Certificate.toBase64 := by
  have h1 : (Field.certificate (1 + k) == Field.serviceSigned) = false :=
    beq_eq_false_iff_ne.2 (Field.certificate_ne (by decide))
  have h2 : (Field.certificate (1 + k) == Field.serviceSignature) = false :=
    beq_eq_false_iff_ne.2 (Field.certificate_ne (by decide))
  have h3 : (Field.certificate (1 + k) == Field.chainSize) = false :=
    beq_eq_false_iff_ne.2 (Field.certificate_ne (by decide))
  rw [fields]
  simp only [List.lookup_cons, h1, h2, h3]
  exact lookup_chainFields s.chain 1 k

/-- The names of the fields of a signature with so many certificates. -/
def fieldNames (size : Nat) : List String :=
  Field.serviceSigned :: Field.serviceSignature :: Field.chainSize ::
    (List.range' 1 size).map Field.certificate

theorem map_fst_chainFields (chain : List Certificate) (first : Nat) :
    (chainFields first chain).map Prod.fst =
      (List.range' first chain.length).map Field.certificate := by
  induction chain generalizing first with
  | nil => rfl
  | cons c rest ih =>
    rw [chainFields, List.map_cons, ih, List.length_cons, List.range'_succ, List.map_cons]

theorem map_fst_fields : s.fields.map Prod.fst = fieldNames s.chain.length := by
  rw [fields, List.map_cons, List.map_cons, List.map_cons, map_fst_chainFields, fieldNames]

theorem isService_of_mem_fieldNames {size : Nat} {name : String} (h : name ∈ fieldNames size) :
    Field.isService name = true := by
  simp only [fieldNames, List.mem_cons, List.mem_map] at h
  rcases h with rfl | rfl | rfl | ⟨index, -, rfl⟩
  · exact Field.isService_serviceSigned
  · exact Field.isService_serviceSignature
  · exact Field.isService_chainSize
  · exact Field.isService_certificate index

/-- All its fields are fields of service signatures. -/
theorem isService_of_mem_fields {field : String × String} (h : field ∈ s.fields) :
    Field.isService field.1 = true := by
  have hname : field.1 ∈ s.fields.map Prod.fst := List.mem_map_of_mem h
  rw [map_fst_fields] at hname
  exact isService_of_mem_fieldNames hname

/-- Other fields keep their values when a signature is added. -/
theorem value?_appendTo_of_not_mem {name : String} (h : name ∉ fieldNames s.chain.length) :
    (s.appendTo form).value? name = form.value? name := by
  have hnone : s.fields.lookup name = none := by
    rw [← map_fst_fields] at h
    exact Form.lookup_of_not_mem h
  rw [appendTo, Form.value?_append]
  change (form.value? name).or (s.fields.lookup name) = _
  rw [hnone, Option.or_none]

theorem value?_appendTo_of_not_isService {name : String} (h : Field.isService name = false) :
    (s.appendTo form).value? name = form.value? name := by
  refine value?_appendTo_of_not_mem fun hmem => ?_
  rw [isService_of_mem_fieldNames hmem] at h
  cases h

/-- A name that the form does not have gets the value of the signature. -/
theorem value?_appendTo_of_eq_none {name : String} (h : form.value? name = none) :
    (s.appendTo form).value? name = s.fields.lookup name := by
  rw [appendTo, Form.value?_append, h, Option.none_or]
  rfl

def Unsigned (form : Form) : Prop :=
  ∀ name, Field.isService name = true → form.value? name = none

theorem unsigned_empty : Unsigned Form.empty :=
  fun _ _ => rfl

theorem Unsigned.push (hform : Unsigned form) {name : String}
    (hname : Field.isService name = false) (value : String) : Unsigned (form.push name value) := by
  intro wanted hwanted
  have hne : wanted ≠ name := by
    rintro rfl
    rw [hname] at hwanted
    cases hwanted
  rw [Form.value?_push, hform wanted hwanted, if_neg hne]
  rfl

theorem Unsigned.pushIf (hform : Unsigned form) {name : String}
    (hname : Field.isService name = false) (value : Option String) :
    Unsigned (form.pushIf name value) := by
  cases value with
  | none => exact hform
  | some value => exact hform.push hname value

theorem value?_appendTo (hform : Unsigned form) {name : String}
    (hname : Field.isService name = true) :
    (s.appendTo form).value? name = s.fields.lookup name :=
  value?_appendTo_of_eq_none (hform name hname)

/-! ## What is read -/

theorem readCertificate_eq_ok {index : Nat} {c : Certificate} :
    readCertificate form index = .ok c ↔
      ∃ text, form.value? (Field.certificate index) = some text ∧
        Certificate.ofBase64 text = .ok c := by
  unfold readCertificate
  cases form.value? (Field.certificate index) with
  | none => simp
  | some text =>
    cases hread : Certificate.ofBase64 text with
    | error e => simp [hread]
    | ok c => simp [hread]

theorem readValue_eq_ok {value : Bytes} :
    readValue form = .ok value ↔
      ∃ text, form.value? Field.serviceSignature = some text ∧
        Base64.decodeForm text = .ok value := by
  unfold readValue
  cases form.value? Field.serviceSignature with
  | none => simp
  | some text =>
    cases hread : Base64.decodeForm text with
    | error e => simp [hread]
    | ok value => simp [hread]

theorem readChainSize_eq_ok {size : Nat} :
    readChainSize form = .ok size ↔
      ∃ text, form.value? Field.chainSize = some text ∧ Decimal.parseCount text = some size := by
  unfold readChainSize
  cases form.value? Field.chainSize with
  | none => simp
  | some text =>
    cases hread : Decimal.parseCount text with
    | none => simp [hread]
    | some size => simp [hread]

theorem readChain_eq_ok {first count : Nat} {chain : List Certificate} :
    readChain form first count = .ok chain ↔
      chain.length = count ∧
        ∀ k c, chain[k]? = some c → readCertificate form (first + k) = .ok c := by
  induction count generalizing first chain with
  | zero =>
    rw [readChain]
    constructor
    · rintro h
      obtain rfl := Except.ok.inj h
      exact ⟨rfl, fun k c hk => by simp at hk⟩
    · rintro ⟨hlength, -⟩
      rw [List.eq_nil_of_length_eq_zero hlength]
  | succ count ih =>
    rw [readChain]
    constructor
    · intro h
      split at h
      · cases h
      next c hfirst =>
        split at h
        · cases h
        next rest hrest =>
          obtain rfl := Except.ok.inj h
          obtain ⟨hlength, hmore⟩ := ih.1 hrest
          refine ⟨by rw [List.length_cons, hlength], fun k c' hk => ?_⟩
          cases k with
          | zero => rwa [← Option.some.inj hk]
          | succ k =>
            rw [show first + (k + 1) = first + 1 + k by omega]
            exact hmore k c' hk
    · rintro ⟨hlength, hread⟩
      obtain ⟨c, rest, rfl⟩ := List.exists_cons_of_length_eq_add_one hlength
      have hrest : readChain form (first + 1) count = .ok rest := by
        refine ih.2 ⟨Nat.succ.inj hlength, fun k c' hk => ?_⟩
        rw [show first + 1 + k = first + (k + 1) by omega]
        exact hread (k + 1) c' hk
      have hfirst : readCertificate form first = .ok c := hread 0 c rfl
      rw [hfirst]
      simp only [hrest]

/-- The fields of a form spell a signature. Of every name the first field counts. -/
structure Spelled (form : Form) (s : Signature) : Prop where
  signed : ∃ text, form.value? Field.serviceSigned = some text ∧ s.signed = SignedList.parse text
  value : ∃ text, form.value? Field.serviceSignature = some text ∧
    Base64.decodeForm text = .ok s.value
  size : ∃ text, form.value? Field.chainSize = some text ∧
    Decimal.parseCount text = some s.chain.length
  certificates : ∀ k c, s.chain[k]? = some c →
    ∃ text, form.value? (Field.certificate (1 + k)) = some text ∧ Certificate.ofBase64 text = .ok c

theorem readSigned_eq_ok {signed : SignedList} :
    readSigned form signed = .ok s ↔
      s.signed = signed ∧ readValue form = .ok s.value ∧
        readChainSize form = .ok s.chain.length ∧
          readChain form 1 s.chain.length = .ok s.chain := by
  obtain ⟨signed', value', leaf, issuers⟩ := s
  unfold readSigned
  constructor
  · intro h
    split at h
    · cases h
    next value hvalue =>
      split at h
      · cases h
      next size hsize =>
        split at h
        · cases h
        next certificates hchain =>
          cases certificates with
          | nil => cases h
          | cons c rest =>
            obtain rfl := (readChain_eq_ok.1 hchain).1
            cases h
            exact ⟨rfl, hvalue, hsize, hchain⟩
  · rintro ⟨rfl, hvalue, hsize, hchain⟩
    rw [hvalue, hsize]
    simp only [hchain]
    rfl

theorem ofForm_eq_some : ofForm form = .ok (some s) ↔ Spelled form s := by
  unfold ofForm
  constructor
  · intro h
    split at h
    · cases h
    next list hlist =>
      split at h
      next s' hread =>
        cases h
        obtain ⟨hsigned, hvalue, hsize, hchain⟩ := readSigned_eq_ok.1 hread
        refine ⟨⟨list, hlist, hsigned⟩, readValue_eq_ok.1 hvalue, readChainSize_eq_ok.1 hsize,
          fun k c hk => ?_⟩
        exact readCertificate_eq_ok.1 ((readChain_eq_ok.1 hchain).2 k c hk)
      · cases h
  · rintro ⟨⟨list, hlist, hsigned⟩, hvalue, hsize, hcertificates⟩
    have hchain : readChain form 1 s.chain.length = .ok s.chain :=
      readChain_eq_ok.2 ⟨rfl, fun k c hk => readCertificate_eq_ok.2 (hcertificates k c hk)⟩
    have hread : readSigned form (SignedList.parse list) = .ok s :=
      readSigned_eq_ok.2 ⟨hsigned, readValue_eq_ok.2 hvalue, readChainSize_eq_ok.2 hsize, hchain⟩
    rw [hlist]
    simp only [hread]

theorem ofForm_eq_none : ofForm form = .ok none ↔ form.value? Field.serviceSigned = none := by
  unfold ofForm
  cases form.value? Field.serviceSigned with
  | none => simp
  | some list =>
    cases hread : readSigned form (SignedList.parse list) with
    | error e => simp [hread]
    | ok s => simp [hread]

/-- What cannot be read is a malformed signature and no other failure. -/
theorem ofForm_eq_error {e : Error} (h : ofForm form = .error e) :
    ∃ fault, e = .malformedServiceSignature fault := by
  unfold ofForm at h
  split at h
  · cases h
  · split at h
    · cases h
    · exact ⟨_, (Except.error.inj h).symm⟩

theorem Spelled.unique {s' : Signature} (h : Spelled form s) (h' : Spelled form s') : s' = s := by
  have hread := ofForm_eq_some.2 h
  rw [ofForm_eq_some.2 h'] at hread
  exact Option.some.inj (Except.ok.inj hread)

/-! ## Reading back -/

/-- A signature that can be sent: its names can stand in a list, its certificates were read, and
their number can be counted. -/
structure Sendable (s : Signature) : Prop where
  names : ∀ name ∈ s.signed.names, SignedList.IsName name.toList
  certificates : ∀ c ∈ s.chain, ∃ der, Certificate.ofDer der = .ok c
  length_le : s.chain.length ≤ Decimal.maxCount

theorem mem_fieldNames_certificate {size k : Nat} (h : k < size) :
    Field.certificate (1 + k) ∈ fieldNames size := by
  have hindex : 1 + k ∈ List.range' 1 size := List.mem_range'_1.2 ⟨by omega, by omega⟩
  simp only [fieldNames, List.mem_cons]
  exact Or.inr (Or.inr (Or.inr (List.mem_map_of_mem hindex)))

/-- What is added to a form that has none of the fields of a signature is read back. -/
theorem ofForm_appendTo_of_free
    (hform : ∀ name ∈ fieldNames s.chain.length, form.value? name = none) (hs : s.Sendable) :
    ofForm (s.appendTo form) = .ok (some s) := by
  refine ofForm_eq_some.2 ⟨⟨s.signed.render, ?_, ?_⟩, ⟨Base64.encode s.value, ?_, ?_⟩,
    ⟨toString s.chain.length, ?_, ?_⟩, fun k c hk => ?_⟩
  · rw [value?_appendTo_of_eq_none (hform _ (by simp [fieldNames])), lookup_serviceSigned]
  · rw [SignedList.parse_render hs.names]
  · rw [value?_appendTo_of_eq_none (hform _ (by simp [fieldNames])), lookup_serviceSignature]
  · exact Base64.decodeForm_encode s.value
  · rw [value?_appendTo_of_eq_none (hform _ (by simp [fieldNames])), lookup_chainSize]
  · exact Decimal.parseCount_toString hs.length_le
  · obtain ⟨der, hder⟩ := hs.certificates c (List.mem_of_getElem? hk)
    obtain ⟨hlt, -⟩ := List.getElem?_eq_some_iff.1 hk
    refine ⟨c.toBase64, ?_, Certificate.ofBase64_toBase64 hder⟩
    rw [value?_appendTo_of_eq_none (hform _ (mem_fieldNames_certificate hlt)), lookup_certificate,
      hk]
    rfl

theorem ofForm_appendTo (hform : Unsigned form) (hs : s.Sendable) :
    ofForm (s.appendTo form) = .ok (some s) :=
  ofForm_appendTo_of_free (fun _ hname => hform _ (isService_of_mem_fieldNames hname)) hs

/-! ## What reading looks at -/

theorem readChain_congr {form' : Form} {first count : Nat}
    (h : ∀ i, first ≤ i → i < first + count →
      readCertificate form' i = readCertificate form i) :
    readChain form' first count = readChain form first count := by
  induction count generalizing first with
  | zero => rfl
  | succ count ih =>
    have hfirst := h first (Nat.le_refl first) (by omega)
    have hrest : readChain form' (first + 1) count = readChain form (first + 1) count :=
      ih fun i hi hlt => h i (by omega) (by omega)
    rw [readChain, readChain, hfirst, hrest]

theorem readSigned_congr {form' : Form} (hvalue : readValue form' = readValue form)
    (hsize : readChainSize form' = readChainSize form)
    (hchain : ∀ size, readChainSize form = .ok size → ∀ i, 1 ≤ i → i ≤ size →
      readCertificate form' i = readCertificate form i) (signed : SignedList) :
    readSigned form' signed = readSigned form signed := by
  rw [readSigned, readSigned, hvalue, hsize]
  cases readValue form with
  | error e => rfl
  | ok value =>
    cases hread : readChainSize form with
    | error e => rfl
    | ok size =>
      have hcertificates : readChain form' 1 size = readChain form 1 size :=
        readChain_congr fun i hi hlt => hchain size hread i hi (by omega)
      simp only [hcertificates]

/-- The forms have the same first values in the fields of a service signature: of certificates, in
those up to the size of the chain, where this is a number. -/
structure SameFields (form form' : Form) : Prop where
  signed : form'.value? Field.serviceSigned = form.value? Field.serviceSigned
  value : form'.value? Field.serviceSignature = form.value? Field.serviceSignature
  size : form'.value? Field.chainSize = form.value? Field.chainSize
  certificates : ∀ text size, form.value? Field.chainSize = some text →
    Decimal.parseCount text = some size → ∀ i, 1 ≤ i → i ≤ size →
      form'.value? (Field.certificate i) = form.value? (Field.certificate i)

theorem SameFields.of_isService {form' : Form}
    (h : ∀ name, Field.isService name = true → form'.value? name = form.value? name) :
    SameFields form form' where
  signed := h _ Field.isService_serviceSigned
  value := h _ Field.isService_serviceSignature
  size := h _ Field.isService_chainSize
  certificates _ _ _ _ i _ _ := h _ (Field.isService_certificate i)

theorem SameFields.readSigned_eq {form' : Form} (h : SameFields form form') (signed : SignedList) :
    readSigned form' signed = readSigned form signed := by
  have hvalue : readValue form' = readValue form := by rw [readValue, readValue, h.value]
  have hsize : readChainSize form' = readChainSize form := by
    rw [readChainSize, readChainSize, h.size]
  refine readSigned_congr hvalue hsize (fun size hread i hi hle => ?_) signed
  obtain ⟨text, htext, hcount⟩ := readChainSize_eq_ok.1 hread
  rw [readCertificate, readCertificate, h.certificates text size htext hcount i hi hle]

theorem SameFields.ofForm_eq {form' : Form} (h : SameFields form form') :
    ofForm form' = ofForm form := by
  rw [ofForm, ofForm, h.signed]
  simp only [h.readSigned_eq]

/-- Forms with the same fields of service signatures have the same signature. -/
theorem ofForm_congr {form' : Form}
    (h : ∀ name, Field.isService name = true → form'.value? name = form.value? name) :
    ofForm form' = ofForm form :=
  (SameFields.of_isService h).ofForm_eq

end Service.Signature

end SignPost
