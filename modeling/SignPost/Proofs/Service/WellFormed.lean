import SignPost.Proofs.Request.Keyless
import SignPost.Proofs.Service.Wire
import Mathlib.Data.List.Nodup

/-!
# Which forms have a service signature

`ofForm_accepts_complete`: a signature is read exactly from a form with all of its fields, and a
form that has a list of signed fields and is not complete is refused as malformed.

The size of the chain is chosen by the sender. That reading still ends at once where it is too
large is an argument about names: the fields of the certificates that were read have different
names (`nodup_fieldNames`), so there are no more of them than the form has fields, and the first
that is missing is met before that (`exists_stop`).
-/

namespace SignPost

/-- Different names that have a value are no more than the fields of a form. -/
theorem Form.length_le_size {form : Form} {names : List String} (hnodup : names.Nodup)
    (h : ∀ name ∈ names, (form.value? name).isSome = true) : names.length ≤ form.size := by
  have hsubset : names ⊆ form.fields.map Prod.fst := by
    intro name hname
    by_contra hmem
    have hsome := h name hname
    rw [Form.value?, Form.lookup_of_not_mem hmem] at hsome
    cases hsome
  calc names.length ≤ (form.fields.map Prod.fst).length := hnodup.length_le_of_subset hsubset
    _ = form.size := List.length_map _

namespace Service.Signature

variable {form : Form} {s : Signature}

/-! ## Chains -/

theorem ofChain_eq_ok {signed : SignedList} {value : Bytes} {certificates : List Certificate} :
    ofChain signed value certificates = .ok s ↔
      s.signed = signed ∧ s.value = value ∧ s.chain = certificates := by
  obtain ⟨signed', value', leaf, issuers⟩ := s
  cases certificates with
  | nil => simp [ofChain, chain]
  | cons c rest => simp [ofChain, chain, eq_comm]

/-! ## The fields that are needed -/

theorem nodup_fieldNames (size : Nat) : (fieldNames size).Nodup := by
  have hcertificates : ((List.range' 1 size).map Field.certificate).Nodup :=
    List.Nodup.map (fun _ _ h => Field.certificate_injective h) List.nodup_range'
  have hne : ∀ name : String, name.toList[18]? ≠ some '.' →
      name ∉ (List.range' 1 size).map Field.certificate := by
    intro name hname hmem
    obtain ⟨index, -, h⟩ := List.mem_map.1 hmem
    exact Field.certificate_ne hname h
  have hsigned := hne Field.serviceSigned (by decide)
  have hvalue := hne Field.serviceSignature (by decide)
  have hsize := hne Field.chainSize (by decide)
  refine List.nodup_cons.2 ⟨?_, List.nodup_cons.2 ⟨?_, List.nodup_cons.2 ⟨hsize, hcertificates⟩⟩⟩
  · rw [List.mem_cons, List.mem_cons, not_or, not_or]
    exact ⟨by decide, by decide, hsigned⟩
  · rw [List.mem_cons, not_or]
    exact ⟨by decide, hvalue⟩

/-- A form with a list, a value, a size and so many certificates has at least as many fields. -/
theorem add_three_le_size {count : Nat} {list value size : String}
    (hlist : form.value? Field.serviceSigned = some list)
    (hvalue : form.value? Field.serviceSignature = some value)
    (hsize : form.value? Field.chainSize = some size)
    (h : ∀ i, 1 ≤ i → i ≤ count → ∃ text, form.value? (Field.certificate i) = some text) :
    count + 3 ≤ form.size := by
  have hlength : (fieldNames count).length = count + 3 := by simp [fieldNames]
  rw [← hlength]
  refine Form.length_le_size (nodup_fieldNames count) fun name hname => ?_
  simp only [fieldNames, List.mem_cons, List.mem_map, List.mem_range'_1] at hname
  rcases hname with rfl | rfl | rfl | ⟨i, ⟨hi, hlt⟩, rfl⟩
  · rw [hlist]; rfl
  · rw [hvalue]; rfl
  · rw [hsize]; rfl
  · obtain ⟨text, htext⟩ := h i hi (by omega)
    rw [htext]; rfl

/-! ## Where reading stops -/

/-- There is no certificate under an index, or none that can be read. -/
inductive NoCertificate (form : Form) (index : Nat) : SignatureFault → Prop where
  | missing (h : form.value? (Field.certificate index) = none) :
      NoCertificate form index (.noCertificate index)
  | unreadable {text : String} {cause : Certificate.Error}
      (htext : form.value? (Field.certificate index) = some text)
      (h : Certificate.ofBase64 text = .error cause) :
      NoCertificate form index (.badCertificate index cause)

theorem noCertificate_of_readCertificate {index : Nat} {fault : SignatureFault}
    (h : readCertificate form index = .error fault) : NoCertificate form index fault := by
  unfold readCertificate at h
  split at h
  next hnone =>
    obtain rfl := Except.error.inj h
    exact .missing hnone
  next text htext =>
    split at h
    · cases h
    next cause hread =>
      obtain rfl := Except.error.inj h
      exact .unreadable htext hread

/-- A chain that cannot be read stops at its first certificate that cannot. -/
theorem readChain_eq_error {first count : Nat} {fault : SignatureFault}
    (h : readChain form first count = .error fault) :
    ∃ index, first ≤ index ∧ index < first + count ∧ NoCertificate form index fault ∧
      ∀ i, first ≤ i → i < index → ∃ c, readCertificate form i = .ok c := by
  induction count generalizing first with
  | zero => cases h
  | succ count ih =>
    rw [readChain] at h
    split at h
    next e hread =>
      obtain rfl := Except.error.inj h
      exact ⟨first, Nat.le_refl first, by omega, noCertificate_of_readCertificate hread,
        fun i hi hlt => absurd hi (by omega)⟩
    next c hread =>
      split at h
      next e hrest =>
        obtain rfl := Except.error.inj h
        obtain ⟨index, hle, hlt, hno, hbefore⟩ := ih hrest
        refine ⟨index, by omega, by omega, hno, fun i hi hindex => ?_⟩
        rcases Nat.eq_or_lt_of_le hi with rfl | hi
        · exact ⟨c, hread⟩
        · exact hbefore i hi hindex
      next => cases h

/-- Where a chain is said to be longer than the form has room for, reading stops at a certificate
that is missing or unreadable, and whose index is no larger than the number of fields. -/
theorem exists_stop {list value size : String} {bytes : Bytes} {count : Nat}
    (hlist : form.value? Field.serviceSigned = some list)
    (hvalue : form.value? Field.serviceSignature = some value)
    (hbytes : Base64.decodeForm value = .ok bytes)
    (hsize : form.value? Field.chainSize = some size)
    (hcount : Decimal.parseCount size = some count) (hlarge : form.size < count + 3) :
    ∃ index fault, 1 ≤ index ∧ index ≤ form.size ∧ NoCertificate form index fault ∧
      ofForm form = .error (.malformedServiceSignature fault) := by
  cases hchain : readChain form 1 count with
  | ok certificates =>
    obtain ⟨hlength, hread⟩ := readChain_eq_ok.1 hchain
    have hroom : count + 3 ≤ form.size := by
      refine add_three_le_size hlist hvalue hsize fun i hi hle => ?_
      have hlt : i - 1 < certificates.length := by omega
      obtain ⟨text, htext, -⟩ := readCertificate_eq_ok.1
        (hread (i - 1) _ (List.getElem?_eq_getElem hlt))
      rw [Nat.add_sub_cancel' hi] at htext
      exact ⟨text, htext⟩
    omega
  | error fault =>
    obtain ⟨index, hfirst, -, hno, hbefore⟩ := readChain_eq_error hchain
    have hroom : index - 1 + 3 ≤ form.size := by
      refine add_three_le_size hlist hvalue hsize fun i hi hle => ?_
      obtain ⟨c, hread⟩ := hbefore i hi (by omega)
      obtain ⟨text, htext, -⟩ := readCertificate_eq_ok.1 hread
      exact ⟨text, htext⟩
    have hsigned : readSigned form (SignedList.parse list) = .error fault := by
      rw [readSigned, readValue_eq_ok.2 ⟨value, hvalue, hbytes⟩,
        readChainSize_eq_ok.2 ⟨size, hsize, hcount⟩]
      simp only [hchain]
    refine ⟨index, fault, hfirst, by omega, hno, ?_⟩
    rw [ofForm, hlist]
    simp only [hsigned]

/-! ## Complete forms -/

/-- A form has all fields of a signature with so many certificates: a list, a value in base64, the
number of certificates in decimal digits, at least one, and the certificates themselves. Of every
name the first field counts. -/
structure Complete (form : Form) (count : Nat) : Prop where
  signed : ∃ text, form.value? Field.serviceSigned = some text
  value : ∃ text value, form.value? Field.serviceSignature = some text ∧
    Base64.decodeForm text = .ok value
  size : ∃ text, form.value? Field.chainSize = some text ∧
    Decimal.Spells (Text.trim text.toList) count
  count_pos : 1 ≤ count
  count_lt : count < UInt64.size
  certificates : ∀ i, 1 ≤ i → i ≤ count → ∃ text c,
    form.value? (Field.certificate i) = some text ∧ Certificate.ofBase64 text = .ok c

theorem Spelled.complete (h : Spelled form s) : Complete form s.chain.length where
  signed := by
    obtain ⟨text, htext, -⟩ := h.signed
    exact ⟨text, htext⟩
  value := by
    obtain ⟨text, htext, hvalue⟩ := h.value
    exact ⟨text, s.value, htext, hvalue⟩
  size := by
    obtain ⟨text, htext, hcount⟩ := h.size
    exact ⟨text, htext, (Decimal.parseCount_eq_some.1 hcount).1⟩
  count_pos := Nat.succ_le_succ (Nat.zero_le _)
  count_lt := by
    obtain ⟨text, -, hcount⟩ := h.size
    exact Nat.lt_of_le_pred (by decide) (Decimal.parseCount_eq_some.1 hcount).2
  certificates := by
    intro i hi hle
    have hlt : i - 1 < s.chain.length := by omega
    obtain ⟨text, htext, hread⟩ := h.certificates (i - 1) _ (List.getElem?_eq_getElem hlt)
    rw [Nat.add_sub_cancel' hi] at htext
    exact ⟨text, _, htext, hread⟩

/-- All that a complete form spells is a signature. -/
theorem Complete.exists_spelled {count : Nat} (h : Complete form count) :
    ∃ s, Spelled form s ∧ s.chain.length = count := by
  obtain ⟨list, hlist⟩ := h.signed
  obtain ⟨text, value, htext, hvalue⟩ := h.value
  obtain ⟨size, hsize, hspells⟩ := h.size
  have hcount : Decimal.parseCount size = some count :=
    Decimal.parseCount_eq_some.2 ⟨hspells, Nat.le_pred_of_lt h.count_lt⟩
  cases hchain : readChain form 1 count with
  | error fault =>
    obtain ⟨index, hfirst, hlt, hno, -⟩ := readChain_eq_error hchain
    obtain ⟨found, c, hfound, hread⟩ := h.certificates index hfirst (by omega)
    cases hno with
    | missing hnone =>
      rw [hfound] at hnone
      cases hnone
    | unreadable htext' herror =>
      rw [hfound] at htext'
      obtain rfl := Option.some.inj htext'
      rw [hread] at herror
      cases herror
  | ok certificates =>
    obtain ⟨hlength, hread⟩ := readChain_eq_ok.1 hchain
    have hpos := h.count_pos
    obtain ⟨leaf, issuers, rfl⟩ :=
      List.exists_cons_of_length_pos (by omega : 0 < certificates.length)
    refine ⟨⟨SignedList.parse list, value, leaf, issuers⟩, ⟨⟨list, hlist, rfl⟩,
      ⟨text, htext, hvalue⟩, ⟨size, hsize, ?_⟩, fun k c hk => ?_⟩, hlength⟩
    · rw [hcount, ← hlength]
      rfl
    · exact readCertificate_eq_ok.1 (hread k c hk)

theorem Spelled.add_three_le_size (h : Spelled form s) : s.chain.length + 3 ≤ form.size := by
  obtain ⟨list, hlist, -⟩ := h.signed
  obtain ⟨value, hvalue, -⟩ := h.value
  obtain ⟨size, hsize, -⟩ := h.size
  refine Signature.add_three_le_size hlist hvalue hsize fun i hi hle => ?_
  obtain ⟨text, c, htext, -⟩ := h.complete.certificates i hi hle
  exact ⟨text, htext⟩

/-- Whatever else is in a form, more certificates than it has room for are refused. -/
theorem exists_fault_of_large {list size : String} {count : Nat}
    (hlist : form.value? Field.serviceSigned = some list)
    (hsize : form.value? Field.chainSize = some size)
    (hspells : Decimal.Spells (Text.trim size.toList) count) (hlarge : form.size < count + 3) :
    ∃ fault, ofForm form = .error (.malformedServiceSignature fault) := by
  cases hform : ofForm form with
  | error e =>
    obtain ⟨fault, rfl⟩ := ofForm_eq_error hform
    exact ⟨fault, rfl⟩
  | ok signature =>
    cases signature with
    | none =>
      rw [ofForm_eq_none.1 hform] at hlist
      cases hlist
    | some s =>
      have hs := ofForm_eq_some.1 hform
      obtain ⟨size', hsize', hspells'⟩ := hs.complete.size
      rw [hsize] at hsize'
      obtain rfl := Option.some.inj hsize'
      obtain rfl := hspells.unique hspells'
      exact absurd hs.add_three_le_size (by omega)

/-- A form without a list of signed fields has no signature, a complete form has the one that it
spells, and every other form is refused as malformed. A form that is read has three fields more than
certificates; where more are announced, whatever their number, it is refused, at the latest at a
certificate whose index is no larger than the number of fields. However a signature came about, its
chain is not empty: an empty one is refused. -/
theorem ofForm_accepts_complete (form : Form) :
    (ofForm form = .ok none ↔ form.value? Field.serviceSigned = none) ∧
    ((∃ s, ofForm form = .ok (some s)) ↔ ∃ count, Complete form count) ∧
    (∀ s, ofForm form = .ok (some s) →
      Spelled form s ∧ Complete form s.chain.length ∧ s.chain.length + 3 ≤ form.size) ∧
    (∀ e, ofForm form = .error e → ∃ fault, e = .malformedServiceSignature fault) ∧
    (∀ list size count, form.value? Field.serviceSigned = some list →
      form.value? Field.chainSize = some size → Decimal.Spells (Text.trim size.toList) count →
      form.size < count + 3 → ∃ fault, ofForm form = .error (.malformedServiceSignature fault) ∧
        ∀ value bytes, form.value? Field.serviceSignature = some value →
          Base64.decodeForm value = .ok bytes → count < UInt64.size →
            ∃ index, 1 ≤ index ∧ index ≤ form.size ∧ NoCertificate form index fault) ∧
    (∀ signed value certificates,
      ofChain signed value certificates = .error .emptyChain ↔ certificates = []) ∧
    (∀ signed value certificates s, ofChain signed value certificates = .ok s ↔
      s.signed = signed ∧ s.value = value ∧ s.chain = certificates) ∧
    ∀ check signer q s, RequestSigner.sign check signer q = .ok s →
      ∃ raw ders, signer.signer = some raw ∧ raw.chain = .ok ders ∧ ders ≠ [] ∧
        s.chain.length = ders.length := by
  refine ⟨ofForm_eq_none, ⟨?_, ?_⟩, fun s h => ?_, fun e => ofForm_eq_error, ?_, ?_,
    fun signed value certificates s => ofChain_eq_ok, fun check signer q s h => ?_⟩
  · rintro ⟨s, h⟩
    exact ⟨s.chain.length, (ofForm_eq_some.1 h).complete⟩
  · rintro ⟨count, h⟩
    obtain ⟨s, hs, -⟩ := h.exists_spelled
    exact ⟨s, ofForm_eq_some.2 hs⟩
  · have hs := ofForm_eq_some.1 h
    exact ⟨hs, hs.complete, hs.add_three_le_size⟩
  · intro list size count hlist hsize hspells hlarge
    obtain ⟨fault, hfault⟩ := exists_fault_of_large hlist hsize hspells hlarge
    refine ⟨fault, hfault, fun value bytes hvalue hbytes hlt => ?_⟩
    have hcount : Decimal.parseCount size = some count :=
      Decimal.parseCount_eq_some.2 ⟨hspells, Nat.le_pred_of_lt hlt⟩
    obtain ⟨index, fault', hpos, hle, hno, herror⟩ :=
      exists_stop hlist hvalue hbytes hsize hcount hlarge
    rw [hfault] at herror
    cases herror
    exact ⟨index, hpos, hle, hno⟩
  · intro signed value certificates
    cases certificates <;> simp [ofChain]
  · obtain ⟨-, raw, hraw, hmade⟩ := RequestSigner.sign_eq_ok.1 h
    obtain ⟨ders, hders, hreads⟩ := hmade.chain
    have hlength : s.chain.length = ders.length := (List.Forall₂.length_eq hreads).symm
    refine ⟨raw, ders, hraw, hders, ?_, hlength⟩
    rintro rfl
    cases hlength

section sample

open Signing

/-- A form that announces the largest number of certificates and has none. -/
def endless : Form :=
  ⟨[("ServiceSigned", "target"), ("ServiceSignature", ""),
    ("ServiceCertificateChainSize", "18446744073709551615")]⟩

/-- A form with one certificate has just the fields that it needs, an empty form has no signature,
and where certificates are announced without end the first one that is missing ends the matter. -/
theorem sample_accepts_complete :
    (ofForm untidy = .ok (some ⟨⟨["target"]⟩, [], Sample.leaf, []⟩) ∧ Complete untidy 1 ∧
      1 + 3 ≤ untidy.size) ∧
    ofForm Form.empty = .ok none ∧
    ∃ fault index, ofForm endless = .error (.malformedServiceSignature fault) ∧
      1 ≤ index ∧ index ≤ 3 ∧ NoCertificate endless index fault := by
  obtain ⟨-, -, hread, -⟩ := ofForm_accepts_complete untidy
  obtain ⟨-, hcomplete, hsize⟩ := hread _ ofForm_untidy
  obtain ⟨hnone, -⟩ := ofForm_accepts_complete Form.empty
  obtain ⟨-, -, -, -, hlarge, -⟩ := ofForm_accepts_complete endless
  have hspells : Decimal.Spells (Text.trim "18446744073709551615".toList) 18446744073709551615 :=
    (Decimal.parseCount_eq_some.1 (by decide +kernel)).1
  obtain ⟨fault, hfault, hstop⟩ := hlarge "target" "18446744073709551615" _ rfl rfl hspells
    (by decide)
  obtain ⟨index, hpos, hle, hno⟩ := hstop "" [] rfl (by decide +kernel) (by decide)
  exact ⟨⟨ofForm_untidy, hcomplete, hsize⟩, hnone.2 rfl, fault, index, hfault, hpos, hle, hno⟩

end sample

end Service.Signature

end SignPost
