import SignPost.Request.Basic
import SignPost.Proofs.Service.Signature

/-!
# The fields of a request

Which requests can be sent (`validate_eq_ok`, `toForm_eq_ok`), what the form of one gives under each
name (`value?_fields`), and the names that are signed: they are those of the form
(`signedNames_perm`), each once and in the order of the protocol (`signedNames_sublist`). The form
has no field of a service signature until one is added.
-/

namespace SignPost.Request

variable {check : Url.Check} {r : Request}

/-- A request can be sent if it has one of document and artifact, and its target is an address. -/
theorem validate_eq_ok :
    r.validate check = .ok () ↔
      r.document.isSome ≠ r.artifact.isSome ∧ check r.target = .ok () := by
  unfold validate
  cases r.document with
  | none =>
    cases r.artifact with
    | none => simp
    | some artifact => cases check r.target <;> simp
  | some document =>
    cases r.artifact with
    | none => cases check r.target <;> simp
    | some artifact => simp

/-- What is wrong with a request is never that a key is missing. -/
theorem validate_ne_missingKey : r.validate check ≠ .error .missingKeyMaterial := by
  unfold validate
  intro h
  split at h
  · cases h
  · cases h
  · split at h <;> cases h

theorem payload_of_validate (h : r.validate check = .ok ()) :
    (∃ document, r.document = some document ∧ r.artifact = none) ∨
      ∃ artifact, r.document = none ∧ r.artifact = some artifact := by
  obtain ⟨hone, -⟩ := validate_eq_ok.1 h
  cases hdocument : r.document with
  | none =>
    cases hartifact : r.artifact with
    | none => simp [hdocument, hartifact] at hone
    | some artifact => exact Or.inr ⟨artifact, rfl, rfl⟩
  | some document =>
    cases hartifact : r.artifact with
    | none => exact Or.inl ⟨document, rfl, rfl⟩
    | some artifact => simp [hdocument, hartifact] at hone

/-- A form is sent for a request that can be sent: its fields, and those of the signature if there
is one. -/
theorem toForm_eq_ok {s : Option Service.Signature} {form : Form} :
    r.toForm check s = .ok form ↔
      r.validate check = .ok () ∧
        form = s.elim r.fields fun signature => signature.appendTo r.fields := by
  unfold toForm
  cases r.validate check with
  | error e => simp
  | ok => cases s <;> simp [eq_comm]

theorem value?_fields (f : SignableField) : r.fields.value? f.name = r.value? f := by
  unfold fields
  simp only [Form.value?_push, Form.value?_pushIf]
  cases f <;> simp [SignableField.name, value?, Form.value?, Form.empty]

theorem unsigned_fields : Service.Signature.Unsigned r.fields :=
  Service.Signature.unsigned_empty
    |>.pushIf (Field.not_isService_name .signatureRequest) _
    |>.pushIf (Field.not_isService_name .signatureRequestId) _
    |>.push (Field.not_isService_name .target) _
    |>.pushIf (Field.not_isService_name .language) _
    |>.pushIf (Field.not_isService_name .contentType) _
    |>.pushIf (Field.not_isService_name .relayState) _

/-- What is sent has the values of the request, with a signature or without one. -/
theorem value?_toForm {s : Option Service.Signature} {form : Form} (h : r.toForm check s = .ok form)
    (f : SignableField) : form.value? f.name = r.value? f := by
  obtain ⟨-, rfl⟩ := toForm_eq_ok.1 h
  cases s with
  | none => exact value?_fields f
  | some s =>
    have hname := Field.not_isService_name f
    rw [Option.elim_some, Service.Signature.value?_appendTo_of_not_isService hname, value?_fields]

/-- The values of a request by themselves are those that it has. -/
theorem value?_signedValues (f : SignableField) : r.signedValues.value? f = r.value? f := by
  cases f <;> rfl

/-! ## Names -/

/-- The names that can be signed in a request, in order. -/
def order : List SignableField :=
  [.target, .signatureRequest, .signatureRequestId, .language, .contentType, .relayState]

theorem sublist_optional (present : Bool) (f : SignableField) :
    (if present then [f] else []).Sublist [f] := by
  cases present with
  | false => exact List.nil_sublist [f]
  | true => exact List.Sublist.refl [f]

theorem signedFields_sublist : r.signedFields.Sublist order := by
  have hpayload : (if r.document.isSome then [SignableField.signatureRequest]
      else if r.artifact.isSome then [.signatureRequestId] else []).Sublist
        [.signatureRequest, .signatureRequestId] := by
    split_ifs <;> decide
  have hlanguage := sublist_optional r.language.isSome .language
  have htype := sublist_optional r.contentType.isSome .contentType
  have hstate := sublist_optional r.relayState.isSome .relayState
  exact (((hpayload.append hlanguage).append htype).append hstate).cons_cons _

theorem signedNames_sublist : r.signedNames.Sublist (order.map SignableField.name) :=
  signedFields_sublist.map SignableField.name

theorem nodup_signedNames : r.signedNames.Nodup := by
  have horder : (order.map SignableField.name).Nodup := by decide
  exact signedNames_sublist.nodup horder

/-- What is signed and what is sent have the same names, up to the place of the target. -/
theorem names_of_validate (h : r.validate check = .ok ()) :
    ∃ payload rest, r.signedNames = SignableField.target.name :: payload :: rest ∧
      r.fields.fields.map Prod.fst = payload :: SignableField.target.name :: rest := by
  have hpayload := payload_of_validate h
  obtain ⟨target, document, artifact, language, contentType, relayState⟩ := r
  rcases hpayload with ⟨_, rfl, rfl⟩ | ⟨_, rfl, rfl⟩
  · cases language <;> cases contentType <;> cases relayState <;> exact ⟨_, _, rfl, rfl⟩
  · cases language <;> cases contentType <;> cases relayState <;> exact ⟨_, _, rfl, rfl⟩

theorem signedNames_perm (h : r.validate check = .ok ()) :
    r.signedNames.Perm (r.fields.fields.map Prod.fst) := by
  obtain ⟨payload, rest, hsigned, hfields⟩ := names_of_validate h
  rw [hsigned, hfields]
  exact List.Perm.swap _ _ _

theorem isName_name (f : SignableField) : Service.SignedList.IsName f.name.toList := by
  have hcomma : ',' ∉ f.name.toList := by cases f <;> decide +kernel
  refine ⟨?_, ?_, ?_, ?_, ?_⟩
  · cases f <;> decide +kernel
  · cases f <;> decide +kernel
  · rintro c hc rfl
    exact hcomma hc
  · cases f <;> decide +kernel
  · cases f <;> decide +kernel

theorem isName_of_mem_signedNames {name : String} (h : name ∈ r.signedNames) :
    Service.SignedList.IsName name.toList := by
  obtain ⟨f, -, rfl⟩ := List.mem_map.1 h
  exact isName_name f

theorem not_isService_of_mem_signedNames {name : String} (h : name ∈ r.signedNames) :
    Field.isService name = false := by
  obtain ⟨f, -, rfl⟩ := List.mem_map.1 h
  exact Field.not_isService_name f

/-! ### A request with a document -/

def sample : Request where
  target := "https://sp.example/return"
  document := some "PGEvPg=="
  language := some "en"
  relayState := some "a&b=c"

theorem validate_sample : sample.validate Url.check = .ok () := by
  decide +kernel

end SignPost.Request
