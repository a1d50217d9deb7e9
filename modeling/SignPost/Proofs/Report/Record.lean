import SignPost.Report.Record
import SignPost.Proofs.Data.Json
import SignPost.Proofs.Text.Base64
import SignPost.Proofs.Time.Rfc3339
import Mathlib.Data.List.Forall2

/-!
# Verification reports read back

`report_survives_document`: a report that was read from a document is read again from the document
that is written for it, also by way of JSON text, so the signers in it stay the same.

Proof. A report is read back record by record, from the members that are written for it: a member
that is left out is read as absent, and a written one as what it was (`readOptional_map`,
`readList_map`). This holds of every report but for one thing: not every moment has a text. Those
that were read do (`Moment.storable_of_parse`), so it is a report that was read of which all is read
back (`readIndividual_value`).
-/

namespace SignPost.Report

open Data (Value Entries)
open Time (Moment)

/-! ## Members -/

/-- A member of a record: it has a name in a table and a place in a list. -/
def memberOf (name : String) (place : Nat) : Value → Option Value
  | .table entries => Entries.get? entries name
  | .list items => items[place]?
  | _ => none

/-- The items of a list that is a member; a missing one has none. -/
def itemsOf : Option Value → List Value
  | some (.list items) => items
  | _ => []

/-- The members that are looked for are found at their names, or at their places. -/
theorem eq_of_members {names : List String} {v : Value} {found : List (Option Value)}
    (h : members names v = some found) :
    found = names.mapIdx fun place name => memberOf name place v := by
  refine List.ext_getElem? fun place => ?_
  rw [List.getElem?_mapIdx]
  cases v with
  | table entries =>
    obtain rfl := Option.some.inj h
    exact List.getElem?_map
  | list items =>
    simp only [members] at h
    split_ifs at h with hlength
    obtain rfl := Option.some.inj h
    rw [List.getElem?_append, List.length_map, List.getElem?_map, List.getElem?_replicate]
    split_ifs with hitem hname
    · rw [List.getElem?_eq_getElem hitem, List.getElem?_eq_getElem (by omega)]
      simp [memberOf, hitem]
    · rw [List.getElem?_eq_getElem (by omega)]
      simp [memberOf, hitem]
    · rw [List.getElem?_eq_none (by omega), Option.map_none]
  | _ => cases h

theorem get?_member {α : Type} (key : String) (write : α → Value) (o : Option α)
    (wanted : String) :
    Entries.get? (member key write o) wanted = if wanted = key then o.map write else none := by
  cases o with
  | none => simp [member, Entries.get?]
  | some a => exact Entries.get?_cons key (write a) [] wanted

section codec

variable {α : Type} {read : Value → Option α} {write : α → Value}

/-- A member that is absent is not written, and one that is not written is absent. -/
theorem readOptional_map {o : Option α}
    (h : ∀ a, o = some a → write a ≠ .null ∧ read (write a) = some a) :
    readOptional read (o.map write) = some o := by
  cases o with
  | none => rfl
  | some a =>
    obtain ⟨hnull, hread⟩ := h a rfl
    rw [Option.map_some]
    unfold readOptional
    split
    next heq => cases heq
    next heq => exact absurd (Option.some.inj heq) hnull
    next v heq =>
      obtain rfl := Option.some.inj heq
      rw [hread, Option.map_some]

theorem mapM_eq_some {items : List Value} {l : List α} :
    items.mapM read = some l ↔ List.Forall₂ (fun item a => read item = some a) items l := by
  induction items generalizing l with
  | nil => simp [eq_comm]
  | cons item items ih =>
    simp only [List.mapM_cons, Option.bind_eq_bind, Option.bind_eq_some_iff, Option.pure_def,
      Option.some.injEq, List.forall₂_cons_left_iff, ih]
    constructor
    · rintro ⟨a, ha, more, hmore, rfl⟩
      exact ⟨a, more, ha, hmore, rfl⟩
    · rintro ⟨a, more, ha, hmore, rfl⟩
      exact ⟨a, ha, more, hmore, rfl⟩

theorem readList_map {l : List α} (h : ∀ a ∈ l, read (write a) = some a) :
    readList read (some (.list (l.map write))) = some l :=
  mapM_eq_some.2 (List.forall₂_map_left_iff.2 (List.forall₂_same.2 h))

/-- The items of a list are read one by one. -/
theorem forall₂_of_readList {m : Option Value} {l : List α} (h : readList read m = some l) :
    List.Forall₂ (fun item a => read item = some a) (itemsOf m) l := by
  unfold readList at h
  split at h
  · obtain rfl := Option.some.inj h
    exact List.Forall₂.nil
  · exact mapM_eq_some.1 h
  · cases h

end codec

theorem forall_mem_of_forall₂ {α β : Type} {R : α → β → Prop} {P : β → Prop} {xs : List α}
    {ys : List β} (h : List.Forall₂ R xs ys) (hR : ∀ x y, R x y → P y) : ∀ y ∈ ys, P y := by
  have hflip : List.Forall₂ (fun y x => P y ∧ R x y) ys xs :=
    (h.flip).imp fun y x hxy => ⟨hR x y hxy, hxy⟩
  exact ((List.forall₂_and_left ys xs).1 hflip).1

/-! ## What is read -/

/-- The individual reports of a report as they stand in a document. -/
def individualItems (v : Value) : List Value :=
  itemsOf (memberOf individualsKey 0 v)

/-- The details of an individual report as they stand in a document. -/
def detailItems (v : Value) : List Value :=
  itemsOf (memberOf detailsKey 2 v)

/-- The details that stand in a document are so related to those of a report, one by one. -/
def EachDetail (R : Value → Detail → Prop) (v : Value) (r : Report) : Prop :=
  List.Forall₂ (fun item i => List.Forall₂ R (detailItems item) i.details) (individualItems v)
    r.individuals

/-- The type of a detail in a document: a member of a table, or the first item of a list. -/
inductive HasType : Value → String → Prop
  | table {entries : Entries} {type : String}
    (h : Entries.get? entries typeKey = some (.text type)) : HasType (.table entries) type
  | list (type : String) (items : List Value) : HasType (.list (.text type :: items)) type

/-- A detail is an account if its type says so, and with any other type it is not. -/
def ReadsAs (item : Value) (d : Detail) : Prop :=
  ∃ type, HasType item type ∧ (d = .other ↔ type ≠ accountType)

/-- The type that is written for a detail. -/
def Detail.type : Detail → String
  | .account _ => accountType
  | .other => otherType

theorem readDetail_table {entries : Entries} {type : String}
    (h : Entries.get? entries typeKey = some (.text type)) :
    readDetail (.table entries) =
      if type = accountType then (readAccount (.table entries)).map .account else some .other := by
  simp only [readDetail, h]

theorem ne_other_of_map {a? : Option Account} {d : Detail} (h : a?.map .account = some d) :
    d ≠ .other := by
  rintro rfl
  obtain ⟨a, -, ha⟩ := Option.map_eq_some_iff.1 h
  cases ha

/-- What is read for a detail is an account exactly if it has the type of one. -/
theorem readsAs_of_readDetail {v : Value} {d : Detail} (h : readDetail v = some d) :
    ReadsAs v d := by
  unfold readDetail at h
  split at h
  next entries =>
    split at h
    next type htype =>
      refine ⟨type, HasType.table htype, ?_⟩
      split_ifs at h with haccount
      · simp [haccount, ne_other_of_map h]
      · obtain rfl := Option.some.inj h
        simp [haccount]
    next => cases h
  next type items =>
    refine ⟨type, HasType.list type items, ?_⟩
    split_ifs at h with haccount
    · simp [haccount, ne_other_of_map h]
    · obtain rfl := Option.some.inj h
      simp [haccount]
  next => cases h

theorem readIndividual_eq_some {v : Value} {i : Individual} (h : readIndividual v = some i) :
    (memberOf resultKey 0 v).bind readResult = some i.result ∧
      readOptional readMoment (memberOf timeKey 1 v) = some i.signingTime ∧
      readList readDetail (memberOf detailsKey 2 v) = some i.details := by
  unfold readIndividual at h
  obtain ⟨found, hfound, h⟩ := Option.bind_eq_some_iff.1 h
  obtain rfl := eq_of_members hfound
  split at h
  next result time details hmembers =>
    simp only [List.mapIdx_cons, List.mapIdx_nil, List.cons.injEq, and_true] at hmembers
    obtain ⟨hresult, rfl, rfl⟩ := hmembers
    simp only [Option.bind_eq_bind, Option.bind_eq_some_iff] at h
    obtain ⟨r, hr, t, ht, d, hd, hi⟩ := h
    obtain rfl := Option.some.inj hi
    rw [hresult, Option.bind_some]
    exact ⟨hr, ht, hd⟩
  next => cases h

theorem ofValue?_eq_some {v : Value} {r : Report} (h : ofValue? v = some r) :
    readList readIndividual (memberOf individualsKey 0 v) = some r.individuals := by
  unfold ofValue? at h
  obtain ⟨found, hfound, h⟩ := Option.bind_eq_some_iff.1 h
  obtain rfl := eq_of_members hfound
  split at h
  next individuals hmembers =>
    simp only [List.mapIdx_cons, List.mapIdx_nil, List.cons.injEq, and_true] at hmembers
    subst hmembers
    simp only [Option.bind_eq_bind, Option.bind_eq_some_iff] at h
    obtain ⟨l, hl, hr⟩ := h
    obtain rfl := Option.some.inj hr
    exact hl
  next => cases h

/-- A signing time that was read has a text. -/
theorem storable_of_readMoment {m : Option Value} {t : Moment}
    (h : readOptional readMoment m = some (some t)) : t.Storable := by
  unfold readOptional at h
  split at h
  · cases h
  · cases h
  next v =>
    obtain ⟨t', ht', heq⟩ := Option.map_eq_some_iff.1 h
    obtain rfl := Option.some.inj heq
    obtain ⟨text, -, hparse⟩ := Option.bind_eq_some_iff.1 ht'
    exact Moment.storable_of_parse hparse

/-! ## What is written -/

theorem readBytes_encode (bytes : Bytes) :
    readBytes (.text (Base64.encode bytes)) = some bytes := by
  have hnone : Base64.missingPadding (Base64.symbols bytes).length = [] := by
    rw [Base64.missingPadding, Base64.length_symbols_mod]
    rfl
  show Base64.decodeOpen? (Base64.encode bytes) = some bytes
  simp only [Base64.decodeOpen?, Base64.ofString_encode, hnone, List.append_nil,
    Base64.decodeBytes_symbols]
  rfl

theorem readOptional_text (o : Option String) :
    readOptional readText (o.map .text) = some o :=
  readOptional_map fun _ _ => ⟨nofun, rfl⟩

theorem members_resultValue (s : ResultStatus) :
    members [majorKey, minorKey, messageKey] (resultValue s) =
      some [some (.text s.major), s.minor.map .text, s.message.map .text] := by
  simp [members, resultValue, Entries.get?_cons, Entries.get?_append, get?_member, majorKey,
    minorKey, messageKey]

theorem readResult_value (s : ResultStatus) : readResult (resultValue s) = some s := by
  rw [readResult, members_resultValue]
  simp only [Option.bind_eq_bind, Option.bind_some, readOptional_text]
  rfl

theorem members_certificateValue (e : CertificateEntry) :
    members [subjectKey, valueKey] (certificateValue e) =
      some [e.subject.map .text, e.value.map fun bytes => .text (Base64.encode bytes)] := by
  simp [members, certificateValue, Entries.get?_append, get?_member, subjectKey, valueKey]

theorem readCertificate_value (e : CertificateEntry) :
    readCertificate (certificateValue e) = some e := by
  have hvalue : readOptional readBytes
      (e.value.map fun bytes => .text (Base64.encode bytes)) = some e.value :=
    readOptional_map fun bytes _ => ⟨nofun, readBytes_encode bytes⟩
  rw [readCertificate, members_certificateValue]
  simp only [Option.bind_eq_bind, Option.bind_some, readOptional_text, hvalue]
  rfl

theorem readAccount_value (a : Account) :
    readAccount (detailValue (.account a)) = some a := by
  have hmembers : members [certificatesKey, rolesKey] (detailValue (.account a)) =
      some [some (.list (a.certificates.map certificateValue)),
        some (.list (a.claimedRoles.map .text))] := by
    simp [members, detailValue, Entries.get?_cons, certificatesKey, rolesKey, typeKey]
  have hcertificates := readList_map fun e (_ : e ∈ a.certificates) => readCertificate_value e
  have hroles : readList readText (some (.list (a.claimedRoles.map .text))) =
      some a.claimedRoles := readList_map fun _ _ => rfl
  rw [readAccount, hmembers]
  simp only [Option.bind_eq_bind, Option.bind_some, hcertificates, hroles]
  rfl

theorem detailValue_eq_table (d : Detail) :
    ∃ entries, detailValue d = .table entries ∧
      Entries.get? entries typeKey = some (.text d.type) := by
  cases d with
  | account a => exact ⟨_, rfl, by rw [Entries.get?_cons, if_pos rfl]; rfl⟩
  | other => exact ⟨_, rfl, by rw [Entries.get?_cons, if_pos rfl]; rfl⟩

theorem hasType_value (d : Detail) : HasType (detailValue d) d.type := by
  obtain ⟨entries, hentries, htype⟩ := detailValue_eq_table d
  rw [hentries]
  exact HasType.table htype

theorem readDetail_value (d : Detail) : readDetail (detailValue d) = some d := by
  obtain ⟨entries, hentries, htype⟩ := detailValue_eq_table d
  rw [hentries, readDetail_table htype, ← hentries]
  cases d with
  | account a =>
    rw [readAccount_value]
    rfl
  | other => exact if_neg (by decide)

theorem members_individualValue (i : Individual) :
    members [resultKey, timeKey, detailsKey] (individualValue i) =
      some [some (resultValue i.result), i.signingTime.map fun t => .text t.stored,
        some (.list (i.details.map detailValue))] := by
  simp [members, individualValue, Entries.get?_cons, Entries.get?_nil, Entries.get?_append,
    get?_member, resultKey, timeKey, detailsKey]

theorem readMoment_stored {t : Moment} (h : t.Storable) : readMoment (.text t.stored) = some t := by
  rw [readMoment, readText, Option.bind_some, Moment.parse_stored h]

/-- Reports all of whose signing times have a text. -/
def Storable (r : Report) : Prop :=
  ∀ i ∈ r.individuals, ∀ t, i.signingTime = some t → t.Storable

theorem readIndividual_value {i : Individual} (h : ∀ t, i.signingTime = some t → t.Storable) :
    readIndividual (individualValue i) = some i := by
  have htime : readOptional readMoment (i.signingTime.map fun t => .text t.stored) =
      some i.signingTime :=
    readOptional_map fun t ht => ⟨nofun, readMoment_stored (h t ht)⟩
  have hdetails := readList_map fun d (_ : d ∈ i.details) => readDetail_value d
  rw [readIndividual, members_individualValue]
  simp only [Option.bind_eq_bind, Option.bind_some, readResult_value, htime, hdetails]
  rfl

theorem members_toValue (r : Report) :
    members [individualsKey] r.toValue =
      some [some (.list (r.individuals.map individualValue))] := by
  simp [members, toValue, Entries.get?_cons]

theorem ofValue?_toValue {r : Report} (h : r.Storable) : ofValue? r.toValue = some r := by
  have hindividuals := readList_map fun i hi => readIndividual_value (h i hi)
  rw [ofValue?, members_toValue]
  simp only [Option.bind_eq_bind, Option.bind_some, hindividuals]
  rfl

theorem storable_of_ofValue? {v : Value} {r : Report} (h : ofValue? v = some r) : r.Storable := by
  refine forall_mem_of_forall₂ (forall₂_of_readList (ofValue?_eq_some h)) fun item i hi t ht => ?_
  obtain ⟨-, htime, -⟩ := readIndividual_eq_some hi
  rw [ht] at htime
  exact storable_of_readMoment htime

/-! ### As JSON -/

open Data.Json (Textual)

theorem keys_member {α : Type} (key : String) (write : α → Value) (o : Option α) :
    (Entries.keys (member key write o)).Sublist [key] := by
  cases o with
  | none => exact List.nil_sublist [key]
  | some a => exact List.Sublist.refl [key]

theorem textual_member {α : Type} {depth : Nat} {key : String} {write : α → Value} {o : Option α}
    (h : ∀ a, Textual depth (write a)) : ∀ entry ∈ member key write o, Textual depth entry.2 := by
  cases o with
  | none => nofun
  | some a =>
    intro entry hentry
    obtain rfl := List.mem_singleton.1 hentry
    exact h a

theorem textual_list {α : Type} {depth : Nat} {write : α → Value} (l : List α)
    (h : ∀ a, Textual depth (write a)) : Textual (depth + 1) (.list (l.map write)) := by
  refine Textual.list depth _ fun item hitem => ?_
  obtain ⟨a, -, rfl⟩ := List.mem_map.1 hitem
  exact h a

theorem textual_resultValue (depth : Nat) (s : ResultStatus) :
    Textual (depth + 1) (resultValue s) := by
  refine Textual.table depth _ ?_ fun entry hentry => ?_
  · rw [Entries.keys_append, Entries.keys_cons]
    have hkeys : [majorKey, minorKey, messageKey].Nodup := by decide
    exact (((keys_member minorKey .text s.minor).cons_cons majorKey).append
      (keys_member messageKey .text s.message)).nodup hkeys
  · rcases List.mem_append.1 hentry with hentry | hentry
    · rcases List.mem_cons.1 hentry with rfl | hentry
      · exact Textual.text depth s.major
      · exact textual_member (Textual.text depth) entry hentry
    · exact textual_member (Textual.text depth) entry hentry

theorem textual_certificateValue (depth : Nat) (e : CertificateEntry) :
    Textual (depth + 1) (certificateValue e) := by
  refine Textual.table depth _ ?_ fun entry hentry => ?_
  · rw [Entries.keys_append]
    have hkeys : [subjectKey, valueKey].Nodup := by decide
    exact ((keys_member subjectKey .text e.subject).append (keys_member valueKey _ e.value)).nodup
      hkeys
  · rcases List.mem_append.1 hentry with hentry | hentry
    · exact textual_member (Textual.text depth) entry hentry
    · exact textual_member (fun _ => Textual.text depth _) entry hentry

theorem textual_detailValue (depth : Nat) (d : Detail) :
    Textual (depth + 3) (detailValue d) := by
  cases d with
  | account a =>
    refine Textual.table (depth + 2) _ ?_ fun entry hentry => ?_
    · show [typeKey, certificatesKey, rolesKey].Nodup
      decide
    · simp only [List.mem_cons, List.not_mem_nil, or_false] at hentry
      rcases hentry with rfl | rfl | rfl
      · exact Textual.text _ accountType
      · exact textual_list a.certificates (textual_certificateValue depth)
      · exact textual_list a.claimedRoles (Textual.text (depth + 1))
  | other =>
    refine Textual.table (depth + 2) _ (List.pairwise_singleton _ typeKey) fun entry hentry => ?_
    obtain rfl := List.mem_singleton.1 hentry
    exact Textual.text _ otherType

theorem textual_individualValue (depth : Nat) (i : Individual) :
    Textual (depth + 5) (individualValue i) := by
  refine Textual.table (depth + 4) _ ?_ fun entry hentry => ?_
  · rw [Entries.keys_append, Entries.keys_cons]
    have hkeys : [resultKey, timeKey, detailsKey].Nodup := by decide
    exact (((keys_member timeKey _ i.signingTime).cons_cons resultKey).append
      (List.Sublist.refl [detailsKey])).nodup hkeys
  · rcases List.mem_append.1 hentry with hentry | hentry
    · rcases List.mem_cons.1 hentry with rfl | hentry
      · exact textual_resultValue (depth + 3) i.result
      · exact textual_member (fun _ => Textual.text (depth + 4) _) entry hentry
    · obtain rfl := List.mem_singleton.1 hentry
      exact textual_list i.details (textual_detailValue depth)

theorem textual_toValue (r : Report) : Textual Data.Json.maxDepth r.toValue := by
  have hindividuals : Textual 126 (.list (r.individuals.map individualValue)) :=
    textual_list r.individuals (textual_individualValue 120)
  refine Textual.table 126 _ (List.pairwise_singleton _ individualsKey) fun entry hentry => ?_
  obtain rfl := List.mem_singleton.1 hentry
  exact hindividuals

/-! ## Reports -/

theorem detailItems_value (i : Individual) :
    detailItems (individualValue i) = i.details.map detailValue := by
  have hfound := eq_of_members (members_individualValue i)
  simp only [List.mapIdx_cons, List.mapIdx_nil, List.cons.injEq, and_true] at hfound
  rw [detailItems, ← hfound.2.2, itemsOf]

theorem individualItems_toValue (r : Report) :
    individualItems r.toValue = r.individuals.map individualValue := by
  have hfound := eq_of_members (members_toValue r)
  simp only [List.mapIdx_cons, List.mapIdx_nil, List.cons.injEq, and_true] at hfound
  rw [individualItems, ← hfound, itemsOf]

theorem eachDetail_of_ofValue? {v : Value} {r : Report} (h : ofValue? v = some r) :
    EachDetail ReadsAs v r := by
  refine (forall₂_of_readList (ofValue?_eq_some h)).imp fun item i hi => ?_
  obtain ⟨-, -, hdetails⟩ := readIndividual_eq_some hi
  exact (forall₂_of_readList hdetails).imp fun _ _ => readsAs_of_readDetail

theorem eachDetail_toValue (r : Report) :
    EachDetail (fun item d => HasType item d.type) r.toValue r := by
  rw [EachDetail, individualItems_toValue]
  refine List.forall₂_map_left_iff.2 (List.forall₂_same.2 fun i _ => ?_)
  rw [detailItems_value]
  exact List.forall₂_map_left_iff.2 (List.forall₂_same.2 fun d _ => hasType_value d)

/-- A report that was read from a document is read again from what is written for it, as a value and
as JSON text, and its signers are the same. Each of its details is an account exactly if the
document gives it the type of one; the others are written with a type of their own. -/
theorem report_survives_document {v : Value} {r : Report} (h : ofValue? v = some r) :
    ofValue? r.toValue = some r ∧
      (Data.Json.parse (Data.Json.render r.toValue)).bind ofValue? = some r ∧
      (ofValue? r.toValue).map (fun again => signersOf (some again)) =
        some (signersOf (some r)) ∧
      EachDetail ReadsAs v r ∧ EachDetail (fun item d => HasType item d.type) r.toValue r := by
  have hback := ofValue?_toValue (storable_of_ofValue? h)
  refine ⟨hback, ?_, ?_, eachDetail_of_ofValue? h, eachDetail_toValue r⟩
  · rw [Data.Json.parse_render (textual_toValue r), Option.bind_some, hback]
  · rw [hback, Option.map_some]

/-! ### A report with more in its document than is read -/

/-- A document with members that are unknown or null, a detail of an unknown type, a certificate
without its padding, and a time with an offset and a fraction; one record is a list. -/
def sampleDocument : Value :=
  .table [("version", .int 2), (individualsKey, .list [
    .table [(timeKey, .text "2011-03-01T00:15:60.5+01:00"),
      (resultKey, .list [.text ResultCode.reportedValid, .null]),
      (detailsKey, .list [
        .table [(typeKey, .text "TimestampReport"), (certificatesKey, .bool true)],
        .table [(rolesKey, .list [.text "Clerk"]), (typeKey, .text accountType),
          (certificatesKey, .list [.table [(valueKey, .text "AAE")]])]])]])]

def sampleReport : Report :=
  ⟨[⟨{ major := ResultCode.reportedValid }, some ⟨⟨2011, 2, 28⟩, 23, 15, 60, 500000000⟩,
    [.other, .account ⟨[⟨none, some [0, 1]⟩], ["Clerk"]⟩]⟩]⟩

/-- What is written is not the document that was read, but it is read as the same report. -/
theorem sample_survives_document :
    ofValue? sampleDocument = some sampleReport ∧
      ofValue? sampleReport.toValue = some sampleReport ∧
      (Data.Json.parse (Data.Json.render sampleReport.toValue)).bind ofValue? =
        some sampleReport ∧
      (ofValue? sampleReport.toValue).map (fun again => signersOf (some again)) =
        some (signersOf (some sampleReport)) ∧
      EachDetail ReadsAs sampleDocument sampleReport ∧
      EachDetail (fun item d => HasType item d.type) sampleReport.toValue sampleReport := by
  have h : ofValue? sampleDocument = some sampleReport := by decide +kernel
  exact ⟨h, report_survives_document h⟩

end SignPost.Report
