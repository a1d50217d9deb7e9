import Mathlib.Data.List.Forall2
import SignPost.Client.Basic

/-!
# Every call is judged by its own answer

`calls_are_correlated`: over any transport and any sequence of calls, each call makes one request,
its own, and its result follows from the answer to that request alone, by the same checks in the
same order for all operations. An answer to another call, if its id can be told apart, is refused.

What a transport is asked is seen by passing everything through a second one that keeps a log
(`Transport.logged`); a run does not notice, and its log is what is stated about. The four kinds of
calls become one in `Exchange.received`: what is judged of an answer, whatever it is an answer to.
A single call is then one exchange whose outcome it returns (`exists_exchange`), and a run is the
list of these, by induction over the calls (`exists_exchanges`).
-/

namespace SignPost.Client

variable {σ : Type}

/-! ## What passes through a transport -/

/-- A request, and what came back for it. -/
inductive Exchange where
  | verify (request : VerifyRequest) (answer : Except Error VerifyResponse)
  | store (request : StoreRequest) (answer : Except Error StoreResponse)
  | retrieve (request : RetrieveRequest) (answer : Except Error RetrieveResponse)

/-- The id of the request. -/
def Exchange.sent : Exchange → String
  | .verify request _ => request.id
  | .store request _ => request.id
  | .retrieve request _ => request.id

/-- A transport with a log of all that it is asked and answers. -/
def Transport.logged (t : Transport σ) : Transport (σ × List Exchange) where
  verify request s :=
    let (answer, next) := t.verify request s.1
    (answer, next, s.2 ++ [.verify request answer])
  store request s :=
    let (answer, next) := t.store request s.1
    (answer, next, s.2 ++ [.store request answer])
  retrieve request s :=
    let (answer, next) := t.retrieve request s.1
    (answer, next, s.2 ++ [.retrieve request answer])

/-- The document that is sent for what a caller gives: XML if that is the media type that is told,
or none is. -/
inductive Sends : Upload → Document → Prop
  | untyped (content : Bytes) : Sends ⟨content, none⟩ (.xml content)
  | xml (content : Bytes) : Sends ⟨content, some "text/xml"⟩ (.xml content)
  | data (content : Bytes) {mediaType : String} (h : mediaType ≠ "text/xml") :
      Sends ⟨content, some mediaType⟩ (.data mediaType content)

theorem sends_document (u : Upload) : Sends u u.document := by
  obtain ⟨content, mediaType⟩ := u
  cases mediaType with
  | none => exact .untyped content
  | some mediaType =>
    by_cases h : mediaType = Document.xmlType
    · rw [h]
      exact .xml content
    · rw [Upload.document, Document.ofContent, if_neg h]
      exact .data content h

/-- The exchange is that of a call: its operation, and its request in every field. -/
inductive Asks : String × Call → Exchange → Prop
  | verify (nonce : String) {upload : Upload} {document : Document} (h : Sends upload document)
      (answer : Except Error VerifyResponse) :
      Asks (nonce, .verify upload none)
        (.verify ⟨requestId verifyPurpose nonce, document, none, false⟩ answer)
  | verifySigned (nonce : String) {upload original : Upload} {document signed : Document}
      (h : Sends upload document) (hsigned : Sends original signed)
      (answer : Except Error VerifyResponse) :
      Asks (nonce, .verify upload (some original))
        (.verify ⟨requestId verifyPurpose nonce, document, some signed, false⟩ answer)
  | verifySigners (nonce : String) {upload : Upload} {document : Document}
      (h : Sends upload document) (answer : Except Error VerifyResponse) :
      Asks (nonce, .verifySigners upload)
        (.verify ⟨requestId verifyPurpose nonce, document, none, true⟩ answer)
  | store (nonce : String) {upload : Upload} {document : Document} (h : Sends upload document)
      (answer : Except Error StoreResponse) :
      Asks (nonce, .store upload)
        (.store ⟨requestId signPurpose nonce, artifactProfile, document⟩ answer)
  | retrieve (nonce artifact : String) (answer : Except Error RetrieveResponse) :
      Asks (nonce, .retrieve artifact)
        (.retrieve ⟨requestId signPurpose nonce, artifactProfile, artifact⟩ answer)

/-- The id that a call is made under. -/
def callId : String × Call → String
  | (nonce, .verify _ _) => requestId verifyPurpose nonce
  | (nonce, .verifySigners _) => requestId verifyPurpose nonce
  | (nonce, .store _) => requestId signPurpose nonce
  | (nonce, .retrieve _) => requestId signPurpose nonce

theorem Asks.sent_eq {call : String × Call} {x : Exchange} (h : Asks call x) :
    x.sent = callId call := by
  cases h <;> rfl

theorem map_sent {calls : List (String × Call)} {exchanges : List Exchange}
    (h : List.Forall₂ Asks calls exchanges) :
    exchanges.map Exchange.sent = calls.map callId := by
  induction h with
  | nil => rfl
  | cons hasks _ ih => rw [List.map_cons, List.map_cons, hasks.sent_eq, ih]

/-! ## Answers -/

/-- What is judged of an answer. -/
structure Answer where
  requestId : Option String
  result : ResultStatus
  /-- The profile, in the answers that have one. -/
  profile : Option (Option String)
  /-- What the caller asked for, or why it is not there. -/
  content : Except Error Reply

def VerifyResponse.content (wantsReport : Bool) (r : VerifyResponse) : Except Error Reply :=
  if wantsReport then (Report.signersOf r.report).map .signers else r.verdict.map .verdict

def StoreResponse.content (r : StoreResponse) : Except Error Reply :=
  match r.storage with
  | some info => .ok (.stored info)
  | none => .error .missingStorageInfo

def RetrieveResponse.content (r : RetrieveResponse) : Except Error Reply :=
  match r.document with
  | some document => .ok (.content document.content)
  | none => .error .documentNotFound

/-- What came back, if the transport did not fail. -/
def Exchange.received : Exchange → Except Error Answer
  | .verify request answer =>
    answer.map fun r => ⟨r.requestId, r.result, none, r.content request.wantsReport⟩
  | .store _ answer => answer.map fun r => ⟨r.requestId, r.result, some r.profile, r.content⟩
  | .retrieve _ answer => answer.map fun r => ⟨r.requestId, r.result, some r.profile, r.content⟩

/-- What is checked of an answer. -/
inductive Check where
  | requestId
  | result
  | profile
  | content
deriving DecidableEq, Repr

/-- The checks in the order in which they decide. -/
def Check.order : List Check :=
  [.requestId, .result, .profile, .content]

/-- What a check decides by itself, if it decides. -/
def Answer.decision (sent : String) (a : Answer) : Check → Option (Except Error Reply)
  | .requestId =>
    match a.requestId with
    | none => some (.error (.transport .noResponseId))
    | some received =>
      if received = sent then none
      else some (.error (.transport (.foreignResponse received sent)))
  | .result =>
    if a.result.major = ResultCode.success then none
    else if a.result.minor = some ResultCode.notParseable then some (.error .notParseableDocument)
    else some (.error (.unsuccessfulResult a.result.major a.result.minor))
  | .profile =>
    match a.profile with
    | none => none
    | some profile =>
      if profile = some artifactProfile then none else some (.error (.unexpectedProfile profile))
  | .content => some a.content

/-- The result of a call is the failure of its transport, or what the first check decides about the
answer, of those that decide anything. -/
def Exchange.Judged (x : Exchange) (result : Except Error Reply) : Prop :=
  match x.received with
  | .error e => result = .error e
  | .ok a => Check.order.findSome? (a.decision x.sent) = some result

/-- What a call may return, and of which answer. -/
inductive Exchange.Grants : Exchange → Reply → Prop
  | verdict {request : VerifyRequest} {r : VerifyResponse} {minor : String}
      (hid : r.requestId = some request.id) (hmajor : r.result.major = ResultCode.success)
      (hplain : request.wantsReport = false) (hminor : r.result.minor = some minor) :
      Grants (.verify request (.ok r))
        (.verdict (minor = ResultCode.validSignature || minor = ResultCode.validSignatures))
  | signers {request : VerifyRequest} {r : VerifyResponse} {signers : List Report.Signer}
      (hid : r.requestId = some request.id) (hmajor : r.result.major = ResultCode.success)
      (hreport : request.wantsReport = true) (hsigners : Report.signersOf r.report = .ok signers) :
      Grants (.verify request (.ok r)) (.signers signers)
  | stored {request : StoreRequest} {r : StoreResponse} {info : StorageInfo}
      (hid : r.requestId = some request.id) (hmajor : r.result.major = ResultCode.success)
      (hprofile : r.profile = some artifactProfile) (hinfo : r.storage = some info) :
      Grants (.store request (.ok r)) (.stored info)
  | content {request : RetrieveRequest} {r : RetrieveResponse} {document : Document}
      (hid : r.requestId = some request.id) (hmajor : r.result.major = ResultCode.success)
      (hprofile : r.profile = some artifactProfile) (hdocument : r.document = some document) :
      Grants (.retrieve request (.ok r)) (.content document.content)

/-! ## One chain of checks -/

/-- The answer is of the profile that is asked of it, if one is. -/
def Answer.checkProfile (a : Answer) : Except Error Unit :=
  match a.profile with
  | none => .ok ()
  | some profile => Client.checkProfile profile

/-- The checks one after the other, as each operation makes them. -/
def Answer.judge (sent : String) (a : Answer) : Except Error Reply := do
  checkId sent a.requestId
  checkResult a.result
  a.checkProfile
  a.content

/-- What becomes of a call in the end. -/
def Exchange.outcome (x : Exchange) : Except Error Reply :=
  x.received.bind (Answer.judge x.sent)

/-- A check that may only refuse, as a decision. -/
def refusal : Except Error Unit → Option (Except Error Reply)
  | .ok () => none
  | .error e => some (.error e)

section

variable {sent : String} {a : Answer} {reply : Reply}

theorem decision_requestId : a.decision sent .requestId = refusal (checkId sent a.requestId) := by
  rw [Answer.decision]
  cases a.requestId with
  | none => rfl
  | some received =>
    dsimp only [checkId]
    split_ifs <;> rfl

theorem decision_result : a.decision sent .result = refusal (checkResult a.result) := by
  rw [Answer.decision, checkResult]
  split_ifs <;> rfl

theorem decision_profile : a.decision sent .profile = refusal a.checkProfile := by
  rw [Answer.decision, Answer.checkProfile]
  cases a.profile with
  | none => rfl
  | some profile =>
    dsimp only [checkProfile]
    split_ifs <;> rfl

theorem findSome?_cons_refusal {f : Check → Option (Except Error Reply)} {c : Check}
    {rest : List Check} {check : Except Error Unit} {result : Except Error Reply}
    (hc : f c = refusal check) (hrest : rest.findSome? f = some result) :
    (c :: rest).findSome? f = some (check.bind fun _ => result) := by
  cases check with
  | error e => rw [List.findSome?_cons_of_isSome (by rw [hc]; rfl), hc]; rfl
  | ok => rw [List.findSome?_cons_of_isNone (by rw [hc]; rfl), hrest]; rfl

/-- The first check that decides is the one at which the chain stops. -/
theorem findSome?_decision : Check.order.findSome? (a.decision sent) = some (a.judge sent) := by
  have hcontent : [Check.content].findSome? (a.decision sent) = some a.content := rfl
  exact findSome?_cons_refusal decision_requestId (findSome?_cons_refusal decision_result
    (findSome?_cons_refusal decision_profile hcontent))

theorem checkId_eq_ok {received : Option String} :
    checkId sent received = .ok () ↔ received = some sent := by
  cases received with
  | none => simp [checkId]
  | some id => by_cases h : id = sent <;> simp [checkId, h]

theorem checkResult_eq_ok {r : ResultStatus} :
    checkResult r = .ok () ↔ r.major = ResultCode.success := by
  rw [checkResult]
  split_ifs with hmajor hminor <;> simp [hmajor]

theorem checkProfile_eq_ok {profile : Option String} :
    checkProfile profile = .ok () ↔ profile = some artifactProfile := by
  rw [checkProfile]
  split_ifs with hprofile <;> simp [hprofile]

theorem bind_eq_ok {check : Except Error Unit} {result : Except Error Reply} :
    (check.bind fun _ => result) = .ok reply ↔ check = .ok () ∧ result = .ok reply := by
  cases check <;> simp [Except.bind]

theorem judge_eq_ok : a.judge sent = .ok reply ↔
    a.requestId = some sent ∧ a.result.major = ResultCode.success ∧ a.checkProfile = .ok () ∧
      a.content = .ok reply := by
  rw [← checkId_eq_ok, ← checkResult_eq_ok, ← bind_eq_ok, ← bind_eq_ok, ← bind_eq_ok]
  rfl

end

theorem Exchange.judged_outcome (x : Exchange) : x.Judged x.outcome := by
  rw [Judged, outcome]
  cases x.received with
  | error e => rfl
  | ok a => exact findSome?_decision

/-! ## What is returned -/

theorem VerifyResponse.content_eq_ok {r : VerifyResponse} {wantsReport : Bool} {reply : Reply} :
    r.content wantsReport = .ok reply ↔
      (wantsReport = false ∧ ∃ minor, r.result.minor = some minor ∧ reply =
        .verdict (minor = ResultCode.validSignature || minor = ResultCode.validSignatures)) ∨
      (wantsReport = true ∧ ∃ signers, Report.signersOf r.report = .ok signers ∧
        reply = .signers signers) := by
  cases wantsReport with
  | false =>
    cases hminor : r.result.minor <;> simp [content, verdict, hminor, Except.map, eq_comm]
  | true =>
    cases hsigners : Report.signersOf r.report <;> simp [content, hsigners, Except.map, eq_comm]

theorem StoreResponse.content_eq_ok {r : StoreResponse} {reply : Reply} :
    r.content = .ok reply ↔ ∃ info, r.storage = some info ∧ reply = .stored info := by
  cases hinfo : r.storage <;> simp [content, hinfo, eq_comm]

theorem RetrieveResponse.content_eq_ok {r : RetrieveResponse} {reply : Reply} :
    r.content = .ok reply ↔
      ∃ document, r.document = some document ∧ reply = .content document.content := by
  cases hdocument : r.document <;> simp [content, hdocument, eq_comm]

theorem Exchange.grants_of_outcome {x : Exchange} {reply : Reply} (h : x.outcome = .ok reply) :
    x.Grants reply := by
  match x with
  | .verify request (.ok r) =>
    obtain ⟨hid, hmajor, -, hcontent⟩ := judge_eq_ok.1 h
    rcases VerifyResponse.content_eq_ok.1 hcontent with
      ⟨hplain, minor, hminor, rfl⟩ | ⟨hreport, signers, hsigners, rfl⟩
    · exact .verdict hid hmajor hplain hminor
    · exact .signers hid hmajor hreport hsigners
  | .store request (.ok r) =>
    obtain ⟨hid, hmajor, hprofile, hcontent⟩ := judge_eq_ok.1 h
    obtain ⟨info, hinfo, rfl⟩ := StoreResponse.content_eq_ok.1 hcontent
    exact .stored hid hmajor (checkProfile_eq_ok.1 hprofile) hinfo
  | .retrieve request (.ok r) =>
    obtain ⟨hid, hmajor, hprofile, hcontent⟩ := judge_eq_ok.1 h
    obtain ⟨document, hdocument, rfl⟩ := RetrieveResponse.content_eq_ok.1 hcontent
    exact .content hid hmajor (checkProfile_eq_ok.1 hprofile) hdocument
  | .verify _ (.error e) | .store _ (.error e) | .retrieve _ (.error e) => cases h

theorem Exchange.Grants.outcome_eq {x : Exchange} {reply : Reply} (h : x.Grants reply) :
    x.outcome = .ok reply := by
  cases h with
  | verdict hid hmajor hplain hminor =>
    exact judge_eq_ok.2 ⟨hid, hmajor, rfl,
      VerifyResponse.content_eq_ok.2 (Or.inl ⟨hplain, _, hminor, rfl⟩)⟩
  | signers hid hmajor hreport hsigners =>
    exact judge_eq_ok.2 ⟨hid, hmajor, rfl,
      VerifyResponse.content_eq_ok.2 (Or.inr ⟨hreport, _, hsigners, rfl⟩)⟩
  | stored hid hmajor hprofile hinfo =>
    exact judge_eq_ok.2 ⟨hid, hmajor, checkProfile_eq_ok.2 hprofile,
      StoreResponse.content_eq_ok.2 ⟨_, hinfo, rfl⟩⟩
  | content hid hmajor hprofile hdocument =>
    exact judge_eq_ok.2 ⟨hid, hmajor, checkProfile_eq_ok.2 hprofile,
      RetrieveResponse.content_eq_ok.2 ⟨_, hdocument, rfl⟩⟩

theorem Exchange.outcome_eq_ok {x : Exchange} {reply : Reply} :
    x.outcome = .ok reply ↔ x.Grants reply :=
  ⟨grants_of_outcome, Grants.outcome_eq⟩

/-! ## One call -/

theorem outcome_verify (request : VerifyRequest) (answer : Except Error VerifyResponse) :
    (Exchange.verify request answer).outcome =
      (answer.bind (VerifyResponse.accept request.id)).bind
        (VerifyResponse.content request.wantsReport) := by
  cases answer with
  | error e => rfl
  | ok r =>
    simp only [Exchange.outcome, Exchange.received, Exchange.sent, Except.map, Except.bind,
      Answer.judge, VerifyResponse.accept]
    cases checkId request.id r.requestId with
    | error e => rfl
    | ok => cases checkResult r.result <;> rfl

theorem outcome_store (request : StoreRequest) (answer : Except Error StoreResponse) :
    (Exchange.store request answer).outcome =
      (answer.bind (StoreResponse.accept request.id)).map .stored := by
  cases answer with
  | error e => rfl
  | ok r =>
    simp only [Exchange.outcome, Exchange.received, Exchange.sent, Except.map, Except.bind,
      Answer.judge, Answer.checkProfile, StoreResponse.accept, StoreResponse.content]
    cases checkId request.id r.requestId with
    | error e => rfl
    | ok =>
      cases checkResult r.result with
      | error e => rfl
      | ok => cases checkProfile r.profile <;> cases r.storage <;> rfl

theorem outcome_retrieve (request : RetrieveRequest) (answer : Except Error RetrieveResponse) :
    (Exchange.retrieve request answer).outcome =
      (answer.bind fun r => (r.accept request.id).map Document.content).map .content := by
  cases answer with
  | error e => rfl
  | ok r =>
    simp only [Exchange.outcome, Exchange.received, Exchange.sent, Except.map, Except.bind,
      Answer.judge, Answer.checkProfile, RetrieveResponse.accept, RetrieveResponse.content]
    cases checkId request.id r.requestId with
    | error e => rfl
    | ok =>
      cases checkResult r.result with
      | error e => rfl
      | ok => cases checkProfile r.profile <;> cases r.document <;> rfl

theorem map_bind {α β : Type} (x : Except Error α) (f : α → Except Error β) (g : β → Reply) :
    (x.bind f).map g = x.bind fun a => (f a).map g := by
  cases x <;> rfl

/-- A call is one exchange, its own, and returns the outcome of it. -/
theorem exists_exchange (t : Transport σ) (nonce : String) (call : Call) (s : σ) :
    ∃ x : Exchange, Asks (nonce, call) x ∧ (perform t nonce call s).1 = x.outcome ∧
      ∀ log, perform t.logged nonce call (s, log) =
        ((perform t nonce call s).1, (perform t nonce call s).2, log ++ [x]) := by
  -- what is logged is what the transport is asked, so both runs of a call are the same computation
  cases call with
  | verify document signed =>
    let request := verifyRequest nonce document signed false
    have hasks : Asks (nonce, .verify document signed)
        (.verify request (t.verify request s).1) := by
      cases signed with
      | none => exact .verify nonce (sends_document document) _
      | some original =>
        exact .verifySigned nonce (sends_document document) (sends_document original) _
    refine ⟨.verify request (t.verify request s).1, hasks, ?_, fun _ => rfl⟩
    rw [outcome_verify]
    exact map_bind ((t.verify request s).1.bind (VerifyResponse.accept request.id)) _ _
  | verifySigners document =>
    let request := verifyRequest nonce document none true
    refine ⟨.verify request (t.verify request s).1,
      .verifySigners nonce (sends_document document) _, ?_, fun _ => rfl⟩
    rw [outcome_verify]
    exact map_bind ((t.verify request s).1.bind (VerifyResponse.accept request.id)) _ _
  | store document =>
    let request : StoreRequest := ⟨requestId signPurpose nonce, artifactProfile, document.document⟩
    exact ⟨.store request (t.store request s).1, .store nonce (sends_document document) _,
      (outcome_store ..).symm, fun _ => rfl⟩
  | retrieve artifact =>
    let request : RetrieveRequest := ⟨requestId signPurpose nonce, artifactProfile, artifact⟩
    exact ⟨.retrieve request (t.retrieve request s).1, .retrieve .., (outcome_retrieve ..).symm,
      fun _ => rfl⟩

/-! ## A run -/

/-- A run of calls is a list of exchanges, one for each call in order. -/
theorem exists_exchanges (t : Transport σ) (calls : List (String × Call)) (s : σ) :
    ∃ exchanges : List Exchange, List.Forall₂ Asks calls exchanges ∧
      (performAll t calls s).1 = exchanges.map Exchange.outcome ∧
      ∀ log, performAll t.logged calls (s, log) =
        ((performAll t calls s).1, (performAll t calls s).2, log ++ exchanges) := by
  induction calls generalizing s with
  | nil => exact ⟨[], .nil, rfl, fun log => by rw [List.append_nil]; rfl⟩
  | cons head rest ih =>
    -- the rest starts in the state that the first call leaves, and with its exchange in the log
    obtain ⟨nonce, call⟩ := head
    obtain ⟨x, hasks, hresult, hlogged⟩ := exists_exchange t nonce call s
    obtain ⟨xs, hasksRest, hresults, hloggedRest⟩ := ih (perform t nonce call s).2
    refine ⟨x :: xs, .cons hasks hasksRest, ?_, fun log => ?_⟩
    · rw [List.map_cons, ← hresult, ← hresults]
      rfl
    · rw [performAll, hlogged]
      dsimp only
      rw [hloggedRest, List.append_assoc]
      rfl

/-- An answer with the id of another request is refused, whatever else it says. -/
theorem Exchange.outcome_of_foreign {x : Exchange} {a : Answer} {id : String}
    (ha : x.received = .ok a) (hid : a.requestId = some id) (hforeign : id ≠ x.sent) :
    x.outcome = .error (.transport (.foreignResponse id x.sent)) := by
  rw [outcome, ha]
  change a.judge x.sent = _
  rw [Answer.judge, hid, checkId, if_neg hforeign]
  rfl

/-- Every call makes one request, its own, and returns what the checks decide about the answer to
it; it returns something if and only if the answer grants it. If no two calls are made under one
id, an answer that repeats the id of another call is refused as such. -/
theorem calls_are_correlated (t : Transport σ) (calls : List (String × Call)) (s : σ) :
    ∃ exchanges : List Exchange,
      performAll t.logged calls (s, []) =
        ((performAll t calls s).1, (performAll t calls s).2, exchanges) ∧
      List.Forall₂ Asks calls exchanges ∧
      List.Forall₂ Exchange.Judged exchanges (performAll t calls s).1 ∧
      List.Forall₂ (fun x result => ∀ reply, result = .ok reply ↔ x.Grants reply) exchanges
        (performAll t calls s).1 ∧
      ((calls.map callId).Nodup → ∀ (i j : Nat) (other : String × Call) (x : Exchange) (a : Answer),
        exchanges[i]? = some x → calls[j]? = some other → i ≠ j →
        x.received = .ok a → a.requestId = some (callId other) →
          (performAll t calls s).1[i]? =
            some (.error (.transport (.foreignResponse (callId other) x.sent)))) := by
  obtain ⟨exchanges, hasks, hresults, hlogged⟩ := exists_exchanges t calls s
  refine ⟨exchanges, hlogged [], hasks, ?_, ?_, ?_⟩
  · rw [hresults, List.forall₂_map_right_iff]
    exact List.forall₂_same.2 fun x _ => x.judged_outcome
  · rw [hresults, List.forall₂_map_right_iff]
    exact List.forall₂_same.2 fun x _ _ => Exchange.outcome_eq_ok
  · intro hnodup i j other x a hx hother hij ha hid
    have hforeign : callId other ≠ x.sent := by
      intro hsame
      have hi : (calls.map callId)[i]? = some x.sent := by
        rw [← map_sent hasks, List.getElem?_map, hx]
        rfl
      have hj : (calls.map callId)[j]? = some x.sent := by
        rw [List.getElem?_map, hother, ← hsame]
        rfl
      obtain ⟨hlt, -⟩ := List.getElem?_eq_some_iff.1 hi
      exact hij ((List.getElem?_inj hlt hnodup).1 (hi.trans hj.symm))
    rw [hresults, List.getElem?_map, hx, Option.map_some,
      Exchange.outcome_of_foreign ha hid hforeign]

section sample

def storage : StorageInfo :=
  ⟨"a", ⟨⟨2024, 1, 1⟩, 0, 0, 0, 0⟩, ⟨⟨2024, 1, 2⟩, 0, 0, 0, 0⟩⟩

/-- A service that does all it is asked and answers with the first id that it ever saw. -/
def replaying : Transport (Option String) where
  verify request first :=
    let id := first.getD request.id
    (.ok ⟨some id, { major := ResultCode.success, minor := some ResultCode.validSignature }, none⟩,
      some id)
  store request first :=
    let id := first.getD request.id
    (.ok ⟨some id, some artifactProfile, { major := ResultCode.success }, some storage⟩, some id)
  retrieve request first :=
    let id := first.getD request.id
    (.ok ⟨some id, some artifactProfile, { major := ResultCode.success }, some (.xml [])⟩, some id)

/-- Of three calls, the first has its answer. The answers to the others have its id and are refused,
be it a call for the same purpose or not. -/
theorem replayed_answers_are_refused :
    let calls :=
      [("1", Call.store ⟨[], none⟩), ("2", .retrieve "a"), ("3", .verify ⟨[], none⟩ none)]
    let results := (performAll replaying calls none).1
    results[0]? = some (.ok (.stored storage)) ∧
      results[1]? = some (.error (.transport
        (.foreignResponse "dss-sign-request-1" "dss-sign-request-2"))) ∧
      results[2]? = some (.error (.transport
        (.foreignResponse "dss-sign-request-1" "dss-verify-request-3"))) := by
  intro calls results
  obtain ⟨exchanges, hlogged, -, -, -, hforeign⟩ := calls_are_correlated replaying calls none
  have hexchanges : exchanges = (performAll replaying.logged calls (none, [])).2.2 := by
    rw [hlogged]
  subst hexchanges
  have hnodup : (calls.map callId).Nodup := by decide +kernel
  have hfirst : callId ("1", .store ⟨[], none⟩) = "dss-sign-request-1" := by decide +kernel
  have hsecond : requestId signPurpose "2" = "dss-sign-request-2" := by decide +kernel
  have hthird : requestId verifyPurpose "3" = "dss-verify-request-3" := by decide +kernel
  refine ⟨?_, ?_, ?_⟩
  · decide +kernel
  · rw [← hfirst, ← hsecond]
    exact hforeign hnodup 1 0 _ _ _ rfl rfl (by decide) rfl rfl
  · rw [← hfirst, ← hthird]
    exact hforeign hnodup 2 0 _ _ _ rfl rfl (by decide) rfl rfl

end sample

end SignPost.Client
