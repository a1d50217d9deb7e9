import SignPost.Report.Basic
import SignPost.Proofs.Signing.Signer
import Mathlib.Data.List.Forall2
import Mathlib.Logic.Relation

/-!
# The signers of a verification report

`signers_extracted`: the signers of a report are those of its successful individual reports, one for
each and in their order, and there are none at all if one of them does not name its signer
(`Names`). The individual reports are taken one after the other: one without success is passed over,
one with success gives its signer or ends the reading (`signers_skip`, `signers_read`,
`signers_missing`). What is not looked at may be edited: reports without success, and all that
stands behind the first account and behind its first certificate (`Edit`).
-/

namespace SignPost.Report

/-- The first account of an individual report. -/
def FirstAccount (i : Individual) (a : Account) : Prop :=
  ∃ front rest, i.details = front ++ .account a :: rest ∧ ∀ d ∈ front, d = .other

/-- An account begins with a certificate that is there and can be read. -/
def Account.StartsWith (a : Account) (c : Certificate) : Prop :=
  ∃ entry more bytes, a.certificates = entry :: more ∧ entry.value = some bytes ∧
    Certificate.ofDer bytes = .ok c

/-- An individual report names a signer: its first account begins with the certificate of the
signer, and the role is the first one that the same account claims. -/
def Names (i : Individual) (s : Signer) : Prop :=
  ∃ a, FirstAccount i a ∧ a.StartsWith s.certificate ∧ s.signingTime = i.signingTime ∧
    s.role = a.claimedRoles.head?

/-- The first accounts of all successful reports begin with a certificate. -/
def AllNamed (individuals : List Individual) : Prop :=
  ∀ i ∈ individuals, i.result.isSuccess = true → ∃ a c, FirstAccount i a ∧ a.StartsWith c

variable {i : Individual} {a : Account} {s : Signer} {rest : List Individual}

/-! ## One report -/

theorem account?_eq_some : i.account? = some a ↔ FirstAccount i a := by
  have hother : ∀ d : Detail, d.account? = none ↔ d = .other := by
    intro d
    cases d <;> simp [Detail.account?]
  unfold Individual.account? FirstAccount
  rw [List.findSome?_eq_some_iff]
  constructor
  · rintro ⟨front, d, rest, hdetails, hd, hfront⟩
    cases d with
    | other => cases hd
    | account a' =>
      obtain rfl := Option.some.inj hd
      exact ⟨front, rest, hdetails, fun d hd => (hother d).1 (hfront d hd)⟩
  · rintro ⟨front, rest, hdetails, hfront⟩
    exact ⟨front, .account a, rest, hdetails, rfl, fun d hd => (hother d).2 (hfront d hd)⟩

theorem certificate?_eq_some {c : Certificate} :
    a.certificate? = some c ↔ a.StartsWith c := by
  have hread : ∀ bytes, (Certificate.ofDer bytes).toOption = some c ↔
      Certificate.ofDer bytes = .ok c := by
    intro bytes
    cases Certificate.ofDer bytes <;> simp [Except.toOption]
  unfold Account.certificate? Account.StartsWith
  simp only [Option.bind_eq_bind, Option.bind_eq_some_iff, hread, List.head?_eq_some_iff]
  constructor
  · rintro ⟨entry, ⟨more, hmore⟩, bytes, hbytes, hc⟩
    exact ⟨entry, more, bytes, hmore, hbytes, hc⟩
  · rintro ⟨entry, more, bytes, hmore, hbytes, hc⟩
    exact ⟨entry, ⟨more, hmore⟩, bytes, hbytes, hc⟩

theorem signer?_eq_some : i.signer? = some s ↔ Names i s := by
  unfold Individual.signer? Names
  simp only [Option.bind_eq_bind, Option.bind_eq_some_iff, account?_eq_some,
    certificate?_eq_some, Option.some.injEq]
  constructor
  · rintro ⟨a, haccount, c, hc, rfl⟩
    exact ⟨a, haccount, hc, rfl, rfl⟩
  · rintro ⟨a, haccount, hc, htime, hrole⟩
    refine ⟨a, haccount, s.certificate, hc, ?_⟩
    rw [← htime, ← hrole]

theorem exists_names : (∃ s, Names i s) ↔ ∃ a c, FirstAccount i a ∧ a.StartsWith c := by
  constructor
  · rintro ⟨s, a, haccount, hc, -⟩
    exact ⟨a, s.certificate, haccount, hc⟩
  · rintro ⟨a, c, haccount, hc⟩
    exact ⟨⟨c, i.signingTime, a.claimedRoles.head?⟩, a, haccount, hc, rfl, rfl⟩

/-! ## One report after the other -/

theorem signers_nil : signers ⟨[]⟩ = .ok [] := rfl

theorem signers_skip (h : i.result.isSuccess = false) :
    signers ⟨i :: rest⟩ = signers ⟨rest⟩ := by
  simp only [signers, successes, List.filter_cons, h]
  rfl

theorem signers_missing (h : i.result.isSuccess = true) (hs : i.signer? = none) :
    signers ⟨i :: rest⟩ = .error .missingSignerCertificate := by
  simp only [signers, successes, List.filter_cons, h, if_true, List.mapM_cons, hs]
  rfl

theorem signers_read (h : i.result.isSuccess = true) (hs : i.signer? = some s) :
    signers ⟨i :: rest⟩ = (signers ⟨rest⟩).map (s :: ·) := by
  simp only [signers, successes, List.filter_cons, h, if_true, List.mapM_cons, hs]
  cases (rest.filter fun i => i.result.isSuccess).mapM Individual.signer? <;> rfl

theorem successes_cons :
    successes ⟨i :: rest⟩ =
      if i.result.isSuccess then i :: successes ⟨rest⟩ else successes ⟨rest⟩ :=
  List.filter_cons

/-- The signers of a report are those that its successful individual reports name, in order. -/
theorem signers_eq_ok {individuals : List Individual} {l : List Signer} :
    signers ⟨individuals⟩ = .ok l ↔ List.Forall₂ Names (successes ⟨individuals⟩) l := by
  induction individuals generalizing l with
  | nil => simp [signers_nil, successes, eq_comm]
  | cons i rest ih =>
    cases hsuccess : i.result.isSuccess with
    | false =>
      rw [signers_skip hsuccess, successes_cons, if_neg (by simp [hsuccess])]
      exact ih
    | true =>
      rw [successes_cons, if_pos hsuccess, List.forall₂_cons_left_iff]
      cases hs : i.signer? with
      | none =>
        rw [signers_missing hsuccess hs]
        constructor
        · intro h
          cases h
        · rintro ⟨s, more, hnames, -⟩
          rw [signer?_eq_some.2 hnames] at hs
          cases hs
      | some s =>
        rw [signers_read hsuccess hs]
        constructor
        · intro h
          cases hrest : signers ⟨rest⟩ with
          | error e =>
            rw [hrest] at h
            cases h
          | ok more =>
            rw [hrest] at h
            obtain rfl := Except.ok.inj h
            exact ⟨s, more, signer?_eq_some.1 hs, ih.1 hrest, rfl⟩
        · rintro ⟨s', more, hnames, hmore, rfl⟩
          rw [signer?_eq_some.2 hnames] at hs
          rw [ih.2 hmore, ← Option.some.inj hs]
          rfl

theorem allNamed_cons :
    AllNamed (i :: rest) ↔ (i.result.isSuccess = true → ∃ s, Names i s) ∧ AllNamed rest := by
  simp only [AllNamed, List.forall_mem_cons, exists_names]

/-- Reading the signers ends early exactly where a successful report names none. -/
theorem signers_eq_or (individuals : List Individual) :
    (AllNamed individuals ∧ ∃ l, signers ⟨individuals⟩ = .ok l) ∨
      (¬ AllNamed individuals ∧ signers ⟨individuals⟩ = .error .missingSignerCertificate) := by
  induction individuals with
  | nil => exact Or.inl ⟨fun i hi => absurd hi List.not_mem_nil, [], rfl⟩
  | cons i rest ih =>
    cases hsuccess : i.result.isSuccess with
    | false =>
      have hcons : AllNamed (i :: rest) ↔ AllNamed rest := by
        rw [allNamed_cons, hsuccess]
        simp
      rw [signers_skip hsuccess, hcons]
      exact ih
    | true =>
      cases hs : i.signer? with
      | none =>
        refine Or.inr ⟨fun hall => ?_, signers_missing hsuccess hs⟩
        obtain ⟨s, hnames⟩ := (allNamed_cons.1 hall).1 hsuccess
        rw [signer?_eq_some.2 hnames] at hs
        cases hs
      | some s =>
        have hnames : ∃ s, Names i s := ⟨s, signer?_eq_some.1 hs⟩
        rw [signers_read hsuccess hs, allNamed_cons]
        rcases ih with ⟨hall, l, hl⟩ | ⟨hnot, herror⟩
        · refine Or.inl ⟨⟨fun _ => hnames, hall⟩, s :: l, ?_⟩
          rw [hl]
          rfl
        · refine Or.inr ⟨fun hall => hnot hall.2, ?_⟩
          rw [herror]
          rfl

/-! ## What is not looked at -/

/-- One change to a list of reports that leaves its signers alone: a report without success comes or
goes, or a report has something else behind its first account, or behind the first certificate of an
account. -/
inductive Edit : List Individual → List Individual → Prop
  | insert (before after : List Individual) {i : Individual} (h : i.result.isSuccess = false) :
    Edit (before ++ after) (before ++ i :: after)
  | delete (before after : List Individual) {i : Individual} (h : i.result.isSuccess = false) :
    Edit (before ++ i :: after) (before ++ after)
  | details (before after : List Individual) (result : ResultStatus) (time : Option Time.Moment)
    (front : List Detail) (a : Account) (more more' : List Detail) :
    Edit (before ++ ⟨result, time, front ++ .account a :: more⟩ :: after)
      (before ++ ⟨result, time, front ++ .account a :: more'⟩ :: after)
  | certificates (before after : List Individual) (result : ResultStatus)
    (time : Option Time.Moment) (front last : List Detail) (entry : CertificateEntry)
    (more more' : List CertificateEntry) (roles : List String) :
    Edit (before ++ ⟨result, time, front ++ .account ⟨entry :: more, roles⟩ :: last⟩ :: after)
      (before ++ ⟨result, time, front ++ .account ⟨entry :: more', roles⟩ :: last⟩ :: after)

/-- What stands before does not matter to whether two lists of reports have the same signers. -/
theorem signers_append_congr {xs ys : List Individual} (before : List Individual)
    (h : signers ⟨xs⟩ = signers ⟨ys⟩) :
    signers ⟨before ++ xs⟩ = signers ⟨before ++ ys⟩ := by
  induction before with
  | nil => exact h
  | cons i before ih =>
    rw [List.cons_append, List.cons_append]
    cases hsuccess : i.result.isSuccess with
    | false => rw [signers_skip hsuccess, signers_skip hsuccess, ih]
    | true =>
      cases hs : i.signer? with
      | none => rw [signers_missing hsuccess hs, signers_missing hsuccess hs]
      | some s => rw [signers_read hsuccess hs, signers_read hsuccess hs, ih]

theorem signers_cons_congr {i' : Individual} (hresult : i'.result = i.result)
    (hsigner : i'.signer? = i.signer?) : signers ⟨i' :: rest⟩ = signers ⟨i :: rest⟩ := by
  have hsame : i'.result.isSuccess = i.result.isSuccess := by rw [hresult]
  cases hsuccess : i.result.isSuccess with
  | false => rw [signers_skip hsuccess, signers_skip (hsame.trans hsuccess)]
  | true =>
    rw [hsuccess] at hsame
    cases hs : i.signer? with
    | none => rw [signers_missing hsuccess hs, signers_missing hsame (hsigner.trans hs)]
    | some s => rw [signers_read hsuccess hs, signers_read hsame (hsigner.trans hs)]

theorem account?_append (result : ResultStatus) (time : Option Time.Moment)
    (front more : List Detail) (a : Account) :
    Individual.account? ⟨result, time, front ++ .account a :: more⟩ =
      (front.findSome? Detail.account?).or (some a) := by
  rw [Individual.account?, List.findSome?_append, List.findSome?_cons]
  rfl

theorem Edit.signers_eq {xs ys : List Individual} (h : Edit xs ys) :
    signers ⟨ys⟩ = signers ⟨xs⟩ := by
  cases h with
  | insert before after h => exact signers_append_congr before (signers_skip h)
  | delete before after h => exact signers_append_congr before (signers_skip h).symm
  | details before after result time front a more more' =>
    refine signers_append_congr before (signers_cons_congr rfl ?_)
    rw [Individual.signer?, Individual.signer?, account?_append, account?_append]
  | certificates before after result time front last entry more more' roles =>
    refine signers_append_congr before (signers_cons_congr rfl ?_)
    rw [Individual.signer?, Individual.signer?, account?_append, account?_append]
    -- an account before the changed one is the first; otherwise the changed one is
    cases front.findSome? Detail.account? with
    | none => rfl
    | some first => rfl

theorem signers_eq_of_edits {xs ys : List Individual} (h : Relation.ReflTransGen Edit xs ys) :
    signers ⟨ys⟩ = signers ⟨xs⟩ := by
  induction h with
  | refl => rfl
  | tail _ hedit ih => exact hedit.signers_eq.trans ih

/-! ## The signers -/

/-- Signers are read of a report exactly if the first account of each successful individual report
begins with a certificate, and else the failure is that one is missing. They are those that the
successful reports name, one for each and in order; no other report, and nothing behind the first
account of a report and the first certificate of it, is looked at. -/
theorem signers_extracted :
    signersOf none = .ok [] ∧ ∀ r : Report,
      ((∃ l, signersOf (some r) = .ok l) ↔ AllNamed r.individuals) ∧
      (∀ l, signersOf (some r) = .ok l ↔ List.Forall₂ Names r.successes l) ∧
      (¬ AllNamed r.individuals → signersOf (some r) = .error .missingSignerCertificate) ∧
      (∀ r' : Report, Relation.ReflTransGen Edit r.individuals r'.individuals →
        signersOf (some r') = signersOf (some r)) ∧
      ((∀ i ∈ r.individuals, i.result.isSuccess = false) → signersOf (some r) = .ok []) := by
  refine ⟨rfl, fun r => ⟨?_, fun l => signers_eq_ok, ?_, fun r' h => signers_eq_of_edits h, ?_⟩⟩
  · constructor
    · rintro ⟨l, hl⟩
      rcases signers_eq_or r.individuals with ⟨hall, -⟩ | ⟨-, herror⟩
      · exact hall
      · have hread : signers r = .ok l := hl
        rw [herror] at hread
        cases hread
    · intro hall
      rcases signers_eq_or r.individuals with ⟨-, hl⟩ | ⟨hnot, -⟩
      · exact hl
      · exact absurd hall hnot
  · intro hnot
    rcases signers_eq_or r.individuals with ⟨hall, -⟩ | ⟨-, herror⟩
    · exact absurd hall hnot
    · exact herror
  · intro hnone
    have hsuccesses : r.successes = [] := by
      refine List.filter_eq_nil_iff.2 fun i hi => ?_
      simp [hnone i hi]
    refine signers_eq_ok.2 ?_
    rw [hsuccesses]
    exact List.Forall₂.nil

section sample

open Signing

/-- A report without success, though it has an account. -/
def failedReport : Individual :=
  ⟨{ major := "urn:oasis:names:tc:dss:1.0:detail:invalid" }, none, [.account ⟨[], ["Manager"]⟩]⟩

/-- A valid report of a signer with two roles. -/
def validReport (der : Bytes) (more : List CertificateEntry) (last : List Detail) : Individual :=
  ⟨{ major := ResultCode.reportedValid }, none,
    [.other] ++ .account ⟨⟨none, some der⟩ :: more, ["Clerk", "Manager"]⟩ :: last⟩

def bareReport : Individual :=
  ⟨{ major := ResultCode.success }, none, [.account ⟨[⟨some "CN=Root", none⟩], []⟩]⟩

theorem names_validReport {der : Bytes} {c : Certificate} (h : Certificate.ofDer der = .ok c) :
    Names (validReport der [] []) ⟨c, none, some "Clerk"⟩ := by
  refine ⟨⟨[⟨none, some der⟩], ["Clerk", "Manager"]⟩, ⟨[.other], [], rfl, ?_⟩,
    ⟨⟨none, some der⟩, [], der, rfl, rfl, h⟩, rfl, rfl⟩
  simp

theorem not_allNamed_bareReport (der : Bytes) :
    ¬ AllNamed [validReport der [] [], bareReport] := by
  intro hall
  obtain ⟨a, c, haccount, entry, more, bytes, hentry, hvalue, -⟩ :=
    hall bareReport (by simp) (by decide)
  have hfirst := account?_eq_some.2 haccount
  obtain rfl : (⟨[⟨some "CN=Root", none⟩], []⟩ : Account) = a := Option.some.inj hfirst
  obtain ⟨rfl, -⟩ := List.cons.inj hentry
  cases hvalue

/-- A failed report and what stands behind the used entries do not count; a successful report
without the certificate of its signer leaves no signers. -/
theorem sample_signers_extracted :
    signersOf (some ⟨[failedReport, validReport Sample.der [] []]⟩) =
        .ok [⟨Sample.leaf, none, some "Clerk"⟩] ∧
      signersOf (some ⟨[validReport Sample.der [⟨none, some [0]⟩] [.account {}]]⟩) =
        .ok [⟨Sample.leaf, none, some "Clerk"⟩] ∧
      signersOf (some ⟨[validReport Sample.der [] [], bareReport]⟩) =
        .error .missingSignerCertificate ∧
      signersOf (some ⟨[failedReport]⟩) = .ok [] := by
  obtain ⟨-, hreport⟩ := signers_extracted
  obtain ⟨-, hsigners, -, hedits, -⟩ := hreport ⟨[failedReport, validReport Sample.der [] []]⟩
  obtain ⟨-, -, hmissing, -, -⟩ := hreport ⟨[validReport Sample.der [] [], bareReport]⟩
  obtain ⟨-, -, -, -, hnone⟩ := hreport ⟨[failedReport]⟩
  have hsuccesses : successes ⟨[failedReport, validReport Sample.der [] []]⟩ =
      [validReport Sample.der [] []] := by
    rw [successes_cons, successes_cons, if_neg (by decide), if_pos (by decide)]
    rfl
  rw [hsuccesses] at hsigners
  have hread := (hsigners [⟨Sample.leaf, none, some "Clerk"⟩]).2
    (List.Forall₂.cons (names_validReport Sample.ofDer_der) List.Forall₂.nil)
  refine ⟨hread, ?_, hmissing (not_allNamed_bareReport Sample.der), hnone (by decide)⟩
  rw [← hread]
  apply hedits
  have hdelete : Edit [failedReport, validReport Sample.der [] []]
      [validReport Sample.der [] []] :=
    Edit.delete [] [validReport Sample.der [] []] (by decide)
  have hdetails : Edit [validReport Sample.der [] []]
      [validReport Sample.der [] [.account {}]] :=
    Edit.details [] [] _ _ [.other] _ [] [.account {}]
  have hcertificates : Edit [validReport Sample.der [] [.account {}]]
      [validReport Sample.der [⟨none, some [0]⟩] [.account {}]] :=
    Edit.certificates [] [] _ _ [.other] [.account {}] _ [] [⟨none, some [0]⟩] _
  exact ((Relation.ReflTransGen.single hdelete).tail hdetails).tail hcertificates

end sample

end SignPost.Report
