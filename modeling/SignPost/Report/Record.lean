import SignPost.Data.Value
import SignPost.Report.Basic
import SignPost.Text.Base64
import SignPost.Time.Rfc3339

/-!
# Verification reports as documents

A report is read from structured data and written to it. A record is a table of named members, of
which unknown ones do not count, or a list of its members in order. Optional members may be null or
missing, and a missing list is empty. Writing leaves out what is absent.
-/

namespace SignPost.Report

open Data (Value Entries)
open Time (Moment)

/-! ## Records -/

def members (names : List String) : Value → Option (List (Option Value))
  | .table entries => some (names.map (Entries.get? entries))
  | .list items =>
    if items.length ≤ names.length then
      some (items.map some ++ List.replicate (names.length - items.length) none)
    else none
  | _ => none

def readText : Value → Option String
  | .text s => some s
  | _ => none

def readOptional {α : Type} (read : Value → Option α) : Option Value → Option (Option α)
  | none => some none
  | some .null => some none
  | some v => (read v).map some

def readList {α : Type} (read : Value → Option α) : Option Value → Option (List α)
  | none => some []
  | some (.list items) => items.mapM read
  | some _ => none

/-! ## Reading -/

def readBytes (v : Value) : Option Bytes :=
  (readText v).bind Base64.decodeOpen?

def readMoment (v : Value) : Option Moment :=
  (readText v).bind Moment.parse

def majorKey : String := "resultMajor"
def minorKey : String := "resultMinor"
def messageKey : String := "resultMessage"
def subjectKey : String := "subject"
def valueKey : String := "certificateValue"
def certificatesKey : String := "certificateValidity"
def rolesKey : String := "claimedRoles"
def typeKey : String := "type"
def resultKey : String := "result"
def timeKey : String := "signingTime"
def detailsKey : String := "details"
def individualsKey : String := "individualReports"

def accountType : String := "DetailedSignatureReport"

def otherType : String := "Other"

def readResult (v : Value) : Option ResultStatus := do
  match ← members [majorKey, minorKey, messageKey] v with
  | [some major, minor, message] =>
    return ⟨← readText major, ← readOptional readText minor, ← readOptional readText message⟩
  | _ => none

def readCertificate (v : Value) : Option CertificateEntry := do
  match ← members [subjectKey, valueKey] v with
  | [subject, value] => return ⟨← readOptional readText subject, ← readOptional readBytes value⟩
  | _ => none

def readAccount (v : Value) : Option Account := do
  match ← members [certificatesKey, rolesKey] v with
  | [certificates, roles] =>
    return ⟨← readList readCertificate certificates, ← readList readText roles⟩
  | _ => none

/-- Reads a detail by its type, which is a member of a table or the first item of a list. -/
def readDetail : Value → Option Detail
  | .table entries =>
    match Entries.get? entries typeKey with
    | some (.text type) =>
      if type = accountType then (readAccount (.table entries)).map .account else some .other
    | _ => none
  | .list (.text type :: items) =>
    if type = accountType then (readAccount (.list items)).map .account
    else if items.isEmpty then some .other
    else none
  | _ => none

def readIndividual (v : Value) : Option Individual := do
  match ← members [resultKey, timeKey, detailsKey] v with
  | [some result, time, details] =>
    return ⟨← readResult result, ← readOptional readMoment time, ← readList readDetail details⟩
  | _ => none

def ofValue? (v : Value) : Option Report := do
  match ← members [individualsKey] v with
  | [individuals] => return ⟨← readList readIndividual individuals⟩
  | _ => none

/-! ## Writing -/

def member {α : Type} (key : String) (write : α → Value) : Option α → Entries
  | some a => [(key, write a)]
  | none => []

def resultValue (r : ResultStatus) : Value :=
  .table ((majorKey, .text r.major) :: member minorKey .text r.minor ++
    member messageKey .text r.message)

def certificateValue (e : CertificateEntry) : Value :=
  .table (member subjectKey .text e.subject ++
    member valueKey (fun bytes => .text (Base64.encode bytes)) e.value)

def detailValue : Detail → Value
  | .account a =>
    .table [(typeKey, .text accountType),
      (certificatesKey, .list (a.certificates.map certificateValue)),
      (rolesKey, .list (a.claimedRoles.map .text))]
  | .other => .table [(typeKey, .text otherType)]

/-- What is reported about one signature as a value. -/
def individualValue (i : Individual) : Value :=
  .table ((resultKey, resultValue i.result) ::
    member timeKey (fun t : Moment => .text t.stored) i.signingTime ++
    [(detailsKey, .list (i.details.map detailValue))])

def toValue (r : Report) : Value :=
  .table [(individualsKey, .list (r.individuals.map individualValue))]

end SignPost.Report
