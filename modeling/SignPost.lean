import SignPost.Client.Basic
import SignPost.Data.Json.Printer
import SignPost.Report.Record
import SignPost.Request.Basic
import SignPost.Request.Signer
import SignPost.Response.Basic
import SignPost.Response.Processor
import SignPost.Settings.Source
import SignPost.Proofs.Form.UrlEncoded
import SignPost.Proofs.Text.Base64
import SignPost.Proofs.Text.Decimal
import SignPost.Proofs.Service.SignedList
import SignPost.Proofs.Certificate.Reading
import SignPost.Proofs.Service.Signature
import SignPost.Proofs.Service.Canonical
import SignPost.Proofs.Signing.Validation
import SignPost.Proofs.Service.Verifier
import SignPost.Proofs.Response.Accepted
import SignPost.Proofs.Signing.Signer
import SignPost.Proofs.Response.Authentic
import SignPost.Proofs.Request.Fields
import SignPost.Proofs.Response.Honest
import SignPost.Proofs.Request.Signer
import SignPost.Proofs.Response.Coverage
import SignPost.Proofs.Response.Exclusive
import SignPost.Proofs.Response.Order
import SignPost.Proofs.Response.Sources
import SignPost.Proofs.Response.FirstValues
import SignPost.Proofs.Response.Anchor
import SignPost.Proofs.Service.Wire
import SignPost.Proofs.Client.Correlation
import SignPost.Proofs.Request.Keyless
import SignPost.Proofs.Service.WellFormed
import SignPost.Proofs.Settings.Loading
import SignPost.Proofs.Rsa.KeyFile
import SignPost.Proofs.Signing.KeyPair
import SignPost.Proofs.Service.Trailing
import SignPost.Proofs.Report.Signers
import SignPost.Proofs.Service.Spelling
import SignPost.Proofs.Text.StrictBase64
import SignPost.Proofs.Trust
import SignPost.Proofs.Response.Appended
import SignPost.Proofs.Data.Overlay
import SignPost.Proofs.Data.Json
import SignPost.Proofs.Settings.Layers
import SignPost.Proofs.Request.Edit
import SignPost.Proofs.Time.Rfc3339
import SignPost.Proofs.Report.Record
