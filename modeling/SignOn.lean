import SignOn.Dispatch
import SignOn.Fleet
import SignOn.Proofs.Addresses
import SignOn.Proofs.Backoff
import SignOn.Proofs.Capture
import SignOn.Proofs.Confinement
import SignOn.Proofs.Endpoints
import SignOn.Proofs.Expiry
import SignOn.Proofs.Headers
import SignOn.Proofs.Independence
import SignOn.Proofs.Introspection
import SignOn.Proofs.Json.Extending
import SignOn.Proofs.Json.Grammar
import SignOn.Proofs.Json.Inside
import SignOn.Proofs.Json.Numbers
import SignOn.Proofs.Json.Passing
import SignOn.Proofs.Json.Records
import SignOn.Proofs.Json.Rendering
import SignOn.Proofs.Json.Strings
import SignOn.Proofs.Json.Taking
import SignOn.Proofs.Json.Unambiguous
import SignOn.Proofs.Payloads
import SignOn.Proofs.Provenance
import SignOn.Proofs.Record
import SignOn.Proofs.Redaction
import SignOn.Proofs.Rejection
import SignOn.Proofs.Reporting
import SignOn.Proofs.Retry
import SignOn.Proofs.RoundTrip
import SignOn.Proofs.SigningOff
import SignOn.Proofs.SigningOn
import SignOn.Proofs.Spellings
import SignOn.Proofs.Taxonomy
import SignOn.Proofs.Timeless
import SignOn.Proofs.Transient
import SignOn.Proofs.Unicode
import SignOn.Proofs.WellFormed
import SignOn.Proofs.WholeDocuments
import SignOn.Proofs.WireTypes
