import SessionAuthority.Application.Serve
import SessionAuthority.Proofs.Base64
import SessionAuthority.Proofs.Uuid
import SessionAuthority.Proofs.Claims
import SessionAuthority.Proofs.Text
import SessionAuthority.Proofs.Json.Strings
import SessionAuthority.Proofs.Json.Numbers
import SessionAuthority.Proofs.Json.RoundTrip
import SessionAuthority.Proofs.Json.Record
import SessionAuthority.Proofs.Codec.Parts
import SessionAuthority.Proofs.Codec.RoundTrip
import SessionAuthority.Proofs.Codec.Authenticity
import SessionAuthority.Proofs.Store
import SessionAuthority.Proofs.State
import SessionAuthority.Proofs.Session.Runs
import SessionAuthority.Proofs.Session.Table
import SessionAuthority.Proofs.Application.Guard
import SessionAuthority.Proofs.Codec.Expiry
import SessionAuthority.Proofs.Transaction
import SessionAuthority.Proofs.Session.Conduct
import SessionAuthority.Proofs.Application.Conduct
import SessionAuthority.Proofs.Application.Refusal
import SessionAuthority.Proofs.Session.Ledger
import SessionAuthority.Proofs.Application.Rotation
import SessionAuthority.Proofs.Password
import SessionAuthority.Proofs.Application.Login
import SessionAuthority.Proofs.Application.Interleaving
import SessionAuthority.Proofs.Store.TtlMap
import SessionAuthority.Proofs.Wording
import SessionAuthority.Proofs.Watching
import SessionAuthority.Proofs.Session.Tokens
import SessionAuthority.Proofs.Session.Presentation
import SessionAuthority.Proofs.Application.Calm
import SessionAuthority.Proofs.Application.Disclosure
import SessionAuthority.Proofs.Application.Detachment
import SessionAuthority.Proofs.Application.Continuity
import SessionAuthority.Proofs.Codec.Skew
import SessionAuthority.Proofs.Session.Validity
import SessionAuthority.Proofs.Application.Counters
import SessionAuthority.Proofs.Application.Extraction
import SessionAuthority.Proofs.Json.Extent
import SessionAuthority.Proofs.Session.Calendar
import SessionAuthority.Proofs.Codec.NormalForm
import SessionAuthority.Proofs.Json.Grammar
import SessionAuthority.Proofs.Json.Document
import SessionAuthority.Proofs.Session.Stored
import SessionAuthority.Proofs.Application.Enumeration
import SessionAuthority.Proofs.Directory
import SessionAuthority.Proofs.Application.Startup
import SessionAuthority.Proofs.Http.HeaderValue
import SessionAuthority.Proofs.Http.Credential
import SessionAuthority.Proofs.Json.Remainder
import SessionAuthority.Proofs.Json.Misspelt
import SessionAuthority.Proofs.Json.Refusal
import SessionAuthority.Proofs.Login.Announcement
import SessionAuthority.Proofs.Login.Refusal
import SessionAuthority.Proofs.Keys
import SessionAuthority.Proofs.Commons
import SessionAuthority.Proofs.Application.Separation
