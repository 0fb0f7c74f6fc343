import ClientAssertion.Assertion
import ClientAssertion.AuthError
import ClientAssertion.Authorization
import ClientAssertion.Base64Url
import ClientAssertion.Bytes
import ClientAssertion.Client
import ClientAssertion.CommandLine.Arguments
import ClientAssertion.CommandLine.Environment
import ClientAssertion.CommandLine.Report
import ClientAssertion.CommandLine.Run
import ClientAssertion.Data
import ClientAssertion.Dictionary
import ClientAssertion.Digest.Hmac
import ClientAssertion.Digest.Sha2
import ClientAssertion.Endpoint.Authenticator
import ClientAssertion.Endpoint.Request
import ClientAssertion.Event
import ClientAssertion.Files
import ClientAssertion.Ini.Document
import ClientAssertion.Jose.Algorithm
import ClientAssertion.Jose.Claims
import ClientAssertion.Jose.Error
import ClientAssertion.Jose.Header
import ClientAssertion.Jose.Jwk
import ClientAssertion.Jose.Key
import ClientAssertion.Jose.Token
import ClientAssertion.Json.Basic
import ClientAssertion.Json.Document
import ClientAssertion.Json.Kept
import ClientAssertion.Json.Number
import ClientAssertion.Json.Print
import ClientAssertion.Json.Record
import ClientAssertion.Json.Token
import ClientAssertion.Json5.Document
import ClientAssertion.Json5.Token
import ClientAssertion.Keys.Remote
import ClientAssertion.Keys.Source
import ClientAssertion.Keys.Status
import ClientAssertion.Main
import ClientAssertion.Pkce
import ClientAssertion.Proofs.Assertion
import ClientAssertion.Proofs.Assertion.Violations
import ClientAssertion.Proofs.Base64Url
import ClientAssertion.Proofs.Bytes
import ClientAssertion.Proofs.Client
import ClientAssertion.Proofs.CommandLine.Arguments
import ClientAssertion.Proofs.CommandLine.Verify
import ClientAssertion.Proofs.Dictionary
import ClientAssertion.Proofs.Endpoint.Acceptance
import ClientAssertion.Proofs.Endpoint.Audience
import ClientAssertion.Proofs.Endpoint.Events
import ClientAssertion.Proofs.Endpoint.Form
import ClientAssertion.Proofs.Endpoint.Identifier
import ClientAssertion.Proofs.Endpoint.Outcome
import ClientAssertion.Proofs.Endpoint.Rejection
import ClientAssertion.Proofs.Endpoint.Request
import ClientAssertion.Proofs.Endpoint.Routing
import ClientAssertion.Proofs.Endpoint.Secret
import ClientAssertion.Proofs.History
import ClientAssertion.Proofs.Jose.Flaw
import ClientAssertion.Proofs.Jose.Identifier
import ClientAssertion.Proofs.Jose.Token
import ClientAssertion.Proofs.Json.Alike
import ClientAssertion.Proofs.Json.Document
import ClientAssertion.Proofs.Json.Record
import ClientAssertion.Proofs.Json.Token
import ClientAssertion.Proofs.Keys.Fetch
import ClientAssertion.Proofs.Keys.Outage
import ClientAssertion.Proofs.Keys.Remote
import ClientAssertion.Proofs.Keys.Transition
import ClientAssertion.Proofs.Pkce
import ClientAssertion.Proofs.Pkce.CodeVerifier
import ClientAssertion.Proofs.Pkce.Verdict
import ClientAssertion.Proofs.Saved
import ClientAssertion.Proofs.Saved.Authorization
import ClientAssertion.Proofs.Saved.Claims
import ClientAssertion.Proofs.Saved.Client
import ClientAssertion.Proofs.Saved.Settings
import ClientAssertion.Proofs.Settings.File
import ClientAssertion.Proofs.Settings.Layer
import ClientAssertion.Proofs.Settings.Load
import ClientAssertion.Proofs.Settings.Value
import ClientAssertion.Proofs.Store.Authorizations
import ClientAssertion.Proofs.Store.Clients
import ClientAssertion.Proofs.Store.Loading
import ClientAssertion.Proofs.Table
import ClientAssertion.Proofs.Text.Numeral
import ClientAssertion.Proofs.Time.Span
import ClientAssertion.Proofs.Time.Timestamp
import ClientAssertion.Proofs.Toml
import ClientAssertion.Proofs.Url.Form
import ClientAssertion.Proofs.Verifier.Blame
import ClientAssertion.Proofs.Verifier.Foreign
import ClientAssertion.Proofs.Verifier.KeySet
import ClientAssertion.Proofs.Verifier.Mac
import ClientAssertion.Proofs.Verifier.Resolve
import ClientAssertion.Proofs.Verifier.Rotation
import ClientAssertion.Provider
import ClientAssertion.Ron.Document
import ClientAssertion.Ron.Token
import ClientAssertion.Settings.Basic
import ClientAssertion.Settings.Format
import ClientAssertion.Settings.Layer
import ClientAssertion.Settings.Load
import ClientAssertion.Settings.Value
import ClientAssertion.Signature.Ecdsa
import ClientAssertion.Signature.Ed25519
import ClientAssertion.Signature.Modular
import ClientAssertion.Signature.Rsa
import ClientAssertion.Store.Authorizations
import ClientAssertion.Store.Clients
import ClientAssertion.Table
import ClientAssertion.Text.Binary64
import ClientAssertion.Text.Blank
import ClientAssertion.Text.CodePoints
import ClientAssertion.Text.Composed
import ClientAssertion.Text.Composed.Table
import ClientAssertion.Text.Decimal
import ClientAssertion.Text.Letter
import ClientAssertion.Text.Mark
import ClientAssertion.Text.Numeral
import ClientAssertion.Text.Parts
import ClientAssertion.Text.Quoted
import ClientAssertion.Text.Radix
import ClientAssertion.Text.Unseen
import ClientAssertion.Text.Utf8
import ClientAssertion.Time.Date
import ClientAssertion.Time.Instant
import ClientAssertion.Time.Span
import ClientAssertion.Time.Timestamp
import ClientAssertion.Toml.Document
import ClientAssertion.Toml.Scalar
import ClientAssertion.Toml.Token
import ClientAssertion.Toml.Value
import ClientAssertion.Url.Address
import ClientAssertion.Url.Basic
import ClientAssertion.Url.Domain
import ClientAssertion.Url.Domain.Direction
import ClientAssertion.Url.Domain.Direction.Table
import ClientAssertion.Url.Domain.Joining
import ClientAssertion.Url.Domain.Joining.Table
import ClientAssertion.Url.Domain.Mapping
import ClientAssertion.Url.Domain.Mapping.Table
import ClientAssertion.Url.Domain.Punycode
import ClientAssertion.Url.Form
import ClientAssertion.Url.Percent
import ClientAssertion.Url.Text
import ClientAssertion.Verifier
import ClientAssertion.Yaml.Cursor
import ClientAssertion.Yaml.Document
import ClientAssertion.Yaml.Node
import ClientAssertion.Yaml.Scalar
import ClientAssertion.Yaml.Token
