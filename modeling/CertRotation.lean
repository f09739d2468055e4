import CertRotation.Text.Blank
import CertRotation.Text.Utf8
import CertRotation.Text.Decimal
import CertRotation.Net.Address
import CertRotation.Net.ServerName
import CertRotation.Target
import CertRotation.Greeting
import CertRotation.X509.Fault
import CertRotation.Tls.Alert
import CertRotation.Tls.Policy
import CertRotation.Error
import CertRotation.Settings.Basic
import CertRotation.Text.Printable
import CertRotation.Text.Quoted
import CertRotation.Calendar
import CertRotation.Asn1.Der
import CertRotation.Asn1.Time
import CertRotation.X509.Description
import CertRotation.Pem.Base64
import CertRotation.Pem
import CertRotation.Crypto.Modular
import CertRotation.Crypto.Sha2
import CertRotation.Crypto.Weierstrass
import CertRotation.Crypto.Edwards
import CertRotation.Crypto.Rsa
import CertRotation.Key
import CertRotation.X509.Certificate
import CertRotation.Files
import CertRotation.Event
import CertRotation.Probe
import CertRotation.Identity
import CertRotation.TrustPool
import CertRotation.CredentialStore
import CertRotation.Refresh
import CertRotation.Metrics
import CertRotation.Net.Network
import CertRotation.X509.Signature
import CertRotation.X509.GeneralName
import CertRotation.X509.Path
import CertRotation.Tls.Handshake
import CertRotation.Net.Stream
import CertRotation.Greeter
import CertRotation.Requester
import CertRotation.Conversation
import CertRotation.Document.Real
import CertRotation.Document.Value
import CertRotation.Document.Json
import CertRotation.Document.Toml.Scalar
import CertRotation.Document.Toml
import CertRotation.Document.Yaml.Cursor
import CertRotation.Document.Yaml.Scalar
import CertRotation.Document.Yaml.Token
import CertRotation.Document.Yaml
import CertRotation.Settings.Duration
import CertRotation.Settings.Layer
import CertRotation.Settings.Reading
import CertRotation.Settings.Load
import CertRotation.LogFilter
import CertRotation.Settings.VariableFile
import CertRotation.Net.Listening
import CertRotation.Startup
import CertRotation.Program
import CertRotation.Main
import CertRotation.CredentialStore.Operation
import CertRotation.CredentialStore.Interleaving
import CertRotation.Provisioning
import CertRotation.Metrics.Scraping
import CertRotation.Greeter.Serving
import CertRotation.Tls.Encounter
import CertRotation.Tls.Configuration
import CertRotation.Settings.Effective
import CertRotation.Proofs.CredentialStore.Install
import CertRotation.Proofs.CredentialStore.RunLaw
import CertRotation.Proofs.Tls.Rotation
import CertRotation.Proofs.Files
import CertRotation.Proofs.Identity
import CertRotation.Proofs.Provisioning
import CertRotation.Proofs.Refresh.Agenda
import CertRotation.Proofs.Refresh.Loop
import CertRotation.Proofs.CredentialStore.Interleaving
import CertRotation.Proofs.Key
import CertRotation.Proofs.KeyCheck
import CertRotation.Proofs.Tls.AllowList
import CertRotation.Metrics.Reading
import CertRotation.Proofs.Metrics.Reading
import CertRotation.Proofs.Metrics.Exporter
import CertRotation.Proofs.Text.Utf8
import CertRotation.Proofs.Text.Blank
import CertRotation.Proofs.Greeting
import CertRotation.Proofs.Net.Stream
import CertRotation.Proofs.Conversation
import CertRotation.Proofs.Greeter.Serving
import CertRotation.Proofs.Document.Value
import CertRotation.Proofs.Document.Json
import CertRotation.Proofs.Document.Toml
import CertRotation.Proofs.Document.Yaml
import CertRotation.Proofs.Settings.Layering
import CertRotation.Proofs.Settings.Loading
import CertRotation.Proofs.Metrics.Scraping
import CertRotation.Pem.Piece
import CertRotation.Identity.Stage
import CertRotation.TrustPool.Bundle
import CertRotation.Startup.Stage
import CertRotation.Proofs.Pem
import CertRotation.Proofs.Identity.Stages
import CertRotation.Proofs.TrustPool
import CertRotation.Proofs.Startup
import CertRotation.Greeter.Request
import CertRotation.Proofs.Greeter.Answering
import CertRotation.Requester.Turn
import CertRotation.Proofs.Requester.Loop
import CertRotation.Proofs.Requester.Outcome
import CertRotation.Proofs.Net.Address
import CertRotation.Proofs.Target
import CertRotation.Proofs.Text.Decimal
import CertRotation.Proofs.Target.Spelling
import CertRotation.CredentialStore.Watch
import CertRotation.Proofs.CredentialStore.Subscription
import CertRotation.Proofs.Conversation.LongName
import CertRotation.Calendar.Clock
import CertRotation.Asn1.WrittenTime
import CertRotation.X509.Validity
import CertRotation.Proofs.Calendar.Count
import CertRotation.Proofs.Calendar.Text
import CertRotation.Proofs.Asn1.Time
import CertRotation.Proofs.X509.Validity
import CertRotation.Proofs.Text.Quoted
import CertRotation.Calendar.Reading
import CertRotation.X509.Line
import CertRotation.Proofs.X509.Line
