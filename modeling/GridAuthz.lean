import GridAuthz.Crypto.Rsa.Generation
import GridAuthz.Proofs.AttributeCertificate.ReadBack
import GridAuthz.Proofs.AttributeCertificate.SignedBytes
import GridAuthz.Proofs.AttributeCertificate.TargetLists
import GridAuthz.Proofs.Calendar
import GridAuthz.Proofs.Chain.Anchors
import GridAuthz.Proofs.Chain.Identity
import GridAuthz.Proofs.Chain.Shortening
import GridAuthz.Proofs.Credential.ReadBack
import GridAuthz.Proofs.Membership.Fqans
import GridAuthz.Proofs.Membership.WellFormed
import GridAuthz.Proofs.Names.Pairing
import GridAuthz.Proofs.Names.PreparedForms
import GridAuthz.Proofs.Names.Rendering
import GridAuthz.Proofs.Proxy.Encodings
import GridAuthz.Proofs.Proxy.Lifetime
import GridAuthz.Proofs.RsaVerifying
import GridAuthz.Proofs.Text.Ignorables
import GridAuthz.Proofs.Trust.ChainDescriptions
import GridAuthz.Proofs.Trust.Contents
import GridAuthz.Proofs.Trust.LastGood
import GridAuthz.Proofs.Trust.Layouts
import GridAuthz.Proofs.Trust.Tables
import GridAuthz.Proofs.Validation.Binding
import GridAuthz.Proofs.Validation.Delegation
import GridAuthz.Proxy.Request
import GridAuthz.Validation.Validator
