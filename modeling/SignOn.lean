import SignOn.Main
import SignOn.Transport.Refusal
import SignOn.Proofs.ServiceResponse.Isolation
import SignOn.Proofs.Validator.ProxyHops
import SignOn.Proofs.Granting.Correlation
import SignOn.Proofs.Saml.Request
import SignOn.Proofs.Saml.Answer
import SignOn.Proofs.Saml.Selection
import SignOn.Proofs.AttributeForms
import SignOn.Proofs.Truncation
import SignOn.Proofs.WellFormed
import SignOn.Proofs.Gateway.Status
import SignOn.Proofs.Validator.Logging
import SignOn.Proofs.Saml.Tolerance
import SignOn.Proofs.Markup.RoundTrip
import SignOn.Proofs.Markup.Nesting
import SignOn.Proofs.Markup.Namespace
import SignOn.Proofs.Refusal
import SignOn.Proofs.ServiceResponse.Precedence
import SignOn.Proofs.Saml.Status
import SignOn.Proofs.Markup.Formatting
import SignOn.Proofs.PlainText
import SignOn.Proofs.Config.Environment
import SignOn.Proofs.ProxyChain
import SignOn.Proofs.Granting.Secrecy
import SignOn.Proofs.Markup.Position
import SignOn.Proofs.Config.Reach
import SignOn.Proofs.Gateway.Setup
