import PersonGate.Main
import PersonGate.Nav.Session
import PersonGate.Proofs.Panel.Display
import PersonGate.Proofs.Markup.Decode
import PersonGate.Proofs.Panel.Ledger
import PersonGate.Proofs.Panel.Stages
import PersonGate.Proofs.Markup.Outline
import PersonGate.Proofs.Http.Site
import PersonGate.Proofs.Service.Access
import PersonGate.Proofs.Service.EndToEnd
import PersonGate.Proofs.Config.GrantText
import PersonGate.Proofs.Http.Target
import PersonGate.Proofs.Service.Decision
import PersonGate.Proofs.Panel.Teardown
import PersonGate.Proofs.Panel.Track
import PersonGate.Proofs.Panel.Spans
import PersonGate.Proofs.Panel.Moment
import PersonGate.Proofs.Panel.Punctual
import PersonGate.Proofs.Panel.Undisturbed
import PersonGate.Proofs.Panel.Published
import PersonGate.Proofs.Panel.Likeness
import PersonGate.Proofs.Panel.Causes
import PersonGate.Proofs.Panel.Single
import PersonGate.Proofs.Cli.LateReply
import PersonGate.Proofs.Cli.Login
import PersonGate.Proofs.Cli.Action
import PersonGate.Proofs.Nav.Families
import PersonGate.Proofs.Service.Memory
import PersonGate.Proofs.Panel.Secrecy
import PersonGate.Proofs.Cli.Precedence
import PersonGate.Proofs.Markup.Drawn
import PersonGate.Proofs.Panel.Outstanding
import PersonGate.Proofs.Panel.Drain
import PersonGate.Proofs.Config.Settings
import PersonGate.Proofs.Cli.Serve
import PersonGate.Proofs.Config.Leftmost
import PersonGate.Proofs.Service.Credentials
import PersonGate.Proofs.Panel.Fate
import PersonGate.Proofs.Panel.Rotation
import PersonGate.Proofs.Panel.Resolution
import PersonGate.Proofs.Config.Port
import PersonGate.Proofs.Service.Roles
import PersonGate.Proofs.Auth.NormalForm
import PersonGate.Proofs.Config.Building
import PersonGate.Proofs.Markup.Escaping
import PersonGate.Proofs.Service.DemoToken
