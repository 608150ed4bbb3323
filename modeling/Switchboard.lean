import Switchboard.Main
import Switchboard.Proofs.Channel.Reports
import Switchboard.Proofs.Channel.Delivery
import Switchboard.Proofs.Hub.Endpoint
import Switchboard.Proofs.Hub.Result
import Switchboard.Proofs.Link.Wire
import Switchboard.Proofs.Link.Once
import Switchboard.Proofs.Link.Announced
import Switchboard.Proofs.Link.Connected
import Switchboard.Proofs.Link.Renewal
import Switchboard.Proofs.Link.KeptBack
import Switchboard.Proofs.Link.Visits
import Switchboard.Proofs.Link.Warned
import Switchboard.Proofs.Message.Request
import Switchboard.Proofs.Message.Grammar
import Switchboard.Proofs.Message.Frame
import Switchboard.Proofs.Message.Lenient
import Switchboard.Proofs.Session.Connections
import Switchboard.Proofs.Session.Abandoned
import Switchboard.Proofs.Session.Fidelity
import Switchboard.Proofs.Session.Verbosity
import Switchboard.Proofs.Session.Openings
