import Froglet.Verifier.Order
import Froglet.Protocol.LinkedIdentity
import Froglet.Requester.Release
import Froglet.Requester.Boundary
import Froglet.Requester.Payments
import Froglet.Provider.Policy
import Froglet.Lightning.Prepaid
import Froglet.Lightning.Isolation
import Froglet.Requester.DealTerms
import Froglet.Deals.Agreement
import Froglet.Provider.PrepaidRecovery
import Froglet.Provider.Capabilities
import Froglet.Provider.StripeSettlement
import Froglet.Provider.BundleRows
import Froglet.Provider.Scan
import Froglet.Publication.History
import Froglet.Publication.Evidence
import Froglet.Publication.Limits
import Froglet.Provider.Quota
import Froglet.Provider.Invites
import Froglet.Provider.Transfers
import Froglet.Provider.Feed
import Froglet.Builtins.JsonQuery
import Froglet.Wasm.Http
import Froglet.A2a.Isolation
import Froglet.Custody.RotationSafety
