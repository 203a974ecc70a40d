import SignInJourney.Command.Files
import SignInJourney.Main
import SignInJourney.Service
import SignInJourney.Proofs.MessagePack.RoundTrip
import SignInJourney.Proofs.Data.Textual
import SignInJourney.Proofs.Data.Dictionary
import SignInJourney.Proofs.Data.Members
import SignInJourney.Proofs.Text.Digits
import SignInJourney.Proofs.Text.Hex
import SignInJourney.Proofs.Time.Civil
import SignInJourney.Proofs.Time.Rfc3339
import SignInJourney.Proofs.Session.Id
import SignInJourney.Proofs.Session.Document
import SignInJourney.Proofs.Session.Record
import SignInJourney.Proofs.Session.Legacy
import SignInJourney.Proofs.Store.View
import SignInJourney.Proofs.Store.Map
import SignInJourney.Proofs.Audit.Milestones
import SignInJourney.Proofs.Journey.Checks
import SignInJourney.Proofs.Journey.Refusals
import SignInJourney.Proofs.Journey.Order
import SignInJourney.Proofs.Journey.ProviderSelection
import SignInJourney.Proofs.Journey.ProviderResponse
import SignInJourney.Proofs.Journey.Country
import SignInJourney.Proofs.Journey.Matching
import SignInJourney.Proofs.Journey.Start
import SignInJourney.Proofs.Service.Access
import SignInJourney.Proofs.Service.Effect
import SignInJourney.Proofs.Service.Echo
import SignInJourney.Proofs.Service.Run
import SignInJourney.Proofs.Service.Forward
import SignInJourney.Proofs.Service.Asking
import SignInJourney.Proofs.Service.Refusals
import SignInJourney.Proofs.Service.Deadline
import SignInJourney.Proofs.Service.Failure
import SignInJourney.Proofs.Service.Stray
import SignInJourney.Proofs.Service.Authenticated
import SignInJourney.Proofs.Service.Identity
import SignInJourney.Proofs.Service.Levels
import SignInJourney.Proofs.Service.Offer
import SignInJourney.Proofs.Service.Network
import SignInJourney.Proofs.Service.Separation
import SignInJourney.Proofs.Service.Envelope
import SignInJourney.Proofs.Service.CrossBorder
import SignInJourney.Proofs.Service.Families
import SignInJourney.Proofs.Service.Party
import SignInJourney.Proofs.Service.Billing
import SignInJourney.Proofs.Service.Query
import SignInJourney.Proofs.Store.Sweep
import SignInJourney.Proofs.Store.Opened
import SignInJourney.Proofs.Store.Key
import SignInJourney.Proofs.Service.Twins
import SignInJourney.Proofs.Service.GivingUp
import SignInJourney.Proofs.Service.Admission
import SignInJourney.Proofs.Service.Action
import SignInJourney.Proofs.Service.Room
