import EventRelay.Config.Reader
import EventRelay.Job.Settings
import EventRelay.Session
import EventRelay.Proofs.Delivery.Agreement
import EventRelay.Proofs.Delivery.Answers
import EventRelay.Proofs.Delivery.ArrayText
import EventRelay.Proofs.Delivery.Charging
import EventRelay.Proofs.Delivery.Completion
import EventRelay.Proofs.Delivery.Flush
import EventRelay.Proofs.Delivery.Isolation
import EventRelay.Proofs.Delivery.Partition
import EventRelay.Proofs.Delivery.RawText
import EventRelay.Proofs.Delivery.Streams
import EventRelay.Proofs.Event.Acceptance
import EventRelay.Proofs.Event.KeyOrder
import EventRelay.Proofs.Event.Steps
import EventRelay.Proofs.Event.Tampering
import EventRelay.Proofs.Job.Batches
import EventRelay.Proofs.Job.Endpoint
import EventRelay.Proofs.Job.FollowUps
import EventRelay.Proofs.Job.Lives
import EventRelay.Proofs.Job.RoundTrip
import EventRelay.Proofs.Session.Accounting
import EventRelay.Proofs.Session.Clients
import EventRelay.Proofs.Session.Feedback
import EventRelay.Proofs.Session.Gating
import EventRelay.Proofs.Session.Lookups
import EventRelay.Proofs.Session.Production
import EventRelay.Proofs.Session.Reports
import EventRelay.Proofs.Text.BinarySafe
import EventRelay.Proofs.Wiki.Change
import EventRelay.Proofs.Wiki.Suppression
import EventRelay.Proofs.Wiki.Titles
