import MentalPoker.Card
import MentalPoker.Envelope.HandMessage
import MentalPoker.Envelope.Row
import MentalPoker.Hand.ActionData
import MentalPoker.Hand.Report
import MentalPoker.Json.Writer
import MentalPoker.Log.Layout
import MentalPoker.Log.Template
import MentalPoker.Proofs.Gap.Release
import MentalPoker.Service
import MentalPoker.Viewer.Rehearsal
import MentalPoker.Proofs.Gap.History
import MentalPoker.Proofs.Hand.Reveal
import MentalPoker.Proofs.Hand.Narration
import MentalPoker.Proofs.Session.Parts
import MentalPoker.Proofs.Session.Picture
import MentalPoker.Proofs.Session.HiddenFaces
import MentalPoker.Proofs.Session.Numbering
import MentalPoker.Proofs.Hand.Telling
import MentalPoker.Proofs.Gap.Closing
import MentalPoker.Proofs.Gap.Open
import MentalPoker.Proofs.Session.Hearing
import MentalPoker.Proofs.Session.Deliveries
import MentalPoker.Proofs.Session.ArrivalOrder
import MentalPoker.Proofs.Ledger.Answers
import MentalPoker.Proofs.Session.Rounds
import MentalPoker.Proofs.Session.Intake
import MentalPoker.Proofs.Session.ErrorLine
import MentalPoker.Proofs.Session.Stall
import MentalPoker.Proofs.Session.Refill
import MentalPoker.Proofs.Hand.Outline
import MentalPoker.Proofs.Hand.Course
import MentalPoker.Proofs.Hand.Standing
import MentalPoker.Proofs.Session.Notices
import MentalPoker.Proofs.Gap.Relabel
import MentalPoker.Proofs.Session.Addresses
import MentalPoker.Proofs.Session.OtherHands
import MentalPoker.Proofs.Happenings
import MentalPoker.Proofs.Session.InFlight
import MentalPoker.Proofs.Session.Forgetting
import MentalPoker.Proofs.Session.Isolation
import MentalPoker.Proofs.Json.Limits
import MentalPoker.Proofs.Envelope.Refusals
import MentalPoker.Feed.Sse.Task
import MentalPoker.Proofs.Feed.Disturbance
import MentalPoker.Proofs.Feed.Contract
import MentalPoker.Proofs.Feed.Interchange
import MentalPoker.Proofs.Hand.Mirror
import MentalPoker.Proofs.Number.Bounds
import MentalPoker.Proofs.Session.Mirror
import MentalPoker.Proofs.Schema.ReadBack
import MentalPoker.Proofs.Envelope.ReadBack
import MentalPoker.Proofs.Envelope.Paths
import MentalPoker.Proofs.Feed.RoundTrip
import MentalPoker.Proofs.Schema.Spelling
import MentalPoker.Proofs.Schema.Alike
import MentalPoker.Proofs.Envelope.Spelling
import MentalPoker.Proofs.Envelope.Layouts
import MentalPoker.Proofs.Feed.Spelling
import MentalPoker.Proofs.Feed.Layouts
import MentalPoker.Proofs.Walkthrough.Scene
import MentalPoker.Proofs.Walkthrough.Requests
import MentalPoker.Proofs.Walkthrough.Held
import MentalPoker.Proofs.Walkthrough.Streams
import MentalPoker.Proofs.Viewer.Streams
import MentalPoker.Proofs.Ledger.Announcement
import MentalPoker.Proofs.Viewer.NewDemo
import MentalPoker.Proofs.Hand.Growth
import MentalPoker.Proofs.Hand.Layout
import MentalPoker.Proofs.Session.StallCount
import MentalPoker.Proofs.Session.ErrorOwners
import MentalPoker.Proofs.Hand.Seeding
import MentalPoker.Proofs.Hand.Turns
import MentalPoker.Proofs.Hand.Order
import MentalPoker.Proofs.Hand.Milestones
import MentalPoker.Proofs.Hand.Shares
import MentalPoker.Proofs.Hand.Receipts
import MentalPoker.Proofs.Session.Onlooker
import MentalPoker.Proofs.Session.PhaseCues
import MentalPoker.Proofs.Session.Attribution
import MentalPoker.Proofs.Gap.Report
import MentalPoker.Proofs.Ledger.Entries
import MentalPoker.Proofs.Ledger.Outcome
import MentalPoker.Proofs.Envelope.WireKeys
import MentalPoker.Proofs.Hand.OneCard
import MentalPoker.Proofs.Hand.Keys
import MentalPoker.Proofs.Session.Progress
import MentalPoker.Session.Task
import MentalPoker.Proofs.Session.Listening
import MentalPoker.Proofs.Envelope.NormalForm
import MentalPoker.Proofs.Envelope.HexPattern
import MentalPoker.Proofs.Hand.Routing
