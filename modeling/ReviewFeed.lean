import ReviewFeed.Association
import ReviewFeed.Attribute.Account
import ReviewFeed.Attribute.Change
import ReviewFeed.Attribute.Fields
import ReviewFeed.Attribute.PatchSet
import ReviewFeed.Attribute.Provider
import ReviewFeed.Attribute.RefUpdate
import ReviewFeed.Command.Arguments
import ReviewFeed.Command.Run
import ReviewFeed.Dispatch.Dispatcher
import ReviewFeed.Dispatch.Feed
import ReviewFeed.Dispatch.Registry
import ReviewFeed.Dispatch.Rehearsal
import ReviewFeed.Dispatch.Script
import ReviewFeed.Dispatch.Work
import ReviewFeed.Event.Basic
import ReviewFeed.Event.Kind
import ReviewFeed.Event.Payload
import ReviewFeed.Json.Reader
import ReviewFeed.Json.Value
import ReviewFeed.Json.Writer
import ReviewFeed.Main
import ReviewFeed.Number.Binary64
import ReviewFeed.Number.Shortest
import ReviewFeed.Proofs.Association
import ReviewFeed.Proofs.Attribute.Layout
import ReviewFeed.Proofs.Attribute.Printed
import ReviewFeed.Proofs.Attribute.Readable
import ReviewFeed.Proofs.Attribute.Respelled
import ReviewFeed.Proofs.Attribute.Shape
import ReviewFeed.Proofs.Attribute.Written
import ReviewFeed.Proofs.Command.Listening
import ReviewFeed.Proofs.Command.Printing
import ReviewFeed.Proofs.Command.Querying
import ReviewFeed.Proofs.Dispatch.Accounts
import ReviewFeed.Proofs.Dispatch.AskingLate
import ReviewFeed.Proofs.Dispatch.BackPressure
import ReviewFeed.Proofs.Dispatch.Closing
import ReviewFeed.Proofs.Dispatch.Conservation
import ReviewFeed.Proofs.Dispatch.Cost
import ReviewFeed.Proofs.Dispatch.Delivery
import ReviewFeed.Proofs.Dispatch.FeedMoves
import ReviewFeed.Proofs.Dispatch.Forgotten
import ReviewFeed.Proofs.Dispatch.Forms
import ReviewFeed.Proofs.Dispatch.Invariants
import ReviewFeed.Proofs.Dispatch.LaneHistory
import ReviewFeed.Proofs.Dispatch.Listeners
import ReviewFeed.Proofs.Dispatch.Moves
import ReviewFeed.Proofs.Dispatch.Notifications
import ReviewFeed.Proofs.Dispatch.Order
import ReviewFeed.Proofs.Dispatch.Performances
import ReviewFeed.Proofs.Dispatch.Places
import ReviewFeed.Proofs.Dispatch.Printed
import ReviewFeed.Proofs.Dispatch.Readers
import ReviewFeed.Proofs.Dispatch.Registrations
import ReviewFeed.Proofs.Dispatch.Reported
import ReviewFeed.Proofs.Dispatch.Rest
import ReviewFeed.Proofs.Dispatch.RunsWithout
import ReviewFeed.Proofs.Dispatch.Settling
import ReviewFeed.Proofs.Event.Classification
import ReviewFeed.Proofs.Event.Identity
import ReviewFeed.Proofs.Event.Layout
import ReviewFeed.Proofs.Event.Readable
import ReviewFeed.Proofs.Event.Respelled
import ReviewFeed.Proofs.Event.Times
import ReviewFeed.Proofs.Event.Written
import ReviewFeed.Proofs.Json.Literal
import ReviewFeed.Proofs.Json.OneLine
import ReviewFeed.Proofs.Json.Order
import ReviewFeed.Proofs.Json.RoundTrip
import ReviewFeed.Proofs.Json.Tokens
import ReviewFeed.Proofs.Query.Collectors
import ReviewFeed.Proofs.Query.Course
import ReviewFeed.Proofs.Query.FileList
import ReviewFeed.Proofs.Query.Records
import ReviewFeed.Proofs.Query.Recovery
import ReviewFeed.Proofs.Query.Words
import ReviewFeed.Proofs.Review.Body
import ReviewFeed.Proofs.Review.Input
import ReviewFeed.Proofs.Review.Listener
import ReviewFeed.Proofs.Review.Target
import ReviewFeed.Proofs.Session.Framing
import ReviewFeed.Proofs.Session.Stream
import ReviewFeed.Proofs.Text.DigitRow
import ReviewFeed.Proofs.Text.Form
import ReviewFeed.Proofs.Text.Lines
import ReviewFeed.Proofs.Text.Numeral
import ReviewFeed.Proofs.Text.Separated
import ReviewFeed.Proofs.Text.Utf8
import ReviewFeed.Proofs.Time.Timestamp
import ReviewFeed.Query.Command
import ReviewFeed.Query.Files
import ReviewFeed.Query.Record
import ReviewFeed.Query.Run
import ReviewFeed.Review.Input
import ReviewFeed.Review.Listener
import ReviewFeed.Review.Poster
import ReviewFeed.Review.Status
import ReviewFeed.Review.Target
import ReviewFeed.Session.Error
import ReviewFeed.Session.Process
import ReviewFeed.Session.Source
import ReviewFeed.Settings.Basic
import ReviewFeed.Settings.File
import ReviewFeed.Settings.Reader
import ReviewFeed.Text.Base64
import ReviewFeed.Text.Blank
import ReviewFeed.Text.Form
import ReviewFeed.Text.Lines
import ReviewFeed.Text.Numeral
import ReviewFeed.Text.Printable
import ReviewFeed.Text.Quoted
import ReviewFeed.Text.Utf8
import ReviewFeed.Time.Calendar
import ReviewFeed.Time.Timestamp
import ReviewFeed.Toml.Atom
import ReviewFeed.Toml.Reader
import ReviewFeed.Toml.Table
import ReviewFeed.Toml.Value
import ReviewFeed.Url.Address
import ReviewFeed.Url.Check
import ReviewFeed.Url.Fault
import ReviewFeed.Url.Host
import ReviewFeed.Url.Punycode
