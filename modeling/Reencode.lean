import Reencode.Bytes.Checksum
import Reencode.Bytes.Hex
import Reencode.Bytes.Inflate
import Reencode.Bytes.PrefixCode
import Reencode.Bytes.Stored
import Reencode.Bytes.Words
import Reencode.Codec.Basic
import Reencode.Codec.Exif
import Reencode.Codec.Jpeg.Read
import Reencode.Codec.Jpeg.Scan
import Reencode.Codec.Jpeg.Segments
import Reencode.Codec.Jpeg.Tables
import Reencode.Codec.Jpeg.Transform
import Reencode.Codec.Jpeg.Write
import Reencode.Codec.Pictures
import Reencode.Codec.Png.Layout
import Reencode.Codec.Png.Read
import Reencode.Codec.Png.Write
import Reencode.Codec.Pnm
import Reencode.Codec.Unreadable
import Reencode.Codec.Webp
import Reencode.Collection.Basic
import Reencode.Collection.Event
import Reencode.CommandLine
import Reencode.Entry.Basic
import Reencode.Entry.Id
import Reencode.Export.Archive
import Reencode.Export.Collect
import Reencode.Failure
import Reencode.Fault
import Reencode.Files.Import
import Reencode.Files.Path
import Reencode.Files.Tree
import Reencode.Log
import Reencode.Main
import Reencode.Message
import Reencode.Naming.ImageName
import Reencode.Naming.Stem
import Reencode.Naming.Unique
import Reencode.Number.Basic
import Reencode.Number.Binary32
import Reencode.Number.Binary64
import Reencode.Number.Decimal
import Reencode.Number.Integer
import Reencode.Number.Power
import Reencode.Params.Basic
import Reencode.Params.Format
import Reencode.Params.Quality
import Reencode.Params.Save
import Reencode.Picture.Basic
import Reencode.Picture.Colour
import Reencode.Picture.Layout
import Reencode.Picture.Orientation
import Reencode.Picture.Prepare
import Reencode.Picture.Raster
import Reencode.Proofs.Collection.Answer
import Reencode.Proofs.Collection.Catalogue
import Reencode.Proofs.Collection.Course
import Reencode.Proofs.Collection.Freshness
import Reencode.Proofs.Collection.Origin
import Reencode.Proofs.Collection.Presence
import Reencode.Proofs.Collection.Prospect
import Reencode.Proofs.Collection.Replica
import Reencode.Proofs.Collection.Roster
import Reencode.Proofs.Collection.Shelf
import Reencode.Proofs.Collection.Step
import Reencode.Proofs.Collection.Tended
import Reencode.Proofs.Collection.Turn
import Reencode.Proofs.Collection.Use
import Reencode.Proofs.Entry.Career
import Reencode.Proofs.Export.Archiving
import Reencode.Proofs.Export.Collecting
import Reencode.Proofs.Export.Writing
import Reencode.Proofs.Files.Path
import Reencode.Proofs.Files.Place
import Reencode.Proofs.Files.Reading
import Reencode.Proofs.Files.Search
import Reencode.Proofs.Naming.Exported
import Reencode.Proofs.Naming.Stem
import Reencode.Proofs.Naming.Unique
import Reencode.Proofs.Number.Order
import Reencode.Proofs.Number.Whole
import Reencode.Proofs.Params.Acceptance
import Reencode.Proofs.Params.Range
import Reencode.Proofs.Picture.OnWhite
import Reencode.Proofs.Picture.Stricter
import Reencode.Proofs.Resource.Ledger
import Reencode.Proofs.Resource.Sharing
import Reencode.Proofs.Session.Acts
import Reencode.Proofs.Session.Chronicle
import Reencode.Proofs.Session.Course
import Reencode.Proofs.Session.Dangling
import Reencode.Proofs.Session.EventLog
import Reencode.Proofs.Session.Harvest
import Reencode.Proofs.Session.Isolation
import Reencode.Proofs.Session.LastRequest
import Reencode.Proofs.Session.Locators
import Reencode.Proofs.Session.Membership
import Reencode.Proofs.Session.Observers
import Reencode.Proofs.Session.Path
import Reencode.Proofs.Session.Preview
import Reencode.Proofs.Session.Quality
import Reencode.Proofs.Session.Reaction
import Reencode.Proofs.Session.Refusal
import Reencode.Proofs.Session.Registrations
import Reencode.Proofs.Session.Rejection
import Reencode.Proofs.Session.Report
import Reencode.Proofs.Session.Schedule
import Reencode.Proofs.Session.Settled
import Reencode.Proofs.Session.Teardown
import Reencode.Proofs.Session.Usage
import Reencode.Proofs.Session.Verdict
import Reencode.Proofs.Tools.Escaping
import Reencode.Proofs.Tools.Failing
import Reencode.Proofs.Tools.Importing
import Reencode.Proofs.Tools.Listing
import Reencode.Proofs.Tools.Rendering
import Reencode.Proofs.Tools.Routine
import Reencode.Proofs.Tools.Stock
import Reencode.Proofs.View.Drag
import Reencode.Proofs.View.Zoom
import Reencode.Proofs.Work.Blame
import Reencode.Proofs.Work.Conservation
import Reencode.Proofs.Work.Hygiene
import Reencode.Proofs.Work.Interleaving
import Reencode.Proofs.Work.Overlap
import Reencode.Proofs.Work.Result
import Reencode.Proofs.Work.Retirement
import Reencode.Proofs.Work.Rollback
import Reencode.Proofs.Work.Running
import Reencode.Proofs.Work.SharedCache
import Reencode.Proofs.Work.Tickets
import Reencode.Proofs.Work.Workshop
import Reencode.Resource.Handle
import Reencode.Resource.Locator
import Reencode.Resource.Registry
import Reencode.Session.Basic
import Reencode.Session.Edit
import Reencode.Session.Operation
import Reencode.Session.Outcomes
import Reencode.Settings.Basic
import Reencode.Settings.LogSetup
import Reencode.Snapshot.Basic
import Reencode.Snapshot.Savings
import Reencode.Snapshot.Size
import Reencode.Text.Blank
import Reencode.Text.Case
import Reencode.Text.Digit
import Reencode.Text.Printable
import Reencode.Text.Quoted
import Reencode.Text.Ranges
import Reencode.Tools.Basic
import Reencode.Tools.Call
import Reencode.Tools.ErrorResponse
import Reencode.Tools.Request
import Reencode.Tools.Response
import Reencode.Validation
import Reencode.Value.Basic
import Reencode.Value.Json
import Reencode.View.Basic
import Reencode.View.Gesture
import Reencode.Work.DecodeCache
import Reencode.Work.Job
import Reencode.Work.Scheduler
