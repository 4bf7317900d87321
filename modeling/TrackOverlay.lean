import TrackOverlay.Assignment
import TrackOverlay.Channel
import TrackOverlay.Channel.Entry
import TrackOverlay.Fault
import TrackOverlay.Geometry.Point
import TrackOverlay.Geometry.Position
import TrackOverlay.Identity
import TrackOverlay.Identity.MarkerId
import TrackOverlay.Log
import TrackOverlay.Number.Binary64
import TrackOverlay.Number.Digits
import TrackOverlay.Number.FixedPlaces
import TrackOverlay.Number.Shortest
import TrackOverlay.Number.Storage
import TrackOverlay.Parameters
import TrackOverlay.Proofs.Arrays
import TrackOverlay.Proofs.CollectRequirements
import TrackOverlay.Proofs.Composition
import TrackOverlay.Proofs.Configuration
import TrackOverlay.Proofs.Depiction
import TrackOverlay.Proofs.DrawRequirements
import TrackOverlay.Proofs.Drawability
import TrackOverlay.Proofs.Drawing
import TrackOverlay.Proofs.DrawingLoop
import TrackOverlay.Proofs.FirstFault
import TrackOverlay.Proofs.Fitting
import TrackOverlay.Proofs.Gathering
import TrackOverlay.Proofs.Growth
import TrackOverlay.Proofs.HexText
import TrackOverlay.Proofs.Influence
import TrackOverlay.Proofs.LabelReading
import TrackOverlay.Proofs.LogSetup
import TrackOverlay.Proofs.MarkerHash
import TrackOverlay.Proofs.MarkerKeys
import TrackOverlay.Proofs.Partition
import TrackOverlay.Proofs.Reordering
import TrackOverlay.Proofs.Requirements
import TrackOverlay.Proofs.Session.Chronicle
import TrackOverlay.Proofs.Session.Conservation
import TrackOverlay.Proofs.Session.Growth
import TrackOverlay.Proofs.Session.Impasse
import TrackOverlay.Proofs.Session.Layers
import TrackOverlay.Proofs.Session.Moves
import TrackOverlay.Proofs.Session.Queries
import TrackOverlay.Proofs.Session.Record
import TrackOverlay.Proofs.Session.RenderFaults
import TrackOverlay.Proofs.Session.Reset
import TrackOverlay.Proofs.Session.Splitting
import TrackOverlay.Proofs.Session.TrackerOrder
import TrackOverlay.Proofs.Settings
import TrackOverlay.Proofs.Validation
import TrackOverlay.Scene.Canvas
import TrackOverlay.Scene.Color
import TrackOverlay.Scene.Label
import TrackOverlay.Scene.Marker
import TrackOverlay.Scene.Rendering
import TrackOverlay.Session
import TrackOverlay.Session.Transcript
import TrackOverlay.Snapshot
import TrackOverlay.Snapshot.Cycle
import TrackOverlay.Snapshot.Grouping
import TrackOverlay.Snapshot.Inquiry
import TrackOverlay.Text.Blank
import TrackOverlay.Text.DecimalDigit
import TrackOverlay.Text.Numeral
import TrackOverlay.Text.Printable
import TrackOverlay.Text.Quoted
import TrackOverlay.TrackedObject
import TrackOverlay.Tracker
import TrackOverlay.Violation
