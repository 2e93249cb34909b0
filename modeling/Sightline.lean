import Sightline.Bounds
import Sightline.Raster
import Sightline.Directory
import Sightline.Scalar.Binary64
import Sightline.Plane.Disc
import Sightline.Plane.Placement
import Sightline.Time.Spelling
import Sightline.Decimal.Fixed
import Sightline.Json.Number
import Sightline.Json.Skip
import Sightline.Json.Record
import Sightline.Fault
import Sightline.Fault.Wording
import Sightline.Settings.Document
import Sightline.Evidence
import Sightline.Evidence.Survey
import Sightline.Evidence.Command
import Sightline.Note
import Sightline.Tracker
import Sightline.Tracker.Accounted
import Sightline.Tracker.Command
import Sightline.Feed
import Sightline.Installation
import Sightline.Installation.Document
import Sightline.Quiet
import Sightline.Engine
import Sightline.Engine.Command
import Sightline.Engine.Run
import Sightline.Session
import Sightline.Proofs.Engine.Freshness
import Sightline.Proofs.Engine.Corroboration
import Sightline.Proofs.Engine.Refusals
import Sightline.Proofs.Evidence.Levels
import Sightline.Proofs.Engine.Counters
import Sightline.Proofs.Engine.Lifetimes
import Sightline.Proofs.Engine.Reordering
import Sightline.Proofs.Evidence.Superposition
import Sightline.Proofs.Engine.Publication
import Sightline.Proofs.Engine.Schedule
import Sightline.Proofs.Engine.Aborts
import Sightline.Proofs.Engine.Finiteness
import Sightline.Feed.Command
import Sightline.Proofs.Feed.Accounts
import Sightline.Proofs.Quiet.Reports
import Sightline.Proofs.Engine.UnknownCameras
import Sightline.Proofs.Engine.Movement
import Sightline.Proofs.Engine.Regions
import Sightline.Proofs.Engine.Fading
import Sightline.Proofs.Engine.Queries
import Sightline.Proofs.Settings.Documents
import Sightline.Proofs.Text.Quoting
import Sightline.Proofs.Tracker.Convergence
import Sightline.Proofs.Tracker.Overlaps
import Sightline.Proofs.Engine.Closest
import Sightline.Proofs.Installation.Rays
import Sightline.Proofs.Engine.Nudges
import Sightline.Proofs.Engine.Spacing
import Sightline.Proofs.Engine.Coincidence
import Sightline.Proofs.Evidence.Surfaces
import Sightline.Proofs.Evidence.Focus
import Sightline.Proofs.Evidence.Heatmaps
import Sightline.Proofs.Evidence.Sightlines
import Sightline.Proofs.Plane.Centres
