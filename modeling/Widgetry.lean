import Widgetry.Animation.Channel
import Widgetry.Animation.Easing
import Widgetry.Animation.Timing
import Widgetry.Badge.Basic
import Widgetry.Badge.Style
import Widgetry.Binary.Basic
import Widgetry.Binary.Bits
import Widgetry.Binary.Format
import Widgetry.Color
import Widgetry.Decimal.Shortest
import Widgetry.Decimal.Text
import Widgetry.Demo
import Widgetry.Error
import Widgetry.Flags
import Widgetry.Font
import Widgetry.Geometry
import Widgetry.Host
import Widgetry.Input
import Widgetry.Label
import Widgetry.Main
import Widgetry.Monospace
import Widgetry.Recorder
import Widgetry.RowGeometry
import Widgetry.Scalar
import Widgetry.Segmented.Group
import Widgetry.Segmented.Layout
import Widgetry.Segmented.Style
import Widgetry.Sheet.Basic
import Widgetry.Sheet.Codec
import Widgetry.Sheet.Library
import Widgetry.Sheet.Document
import Widgetry.Tabs.Layout
import Widgetry.Tabs.Row
import Widgetry.Tabs.Style
import Widgetry.Text
import Widgetry.Toml.Literal
import Widgetry.Toml.Printer
import Widgetry.Toml.Reader
import Widgetry.Toml.Table
import Widgetry.Toml.Text
import Widgetry.Toml.Value
import Widgetry.Tooltip.Basic
import Widgetry.Tooltip.Placement
import Widgetry.Tooltip.Style
import Widgetry.Validate
import Widgetry.Widget
import Widgetry.Proofs.Host.Ends
import Widgetry.Proofs.Host.Holding
import Widgetry.Proofs.Host.Echoes
import Widgetry.Proofs.Host.Unfailing
import Widgetry.Proofs.Host.Sketch
import Widgetry.Proofs.Fonts.Ledger
import Widgetry.Proofs.Host.Measuring
import Widgetry.Proofs.Tabs.Core
import Widgetry.Proofs.Segmented.Frame
import Widgetry.Proofs.Operations
import Widgetry.Proofs.Fonts.Owning
import Widgetry.Proofs.Fonts.Rows
import Widgetry.Proofs.Fonts.Ownership
import Widgetry.Proofs.Tabs.Selection
import Widgetry.Proofs.Tabs.Choice
import Widgetry.Proofs.Tabs.Refinement
import Widgetry.Proofs.Tabs.Stillness
import Widgetry.Proofs.Tabs.Snap
import Widgetry.Proofs.Tabs.Rollback
import Widgetry.Proofs.Geometry.Exact
import Widgetry.Proofs.Tabs.Geometry
import Widgetry.Proofs.Outside
import Widgetry.Proofs.Binary.Alike
import Widgetry.Proofs.Tabs.Tracking
import Widgetry.Proofs.Tabs.Offset
import Widgetry.Proofs.Tabs.Aligned
import Widgetry.Proofs.Tabs.LaidOut
import Widgetry.Proofs.Tabs.Bar
import Widgetry.Proofs.Range
import Widgetry.Proofs.Reachable
import Widgetry.Proofs.Tabs.Range
import Widgetry.Proofs.Segmented.Range
import Widgetry.Proofs.Accesses
import Widgetry.Proofs.Segmented.Toggle
import Widgetry.Proofs.Segmented.Selection
import Widgetry.Proofs.Segmented.Refinement
import Widgetry.Proofs.Tabs.Relayout
import Widgetry.Proofs.Press
import Widgetry.Proofs.DoublePress
import Widgetry.Proofs.Binary.Rounding
import Widgetry.Proofs.Decimal.Shortest
import Widgetry.Proofs.Toml.Literal
import Widgetry.Proofs.Toml.Number
import Widgetry.Proofs.Toml.Text
import Widgetry.Proofs.Toml.Reader
import Widgetry.Proofs.Toml.Table
import Widgetry.Proofs.Toml.Document
import Widgetry.Proofs.Sheet.Record
import Widgetry.Proofs.Sheet.Fields
import Widgetry.Proofs.Sheet.Families
import Widgetry.Proofs.Sheet.Gate
import Widgetry.Proofs.Sheet.Defaults
import Widgetry.Proofs.Sheet.Lawful
import Widgetry.Proofs.Sheet.Kept
import Widgetry.Proofs.Sheet.RoundTrip
import Widgetry.Proofs.Host.Yields
import Widgetry.Proofs.Binary.Sign
import Widgetry.Proofs.Tabs.View
import Widgetry.Proofs.Tabs.Scrolling
import Widgetry.Proofs.Tabs.Stale
import Widgetry.Proofs.Tabs.NonNeg
import Widgetry.Proofs.Tabs.Showing
import Widgetry.Proofs.Tabs.Phantoms
import Widgetry.Proofs.Tabs.Paintable
import Widgetry.Proofs.Tabs.OffsetBounds
import Widgetry.Proofs.Host.Agree
import Widgetry.Proofs.Host.Agreeing
import Widgetry.Proofs.Sharing.Fonts
import Widgetry.Proofs.Sharing.Rows
import Widgetry.Proofs.Sharing.Foundry
import Widgetry.Proofs.Sharing.Clients
import Widgetry.Proofs.Sharing.Growth
import Widgetry.Proofs.Sharing.Making
import Widgetry.Proofs.Sharing.Orders
import Widgetry.Proofs.Sharing.Isolation
import Widgetry.Proofs.Fonts.Backend
import Widgetry.Proofs.Fonts.Numbers
import Widgetry.Proofs.Constructors
import Widgetry.Proofs.Sheet.Usable
import Widgetry.Proofs.Host.Steady
import Widgetry.Proofs.Geometry.Strip
import Widgetry.Proofs.Geometry.Searches
import Widgetry.Proofs.Geometry.Uniform
import Widgetry.Proofs.Tabs.Walk
import Widgetry.Proofs.Tabs.Hits
import Widgetry.Proofs.Segmented.Hits
import Widgetry.Proofs.Hits
import Widgetry.Proofs.Animation.Timing
import Widgetry.Proofs.Animation.Easing
import Widgetry.Proofs.Animation.Transition
import Widgetry.Proofs.Tooltip.Placement
import Widgetry.Proofs.Tooltip.Sides
import Widgetry.Proofs.Animation.Finishing
import Widgetry.Proofs.Binary.Finite
import Widgetry.Proofs.Animation.Arrival
import Widgetry.Proofs.Animation.Dial
import Widgetry.Proofs.Host.Outcomes
import Widgetry.Proofs.Tabs.Recovery
import Widgetry.Proofs.Fonts.Replacing
import Widgetry.Proofs.Fonts.Restyling
import Widgetry.Proofs.Tabs.Driven
import Widgetry.Proofs.Tabs.Stepping
import Widgetry.Proofs.Geometry.Tiling
import Widgetry.Proofs.Tiling
import Widgetry.Proofs.Geometry.Natural
import Widgetry.Proofs.NaturalSize
import Widgetry.Proofs.Tabs.Viewport
import Widgetry.Proofs.Caches.Cached
import Widgetry.Proofs.Caches.Lines
import Widgetry.Proofs.Caches.Current
import Widgetry.Proofs.Fonts.Labelled
import Widgetry.Proofs.Recorder.Frames
import Widgetry.Proofs.Recorder.Triangles
import Widgetry.Proofs.Recorder.Upload
import Widgetry.Proofs.Host.Canvas
import Widgetry.Proofs.Host.Paints
import Widgetry.Proofs.Tooltip.Backed
import Widgetry.Proofs.Tooltip.Stacking
import Widgetry.Proofs.Tooltip.Painting
import Widgetry.Proofs.Segmented.Painting
import Widgetry.Proofs.WholeOrNothing
import Widgetry.Proofs.Flags.Painting
import Widgetry.Proofs.Flags.Disabled
