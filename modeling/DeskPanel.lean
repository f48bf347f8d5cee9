import DeskPanel.Binary.Arith
import DeskPanel.Binary.Datum
import DeskPanel.Binary.Decimal
import DeskPanel.Clock
import DeskPanel.Color
import DeskPanel.Command.Args
import DeskPanel.Command.Run
import DeskPanel.Command.Similar
import DeskPanel.Config.Decode
import DeskPanel.Config.Load
import DeskPanel.Config.Settings
import DeskPanel.Disk.Data
import DeskPanel.Disk.Tree
import DeskPanel.Font.Choice
import DeskPanel.Font.Description
import DeskPanel.Font.Engine
import DeskPanel.Font.Face
import DeskPanel.Font.Locate
import DeskPanel.Font.Measure
import DeskPanel.Font.Raster
import DeskPanel.Font.Text
import DeskPanel.Layout.Item
import DeskPanel.Layout.Row
import DeskPanel.Layout.Widget
import DeskPanel.Loop.Display
import DeskPanel.Loop.Replay
import DeskPanel.Loop.Run
import DeskPanel.Loop.Triggers
import DeskPanel.Main
import DeskPanel.Markup
import DeskPanel.Panel.Core
import DeskPanel.Panel.Paint
import DeskPanel.Panel.Pointer
import DeskPanel.Panel.Render
import DeskPanel.Panel.Size
import DeskPanel.Proofs.Pool
import DeskPanel.Proofs.Registry
import DeskPanel.Proofs.RowExtent
import DeskPanel.Proofs.Frame
import DeskPanel.Proofs.NoLostFrame
import DeskPanel.Proofs.OutputScale
import DeskPanel.Proofs.Release
import DeskPanel.Proofs.Tape
import DeskPanel.Proofs.LoopPhases
import DeskPanel.Proofs.ReadDiscipline
import DeskPanel.Proofs.RowGeometry
import DeskPanel.Proofs.HitTest
import DeskPanel.Proofs.RenderOutcome
import DeskPanel.Proofs.Press
import DeskPanel.Proofs.ColorText
import DeskPanel.Raster.Canvas
import DeskPanel.Raster.Clip
import DeskPanel.Raster.Cover
import DeskPanel.Session.Client
import DeskPanel.Session.Compositor
import DeskPanel.Session.Connection
import DeskPanel.Session.Live
import DeskPanel.Session.Wire
import DeskPanel.Surface.Memory
import DeskPanel.Surface.Pool
import DeskPanel.Text.Classes
import DeskPanel.Text.Quote
import DeskPanel.Toml.Assemble
import DeskPanel.Toml.Document
import DeskPanel.Toml.Report
import DeskPanel.Toml.Scalar
import DeskPanel.Toml.Written
import DeskPanel.Window.Registry
import DeskPanel.Window.State
import DeskPanel.Word
import DeskPanel.Proofs.MarkupGrammar
import DeskPanel.Proofs.Coverage
import DeskPanel.Proofs.SingleWhole
import DeskPanel.Proofs.RectCover
import DeskPanel.Proofs.CanvasPixels
import DeskPanel.Proofs.PaintedFrame
import DeskPanel.Proofs.ColorRoundTrip
import DeskPanel.Proofs.MinuteBoundary
import DeskPanel.Proofs.PoolReuse
import DeskPanel.Proofs.RunEnds
import DeskPanel.Proofs.ReportedState
import DeskPanel.Proofs.QuotedText
import DeskPanel.Proofs.FileStem
