import DropletVision.Background.Median
import DropletVision.Background.Model
import DropletVision.Binarize.Threshold
import DropletVision.Buffer.Ring
import DropletVision.Camera.Sequence
import DropletVision.Camera.Ser
import DropletVision.Camera.Source
import DropletVision.Camera.Synthetic
import DropletVision.Cli.Clock
import DropletVision.Cli.Console
import DropletVision.Cli.Detect
import DropletVision.Cli.Execute
import DropletVision.Cli.Inspect
import DropletVision.Cli.Invocation
import DropletVision.Cli.Parse
import DropletVision.Cli.Preset
import DropletVision.Cli.Render
import DropletVision.Cli.Report
import DropletVision.Cli.Spec
import DropletVision.Cli.Usage
import DropletVision.Cli.Value
import DropletVision.Codec.Checksum
import DropletVision.Codec.Inflate
import DropletVision.Codec.Zlib
import DropletVision.Config.Basic
import DropletVision.Config.Document
import DropletVision.Config.Patch
import DropletVision.Config.Profile
import DropletVision.Config.ProfileFile
import DropletVision.Contour.Components
import DropletVision.Contour.Geometry
import DropletVision.Contour.Trace
import DropletVision.Controller.Basic
import DropletVision.Controller.Command
import DropletVision.Controller.Measurements
import DropletVision.Decimal.Read
import DropletVision.Decimal.Shortest
import DropletVision.Decimal.Text
import DropletVision.Detection.Artifact
import DropletVision.Detection.Detector
import DropletVision.Detection.Measure
import DropletVision.Detection.Preprocess
import DropletVision.Detection.Segment
import DropletVision.Diagnostic
import DropletVision.Error
import DropletVision.FileTree
import DropletVision.Filter.Blur
import DropletVision.Frame
import DropletVision.Image.Bmp
import DropletVision.Image.Farbfeld
import DropletVision.Image.File
import DropletVision.Image.Gif
import DropletVision.Image.NeuQuant
import DropletVision.Image.Png
import DropletVision.Image.Pnm
import DropletVision.Image.Qoi
import DropletVision.Image.Tga
import DropletVision.Image.Tiff
import DropletVision.Image.Tiff.Compression
import DropletVision.Image.Tiff.Directory
import DropletVision.Image.Webp
import DropletVision.Image.Webp.Lossless
import DropletVision.Image.Webp.Prefix
import DropletVision.Json.Geometry
import DropletVision.Json.Measurement
import DropletVision.Json.Outcome
import DropletVision.Json.Parse
import DropletVision.Json.Raster
import DropletVision.Json.Read
import DropletVision.Json.Value
import DropletVision.Json.Write
import DropletVision.Log.RawLog
import DropletVision.Log.Timing
import DropletVision.Main
import DropletVision.Mask
import DropletVision.Morphology
import DropletVision.Numeric
import DropletVision.Plane
import DropletVision.Random.ChaCha
import DropletVision.Roi
import DropletVision.Ser.Header
import DropletVision.Ser.Reader
import DropletVision.Ser.Writer
import DropletVision.Statistics.Histogram
import DropletVision.Synthetic.Ellipse
import DropletVision.Toml.Parse
import DropletVision.Toml.Scan
import DropletVision.Toml.Tree
import DropletVision.Toml.Write
import DropletVision.Unicode
import DropletVision.Proofs.Detector.Session
import DropletVision.Proofs.Detector.FailedFrame
import DropletVision.Proofs.Detector.WarmUp
import DropletVision.Proofs.Background.Reference
import DropletVision.Proofs.Background.Median
import DropletVision.Proofs.Components.UnionFind
import DropletVision.Proofs.Components.Connectivity
import DropletVision.Proofs.Components.FirstPass
import DropletVision.Proofs.Components.SecondPass
import DropletVision.Proofs.Components.Labeling
import DropletVision.Proofs.Contour.Neighbours
import DropletVision.Proofs.Contour.Orbit
import DropletVision.Proofs.Contour.Cracks
import DropletVision.Proofs.Contour.Winding
import DropletVision.Proofs.Contour.Compress
import DropletVision.Proofs.Contour.Outline
import DropletVision.Proofs.Buffer.Ring
import DropletVision.Proofs.Controller.Session
import DropletVision.Proofs.Controller.Ledger
import DropletVision.Proofs.Controller.Calibration
import DropletVision.Controller.Interleaving
import DropletVision.Proofs.Controller.Interleaving
import DropletVision.Proofs.Controller.InFlight
import DropletVision.Proofs.Controller.Handover
import DropletVision.Controller.ConfigWriters
import DropletVision.Proofs.Controller.SerialWrites
import DropletVision.Proofs.Ser.Header
import DropletVision.Proofs.Ser.RoundTrip
import DropletVision.Proofs.Config.ProfileDocument
import DropletVision.Proofs.Morphology.Filters
import DropletVision.Proofs.Controller.Lifecycle
import DropletVision.Proofs.Contour.Polygon
import DropletVision.Proofs.Contour.Border
import DropletVision.Proofs.Binarize.Adaptive
import DropletVision.Proofs.Contour.Moments
import DropletVision.Proofs.Binarize.Otsu
import DropletVision.Proofs.Detector.Reconfigure
import DropletVision.Proofs.Config.Fields
import DropletVision.Proofs.Controller.ConfigUpdate
import DropletVision.Proofs.Ser.Reader
import DropletVision.Proofs.Float.Integers
import DropletVision.Proofs.Contour.ExactArea
import DropletVision.Proofs.Detection.Metrics
import DropletVision.Proofs.Statistics.Windows
import DropletVision.Proofs.Config.Spellings
import DropletVision.Controller.Sessions
import DropletVision.Proofs.Controller.StaleSession
import DropletVision.Proofs.Float.Truncation
import DropletVision.Proofs.Camera.Scene
import DropletVision.Proofs.Camera.RegionCapture
import DropletVision.Proofs.Buffer.History
import DropletVision.Proofs.Decimal.Fixed
import DropletVision.Proofs.Log.Export
import DropletVision.Proofs.Statistics.Mode
import DropletVision.Proofs.Statistics.Histogram
import DropletVision.Proofs.Filter.Gaussian
