import CameraOverlay.Assets
import CameraOverlay.Catalog
import CameraOverlay.Cli.Host
import CameraOverlay.Cli.Memory
import CameraOverlay.Cli.Options
import CameraOverlay.Cli.Run
import CameraOverlay.Color
import CameraOverlay.Composite.Blit
import CameraOverlay.Composite.Key
import CameraOverlay.Composite.LumaKey
import CameraOverlay.Composite.Marker
import CameraOverlay.Composite.YuvKey
import CameraOverlay.Config
import CameraOverlay.Decimal.Shortest
import CameraOverlay.Detections
import CameraOverlay.Detector
import CameraOverlay.Face.Basic
import CameraOverlay.Face.Mapping
import CameraOverlay.Filter
import CameraOverlay.Frame
import CameraOverlay.Frame.Format
import CameraOverlay.Frame.Planes
import CameraOverlay.Gesture
import CameraOverlay.Image.Deflate
import CameraOverlay.Image.Gif
import CameraOverlay.Image.Inflate
import CameraOverlay.Image.Jpeg
import CameraOverlay.Image.NeuQuant
import CameraOverlay.Image.Png
import CameraOverlay.Image.PngRead
import CameraOverlay.Image.Tiff
import CameraOverlay.Image.WebP
import CameraOverlay.Image.Formats
import CameraOverlay.Json.Number
import CameraOverlay.Json.Reader
import CameraOverlay.Main
import CameraOverlay.Mode
import CameraOverlay.Path
import CameraOverlay.Pipeline
import CameraOverlay.Preview
import CameraOverlay.Session
import CameraOverlay.Settings
import CameraOverlay.Sprite
import CameraOverlay.Sprite.Rgba
import CameraOverlay.Stats
import CameraOverlay.Text.Lowercase
import CameraOverlay.Text.Printable
import CameraOverlay.Text.Quoted
import CameraOverlay.Text.Ranges
import CameraOverlay.Proofs.Overwrite
import CameraOverlay.Proofs.FrameIndex
import CameraOverlay.Proofs.Compositing
import CameraOverlay.Proofs.KeyAgreement
import CameraOverlay.Proofs.StickerImages
import CameraOverlay.Proofs.SessionInvariant
import CameraOverlay.Proofs.FrameProcessing
import CameraOverlay.Proofs.DetectionControl
import CameraOverlay.Proofs.DetectorCadence
import CameraOverlay.Proofs.CompositeExact
import CameraOverlay.Proofs.GestureRun
import CameraOverlay.Proofs.StickerDrawing
import CameraOverlay.Proofs.ButtonCycles
import CameraOverlay.Proofs.CadenceSchedule
import CameraOverlay.Proofs.MarkerSquares
import CameraOverlay.Proofs.SpriteSampling
import CameraOverlay.Proofs.SensorBox
import CameraOverlay.Proofs.FilterBytes
import CameraOverlay.Proofs.ByteStream
import CameraOverlay.Proofs.PreviewLayout
import CameraOverlay.Proofs.PlaneBounds
import CameraOverlay.Proofs.CallCounters
