import WireframeGpu.Data.Bresenham
import WireframeGpu.Data.Chord
import WireframeGpu.Data.Circle
import WireframeGpu.Data.FixedPoint
import WireframeGpu.Data.Interleaving
import WireframeGpu.Data.Istream
import WireframeGpu.Data.Numeral
import WireframeGpu.Data.Segment
import WireframeGpu.Data.SerialArithmetic
import WireframeGpu.Data.Trace
import WireframeGpu.Display.Blackout
import WireframeGpu.Display.Device
import WireframeGpu.Display.DoubleBuffer
import WireframeGpu.Display.OutputScreen
import WireframeGpu.Display.Prompt
import WireframeGpu.Display.Rate
import WireframeGpu.Display.ScanOut
import WireframeGpu.Display.VgaController
import WireframeGpu.Display.WholePictures
import WireframeGpu.Line.Course
import WireframeGpu.Line.Exactness
import WireframeGpu.Line.Output
import WireframeGpu.Line.Rasterize
import WireframeGpu.Line.Run
import WireframeGpu.Line.Termination
import WireframeGpu.Polygon.Ahead
import WireframeGpu.Polygon.Angles
import WireframeGpu.Polygon.Barrier
import WireframeGpu.Polygon.Control
import WireframeGpu.Polygon.Cube
import WireframeGpu.Polygon.Drawing
import WireframeGpu.Polygon.Frame
import WireframeGpu.Polygon.Frames
import WireframeGpu.Polygon.Freshness
import WireframeGpu.Polygon.Lockstep
import WireframeGpu.Polygon.Perspective
import WireframeGpu.Polygon.Progress
import WireframeGpu.Polygon.Projected
import WireframeGpu.Polygon.Raster
import WireframeGpu.Polygon.Rotation
import WireframeGpu.Polygon.Turning
import WireframeGpu.Projection.Accuracy
import WireframeGpu.Projection.Behind
import WireframeGpu.Projection.Control
import WireframeGpu.Projection.Depth
import WireframeGpu.Projection.Divider
import WireframeGpu.Projection.Exact
import WireframeGpu.Projection.Handshake
import WireframeGpu.Projection.History
import WireframeGpu.Projection.Machine
import WireframeGpu.Projection.Multiplier
import WireframeGpu.Projection.Outcome
import WireframeGpu.Projection.Screen
import WireframeGpu.Projection.Triangle
import WireframeGpu.Projection.Visible
import WireframeGpu.Software.Banks
import WireframeGpu.Software.Corners
import WireframeGpu.Software.Faces
import WireframeGpu.Software.Main
import WireframeGpu.Software.Spelling
import WireframeGpu.Software.Text
import WireframeGpu.Top.Angle
import WireframeGpu.Top.Animation
import WireframeGpu.Top.Boot
import WireframeGpu.Top.Contents
import WireframeGpu.Top.Depiction
import WireframeGpu.Top.FrameTime
import WireframeGpu.Top.Frames
import WireframeGpu.Top.Geometry
import WireframeGpu.Top.Gpu
import WireframeGpu.Top.Loaded
import WireframeGpu.Top.Loading
import WireframeGpu.Top.Loop
import WireframeGpu.Top.ObjectFile
import WireframeGpu.Top.OnScreen
import WireframeGpu.Top.Pace
import WireframeGpu.Top.Phase
import WireframeGpu.Top.Picture
import WireframeGpu.Top.Progress
import WireframeGpu.Top.Registerfile
import WireframeGpu.Top.Reloading
import WireframeGpu.Top.Render
import WireframeGpu.Top.Sides
import WireframeGpu.Top.StartGate
import WireframeGpu.Top.Underway
import WireframeGpu.Top.VertexArray
import WireframeGpu.Top.Visibility
import WireframeGpu.Top.WholeModels
import WireframeGpu.Top.Wireframe
