import UsbdUac2.Lib.Writer
import UsbdUac2.Lib.Frames
import UsbdUac2.Lib.Runs
import UsbdUac2.Lib.BoundedLog
import UsbdUac2.Lib.FixedPoint
import UsbdUac2.Lib.LastWrite
import UsbdUac2.Lib.Loops
import UsbdUac2.Lib.Naming
import UsbdUac2.Lib.Circular
import UsbdUac2.Lib.Simulation
import UsbdUac2.Lib.Proportional
import UsbdUac2.Lib.Signed
import UsbdUac2.Constants
import UsbdUac2.Cursor
import UsbdUac2.UsbDevice
import UsbdUac2.Descriptors
import UsbdUac2.Encoding
import UsbdUac2.BufferWriter
import UsbdUac2.Sizes
import UsbdUac2.AcBlock
import UsbdUac2.Decode
import UsbdUac2.CursorLog
import UsbdUac2.BoundedEncoding
import UsbdUac2.Handler
import UsbdUac2.Feedback
import UsbdUac2.Terminals
import UsbdUac2.Builder
import UsbdUac2.AudioClass
import UsbdUac2.Events
import UsbdUac2.Wiring
import UsbdUac2.Effects
import UsbdUac2.Bench
import UsbdUac2.ClockRange
import UsbdUac2.Settings
import UsbdUac2.Agreement
import UsbdUac2.DeclaredSettings
import UsbdUac2.NonInterference
import UsbdUac2.Routing
import UsbdUac2.Acknowledgement
import UsbdUac2.Streaming
import UsbdUac2.Polling
import UsbdUac2.Draining
import UsbdUac2.NominalRate
import UsbdUac2.PacketSize
import UsbdUac2.Layout
import UsbdUac2.Configuration
import UsbdUac2.Topology
import UsbdUac2.DmaRing
import UsbdUac2.RingLog
import UsbdUac2.RingQueue
import UsbdUac2.DmaEngine
import UsbdUac2.DmaPlayback
import UsbdUac2.PlaybackOrder
import UsbdUac2.ConsumedBytes
import UsbdUac2.RateControl
import UsbdUac2.Regulation
import UsbdUac2.CursorTape
import UsbdUac2.FrameQueue
import UsbdUac2.FramePlayback
import UsbdUac2.FrameCapture
import UsbdUac2.ReadBack
import UsbdUac2.Description
import UsbdUac2.Responses
import UsbdUac2.Calls
import UsbdUac2.Player
import UsbdUac2.DmaDevice
import UsbdUac2.FeedbackPackets
import UsbdUac2.DmaSystem
import UsbdUac2.InterruptDevice
import UsbdUac2.InterruptSystem
