import FrameLink.Address
import FrameLink.Address.Text
import FrameLink.Bench
import FrameLink.Binary64
import FrameLink.Binary64.Shortest
import FrameLink.Buffer
import FrameLink.Bytes
import FrameLink.Codec
import FrameLink.Config
import FrameLink.Config.Environment
import FrameLink.Config.Files
import FrameLink.Config.Reading
import FrameLink.Config.Words
import FrameLink.Config.Writing
import FrameLink.Error
import FrameLink.Error.Kind
import FrameLink.Error.Stored
import FrameLink.Folder
import FrameLink.Frame
import FrameLink.LogLevel
import FrameLink.Metrics
import FrameLink.Mismatch
import FrameLink.Proofs.Buffer
import FrameLink.Proofs.Codec.Agreement
import FrameLink.Proofs.Codec.Ceiling
import FrameLink.Proofs.Codec.Decoding
import FrameLink.Proofs.Codec.Language
import FrameLink.Proofs.Config.Acceptance
import FrameLink.Proofs.Config.Documents
import FrameLink.Proofs.Config.Environment
import FrameLink.Proofs.Config.Files
import FrameLink.Proofs.Config.Layering
import FrameLink.Proofs.Config.Settling
import FrameLink.Proofs.Config.Words
import FrameLink.Proofs.Error.Stored
import FrameLink.Proofs.Fleet.Basic
import FrameLink.Proofs.Fleet.Counters
import FrameLink.Proofs.Fleet.Reports
import FrameLink.Proofs.Folder
import FrameLink.Proofs.Frame.Deframe
import FrameLink.Proofs.Frame.Format
import FrameLink.Proofs.Frame.PrefixCode
import FrameLink.Proofs.Link.Basic
import FrameLink.Proofs.Link.Delivery
import FrameLink.Proofs.Link.Directions
import FrameLink.Proofs.Link.Draining
import FrameLink.Proofs.Link.Duplex
import FrameLink.Proofs.Link.Farewell
import FrameLink.Proofs.Link.Stream
import FrameLink.Proofs.Link.Wire
import FrameLink.Proofs.Metrics
import FrameLink.Proofs.Reception.Arrivals
import FrameLink.Proofs.Reception.Basic
import FrameLink.Proofs.Reception.FanOut
import FrameLink.Proofs.Reception.Guests
import FrameLink.Proofs.Reception.Numbers
import FrameLink.Proofs.Reception.Service
import FrameLink.Proofs.Socket.Accepting
import FrameLink.Proofs.Socket.Atomic
import FrameLink.Proofs.Socket.Bounds
import FrameLink.Proofs.Socket.Calls
import FrameLink.Proofs.Socket.Closing
import FrameLink.Proofs.Socket.Conservation
import FrameLink.Proofs.Socket.Draining
import FrameLink.Proofs.Socket.Failures
import FrameLink.Proofs.Socket.Halves
import FrameLink.Proofs.Socket.Hearing
import FrameLink.Proofs.Socket.LastError
import FrameLink.Proofs.Socket.Life
import FrameLink.Proofs.Socket.Limits
import FrameLink.Proofs.Socket.Listening
import FrameLink.Proofs.Socket.Map
import FrameLink.Proofs.Socket.Mishaps
import FrameLink.Proofs.Socket.News
import FrameLink.Proofs.Socket.Overflow
import FrameLink.Proofs.Socket.Packets
import FrameLink.Proofs.Socket.Queue
import FrameLink.Proofs.Socket.Reach
import FrameLink.Proofs.Socket.Reassembly
import FrameLink.Proofs.Socket.Receiving
import FrameLink.Proofs.Socket.Refusal
import FrameLink.Proofs.Socket.Sending
import FrameLink.Proofs.Socket.Shape
import FrameLink.Proofs.Text.Words
import FrameLink.Proofs.Toml.Escapes
import FrameLink.Proofs.Toml.Given
import FrameLink.Proofs.Toml.Integers
import FrameLink.Proofs.Toml.Lines
import FrameLink.Proofs.Toml.Literals
import FrameLink.Proofs.Toml.Numbers
import FrameLink.Proofs.Toml.Quotes
import FrameLink.Proofs.Toml.Strings
import FrameLink.Proofs.Toml.Tables
import FrameLink.Proofs.Toml.Values
import FrameLink.Proofs.Transport.Account
import FrameLink.Proofs.Transport.Alike
import FrameLink.Proofs.Transport.Confined
import FrameLink.Proofs.Transport.Ending
import FrameLink.Proofs.Transport.Journal
import FrameLink.Proofs.Transport.Mute
import FrameLink.Proofs.Transport.Pipes
import FrameLink.Report
import FrameLink.Socket
import FrameLink.Socket.Input
import FrameLink.Socket.Operation
import FrameLink.Socket.Output
import FrameLink.Text.Blank
import FrameLink.Text.Number
import FrameLink.Text.Quoted
import FrameLink.Text.Scan
import FrameLink.Text.Visible
import FrameLink.Toml.DateTimes
import FrameLink.Toml.Diagnostic
import FrameLink.Toml.Document
import FrameLink.Toml.Keys
import FrameLink.Toml.Lines
import FrameLink.Toml.Node
import FrameLink.Toml.Numbers
import FrameLink.Toml.Strings
import FrameLink.Toml.Tables
import FrameLink.Toml.Values
import FrameLink.Toml.Writing
import FrameLink.Transport
import FrameLink.Transport.Memory
import FrameLink.Transport.Scripted
import FrameLink.Proofs.Error.Stored
