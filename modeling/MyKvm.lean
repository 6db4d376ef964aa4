import MyKvm.Lib.Machine
import MyKvm.Lib.Tries
import MyKvm.Lib.Word
import MyKvm.Lib.Overflow
import MyKvm.Lib.Answer
import MyKvm.Lib.Slots
import MyKvm.Lib.Budget
import MyKvm.Lib.Text
import MyKvm.Lib.Script
import MyKvm.Lib.Trimming
import MyKvm.Lib.Epoch
import MyKvm.Lib.Held
import MyKvm.Lib.BitFlags
import MyKvm.Lib.Alternation
import MyKvm.Lib.Fallible
import MyKvm.Lib.Feed
import MyKvm.Lib.Flight
import MyKvm.Lib.Grip
import MyKvm.Lib.Bytes
import MyKvm.Lib.MessagePack
import MyKvm.Lib.Framing
import MyKvm.Lib.Between
import MyKvm.Lib.Coordinate
import MyKvm.Lib.LastWriter
import MyKvm.Lib.Latest
import MyKvm.Lib.Crew
import MyKvm.Lib.RateWindow
import MyKvm.ControlPorts
import MyKvm.Routing.LocalOverride
import MyKvm.Hook.Hotkeys
import MyKvm.Hook.Shortcuts
import MyKvm.Hook.Registration
import MyKvm.Hook.Notifications
import MyKvm.Hook.Readings
import MyKvm.Hook.Recorder
import MyKvm.Hook.Keyboard
import MyKvm.Hook.Pairing
import MyKvm.Routing.World
import MyKvm.Routing.Router
import MyKvm.Routing.Capture
import MyKvm.Routing.Accounting
import MyKvm.Protocol.Frames
import MyKvm.Protocol.Bulk
import MyKvm.Protocol.Wire
import MyKvm.Protocol.Decoder
import MyKvm.Protocol.Chunking
import MyKvm.Protocol.Rounds
import MyKvm.Receiver.PressedState
import MyKvm.Receiver.MacFlags
import MyKvm.Receiver.Handshake
import MyKvm.Receiver.Mapping
import MyKvm.Receiver.Scaling
import MyKvm.Receiver.Runtime
import MyKvm.Receiver.ControlSteps
import MyKvm.Receiver.InputSteps
import MyKvm.Receiver.Coherence
import MyKvm.Receiver.Lockstep
import MyKvm.Receiver.Admission
import MyKvm.Receiver.Injection
import MyKvm.Receiver.KeyFreeze
import MyKvm.Receiver.Chronicle
import MyKvm.Receiver.Ordering
import MyKvm.Receiver.ExactlyOnce
import MyKvm.Receiver.Teardown
import MyKvm.Receiver.NoStuckKeys
import MyKvm.Receiver.Rejected
import MyKvm.Receiver.Displays
import MyKvm.Receiver.Ended
import MyKvm.Receiver.Late
import MyKvm.Receiver.StreamLaw
import MyKvm.Receiver.Atomic
import MyKvm.Receiver.Lease
import MyKvm.Controller.Handshake
import MyKvm.Controller.Runtime
import MyKvm.Controller.Stages
import MyKvm.Controller.Stamping
import MyKvm.Controller.Coherence
import MyKvm.Controller.Client
import MyKvm.Controller.Standing
import MyKvm.Controller.FailClosed
import MyKvm.Controller.Delayed
import MyKvm.Controller.Farewell
import MyKvm.Controller.Display
import MyKvm.Layout.Screens
import MyKvm.Layout.Identity
import MyKvm.Transport.Registry
import MyKvm.Transport.Lookups
import MyKvm.Transport.Budgets
import MyKvm.Transport.Motion
import MyKvm.Discovery.Peers
import MyKvm.Discovery.Listing
import MyKvm.Discovery.Targets
import MyKvm.Discovery.Packets
import MyKvm.Discovery.Probing
import MyKvm.Pairing.Trust
import MyKvm.Pairing.Challenge
import MyKvm.Discovery.Loop
import MyKvm.Discovery.Sight
import MyKvm.Pairing.Discipline
import MyKvm.Pairing.Confirm
import MyKvm.Pairing.Completion
import MyKvm.Pairing.Loading
import MyKvm.Pairing.Revisions
import MyKvm.Transport.Endpoint
import MyKvm.Transport.Dialing
import MyKvm.Transport.Pacing
import MyKvm.Transport.FrameStreams
import MyKvm.Pointer.Target
import MyKvm.Pointer.Geometry
import MyKvm.Layout.Importing
import MyKvm.Board.Editor
import MyKvm.Layout.Scene
import MyKvm.Settings.Layout
import MyKvm.Settings.Normal
import MyKvm.Settings.Loading
import MyKvm.Files.Names
import MyKvm.Files.Transfer
import MyKvm.Files.Reproduction
import MyKvm.Files.Confined
import MyKvm.Pairing.BothSides
import MyKvm.Pairing.Saves
import MyKvm.Pointer.Checked
import MyKvm.Pointer.Targets
import MyKvm.Pointer.Total
import MyKvm.Pointer.Events
import MyKvm.Pointer.Capturing
import MyKvm.Pointer.Roaming
import MyKvm.Pointer.Harmless
import MyKvm.Clipboard.Engine
import MyKvm.Clipboard.Steps
import MyKvm.Clipboard.Pair
import MyKvm.Clipboard.Convergence
import MyKvm.Clipboard.Fresh
import MyKvm.Clipboard.Desk
import MyKvm.Clipboard.Overwrite
import MyKvm.Clipboard.Echo
import MyKvm.Clipboard.Handler
import MyKvm.Clipboard.Outrank
import MyKvm.Clipboard.Limits
import MyKvm.System.Run
import MyKvm.System.Agreement
import MyKvm.System.Stream
import MyKvm.System.Flowing
import MyKvm.System.Delivery
import MyKvm.System.Pointing
import MyKvm.System.Pointer
import MyKvm.Receiver.Typing
import MyKvm.Receiver.Telling
import MyKvm.System.Keyboard
import MyKvm.Controller.Keeping
import MyKvm.Pointer.CaptureThread
import MyKvm.Pointer.GivenBack
import MyKvm.Lib.Posts
import MyKvm.Runtime.Commands
import MyKvm.Runtime.Lifecycle
import MyKvm.Transport.Lanes
