import McAttControl.Base.Scalar
import McAttControl.Base.Matrix
import McAttControl.Controller.Messages
import McAttControl.Controller.State
import McAttControl.Controller.AttitudeLaw
import McAttControl.Controller.RateControl
import McAttControl.Controller.RateLimits
import McAttControl.Controller.Mixer
import McAttControl.Controller.Ude
import McAttControl.Controller.UdeLaws
import McAttControl.Geometry.Quaternion
import McAttControl.Geometry.ShortestArc
import McAttControl.Geometry.YawBlend
import McAttControl.Geometry.ErrorLaw
import McAttControl.Loop.Run
import McAttControl.Loop.Frame
import McAttControl.Loop.Integrators
import McAttControl.Loop.Termination
import McAttControl.Loop.Reset
import McAttControl.Loop.Rattitude
import McAttControl.Loop.UdeDispatch
import McAttControl.Loop.LoopRate
import McAttControl.Loop.Polls
import McAttControl.Loop.Subscriptions
import McAttControl.Loop.Wiring
import McAttControl.Loop.Commands
import McAttControl.Loop.UdeClock
import McAttControl.Loop.CommandValues
