import QuicMix.Foundations.Schedule
import QuicMix.Foundations.Lists
import QuicMix.Foundations.Channel
import QuicMix.Foundations.Spacing
import QuicMix.Foundations.Expiry
import QuicMix.Foundations.Mixing
import QuicMix.Foundations.Text
import QuicMix.Foundations.Binary64
import QuicMix.Foundations.Buffered
import QuicMix.Foundations.Frames
import QuicMix.Pool.WarmPool
import QuicMix.Pool.Moves
import QuicMix.Pool.Drain
import QuicMix.Pool.Population
import QuicMix.Pool.Ingress
import QuicMix.Pool.Rotation
import QuicMix.Pool.Metrics
import QuicMix.Boundary.Substrate
import QuicMix.Boundary.Traffic
import QuicMix.Boundary.SendSide
import QuicMix.Boundary.ReceiveSide
import QuicMix.Boundary.Pacing
import QuicMix.Boundary.Decorators
import QuicMix.Boundary.Steps
import QuicMix.Boundary.Spent
import QuicMix.Boundary.Progress
import QuicMix.Boundary.Transparency
import QuicMix.Boundary.Front
import QuicMix.Boundary.Teardown
import QuicMix.Boundary.Relay
import QuicMix.Boundary.Replies
import QuicMix.Boundary.Passage
import QuicMix.Framing.StreamDatagram
import QuicMix.Framing.RoundTrip
import QuicMix.Framing.StreamBridge
import QuicMix.Gateway.Directory
import QuicMix.Gateway.Autopilot
import QuicMix.Gateway.Freshness
import QuicMix.Gateway.Certificate
import QuicMix.Gateway.Selection
import QuicMix.Gateway.Stream
import QuicMix.Gateway.Carriage
import QuicMix.Katzenpost.Token
import QuicMix.Nym.Gateway
import QuicMix.Nym.ReplyLeg
import QuicMix.Nym.Isolation
import QuicMix.Foundations.Ranks
import QuicMix.Foundations.Search
import QuicMix.Foundations.Lossy
import QuicMix.Foundations.Checked
import QuicMix.Foundations.Script
import QuicMix.Foundations.Numerals
import QuicMix.Foundations.RoundRobin
import QuicMix.Foundations.Rounding
import QuicMix.Foundations.Ranges
import QuicMix.Oracle.Estimator
import QuicMix.Oracle.Measured
import QuicMix.Oracle.Transport
import QuicMix.Oracle.Seeding
import QuicMix.Oracle.Shared
import QuicMix.Pool.Dialing
import QuicMix.Pool.Healing
import QuicMix.Pool.Fairness
import QuicMix.Fetch.Chunked
import QuicMix.Fetch.Encoding
import QuicMix.Fetch.Url
import QuicMix.Fetch.Redirect
import QuicMix.Fetch.Target
import QuicMix.Gateway.Addresses
import QuicMix.Gateway.Routable
import QuicMix.Tor.Socks
import QuicMix.Tor.Target
import QuicMix.Ingress.HopByHop
import QuicMix.Katzenpost.Receive
import QuicMix.Katzenpost.Resolve
import QuicMix.Hopr.Session
import QuicMix.Multipath.Striped
import QuicMix.Multipath.Blend
import QuicMix.Multipath.Emulator
import QuicMix.Tor.Tunnel
import QuicMix.Tor.Directions
import QuicMix.Tor.Delivery
import QuicMix.Tor.Health
import QuicMix.Tor.Quiescence
import QuicMix.Gateway.Literals
import QuicMix.Gateway.Environment
import QuicMix.Ingress.Connect
import QuicMix.Ingress.Splice
import QuicMix.Ingress.Answers
import QuicMix.Ingress.Progress
import QuicMix.Ingress.EndToEnd
import QuicMix.Katzenpost.Handshake
import QuicMix.Foundations.Drawn
import QuicMix.Foundations.Related
import QuicMix.Nym.Bridge
import QuicMix.Nym.Failures
import QuicMix.Nym.Network
import QuicMix.Rotation.Sessions
import QuicMix.Rotation.Continuity
import QuicMix.Measure.Session
import QuicMix.Measure.Report
import QuicMix.Measure.Probe
import QuicMix.Katzenpost.Requests
import QuicMix.Katzenpost.Wires
