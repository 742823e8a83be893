import MoqQuic.Congestion.Bbrv1.Bounds
import MoqQuic.Congestion.Bbrv3.Bandwidth
import MoqQuic.Congestion.Bbrv3.Growth
import MoqQuic.Congestion.Bbrv3.Recovery
import MoqQuic.Congestion.Bbrv3.Rounds
import MoqQuic.Congestion.Bbrv3.Spacing
import MoqQuic.Moqt.ControlStream
import MoqQuic.Moqt.Handshake
import MoqQuic.Moqt.Relay.Answers
import MoqQuic.Moqt.Relay.Live
import MoqQuic.Moqt.Subscriber
import MoqQuic.Quic.FlowControl.Conservation
import MoqQuic.Quic.Frames.Durations
import MoqQuic.Quic.Packer.RoundTrip
import MoqQuic.Quic.ReceiveStream.Credit
import MoqQuic.Quic.ReceivedPacketTracker.Replay
import MoqQuic.Quic.RingBuffer
import MoqQuic.Quic.SendStream.Completion
import MoqQuic.Quic.SentPacketHandler.Backoff
import MoqQuic.Quic.SentPacketHandler.RttSamples
import MoqQuic.Quic.StreamFrame.Split
import MoqQuic.Quic.StreamsMap.Incoming.Wakeup
import MoqQuic.Quic.StreamsMap.Outgoing.Fairness
import MoqQuic.Quic.StreamsMap.ResetStreamAt
import MoqQuic.Quic.Transfer
import MoqQuic.WebTransport
import MoqQuic.Wire.Integrity
import MoqQuic.Wire.Pipe
