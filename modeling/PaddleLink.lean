import PaddleLink.Main
import PaddleLink.Proofs.Client.Alive
import PaddleLink.Proofs.Client.Bulletin
import PaddleLink.Proofs.Client.Closing
import PaddleLink.Proofs.Client.Failure
import PaddleLink.Proofs.Client.Packing
import PaddleLink.Proofs.Client.Relay
import PaddleLink.Proofs.Client.Reset
import PaddleLink.Proofs.Client.Roster
import PaddleLink.Proofs.CommandLine.Groups
import PaddleLink.Proofs.Decimal.Normal
import PaddleLink.Proofs.Lobby.Batch
import PaddleLink.Proofs.Lobby.History
import PaddleLink.Proofs.Paddles.Presses
import PaddleLink.Proofs.Paddles.Publishing
import PaddleLink.Proofs.Paddles.Sources
import PaddleLink.Proofs.Play.Release
import PaddleLink.Proofs.Play.Solo
import PaddleLink.Proofs.Presence.Watch
import PaddleLink.Proofs.Topics.Streams
import PaddleLink.Proofs.Transport.Exchange
import PaddleLink.Proofs.Transport.Polling
import PaddleLink.Proofs.Transport.Probing
import PaddleLink.Proofs.Transport.Target
import PaddleLink.Proofs.Transport.Traffic
import PaddleLink.Proofs.Wire.Envelopes
import PaddleLink.Proofs.Wire.Messages
import PaddleLink.Proofs.Wire.RoundTrip
import PaddleLink.Proofs.Wire.Tolerance
