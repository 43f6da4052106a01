import OscRemote.Octets
import OscRemote.Text.Quoted
import OscRemote.Text.Lowercase
import OscRemote.Text.Blank
import OscRemote.Number.Literal
import OscRemote.Number.Shortest
import OscRemote.Yaml.Scalar.Read
import OscRemote.Yaml.Token.Scan
import OscRemote.Yaml.Node.OfTokens
import OscRemote.Yaml.Scalar.Write
import OscRemote.Message.Decode
import OscRemote.Message.ReadArgument
import OscRemote.Bundle
import OscRemote.Config.Validate
import OscRemote.Config.Load
import OscRemote.Command.Basic
import OscRemote.Transport.System
import OscRemote.Peer
import OscRemote.Client.Caller
import OscRemote.Client.Start
import OscRemote.Client.Threads
import OscRemote.Shell.Session
import OscRemote.CommandLine.Run
import OscRemote.Main
import OscRemote.Proofs.Transport.Session
import OscRemote.Proofs.Transport.Wakeup
import OscRemote.Proofs.Transport.Status
import OscRemote.Proofs.Transport.Connection
import OscRemote.Proofs.Transport.Drain
import OscRemote.Proofs.Message.Decode
import OscRemote.Proofs.Message.Acceptance
import OscRemote.Proofs.Message.Equality
import OscRemote.Proofs.Message.Padding
import OscRemote.Proofs.Frame
import OscRemote.Proofs.Bundle
import OscRemote.Proofs.Datagram
import OscRemote.Proofs.Client.Bundling
import OscRemote.Proofs.Client.Delivery
import OscRemote.Proofs.Client.Progress
import OscRemote.Proofs.Client.Lifetime
import OscRemote.Proofs.Client.Caller
import OscRemote.Proofs.Client.Threads
import OscRemote.Proofs.Client.Rest
import OscRemote.Proofs.Client.Closing
import OscRemote.Proofs.Client.Effect
import OscRemote.Proofs.Client.Failure
import OscRemote.Proofs.Client.Start
import OscRemote.Proofs.Peer.Schedule
import OscRemote.Proofs.Shell.Session
import OscRemote.Proofs.Shell.Failure
import OscRemote.Proofs.Shell.Chained
import OscRemote.Proofs.Shell.Agreement
import OscRemote.Proofs.Text.Words
import OscRemote.Proofs.CommandLine.Once
import OscRemote.Proofs.Bundle.Fewest
import OscRemote.Proofs.Message.ReadArgument
import OscRemote.Proofs.Command.Input
import OscRemote.Proofs.Command.Execute
import OscRemote.Proofs.Client.Separation
import OscRemote.Proofs.Keywords
import OscRemote.Proofs.Config.Precedence
import OscRemote.Proofs.Config.RoundTrip
