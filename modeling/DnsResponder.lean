import DnsResponder.Main
import DnsResponder.Replay.FileTree
import DnsResponder.Proofs.Engine.Completeness
import DnsResponder.Proofs.Packet.Exactness
import DnsResponder.Proofs.Engine.Finality
import DnsResponder.Proofs.Checksum
import DnsResponder.Proofs.Engine.Integrity
import DnsResponder.Proofs.Engine.Safety
import DnsResponder.Proofs.Transcript
import DnsResponder.Proofs.Served.History
import DnsResponder.Proofs.Administration.NameMap
import DnsResponder.Proofs.Engine.Conservation
import DnsResponder.Proofs.Engine.Filter
import DnsResponder.Proofs.Engine.Surroundings
import DnsResponder.Proofs.Engine.Stages
import DnsResponder.Proofs.Engine.Observers
import DnsResponder.Proofs.Engine.DryRun
import DnsResponder.Proofs.Engine.Order
import DnsResponder.Proofs.Replay.Jobs
import DnsResponder.Proofs.Replay.Preparation
import DnsResponder.Proofs.Replay.Workers
import DnsResponder.Proofs.Replay.Independence
import DnsResponder.Proofs.Dns.Decoding
import DnsResponder.Proofs.Dns.Spelling
import DnsResponder.Proofs.Dns.RoundTrip
import DnsResponder.Proofs.Packet.Extension
import DnsResponder.Proofs.Reply.Limits
import DnsResponder.Proofs.Replay.Growth
import DnsResponder.Proofs.Reply.Exchange
import DnsResponder.Proofs.Engine.Policies
import DnsResponder.Proofs.Engine.Echo
import DnsResponder.Proofs.Checksum.Verifier
import DnsResponder.Proofs.Checksum.Datagram
import DnsResponder.Proofs.Metrics.Sharding
import DnsResponder.Proofs.Log.Breadcrumbs
import DnsResponder.Proofs.Log.Limiter
import DnsResponder.Proofs.Log.Emission
import DnsResponder.Proofs.Frame.Discipline
import DnsResponder.Proofs.Frame.Reading
import DnsResponder.Proofs.Text.Zeros
import DnsResponder.Proofs.Dns.Shown
import DnsResponder.Proofs.Log.Topics
import DnsResponder.Proofs.Engine.Questions
import DnsResponder.Proofs.Replay.FrameFile
import DnsResponder.Proofs.Checksum.Folding
import DnsResponder.Proofs.Records.Spread
import DnsResponder.Proofs.Capture
