import Superserver.AdmissionLimit
import Superserver.Capacity
import Superserver.Net.RawAddress
import Superserver.Diagnostics.Script
import Superserver.Diagnostics.Notice
import Superserver.ProcessTable
import Superserver.Loop
import Superserver.Config.Error
import Superserver.Host.Registry
import Superserver.Host.Pipe
import Superserver.Host.FileTree
import Superserver.Rehearsal
import Superserver.Text.Shortest
import Superserver.Text.TerminalCommand
import Superserver.Toml.Document
import Superserver.Toml.Excerpt
import Superserver.Config.File
import Superserver.CommandLine.Parse
import Superserver.CommandLine.Settings
import Superserver.Log.Filter
import Superserver.Log.Line
import Superserver.Shell.Run
import Superserver.Server.Failure
import Superserver.Server.Session
import Superserver.Server.Startup
import Superserver.Server.Serving
import Superserver.Main
import Superserver.Proofs.Table.Lockstep
import Superserver.Proofs.Table.Passes
import Superserver.Proofs.Diagnostics.Forwarding
import Superserver.Proofs.Diagnostics.Draining
import Superserver.Proofs.Diagnostics.Reassembly
import Superserver.Proofs.Supervisor.Steps
import Superserver.Proofs.Supervisor.Conservation
import Superserver.Proofs.Supervisor.Polls
import Superserver.Proofs.Supervisor.Turns
import Superserver.Proofs.Supervisor.Gate
import Superserver.Proofs.Supervisor.Tenures
import Superserver.Proofs.Supervisor.Departures
import Superserver.Proofs.Supervisor.Transcript
import Superserver.Proofs.Supervisor.Atomicity
import Superserver.Proofs.Supervisor.Ownership
import Superserver.Proofs.Supervisor.Budget
import Superserver.Proofs.Diagnostics.Solo
import Superserver.Proofs.Supervisor.Lives
import Superserver.Proofs.Supervisor.Isolation
import Superserver.Proofs.Supervisor.Waiting
import Superserver.Proofs.Supervisor.Exits
import Superserver.Proofs.Supervisor.Muting
import Superserver.Proofs.Text.Fields
import Superserver.Proofs.Text.Decoding
import Superserver.Proofs.Text.Numerals
import Superserver.Proofs.Text.Ascii
import Superserver.Proofs.Net.IpText
import Superserver.Proofs.Net.IpGrammar
import Superserver.Proofs.Net.AddressText
import Superserver.Proofs.Net.AddressGrammar
import Superserver.Proofs.Net.Encoding
import Superserver.Proofs.Supervisor.EventLines
import Superserver.Proofs.Host.Paths
import Superserver.Proofs.Host.Sockets
import Superserver.Proofs.Listener.SocketFiles
import Superserver.Proofs.Server.Limits
import Superserver.Proofs.Server.Loop
import Superserver.Proofs.Supervisor.Reaping
import Superserver.Proofs.Diagnostics.Pieces
import Superserver.Proofs.Supervisor.Tellings
import Superserver.Proofs.Supervisor.LongLines
import Superserver.Proofs.Text.Slices
import Superserver.Proofs.Supervisor.PieceTexts
import Superserver.Proofs.Diagnostics.Searching
import Superserver.Proofs.Supervisor.Outcomes
import Superserver.Proofs.Table.Growth
import Superserver.Proofs.Table.Doubling
import Superserver.Proofs.Net.Peers
import Superserver.Proofs.Supervisor.Remotes
import Superserver.Proofs.Diagnostics.EventTexts
import Superserver.Proofs.Text.Words
import Superserver.Proofs.Net.VsockGrammar
import Superserver.Proofs.Listener.Framing
import Superserver.Proofs.CommandLine.Parameters
import Superserver.Proofs.CommandLine.Scanning
import Superserver.Proofs.CommandLine.Insertion
import Superserver.Proofs.CommandLine.Agreement
