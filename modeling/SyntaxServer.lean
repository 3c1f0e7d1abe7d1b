import SyntaxServer.Main
import SyntaxServer.Proofs.Frame.Refused
import SyntaxServer.Proofs.Server.History
import SyntaxServer.Proofs.Server.Backend
import SyntaxServer.Proofs.Server.Turns
import SyntaxServer.Proofs.Server.Unnoticed
import SyntaxServer.Server.Scripted
import SyntaxServer.Proofs.Server.Causal
import SyntaxServer.Proofs.Server.Documents
import SyntaxServer.Proofs.Server.Outbox
import SyntaxServer.Proofs.Server.Inert
import SyntaxServer.Proofs.Frame.Pieces
import SyntaxServer.Proofs.Server.Output
import SyntaxServer.Proofs.Server.Renaming
import SyntaxServer.Proofs.Server.Failure
import SyntaxServer.Proofs.Rpc.Grammar
import SyntaxServer.Proofs.Frame.Outcome
import SyntaxServer.Proofs.Syntax.Conversion
import SyntaxServer.Proofs.Syntax.Drawing
import SyntaxServer.Proofs.Syntax.Fence
import SyntaxServer.Proofs.Server.Tokens
import SyntaxServer.Proofs.Rpc.Codes
import SyntaxServer.Proofs.Frame.Truncation
import SyntaxServer.Proofs.Server.Quiet
import SyntaxServer.Proofs.Server.Loop
