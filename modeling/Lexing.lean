import Lexing.EventLog
import Lexing.Main
import Lexing.Proofs.Grammar
import Lexing.Proofs.Text.CodePoint
import Lexing.Proofs.Routing
import Lexing.Proofs.Lexeme.Numeral
import Lexing.Proofs.Lexeme.Plain
import Lexing.Proofs.Lexeme.Quotation
import Lexing.Proofs.Lexeme.Slash
import Lexing.Proofs.Recognition
import Lexing.Proofs.Call
import Lexing.Proofs.Reachable
import Lexing.Proofs.FaultSite
import Lexing.Proofs.Coverage
import Lexing.Proofs.Gathering
import Lexing.Proofs.Filtering
import Lexing.Proofs.Parsing
import Lexing.Proofs.Relocation
import Lexing.Proofs.Restart
import Lexing.Proofs.Composition
import Lexing.Proofs.Stability
import Lexing.Proofs.Found
import Lexing.Proofs.Entry
import Lexing.Proofs.Surroundings
import Lexing.Proofs.Spelling
import Lexing.Proofs.Tiling
import Lexing.Proofs.Literal
import Lexing.Proofs.Modes
import Lexing.Proofs.Interchange
import Lexing.Proofs.Slot
import Lexing.Proofs.Verdict
import Lexing.Proofs.Verdict.Slash
import Lexing.Proofs.Verdict.Numeral
import Lexing.Proofs.Verdict.Quotation
import Lexing.Proofs.Output.TokenLine
import Lexing.Proofs.Output.Json
import Lexing.Proofs.Agreement
import Lexing.Proofs.Walk
import Lexing.Proofs.Text.Decimal
import Lexing.Proofs.Excerpt
import Lexing.Proofs.Text.Escaping
import Lexing.Proofs.Text.Quoted
import Lexing.Proofs.Output.Json.Apart
