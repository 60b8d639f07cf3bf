import OperandSearch.Text.Blank
import OperandSearch.Text.Quoted
import OperandSearch.Immediate
import OperandSearch.Listing
import OperandSearch.Operand.Lexeme
import OperandSearch.Operand.Lexer
import OperandSearch.Search
import OperandSearch.Document
import OperandSearch.Report
import OperandSearch.Failure
import OperandSearch.Log
import OperandSearch.Log.Filter
import OperandSearch.Bytes
import OperandSearch.Machine.Architecture
import OperandSearch.Machine.Arm
import OperandSearch.Machine.Disassembly
import OperandSearch.Object.Elf
import OperandSearch.Object.Coff
import OperandSearch.Object.Format
import OperandSearch.SymbolName.Hashed
import OperandSearch.SymbolName.Tagged
import OperandSearch.SymbolName.Entity
import OperandSearch.SymbolName
import OperandSearch.Binary
import OperandSearch.Command
import OperandSearch.Command.Search
import OperandSearch.Console.Dialogs
import OperandSearch.Console.Sink
import OperandSearch.Console.World
import OperandSearch.Main
import OperandSearch.Text.Pattern
import OperandSearch.Text.Pattern.Reader
import OperandSearch.Text.Category
import OperandSearch.Text.Script
import OperandSearch.Proofs.Numeral
import OperandSearch.Proofs.Blank
import OperandSearch.Proofs.Immediate
import OperandSearch.Proofs.Literal
import OperandSearch.Proofs.Loading
import OperandSearch.Proofs.Search
import OperandSearch.Proofs.Policy
import OperandSearch.Proofs.SharedAddress
import OperandSearch.Proofs.Segmentation
import OperandSearch.Proofs.Tokens
import OperandSearch.Proofs.SpacedOperands
import OperandSearch.Proofs.LiteralTokens
import OperandSearch.Proofs.Markup
import OperandSearch.Proofs.PageReading
import OperandSearch.Proofs.FunctionOrder
import OperandSearch.Proofs.InstructionOrder
import OperandSearch.Proofs.LoadOutcome
import OperandSearch.Proofs.SearchRun
import OperandSearch.Proofs.ToolRun
import OperandSearch.Proofs.OutputModes
import OperandSearch.Proofs.Recording
import OperandSearch.Proofs.Registry
import OperandSearch.Proofs.SearchEffects
import OperandSearch.Proofs.FindSites
import OperandSearch.Proofs.TableReading
import OperandSearch.Proofs.LineFeeds
import OperandSearch.Proofs.Displacement
import OperandSearch.Proofs.TextBytes
import OperandSearch.Proofs.InputLines
import OperandSearch.Proofs.TypedAnswer
import OperandSearch.Proofs.PublishedEffects
import OperandSearch.Proofs.ViewSessions
import OperandSearch.Proofs.DocumentText
import OperandSearch.Proofs.DocumentReading
import OperandSearch.Proofs.DocumentPrinting
import OperandSearch.Proofs.ReportDocument
import OperandSearch.Proofs.Complaints
import OperandSearch.Proofs.Respelling
import OperandSearch.Proofs.NamelessPaths
import OperandSearch.Proofs.NamelessFunctions
