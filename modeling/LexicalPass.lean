import LexicalPass.Cursor.Call
import LexicalPass.Main
import LexicalPass.Segment
import LexicalPass.Session
import LexicalPass.TokenSequence.Operation
import LexicalPass.Proofs.Segmentation
import LexicalPass.Proofs.Scanning
import LexicalPass.Proofs.Simulation
import LexicalPass.Proofs.Reference
import LexicalPass.Proofs.QuoteBalance
import LexicalPass.Proofs.Concatenation
import LexicalPass.Proofs.Lossless
import LexicalPass.Proofs.ConfigInfluence
import LexicalPass.Proofs.CursorTrace
import LexicalPass.Proofs.CarriageReturn
import LexicalPass.Proofs.PrintedTokens
import LexicalPass.Proofs.SequenceRuns
import LexicalPass.Proofs.ConfigScopes
import LexicalPass.Proofs.LexerHistory
import LexicalPass.Proofs.SourceEncoding
import LexicalPass.Proofs.FileRuns
import LexicalPass.Proofs.MaximalMunch
import LexicalPass.Proofs.PassLog
import LexicalPass.Proofs.WarningAccount
import LexicalPass.Proofs.SourceReading
import LexicalPass.Proofs.DiagnosticLines
import LexicalPass.Proofs.PushbackHistory
import LexicalPass.Proofs.ScannerProgress
import LexicalPass.Proofs.UnambiguousText
import LexicalPass.Proofs.SelectedTokens
import LexicalPass.Proofs.DisplayedText
import LexicalPass.Proofs.WrittenDiagnostics
