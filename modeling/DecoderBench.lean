import DecoderBench.Main
import DecoderBench.Proofs.Appending
import DecoderBench.Proofs.CommandLine
import DecoderBench.Proofs.Commands
import DecoderBench.Proofs.Containment
import DecoderBench.Proofs.Declarations
import DecoderBench.Proofs.DecoderKeys
import DecoderBench.Proofs.DefaultOutput
import DecoderBench.Proofs.Dispatch
import DecoderBench.Proofs.Extractor
import DecoderBench.Proofs.FreeName
import DecoderBench.Proofs.Header
import DecoderBench.Proofs.Identifier.Projection
import DecoderBench.Proofs.Interface
import DecoderBench.Proofs.KnownViews
import DecoderBench.Proofs.Replay
import DecoderBench.Proofs.ReportColumns
import DecoderBench.Proofs.ReportJson
import DecoderBench.Proofs.ReportStyles
import DecoderBench.Proofs.SelfImport
import DecoderBench.Proofs.Sorting
import DecoderBench.Proofs.SourceFiles
import DecoderBench.Proofs.Spacing
import DecoderBench.Proofs.TypeNames
import DecoderBench.Workspace.Session
