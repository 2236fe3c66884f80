import DatalogDoc.Main
import DatalogDoc.Proofs.Cutting
import DatalogDoc.Proofs.Seams
import DatalogDoc.Proofs.Naming
import DatalogDoc.Proofs.Nesting
import DatalogDoc.Proofs.Scanning
import DatalogDoc.Proofs.BalancedBlocks
import DatalogDoc.Proofs.ScanFaults
import DatalogDoc.Proofs.Spans
import DatalogDoc.Proofs.DocumentedDeclarations
import DatalogDoc.Proofs.LazyBlocks
import DatalogDoc.Proofs.Outline
import DatalogDoc.Proofs.Truncation
import DatalogDoc.Proofs.OwnComments
import DatalogDoc.Proofs.LazySearch
import DatalogDoc.Proofs.Modes
import DatalogDoc.Proofs.Printing
import DatalogDoc.Proofs.Resuming
import DatalogDoc.Proofs.Indexing
import DatalogDoc.Proofs.Stepping
import DatalogDoc.Proofs.LexemeSteps
import DatalogDoc.Proofs.CallSteps
import DatalogDoc.Proofs.Positions
import DatalogDoc.Proofs.Reprinting
import DatalogDoc.Proofs.Concatenation
import DatalogDoc.Proofs.Duplicates
import DatalogDoc.Proofs.Interiors
import DatalogDoc.Proofs.CommandLines
import DatalogDoc.Proofs.Characters
import DatalogDoc.Proofs.Decoding
import DatalogDoc.Proofs.Documents
import DatalogDoc.Proofs.Generation
import DatalogDoc.Proofs.Streams
import DatalogDoc.Proofs.Writing
import DatalogDoc.Proofs.WholeDocument
