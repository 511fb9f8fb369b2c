import GoScan.Unicode.Properties
import GoScan.Unicode.CaseFolding
import GoScan.Text.Lines
import GoScan.Text.Quoted
import GoScan.LineIndex
import GoScan.Pattern.PropertyName
import GoScan.Pattern.Basic
import GoScan.Pattern.Search
import GoScan.Pattern.Bracket
import GoScan.Pattern.Reader
import GoScan.Token
import GoScan.IdentTable
import GoScan.Go
import GoScan.Scanner
import GoScan.Session
import GoScan.Main
import GoScan.Pattern.Members
import GoScan.Text.ByteRanges
import GoScan.Pattern.Outline
import GoScan.Pattern.Shape
import GoScan.Pattern.Automaton
import GoScan.Proofs.Pattern.Preference
import GoScan.Proofs.Scan.Lexemes
import GoScan.Proofs.Scan.Tiling
import GoScan.Proofs.Scan.Drivers
import GoScan.Proofs.Pattern.Definite
import GoScan.Proofs.Go.Entries
import GoScan.Proofs.Go.Respacing
import GoScan.Proofs.Go.Retokenizing
import GoScan.Proofs.Scan.Below
import GoScan.Proofs.Go.Newline
import GoScan.Proofs.Go.Lines
import GoScan.Proofs.Position.Rescan
import GoScan.Proofs.Scan.Failing
import GoScan.Proofs.Scan.Positions
import GoScan.Proofs.Ident.Numbering
import GoScan.Proofs.Ident.Sharing
import GoScan.Proofs.Ident.Renumbering
import GoScan.Proofs.Scan.Resuming
import GoScan.Proofs.Scan.Recording
import GoScan.Proofs.Scan.Ending
import GoScan.Proofs.Go.Words
import GoScan.Proofs.Go.WordEnds
import GoScan.Proofs.Position.Excerpt
import GoScan.Proofs.Command.Arguments
import GoScan.Proofs.Command.SharedIds
import GoScan.Proofs.Position.Lines
import GoScan.Proofs.Pattern.Walking
import GoScan.Proofs.Go.NumberLiterals
import GoScan.Proofs.Go.Numbers
import GoScan.Proofs.Go.Delimiters
import GoScan.Proofs.Go.Marks
import GoScan.Proofs.Scan.Snippet
import GoScan.Proofs.Go.Openings
import GoScan.Proofs.Pattern.Literal
import GoScan.Proofs.Pattern.LiteralSize
import GoScan.Proofs.Scan.LiteralEntries
import GoScan.Proofs.Go.Unclosed
import GoScan.Proofs.Go.ReservedWords
import GoScan.Proofs.Go.Imaginary
import GoScan.Proofs.Go.Quotation
import GoScan.Proofs.Text.Quoting
import GoScan.Proofs.Ident.Kinds
import GoScan.Proofs.Command.ClassFilter
import GoScan.Proofs.Command.TokenLines
import GoScan.Proofs.Pattern.Closing
import GoScan.Proofs.Pattern.ClosingClass
import GoScan.Proofs.Pattern.ClosingStep
import GoScan.Proofs.Pattern.Enclosing
import GoScan.Proofs.Scan.Anchoring
