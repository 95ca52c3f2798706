import FieldGrammar.Command.Directory
import FieldGrammar.Json.Reader
import FieldGrammar.Main
import FieldGrammar.Session
import FieldGrammar.Proofs.Pattern.Search
import FieldGrammar.Proofs.Scan.Pieces
import FieldGrammar.Proofs.Scan.Partition
import FieldGrammar.Proofs.Scan.Leftmost
import FieldGrammar.Proofs.Matching.Attribution
import FieldGrammar.Proofs.Matching.Recovery
import FieldGrammar.Proofs.Builtin.Lexemes
import FieldGrammar.Proofs.Matching.Clean
import FieldGrammar.Proofs.Builtin.Language
import FieldGrammar.Proofs.Scan.Restart
import FieldGrammar.Proofs.Tiling
import FieldGrammar.Proofs.Locality
import FieldGrammar.Proofs.Focus
import FieldGrammar.Proofs.Gate
import FieldGrammar.Proofs.Edit
import FieldGrammar.Proofs.Matching.Spelling
import FieldGrammar.Proofs.Builtin.Sentence
import FieldGrammar.Proofs.Suggestion
import FieldGrammar.Proofs.Prediction
import FieldGrammar.Proofs.Builtin.Suggestions
import FieldGrammar.Proofs.Json.Scalar
import FieldGrammar.Proofs.Json.Reader
import FieldGrammar.Proofs.GrammarFile
import FieldGrammar.Proofs.Record
import FieldGrammar.Proofs.Matching.Incremental
import FieldGrammar.Proofs.Text.Boundary
import FieldGrammar.Proofs.Command.Check
import FieldGrammar.Proofs.Config
import FieldGrammar.Proofs.Edit.Agreement
import FieldGrammar.Proofs.Positions
import FieldGrammar.Proofs.Command.Repl
import FieldGrammar.Proofs.Paging
import FieldGrammar.Proofs.Filler
import FieldGrammar.Proofs.Scan.WhiteSpaceRule
import FieldGrammar.Proofs.Pattern.Backtracking
import FieldGrammar.Proofs.Pattern.Exploration
import FieldGrammar.Proofs.Scan.RuleOrder
import FieldGrammar.Proofs.Pattern.Threads
import FieldGrammar.Proofs.Pattern.Preferred
import FieldGrammar.Proofs.Rule
