import Sift.Command
import Sift.Filter.Compile
import Sift.Filter.Printer
import Sift.Frontmatter
import Sift.Json.Reader
import Sift.Main
import Sift.Matcher
import Sift.Proofs.Command.Report
import Sift.Proofs.Date
import Sift.Proofs.FileSystem
import Sift.Proofs.Filter.BareTerm
import Sift.Proofs.Filter.Composition
import Sift.Proofs.Filter.Contains
import Sift.Proofs.Filter.DateComparison
import Sift.Proofs.Filter.DocumentId
import Sift.Proofs.Filter.IntegerComparison
import Sift.Proofs.Filter.Printer
import Sift.Proofs.Filter.Refusal
import Sift.Proofs.Filter.WellFormed
import Sift.Proofs.Frontmatter
import Sift.Proofs.Instant.Reader
import Sift.Proofs.Instant.Shift
import Sift.Proofs.Instant.Spelling
import Sift.Proofs.Instant.Timestamp
import Sift.Proofs.Json.Printer
import Sift.Proofs.Matcher.Comparison
import Sift.Proofs.Matcher.Element
import Sift.Proofs.Matcher.Field
import Sift.Proofs.Matcher.Identifier
import Sift.Proofs.Matcher.SameFields
import Sift.Proofs.Number.Integer
import Sift.Proofs.Number.Nearest
import Sift.Proofs.Number.Rounding
import Sift.Proofs.Number.Text
import Sift.Proofs.Operand.AbsoluteDate
import Sift.Proofs.Operand.Recognition
import Sift.Proofs.Operand.RelativeDate
import Sift.Proofs.Pattern.Literal
import Sift.Proofs.Query.Accepted
import Sift.Proofs.Query.Balance
import Sift.Proofs.Query.Bracket
import Sift.Proofs.Query.Classification
import Sift.Proofs.Query.Connectives
import Sift.Proofs.Query.ErrorPosition
import Sift.Proofs.Query.Expectation
import Sift.Proofs.Query.Machine
import Sift.Proofs.Query.Promise
import Sift.Proofs.Query.Reach
import Sift.Proofs.Query.Reading
import Sift.Proofs.Query.Rewinding
import Sift.Proofs.Query.RoundTrip
import Sift.Proofs.Query.Sentence
import Sift.Proofs.Query.Spelling
import Sift.Proofs.Query.Token
import Sift.Proofs.Query.Tracking
import Sift.Proofs.Query.Value
import Sift.Proofs.Text.Digits
import Sift.Proofs.Vault
import Sift.RuleFile
import Sift.Vault
