import JournalSearch.Calendar.Date
import JournalSearch.Calendar.Span
import JournalSearch.Calendar.TimeUnit
import JournalSearch.Query.Basic
import JournalSearch.Query.Filter
import JournalSearch.Query.Parameters
import JournalSearch.Query.Simplify
import JournalSearch.Journal.Record
import JournalSearch.Query.Focus
import JournalSearch.Query.Match
import JournalSearch.Unicode.Case
import JournalSearch.Unicode.Identifier
import JournalSearch.Unicode.LowerText
import JournalSearch.Unicode.Printable
import JournalSearch.Period.Expression
import JournalSearch.Expression.TermText
import JournalSearch.Expression.Token
import JournalSearch.Expression.Parse
import JournalSearch.Journal.Store
import JournalSearch.Pattern.Basic
import JournalSearch.Pattern.Match
import JournalSearch.Pattern.Flags
import JournalSearch.Pattern.Item
import JournalSearch.Pattern.Parse
import JournalSearch.Pattern.Search
import JournalSearch.Proofs.Journal.Links
import JournalSearch.Proofs.Query.Pass
import JournalSearch.Proofs.Query.Settling
import JournalSearch.Proofs.Query.NormalForm
import JournalSearch.Proofs.Query.Verdict
import JournalSearch.Proofs.Query.Leniency
import JournalSearch.Proofs.Expression.Meaning
import JournalSearch.Proofs.Expression.Lexing
import JournalSearch.Proofs.Expression.Tiling
import JournalSearch.Proofs.Expression.Writing
import JournalSearch.Proofs.Expression.RoundTrip
import JournalSearch.Proofs.Expression.Parameters
import JournalSearch.Proofs.Period.Denotation
import JournalSearch.Proofs.Query.Polarity
import JournalSearch.Proofs.Journal.Verdicts
import JournalSearch.Proofs.Period.Overlong
import JournalSearch.Proofs.Expression.Failures
import JournalSearch.Proofs.Expression.Narrowing
import JournalSearch.Proofs.Query.StartOnly
import JournalSearch.Proofs.Query.Focus
import JournalSearch.Proofs.Pattern.Fallback
import JournalSearch.Proofs.Query.Answers
import JournalSearch.Proofs.Query.Neutral
import JournalSearch.Proofs.Query.StartDate
import JournalSearch.Proofs.Query.Collecting
import JournalSearch.Proofs.Expression.ReportTerms
import JournalSearch.Proofs.Calendar.SpanSets
import JournalSearch.Proofs.Period.Relative
import JournalSearch.Proofs.Query.Filtering
import JournalSearch.Proofs.Expression.Rules
