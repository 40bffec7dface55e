import ContextualQuery.Builder.Calls
import ContextualQuery.Main
import ContextualQuery.Proofs.Lexing
import ContextualQuery.Proofs.NormalForm
import ContextualQuery.Proofs.Spelling
import ContextualQuery.Proofs.Reading
import ContextualQuery.Proofs.RoundTrip
import ContextualQuery.Proofs.Accepted
import ContextualQuery.Proofs.Idempotence
import ContextualQuery.Proofs.LiteralChain
import ContextualQuery.Proofs.Spines
import ContextualQuery.Proofs.Formula
import ContextualQuery.Proofs.BooleanStructure
import ContextualQuery.Proofs.Placeholders
import ContextualQuery.Proofs.TermMeaning
import ContextualQuery.Proofs.Matching
import ContextualQuery.Proofs.GuardedTerms
import ContextualQuery.Proofs.CanonicalTranslation
import ContextualQuery.Proofs.Limits
import ContextualQuery.Proofs.PrefixScope
import ContextualQuery.Proofs.BuilderSteps
import ContextualQuery.Proofs.TermIndependence
import ContextualQuery.Proofs.TextQueries
import ContextualQuery.Proofs.CallExpressions
import ContextualQuery.Proofs.BuiltText
import ContextualQuery.Proofs.BuilderFaults
import ContextualQuery.Proofs.Recordings
import ContextualQuery.Proofs.Brackets
import ContextualQuery.Proofs.Distribution
import ContextualQuery.Proofs.WellScoped
import ContextualQuery.Proofs.Paths
import ContextualQuery.Proofs.Strictness
import ContextualQuery.Proofs.StrayBytes
import ContextualQuery.Proofs.Documents
import ContextualQuery.Proofs.WrittenWords
import ContextualQuery.Proofs.Layout
import ContextualQuery.Proofs.Lookahead
import ContextualQuery.Proofs.ErrorPositions
import ContextualQuery.Proofs.LetterCase
import ContextualQuery.Proofs.KeywordCase
import ContextualQuery.Proofs.Numerals
import ContextualQuery.Proofs.JsonReading
import ContextualQuery.Proofs.TrimmedText
