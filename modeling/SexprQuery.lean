import SexprQuery.Main
import SexprQuery.Pattern.Operand
import SexprQuery.Proofs.BatchReports
import SexprQuery.Proofs.Concatenation
import SexprQuery.Proofs.DataText
import SexprQuery.Proofs.Descendants
import SexprQuery.Proofs.Division
import SexprQuery.Proofs.FileLists
import SexprQuery.Proofs.FindingPlaces
import SexprQuery.Proofs.LineBlindness
import SexprQuery.Proofs.Measures
import SexprQuery.Proofs.MessageCalls
import SexprQuery.Proofs.MessageMeaning
import SexprQuery.Proofs.NodeLines
import SexprQuery.Proofs.Occurrence
import SexprQuery.Proofs.PatternCache
import SexprQuery.Proofs.RegexTokens
import SexprQuery.Proofs.ReplacementCounts
import SexprQuery.Proofs.Shapes
import SexprQuery.Proofs.SharedText
import SexprQuery.Proofs.Siblings
import SexprQuery.Proofs.Substitution
import SexprQuery.Proofs.ValidRules
import SexprQuery.Proofs.ValueSubstitution
import SexprQuery.Proofs.WholeFiles
