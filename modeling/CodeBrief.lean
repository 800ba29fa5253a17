import CodeBrief.Main
import CodeBrief.Record.Brief
import CodeBrief.Proofs.Brief.Growth
import CodeBrief.Proofs.Brief.Structure
import CodeBrief.Proofs.ImportGraph.Cycles
import CodeBrief.Proofs.Selection.Accounting
import CodeBrief.Proofs.Session.PromptBudget
import CodeBrief.Proofs.Session.MemoryHistory
import CodeBrief.Proofs.Session.Availability
import CodeBrief.Proofs.Index.Keys
import CodeBrief.Proofs.Index.Locality
import CodeBrief.Proofs.Relevance.Entries
import CodeBrief.Proofs.Relevance.Owners
import CodeBrief.Proofs.Pattern.Matches
import CodeBrief.Proofs.Script.Declarations
import CodeBrief.Proofs.Index.Lookup
import CodeBrief.Proofs.Index.Declarations
import CodeBrief.Proofs.Index.Complexity
import CodeBrief.Proofs.Relevance.Reordering
import CodeBrief.Proofs.Relevance.Touches
import CodeBrief.Proofs.Repository.Agreement
import CodeBrief.Proofs.Pattern.Segments
import CodeBrief.Proofs.Relevance.NamedFiles
import CodeBrief.Proofs.Project.Services
import CodeBrief.Proofs.Settings.Validity
import CodeBrief.Proofs.Settings.Keys
import CodeBrief.Proofs.Binary64.Decimal
import CodeBrief.Proofs.Json.Numbers
import CodeBrief.Proofs.Json.RoundTrip
import CodeBrief.Proofs.Json.LineBreaks
import CodeBrief.Proofs.Settings.Text
import CodeBrief.Proofs.Repository.Places
import CodeBrief.Proofs.Repository.Ways
import CodeBrief.Proofs.Repository.Writing
import CodeBrief.Proofs.Settings.File
import CodeBrief.Proofs.Repository.Ignoring
import CodeBrief.Proofs.Repository.IgnoredNames
import CodeBrief.Proofs.Json.Limits
import CodeBrief.Proofs.Settings.Loading
import CodeBrief.Proofs.Project.Manifests
import CodeBrief.Proofs.Relevance.Lines
import CodeBrief.Proofs.Session.Relatedness
import CodeBrief.Proofs.Session.Recall
import CodeBrief.Proofs.Brief.Whitespace
import CodeBrief.Proofs.Brief.Comments
import CodeBrief.Proofs.Brief.Duplicates
import CodeBrief.Proofs.Brief.Shrinking
import CodeBrief.Proofs.Brief.MostRelevant
import CodeBrief.Proofs.Index.WrittenFunctions
import CodeBrief.Proofs.Script.WrittenDependencies
import CodeBrief.Proofs.Project.Health
import CodeBrief.Proofs.Script.Hazards
import CodeBrief.Proofs.Intent.Agreement
import CodeBrief.Proofs.Script.CommentLines
import CodeBrief.Proofs.Script.LineNumbers
import CodeBrief.Proofs.Script.Nesting
