import TransitionGuards.Guard.Meaning
import TransitionGuards.Main
import TransitionGuards.Proofs.Evaluation
import TransitionGuards.Proofs.NormalForm
import TransitionGuards.Proofs.Candidates
import TransitionGuards.Proofs.Registration
import TransitionGuards.Proofs.WitnessOrder
import TransitionGuards.Proofs.SearchRun
import TransitionGuards.Proofs.Decision
import TransitionGuards.Proofs.Compilation
import TransitionGuards.Proofs.Answers
import TransitionGuards.Proofs.Domains
import TransitionGuards.Proofs.Pairs
import TransitionGuards.Proofs.Coverage
import TransitionGuards.Proofs.Groups
import TransitionGuards.Proofs.QueryRun
import TransitionGuards.Proofs.Reports
import TransitionGuards.Expression.Grammar
import TransitionGuards.Proofs.Blanks
import TransitionGuards.Proofs.LeastWitness
import TransitionGuards.Proofs.ComparisonText
import TransitionGuards.Proofs.Sentences
import TransitionGuards.Proofs.LegacyPieces
import TransitionGuards.Proofs.LimitedRuns
import TransitionGuards.Proofs.Printing
import TransitionGuards.Proofs.Strictness
import TransitionGuards.Proofs.BackendCalls
import TransitionGuards.Proofs.AnyFormula
import TransitionGuards.Proofs.Comparisons
import TransitionGuards.Proofs.FieldNames
import TransitionGuards.Proofs.UnboundedIntegers
import TransitionGuards.Proofs.NumberRange
import TransitionGuards.Proofs.Rereading
import TransitionGuards.Proofs.Records
import TransitionGuards.Proofs.WireDocuments
import TransitionGuards.Proofs.Monotonicity
import TransitionGuards.Proofs.Reachability
import TransitionGuards.Proofs.FirstOverlaps
import TransitionGuards.Proofs.Unlimited
import TransitionGuards.Proofs.EdgeOrder
import TransitionGuards.Proofs.PartialEvaluation
import TransitionGuards.Proofs.ObtainedFormulas
import TransitionGuards.Proofs.ComparisonLayout
import TransitionGuards.Proofs.Precedences
import TransitionGuards.Proofs.SufficientBudget
import TransitionGuards.Proofs.SurroundingBlanks
import TransitionGuards.Proofs.StoredGuards
import TransitionGuards.Proofs.ForeignFields
import TransitionGuards.Proofs.ReportLabels
import TransitionGuards.Proofs.Substitution
import TransitionGuards.Proofs.Assignments
import TransitionGuards.Proofs.Regions
import TransitionGuards.Proofs.Backtracking
import TransitionGuards.Proofs.SearchCalls
import TransitionGuards.Proofs.WitnessText
import TransitionGuards.Proofs.Grouping
import TransitionGuards.Proofs.Registry
import TransitionGuards.Proofs.WrittenNames
import TransitionGuards.Proofs.QueryNames
import TransitionGuards.Proofs.TableHistory
