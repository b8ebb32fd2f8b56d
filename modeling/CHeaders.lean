import CHeaders.Main
import CHeaders.Number.Reading
import CHeaders.Plan.Edit
import CHeaders.Proofs.Guard.Scope
import CHeaders.Proofs.Guard.SingleUse
import CHeaders.Proofs.Plan.Loaded
import CHeaders.Proofs.Plan.Refusal
import CHeaders.Proofs.Plan.Reload
import CHeaders.Proofs.Plan.RoundTrip
import CHeaders.Proofs.Plan.Yaml
import CHeaders.Proofs.Symbol
import CHeaders.Proofs.Term.Evaluation
import CHeaders.Proofs.Traversal
import CHeaders.Symbol
import CHeaders.Traversal
import CHeaders.Proofs.Plan.Prepared
import CHeaders.Proofs.Operation.Balance
import CHeaders.Proofs.Plan.Balance
import CHeaders.Proofs.Plan.Layout
import CHeaders.Proofs.Plan.Content
import CHeaders.Proofs.Statement
import CHeaders.Proofs.Plan.Shape
import CHeaders.Proofs.Symbol.Identifier
import CHeaders.Proofs.Plan.IncludeGuard
import CHeaders.Proofs.Plan.Comment
import CHeaders.Proofs.Indexed
import CHeaders.Proofs.Sequence
import CHeaders.Proofs.Sequence.Equality
import CHeaders.Proofs.Traversal.Refusal
import CHeaders.Proofs.Operation.Refusal
import CHeaders.Proofs.Plan.FirstFault
import CHeaders.Proofs.Statement.Layout
import CHeaders.Proofs.Traversal.Grouping
import CHeaders.Proofs.Journal
