import Assurance.Contract.Script
import Assurance.SafeInt.Display
import Assurance.SafeInt.Order
import Assurance.SafeInt.Fold
import Assurance.SafeInt.Reading
import Assurance.SafeInt.Step
import Assurance.Level.Resolution
import Assurance.Text.Identifier
import Assurance.Maintenance.Run
import Assurance.Attribute.Expansion
import Assurance.Main
import Assurance.Proofs.Integer.Checked
import Assurance.Proofs.Integer.Bits
import Assurance.Proofs.SafeInt.Term
import Assurance.Proofs.Json.Integer
import Assurance.Proofs.SafeInt.Poison
import Assurance.Proofs.SafeInt.Shift
import Assurance.Proofs.Contract.Bracketing
import Assurance.Proofs.Contract.Escalation
import Assurance.Proofs.Contract.Severity
import Assurance.Proofs.Contract.Levels
import Assurance.Proofs.Attribute.Order
import Assurance.Proofs.Contract.Reports
import Assurance.Proofs.Contract.Catching
import Assurance.Proofs.Json.Canonical
import Assurance.Proofs.SafeInt.Codec
import Assurance.Proofs.Level.Precedence
import Assurance.Proofs.Attribute.Acceptance
import Assurance.Proofs.Attribute.Provenance
import Assurance.Proofs.Attribute.Annotation
import Assurance.Proofs.SafeInt.Reduction
import Assurance.Proofs.SafeInt.Division
import Assurance.Proofs.SafeInt.Rearrangement
import Assurance.Proofs.SafeInt.Conversion
import Assurance.Proofs.Integer.Digits
import Assurance.Proofs.SafeInt.OperandForm
import Assurance.Proofs.SafeInt.Bitwise
import Assurance.Proofs.SafeInt.Comparison
import Assurance.Proofs.SafeInt.Deduplication
import Assurance.Proofs.Violation.Decoration
import Assurance.Proofs.Violation.Recovery
import Assurance.Proofs.Json.Passage
import Assurance.Proofs.SafeInt.Embedding
import Assurance.Proofs.SafeInt.Members
import Assurance.Proofs.SafeInt.MissingMember
import Assurance.Proofs.SafeInt.WideSum
import Assurance.Proofs.Violation.FunctionPath
import Assurance.Proofs.Violation.ColourChoice
import Assurance.Proofs.Contract.Colouring
import Assurance.Proofs.Contract.Accounted
import Assurance.Proofs.Contract.ColourPolicy
import Assurance.Proofs.Maintenance.MarkerCount
import Assurance.Proofs.Maintenance.FirstFailure
