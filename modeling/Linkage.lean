import Linkage.Decimal.Places
import Linkage.Description
import Linkage.Expr.Inputs
import Linkage.Proofs.Admission
import Linkage.Proofs.AxisAngle
import Linkage.Proofs.Bounds
import Linkage.Proofs.Broadcasting
import Linkage.Proofs.ChainEnds
import Linkage.Proofs.Chronicle
import Linkage.Proofs.ConstraintValues
import Linkage.Proofs.Conversion
import Linkage.Proofs.Coverage
import Linkage.Proofs.Dependence
import Linkage.Proofs.Diagnosis
import Linkage.Proofs.Directions
import Linkage.Proofs.Documented
import Linkage.Proofs.Editing
import Linkage.Proofs.Factors
import Linkage.Proofs.FrameRequests
import Linkage.Proofs.Gathering
import Linkage.Proofs.Grouping
import Linkage.Proofs.Growth
import Linkage.Proofs.HalfAngles
import Linkage.Proofs.InputRange
import Linkage.Proofs.Limits
import Linkage.Proofs.Listing
import Linkage.Proofs.Order
import Linkage.Proofs.PathConcatenation
import Linkage.Proofs.Readiness
import Linkage.Proofs.Reordering
import Linkage.Proofs.Rigid
import Linkage.Proofs.Search
import Linkage.Proofs.UnrelatedJoints
import Linkage.Proofs.VariableRequests
import Linkage.Proofs.WellShaped
import Linkage.Robot
import Linkage.Space.Batch
import Linkage.Yaml.Document
