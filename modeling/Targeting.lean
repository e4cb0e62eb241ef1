import Targeting.Evaluate
import Targeting.Json.Reader
import Targeting.Json.Writer
import Targeting.Storage.Memory
import Targeting.Proofs.Congruence
import Targeting.Proofs.Compilation
import Targeting.Proofs.Nested
import Targeting.Proofs.Queries
import Targeting.Proofs.Readiness
import Targeting.Proofs.Chain
import Targeting.Proofs.Composition
import Targeting.Proofs.Partition
import Targeting.Proofs.Support
import Targeting.Proofs.Decision
import Targeting.Proofs.EveryKey
import Targeting.Proofs.Traffic
import Targeting.Proofs.Exclusion
import Targeting.Proofs.Waiting
import Targeting.Proofs.Outage
import Targeting.Proofs.Dependency
import Targeting.Proofs.Locality
import Targeting.Proofs.Typing
import Targeting.Proofs.Calendar
import Targeting.Proofs.Spelling
import Targeting.Proofs.TextOrder
import Targeting.Proofs.Precedence
import Targeting.Proofs.Circularity
import Targeting.Proofs.Gate
import Targeting.Proofs.Grammar
import Targeting.Proofs.SetRelations
import Targeting.Proofs.Respelling
import Targeting.Proofs.Choice
import Targeting.Proofs.Reordering
import Targeting.Proofs.Bucketing
import Targeting.Proofs.KeyObject
import Targeting.Proofs.HashText
import Targeting.Proofs.UnitStart
import Targeting.Proofs.TimeOrder
import Targeting.Proofs.Nearest
import Targeting.Proofs.Serialization
import Targeting.Proofs.Procedure
