import BoundSql.DatabaseAddress.File
import BoundSql.Executor.Batch
import BoundSql.Proofs.Agreement
import BoundSql.Proofs.Agreement.Slots
import BoundSql.Proofs.Aliases
import BoundSql.Proofs.Blame
import BoundSql.Proofs.Blank
import BoundSql.Proofs.CamelCase
import BoundSql.Proofs.Columns
import BoundSql.Proofs.DatabaseAddress
import BoundSql.Proofs.Delivery
import BoundSql.Proofs.Dialects
import BoundSql.Proofs.EnvFile
import BoundSql.Proofs.GeneratedKeys.Matching
import BoundSql.Proofs.GeneratedKeys.Positional
import BoundSql.Proofs.Interleaving
import BoundSql.Proofs.Joins
import BoundSql.Proofs.Listing
import BoundSql.Proofs.LogSetup
import BoundSql.Proofs.Phases
import BoundSql.Proofs.Queue.Immediate
import BoundSql.Proofs.Reading
import BoundSql.Proofs.Redaction
import BoundSql.Proofs.Redaction.Places
import BoundSql.Proofs.References
import BoundSql.Proofs.Refusal
import BoundSql.Proofs.Registry
import BoundSql.Proofs.Rejection
import BoundSql.Proofs.Rows
import BoundSql.Proofs.Scoping
import BoundSql.Proofs.Subquery
import BoundSql.Proofs.Thinning
import BoundSql.Proofs.Threshold
import BoundSql.Proofs.Wrapping
