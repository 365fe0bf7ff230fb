import Tablecraft.Text.Basic
import Tablecraft.Text.Case
import Tablecraft.Text.Digest
import Tablecraft.Decimal.Literal
import Tablecraft.NameMap
import Tablecraft.Fault
import Tablecraft.Naming
import Tablecraft.FirstMatch
import Tablecraft.Edit
import Tablecraft.Model.Domain
import Tablecraft.Model.VendorOptions
import Tablecraft.Model.Entity
import Tablecraft.Behavior.Timestampable
import Tablecraft.Behavior.Schedule
import Tablecraft.Model.Schema
import Tablecraft.Ddl.Column
import Tablecraft.Ddl.Creation
import Tablecraft.Ddl.Migration
import Tablecraft.Diff.Compare
import Tablecraft.Finalization.Basic
import Tablecraft.Json.Reader
import Tablecraft.Document.Reader
import Tablecraft.Document.Building
import Tablecraft.Config
import Tablecraft.Inspection.Model
import Tablecraft.Inspection.Difference
import Tablecraft.CommandLine.Run
import Tablecraft.Main
import Tablecraft.Json.Access
import Tablecraft.Inspection.Platform
import Tablecraft.CommandLine.Memory
import Tablecraft.Inspection.Outcome
import Tablecraft.Workspace
import Tablecraft.Proofs.EditRuns
import Tablecraft.Proofs.Model.Names
import Tablecraft.Proofs.Model.Extension
import Tablecraft.Proofs.Behavior.Additive
import Tablecraft.Proofs.Ddl.Agreement
import Tablecraft.Proofs.Ddl.Columns
import Tablecraft.Proofs.Ddl.MigrationOrder
import Tablecraft.Proofs.Finalization.Closure
import Tablecraft.Proofs.Ddl.CreationShape
import Tablecraft.Proofs.Ddl.ColumnMigration
import Tablecraft.Proofs.Ddl.Rebuild
import Tablecraft.Proofs.Ddl.ColumnOrder
import Tablecraft.Proofs.Ddl.KeyTargets
import Tablecraft.Proofs.Ddl.KeyColumns
import Tablecraft.Proofs.Ddl.Declarations
import Tablecraft.Proofs.Diff.Comparison
import Tablecraft.Proofs.Ddl.Unchanged
import Tablecraft.Proofs.Diff.Presence
import Tablecraft.Proofs.Behavior.Scheduling
import Tablecraft.Proofs.Finalization.Sustained
import Tablecraft.Proofs.Finalization.Constraints
import Tablecraft.Proofs.Finalization.References
import Tablecraft.Proofs.Finalization.Referrers
import Tablecraft.Proofs.Behavior.Benign
import Tablecraft.Proofs.Behavior.Owners
import Tablecraft.Proofs.Finalization.Sequences
import Tablecraft.Proofs.Finalization.HeavyIndexing
import Tablecraft.Proofs.Finalization.Persistence
import Tablecraft.Proofs.Model.Gathering
import Tablecraft.Proofs.Diff.Identity
import Tablecraft.Proofs.Finalization.Pointers
import Tablecraft.Proofs.Document.Acceptance
import Tablecraft.Proofs.Model.Roster
import Tablecraft.Proofs.Model.Ownership
import Tablecraft.Proofs.Finalization.KeyIndices
import Tablecraft.Proofs.Finalization.EntityOrder
import Tablecraft.Proofs.Ddl.AutoIncrement
import Tablecraft.Proofs.Finalization.Frame
import Tablecraft.Proofs.Finalization.Synthesis
import Tablecraft.Proofs.Finalization.IndexChanges
import Tablecraft.Proofs.Finalization.NameLengths
import Tablecraft.Proofs.Ddl.IndexNames
import Tablecraft.Proofs.Finalization.Postconditions
import Tablecraft.Proofs.Finalization.IrredundantIndices
import Tablecraft.Proofs.Diff.Retabling
import Tablecraft.Proofs.Diff.Reversal
import Tablecraft.Proofs.Finalization.Labels
import Tablecraft.Proofs.Ddl.Identifiers
import Tablecraft.Proofs.Ddl.Descriptions
import Tablecraft.Proofs.Naming.Allocation
import Tablecraft.Proofs.Model.Dangling
import Tablecraft.Proofs.Finalization.ForeignKeyFlag
import Tablecraft.Proofs.Ddl.IntegerDefaults
