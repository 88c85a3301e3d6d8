import ConfigSchema.Main
import ConfigSchema.Nesting
import ConfigSchema.Proofs.Flat.Acceptance
import ConfigSchema.Proofs.Flat.Defaults
import ConfigSchema.Proofs.Flat.Fidelity
import ConfigSchema.Proofs.Flat.Twins
import ConfigSchema.Proofs.Session.Changes
import ConfigSchema.Proofs.Session.Names
import ConfigSchema.Proofs.Session.Refusals
import ConfigSchema.Proofs.Sketch.Documents
import ConfigSchema.Proofs.Tree.Views
import ConfigSchema.Tree.Basic
import ConfigSchema.Proofs.Drag.Plans
import ConfigSchema.Proofs.Session.Drops
import ConfigSchema.Proofs.Json.Words
import ConfigSchema.Proofs.SchemaFile
import ConfigSchema.Proofs.Json.Printing
import ConfigSchema.Proofs.Session.Exports
import ConfigSchema.Proofs.Tree.Finding
import ConfigSchema.Proofs.Flat.Leaves
import ConfigSchema.Proofs.Flat.Origins
import ConfigSchema.Proofs.Flat.Skips
import ConfigSchema.Proofs.Flat.Keys
import ConfigSchema.Proofs.Sketch.Grammar
import ConfigSchema.Proofs.Tree.Grammar
import ConfigSchema.Proofs.Tree.Moves
import ConfigSchema.Proofs.Tree.Reorderings
import ConfigSchema.Proofs.Tree.Traversals
import ConfigSchema.Proofs.Tree.Reports
import ConfigSchema.Proofs.Decimal.Rounding
import ConfigSchema.Proofs.Field.Bounds
import ConfigSchema.Proofs.Nesting
import ConfigSchema.Proofs.Tree.Printed
import ConfigSchema.Proofs.Flat.Siblings
import ConfigSchema.Proofs.Flat.Descriptions
import ConfigSchema.Proofs.Settings.Environment
