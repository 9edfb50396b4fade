import RuleElements.Predicate.Untyped
import RuleElements.Choice.Prompt
import RuleElements.Choice.Toggle
import RuleElements.Processing.Pass
import RuleElements.Entry.Reader
import RuleElements.Stacking.Selection
import RuleElements.Character.Body
import RuleElements.Character.Damage
import RuleElements.Character.Property
import RuleElements.Character.Sheet
import RuleElements.Json.Reader
import RuleElements.Json.Writer
import RuleElements.Predicate.Contextless
import RuleElements.Content.Bundle
import RuleElements.Lint
import RuleElements.Yaml.Reader
import RuleElements.Library.Load
import RuleElements.Settings
import RuleElements.Main
import RuleElements.Fault
import RuleElements.Yaml.Timestamp
import RuleElements.Yaml.Property
import RuleElements.Proofs.Numeric.Overflow
import RuleElements.Proofs.Aggregate.Bucket
import RuleElements.Proofs.Faulting
import RuleElements.Proofs.Processing.Adjustment
import RuleElements.Proofs.Processing.Step
import RuleElements.Proofs.Processing.Accounting
import RuleElements.Proofs.Processing.Composition
import RuleElements.Proofs.Processing.Completion
import RuleElements.Proofs.Stacking.Side
import RuleElements.Proofs.Stacking.Total
import RuleElements.Proofs.Predicate.Agreement
import RuleElements.Proofs.Text.Sorted
import RuleElements.Proofs.Aggregate.Merge
import RuleElements.Proofs.Processing.Deletion
import RuleElements.Proofs.Sheet.Build
import RuleElements.Proofs.Sheet.Inactive
import RuleElements.Proofs.Sheet.Options
import RuleElements.Proofs.Numeric.Integral
import RuleElements.Proofs.Numeric.Operand
import RuleElements.Proofs.Aggregate.Reorder
import RuleElements.Proofs.Fields
import RuleElements.Proofs.Character.Trait
import RuleElements.Proofs.Character.Speed
import RuleElements.Proofs.Character.Order
import RuleElements.Proofs.Sheet.Order
import RuleElements.Proofs.Choice.Placeholder
import RuleElements.Proofs.Lint.Effect
import RuleElements.Proofs.Lint.Exact
import RuleElements.Proofs.Sheet.Spelling
import RuleElements.Proofs.Library.Load
import RuleElements.Proofs.Character.Filtering
import RuleElements.Proofs.Command.Check
import RuleElements.Proofs.Character.Damage
import RuleElements.Proofs.Character.Direction
import RuleElements.Proofs.Element.Restore
import RuleElements.Proofs.Choice.Record
import RuleElements.Proofs.Choice.Switch
import RuleElements.Proofs.Choice.Flip
import RuleElements.Proofs.Predicate.Unchecked
import RuleElements.Proofs.Aggregate.Algebra
import RuleElements.Proofs.Processing.Potency
import RuleElements.Proofs.Character.Sense
import RuleElements.Proofs.Stacking.Prediction
import RuleElements.Proofs.Stacking.Agreement
import RuleElements.Proofs.Character.Property
import RuleElements.Proofs.Formula.Exact
import RuleElements.Proofs.Commuting
import RuleElements.Proofs.Numeric.Spacing
import RuleElements.Proofs.Formula.Numeral
import RuleElements.Proofs.Formula.Grammar
import RuleElements.Proofs.Data.Entries
import RuleElements.Proofs.Data.Alike
import RuleElements.Proofs.Character.Independence
import RuleElements.Proofs.Processing.Dice
import RuleElements.Proofs.Character.Dice
import RuleElements.Proofs.Character.Size
import RuleElements.Proofs.Character.Grant
import RuleElements.Proofs.Character.Healing
import RuleElements.Proofs.Sheet.Defense
import RuleElements.Proofs.Sheet.Speed
import RuleElements.Proofs.Predicate.Monotone
import RuleElements.Proofs.Text.Integer
import RuleElements.Proofs.Predicate.Grammar
import RuleElements.Proofs.Aggregate.Written
import RuleElements.Proofs.Processing.Mark
import RuleElements.Proofs.Choice.Substitution
import RuleElements.Proofs.Library.Document
import RuleElements.Proofs.Library.Index
import RuleElements.Proofs.Library.Format
import RuleElements.Proofs.Choice.Sharing
