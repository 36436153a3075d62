import SqlLayout.Main
import SqlLayout.Source.Balanced
import SqlLayout.Tree.Walk
import SqlLayout.Proofs.Text.Strip
import SqlLayout.Proofs.Text.Encoding
import SqlLayout.Proofs.Source.Mask
import SqlLayout.Proofs.Source.Split
import SqlLayout.Proofs.Source.Outside
import SqlLayout.Proofs.Pattern.Slice
import SqlLayout.Proofs.Pattern.Reads
import SqlLayout.Proofs.Pattern.Runs
import SqlLayout.Proofs.Tree.View
import SqlLayout.Proofs.Tree.Groups
import SqlLayout.Proofs.Tree.Untouched
import SqlLayout.Proofs.Placeholder.Shape
import SqlLayout.Proofs.Placeholder.Views
import SqlLayout.Proofs.Placeholder.Places
import SqlLayout.Proofs.Placeholder.Groups
import SqlLayout.Proofs.Placeholder.Leftovers
import SqlLayout.Proofs.Placeholder.Twice
import SqlLayout.Proofs.Placeholder.Edits
import SqlLayout.Proofs.Placeholder.Trailing
import SqlLayout.Proofs.Document.Unapplied
import SqlLayout.Proofs.Layout.Marker
import SqlLayout.Proofs.Layout.Printed
import SqlLayout.Proofs.Layout.Statements
import SqlLayout.Proofs.Document.Output
import SqlLayout.Proofs.Document.Comments
import SqlLayout.Proofs.Document.Routes
import SqlLayout.Proofs.Tree.SetOperations
import SqlLayout.Proofs.Layout.Leaves
import SqlLayout.Proofs.Pattern.Finds
import SqlLayout.Proofs.Pattern.Takes
import SqlLayout.Proofs.Text.Case
import SqlLayout.Proofs.Text.Words
import SqlLayout.Proofs.Grant.Shape
import SqlLayout.Proofs.Grant.Normal
import SqlLayout.Proofs.Grant.Boundaries
import SqlLayout.Proofs.Layout.Predicates
import SqlLayout.Proofs.Source.Literals
import SqlLayout.Proofs.Source.Alike
import SqlLayout.Proofs.Layout.Documents
import SqlLayout.Proofs.Document.Grants
import SqlLayout.Proofs.Command.Check
import SqlLayout.Proofs.Source.Quotes
import SqlLayout.Proofs.Command.Failures
import SqlLayout.Proofs.Placeholder.Casts
import SqlLayout.Proofs.Placeholder.CastSeams
import SqlLayout.Proofs.Placeholder.Levels
import SqlLayout.Proofs.Placeholder.Chains
import SqlLayout.Proofs.Placeholder.ChainLengths
import SqlLayout.Proofs.Text.Letters
import SqlLayout.Proofs.Source.Balanced
import SqlLayout.Proofs.Pattern.Goes
import SqlLayout.Proofs.Placeholder.PivotClauses
import SqlLayout.Proofs.Placeholder.IndexedCalls
import SqlLayout.Proofs.Placeholder.TypeWords
import SqlLayout.Proofs.Placeholder.ColumnTypes
import SqlLayout.Proofs.Placeholder.Standing
import SqlLayout.Proofs.Placeholder.Marks
import SqlLayout.Proofs.Placeholder.Undisturbed
import SqlLayout.Proofs.Source.Neighbours
import SqlLayout.Proofs.Placeholder.CreatedQueries
import SqlLayout.Proofs.Placeholder.TableProperties
import SqlLayout.Proofs.Text.Lines
import SqlLayout.Proofs.Layout.Comments
import SqlLayout.Proofs.Document.CommentLines
import SqlLayout.Proofs.Document.CarriedComments
import SqlLayout.Proofs.Layout.Stack
import SqlLayout.Proofs.Layout.Lines
import SqlLayout.Proofs.Layout.Conditions
import SqlLayout.Proofs.Text.LowerCase
import SqlLayout.Proofs.Source.Openings
import SqlLayout.Proofs.Layout.Composition
import SqlLayout.Proofs.Layout.LaidTrees
import SqlLayout.Proofs.Layout.Fields
import SqlLayout.Proofs.Layout.Openings
import SqlLayout.Proofs.Layout.Alignment
import SqlLayout.Proofs.Tree.Operands
import SqlLayout.Proofs.Tree.Modifiers
import SqlLayout.Proofs.Tree.Negation
import SqlLayout.Proofs.Layout.Shift
import SqlLayout.Proofs.Layout.Enclosing
import SqlLayout.Proofs.Layout.NestedQueries
import SqlLayout.Proofs.Placeholder.Tokenless
import SqlLayout.Proofs.Placeholder.CastReports
import SqlLayout.Proofs.Document.LeadingComments
import SqlLayout.Proofs.Placeholder.Faults
import SqlLayout.Proofs.Source.Projection
import SqlLayout.Proofs.Source.Regions
import SqlLayout.Proofs.Source.Cuts
import SqlLayout.Proofs.Tree.Traversals
import SqlLayout.Proofs.Placeholder.Decimals
