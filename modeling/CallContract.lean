import CallContract.Argument.Form
import CallContract.Argument.Slot
import CallContract.Binary64.Basic
import CallContract.Binary64.Shortest
import CallContract.Character.Category
import CallContract.Character.Folding
import CallContract.Character.Property
import CallContract.Character.Runs
import CallContract.Character.Script
import CallContract.Character.Trait
import CallContract.CommandLine.Arguments
import CallContract.CommandLine.Log
import CallContract.CommandLine.Run
import CallContract.Declaration.Basic
import CallContract.Declaration.Compile
import CallContract.Declaration.File
import CallContract.Declaration.Shape
import CallContract.Function.Arity
import CallContract.Function.Body
import CallContract.Function.Compile
import CallContract.Function.Decision
import CallContract.Function.Error
import CallContract.Function.Signature
import CallContract.Function.SimpleBody
import CallContract.Json.Basic
import CallContract.Json.Equality
import CallContract.Json.Number
import CallContract.Json.Parser
import CallContract.Json.Pointer
import CallContract.Json.Printer
import CallContract.Main
import CallContract.Pattern.Basic
import CallContract.Pattern.CharSet
import CallContract.Pattern.ClassSet
import CallContract.Pattern.Expression
import CallContract.Pattern.Grammar
import CallContract.Pattern.Parser
import CallContract.Pattern.Plan
import CallContract.Pattern.Reach
import CallContract.Pattern.Reader
import CallContract.Pattern.Search
import CallContract.Pattern.Size
import CallContract.Registry.Basic
import CallContract.Registry.Sharing
import CallContract.Schema.Basic
import CallContract.Schema.Cell
import CallContract.Schema.Check
import CallContract.Schema.Evaluation
import CallContract.Schema.Explainer
import CallContract.Schema.Failure
import CallContract.Schema.Fault
import CallContract.Schema.Keyword
import CallContract.Schema.Reference
import CallContract.Schema.Shape
import CallContract.Schema.Splice
import CallContract.Schema.Spot
import CallContract.Schema.Use
import CallContract.Schema.Violation
import CallContract.Session
import CallContract.Text.Numeral
import CallContract.Text.Quoted
import CallContract.Text.Unprintable
import CallContract.Yaml.BlockScalar
import CallContract.Yaml.Cursor
import CallContract.Yaml.Document
import CallContract.Yaml.FlowScalar
import CallContract.Yaml.Node
import CallContract.Yaml.Scalar
import CallContract.Yaml.Token
import CallContract.Proofs.Schema.Cell
import CallContract.Proofs.Schema.CellRun
import CallContract.Proofs.Function.Wrapper
import CallContract.Proofs.Function.Signature
import CallContract.Proofs.Json.Entries
import CallContract.Proofs.Schema.Keyword
import CallContract.Proofs.Schema.Violation
import CallContract.Proofs.Schema.SelfContained
import CallContract.Proofs.Argument.Form
import CallContract.Proofs.Function.Compile
import CallContract.Proofs.Function.Failure
import CallContract.Proofs.Function.Dispatch
import CallContract.Proofs.Function.Invoke
import CallContract.Proofs.Function.Explanation
import CallContract.Proofs.Function.Twin
import CallContract.Proofs.Session.Hosted
import CallContract.Proofs.Session.Replies
import CallContract.Proofs.Session.Order
import CallContract.Proofs.Session.Toggle
import CallContract.Proofs.Argument.Tail
import CallContract.Proofs.Argument.Spine
import CallContract.Proofs.Function.Flaw
import CallContract.Proofs.Declaration.Check
import CallContract.Proofs.Declaration.Agreement
import CallContract.Proofs.Json.Places
import CallContract.Proofs.Json.Pointer
import CallContract.Proofs.Schema.Reached
import CallContract.Proofs.Schema.Faithful
import CallContract.Proofs.Schema.Explanation
import CallContract.Proofs.Schema.Shape
import CallContract.Proofs.Schema.Embedded
import CallContract.Proofs.Argument.Embedding
import CallContract.Proofs.Function.Embedding
import CallContract.Proofs.Function.Table
import CallContract.Proofs.Schema.Splice
import CallContract.Proofs.Schema.Associativity
import CallContract.Proofs.Argument.Placement
import CallContract.Proofs.Argument.Error
import CallContract.Proofs.Registry.Sharing
import CallContract.Proofs.Argument.Dependence
import CallContract.Proofs.Function.Conditions
import CallContract.Proofs.Session.BodyRuns
import CallContract.Proofs.Declaration.Conversion
