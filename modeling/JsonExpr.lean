import JsonExpr.Engine
import JsonExpr.Host.Stock
import JsonExpr.Options.Codec
import JsonExpr.Proofs.Engine
import JsonExpr.Proofs.Evaluation.Requests
import JsonExpr.Proofs.Evaluation.Sharing
import JsonExpr.Proofs.Evaluation.Unreached
import JsonExpr.Proofs.Session
import JsonExpr.Proofs.Schema
import JsonExpr.Proofs.TypeCheck
import JsonExpr.Proofs.Json.Part
import JsonExpr.Proofs.Recency
import JsonExpr.Proofs.Json.Reading
import JsonExpr.Proofs.Shorthand.Expansion
import JsonExpr.Proofs.Shorthand.Invocation
import JsonExpr.Proofs.Shorthand.Stability
import JsonExpr.Proofs.Json.RoundTrip
import JsonExpr.Proofs.Shorthand.Arguments
import JsonExpr.Proofs.Shorthand.Program
import JsonExpr.Proofs.Shorthand.Ahead
import JsonExpr.Proofs.Evaluation.Shown
import JsonExpr.Proofs.Evaluation.Passing
import JsonExpr.Proofs.Evaluation.Once
import JsonExpr.Proofs.Evaluation.Positional
import JsonExpr.Proofs.Evaluation.Unchecked
import JsonExpr.Proofs.Evaluation.Static
import JsonExpr.Proofs.Evaluation.Replacement
import JsonExpr.Proofs.Evaluation.KeyOrder
import JsonExpr.Proofs.Evaluation.Metadata
import JsonExpr.Proofs.Evaluation.Literals
import JsonExpr.Proofs.Layers
import JsonExpr.Proofs.FailedLookup
import JsonExpr.Proofs.Shorthand.CallStrings
import JsonExpr.Proofs.Shorthand.Operands
import JsonExpr.Proofs.Evaluation.Recovery
import JsonExpr.Proofs.Merging
import JsonExpr.Proofs.Json.Room
import JsonExpr.Proofs.Shorthand.Growth
import JsonExpr.Proofs.Shorthand.Longhand
import JsonExpr.Proofs.Text.Case
import JsonExpr.Proofs.Text.Words
import JsonExpr.Proofs.Text.CamelCase
import JsonExpr.Proofs.Naming
import JsonExpr.Proofs.Spelling
import JsonExpr.Proofs.Text.Pieces
import JsonExpr.Proofs.Path.Composition
import JsonExpr.Proofs.Path.Location
import JsonExpr.Proofs.Operator.Substitution
import JsonExpr.Proofs.Operator.Splitting
import JsonExpr.Proofs.Evaluation.Equality
import JsonExpr.Proofs.Evaluation.Matching
import JsonExpr.Proofs.Evaluation.Entries
import JsonExpr.Proofs.Evaluation.Rows
import JsonExpr.Proofs.Operator.Sums
import JsonExpr.Proofs.Shorthand.Commas
import JsonExpr.Proofs.Absence
