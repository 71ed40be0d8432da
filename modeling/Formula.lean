import Formula.Main
import Formula.Graph
import Formula.Proofs.Access.Chains
import Formula.Proofs.Access.Positions
import Formula.Proofs.Arithmetic.Aggregates
import Formula.Proofs.Command.Eval
import Formula.Proofs.Command.Functions
import Formula.Proofs.Comparison.Equivalence
import Formula.Proofs.Comparison.Lists
import Formula.Proofs.Expr.Operands
import Formula.Proofs.Expr.Preorder
import Formula.Proofs.Grammar.Impossible
import Formula.Proofs.Grammar.Places
import Formula.Proofs.Grammar.Progress
import Formula.Proofs.Graph.Construction
import Formula.Proofs.Logic.Regrouped
import Formula.Proofs.Registry.LastWrite
import Formula.Proofs.RoundTrip.Called
import Formula.Proofs.RoundTrip.Parsed
import Formula.Proofs.Token.Longest
import Formula.Proofs.Token.Named
import Formula.Proofs.Token.Quoted
