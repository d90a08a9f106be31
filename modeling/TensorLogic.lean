import TensorLogic.Algebra.Circuit
import TensorLogic.Cnf.Dimacs
import TensorLogic.Cnf.Random
import TensorLogic.Datum.Function
import TensorLogic.Expr.Written
import TensorLogic.Problem.Solve
import TensorLogic.Sat.Registry
import TensorLogic.Solver.Bench
import TensorLogic.Workspace
import TensorLogic.Proofs.Algebra.Inherited
import TensorLogic.Proofs.Algebra.Overrides
import TensorLogic.Proofs.Cnf.Drawing
import TensorLogic.Proofs.Contraction.Elimination
import TensorLogic.Proofs.Contraction.Pending
import TensorLogic.Proofs.Contraction.Verdict
import TensorLogic.Proofs.Problem.Agreement
import TensorLogic.Proofs.Problem.Independence
import TensorLogic.Proofs.Problem.LeastFirst
import TensorLogic.Proofs.Solver.Decoding
import TensorLogic.Proofs.Solver.Export
import TensorLogic.Proofs.Solver.Folding
import TensorLogic.Proofs.Solver.Invariant
import TensorLogic.Proofs.Solver.OperandSet
import TensorLogic.Proofs.Solver.Ownership
import TensorLogic.Proofs.Tensor.Diagonal
import TensorLogic.Proofs.Tensor.Stacking
import TensorLogic.Proofs.Tensor.Storage
import TensorLogic.Proofs.Workspace.Editing
