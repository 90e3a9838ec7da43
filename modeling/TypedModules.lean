import TypedModules.Text.Quoted
import TypedModules.Diagnostic.Sink
import TypedModules.Ty.Equality
import TypedModules.Source.Fingerprint
import TypedModules.Literal.Form
import TypedModules.Literal.ListText
import TypedModules.Module.Resolution
import TypedModules.Check.Ty
import TypedModules.Check.Data
import TypedModules.Check.LiteralForm
import TypedModules.Check.Inference
import TypedModules.Check.Expr
import TypedModules.Check.Module
import TypedModules.Value.Display
import TypedModules.Value.Environment
import TypedModules.Native.Run
import TypedModules.Eval.Tests
import TypedModules.Proofs.Check.Outcome
import TypedModules.Proofs.Graph.Version
import TypedModules.Proofs.Check.Headers
import TypedModules.Proofs.Check.Types
import TypedModules.Proofs.Check.Loud
import TypedModules.Proofs.Graph.Accepted
import TypedModules.Proofs.Lists
import TypedModules.Proofs.Graph.Coherence
import TypedModules.Proofs.Graph.Reachable
import TypedModules.Proofs.Ty.Function
import TypedModules.Proofs.Ty.Formed
import TypedModules.Proofs.Ty.Proper
import TypedModules.Proofs.Declared.Names
import TypedModules.Proofs.Declared.Formed
import TypedModules.Proofs.Declared.Signatures
import TypedModules.Proofs.Declared.Native
import TypedModules.Proofs.Declared.Accepted
import TypedModules.Proofs.Declared.Proper
import TypedModules.Proofs.Typing.Judgement
import TypedModules.Proofs.Typing.Calls
import TypedModules.Proofs.Typing.Passing
import TypedModules.Proofs.Typing.Check
import TypedModules.Proofs.Ty.Same
import TypedModules.Proofs.Typing.Module
import TypedModules.Proofs.Typing.Restrict
import TypedModules.Proofs.Typing.Occurring
import TypedModules.Proofs.Typing.Scoped
import TypedModules.Proofs.Typing.Discipline
import TypedModules.Proofs.Typing.Variables
import TypedModules.Proofs.Typing.Induction
import TypedModules.Proofs.Eval.Keeps
import TypedModules.Proofs.Eval.Closures
import TypedModules.Proofs.Native.Closures
import TypedModules.Proofs.Eval.Environment
import TypedModules.Proofs.Eval.Bound
import TypedModules.Proofs.Eval.Dispatch
import TypedModules.Proofs.Eval.Linking
import TypedModules.Proofs.Ty.Assign
import TypedModules.Proofs.Native.Loops
import TypedModules.Proofs.Ty.Ground
import TypedModules.Proofs.Declared.Arguments
import TypedModules.Proofs.Declared.Shapes
import TypedModules.Proofs.Declared.Adapter
import TypedModules.Proofs.Value.Slots
import TypedModules.Proofs.Value.Inhabits
import TypedModules.Proofs.Value.Bindings
import TypedModules.Proofs.Sound.Requests
import TypedModules.Proofs.Sound.Native
import TypedModules.Proofs.Check.Data
import TypedModules.Proofs.Sound.Library
import TypedModules.Proofs.Eval.Containment
import TypedModules.Proofs.Native.Contained
import TypedModules.Proofs.Eval.Contained
import TypedModules.Proofs.Alias.Guarded
import TypedModules.Proofs.Alias.Region
import TypedModules.Proofs.Eval.Executes
import TypedModules.Proofs.Eval.Determined
import TypedModules.Proofs.Alias.Sharing
import TypedModules.Proofs.Eval.Enforced
import TypedModules.Proofs.Sound.Realm
import TypedModules.Proofs.Sound.Assigned
import TypedModules.Proofs.Sound.Expr
import TypedModules.Proofs.Sound.Literal
import TypedModules.Proofs.Sound.Constructors
import TypedModules.Proofs.Sound.Entities
import TypedModules.Proofs.Sound.Program
import TypedModules.Proofs.Faithful.Module
import TypedModules.Proofs.Resolve.Exact
import TypedModules.Proofs.Resolve.Encapsulated
import TypedModules.Proofs.Literal.Agreement
import TypedModules.Proofs.Diagnostic.Filtered
import TypedModules.Proofs.Literal.Inverse
import TypedModules.Proofs.Order.Declarations
import TypedModules.Proofs.Order.Dependencies
import TypedModules.Proofs.Resolve.Views
import TypedModules.Proofs.Graph.Closed
import TypedModules.Proofs.Value.Alike
import TypedModules.Proofs.Value.Pairing
import TypedModules.Proofs.Eval.Mirrors
import TypedModules.Proofs.Native.Mirrored
import TypedModules.Proofs.Eval.Mirrored
import TypedModules.Proofs.Eval.Overridden
import TypedModules.Proofs.Typing.Sites
import TypedModules.Proofs.Eval.Equal
import TypedModules.Proofs.Literal.Classified
import TypedModules.Proofs.Literal.Finishes
import TypedModules.Proofs.Typing.Captured
import TypedModules.Proofs.Ty.Inferred
import TypedModules.Proofs.Declared.Grounding
import TypedModules.Proofs.Eval.Staged
import TypedModules.Proofs.Check.Spared
import TypedModules.Proofs.Diagnostic.Duplicated
import TypedModules.Proofs.Check.Marked
import TypedModules.Proofs.Eval.Eliminated
import TypedModules.Proofs.Eval.Rebound
import TypedModules.Proofs.Check.Instances
import TypedModules.Proofs.Ty.Constrained
import TypedModules.Proofs.Declared.Constrained
import TypedModules.Proofs.Typing.Constrained
import TypedModules.Proofs.Literal.Grammar
import TypedModules.Proofs.Literal.Texts
import TypedModules.Proofs.Literal.Inline
import TypedModules.Proofs.Literal.Denoted
import TypedModules.Proofs.Check.Alpha
import TypedModules.Proofs.Tests.Cases
import TypedModules.Proofs.Tests.Outcomes
import TypedModules.Proofs.Tests.Runner
import TypedModules.Proofs.Eval.Script
import TypedModules.Proofs.Eval.Settled
import TypedModules.Proofs.Eval.Builders
import TypedModules.Proofs.Native.Positions
import TypedModules.Proofs.Native.Folds
import TypedModules.Proofs.Native.Sequences
import TypedModules.Proofs.Ty.Closed
import TypedModules.Proofs.Name.Segments
import TypedModules.Proofs.Literal.Canonical
import TypedModules.Proofs.Check.Traversals
import TypedModules.Proofs.Ty.Congruent
import TypedModules.Proofs.Name.Parts
import TypedModules.Proofs.Check.Compared
