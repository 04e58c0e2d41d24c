import MarkupCensus.OrderedMap
import MarkupCensus.Tree.Node

namespace MarkupCensus

/-- What a walk does after a node has been visited. -/
inductive Action where
  /-- Visit the children next. -/
  | proceed
  /-- Leave the children out. -/
  | skip
  /-- End the walk. -/
  | stop
deriving DecidableEq, Repr

/-- What is done at the nodes of each kind. A handler may leave open what comes next. -/
abbrev Handlers (σ : Type) := OrderedMap (σ → Node → σ × Option Action)

/-- Calls the handler of a node's kind. The walk proceeds if there is none, or if it leaves that
open. -/
def dispatch {σ : Type} (handlers : Handlers σ) (s : σ) (n : Node) : σ × Action :=
  match handlers.get? n.kind with
  | none => (s, .proceed)
  | some handler =>
    let (s, action) := handler s n
    (s, action.getD .proceed)

/-- Visits the trees on a stack in pre-order, left to right. The second result tells whether the walk
came to its end. -/
def walkStack {σ : Type} (visit : σ → Node → σ × Action) : σ → List Node → σ × Bool
  | s, [] => (s, true)
  | s, n :: rest =>
    match visit s n with
    | (s, .stop) => (s, false)
    | (s, .skip) => walkStack visit s rest
    | (s, .proceed) => walkStack visit s (n.children ++ rest)
termination_by _ stack => Node.sizes stack
decreasing_by
  · simp only [Node.sizes]
    have := n.size_pos
    omega
  · simp only [Node.sizes, Node.sizes_append]
    have := n.size_eq
    omega

/-- Visits a tree in pre-order, left to right. -/
def walk {σ : Type} (visit : σ → Node → σ × Action) (s : σ) (root : Node) : σ × Bool :=
  walkStack visit s [root]

/-- The first wanted node in pre-order, looking below a node only at the children to enter. -/
def searchStack (wanted enter : Node → Bool) : List Node → Option Node
  | [] => none
  | n :: rest =>
    if wanted n then some n else searchStack wanted enter (n.childrenWhere enter ++ rest)
termination_by stack => Node.sizes stack
decreasing_by
  simp only [Node.sizes, Node.sizes_append]
  have := n.sizes_childrenWhere_lt enter
  omega

end MarkupCensus
