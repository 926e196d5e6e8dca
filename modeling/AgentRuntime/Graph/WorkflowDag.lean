import Mathlib.Data.List.Dedup
import Mathlib.Data.List.Sort
import Mathlib.Data.Finset.Dedup
import Mathlib.Data.Finset.SDiff
import AgentRuntime.Store.Records

/-!
# `WorkflowDag`

The dependency graph of a workflow: the checks of its constructor in their order with their
messages, Kahn's algorithm over a heap of ready nodes, and the worklist closure `descendants`.
Python iterates over its sets in an unspecified order; `SetOrder` is any such order, and every
definition that loops over a set takes one. `heapq` hands out the least entry of a heap, which is
all the algorithm uses of it. A worklist may be emptied in any order; the source takes the last
entry.

The two `while` loops are followed for as many rounds as there are nodes.
-/

set_option autoImplicit false
set_option relaxedAutoImplicit false

namespace AgentRuntime.Graph

open Store

/-- `WorkflowGraphError`. -/
structure WorkflowGraphError where
  message : String
  deriving DecidableEq

/-- `WorkflowNode`. -/
structure WorkflowNode where
  nodeId : String
  dependencies : List String
  deriving DecidableEq

/-- The order in which Python iterates over a set, which may differ from set to set. -/
structure SetOrder where
  iterate : String → List String → List String
  perm : ∀ owner members, (iterate owner members).Perm members

/-- The order in which the members were added. -/
def SetOrder.insertion : SetOrder := ⟨fun _ members ↦ members, fun _ _ ↦ .refl _⟩

/-- The order in which a worklist is emptied. -/
structure PopOrder where
  pop : List String → Option (String × List String)
  perm : ∀ pending entry rest, pop pending = some (entry, rest) → (entry :: rest).Perm pending
  some_of_ne_nil : ∀ pending, pending ≠ [] → (pop pending).isSome = true

/-- `list.pop`. -/
def PopOrder.last : PopOrder where
  pop pending := pending.getLast?.map fun entry ↦ (entry, pending.dropLast)
  perm pending entry rest hpop := by
    obtain ⟨last, hlast, hpair⟩ := Option.map_eq_some_iff.mp hpop
    obtain ⟨rfl, rfl⟩ := Prod.mk.inj hpair
    have hsplit : pending.dropLast ++ [last] = pending := List.dropLast_append_getLast? last hlast
    calc (last :: pending.dropLast).Perm (pending.dropLast ++ [last]) :=
          (List.perm_append_singleton _ _).symm
      _ = pending := hsplit
  some_of_ne_nil pending hpending := by
    rw [List.getLast?_eq_some_getLast hpending]
    rfl

/-- `repr` of a list of texts. -/
def pyReprTexts (texts : List String) : String :=
  "[" ++ ", ".intercalate (texts.map pyRepr) ++ "]"

/-- `sorted` of some texts. -/
def pySorted (texts : List String) : List String := texts.insertionSort (· ≤ ·)

/-! ### The constructor -/

/-- The first loop of `__init__`: the nodes one by one, after those already seen. -/
def checkNodes : List WorkflowNode → List String → Except WorkflowGraphError Unit
  | [], _ => .ok ()
  | node :: rest, seen =>
    if node.nodeId = "" then .error ⟨"workflow node_id must not be empty"⟩
    else if node.nodeId ∈ seen then .error ⟨"duplicate workflow node_id: " ++ pyRepr node.nodeId⟩
    else if node.dependencies.dedup.length ≠ node.dependencies.length then
      .error ⟨"node " ++ pyRepr node.nodeId ++ " declares duplicate dependencies"⟩
    else checkNodes rest (seen ++ [node.nodeId])

/-- The second loop of `__init__`: every dependency is another known node. -/
def checkDependencies (known : List String) : List WorkflowNode → Except WorkflowGraphError Unit
  | [] => .ok ()
  | node :: rest =>
    if node.nodeId ∈ node.dependencies then
      .error ⟨"node " ++ pyRepr node.nodeId ++ " cannot depend on itself"⟩
    else
      let missing := node.dependencies.filter (· ∉ known)
      if missing ≠ [] then
        .error ⟨"node " ++ pyRepr node.nodeId ++ " has unknown dependencies: "
          ++ pyReprTexts (pySorted missing)⟩
      else checkDependencies known rest

/-- The ids in the order of declaration. -/
def nodeIds (nodes : List WorkflowNode) : List String := nodes.map WorkflowNode.nodeId

/-- `_positions`. -/
def position (nodes : List WorkflowNode) (nodeId : String) : Nat := (nodeIds nodes).idxOf nodeId

/-- `_dependencies`. -/
def dependencies (nodes : List WorkflowNode) (nodeId : String) : List String :=
  ((nodes.find? fun node ↦ node.nodeId == nodeId).map WorkflowNode.dependencies).getD []

/-- `_dependents`. -/
def dependents (nodes : List WorkflowNode) (nodeId : String) : List String :=
  nodeIds (nodes.filter fun node ↦ node.dependencies.contains nodeId)

/-! ### `_build_topological_order` -/

/-- An entry of the heap: a ready node behind its position. -/
abbrev HeapEntry : Type := Nat × String

/-- Tuples are compared entry by entry. -/
def HeapEntry.le (left right : HeapEntry) : Bool :=
  left.1 < right.1 || left.1 == right.1 && left.2 ≤ right.2

/-- The entry that `heappop` returns. -/
def leastEntry : List HeapEntry → Option HeapEntry
  | [] => none
  | entry :: rest =>
    match leastEntry rest with
    | none => some entry
    | some other => if HeapEntry.le entry other then some entry else some other

/-- The variables of the loop: `remaining_dependencies`, `ready` and `ordered`. -/
structure KahnState where
  remaining : String → Int
  ready : List HeapEntry
  ordered : List String

/-- One dependency of a node is done. -/
def KahnState.release (nodes : List WorkflowNode) (state : KahnState) (dependent : String) :
    KahnState :=
  let count := state.remaining dependent - 1
  { state with
    remaining := Function.update state.remaining dependent count
    ready := if count = 0 then (position nodes dependent, dependent) :: state.ready
      else state.ready }

/-- One round of the loop, for the entry that was popped. -/
def KahnState.visit (sets : SetOrder) (nodes : List WorkflowNode) (state : KahnState)
    (entry : HeapEntry) : KahnState :=
  (sets.iterate entry.2 (dependents nodes entry.2)).foldl (KahnState.release nodes)
    { state with ready := state.ready.erase entry, ordered := state.ordered ++ [entry.2] }

/-- `while ready`, for a number of rounds. -/
def KahnState.drain (sets : SetOrder) (nodes : List WorkflowNode) : Nat → KahnState → KahnState
  | 0, state => state
  | rounds + 1, state =>
    match leastEntry state.ready with
    | none => state
    | some entry => KahnState.drain sets nodes rounds (state.visit sets nodes entry)

/-- The variables before the loop. -/
def KahnState.initial (nodes : List WorkflowNode) : KahnState where
  remaining nodeId := (dependencies nodes nodeId).length
  ready := ((nodeIds nodes).filter fun nodeId ↦ (dependencies nodes nodeId).length == 0).map
    fun nodeId ↦ (position nodes nodeId, nodeId)
  ordered := []

/-- The variables after the loop. -/
def KahnState.final (sets : SetOrder) (nodes : List WorkflowNode) : KahnState :=
  KahnState.drain sets nodes nodes.length (KahnState.initial nodes)

/-- `_build_topological_order`. -/
def buildTopologicalOrder (sets : SetOrder) (nodes : List WorkflowNode) :
    Except WorkflowGraphError (List String) :=
  let state := KahnState.final sets nodes
  if state.ordered.length ≠ nodes.length then
    let cyclic := pySorted ((nodeIds nodes).filter fun nodeId ↦ 0 < state.remaining nodeId)
    .error ⟨"workflow graph contains a cycle: " ++ pyReprTexts cyclic⟩
  else .ok state.ordered

/-- `WorkflowDag`. -/
structure WorkflowDag where
  nodes : List WorkflowNode
  topologicalOrder : List String
  deriving DecidableEq

/-- `WorkflowDag.__init__`. -/
def WorkflowDag.build (sets : SetOrder) (nodes : List WorkflowNode) :
    Except WorkflowGraphError WorkflowDag := do
  if nodes.isEmpty then throw ⟨"workflow graph must contain at least one node"⟩
  checkNodes nodes []
  checkDependencies (nodeIds nodes) nodes
  let topologicalOrder ← buildTopologicalOrder sets nodes
  return ⟨nodes, topologicalOrder⟩

/-! ### Closures -/

/-- `_require_known`. -/
def requireKnown (nodes : List WorkflowNode) (ids : List String) :
    Except WorkflowGraphError Unit :=
  let unknown := (ids.filter (· ∉ nodeIds nodes)).dedup
  if unknown ≠ [] then
    .error ⟨"unknown workflow node ids: " ++ pyReprTexts (pySorted unknown)⟩
  else .ok ()

/-- The variables of the loop of `descendants`. -/
structure Worklist where
  discovered : List String
  pending : List String

/-- A dependent turns up. -/
def Worklist.discover (work : Worklist) (dependent : String) : Worklist :=
  if dependent ∈ work.discovered then work
  else ⟨work.discovered ++ [dependent], work.pending ++ [dependent]⟩

/-- `while pending`, for a number of rounds. -/
def Worklist.close (sets : SetOrder) (pops : PopOrder) (nodes : List WorkflowNode) :
    Nat → Worklist → Worklist
  | 0, work => work
  | rounds + 1, work =>
    match pops.pop work.pending with
    | none => work
    | some (current, rest) =>
      Worklist.close sets pops nodes rounds
        ((sets.iterate current (dependents nodes current)).foldl Worklist.discover
          { work with pending := rest })

/-- The variables before the loop: the roots, in the order of their set. -/
def Worklist.initial (sets : SetOrder) (roots : List String) : Worklist :=
  ⟨roots.dedup, sets.iterate "" roots.dedup⟩

/-- `descendants`, for any order of emptying the worklist. -/
def WorkflowDag.descendantsBy (sets : SetOrder) (pops : PopOrder) (dag : WorkflowDag)
    (roots : List String) (includeRoots : Bool) : Except WorkflowGraphError (Finset String) := do
  requireKnown dag.nodes roots
  let work := Worklist.close sets pops dag.nodes dag.nodes.length (Worklist.initial sets roots)
  let discovered := work.discovered.toFinset
  return if includeRoots then discovered else discovered \ roots.toFinset

/-- `WorkflowDag.descendants`. -/
def WorkflowDag.descendants (sets : SetOrder) (dag : WorkflowDag) (roots : List String)
    (includeRoots : Bool) : Except WorkflowGraphError (Finset String) :=
  dag.descendantsBy sets .last roots includeRoots

end AgentRuntime.Graph
