import CloudProvision.Identity

/-!
# Changes of a collection

A planned list is split against the list of the state: planned entries that are new, pairs of a
planned entry and the entry of the state that it corresponds to, and entries of the state that are
left over.
-/

namespace CloudProvision

/-- Nested objects whose fields can be compared between a plan and a state. -/
class Reconcilable (α : Type) extends Identified α where
  /-- Whether a tracked field of the planned entry differs from the entry of the state. -/
  changedFrom : (plan state : α) → Bool

/-- A planned entry with the entry of the state that it corresponds to. -/
structure Pairing (α : Type) where
  plan : Placed α
  state : Placed α
  deriving DecidableEq

/-- A planned list split against the list of the state. -/
structure Changes (α : Type) where
  /-- Planned entries that correspond to no entry of the state, in the order of the plan. -/
  added : List (Placed α)
  /-- All pairs, in the order of the plan. -/
  matched : List (Pairing α)
  /-- Entries of the state in no pair, in the order of the state. -/
  removed : List (Placed α)

namespace Changes

variable {α : Type}

/-- The pair of a planned entry, if it corresponds to an entry of the state. -/
def pair? [Identified α] (index : IdentityIndex α) (plan : Placed α) : Option (Pairing α) :=
  (index.locate? plan.entry).map (⟨plan, ·⟩)

/-- The split of a planned list. -/
def between [Identified α] (plan state : List α) : Changes α :=
  let index := IdentityIndex.ofList state
  let matched := (Placed.ofList plan).filterMap (pair? index)
  { added := (Placed.ofList plan).filter fun placed => (pair? index placed).isNone
    matched
    removed := (Placed.ofList state).filter fun placed =>
      matched.all fun pairing => pairing.state.position != placed.position }

/-- Whether entries are new or left over. -/
def membershipChanged (changes : Changes α) : Bool :=
  !changes.added.isEmpty || !changes.removed.isEmpty

/-- The pairs whose fields differ. -/
def changed [Reconcilable α] (changes : Changes α) : List (Pairing α) :=
  changes.matched.filter fun pairing =>
    Reconcilable.changedFrom pairing.plan.entry pairing.state.entry

/-- Whether there is nothing to do. -/
def isEmpty [Reconcilable α] (changes : Changes α) : Bool :=
  !changes.membershipChanged && changes.changed.isEmpty

end Changes

/-- The planned entries that must be updated, in the order of the plan. New entries are created and
not updated. -/
def reconcile {α : Type} [Reconcilable α] (plan state : List α) : List (Placed α) :=
  (Changes.between plan state).changed.map Pairing.plan

end CloudProvision
