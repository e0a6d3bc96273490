-- The attributes of a request in the hands of its handler. Whatever is done with the body, the
-- parameters and the suspension of the request, they are the store that the operations on
-- attributes leave, so every law of such a store is a law of them.
import WebRequest.Proofs.Attributes
import WebRequest.Proofs.Handling.Change

namespace WebRequest.Handling

/-- A change of the attributes as an operation on their store. -/
def AttributeChange.onStore : AttributeChange → Attributes.Operation
  | .set name value => .set name value
  | .insert name value => .insert name value
  | .take name => .take name
  | .recycle => .clear

/-- What an operation on a request does to its attributes, if it is about them. -/
def Operation.onStore? : Operation → Option Attributes.Operation
  | .attributes change => some change.onStore
  | _ => none

/-- The store that a request keeps its attributes in. -/
def InUse.attributes (u : InUse) : Attributes.InUse := { store := u.request.attributes }

theorem attributes_change (u : InUse) (change : AttributeChange) :
    (perform u (.attributes change)).state.attributes =
      (Attributes.perform u.attributes change.onStore).state := by
  cases change <;> rfl

theorem attributes_suspension (u : InUse) (event : Suspension.Event) :
    (perform u (.suspension event)).state.attributes = u.attributes := by
  have onHandle (place : Nat) (f : Async.Cycle → Outcome Async.Cycle Suspension.Answer) :
      (Suspension.onHandle u.request place f).state.attributes = u.request.attributes := by
    unfold Suspension.onHandle Request.callCycle
    rcases u.request.lifecycle.call place f with _ | o <;> rfl
  refine congrArg (Attributes.InUse.mk · []) ?_
  cases event with
  | expiry place => exact onHandle place _
  | operation op =>
    cases op with
    | call place call => exact onHandle place _
    | _ => rfl

theorem Change.attributes {u u' : InUse} {op : Operation} {a : Answer}
    (changed : Change u op a u') (elsewhere : op.isAside = false) :
    u'.attributes = u.attributes := by
  cases changed with
  | aside r apart aside =>
    rw [elsewhere] at aside
    cases aside
  | _ => rfl

theorem attributes_perform (u : InUse) (op : Operation) :
    (perform u op).state.attributes =
      Attributes.after u.attributes op.onStore?.toList := by
  cases op with
  | attributes change => exact attributes_change u change
  | suspension event => exact attributes_suspension u event
  | _ => exact (changed_perform u _).attributes rfl

/-- The attributes of a request are those that the operations on attributes alone would leave. -/
theorem attributes_after (u : InUse) (ops : List Operation) :
    (after u ops).attributes =
      Attributes.after u.attributes (ops.filterMap Operation.onStore?) := by
  induction ops using List.reverseRecOn with
  | nil => rfl
  | append_singleton ops op ih =>
    rw [after, Runs.after_snoc, attributes_perform, ← after, ih, List.filterMap_append,
      Attributes.after, Attributes.after, Attributes.after, Runs.after_append]
    cases op <;> rfl

/-- The attributes of a request are an ordered map of what its handler has done to them. -/
theorem attributes_of_received (a : Request.Arrival) (s : Settings) (id : Nat)
    (ops : List Operation) :
    Attributes.Follows (ops.filterMap Operation.onStore?)
      (after (.received a s id) ops).request.attributes := by
  have same : (after (.received a s id) ops).request.attributes =
      (Attributes.after {} (ops.filterMap Operation.onStore?)).store :=
    congrArg Attributes.InUse.store (attributes_after (.received a s id) ops)
  rw [same]
  exact Attributes.follows_after _

end WebRequest.Handling
