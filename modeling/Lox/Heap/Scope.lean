import Lox.Heap.Basic

set_option autoImplicit false

namespace Lox.Heap

def enclosing? (heap : Heap) (id : ScopeId) : Option ScopeId :=
  -- Only an older scope counts, so that walks outwards end.
  (heap.scope id).enclosing.filter (·.index < id.index)

theorem enclosing?_older {heap : Heap} {id parent : ScopeId}
    (link : heap.enclosing? id = some parent) : parent.index < id.index := by
  simpa using (Option.filter_eq_some_iff.mp link).2

def holder? (heap : Heap) (id : ScopeId) (name : String) : Option ScopeId :=
  if (heap.scope id).vars.contains name then some id
  else
    match _link : heap.enclosing? id with
    | some parent => heap.holder? parent name
    | none => none
termination_by id.index
decreasing_by exact enclosing?_older ‹_›

theorem holder?_here {heap : Heap} {id : ScopeId} {name : String}
    (present : (heap.scope id).vars.contains name) : heap.holder? id name = some id := by
  rw [holder?, if_pos present]

theorem holder?_outward {heap : Heap} {id parent : ScopeId} {name : String}
    (absent : ¬ (heap.scope id).vars.contains name) (link : heap.enclosing? id = some parent) :
    heap.holder? id name = heap.holder? parent name := by
  rw [holder?, if_neg absent]
  split
  · next other found =>
      rw [link] at found
      cases found
      rfl
  · next none =>
      rw [link] at none
      cases none

def lookup (heap : Heap) (id : ScopeId) (name : String) : Option Value :=
  match heap.holder? id name with
  | some holder => (heap.scope holder).vars.get? name
  | none => none

end Lox.Heap
