import Lox.Event
import Lox.Heap.Basic

set_option autoImplicit false

namespace Lox

def initializerName : String := "init"

def receiverName : String := "this"

def superclassName : String := "super"

namespace Heap

def superclass? (heap : Heap) (id : ClassId) : Option ClassId :=
  -- Only an older class counts, so that walks upwards end.
  (heap.cls id).superclass.filter (·.index < id.index)

theorem superclass?_older {heap : Heap} {id parent : ClassId}
    (link : heap.superclass? id = some parent) : parent.index < id.index := by
  simpa using (Option.filter_eq_some_iff.mp link).2

def findMethod (heap : Heap) (id : ClassId) (name : String) : Option ClosureId :=
  match (heap.cls id).methods.get? name with
  | some method => some method
  | none =>
      match _link : heap.superclass? id with
      | some parent => heap.findMethod parent name
      | none => none
termination_by id.index
decreasing_by exact superclass?_older ‹_›

theorem findMethod_eq (heap : Heap) (id : ClassId) (name : String) :
    heap.findMethod id name =
      ((heap.cls id).methods.get? name).or
        ((heap.superclass? id).bind fun parent => heap.findMethod parent name) := by
  rw [findMethod]
  cases (heap.cls id).methods.get? name with
  | some method => rfl
  | none =>
      dsimp only
      split
      · next parent link => rw [link]; rfl
      · next link => rw [link]; rfl

def searchEvents (heap : Heap) (id : ClassId) (name : String) : List Event :=
  let cls := heap.cls id
  if cls.methods.contains name then [.methodFound name cls.name]
  else
    match _link : heap.superclass? id with
    | some parent =>
        .methodInherited name cls.name (heap.cls parent).name :: heap.searchEvents parent name
    | none => []
termination_by id.index
decreasing_by exact superclass?_older ‹_›

def classArity (heap : Heap) (id : ClassId) : Nat :=
  match heap.findMethod id initializerName with
  | some method => (heap.closure method).arity
  | none => 0

end Heap

end Lox
