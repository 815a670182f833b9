import Lox.Heap.Method

set_option autoImplicit false

namespace Lox

inductive Change where
  -- A scope that a program opens, or a copy of one.
  | newScope (scope : Scope)
  -- The scope of a method that is bound to a receiver.
  | bindScope (method : ScopeId) (receiver : InstanceId)
  | newClosure (closure : Closure)
  | newClass (cls : Class)
  | newInstance (cls : ClassId)
  | define (scope : ScopeId) (name : String) (value : Value)
  -- An assignment to a variable that the scope defines.
  | assign (holder : ScopeId) (name : String) (value : Value)
  | setField (object : InstanceId) (name : String) (value : Value)

def Scope.ofReceiver (method : ScopeId) (receiver : InstanceId) : Scope where
  vars := Bindings.empty.insert receiverName (.inst receiver)
  enclosing := some method

namespace Heap

def apply (heap : Heap) : Change -> Heap
  | .newScope scope => heap.newScope scope
  | .bindScope method receiver => heap.newScope (.ofReceiver method receiver)
  | .newClosure closure => heap.newClosure closure
  | .newClass cls => heap.newClass cls
  | .newInstance cls => heap.newInstance { cls }
  | .define scope name value => heap.define scope name value
  | .assign holder name value => heap.define holder name value
  | .setField object name value => heap.setField object name value

theorem define_newScope (heap : Heap) (scope : Scope) (name : String) (value : Value) :
    (heap.newScope scope).define heap.nextScope name value =
      heap.newScope { scope with vars := scope.vars.insert name value } := by
  have last : (heap.scopes.push scope).modify heap.scopes.size
      (fun scope => { scope with vars := scope.vars.insert name value }) =
        heap.scopes.push { scope with vars := scope.vars.insert name value } := by
    apply Array.ext
    · simp
    · intro index bound inside
      rw [Array.getElem_modify, Array.getElem_push, Array.getElem_push]
      by_cases earlier : index < heap.scopes.size
      · have other : heap.scopes.size ≠ index := by omega
        simp [earlier, other]
      · have same : heap.scopes.size = index := by
          simp at inside
          omega
        simp [same]
  simp only [newScope, define, nextScope, last]

theorem apply_bindScope (heap : Heap) (method : ScopeId) (receiver : InstanceId) :
    heap.apply (.bindScope method receiver) =
      (heap.apply (.newScope { enclosing := some method })).apply
        (.define heap.nextScope receiverName (.inst receiver)) :=
  (heap.define_newScope { enclosing := some method } receiverName (.inst receiver)).symm

theorem scope_apply (heap : Heap) (change : Change) (id : ScopeId) :
    (heap.apply change).scope id =
      match change with
      | .newScope scope => if id = heap.nextScope then scope else heap.scope id
      | .bindScope method receiver =>
          if id = heap.nextScope then .ofReceiver method receiver else heap.scope id
      | .define scope name value | .assign scope name value =>
          if id = scope ∧ scope.index < heap.scopes.size then
            { heap.scope scope with vars := (heap.scope scope).vars.insert name value }
          else heap.scope id
      | _ => heap.scope id := by
  cases change with
  | newScope | bindScope => exact scope_newScope ..
  | define | assign => exact scope_define ..
  | newClosure | newClass | newInstance | setField => rfl

theorem closure_apply (heap : Heap) (change : Change) (id : ClosureId) :
    (heap.apply change).closure id =
      match change with
      | .newClosure closure => if id = heap.nextClosure then closure else heap.closure id
      | _ => heap.closure id := by
  cases change with
  | newClosure => exact closure_newClosure ..
  | newScope | bindScope | newClass | newInstance | define | assign | setField => rfl

theorem cls_apply (heap : Heap) (change : Change) (id : ClassId) :
    (heap.apply change).cls id =
      match change with
      | .newClass cls => if id = heap.nextClass then cls else heap.cls id
      | _ => heap.cls id := by
  cases change with
  | newClass => exact cls_newClass ..
  | newScope | bindScope | newClosure | newInstance | define | assign | setField => rfl

theorem inst_apply (heap : Heap) (change : Change) (id : InstanceId) :
    (heap.apply change).inst id =
      match change with
      | .newInstance cls => if id = heap.nextInstance then { cls } else heap.inst id
      | .setField object name value =>
          if id = object ∧ object.index < heap.instances.size then
            { heap.inst object with fields := (heap.inst object).fields.insert name value }
          else heap.inst id
      | _ => heap.inst id := by
  cases change with
  | newInstance => exact inst_newInstance ..
  | setField => exact inst_setField ..
  | newScope | bindScope | newClosure | newClass | define | assign => rfl

def replay (heap : Heap) (changes : List Change) : Heap :=
  changes.foldl apply heap

@[simp]
theorem replay_nil (heap : Heap) : heap.replay [] = heap := rfl

@[simp]
theorem replay_cons (heap : Heap) (change : Change) (rest : List Change) :
    heap.replay (change :: rest) = (heap.apply change).replay rest := rfl

theorem replay_append (heap : Heap) (before after : List Change) :
    heap.replay (before ++ after) = (heap.replay before).replay after :=
  List.foldl_append

end Heap

end Lox
