import Lox.Bindings
import Lox.Script.Syntax
import Lox.Value

set_option autoImplicit false

/-!
# The heap

Scopes, functions, classes and instances are shared, so they live on a heap and
are known by their identity. The heap only grows: an object keeps its identity
for ever, and a new one comes after all others of its kind. Reading an identity
that was never handed out gives an empty object, so that reads are total.
-/

namespace Lox

structure Scope where
  vars : Bindings Value := .empty
  enclosing : Option ScopeId := none
  deriving Inhabited

structure Closure where
  decl : Decl Value
  scope : ScopeId
  isInitializer : Bool

instance : Inhabited Closure :=
  ⟨⟨default, ⟨0⟩, false⟩⟩

structure Class where
  name : String := ""
  superclass : Option ClassId := none
  methods : Bindings ClosureId := .empty
  deriving Inhabited

structure Instance where
  cls : ClassId
  fields : Bindings Value := .empty

instance : Inhabited Instance :=
  ⟨{ cls := ⟨0⟩ }⟩

structure Heap where
  scopes : Array Scope := #[]
  closures : Array Closure := #[]
  classes : Array Class := #[]
  instances : Array Instance := #[]
  deriving Inhabited

namespace Closure

def name (closure : Closure) : String :=
  closure.decl.name.lexeme

def arity (closure : Closure) : Nat :=
  closure.decl.arity

end Closure

namespace Heap

def scope (heap : Heap) (id : ScopeId) : Scope :=
  heap.scopes[id.index]?.getD default

def closure (heap : Heap) (id : ClosureId) : Closure :=
  heap.closures[id.index]?.getD default

def cls (heap : Heap) (id : ClassId) : Class :=
  heap.classes[id.index]?.getD default

def inst (heap : Heap) (id : InstanceId) : Instance :=
  heap.instances[id.index]?.getD default

def classOf (heap : Heap) (id : InstanceId) : Class :=
  heap.cls (heap.inst id).cls

-- The identity that the next object of a kind gets.

def nextScope (heap : Heap) : ScopeId :=
  ⟨heap.scopes.size⟩

def nextClosure (heap : Heap) : ClosureId :=
  ⟨heap.closures.size⟩

def nextClass (heap : Heap) : ClassId :=
  ⟨heap.classes.size⟩

def nextInstance (heap : Heap) : InstanceId :=
  ⟨heap.instances.size⟩

def newScope (heap : Heap) (scope : Scope) : Heap :=
  { heap with scopes := heap.scopes.push scope }

def newClosure (heap : Heap) (closure : Closure) : Heap :=
  { heap with closures := heap.closures.push closure }

def newClass (heap : Heap) (cls : Class) : Heap :=
  { heap with classes := heap.classes.push cls }

def newInstance (heap : Heap) (object : Instance) : Heap :=
  { heap with instances := heap.instances.push object }

def define (heap : Heap) (id : ScopeId) (name : String) (value : Value) : Heap :=
  { heap with
    scopes := heap.scopes.modify id.index fun scope =>
      { scope with vars := scope.vars.insert name value } }

def setField (heap : Heap) (id : InstanceId) (name : String) (value : Value) : Heap :=
  { heap with
    instances := heap.instances.modify id.index fun object =>
      { object with fields := object.fields.insert name value } }

@[simp]
theorem scope_newScope (heap : Heap) (scope : Scope) (id : ScopeId) :
    (heap.newScope scope).scope id =
      if id = heap.nextScope then scope else heap.scope id := by
  obtain ⟨index⟩ := id
  simp only [newScope, nextScope, Heap.scope, Array.getElem?_push, ScopeId.mk.injEq]
  split <;> rfl

@[simp]
theorem closure_newClosure (heap : Heap) (closure : Closure) (id : ClosureId) :
    (heap.newClosure closure).closure id =
      if id = heap.nextClosure then closure else heap.closure id := by
  obtain ⟨index⟩ := id
  simp only [newClosure, nextClosure, Heap.closure, Array.getElem?_push, ClosureId.mk.injEq]
  split <;> rfl

@[simp]
theorem cls_newClass (heap : Heap) (cls : Class) (id : ClassId) :
    (heap.newClass cls).cls id =
      if id = heap.nextClass then cls else heap.cls id := by
  obtain ⟨index⟩ := id
  simp only [newClass, nextClass, Heap.cls, Array.getElem?_push, ClassId.mk.injEq]
  split <;> rfl

@[simp]
theorem inst_newInstance (heap : Heap) (object : Instance) (id : InstanceId) :
    (heap.newInstance object).inst id =
      if id = heap.nextInstance then object else heap.inst id := by
  obtain ⟨index⟩ := id
  simp only [newInstance, nextInstance, Heap.inst, Array.getElem?_push, InstanceId.mk.injEq]
  split <;> rfl

theorem scope_define (heap : Heap) (id : ScopeId) (name : String) (value : Value)
    (other : ScopeId) :
    (heap.define id name value).scope other =
      if other = id ∧ id.index < heap.scopes.size then
        { heap.scope id with vars := (heap.scope id).vars.insert name value }
      else heap.scope other := by
  obtain ⟨index⟩ := id
  obtain ⟨query⟩ := other
  by_cases same : query = index
  · subst same
    by_cases allocated : query < heap.scopes.size <;>
      simp [define, Heap.scope, Array.getElem_modify, allocated]
  · have differs : ¬ index = query := fun h => same h.symm
    simp [define, Heap.scope, Array.getElem?_modify, same, differs]

theorem inst_setField (heap : Heap) (id : InstanceId) (name : String) (value : Value)
    (other : InstanceId) :
    (heap.setField id name value).inst other =
      if other = id ∧ id.index < heap.instances.size then
        { heap.inst id with fields := (heap.inst id).fields.insert name value }
      else heap.inst other := by
  obtain ⟨index⟩ := id
  obtain ⟨query⟩ := other
  by_cases same : query = index
  · subst same
    by_cases allocated : query < heap.instances.size <;>
      simp [setField, Heap.inst, Array.getElem_modify, allocated]
  · have differs : ¬ index = query := fun h => same h.symm
    simp [setField, Heap.inst, Array.getElem?_modify, same, differs]

end Heap

end Lox
