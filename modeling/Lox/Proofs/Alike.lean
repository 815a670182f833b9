import Lox.Proofs.Reference
import Mathlib.Logic.Embedding.Basic

set_option autoImplicit false

/-!
# Heaps that programs cannot tell apart

Two heaps are alike if they hold the same objects under the same identities, but
that functions may have other ones and that maps may keep their entries in
another order. All that programs see of such heaps corresponds, and
corresponding changes keep them alike.
-/

namespace Lox

def Bindings.Alike {α β : Type} (transform : α -> β) (left : Bindings α) (right : Bindings β) :
    Prop :=
  ∀ name, right.get? name = (left.get? name).map transform

namespace Bindings.Alike

variable {α β : Type} {transform : α -> β} {left : Bindings α} {right : Bindings β}

theorem empty : (Bindings.empty : Bindings α).Alike transform Bindings.empty :=
  fun _ => rfl

theorem insert (alike : left.Alike transform right) (name : String) (value : α) :
    (left.insert name value).Alike transform (right.insert name (transform value)) := by
  intro query
  rw [get?_insert, get?_insert]
  split
  · rfl
  · exact alike query

theorem contains (alike : left.Alike transform right) (name : String) :
    right.contains name = left.contains name := by
  rw [Bindings.contains, alike name, Option.isSome_map, Bindings.contains]

theorem size (alike : left.Alike transform right) : right.size = left.size := by
  rw [← length_keys, ← length_keys, (keys_perm alike.contains).length_eq]

end Bindings.Alike

section Relations

variable (naming : ClosureId ↪ ClosureId)

def Value.rename : Value -> Value
  | .closure id => .closure (naming id)
  | value => value

/-- Constants that name no function with another identity. -/
def Steady (constants : List Value) : Prop :=
  ∀ value ∈ constants, value.rename naming = value

structure Scope.Alike (left right : Scope) : Prop where
  vars : left.vars.Alike (Value.rename naming) right.vars
  enclosing : right.enclosing = left.enclosing

structure Class.Alike (left right : Class) : Prop where
  name : right.name = left.name
  superclass : right.superclass = left.superclass
  methods : left.methods.Alike naming right.methods

structure Instance.Alike (left right : Instance) : Prop where
  cls : right.cls = left.cls
  fields : left.fields.Alike (Value.rename naming) right.fields

structure Heap.Alike (left right : Heap) : Prop where
  scope : ∀ id, (left.scope id).Alike naming (right.scope id)
  closure : ∀ id, right.closure (naming id) = left.closure id
  steady : ∀ id, Steady naming (left.closure id).decl.constants
  cls : ∀ id, (left.cls id).Alike naming (right.cls id)
  inst : ∀ id, (left.inst id).Alike naming (right.inst id)
  scopes : right.scopes.size = left.scopes.size
  -- The functions that are still to come correspond in their order.
  closures : ∀ count, naming ⟨left.closures.size + count⟩ = ⟨right.closures.size + count⟩
  classes : right.classes.size = left.classes.size
  instances : right.instances.size = left.instances.size

inductive Change.Alike : Change -> Change -> Prop where
  | newScope {left right : Scope} :
      left.Alike naming right -> Alike (.newScope left) (.newScope right)
  | bindScope (method : ScopeId) (receiver : InstanceId) :
      Alike (.bindScope method receiver) (.bindScope method receiver)
  | newClosure {closure : Closure} :
      Steady naming closure.decl.constants -> Alike (.newClosure closure) (.newClosure closure)
  | newClass {left right : Class} :
      left.Alike naming right -> Alike (.newClass left) (.newClass right)
  | newInstance (cls : ClassId) : Alike (.newInstance cls) (.newInstance cls)
  | define (scope : ScopeId) (name : String) (value : Value) :
      Alike (.define scope name value) (.define scope name (value.rename naming))
  | assign (holder : ScopeId) (name : String) (value : Value) :
      Alike (.assign holder name value) (.assign holder name (value.rename naming))
  | setField (object : InstanceId) (name : String) (value : Value) :
      Alike (.setField object name value) (.setField object name (value.rename naming))

end Relations

theorem steady_append {naming : ClosureId ↪ ClosureId} {first second : List Value} :
    Steady naming (first ++ second) <-> Steady naming first ∧ Steady naming second := by
  simp only [Steady, List.forall_mem_append]

namespace Heap

theorem holder?_eq (heap : Heap) (id : ScopeId) (name : String) :
    heap.holder? id name =
      if (heap.scope id).vars.contains name then some id
      else (heap.enclosing? id).bind fun parent => heap.holder? parent name := by
  rw [holder?]
  congr 1
  split
  · next parent link => rw [link]; rfl
  · next link => rw [link]; rfl

theorem searchEvents_eq (heap : Heap) (id : ClassId) (name : String) :
    heap.searchEvents id name =
      if (heap.cls id).methods.contains name then [.methodFound name (heap.cls id).name]
      else (heap.superclass? id).elim [] fun parent =>
        .methodInherited name (heap.cls id).name (heap.cls parent).name ::
          heap.searchEvents parent name := by
  rw [searchEvents]
  congr 1
  split
  · next parent link => rw [link]; rfl
  · next link => rw [link]; rfl

namespace Alike

variable {naming : ClosureId ↪ ClosureId} {left right : Heap}

section Views

variable (alike : left.Alike naming right)

include alike

theorem nextScope : right.nextScope = left.nextScope :=
  congrArg ScopeId.mk alike.scopes

theorem nextClosure : right.nextClosure = naming left.nextClosure :=
  (alike.closures 0).symm

theorem nextClass : right.nextClass = left.nextClass :=
  congrArg ClassId.mk alike.classes

theorem nextInstance : right.nextInstance = left.nextInstance :=
  congrArg InstanceId.mk alike.instances

theorem enclosing? (id : ScopeId) : right.enclosing? id = left.enclosing? id := by
  rw [Heap.enclosing?, (alike.scope id).enclosing, Heap.enclosing?]

theorem superclass? (id : ClassId) : right.superclass? id = left.superclass? id := by
  rw [Heap.superclass?, (alike.cls id).superclass, Heap.superclass?]

theorem holder? (id : ScopeId) (name : String) : right.holder? id name = left.holder? id name := by
  fun_induction Heap.holder? left id name with
  | case1 id present =>
      rw [holder?_eq, (alike.scope id).vars.contains, if_pos present]
  | case2 id absent parent link ih =>
      rw [holder?_eq, (alike.scope id).vars.contains, if_neg absent, alike.enclosing?, link]
      exact ih
  | case3 id absent link =>
      rw [holder?_eq, (alike.scope id).vars.contains, if_neg absent, alike.enclosing?, link]
      rfl

theorem lookup (id : ScopeId) (name : String) :
    right.lookup id name = (left.lookup id name).map (Value.rename naming) := by
  rw [Heap.lookup, alike.holder?, Heap.lookup]
  cases left.holder? id name with
  | none => rfl
  | some holder => exact (alike.scope holder).vars name

theorem findMethod (id : ClassId) (name : String) :
    right.findMethod id name = (left.findMethod id name).map naming := by
  fun_induction Heap.findMethod left id name with
  | case1 id method declared =>
      rw [right.findMethod_eq, (alike.cls id).methods, declared]
      rfl
  | case2 id undeclared parent link ih =>
      rw [right.findMethod_eq, (alike.cls id).methods, undeclared, alike.superclass?, link]
      exact ih
  | case3 id undeclared link =>
      rw [right.findMethod_eq, (alike.cls id).methods, undeclared, alike.superclass?, link]
      rfl

theorem searchEvents (id : ClassId) (name : String) :
    right.searchEvents id name = left.searchEvents id name := by
  fun_induction Heap.searchEvents left id name with
  | case1 id cls declared =>
      rw [searchEvents_eq, (alike.cls id).methods.contains, if_pos declared, (alike.cls id).name]
  | case2 id cls undeclared parent link ih =>
      rw [searchEvents_eq, (alike.cls id).methods.contains, if_neg undeclared, alike.superclass?,
        link, (alike.cls id).name]
      dsimp only [Option.elim]
      rw [(alike.cls parent).name, ih]
  | case3 id cls undeclared link =>
      rw [searchEvents_eq, (alike.cls id).methods.contains, if_neg undeclared, alike.superclass?,
        link]
      rfl

theorem displayInstance (id : InstanceId) :
    right.displayInstance id = left.displayInstance id := by
  rw [Heap.displayInstance, classOf, (alike.inst id).cls, (alike.cls _).name]
  rfl

theorem display (value : Value) : right.display (value.rename naming) = left.display value := by
  cases value with
  | closure id => rw [Value.rename, Heap.display, alike.closure id, Heap.display]
  | cls id => exact (alike.cls id).name
  | inst id => exact alike.displayInstance id
  | native | number | text | bool | nil => rfl

end Views

section Changes

variable (alike : left.Alike naming right)

include alike

theorem newScope {first second : Scope} (scopes : first.Alike naming second) :
    (left.newScope first).Alike naming (right.newScope second) where
  scope id := by
    rw [scope_newScope, scope_newScope, alike.nextScope]
    split
    · exact scopes
    · exact alike.scope id
  closure := alike.closure
  steady := alike.steady
  cls := alike.cls
  inst := alike.inst
  scopes := by simp [Heap.newScope, alike.scopes]
  closures := alike.closures
  classes := alike.classes
  instances := alike.instances

theorem newClosure {closure : Closure} (steady : Steady naming closure.decl.constants) :
    (left.newClosure closure).Alike naming (right.newClosure closure) where
  scope := alike.scope
  closure id := by
    rw [closure_newClosure, closure_newClosure, alike.nextClosure]
    simp only [naming.injective.eq_iff, alike.closure id]
  steady id := by
    rw [closure_newClosure]
    split
    · exact steady
    · exact alike.steady id
  cls := alike.cls
  inst := alike.inst
  scopes := alike.scopes
  closures count := by
    simp only [Heap.newClosure, Array.size_push, Nat.add_assoc]
    exact alike.closures (1 + count)
  classes := alike.classes
  instances := alike.instances

theorem newClass {first second : Class} (classes : first.Alike naming second) :
    (left.newClass first).Alike naming (right.newClass second) where
  scope := alike.scope
  closure := alike.closure
  steady := alike.steady
  cls id := by
    rw [cls_newClass, cls_newClass, alike.nextClass]
    split
    · exact classes
    · exact alike.cls id
  inst := alike.inst
  scopes := alike.scopes
  closures := alike.closures
  classes := by simp [Heap.newClass, alike.classes]
  instances := alike.instances

theorem newInstance (cls : ClassId) :
    (left.newInstance { cls }).Alike naming (right.newInstance { cls }) where
  scope := alike.scope
  closure := alike.closure
  steady := alike.steady
  cls := alike.cls
  inst id := by
    rw [inst_newInstance, inst_newInstance, alike.nextInstance]
    split
    · exact ⟨rfl, .empty⟩
    · exact alike.inst id
  scopes := alike.scopes
  closures := alike.closures
  classes := alike.classes
  instances := by simp [Heap.newInstance, alike.instances]

theorem define (scope : ScopeId) (name : String) (value : Value) :
    (left.define scope name value).Alike naming
      (right.define scope name (value.rename naming)) where
  scope id := by
    rw [scope_define, scope_define, alike.scopes]
    split
    · exact ⟨(alike.scope scope).vars.insert name value, (alike.scope scope).enclosing⟩
    · exact alike.scope id
  closure := alike.closure
  steady := alike.steady
  cls := alike.cls
  inst := alike.inst
  scopes := by simp [Heap.define, alike.scopes]
  closures := alike.closures
  classes := alike.classes
  instances := alike.instances

theorem setField (object : InstanceId) (name : String) (value : Value) :
    (left.setField object name value).Alike naming
      (right.setField object name (value.rename naming)) where
  scope := alike.scope
  closure := alike.closure
  steady := alike.steady
  cls := alike.cls
  inst id := by
    rw [inst_setField, inst_setField, alike.instances]
    split
    · exact ⟨(alike.inst object).cls, (alike.inst object).fields.insert name value⟩
    · exact alike.inst id
  scopes := alike.scopes
  closures := alike.closures
  classes := alike.classes
  instances := by simp [Heap.setField, alike.instances]

theorem apply {first second : Change} (changes : first.Alike naming second) :
    (left.apply first).Alike naming (right.apply second) := by
  cases changes with
  | newScope scopes => exact alike.newScope scopes
  | bindScope method receiver =>
      exact alike.newScope ⟨Bindings.Alike.empty.insert receiverName (Value.inst receiver), rfl⟩
  | newClosure steady => exact alike.newClosure steady
  | newClass classes => exact alike.newClass classes
  | newInstance cls => exact alike.newInstance cls
  | define scope name value => exact alike.define scope name value
  | assign holder name value => exact alike.define holder name value
  | setField object name value => exact alike.setField object name value

end Changes

end Alike

end Heap

end Lox
