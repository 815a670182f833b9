import Lox.Proofs.Reference

set_option autoImplicit false

/-!
# Worlds

A world is a heap together with the objects that a program has come to know and
the scopes that it has opened itself. A program gets to know what the objects it
knows refer to, and what it makes; it changes only what it knows, and defines
variables only in scopes of its own. `Permits` says this of one change, and
`PermitsAll` of a list of them.
-/

namespace Lox

structure World where
  heap : Heap
  known : Handle -> Prop
  own : ScopeId -> Prop

def Change.created? (heap : Heap) : Change -> Option Handle
  | .newScope _ | .bindScope _ _ => some (.scope heap.nextScope)
  | .newClosure _ => some (.closure heap.nextClosure)
  | .newClass _ => some (.cls heap.nextClass)
  | .newInstance _ => some (.inst heap.nextInstance)
  | .define _ _ _ | .assign _ _ _ | .setField _ _ _ => none

def Change.opened? (heap : Heap) : Change -> Option ScopeId
  | .newScope _ => some heap.nextScope
  -- The scope of a bound method is for the receiver alone.
  | _ => none

namespace World

variable {α : Type}

def Knows [Refers α] (world : World) (item : α) : Prop :=
  ∀ target, Refers.links item target -> world.known target

def Permits (world : World) : Change -> Prop
  | .newScope scope => world.Knows scope
  | .bindScope method receiver => world.known (.scope method) ∧ world.known (.inst receiver)
  | .newClosure closure => world.Knows closure
  | .newClass cls => world.Knows cls
  | .newInstance cls => world.known (.cls cls)
  | .define scope _ value => world.own scope ∧ world.Knows value
  | .assign holder name value =>
      world.known (.scope holder) ∧ (world.heap.scope holder).vars.contains name ∧
        world.Knows value
  | .setField object _ value => world.known (.inst object) ∧ world.Knows value

def apply (world : World) (change : Change) : World where
  heap := world.heap.apply change
  known handle := world.known handle ∨ change.created? world.heap = some handle
  own id := world.own id ∨ change.opened? world.heap = some id

def PermitsAll (world : World) : List Change -> Prop
  | [] => True
  | change :: rest => world.Permits change ∧ (world.apply change).PermitsAll rest

def replay (world : World) (changes : List Change) : World :=
  changes.foldl apply world

def ofHeap (heap : Heap) (own : ScopeId -> Prop) : World where
  heap := heap
  known := heap.Has
  own := own

/-- Known objects exist and refer to known objects only. -/
structure Closed (world : World) : Prop where
  present : ∀ handle, world.known handle -> world.heap.Has handle
  closed : ∀ source target,
    world.known source -> world.heap.RefersTo source target -> world.known target
  ownKnown : ∀ id, world.own id -> world.known (.scope id)

structure Within (world later : World) : Prop where
  known : ∀ handle, world.known handle -> later.known handle
  own : ∀ id, world.own id -> later.own id

end World

namespace World

variable {α : Type} {world later : World}

section Knows

variable [Refers α]

@[simp]
theorem knows_scopeId (id : ScopeId) : world.Knows id <-> world.known (.scope id) := by
  simp [Knows, Refers.links]

@[simp]
theorem knows_closureId (id : ClosureId) : world.Knows id <-> world.known (.closure id) := by
  simp [Knows, Refers.links]

@[simp]
theorem knows_classId (id : ClassId) : world.Knows id <-> world.known (.cls id) := by
  simp [Knows, Refers.links]

@[simp]
theorem knows_instanceId (id : InstanceId) : world.Knows id <-> world.known (.inst id) := by
  simp [Knows, Refers.links]

@[simp]
theorem knows_nil : world.Knows ([] : List α) := by
  simp [Knows, Refers.links]

@[simp]
theorem knows_cons (head : α) (tail : List α) :
    world.Knows (head :: tail) <-> world.Knows head ∧ world.Knows tail := by
  simp [Knows, Refers.links, or_imp, forall_and]

@[simp]
theorem knows_append (left right : List α) :
    world.Knows (left ++ right) <-> world.Knows left ∧ world.Knows right := by
  induction left with
  | nil => simp
  | cons head tail ih => simp [ih, and_assoc]

theorem Knows.mem {items : List α} (known : world.Knows items) {item : α}
    (member : item ∈ items) : world.Knows item :=
  fun target link => known target ⟨item, member, link⟩

@[simp]
theorem knows_none : world.Knows (none : Option α) := by
  simp [Knows, Refers.links]

@[simp]
theorem knows_some (item : α) : world.Knows (some item) <-> world.Knows item := by
  simp [Knows, Refers.links]

@[simp]
theorem knows_empty : world.Knows (Bindings.empty : Bindings α) := by
  simp [Knows, Refers.links]

theorem Knows.get? {bindings : Bindings α} (known : world.Knows bindings) {name : String}
    {value : α} (found : bindings.get? name = some value) : world.Knows value :=
  fun target link => known target ⟨name, value, found, link⟩

theorem Knows.insert {bindings : Bindings α} (known : world.Knows bindings) (name : String)
    {value : α} (valueKnown : world.Knows value) :
    world.Knows (bindings.insert name value) := by
  rintro target ⟨query, found, present, link⟩
  rw [Bindings.get?_insert] at present
  split at present
  · exact valueKnown target (Option.some.inj present ▸ link)
  · exact known target ⟨query, found, present, link⟩

theorem Knows.mono (within : world.Within later) {item : α} (known : world.Knows item) :
    later.Knows item :=
  fun target link => within.known target (known target link)

end Knows

@[simp]
theorem knows_closure (closure : Closure) :
    world.Knows closure <-> world.known (.scope closure.scope) ∧ world.Knows closure.decl := by
  simp [Knows, Refers.links, or_imp, forall_and]

@[simp]
theorem knows_scope (scope : Scope) :
    world.Knows scope <-> world.Knows scope.enclosing ∧ world.Knows scope.vars := by
  simp [Knows, Refers.links, or_imp, forall_and]

@[simp]
theorem knows_class (cls : Class) :
    world.Knows cls <-> world.Knows cls.superclass ∧ world.Knows cls.methods := by
  simp [Knows, Refers.links, or_imp, forall_and]

@[simp]
theorem knows_instance (object : Instance) :
    world.Knows object <-> world.known (.cls object.cls) ∧ world.Knows object.fields := by
  simp [Knows, Refers.links, or_imp, forall_and]

@[simp]
theorem knows_decl (decl : Decl Value) :
    world.Knows decl <-> world.Knows (Stmt.constantsAll decl.body) := by
  rw [← Decl.constants_eq]
  exact Iff.rfl

@[simp]
theorem knows_unit (nothing : Unit) : world.Knows nothing := by
  simp [Knows, Refers.links]

@[simp]
theorem knows_nat (number : Nat) : world.Knows number := by
  simp [Knows, Refers.links]

@[simp]
theorem knows_error (error : Error) : world.Knows error := by
  simp [Knows, Refers.links]

@[simp]
theorem knows_unwindError (cause : Error) : world.Knows (Unwind.error cause) := by
  simp [Knows, Refers.links]

theorem knows_plain {value : Value} (plain : value.handle? = none) : world.Knows value := by
  simp [Knows, Refers.links, plain]

@[simp]
theorem knows_closureValue (id : ClosureId) :
    world.Knows (Value.closure id) <-> world.known (.closure id) := by
  simp [Knows, Refers.links, Value.handle?]

@[simp]
theorem knows_classValue (id : ClassId) :
    world.Knows (Value.cls id) <-> world.known (.cls id) := by
  simp [Knows, Refers.links, Value.handle?]

@[simp]
theorem knows_instanceValue (id : InstanceId) :
    world.Knows (Value.inst id) <-> world.known (.inst id) := by
  simp [Knows, Refers.links, Value.handle?]

namespace Within

theorem refl (world : World) : world.Within world :=
  ⟨fun _ known => known, fun _ own => own⟩

theorem trans {middle : World} (first : world.Within middle) (second : middle.Within later) :
    world.Within later :=
  ⟨fun handle known => second.known handle (first.known handle known),
    fun id own => second.own id (first.own id own)⟩

theorem apply (world : World) (change : Change) : world.Within (world.apply change) :=
  ⟨fun _ known => .inl known, fun _ own => .inl own⟩

theorem replay (world : World) (changes : List Change) : world.Within (world.replay changes) := by
  induction changes generalizing world with
  | nil => exact refl world
  | cons change rest ih => exact (apply world change).trans (ih (world.apply change))

end Within

namespace Closed

theorem scope (closed : world.Closed) {id : ScopeId} (known : world.known (.scope id)) :
    world.Knows (world.heap.scope id) :=
  fun target link => closed.closed (.scope id) target known link

theorem closure (closed : world.Closed) {id : ClosureId} (known : world.known (.closure id)) :
    world.Knows (world.heap.closure id) :=
  fun target link => closed.closed (.closure id) target known link

theorem cls (closed : world.Closed) {id : ClassId} (known : world.known (.cls id)) :
    world.Knows (world.heap.cls id) :=
  fun target link => closed.closed (.cls id) target known link

theorem inst (closed : world.Closed) {id : InstanceId} (known : world.known (.inst id)) :
    world.Knows (world.heap.inst id) :=
  fun target link => closed.closed (.inst id) target known link

end Closed

end World

theorem Heap.has_apply (heap : Heap) (change : Change) (handle : Handle) :
    (heap.apply change).Has handle <->
      heap.Has handle ∨ change.created? heap = some handle := by
  cases change <;> rcases handle with ⟨⟨index⟩⟩ | ⟨⟨index⟩⟩ | ⟨⟨index⟩⟩ | ⟨⟨index⟩⟩ <;>
    simp [Heap.apply, Heap.Has, Change.created?, Heap.newScope, Heap.newClosure, Heap.newClass,
      Heap.newInstance, Heap.define, Heap.setField, Heap.nextScope, Heap.nextClosure,
      Heap.nextClass, Heap.nextInstance] <;>
    omega

theorem Heap.has_replay {heap : Heap} {handle : Handle} (present : heap.Has handle)
    (changes : List Change) : (heap.replay changes).Has handle := by
  induction changes generalizing heap with
  | nil => exact present
  | cons change rest ih => exact ih ((heap.has_apply change handle).mpr (.inl present))

theorem Change.created?_fresh {heap : Heap} {change : Change} {handle : Handle}
    (created : change.created? heap = some handle) : ¬ heap.Has handle := by
  cases change <;> simp [Change.created?] at created <;> subst created <;>
    simp [Heap.Has, Heap.nextScope, Heap.nextClosure, Heap.nextClass, Heap.nextInstance]

theorem Change.created?_of_opened {heap : Heap} {change : Change} {id : ScopeId}
    (opened : change.opened? heap = some id) : change.created? heap = some (.scope id) := by
  cases change <;> simp [Change.opened?] at opened
  simp [Change.created?, opened]

namespace World

variable {α : Type} {world later : World}

@[simp]
theorem heap_apply (world : World) (change : Change) :
    (world.apply change).heap = world.heap.apply change := rfl

@[simp]
theorem replay_nil (world : World) : world.replay [] = world := rfl

@[simp]
theorem replay_cons (world : World) (change : Change) (rest : List Change) :
    world.replay (change :: rest) = (world.apply change).replay rest := rfl

theorem replay_append (world : World) (before after : List Change) :
    world.replay (before ++ after) = (world.replay before).replay after :=
  List.foldl_append

@[simp]
theorem heap_replay (world : World) (changes : List Change) :
    (world.replay changes).heap = world.heap.replay changes := by
  induction changes generalizing world with
  | nil => rfl
  | cons change rest ih => exact ih (world.apply change)

theorem permitsAll_append (world : World) (before after : List Change) :
    world.PermitsAll (before ++ after) <->
      world.PermitsAll before ∧ (world.replay before).PermitsAll after := by
  induction before generalizing world with
  | nil => simp [PermitsAll]
  | cons change rest ih => simp [PermitsAll, ih, and_assoc]

section Apply

variable {change : Change}

theorem knows_apply [Refers α] {item : α} (known : world.Knows item) :
    (world.apply change).Knows item :=
  known.mono (.apply world change)

theorem Closed.scope_define (closed : world.Closed) {holder id : ScopeId}
    (holderKnown : world.known (.scope holder)) (known : world.known (.scope id))
    (name : String) {value : Value} (valueKnown : world.Knows value) :
    world.Knows ((world.heap.define holder name value).scope id) := by
  rw [Heap.scope_define]
  split
  · have ⟨enclosing, vars⟩ := (knows_scope _).mp (closed.scope holderKnown)
    exact (knows_scope _).mpr ⟨enclosing, vars.insert name valueKnown⟩
  · exact closed.scope known

theorem Closed.inst_setField (closed : world.Closed) {object id : InstanceId}
    (objectKnown : world.known (.inst object)) (known : world.known (.inst id))
    (name : String) {value : Value} (valueKnown : world.Knows value) :
    world.Knows ((world.heap.setField object name value).inst id) := by
  rw [Heap.inst_setField]
  split
  · have ⟨cls, fields⟩ := (knows_instance _).mp (closed.inst objectKnown)
    exact (knows_instance _).mpr ⟨cls, fields.insert name valueKnown⟩
  · exact closed.inst known

theorem Permits.ofReceiver {method : ScopeId} {receiver : InstanceId}
    (permitted : world.Permits (.bindScope method receiver)) :
    world.Knows (Scope.ofReceiver method receiver) := by
  have receiverKnown : world.Knows (Value.inst receiver) := by simpa using permitted.2
  have vars : world.Knows (Bindings.empty.insert receiverName (Value.inst receiver)) :=
    knows_empty.insert receiverName receiverKnown
  exact (knows_scope _).mpr ⟨by simpa [Scope.ofReceiver] using permitted.1, vars⟩

-- What a permitted change leaves of each kind of object refers to known objects only.

theorem Closed.scope_apply (closed : world.Closed) (permitted : world.Permits change)
    {id : ScopeId} (known : (world.apply change).known (.scope id)) :
    (world.apply change).Knows ((world.heap.apply change).scope id) := by
  apply knows_apply
  cases change with
  | newScope scope =>
      rw [Heap.scope_apply]
      dsimp only
      split
      · exact permitted
      · next other => exact closed.scope (known.resolve_right (by simpa [Change.created?, eq_comm]))
  | bindScope method receiver =>
      rw [Heap.scope_apply]
      dsimp only
      split
      · exact permitted.ofReceiver
      · next other => exact closed.scope (known.resolve_right (by simpa [Change.created?, eq_comm]))
  | define scope name value =>
      have holderKnown := closed.ownKnown scope permitted.1
      have old := known.resolve_right (by simp [Change.created?])
      exact closed.scope_define holderKnown old name permitted.2
  | assign scope name value =>
      have old := known.resolve_right (by simp [Change.created?])
      exact closed.scope_define permitted.1 old name permitted.2.2
  | newClosure | newClass | newInstance | setField =>
      exact closed.scope (known.resolve_right (by simp [Change.created?]))

theorem Closed.closure_apply (closed : world.Closed) (permitted : world.Permits change)
    {id : ClosureId} (known : (world.apply change).known (.closure id)) :
    (world.apply change).Knows ((world.heap.apply change).closure id) := by
  apply knows_apply
  rw [Heap.closure_apply]
  cases change with
  | newClosure closure =>
      dsimp only
      split
      · exact permitted
      · next other =>
          exact closed.closure (known.resolve_right (by simpa [Change.created?, eq_comm]))
  | newScope | bindScope | newClass | newInstance | define | assign | setField =>
      exact closed.closure (known.resolve_right (by simp [Change.created?]))

theorem Closed.cls_apply (closed : world.Closed) (permitted : world.Permits change)
    {id : ClassId} (known : (world.apply change).known (.cls id)) :
    (world.apply change).Knows ((world.heap.apply change).cls id) := by
  apply knows_apply
  rw [Heap.cls_apply]
  cases change with
  | newClass cls =>
      dsimp only
      split
      · exact permitted
      · next other => exact closed.cls (known.resolve_right (by simpa [Change.created?, eq_comm]))
  | newScope | bindScope | newClosure | newInstance | define | assign | setField =>
      exact closed.cls (known.resolve_right (by simp [Change.created?]))

theorem Closed.inst_apply (closed : world.Closed) (permitted : world.Permits change)
    {id : InstanceId} (known : (world.apply change).known (.inst id)) :
    (world.apply change).Knows ((world.heap.apply change).inst id) := by
  apply knows_apply
  cases change with
  | newInstance cls =>
      rw [Heap.inst_apply]
      dsimp only
      split
      · exact (knows_instance _).mpr ⟨permitted, knows_empty⟩
      · next other => exact closed.inst (known.resolve_right (by simpa [Change.created?, eq_comm]))
  | setField object name value =>
      have old := known.resolve_right (by simp [Change.created?])
      exact closed.inst_setField permitted.1 old name permitted.2
  | newScope | bindScope | newClosure | newClass | define | assign =>
      exact closed.inst (known.resolve_right (by simp [Change.created?]))

theorem Closed.apply (closed : world.Closed) (permitted : world.Permits change) :
    (world.apply change).Closed where
  present handle known :=
    (world.heap.has_apply change handle).mpr (known.imp_left (closed.present handle))
  closed source target known link := by
    cases source with
    | scope id => exact closed.scope_apply permitted known target link
    | closure id => exact closed.closure_apply permitted known target link
    | cls id => exact closed.cls_apply permitted known target link
    | inst id => exact closed.inst_apply permitted known target link
  ownKnown id own := by
    rcases own with own | opened
    · exact .inl (closed.ownKnown id own)
    · exact .inr (Change.created?_of_opened opened)

end Apply

theorem Closed.replay (closed : world.Closed) {changes : List Change}
    (permitted : world.PermitsAll changes) : (world.replay changes).Closed := by
  induction changes generalizing world with
  | nil => exact closed
  | cons change rest ih => exact ih (closed.apply permitted.1) permitted.2

section Whole

variable {bigger : World} {change : Change}

theorem Permits.mono (same : world.heap = bigger.heap) (within : world.Within bigger)
    (permitted : world.Permits change) : bigger.Permits change := by
  cases change with
  | newScope | newClosure | newClass => exact Knows.mono within permitted
  | bindScope method receiver =>
      exact ⟨within.known _ permitted.1, within.known _ permitted.2⟩
  | newInstance cls => exact within.known _ permitted
  | define scope name value => exact ⟨within.own _ permitted.1, permitted.2.mono within⟩
  | assign holder name value =>
      exact ⟨within.known _ permitted.1, same ▸ permitted.2.1, permitted.2.2.mono within⟩
  | setField object name value => exact ⟨within.known _ permitted.1, permitted.2.mono within⟩

def Whole (world : World) : Prop :=
  ∀ handle, world.heap.Has handle -> world.known handle

theorem Whole.apply (whole : world.Whole) (change : Change) : (world.apply change).Whole :=
  fun handle has => ((world.heap.has_apply change handle).mp has).imp_left (whole handle)

end Whole

end World

end Lox
