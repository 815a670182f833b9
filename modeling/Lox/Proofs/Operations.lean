import Lox.Proofs.Confined

set_option autoImplicit false

namespace Lox

theorem Heap.holder?_contains {heap : Heap} {id holder : ScopeId} {name : String}
    (found : heap.holder? id name = some holder) :
    (heap.scope holder).vars.contains name := by
  fun_induction Heap.holder? heap id name with
  | case1 id present => exact Option.some.inj found ▸ present
  | case2 id absent parent link ih => exact ih found
  | case3 id absent link => cases found

namespace World

variable {world : World}

theorem Closed.holder? (closed : world.Closed) {id holder : ScopeId} {name : String}
    (known : world.known (.scope id)) (found : world.heap.holder? id name = some holder) :
    world.known (.scope holder) := by
  fun_induction Heap.holder? world.heap id name with
  | case1 id present => exact Option.some.inj found ▸ known
  | case2 id absent parent link ih =>
      have enclosing := ((knows_scope _).mp (closed.scope known)).1
      rw [Heap.enclosing?, Option.filter_eq_some_iff] at link
      rw [link.1] at enclosing
      exact ih (by simpa using enclosing) found
  | case3 id absent link => cases found

theorem Closed.lookup (closed : world.Closed) {id : ScopeId} {name : String} {value : Value}
    (known : world.known (.scope id)) (found : world.heap.lookup id name = some value) :
    world.Knows value := by
  unfold Heap.lookup at found
  cases holds : world.heap.holder? id name with
  | none => simp [holds] at found
  | some holder =>
      rw [holds] at found
      have vars := ((knows_scope _).mp (closed.scope (closed.holder? known holds))).2
      exact vars.get? found

theorem Closed.findMethod (closed : world.Closed) {id : ClassId} {name : String}
    {method : ClosureId} (known : world.known (.cls id))
    (found : world.heap.findMethod id name = some method) :
    world.known (.closure method) := by
  fun_induction Heap.findMethod world.heap id name with
  | case1 id own declared =>
      have methods := ((knows_class _).mp (closed.cls known)).2
      exact Option.some.inj found ▸ (knows_closureId _).mp (methods.get? declared)
  | case2 id undeclared parent link ih =>
      have superclass := ((knows_class _).mp (closed.cls known)).1
      rw [Heap.superclass?, Option.filter_eq_some_iff] at link
      rw [link.1] at superclass
      exact ih (by simpa using superclass) found
  | case3 id undeclared link => cases found

end World

variable {ε : Type} [Refers ε] {world : World}

section Scopes

variable {scope : ScopeId} {name : String} {value : Value} {line : Nat}

theorem ScopeId.create_confined {enclosing : Option ScopeId} (known : world.Knows enclosing) :
    (ScopeId.create enclosing : Exec ε ScopeId).Confined world :=
  .allocate ((World.knows_scope _).mpr ⟨known, World.knows_empty⟩)
    ((World.knows_scopeId _).mpr (.inr rfl))

theorem ScopeId.clone_confined (known : world.known (.scope scope)) :
    (scope.clone : Exec ε ScopeId).Confined world :=
  .read_bind fun closed => .allocate (closed.scope known) ((World.knows_scopeId _).mpr (.inr rfl))

theorem ScopeId.define_confined (own : world.own scope) (known : world.Knows value) :
    (scope.define name value : Exec ε Unit).Confined world :=
  .read_bind fun _ => .log_bind (.change ⟨own, known⟩)

theorem ScopeId.defineAll_confined (entries : List (String × Value)) {world : World}
    (own : world.own scope) (known : ∀ entry ∈ entries, world.Knows entry.2) :
    (scope.defineAll entries : Exec ε Unit).Confined world := by
  induction entries generalizing world with
  | nil => exact .pure (World.knows_unit ())
  | cons entry rest ih =>
      refine .bind (ScopeId.define_confined own (known entry (by simp))) ?_
      intro later _ within _
      apply ih (within.own scope own)
      intro other member
      exact (known other (by simp [member])).mono within

theorem ScopeId.lookup_confined (known : world.known (.scope scope)) :
    (scope.lookup name line).Confined world := by
  refine .read_bind fun closed => ?_
  cases found : world.heap.lookup scope name with
  | none => exact .raise _
  | some value => exact .pure (closed.lookup known found)

theorem ScopeId.assign_confined (known : world.known (.scope scope))
    (valueKnown : world.Knows value) : (scope.assign name value line).Confined world := by
  refine .read_bind fun closed => ?_
  cases found : world.heap.holder? scope name with
  | none => exact .raise _
  | some holder =>
      exact .change ⟨closed.holder? known found, Heap.holder?_contains found, valueKnown⟩

end Scopes

section Functions

variable {closure : Closure} {receiver : InstanceId}

theorem Closure.create_confined {decl : Decl Value} {scope : ScopeId} {isInitializer : Bool}
    (known : world.known (.scope scope)) (declKnown : world.Knows decl) :
    (Closure.create decl scope isInitializer : Exec ε Closure).Confined world :=
  .log_bind (.pure ((World.knows_closure _).mpr ⟨known, declKnown⟩))

theorem Closure.createAll_confined (scope : ScopeId) (decls : List (Decl Value)) {world : World}
    (known : world.known (.scope scope)) (declsKnown : world.Knows (Decl.constantsAll decls)) :
    (Closure.createAll scope decls : Exec ε (List Closure)).Confined world := by
  induction decls generalizing world with
  | nil => exact .pure World.knows_nil
  | cons decl rest ih =>
      rw [Decl.constantsAll, World.knows_append] at declsKnown
      refine .bind (Closure.create_confined known declsKnown.1) ?_
      intro later method within methodKnown
      refine .bind (ih (within.known _ known) (declsKnown.2.mono within)) ?_
      intro latest methods onward methodsKnown
      exact .pure ((World.knows_cons _ _).mpr ⟨methodKnown.mono onward, methodsKnown⟩)

theorem Closure.allocate_confined (known : world.Knows closure) :
    (closure.allocate : Exec ε ClosureId).Confined world :=
  .allocate known ((World.knows_closureId _).mpr (.inr rfl))

theorem Closure.allocateAll_confined (methods : List Closure) {table : Bindings ClosureId}
    {world : World} (known : world.Knows methods) (tableKnown : world.Knows table) :
    (Closure.allocateAll table methods : Exec ε (Bindings ClosureId)).Confined world := by
  induction methods generalizing table world with
  | nil => exact .pure tableKnown
  | cons method rest ih =>
      have ⟨methodKnown, restKnown⟩ := (World.knows_cons _ _).mp known
      refine .bind (Closure.allocate_confined methodKnown) ?_
      intro later id within idKnown
      exact ih (restKnown.mono within) ((tableKnown.mono within).insert _ idKnown)

theorem Closure.bindTo_confined (known : world.Knows closure)
    (receiverKnown : world.known (.inst receiver)) :
    (closure.bindTo receiver : Exec ε Closure).Confined world := by
  have ⟨scopeKnown, declKnown⟩ := (World.knows_closure _).mp known
  refine .read_bind fun _ => .log_bind ?_
  refine .allocate_bind ⟨scopeKnown, receiverKnown⟩ ?_
  refine .read_bind fun _ => .log_bind (.pure ?_)
  exact (World.knows_closure _).mpr ⟨.inr rfl, World.knows_apply declKnown⟩

theorem ClosureId.bindTo_confined {method : ClosureId} (known : world.known (.closure method))
    (receiverKnown : world.known (.inst receiver)) :
    (method.bindTo receiver : Exec ε ClosureId).Confined world := by
  refine .read_bind fun closed => ?_
  refine .bind (Closure.bindTo_confined (closed.closure known) receiverKnown) ?_
  intro later bound within boundKnown
  exact Closure.allocate_confined boundKnown

end Functions

section Classes

variable {cls : ClassId} {name : String}

theorem ClassId.create_confined {superclass : Option ClassId} {methods : List Closure}
    (superclassKnown : world.Knows superclass) (methodsKnown : world.Knows methods) :
    (ClassId.create name superclass methods : Exec ε ClassId).Confined world := by
  refine .bind (Closure.allocateAll_confined methods methodsKnown World.knows_empty) ?_
  intro later table within tableKnown
  refine .allocate_bind ((World.knows_class _).mpr ⟨superclassKnown.mono within, tableKnown⟩) ?_
  refine .read_bind fun _ => .log_bind (.pure ?_)
  exact (World.knows_classId _).mpr (.inr rfl)

theorem ClassId.findMethod_confined (known : world.known (.cls cls)) :
    (cls.findMethod name : Exec ε (Option ClosureId)).Confined world := by
  refine .read_bind fun _ => .logAll_bind (.read fun closed => ?_)
  cases found : world.heap.findMethod cls name with
  | none => exact World.knows_none
  | some method =>
      exact (World.knows_some _).mpr ((World.knows_closureId _).mpr (closed.findMethod known found))

theorem ClassId.arity_confined (known : world.known (.cls cls)) :
    (cls.arity : Exec ε Nat).Confined world := by
  refine .bind (ClassId.findMethod_confined known) ?_
  intro later method within methodKnown
  cases method with
  | none => exact .pure (World.knows_nat 0)
  | some method => exact .read fun _ => World.knows_nat _

end Classes

section Instances

variable {cls : ClassId} {object : InstanceId} {name : String} {value : Value} {line : Nat}

theorem InstanceId.create_confined (known : world.known (.cls cls)) :
    (InstanceId.create cls : Exec ε InstanceId).Confined world :=
  .read_bind fun _ => .log_bind (.allocate known ((World.knows_instanceId _).mpr (.inr rfl)))

theorem InstanceId.set_confined (known : world.known (.inst object))
    (valueKnown : world.Knows value) :
    (object.set name value : Exec ε Unit).Confined world :=
  .read_bind fun _ => .log_bind (.change ⟨known, valueKnown⟩)

theorem ClassId.boundMethod_confined (known : world.known (.cls cls))
    (objectKnown : world.known (.inst object)) :
    (cls.boundMethod name object line).Confined world := by
  refine .bind (ClassId.findMethod_confined known) ?_
  intro later method within methodKnown
  cases method with
  | none => exact .raise _
  | some method =>
      refine .bind (ClosureId.bindTo_confined (by simpa using methodKnown)
        (within.known _ objectKnown)) ?_
      intro latest bound onward boundKnown
      exact .pure (by simpa using boundKnown)

theorem InstanceId.get_confined (known : world.known (.inst object)) :
    (object.get name line).Confined world := by
  refine .read_bind fun closed => ?_
  have ⟨classKnown, fieldsKnown⟩ := (World.knows_instance _).mp (closed.inst known)
  cases found : (world.heap.inst object).fields.get? name with
  | some value => exact .read_bind fun _ => .log_bind (.pure (fieldsKnown.get? found))
  | none => exact .read_bind fun _ => ClassId.boundMethod_confined classKnown known

theorem ScopeId.superMethod_confined {scope : ScopeId} (known : world.known (.scope scope)) :
    (scope.superMethod name line).Confined world := by
  refine .bind (ScopeId.lookup_confined known) ?_
  intro later superclass within superclassKnown
  refine .bind (ScopeId.lookup_confined (within.known _ known)) ?_
  intro latest receiver onward receiverKnown
  have superclassKnown := superclassKnown.mono onward
  cases superclass <;> cases receiver <;> try exact .raise _
  exact ClassId.boundMethod_confined (by simpa using superclassKnown) (by simpa using receiverKnown)

end Instances

end Lox
