import Lox.Proofs.Arity
import Lox.Proofs.History

set_option autoImplicit false

namespace Lox

namespace Heap

/-- All objects of a heap are still there later, and equal but for variables and fields. -/
structure Frozen (heap later : Heap) : Prop where
  has : ∀ handle, heap.Has handle -> later.Has handle
  cls : ∀ id, heap.Has (.cls id) -> later.cls id = heap.cls id
  closure : ∀ id, heap.Has (.closure id) -> later.closure id = heap.closure id
  instanceClass : ∀ id, heap.Has (.inst id) -> (later.inst id).cls = (heap.inst id).cls
  enclosing : ∀ id, heap.Has (.scope id) ->
    (later.scope id).enclosing = (heap.scope id).enclosing

section Old

variable {heap : Heap}

-- An object that is there is not the one that comes next.

theorem ne_nextScope {id : ScopeId} (has : heap.Has (.scope id)) : id ≠ heap.nextScope := by
  rintro rfl
  exact Nat.lt_irrefl _ has

theorem ne_nextClosure {id : ClosureId} (has : heap.Has (.closure id)) :
    id ≠ heap.nextClosure := by
  rintro rfl
  exact Nat.lt_irrefl _ has

theorem ne_nextClass {id : ClassId} (has : heap.Has (.cls id)) : id ≠ heap.nextClass := by
  rintro rfl
  exact Nat.lt_irrefl _ has

theorem ne_nextInstance {id : InstanceId} (has : heap.Has (.inst id)) :
    id ≠ heap.nextInstance := by
  rintro rfl
  exact Nat.lt_irrefl _ has

end Old

theorem WellFormed.closed {heap : Heap} (formed : heap.WellFormed) :
    (World.ofHeap heap fun _ => False).Closed :=
  ⟨fun _ has => has, formed.linked, fun _ never => never.elim⟩

theorem WellFormed.findMethod_has {heap : Heap} (formed : heap.WellFormed) {id : ClassId}
    {name : String} {method : ClosureId} (has : heap.Has (.cls id))
    (found : heap.findMethod id name = some method) : heap.Has (.closure method) :=
  formed.closed.findMethod has found

namespace Frozen

variable {heap later : Heap}

theorem refl (heap : Heap) : heap.Frozen heap :=
  ⟨fun _ has => has, fun _ _ => rfl, fun _ _ => rfl, fun _ _ => rfl, fun _ _ => rfl⟩

theorem apply (heap : Heap) (change : Change) : heap.Frozen (heap.apply change) where
  has handle present := (has_apply heap change handle).mpr (.inl present)
  cls id has := by
    rw [cls_apply]
    cases change with
    | newClass cls => exact if_neg (ne_nextClass has)
    | newScope | bindScope | newClosure | newInstance | define | assign | setField => rfl
  closure id has := by
    rw [closure_apply]
    cases change with
    | newClosure closure => exact if_neg (ne_nextClosure has)
    | newScope | bindScope | newClass | newInstance | define | assign | setField => rfl
  instanceClass id has := by
    rw [inst_apply]
    cases change with
    | newInstance cls => exact congrArg Instance.cls (if_neg (ne_nextInstance has))
    | setField object name value =>
        dsimp only
        split
        · next hit => rw [hit.1]
        · rfl
    | newScope | bindScope | newClosure | newClass | define | assign => rfl
  enclosing id has := by
    rw [scope_apply]
    cases change with
    | newScope | bindScope => exact congrArg Scope.enclosing (if_neg (ne_nextScope has))
    | define scope name value | assign scope name value =>
        dsimp only
        split
        · next hit => rw [hit.1]
        · rfl
    | newClosure | newClass | newInstance | setField => rfl

theorem trans {latest : Heap} (first : heap.Frozen later) (second : later.Frozen latest) :
    heap.Frozen latest where
  has handle present := second.has handle (first.has handle present)
  cls id has := (second.cls id (first.has _ has)).trans (first.cls id has)
  closure id has := (second.closure id (first.has _ has)).trans (first.closure id has)
  instanceClass id has :=
    (second.instanceClass id (first.has _ has)).trans (first.instanceClass id has)
  enclosing id has := (second.enclosing id (first.has _ has)).trans (first.enclosing id has)

theorem replay (heap : Heap) (changes : List Change) : heap.Frozen (heap.replay changes) := by
  induction changes generalizing heap with
  | nil => exact refl heap
  | cons change rest ih => exact (apply heap change).trans (ih (heap.apply change))

section Consequences

variable (frozen : heap.Frozen later) (formed : heap.WellFormed)

include frozen formed

theorem findMethod {id : ClassId} (has : heap.Has (.cls id)) (name : String) :
    later.findMethod id name = heap.findMethod id name := by
  have link (id : ClassId) (has : heap.Has (.cls id)) :
      later.superclass? id = heap.superclass? id := by
    rw [superclass?, frozen.cls id has, superclass?]
  fun_induction Heap.findMethod heap id name with
  | case1 id method declared =>
      rw [later.findMethod_eq, frozen.cls id has, declared]
      rfl
  | case2 id undeclared parent found ih =>
      -- The superclass is there as well, for it is referred to.
      have parentHas : heap.Has (.cls parent) := by
        rw [formed.superclass?_eq] at found
        exact formed.linked (.cls id) _ has (.inl ⟨parent, found, rfl⟩)
      rw [later.findMethod_eq, frozen.cls id has, undeclared, link id has, found]
      exact ih parentHas
  | case3 id undeclared missing =>
      rw [later.findMethod_eq, frozen.cls id has, undeclared, link id has, missing]
      rfl

theorem classArity {id : ClassId} (has : heap.Has (.cls id)) :
    later.classArity id = heap.classArity id := by
  rw [Heap.classArity, frozen.findMethod formed has, Heap.classArity]
  cases found : heap.findMethod id initializerName with
  | none => rfl
  | some method =>
      dsimp only
      rw [frozen.closure method (formed.findMethod_has has found)]

theorem display {value : Value} (has : ∀ handle, Refers.links value handle -> heap.Has handle) :
    later.display value = heap.display value := by
  cases value with
  | closure id => rw [Heap.display, frozen.closure id (has _ rfl), Heap.display]
  | cls id => rw [Heap.display, frozen.cls id (has _ rfl), Heap.display]
  | inst id =>
      have idHas : heap.Has (.inst id) := has _ rfl
      have classHas : heap.Has (.cls (heap.inst id).cls) :=
        formed.linked (.inst id) _ idHas (.inl rfl)
      simp only [Heap.display, displayInstance, classOf]
      rw [frozen.instanceClass id idHas, frozen.cls _ classHas]
  | native | number | text | bool | nil => rfl

end Consequences

end Frozen

end Heap

theorem Heap.Frozen.of_begins {earlier later : List Change} (begins : earlier <+: later) :
    (Heap.ofJournal earlier).Frozen (.ofJournal later) := by
  obtain ⟨more, rfl⟩ := begins
  rw [Heap.ofJournal_append]
  exact .replay _ more

theorem ClassId.arity_result (cls : ClassId) (state : State) :
    ((cls.arity : Exec Error Nat) state).1 = .done (state.heap.classArity cls) := by
  rw [← bind_pure (cls.arity : Exec Error Nat), ClassId.arity_bind, Exec.pure_apply]

/-- Objects keep all but their variables and fields, and what follows from it, for ever. -/
theorem Session.Run.structure_frozen {journal : List Change} {session : Session}
    (run : Session.Run (fun _ _ _ => True) journal session) :
    session.heap = .ofJournal journal ∧
    ∀ earlier later, earlier <+: later -> later <+: journal ->
    ∀ before after : State, before.heap = .ofJournal earlier -> after.heap = .ofJournal later ->
      before.heap.Frozen after.heap ∧
      (∀ id name, before.heap.Has (.cls id) ->
        ((id.findMethod name : Exec Error (Option ClosureId)) after).1 =
          ((id.findMethod name : Exec Error (Option ClosureId)) before).1) ∧
      (∀ id, before.heap.Has (.cls id) ->
        ((id.arity : Exec Error Nat) after).1 = ((id.arity : Exec Error Nat) before).1) ∧
      (∀ id, before.heap.Has (.closure id) ->
        (after.heap.closure id).arity = (before.heap.closure id).arity) ∧
      ∀ value, (∀ handle, Refers.links value handle -> before.heap.Has handle) ->
        after.heap.display value = before.heap.display value := by
  refine ⟨run.everyScope_sound.heap, ?_⟩
  intro earlier later begins within before after isEarlier isLater
  have formed : before.heap.WellFormed := isEarlier ▸ run.wellFormed (begins.trans within)
  have frozen : before.heap.Frozen after.heap := by
    rw [isEarlier, isLater]
    exact .of_begins begins
  refine ⟨frozen, ?_, ?_, ?_, ?_⟩
  · intro id name has
    exact congrArg Outcome.done (frozen.findMethod formed has name)
  · intro id has
    rw [ClassId.arity_result, ClassId.arity_result, frozen.classArity formed has]
  · intro id has
    rw [frozen.closure id has]
  · intro value has
    exact frozen.display formed has

-- An instance of a class that inherits the method `m`, which then gets a field `m`.
def shadowingRequests : List Request := [
  { operation := .newClass (some "A") none
      [some (.make { decl := .inline ⟨.identifier "m" 1, [], []⟩ })],
    storeAs := some "A" },
  { operation := .newClass (some "B") (some "A") [], storeAs := some "B" },
  { operation := .newInstance "B", storeAs := some "o" },
  { operation := .set "o" (.inline "m" 2) (.text "field") }]

theorem Session.Run.structure_frozen_shadowed :
    let before : State := { heap := (Session.start.after (shadowingRequests.take 3)).heap }
    let after : State := { heap := (Session.start.after shadowingRequests).heap }
    (before.heap.inst ⟨0⟩).fields.get? "m" = none ∧
      (after.heap.inst ⟨0⟩).fields.get? "m" = some (.text "field") ∧
      ((ClassId.findMethod ⟨1⟩ "m" : Exec Error (Option ClosureId)) before).1 =
        .done (some ⟨0⟩) ∧
      ((ClassId.findMethod ⟨1⟩ "m" : Exec Error (Option ClosureId)) after).1 =
        .done (some ⟨0⟩) ∧
      after.heap.display (.inst ⟨0⟩) = before.heap.display (.inst ⟨0⟩) := by
  intro before after
  have begun : Session.Run (fun _ _ _ => True) [] Session.start := .start
  have base := Session.Run.perform maxDepth shadowingRequests[0] begun trivial
  have derived := Session.Run.perform maxDepth shadowingRequests[1] base trivial
  have made := Session.Run.perform maxDepth shadowingRequests[2] derived trivial
  have run := Session.Run.perform maxDepth shadowingRequests[3] made trivial
  obtain ⟨same, points⟩ := Session.Run.structure_frozen run
  obtain ⟨_, methods, _, _, texts⟩ :=
    points _ _ (List.prefix_append _ _) List.prefix_rfl before after
      made.everyScope_sound.heap same
  have found : before.heap.findMethod ⟨1⟩ "m" = some ⟨0⟩ := by decide +kernel
  have resolved : ((ClassId.findMethod ⟨1⟩ "m" : Exec Error (Option ClosureId)) before).1 =
      .done (some ⟨0⟩) := congrArg Outcome.done found
  have cls : before.heap.Has (.cls ⟨1⟩) := by decide +kernel
  have object : before.heap.Has (.inst ⟨0⟩) := by decide +kernel
  refine ⟨by decide +kernel, by decide +kernel, resolved, ?_, ?_⟩
  · rw [methods ⟨1⟩ "m" cls, resolved]
  · apply texts
    intro handle link
    cases link
    exact object

end Lox
