import Lox.Proofs.History

set_option autoImplicit false

namespace Lox

namespace World

variable {world : World} {change : Change}

theorem Permits.scope_frame (closed : world.Closed) (permitted : world.Permits change)
    {id : ScopeId} (has : world.heap.Has (.scope id)) (unknown : ¬ world.known (.scope id)) :
    (world.heap.apply change).scope id = world.heap.scope id := by
  have old : id ≠ world.heap.nextScope := by
    rintro rfl
    exact Nat.lt_irrefl _ has
  rw [Heap.scope_apply]
  cases change with
  | newScope | bindScope => exact if_neg old
  | define scope name value =>
      -- A scope of one's own is known, so this is not one.
      have other : id ≠ scope := by
        rintro rfl
        exact unknown (closed.ownKnown id permitted.1)
      exact if_neg fun hit => other hit.1
  | assign holder name value =>
      have other : id ≠ holder := by
        rintro rfl
        exact unknown permitted.1
      exact if_neg fun hit => other hit.1
  | newClosure | newClass | newInstance | setField => rfl

theorem Permits.inst_frame (permitted : world.Permits change) {id : InstanceId}
    (has : world.heap.Has (.inst id)) (unknown : ¬ world.known (.inst id)) :
    (world.heap.apply change).inst id = world.heap.inst id := by
  have old : id ≠ world.heap.nextInstance := by
    rintro rfl
    exact Nat.lt_irrefl _ has
  rw [Heap.inst_apply]
  cases change with
  | newInstance cls => exact if_neg old
  | setField object name value =>
      have other : id ≠ object := by
        rintro rfl
        exact unknown permitted.1
      exact if_neg fun hit => other hit.1
  | newScope | bindScope | newClosure | newClass | define | assign => rfl

theorem unknown_apply {handle : Handle} (has : world.heap.Has handle)
    (unknown : ¬ world.known handle) : ¬ (world.apply change).known handle := by
  rintro (known | created)
  · exact unknown known
  · -- Only a new object becomes known, and this one was there.
    exact Change.created?_fresh created has

theorem PermitsAll.frame {changes : List Change} (closed : world.Closed)
    (permitted : world.PermitsAll changes) :
    (∀ id, world.heap.Has (.scope id) -> ¬ world.known (.scope id) ->
      (world.heap.replay changes).scope id = world.heap.scope id) ∧
    ∀ id, world.heap.Has (.inst id) -> ¬ world.known (.inst id) ->
      (world.heap.replay changes).inst id = world.heap.inst id := by
  induction changes generalizing world with
  | nil => exact ⟨fun _ _ _ => rfl, fun _ _ _ => rfl⟩
  | cons change rest ih =>
      obtain ⟨scopes, instances⟩ := ih (closed.apply permitted.1) permitted.2
      have kept (handle : Handle) (has : world.heap.Has handle) :
          (world.heap.apply change).Has handle := (Heap.has_apply _ _ _).mpr (.inl has)
      constructor
      · intro id has unknown
        rw [Heap.replay_cons, ← permitted.1.scope_frame closed has unknown]
        exact scopes id (kept _ has) (unknown_apply has unknown)
      · intro id has unknown
        rw [Heap.replay_cons, ← permitted.1.inst_frame has unknown]
        exact instances id (kept _ has) (unknown_apply has unknown)

end World

/-- The world of those who hold some objects: what these lead to, and no scope of their own. -/
def World.ofRoots (heap : Heap) (roots : Handle -> Prop) : World where
  heap := heap
  known := heap.Reaches roots
  own _ := False

theorem World.ofRoots_closed {heap : Heap} (formed : heap.WellFormed) {roots : Handle -> Prop}
    (present : ∀ handle, roots handle -> heap.Has handle) :
    (World.ofRoots heap roots).Closed where
  present _ reached := reached.least present formed.linked
  closed _ _ reached link := .next reached link
  ownKnown _ never := never.elim

/--
A call changes no scope and no instance that cannot be reached from the callee
and the arguments, however it ends.
-/
theorem invoke_encapsulated (state : State) (reachable : state.heap.Reachable) (depth : Nat)
    (callee : Value) (line : Nat) (arguments : List Value)
    (present : ∀ handle, Refers.links (callee :: arguments) handle -> state.heap.Has handle) :
    (∀ id, state.heap.Has (.scope id) ->
      ¬ state.heap.Reaches (Refers.links (callee :: arguments)) (.scope id) ->
        (invoke depth callee line arguments state).2.heap.scope id = state.heap.scope id) ∧
    ∀ id, state.heap.Has (.inst id) ->
      ¬ state.heap.Reaches (Refers.links (callee :: arguments)) (.inst id) ->
        (invoke depth callee line arguments state).2.heap.inst id = state.heap.inst id := by
  let world := World.ofRoots state.heap (Refers.links (callee :: arguments))
  have closed : world.Closed := World.ofRoots_closed reachable.wellFormed present
  have known : world.Knows (callee :: arguments) := fun _ link => .root link
  have ⟨calleeKnown, argumentsKnown⟩ := (World.knows_cons _ _).mp known
  obtain ⟨changes, permitted, heap, _, _⟩ :=
    invoke_confined depth world callee line arguments calleeKnown argumentsKnown closed state rfl
  rw [heap]
  exact permitted.frame closed

-- A function in a scope of its own, next to the first scope and an instance.
def separateScopes : Session :=
  Session.start.after [
    { operation := .define globalsName "x" (.text "outside") },
    { operation := .newClass (some "A") none [], storeAs := some "A" },
    { operation := .newInstance "A", storeAs := some "o" },
    { operation := .newScope none, storeAs := some "s" },
    { operation := .define "s" "x" (.text "old") },
    { operation := .newFunction {
        decl := .inline ⟨.identifier "f" 1, [], [.assign "x" (.const (.text "new")) 2]⟩
        scope := "s" } }]

theorem separateScopes_reaches {handle : Handle}
    (reached : separateScopes.heap.Reaches (Refers.links [Value.closure ⟨0⟩]) handle) :
    handle = .closure ⟨0⟩ ∨ handle = .scope ⟨1⟩ := by
  -- Everything else is outside of what the function knows, since what it knows is closed.
  let inside : World :=
    { heap := separateScopes.heap
      known := fun handle => handle = .closure ⟨0⟩ ∨ handle = .scope ⟨1⟩
      own := fun _ => False }
  have function : inside.Knows (separateScopes.heap.closure ⟨0⟩) := by
    have shape : separateScopes.heap.closure ⟨0⟩ =
        ⟨⟨.identifier "f" 1, [], [.assign "x" (.const (.text "new")) 2]⟩, ⟨1⟩, false⟩ := rfl
    have plain : inside.Knows (Value.text "new") := World.knows_plain rfl
    simp [shape, Stmt.constantsAll, Stmt.constants, Expr.constants, plain, inside]
  have scope : inside.Knows (separateScopes.heap.scope ⟨1⟩) := by
    have shape : separateScopes.heap.scope ⟨1⟩ =
        { vars := Bindings.empty.insert "x" (.text "old") } := rfl
    rw [shape, World.knows_scope]
    exact ⟨World.knows_none, World.knows_empty.insert "x" (World.knows_plain rfl)⟩
  have start : inside.Knows [Value.closure ⟨0⟩] := by simp [inside]
  apply reached.least start
  rintro source target (rfl | rfl) link
  · exact function target link
  · exact scope target link

theorem invoke_encapsulated_separateScopes :
    let heap := separateScopes.heap
    let after := (invoke 1 (.closure ⟨0⟩) 1 [] { heap }).2.heap
    heap.Has (.scope ⟨0⟩) ∧ heap.Has (.inst ⟨0⟩) ∧
      (after.scope ⟨1⟩).vars.get? "x" = some (.text "new") ∧
      after.scope ⟨0⟩ = heap.scope ⟨0⟩ ∧ after.inst ⟨0⟩ = heap.inst ⟨0⟩ := by
  intro heap after
  have present (handle : Handle) (link : Refers.links [Value.closure ⟨0⟩] handle) :
      heap.Has handle := by
    obtain ⟨value, member, link⟩ := link
    rw [List.mem_singleton.mp member] at link
    cases link
    decide +kernel
  have ⟨scopes, instances⟩ := invoke_encapsulated { heap } (Session.reachable_after _) 1
    (.closure ⟨0⟩) 1 [] present
  have scope : heap.Has (.scope ⟨0⟩) := by decide +kernel
  have object : heap.Has (.inst ⟨0⟩) := by decide +kernel
  refine ⟨scope, object, by decide +kernel, scopes ⟨0⟩ scope ?_, instances ⟨0⟩ object ?_⟩
  · intro reached
    rcases separateScopes_reaches reached with same | same
    · cases same
    · cases same
  · intro reached
    rcases separateScopes_reaches reached with same | same
    · cases same
    · cases same

end Lox
