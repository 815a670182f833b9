import Lox.Proofs.CallScope

set_option autoImplicit false

namespace Lox

/-- Bodies that come to other heaps only by changes, of whatever kind these are. -/
def BodyRunner.Grows (run : BodyRunner) : Prop :=
  ∀ body scope (state : State), ∃ changes,
    (run body scope state).2.heap = state.heap.replay changes

theorem Stmt.execAll_grows (depth : Nat) : BodyRunner.Grows (Stmt.execAll (invoke depth)) := by
  intro body scope state
  have orderly : (Stmt.execAll (invoke depth) body scope).Orderly (invoke depth) fun _ => True :=
    Stmt.execAll_orderly body scope _ trivial
  obtain ⟨deeds, allowed, reached⟩ := orderly state
  obtain ⟨changes, heap, _⟩ := allowed.admits (invoke_contained depth)
  exact ⟨changes, by rw [reached, heap]⟩

namespace Heap

structure Staged (heap start : Heap) (cls : ClassId) (method : Closure) (arguments : List Value)
    (object : InstanceId) (scope : ScopeId) : Prop where
  keeps : heap.Keeps start
  has : start.Has (.inst object)
  made : start.inst object = { cls }
  inside : ∃ bound, ¬ heap.Has (.scope bound) ∧ start.Has (.scope bound) ∧
    start.scope bound = .ofReceiver method.scope object ∧
    start.scope scope =
      { vars := .insertAll .empty (method.entries arguments), enclosing := some bound }

variable (heap : Heap) (cls : ClassId) (method : ClosureId) (arguments : List Value)

def staged : Heap :=
  (heap.prepared cls method).apply (.newScope ((heap.boundInitializer method).callScope arguments))

def stagingEvents : List Event :=
  heap.bindingEvents cls method ++ [.calling (heap.closure method).name] ++
    (heap.prepared cls method).definitions ((heap.closure method).entries arguments)

@[simp]
theorem boundInitializer_name :
    (heap.boundInitializer method).name = (heap.closure method).name := rfl

@[simp]
theorem boundInitializer_entries :
    (heap.boundInitializer method).entries arguments =
      (heap.closure method).entries arguments := rfl

theorem staged_bound : (heap.staged cls method arguments).Has (.scope heap.nextScope) ∧
    (heap.staged cls method arguments).scope heap.nextScope =
      .ofReceiver (heap.closure method).scope heap.nextInstance := by
  have bound : (heap.prepared cls method).Has (.scope heap.nextScope) :=
    (has_apply _ (.bindScope _ heap.nextInstance) _).mpr (.inr rfl)
  refine ⟨(has_apply ..).mpr (.inl bound), ?_⟩
  rw [staged, scope_apply]
  dsimp only
  rw [if_neg (ne_nextScope bound), prepared, scope_apply]
  exact if_pos rfl

theorem staged_spec :
    heap.Staged (heap.staged cls method arguments) cls (heap.closure method) arguments
      heap.nextInstance (heap.prepared cls method).nextScope where
  keeps := ((Keeps.of_created rfl).trans (.of_created rfl)).trans (.of_created rfl)
  has := (has_apply ..).mpr (.inl prepared_has_instance)
  made := heap.inst_nextInstance cls
  inside := by
    obtain ⟨has, shape⟩ := heap.staged_bound cls method arguments
    refine ⟨heap.nextScope, Nat.lt_irrefl _, has, shape, ?_⟩
    rw [staged, scope_apply]
    exact if_pos rfl

end Heap

theorem ClassId.instantiate_starts (state : State) {cls : ClassId} {method : ClosureId}
    (found : state.heap.findMethod cls initializerName = some method) (arguments : List Value) :
    ∃ start : State, start.heap = state.heap.staged cls method arguments ∧
      start.log = state.log ++ state.heap.stagingEvents cls method arguments ∧
      ∀ run, cls.instantiate (Closure.call run) arguments state =
        (do
          let value ← (run (state.heap.closure method).decl.body
            (state.heap.prepared cls method).nextScope).returnValue
          let _ ← (state.heap.boundInitializer method).conclude value
          return .inst state.heap.nextInstance : Exec Error Value) start := by
  obtain ⟨before, prepared, bound, binds⟩ := ClassId.instantiate_binds state found arguments
  obtain ⟨start, heap, said, runs⟩ :=
    (state.heap.boundInitializer method).call_starts arguments before
  rw [prepared] at heap said runs
  refine ⟨start, heap, ?_, fun run => ?_⟩
  · rw [said, bound]
    exact Array.ext' (by simp [Heap.stagingEvents])
  · rw [binds, Exec.bind_apply, runs, ← Exec.bind_apply, bind_assoc]
    rfl

theorem ClassId.instantiate_bare (state : State) {cls : ClassId}
    (missing : state.heap.findMethod cls initializerName = none) :
    ∃ after : State, after.heap = state.heap.apply (.newInstance cls) ∧
      after.log = state.log ++ ([.instanceCreated (state.heap.cls cls).name] ++
        state.heap.searchEvents cls initializerName) ∧
      ∀ run arguments, cls.instantiate run arguments state =
        (.done (.inst state.heap.nextInstance), after) := by
  simp only [ClassId.instantiate, InstanceId.create, ClassId.findMethod, bind_assoc,
    Exec.read_bind, Exec.logAll_bind, Exec.log_bind, Exec.allocate_bind,
    Heap.findMethod_newInstance, Heap.searchEvents_newInstance, missing]
  refine ⟨_, ?_, ?_, fun run arguments => rfl⟩
  · rfl
  · exact Array.ext' (by simp)

def Outcome.constructed (object : InstanceId) : Outcome Unwind Unit -> Outcome Error Value
  | .done () => .done (.inst object)
  | .failed (.returned _) => .done (.inst object)
  | .failed (.error error) => .failed error
  | .exhausted => .exhausted

namespace Outcome

variable {object : InstanceId} {ended : Outcome Unwind Unit}

theorem constructed_failed {error : Error} :
    ended.constructed object = .failed error <-> ended = .failed (.error error) := by
  rcases ended with _ | (cause | value) | _ <;> simp [constructed]

theorem constructed_exhausted :
    ended.constructed object = .exhausted <-> ended = .exhausted := by
  rcases ended with _ | (cause | value) | _ <;> simp [constructed]

theorem constructed_done (succeeds : ∀ error, ended.constructed object ≠ .failed error)
    (ends : ended.constructed object ≠ .exhausted) :
    ended.constructed object = .done (.inst object) := by
  rcases ended with _ | (cause | value) | _
  · rfl
  · exact absurd rfl (succeeds cause)
  · rfl
  · exact absurd rfl ends

end Outcome

theorem Closure.conclude_apply {closure : Closure} {state : State}
    (bound : (state.heap.scope closure.scope).vars.contains receiverName) (value : Value) :
    ∃ result log, closure.conclude value state = (.done result, { state with log }) := by
  by_cases initializes : closure.isInitializer
  · have here := Heap.holder?_here bound
    obtain ⟨held, isHeld⟩ := Option.isSome_iff_exists.mp bound
    have found : state.heap.lookup closure.scope receiverName = some held := by
      rw [Heap.lookup, here]
      exact isHeld
    refine ⟨held, state.log, ?_⟩
    rw [conclude, if_pos initializes, ScopeId.lookup_apply, found]
  · refine ⟨value, state.log.push (.returned closure.name (state.heap.display value)), ?_⟩
    rw [conclude, if_neg initializes]
    rfl

theorem Exec.returnValue_conclude {body : Exec Unwind Unit} {closure : Closure}
    {object : InstanceId} {start : State}
    (bound : ((body start).2.heap.scope closure.scope).vars.contains receiverName) :
    let made := (do
      let value ← body.returnValue
      let _ ← closure.conclude value
      return .inst object : Exec Error Value) start
    made.1 = (body start).1.constructed object ∧ made.2.heap = (body start).2.heap := by
  have concluded (value : Value) := closure.conclude_apply bound value
  rw [Exec.bind_apply, Exec.returnValue]
  generalize body start = ended at concluded ⊢
  rcases ended with ⟨_ | (cause | value) | _, after⟩
  · obtain ⟨result, log, steps⟩ := concluded .nil
    simp [Exec.bind_apply, steps, Outcome.constructed]
  · exact ⟨rfl, rfl⟩
  · obtain ⟨result, log, steps⟩ := concluded value
    simp [Exec.bind_apply, steps, Outcome.constructed]
  · exact ⟨rfl, rfl⟩

theorem ClassId.instantiate_constructs (state : State) {cls : ClassId} {method : ClosureId}
    (found : state.heap.findMethod cls initializerName = some method) (arguments : List Value) :
    ∃ start : State, start.heap = state.heap.staged cls method arguments ∧
      ∀ run : BodyRunner, run.Grows ->
        let made := cls.instantiate (Closure.call run) arguments state
        let ended := run (state.heap.closure method).decl.body
          (state.heap.prepared cls method).nextScope start
        made.1 = ended.1.constructed state.heap.nextInstance ∧ made.2.heap = ended.2.heap := by
  obtain ⟨start, heap, _, runs⟩ := ClassId.instantiate_starts state found arguments
  refine ⟨start, heap, fun run grows => ?_⟩
  dsimp only
  rw [runs]
  apply Exec.returnValue_conclude
  -- The scope that binds the receiver had it when the body started, so it has it still.
  obtain ⟨has, shape⟩ := state.heap.staged_bound cls method arguments
  obtain ⟨changes, grown⟩ :=
    grows (state.heap.closure method).decl.body (state.heap.prepared cls method).nextScope start
  rw [grown, heap]
  refine (Heap.outlasts_replay _ changes).vars state.heap.nextScope receiverName has ?_
  rw [shape]
  rfl

/--
To instantiate a class fails only with an error of the body of its initializer, and else
gives a new instance of that class.
-/
theorem instantiation_outcome (state : State) (reachable : state.heap.Reachable) (cls : ClassId)
    (arguments : List Value) :
    (∀ depth, BodyRunner.Grows (Stmt.execAll (invoke depth))) ∧
    ∃ object scope start,
      ¬ state.heap.Has (.inst object) ∧
      (∀ method, state.heap.Ascent initializerName cls (some method) ->
        state.heap.Staged start.heap cls (state.heap.closure method) arguments object scope) ∧
      ∀ run : BodyRunner, run.Grows ->
        let made := cls.instantiate (Closure.call run) arguments state
        let ended := fun method => run (state.heap.closure method).decl.body scope start
        (∀ error, made.1 = .failed error <->
          ∃ method, state.heap.Ascent initializerName cls (some method) ∧
            (ended method).1 = .failed (.error error)) ∧
        (made.1 = .exhausted <->
          ∃ method, state.heap.Ascent initializerName cls (some method) ∧
            (ended method).1 = .exhausted) ∧
        ((∀ error, made.1 ≠ .failed error) -> made.1 ≠ .exhausted ->
          made.1 = .done (.inst object) ∧ made.2.heap.Has (.inst object) ∧
            (made.2.heap.inst object).cls = cls) ∧
        (state.heap.Ascent initializerName cls none ->
          made.1 = .done (.inst object) ∧ (made.2.heap.inst object).fields = .empty ∧
            ∀ others, cls.instantiate (Closure.call run) others state = made) := by
  have formed := reachable.wellFormed
  refine ⟨Stmt.execAll_grows, state.heap.nextInstance, ?_⟩
  cases found : state.heap.findMethod cls initializerName with
  | none =>
      obtain ⟨after, heap, _, steps⟩ := ClassId.instantiate_bare state found
      have unfound (method : ClosureId) :
          ¬ state.heap.Ascent initializerName cls (some method) := by
        simp [formed.ascent_iff, found]
      refine ⟨state.heap.nextScope, state, Nat.lt_irrefl _,
        fun method ascent => absurd ascent (unfound method), fun run grows => ?_⟩
      have made : after.heap.inst state.heap.nextInstance = { cls } :=
        heap ▸ state.heap.inst_nextInstance cls
      have has : after.heap.Has (.inst state.heap.nextInstance) :=
        heap ▸ (Heap.has_apply _ (.newInstance cls) _).mpr (.inr rfl)
      simp [steps, unfound, made, has]
  | some method =>
      obtain ⟨start, heap, constructs⟩ := ClassId.instantiate_constructs state found arguments
      have staged := state.heap.staged_spec cls method arguments
      rw [← heap] at staged
      have resolves (other : ClosureId) :
          state.heap.Ascent initializerName cls (some other) <-> other = method := by
        simp [formed.ascent_iff, found, eq_comm]
      refine ⟨(state.heap.prepared cls method).nextScope, start, Nat.lt_irrefl _, ?_,
        fun run grows => ?_⟩
      · intro other ascent
        rwa [(resolves other).mp ascent]
      obtain ⟨outcome, heapAfter⟩ := constructs run grows
      simp only [outcome, resolves, exists_eq_left]
      refine ⟨fun error => Outcome.constructed_failed, Outcome.constructed_exhausted, ?_, ?_⟩
      · intro succeeds ends
        obtain ⟨changes, grown⟩ := grows (state.heap.closure method).decl.body
          (state.heap.prepared cls method).nextScope start
        rw [heapAfter, grown, (Heap.Frozen.replay ..).instanceClass _ staged.has, staged.made]
        exact ⟨Outcome.constructed_done succeeds ends, Heap.has_replay staged.has changes, rfl⟩
      · intro ascent
        rw [formed.ascent_iff, found] at ascent
        cases ascent

-- A class that inherits an initializer, which loses its receiver and returns something else.
def inheritingSession : Session :=
  Session.start.after [
    { operation := .newClass (some "A") none
        [some (.make { decl := .inline ⟨.identifier initializerName 1, [], [
          .assign receiverName (.const (.text "other")) 2,
          .ret (.const (.text "returned"))]⟩ })],
      storeAs := some "A" },
    { operation := .newClass (some "B") (some "A") [] }]

theorem instantiation_outcome_inherited :
    let state : State := { heap := inheritingSession.heap }
    let made := ClassId.instantiate (runClosure 0) ⟨1⟩ [.nil] state
    (state.heap.cls ⟨1⟩).methods.keys = [] ∧ (state.heap.closure ⟨0⟩).isInitializer ∧
      ∃ object, ¬ state.heap.Has (.inst object) ∧ made.1 = .done (.inst object) ∧
        (made.2.heap.inst object).cls = ⟨1⟩ := by
  intro state made
  have result : made.1 = .done (.inst ⟨0⟩) := by decide +kernel
  obtain ⟨grows, object, _, _, isNew, _, outcome⟩ :=
    instantiation_outcome state (Session.reachable_after _) ⟨1⟩ [.nil]
  obtain ⟨_, _, finished, _⟩ := outcome _ (grows 0)
  have succeeds (error : Error) : made.1 ≠ .failed error := by
    rw [result]
    simp
  have ends : made.1 ≠ .exhausted := by
    rw [result]
    simp
  obtain ⟨isObject, _, cls⟩ := finished succeeds ends
  exact ⟨by decide +kernel, by decide +kernel, object, isNew, isObject, cls⟩

end Lox
