import Lox.Proofs.Locals
import Lox.Proofs.Parallel

set_option autoImplicit false

namespace Lox

/-- Identities without the given one: those from it on are put off by one. -/
def ClosureId.skip (limit : ClosureId) : ClosureId ↪ ClosureId where
  toFun id := if id.index < limit.index then id else ⟨id.index + 1⟩
  inj' := by
    rintro ⟨left⟩ ⟨right⟩ same
    dsimp only at same
    split at same <;> split at same <;> simp only [ClosureId.mk.injEq] at same ⊢ <;> omega

theorem ClosureId.skip_apply (limit id : ClosureId) :
    limit.skip id = if id.index < limit.index then id else ⟨id.index + 1⟩ := rfl

theorem ClosureId.skip_lt (limit : ClosureId) {id other : ClosureId}
    (earlier : id.index < other.index) : (limit.skip id).index < (limit.skip other).index := by
  simp only [ClosureId.skip_apply, apply_ite ClosureId.index]
  split <;> split <;> omega

section Fixed

variable {naming : ClosureId ↪ ClosureId}

theorem Value.rename_eq_self {value : Value}
    (fixed : ∀ id, Refers.links value (.closure id) -> naming id = id) :
    value.rename naming = value := by
  cases value with
  | closure id => exact congrArg Value.closure (fixed id rfl)
  | native | cls | inst | number | text | bool | nil => rfl

theorem Bindings.Alike.of_fixed {α : Type} {transform : α -> α} {bindings : Bindings α}
    (fixed : ∀ name value, bindings.get? name = some value -> transform value = value) :
    bindings.Alike transform bindings := by
  intro name
  cases found : bindings.get? name with
  | none => rfl
  | some value => exact congrArg some (fixed name value found).symm

end Fixed

namespace Heap

theorem WellFormed.function_has {heap : Heap} (formed : heap.WellFormed) {source : Handle}
    {id : ClosureId} (link : heap.RefersTo source (.closure id)) : heap.Has (.closure id) := by
  by_cases has : heap.Has source
  · exact formed.linked source _ has link
  · -- An empty object refers to no function.
    cases source with
    | scope other =>
        rw [RefersTo, scope_absent has] at link
        rcases link with ⟨outer, found, _⟩ | ⟨name, value, found, _⟩
        · cases found
        · cases found
    | closure other =>
        rw [RefersTo, closure_absent has] at link
        rcases link with same | ⟨value, found, _⟩
        · cases same
        · cases found
    | cls other =>
        rw [RefersTo, cls_absent has] at link
        rcases link with ⟨parent, found, _⟩ | ⟨name, method, found, _⟩
        · cases found
        · cases found
    | inst other =>
        rw [RefersTo, inst_absent has] at link
        rcases link with same | ⟨name, value, found, _⟩
        · cases same
        · cases found

theorem skip_fixed {heap : Heap} {id : ClosureId} (has : heap.Has (.closure id)) :
    heap.nextClosure.skip id = id :=
  if_pos has

theorem rename_skip {heap : Heap} {arguments : List Value}
    (present : ∀ handle, Refers.links arguments handle -> heap.Has handle) :
    arguments.map (Value.rename heap.nextClosure.skip) = arguments := by
  have each (value : Value) (member : value ∈ arguments) :
      value.rename heap.nextClosure.skip = id value :=
    Value.rename_eq_self fun id link => skip_fixed (present _ ⟨value, member, link⟩)
  rw [List.map_congr_left each, List.map_id]

theorem WellFormed.alike_newClosure {heap : Heap} (formed : heap.WellFormed) (closure : Closure) :
    heap.Alike heap.nextClosure.skip (heap.newClosure closure) where
  scope id := by
    refine ⟨.of_fixed fun name value found => Value.rename_eq_self fun function link => ?_, rfl⟩
    have refers : heap.RefersTo (.scope id) (.closure function) := .inr ⟨name, value, found, link⟩
    exact skip_fixed (formed.function_has refers)
  closure id := by
    rw [closure_newClosure, ClosureId.skip_apply]
    split
    · next older => exact if_neg (ne_nextClosure older)
    · next absent =>
        -- Neither heap has a function there.
        have beyond : ¬ heap.Has (.closure ⟨id.index + 1⟩) := fun has =>
          absent (Nat.lt_of_succ_lt has)
        have other : (⟨id.index + 1⟩ : ClosureId) ≠ heap.nextClosure := fun same =>
          absent (same ▸ Nat.lt_succ_self id.index)
        rw [if_neg other, closure_absent beyond, closure_absent absent]
  steady id value member := by
    refine Value.rename_eq_self fun function link => ?_
    have refers : heap.RefersTo (.closure id) (.closure function) := .inr ⟨value, member, link⟩
    exact skip_fixed (formed.function_has refers)
  cls id := by
    refine ⟨rfl, rfl, .of_fixed fun name method found => ?_⟩
    have refers : heap.RefersTo (.cls id) (.closure method) := .inr ⟨name, method, found, rfl⟩
    exact skip_fixed (formed.function_has refers)
  inst id := by
    refine ⟨rfl, .of_fixed fun name value found => Value.rename_eq_self fun function link => ?_⟩
    have refers : heap.RefersTo (.inst id) (.closure function) := .inr ⟨name, value, found, link⟩
    exact skip_fixed (formed.function_has refers)
  scopes := rfl
  closures count := by
    have beyond : ¬ heap.closures.size + count < heap.nextClosure.index :=
      Nat.not_lt.mpr (Nat.le_add_right _ count)
    rw [ClosureId.skip_apply, if_neg beyond, newClosure, Array.size_push, Nat.add_right_comm]
  classes := rfl
  instances := rfl

end Heap

def Handle.rename (naming : ClosureId ↪ ClosureId) : Handle -> Handle
  | .closure id => .closure (naming id)
  | handle => handle

/-- Every object of a heap is in the other one, the same but for the identities of functions. -/
structure Heap.FoundIn (naming : ClosureId ↪ ClosureId) (left right : Heap) : Prop where
  has : ∀ handle, left.Has handle -> right.Has (handle.rename naming)
  scope : ∀ id, left.Has (.scope id) -> (left.scope id).Alike naming (right.scope id)
  closure : ∀ id, left.Has (.closure id) -> right.closure (naming id) = left.closure id
  cls : ∀ id, left.Has (.cls id) -> (left.cls id).Alike naming (right.cls id)
  inst : ∀ id, left.Has (.inst id) -> (left.inst id).Alike naming (right.inst id)

theorem Heap.Alike.foundIn {limit : ClosureId} {left right : Heap}
    (alike : left.Alike limit.skip right) : left.FoundIn limit.skip right where
  has handle present := by
    cases handle with
    | scope id => exact Nat.lt_of_lt_of_eq present alike.scopes.symm
    | cls id => exact Nat.lt_of_lt_of_eq present alike.classes.symm
    | inst id => exact Nat.lt_of_lt_of_eq present alike.instances.symm
    | closure id =>
        -- It comes before the next function, and so do their new identities.
        have earlier : id.index < left.nextClosure.index := present
        have renamed := ClosureId.skip_lt limit earlier
        rw [← alike.nextClosure] at renamed
        exact renamed
  scope id _ := alike.scope id
  closure id _ := alike.closure id
  cls id _ := alike.cls id
  inst id _ := alike.inst id

def ClassId.constructByHand (depth : Nat) (cls : ClassId) (readLine line : Nat)
    (arguments : List Value) : Exec Error Value := do
  let object ← InstanceId.create cls
  let initializer ← object.get initializerName readLine
  invoke depth initializer line arguments

def Heap.prepared (heap : Heap) (cls : ClassId) (method : ClosureId) : Heap :=
  (heap.apply (.newInstance cls)).apply
    (.bindScope (heap.closure method).scope heap.nextInstance)

def Heap.boundInitializer (heap : Heap) (method : ClosureId) : Closure :=
  { heap.closure method with scope := heap.nextScope }

namespace Heap

variable {heap : Heap} {cls : ClassId} {method : ClosureId}

theorem findMethod_newInstance (heap : Heap) (cls id : ClassId) (name : String) :
    (heap.apply (.newInstance cls)).findMethod id name = heap.findMethod id name :=
  findMethod_congr (fun _ => cls_apply ..) id name

theorem searchEvents_congr {left right : Heap} (same : ∀ id, left.cls id = right.cls id)
    (id : ClassId) (name : String) : left.searchEvents id name = right.searchEvents id name := by
  have links (id : ClassId) : left.superclass? id = right.superclass? id := by
    rw [superclass?, same, superclass?]
  fun_induction Heap.searchEvents left id name with
  | case1 id cls declared => rw [right.searchEvents_eq, ← same, if_pos declared]
  | case2 id cls undeclared parent link ih =>
      rw [right.searchEvents_eq, ← same, if_neg undeclared, ← links, link, Option.elim, ← same, ih]
  | case3 id cls undeclared link =>
      rw [right.searchEvents_eq, ← same, if_neg undeclared, ← links, link, Option.elim]

theorem searchEvents_newInstance (heap : Heap) (cls id : ClassId) (name : String) :
    (heap.apply (.newInstance cls)).searchEvents id name = heap.searchEvents id name :=
  searchEvents_congr (fun _ => cls_apply ..) id name

theorem inst_nextInstance (heap : Heap) (cls : ClassId) :
    (heap.apply (.newInstance cls)).inst heap.nextInstance = { cls } := by
  rw [inst_apply]
  exact if_pos rfl

theorem displayInstance_newInstance (heap : Heap) (cls : ClassId) :
    (heap.apply (.newInstance cls)).displayInstance heap.nextInstance =
      (heap.cls cls).name ++ " instance" := by
  rw [displayInstance, classOf, inst_nextInstance]
  rfl

theorem classArity_of_found (found : heap.findMethod cls initializerName = some method) :
    heap.classArity cls = (heap.closure method).arity := by
  rw [classArity, found]

theorem WellFormed.prepared (formed : heap.WellFormed) (has : heap.Has (.cls cls))
    (found : heap.findMethod cls initializerName = some method) :
    (heap.prepared cls method).WellFormed := by
  have scopeHas : heap.Has (.scope (heap.closure method).scope) :=
    formed.linked (.closure method) _ (formed.findMethod_has has found) (.inl rfl)
  have noneOwn (heap : Heap) (id : ScopeId) (never : False) : heap.Has (.scope id) := never.elim
  have made : (heap.apply (.newInstance cls)).WellFormed := formed.apply (noneOwn _) has
  refine made.apply (noneOwn _) ⟨?_, ?_⟩
  · exact (Heap.has_apply ..).mpr (.inl scopeHas)
  · exact (Heap.has_apply _ (.newInstance cls) _).mpr (.inr rfl)

theorem has_prepared {handle : Handle} (has : heap.Has handle) :
    (heap.prepared cls method).Has handle :=
  (Heap.has_apply ..).mpr (.inl ((Heap.has_apply ..).mpr (.inl has)))

theorem prepared_has_instance : (heap.prepared cls method).Has (.inst heap.nextInstance) :=
  (Heap.has_apply ..).mpr (.inl ((Heap.has_apply _ (.newInstance cls) _).mpr (.inr rfl)))

theorem FoundIn.of_prepared {naming : ClosureId ↪ ClosureId} {right : Heap}
    (later : (heap.prepared cls method).FoundIn naming right) : heap.FoundIn naming right where
  has handle present := later.has handle (has_prepared present)
  scope id present := by
    have kept : (heap.prepared cls method).scope id = heap.scope id := by
      rw [Heap.prepared, scope_apply]
      exact if_neg (ne_nextScope present)
    rw [← kept]
    exact later.scope id (has_prepared present)
  closure id present := later.closure id (has_prepared present)
  cls id present := later.cls id (has_prepared present)
  inst id present := by
    have kept : (heap.prepared cls method).inst id = heap.inst id := by
      rw [Heap.prepared, inst_apply]
      dsimp only
      rw [inst_apply]
      exact if_neg (ne_nextInstance present)
    rw [← kept]
    exact later.inst id (has_prepared present)

def bindingEvents (heap : Heap) (cls : ClassId) (method : ClosureId) : List Event :=
  [.instanceCreated (heap.cls cls).name] ++ heap.searchEvents cls initializerName ++
    [.initializing (heap.cls cls).name,
      .binding (heap.closure method).name heap.nextInstance ((heap.cls cls).name ++ " instance"),
      .defining heap.nextScope receiverName (.inst heap.nextInstance)
        ((heap.cls cls).name ++ " instance")]

end Heap

section Runs

variable (state : State) {cls : ClassId} {method : ClosureId}
  (found : state.heap.findMethod cls initializerName = some method)

include found

theorem ClassId.instantiate_binds (arguments : List Value) :
    ∃ before : State, before.heap = state.heap.prepared cls method ∧
      before.log = state.log ++ state.heap.bindingEvents cls method ∧
      ∀ run, cls.instantiate run arguments state =
        (do
          let _ ← run (state.heap.boundInitializer method) arguments
          return .inst state.heap.nextInstance : Exec Error Value) before := by
  have shown := state.heap.displayInstance_newInstance cls
  have shownAgain (scope : ScopeId) : ((state.heap.apply (.newInstance cls)).apply
      (.bindScope scope state.heap.nextInstance)).display (.inst state.heap.nextInstance) =
        (state.heap.cls cls).name ++ " instance" := shown
  have sameScope : (state.heap.apply (.newInstance cls)).nextScope = state.heap.nextScope := rfl
  -- The second search does not see that there is an instance more.
  simp only [ClassId.instantiate, InstanceId.create, ClassId.findMethod, Closure.bindTo,
    bind_assoc, pure_bind, Exec.read_bind, Exec.logAll_bind, Exec.log_bind, Exec.allocate_bind,
    Heap.findMethod_newInstance, Heap.searchEvents_newInstance, found]
  refine ⟨_, ?_, ?_, fun run => rfl⟩
  · rfl
  · rw [shown]
    exact Array.ext' (by
      simp [Heap.bindingEvents, Heap.cls_apply, Heap.closure_apply, sameScope, shownAgain])

theorem ClassId.instantiate_apply (run : ClosureRunner) (arguments : List Value) :
    ∃ before : State, before.heap = state.heap.prepared cls method ∧
      cls.instantiate run arguments state =
        (do
          let _ ← run (state.heap.boundInitializer method) arguments
          return .inst state.heap.nextInstance : Exec Error Value) before := by
  obtain ⟨before, prepared, _, steps⟩ := ClassId.instantiate_binds state found arguments
  exact ⟨before, prepared, steps run⟩

theorem ClassId.constructByHand_apply (depth readLine line : Nat) (arguments : List Value) :
    ∃ before : State,
      before.heap = (state.heap.prepared cls method).newClosure
        (state.heap.boundInitializer method) ∧
      cls.constructByHand depth readLine line arguments state =
        invoke depth (.closure state.heap.nextClosure) line arguments before := by
  simp only [ClassId.constructByHand, InstanceId.create, InstanceId.get, ClassId.boundMethod,
    ClassId.findMethod, ClosureId.bindTo, Closure.bindTo, Closure.allocate,
    bind_assoc, pure_bind, Exec.read_bind, Exec.logAll_bind, Exec.log_bind, Exec.allocate_bind,
    Heap.inst_nextInstance, Heap.findMethod_newInstance, found, Bindings.get?_empty]
  refine ⟨_, ?_, rfl⟩
  rfl

theorem invoke_class_mismatch (depth line : Nat) {arguments : List Value}
    (wrong : arguments.length ≠ (state.heap.closure method).arity) :
    ∃ after : State, after.heap = state.heap ∧
      invoke (depth + 1) (.cls cls) line arguments state =
        (.failed (.arity (state.heap.closure method).arity arguments.length line), after) := by
  simp only [invoke_succ, Value.call, Exec.read_bind, Exec.log_bind, ClassId.arity_bind,
    Heap.classArity_of_found found, if_pos wrong]
  refine ⟨_, ?_, rfl⟩
  rfl

theorem Value.call_class_fits (run : ClosureRunner) (line : Nat) {arguments : List Value}
    (fits : arguments.length = (state.heap.closure method).arity) :
    ∃ before : State, before.heap = state.heap.prepared cls method ∧
      Value.call run (.cls cls) line arguments state =
        (do
          let _ ← run (state.heap.boundInitializer method) arguments
          return .inst state.heap.nextInstance : Exec Error Value) before := by
  simp only [Value.call, Exec.read_bind, Exec.log_bind, ClassId.arity_bind,
    Heap.classArity_of_found found, fits, ne_eq, not_true, if_false]
  exact ClassId.instantiate_apply
    { state with
      log := state.log.push (.constructing (state.heap.cls cls).name) ++
        state.heap.searchEvents cls initializerName }
    found run arguments

theorem invoke_class_fits (depth line : Nat) {arguments : List Value}
    (fits : arguments.length = (state.heap.closure method).arity) :
    ∃ before : State, before.heap = state.heap.prepared cls method ∧
      invoke (depth + 1) (.cls cls) line arguments state =
        (do
          let _ ← runClosure depth (state.heap.boundInitializer method) arguments
          return .inst state.heap.nextInstance : Exec Error Value) before :=
  Value.call_class_fits state found (runClosure depth) line fits

end Runs

theorem runClosure_grows (depth : Nat) (closure : Closure) (arguments : List Value)
    {state : State} {handle : Handle} (has : state.heap.Has handle) :
    (runClosure depth closure arguments state).2.heap.Has handle := by
  obtain ⟨changes, grown, _⟩ :=
    (Closure.call_orderly closure arguments).contained (invoke_contained depth) state
  rw [runClosure, grown]
  exact Heap.has_replay has changes

theorem Value.call_function {before : State} {id : ClosureId} (run : ClosureRunner) (line : Nat)
    (arguments : List Value) :
    Value.call run (.closure id) line arguments before =
      if arguments.length ≠ (before.heap.closure id).arity then
        (Exec.raise (.arity (before.heap.closure id).arity arguments.length line)) before
      else run (before.heap.closure id) arguments before := by
  simp only [Value.call, Exec.read_bind]
  split <;> rfl

theorem invoke_function {before : State} {id : ClosureId} (depth line : Nat)
    (arguments : List Value) :
    invoke (depth + 1) (.closure id) line arguments before =
      if arguments.length ≠ (before.heap.closure id).arity then
        (Exec.raise (.arity (before.heap.closure id).arity arguments.length line)) before
      else runClosure depth (before.heap.closure id) arguments before :=
  Value.call_function (runClosure depth) line arguments

inductive Outcome.Agree (value : Value) : Outcome Error Value -> Outcome Error Value -> Prop where
  | done (other : Value) : Agree value (.done value) (.done other)
  | failed (error : Error) : Agree value (.failed error) (.failed error)
  | exhausted : Agree value .exhausted .exhausted

structure SameConstruction (heap : Heap) (direct byHand : Outcome Error Value × State) :
    Prop where
  outcome : direct.1.Agree (.inst heap.nextInstance) byHand.1
  kept : ∀ handle, heap.Has handle -> direct.2.heap.Has handle
  objects : direct.2.heap.FoundIn heap.nextClosure.skip byHand.2.heap
  -- The class checks the arguments before it makes an instance.
  created : direct.2.heap.Has (.inst heap.nextInstance) ∨
    (∀ value, direct.1 ≠ .done value) ∧ direct.2.heap = heap ∧
      (byHand.2.heap.inst heap.nextInstance).fields = .empty

namespace SameConstruction

variable {heap : Heap} {cls : ClassId} {method : ClosureId}
  {direct byHand : Outcome Error Value × State}

theorem of_unstarted (formed : (heap.prepared cls method).WellFormed)
    (outcome : direct.1.Agree (.inst heap.nextInstance) byHand.1)
    (unfinished : ∀ value, direct.1 ≠ .done value) (unchanged : direct.2.heap = heap)
    (changed : byHand.2.heap =
      (heap.prepared cls method).newClosure (heap.boundInitializer method)) :
    SameConstruction heap direct byHand where
  outcome := outcome
  kept handle has := by
    rw [unchanged]
    exact has
  objects := by
    rw [unchanged, changed]
    exact (formed.alike_newClosure _).foundIn.of_prepared
  created := by
    have made : (heap.prepared cls method).inst heap.nextInstance = { cls } :=
      heap.inst_nextInstance cls
    refine .inr ⟨unfinished, unchanged, ?_⟩
    rw [changed]
    exact congrArg Instance.fields made

theorem of_run {first second : State} {arguments : List Value} (depth : Nat)
    (formed : (heap.prepared cls method).WellFormed)
    (present : ∀ handle, Refers.links arguments handle -> heap.Has handle)
    (start : first.heap = heap.prepared cls method)
    (startByHand : second.heap =
      (heap.prepared cls method).newClosure (heap.boundInitializer method)) :
    SameConstruction heap
      ((do
        let _ ← runClosure depth (heap.boundInitializer method) arguments
        return .inst heap.nextInstance : Exec Error Value) first)
      (runClosure depth (heap.boundInitializer method) arguments second) := by
  have alike : first.heap.Alike heap.nextClosure.skip second.heap := by
    rw [start, startByHand]
    exact formed.alike_newClosure _
  have steady : Steady heap.nextClosure.skip (heap.boundInitializer method).decl.constants :=
    (formed.alike_newClosure (heap.boundInitializer method)).steady method
  have ends := runClosure_parallel heap.nextClosure.skip depth _ arguments steady first second alike
  rw [Heap.rename_skip present] at ends
  have grows (handle : Handle) (has : (heap.prepared cls method).Has handle) :
      (runClosure depth (heap.boundInitializer method) arguments first).2.heap.Has handle :=
    runClosure_grows depth _ arguments (start ▸ has)
  rw [Exec.bind_apply]
  generalize runClosure depth _ arguments first = direct at ends grows ⊢
  generalize runClosure depth _ arguments second = byHand at ends ⊢
  obtain ⟨outcome, after⟩ := direct
  obtain ⟨result, later⟩ := byHand
  obtain ⟨outcomes, heaps, _⟩ := ends
  have kept (handle : Handle) (has : heap.Has handle) : after.heap.Has handle :=
    grows handle (Heap.has_prepared has)
  have created : after.heap.Has (.inst heap.nextInstance) := grows _ Heap.prepared_has_instance
  cases outcomes with
  | done values => exact ⟨.done _, kept, heaps.foundIn, .inl created⟩
  | @failed error other errors =>
      have same : other = error := errors
      rw [same]
      exact ⟨.failed error, kept, heaps.foundIn, .inl created⟩
  | exhausted => exact ⟨.exhausted, kept, heaps.foundIn, .inl created⟩

end SameConstruction

/--
To construct an instance through its class is to make it, read the initializer from it
and call that, but for the identities of functions made since.
-/
theorem construction_by_hand (state : State) (reachable : state.heap.Reachable)
    {cls : ClassId} {method : ClosureId}
    (found : state.heap.findMethod cls initializerName = some method) (arguments : List Value)
    (present : ∀ handle, Refers.links (Value.cls cls :: arguments) handle ->
      state.heap.Has handle) (depth readLine line : Nat) :
    SameConstruction state.heap (invoke depth (.cls cls) line arguments state)
      (cls.constructByHand depth readLine line arguments state) := by
  have classHas : state.heap.Has (.cls cls) := present _ ⟨_, List.mem_cons_self, rfl⟩
  have argumentsHave (handle : Handle) (link : Refers.links arguments handle) :
      state.heap.Has handle := by
    obtain ⟨value, member, link⟩ := link
    exact present handle ⟨value, List.mem_cons_of_mem _ member, link⟩
  have formed := reachable.wellFormed.prepared classHas found
  obtain ⟨second, heap, steps⟩ :=
    ClassId.constructByHand_apply state found depth readLine line arguments
  rw [steps]
  cases depth with
  | zero => exact .of_unstarted formed .exhausted (by simp [invoke, Exec.exhaust]) rfl heap
  | succ depth =>
      have bound : second.heap.closure state.heap.nextClosure =
          state.heap.boundInitializer method := by
        rw [heap, Heap.closure_newClosure]
        exact if_pos rfl
      have arity : (state.heap.boundInitializer method).arity =
          (state.heap.closure method).arity := rfl
      rw [invoke_function, bound, arity]
      by_cases fits : arguments.length = (state.heap.closure method).arity
      · obtain ⟨first, start, run⟩ := invoke_class_fits state found depth line fits
        rw [run, if_neg (not_not_intro fits)]
        exact .of_run depth formed argumentsHave start heap
      · obtain ⟨after, unchanged, failed⟩ := invoke_class_mismatch state found depth line fits
        rw [failed, if_pos fits]
        exact .of_unstarted formed (.failed _) (by simp) unchanged heap

-- A subclass of a class whose initializer stores a function and its argument in fields.
def storingSession : Session :=
  Session.start.after [
    { operation := .newClass (some "A") none
        [some (.make {
          decl := .inline ⟨.identifier initializerName 1, [.identifier "x" 1], [
            .set (.var receiverName 2) "f" (.function ⟨.identifier "g" 2, [], []⟩) 2,
            .set (.var receiverName 3) "x" (.var "x" 3) 3]⟩
          isInitializer := some true })],
      storeAs := some "A" },
    { operation := .newClass (some "B") (some "A") [], storeAs := some "B" }]

theorem construction_by_hand_storing :
    let state : State := { heap := storingSession.heap }
    let direct := invoke 1 (.cls ⟨1⟩) 4 [.bool true] state
    let byHand := ClassId.constructByHand 1 ⟨1⟩ 5 4 [.bool true] state
    state.heap.findMethod ⟨1⟩ initializerName = some ⟨0⟩ ∧
      direct.1 = .done (.inst ⟨0⟩) ∧
      (direct.2.heap.inst ⟨0⟩).fields.get? "f" = some (.closure ⟨1⟩) ∧
      (byHand.2.heap.inst ⟨0⟩).fields.get? "f" = some (.closure ⟨2⟩) ∧
      SameConstruction state.heap direct byHand := by
  intro state direct byHand
  have found : state.heap.findMethod ⟨1⟩ initializerName = some ⟨0⟩ := by decide +kernel
  have present (handle : Handle)
      (link : Refers.links [Value.cls ⟨1⟩, .bool true] handle) : state.heap.Has handle := by
    obtain ⟨value, member, link⟩ := link
    simp only [List.mem_cons, List.not_mem_nil, or_false] at member
    rcases member with rfl | rfl
    · cases link
      decide +kernel
    · cases link
  have same := construction_by_hand state (Session.reachable_after _) found [.bool true] present
    1 5 4
  exact ⟨found, by decide +kernel, by decide +kernel, by decide +kernel, same⟩

end Lox
