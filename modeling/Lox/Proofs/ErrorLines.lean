import Lox.Proofs.Construction
import Lox.Proofs.Encapsulation
import Lox.Proofs.Located

set_option autoImplicit false

namespace Lox

theorem Native.call_error_line {function : Native} {line : Nat} {arguments : List Value}
    {state after : State} {error : Error}
    (ended : function.call line arguments state = (.failed error, after)) : error.line = line := by
  -- A native function calls no other, so nothing has to be known.
  let nothing : World := { heap := state.heap, known := fun _ => False, own := fun _ => False }
  have closed : nothing.Closed :=
    ⟨fun _ never => never.elim, fun _ _ never => never.elim, fun _ never => never.elim⟩
  have located : (function.call line arguments).Located (· = line) nothing :=
    Native.call_located function arguments rfl
  obtain ⟨cited, _⟩ := located closed (fun _ never => never.elim) state rfl
  rw [ended] at cited
  exact (Cites.only_error error).mp cited

def Heap.arity? (heap : Heap) : Value -> Option Nat
  | .native function => some function.arity
  | .closure id => some (heap.closure id).arity
  | .cls id => some (heap.classArity id)
  | _ => none

-- What is reported of a call before anything runs, and of a call that is refused.

def Heap.dispatchEvents (heap : Heap) : Value -> List Event
  | .native function => [.nativeCalling function.name]
  | .cls id => .constructing (heap.cls id).name :: heap.searchEvents id initializerName
  | _ => []

def Heap.refusalEvents (heap : Heap) (callee : Value) (expected got line : Nat) : List Event :=
  -- A class is asked for its arity once more, and searches again.
  let again :=
    match callee with
    | .cls id => heap.searchEvents id initializerName
    | _ => []
  heap.dispatchEvents callee ++ again ++ [.arityMismatch expected got line]

theorem Value.call_refused (run : ClosureRunner) {callee : Value} (line : Nat)
    {arguments : List Value} {state : State} {expected : Nat}
    (arity : state.heap.arity? callee = some expected) (wrong : arguments.length ≠ expected) :
    Value.call run callee line arguments state =
      (.failed (.arity expected arguments.length line), { state with
        log := state.log ++
          state.heap.refusalEvents callee expected arguments.length line }) := by
  cases callee with
  | native function =>
      cases arity
      simp only [Value.call, Native.call, Exec.log_bind, if_pos wrong]
      rfl
  | closure id =>
      cases arity
      rw [Value.call_function, if_pos wrong]
      rfl
  | cls id =>
      cases arity
      have joined : (state.log.push (.constructing (state.heap.cls id).name) ++
          state.heap.searchEvents id initializerName ++
          state.heap.searchEvents id initializerName ++
          [Event.arityMismatch (state.heap.classArity id) arguments.length line] : Array Event) =
            state.log ++ state.heap.refusalEvents (.cls id) (state.heap.classArity id)
              arguments.length line :=
        Array.ext' (by simp [Heap.refusalEvents, Heap.dispatchEvents])
      simp only [Value.call, Exec.read_bind, Exec.log_bind, ClassId.arity_bind, if_pos wrong]
      rw [← joined]
      rfl
  | inst | number | text | bool | nil => cases arity

theorem Value.call_mismatch (run : ClosureRunner) {callee : Value} (line : Nat)
    {arguments : List Value} {state : State} {expected : Nat}
    (arity : state.heap.arity? callee = some expected) (wrong : arguments.length ≠ expected) :
    (Value.call run callee line arguments state).1 =
      .failed (.arity expected arguments.length line) := by
  rw [Value.call_refused run line arity wrong]

def Closure.runBody (run : BodyRunner) (closure : Closure) (arguments : List Value) :
    Exec Unwind Unit := do
  Exec.log (.calling closure.name)
  let scope ← ScopeId.create (some closure.scope)
  scope.defineAll ((closure.decl.params.map Token.lexeme).zip arguments)
  run closure.decl.body scope

/-- If a body ends in an error, a call fails with just that, in the state that the body left. -/
def Exec.PassesError (call : Exec Error Value) (state : State) (body : Exec Unwind Unit)
    (before : State) : Prop :=
  ∀ error after, body before = (.failed (.error error), after) ->
    call state = (.failed error, after)

theorem ScopeId.defineAll_done (scope : ScopeId) (entries : List (String × Value))
    (state : State) :
    ∃ after : State, ∀ ε : Type, (scope.defineAll entries : Exec ε Unit) state =
      (.done (), after) := by
  induction entries generalizing state with
  | nil => exact ⟨state, fun _ => rfl⟩
  | cons entry rest ih => exact ih _

section Bodies

variable (run : BodyRunner) (arguments : List Value) (state : State)

theorem Closure.call_passesError (closure : Closure) :
    (closure.call run arguments).PassesError state (closure.runBody run arguments) state := by
  intro error after ended
  let opened : State :=
    { state with
      heap := state.heap.apply (.newScope { enclosing := some closure.scope })
      log := state.log.push (.calling closure.name)
      journal := state.journal.push (.newScope { enclosing := some closure.scope }) }
  obtain ⟨entered, done⟩ := state.heap.nextScope.defineAll_done
    ((closure.decl.params.map Token.lexeme).zip arguments) opened
  have body : run closure.decl.body state.heap.nextScope entered =
      (.failed (.error error), after) := by
    rw [← ended]
    simp only [Closure.runBody, ScopeId.create, Exec.log_bind, Exec.allocate_bind]
    rw [Exec.bind_apply, done]
  simp only [Closure.call, ScopeId.create, Exec.log_bind, Exec.allocate_bind]
  rw [Exec.bind_apply, done]
  dsimp only
  -- The end of an initializer is not reached.
  rw [Exec.bind_apply, Exec.returnValue, body]

theorem Value.call_function_passesError {id : ClosureId} (line : Nat)
    (fits : arguments.length = (state.heap.closure id).arity) :
    ((Value.closure id).call (Closure.call run) line arguments).PassesError state
      ((state.heap.closure id).runBody run arguments) state := by
  intro error after ended
  rw [Value.call_function, if_neg (not_not_intro fits)]
  exact Closure.call_passesError run arguments state _ error after ended

variable {cls : ClassId} {method : ClosureId}
  (found : state.heap.findMethod cls initializerName = some method)

include found

theorem ClassId.instantiate_passesError :
    ∃ before : State, before.heap = state.heap.prepared cls method ∧
      (cls.instantiate (Closure.call run) arguments).PassesError state
        ((state.heap.boundInitializer method).runBody run arguments) before := by
  obtain ⟨before, heap, steps⟩ :=
    ClassId.instantiate_apply state found (Closure.call run) arguments
  refine ⟨before, heap, fun error after ended => ?_⟩
  rw [steps, Exec.bind_apply, Closure.call_passesError run arguments before _ error after ended]

theorem Value.call_class_passesError (line : Nat)
    (fits : arguments.length = (state.heap.closure method).arity) :
    ∃ before : State, before.heap = state.heap.prepared cls method ∧
      ((Value.cls cls).call (Closure.call run) line arguments).PassesError state
        ((state.heap.boundInitializer method).runBody run arguments) before := by
  obtain ⟨before, heap, steps⟩ :=
    Value.call_class_fits state found (Closure.call run) line fits
  refine ⟨before, heap, fun error after ended => ?_⟩
  rw [steps, Exec.bind_apply, Closure.call_passesError run arguments before _ error after ended]

end Bodies

/-- A line in the declaration of a function that some values lead to. -/
def Heap.WrittenAt (heap : Heap) (values : List Value) (line : Nat) : Prop :=
  ∃ id, heap.Reaches (Refers.links values) (.closure id) ∧ line ∈ (heap.closure id).decl.lines

theorem invoke_error_line {state : State} (reachable : state.heap.Reachable) {callee : Value}
    {line : Nat} {arguments : List Value}
    (present : ∀ handle, Refers.links (callee :: arguments) handle -> state.heap.Has handle)
    {depth : Nat} {error : Error} {after : State}
    (ended : invoke depth callee line arguments state = (.failed error, after)) :
    error.line = line ∨ state.heap.WrittenAt (callee :: arguments) error.line := by
  -- At first, just the functions that are reached are known.
  let world := World.ofRoots state.heap (Refers.links (callee :: arguments))
  let allowed (place : Nat) := place = line ∨ state.heap.WrittenAt (callee :: arguments) place
  have closed : world.Closed := World.ofRoots_closed reachable.wellFormed present
  have lined : world.Lined allowed := fun id reached place written => .inr ⟨id, reached, written⟩
  have known : world.Knows (callee :: arguments) := fun _ link => .root link
  have ⟨calleeKnown, argumentsKnown⟩ := (World.knows_cons _ _).mp known
  have located := invoke_located allowed depth world callee line arguments calleeKnown
    argumentsKnown (.inl rfl)
  obtain ⟨cited, _⟩ := located closed lined state rfl
  rw [ended] at cited
  exact (Cites.only_error error).mp cited

/--
Errors point at the call or into a function that the callee and the arguments lead to, and
come out of all calls as they are.
-/
theorem errors_point_at_source (state : State) (reachable : state.heap.Reachable)
    (callee : Value) (line : Nat) (arguments : List Value)
    (present : ∀ handle, Refers.links (callee :: arguments) handle -> state.heap.Has handle) :
    (∀ depth error after, invoke depth callee line arguments state = (.failed error, after) ->
      error.line = line ∨ state.heap.WrittenAt (callee :: arguments) error.line) ∧
    (∀ depth function error after, callee = .native function ->
      invoke depth callee line arguments state = (.failed error, after) -> error.line = line) ∧
    (∀ depth expected, state.heap.arity? callee = some expected ->
      arguments.length ≠ expected ->
        (invoke (depth + 1) callee line arguments state).1 =
          .failed (.arity expected arguments.length line)) ∧
    ∀ run : BodyRunner,
      (∀ closure : Closure, (closure.call run arguments).PassesError state
        (closure.runBody run arguments) state) ∧
      (∀ id, callee = .closure id -> arguments.length = (state.heap.closure id).arity ->
        (callee.call (Closure.call run) line arguments).PassesError state
          ((state.heap.closure id).runBody run arguments) state) ∧
      ∀ cls method, callee = .cls cls ->
        state.heap.findMethod cls initializerName = some method ->
          (∃ before : State, before.heap = state.heap.prepared cls method ∧
            (cls.instantiate (Closure.call run) arguments).PassesError state
              ((state.heap.boundInitializer method).runBody run arguments) before) ∧
          (arguments.length = (state.heap.closure method).arity ->
            ∃ before : State, before.heap = state.heap.prepared cls method ∧
              (callee.call (Closure.call run) line arguments).PassesError state
                ((state.heap.boundInitializer method).runBody run arguments) before) := by
  refine ⟨fun depth error after => invoke_error_line reachable present, ?_, ?_, ?_⟩
  · rintro depth function error after rfl ended
    cases depth with
    | zero => cases ended
    | succ depth => exact Native.call_error_line ended
  · intro depth expected arity wrong
    exact Value.call_mismatch (runClosure depth) line arity wrong
  · intro run
    refine ⟨Closure.call_passesError run arguments state, ?_, ?_⟩
    · rintro id rfl fits
      exact Value.call_function_passesError run arguments state line fits
    · rintro cls method rfl found
      exact ⟨ClassId.instantiate_passesError run arguments state found,
        Value.call_class_passesError run arguments state found line⟩

-- A function that calls another one by its name, which then fails.
def failingSession : Session :=
  Session.start.after [
    { operation := .newFunction {
        decl := .inline ⟨.identifier "f" 1, [], [.run (.call (.var "g" 2) [] 2)]⟩ } },
    { operation := .newFunction {
        decl := .inline ⟨.identifier "g" 4, [], [.fail "broken" 5]⟩ },
      storeAs := some "g" },
    { operation := .define globalsName "g" (.register "g") }]

theorem errors_point_at_source_nested :
    let state : State := { heap := failingSession.heap }
    (invoke 2 (.closure ⟨0⟩) 7 [] state).1 = .failed (.runtime "broken" 5) ∧
      state.heap.WrittenAt [.closure ⟨0⟩] 5 := by
  intro state
  have present (handle : Handle) (link : Refers.links [Value.closure ⟨0⟩] handle) :
      state.heap.Has handle := by
    obtain ⟨value, member, link⟩ := link
    rw [List.mem_singleton.mp member] at link
    cases link
    decide +kernel
  have failed : (invoke 2 (.closure ⟨0⟩) 7 [] state).1 = .failed (.runtime "broken" 5) := by
    decide +kernel
  obtain ⟨lines, _⟩ := errors_point_at_source state (Session.reachable_after _) (.closure ⟨0⟩) 7
    [] present
  have line := lines 2 (.runtime "broken" 5) _ (Prod.ext failed rfl)
  exact ⟨failed, line.resolve_left (by decide)⟩

end Lox
