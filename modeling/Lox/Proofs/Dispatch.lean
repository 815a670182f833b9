import Lox.Proofs.ErrorLines
import Lox.Proofs.Logging
import Lox.Proofs.PropertyRead

set_option autoImplicit false

namespace Lox

/-- The number of arguments that a value takes; a class takes those of its initializer. -/
inductive Heap.Expects (heap : Heap) : Value -> Nat -> Prop where
  | native (function : Native) : Expects heap (.native function) function.arity
  | function (id : ClosureId) :
      Expects heap (.closure id) (heap.closure id).decl.params.length
  | initialized {cls : ClassId} {method : ClosureId} :
      heap.Ascent initializerName cls (some method) ->
        Expects heap (.cls cls) (heap.closure method).decl.params.length
  | bare {cls : ClassId} : heap.Ascent initializerName cls none -> Expects heap (.cls cls) 0

def Value.Callable : Value -> Prop
  | .native _ | .closure _ | .cls _ => True
  | _ => False

def Heap.unchecked? (heap : Heap) (run : ClosureRunner) (arguments : List Value) :
    Value -> Option (Exec Error Value)
  | .closure id => some (run (heap.closure id) arguments)
  | .cls id => some (id.instantiate run arguments)
  | _ => none

theorem Heap.WellFormed.expects_iff {heap : Heap} (formed : heap.WellFormed) {callee : Value}
    {expected : Nat} : heap.Expects callee expected <-> heap.arity? callee = some expected := by
  constructor
  · intro expects
    cases expects with
    | native | function => rfl
    | initialized ascent =>
        rw [arity?, classArity, formed.ascent_iff.mp ascent]
        rfl
    | bare ascent => rw [arity?, classArity, formed.ascent_iff.mp ascent]
  · intro arity
    cases callee with
    | native function =>
        cases arity
        exact .native function
    | closure id =>
        cases arity
        exact .function id
    | cls id =>
        cases arity
        cases found : heap.findMethod id initializerName with
        | none =>
            rw [classArity, found]
            exact .bare (formed.ascent_iff.mpr found)
        | some method =>
            rw [classArity_of_found found]
            exact .initialized (formed.ascent_iff.mpr found)
    | inst | number | text | bool | nil => cases arity

theorem Value.Callable.arity {callee : Value} (callable : callee.Callable) (heap : Heap) :
    ∃ expected, heap.arity? callee = some expected := by
  cases callee with
  | native | closure | cls => exact ⟨_, rfl⟩
  | inst | number | text | bool | nil => exact callable.elim

namespace Value

variable (line : Nat) {arguments : List Value} {state : State}

theorem call_rejected (run : ClosureRunner) {callee : Value} (rejected : ¬ callee.Callable) :
    Value.call run callee line arguments state =
      (.failed (.notCallable line), { state with
        log := state.log ++ [Event.calleeRejected (state.heap.display callee)] }) := by
  cases callee with
  | native | closure | cls => exact absurd trivial rejected
  | inst | number | text | bool | nil => rfl

theorem call_native (run : ClosureRunner) {function : Native}
    (fits : arguments.length = function.arity) :
    Value.call run (.native function) line arguments state =
      match function.builtin.apply state.heap arguments with
      | .ok value =>
          (.done value, { state with log := state.log ++ [
            Event.nativeCalling function.name,
            Event.nativeReturned function.name (state.heap.display value)] })
      | .error message =>
          (.failed (.runtime message line), { state with log := state.log ++ [
            Event.nativeCalling function.name, Event.runtimeFailure message line] }) := by
  simp only [Value.call, Native.call, Exec.log_bind, fits, ne_eq, not_true, if_false,
    Exec.read_bind]
  cases function.builtin.apply state.heap arguments with
  | ok value => rfl
  | error message => rfl

section Unchecked

variable {run : ClosureRunner} {callee : Value} {unchecked : Exec Error Value}
  (plain : state.heap.unchecked? run arguments callee = some unchecked)

include plain

theorem call_unchecked (fits : state.heap.arity? callee = some arguments.length) :
    Value.call run callee line arguments state =
      unchecked { state with log := state.log ++ state.heap.dispatchEvents callee } := by
  cases callee with
  | closure id =>
      cases plain
      rw [Value.call_function, if_neg (not_not_intro (Option.some.inj fits).symm)]
      rfl
  | cls id =>
      cases plain
      have enough : arguments.length = state.heap.classArity id := (Option.some.inj fits).symm
      have joined : state.log.push (.constructing (state.heap.cls id).name) ++
          state.heap.searchEvents id initializerName =
            state.log ++ state.heap.dispatchEvents (.cls id) :=
        Array.ext' (by simp [Heap.dispatchEvents])
      simp only [Value.call, Exec.read_bind, Exec.log_bind, ClassId.arity_bind, enough, ne_eq,
        not_true, if_false]
      rw [← joined]
  | native | inst | number | text | bool | nil => cases plain

theorem unchecked_writeOnly (blind : run.WriteOnly) : unchecked.WriteOnly := by
  cases callee with
  | closure id =>
      cases plain
      exact blind _ _
  | cls id =>
      cases plain
      exact ClassId.instantiate_writeOnly blind id arguments
  | native | inst | number | text | bool | nil => cases plain

end Unchecked

end Value

theorem Exec.WriteOnly.behind {ε α : Type} {action : Exec ε α} (blind : action.WriteOnly)
    (state : State) (events : List Event) :
    ∃ said : List Event, (action state).2.log = state.log ++ said ∧
      action { state with log := state.log ++ events } =
        ((action state).1, { (action state).2 with log := state.log ++ events ++ said }) := by
  obtain ⟨said, runs⟩ := blind state
  exact ⟨said, congrArg (fun ended => ended.2.log) (runs state.log), runs _⟩

/--
A call that is refused leaves the heap alone and runs nothing. Any other call is the
unchecked one, with the report of the check in front.
-/
theorem checked_dispatch (state : State) (reachable : state.heap.Reachable) (callee : Value)
    (line : Nat) (arguments : List Value) :
    (callee.Callable -> ∃! expected, state.heap.Expects callee expected) ∧
    (∀ expected, state.heap.Expects callee expected -> arguments.length ≠ expected ->
      ∃ said : List Event, ∀ run,
        Value.call run callee line arguments state =
          (.failed (.arity expected arguments.length line),
            { state with log := state.log ++ said }) ∧
        ∀ function builtin, callee = .native function ->
          Value.call run (.native { function with builtin }) line arguments state =
            Value.call run callee line arguments state) ∧
    (¬ callee.Callable -> ∃ said : List Event, ∀ run,
      Value.call run callee line arguments state =
        (.failed (.notCallable line), { state with log := state.log ++ said })) ∧
    (state.heap.Expects callee arguments.length ->
      (∀ function, callee = .native function ->
        (∀ value, function.builtin.apply state.heap arguments = .ok value ->
          ∃ said : List Event, ∀ run, Value.call run callee line arguments state =
            (.done value, { state with log := state.log ++ said })) ∧
        ∀ message, function.builtin.apply state.heap arguments = .error message ->
          ∃ said : List Event, ∀ run, Value.call run callee line arguments state =
            (.failed (.runtime message line), { state with log := state.log ++ said })) ∧
      ∀ run : ClosureRunner, run.WriteOnly ->
        ∀ unchecked, state.heap.unchecked? run arguments callee = some unchecked ->
          ∃ said : List Event, (unchecked state).2.log = state.log ++ said ∧
            Value.call run callee line arguments state =
              ((unchecked state).1, { (unchecked state).2 with
                log := state.log ++ state.heap.dispatchEvents callee ++ said })) ∧
    ∀ depth, invoke (depth + 1) = Value.call (runClosure depth) ∧
      ClosureRunner.WriteOnly (runClosure depth) := by
  have formed := reachable.wellFormed
  refine ⟨?_, ?_, ?_, ?_, fun depth => ⟨rfl, runClosure_writeOnly depth⟩⟩
  · intro callable
    obtain ⟨expected, arity⟩ := callable.arity state.heap
    refine ⟨expected, formed.expects_iff.mpr arity, fun other expects => ?_⟩
    exact Option.some.inj ((formed.expects_iff.mp expects).symm.trans arity)
  · intro expected expects wrong
    have arity := formed.expects_iff.mp expects
    refine ⟨_, fun run => ⟨Value.call_refused run line arity wrong, ?_⟩⟩
    rintro function builtin rfl
    rw [Value.call_refused run line arity wrong]
    exact Value.call_refused run line arity wrong
  · intro rejected
    exact ⟨_, fun run => Value.call_rejected line run rejected⟩
  · intro expects
    have fits := formed.expects_iff.mp expects
    refine ⟨?_, ?_⟩
    · rintro function rfl
      have enough : arguments.length = function.arity := (Option.some.inj fits).symm
      constructor
      · intro value result
        refine ⟨[.nativeCalling function.name,
          .nativeReturned function.name (state.heap.display value)], fun run => ?_⟩
        rw [Value.call_native line run enough, result]
      · intro message result
        refine ⟨[.nativeCalling function.name, .runtimeFailure message line], fun run => ?_⟩
        rw [Value.call_native line run enough, result]
    · intro run blind unchecked plain
      rw [Value.call_unchecked line plain fits]
      exact (Value.unchecked_writeOnly plain blind).behind state _

-- A class that takes one argument, because the initializer that it inherits does.
def oneArgumentSession : Session :=
  Session.start.after [
    { operation := .newClass (some "A") none
        [some (.make { decl := .inline ⟨.identifier initializerName 1, [.identifier "x" 1],
          [.set (.var receiverName 2) "x" (.var "x" 2) 2]⟩ })],
      storeAs := some "A" },
    { operation := .newClass (some "B") (some "A") [] }]

theorem checked_dispatch_inherited :
    let state : State := { heap := oneArgumentSession.heap }
    let constructed := ClassId.instantiate (runClosure 0) ⟨1⟩ [.bool true] state
    state.heap.Expects (.cls ⟨1⟩) 1 ∧
      (∃ said : List Event, invoke 1 (.cls ⟨1⟩) 7 [] state =
        (.failed (.arity 1 0 7), { state with log := state.log ++ said })) ∧
      constructed.1 = .done (.inst ⟨0⟩) ∧
      ∃ said : List Event, invoke 1 (.cls ⟨1⟩) 7 [.bool true] state =
        (constructed.1, { constructed.2 with
          log := state.log ++ state.heap.dispatchEvents (.cls ⟨1⟩) ++ said }) := by
  intro state constructed
  have reachable : state.heap.Reachable := Session.reachable_after _
  have expects : state.heap.Expects (.cls ⟨1⟩) 1 :=
    reachable.wellFormed.expects_iff.mpr (by decide +kernel)
  obtain ⟨_, mismatch, _, _, _⟩ := checked_dispatch state reachable (.cls ⟨1⟩) 7 []
  obtain ⟨said, refused⟩ := mismatch 1 expects (by decide)
  obtain ⟨_, _, _, fits, depths⟩ := checked_dispatch state reachable (.cls ⟨1⟩) 7 [.bool true]
  obtain ⟨more, _, same⟩ := (fits expects).2 (runClosure 0) (depths 0).2 _ rfl
  exact ⟨expects, ⟨said, (refused (runClosure 0)).1⟩, by decide +kernel, more, same⟩

end Lox
