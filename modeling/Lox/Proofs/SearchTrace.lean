import Lox.Proofs.Dispatch
import Lox.Proofs.Instantiation

set_option autoImplicit false

namespace Lox

def State.Reports (state after : State) (messages : List String) : Prop :=
  ∃ events : List Event, after.log = state.log ++ events ∧ events.map Event.message = messages

theorem State.Reports.trans {state middle after : State} {first second : List String}
    (begins : state.Reports middle first) (continues : middle.Reports after second) :
    state.Reports after (first ++ second) := by
  obtain ⟨events, log, messages⟩ := begins
  obtain ⟨more, logAfter, others⟩ := continues
  refine ⟨events ++ more, ?_, by rw [List.map_append, messages, others]⟩
  rw [logAfter, log]
  exact Array.ext' (by simp)

namespace Heap

/--
The messages of a search along a chain of classes: one for each class before the
first that declares the name, as far as there is another class to go on to, and
one for that first class.
-/
def trace (heap : Heap) (name : String) (chain : List ClassId) : List String :=
  let declares (id : ClassId) : Bool := (heap.cls id).methods.contains name
  let ascents := List.zipWith
    (fun id parent =>
      "Method '" ++ name ++ "' not on '" ++ (heap.cls id).name ++ "', ascending to '" ++
        (heap.cls parent).name ++ "'")
    (chain.takeWhile fun id => !declares id) chain.tail
  let find := (chain.find? declares).map fun id =>
    "Method '" ++ name ++ "' found on class '" ++ (heap.cls id).name ++ "'"
  ascents ++ find.toList

section Trace

variable {heap : Heap} {name : String} {id : ClassId}

theorem trace_declared (declared : (heap.cls id).methods.contains name) (rest : List ClassId) :
    heap.trace name (id :: rest) =
      ["Method '" ++ name ++ "' found on class '" ++ (heap.cls id).name ++ "'"] := by
  simp only [trace, List.takeWhile_cons, List.find?_cons, declared, Bool.not_true,
    Bool.false_eq_true, if_false, List.zipWith_nil_left, List.nil_append, Option.map_some,
    Option.toList_some]

variable (undeclared : ¬ (heap.cls id).methods.contains name)

include undeclared

theorem trace_top : heap.trace name [id] = [] := by
  simp only [trace, List.find?_cons, undeclared, List.tail_cons, List.zipWith_nil_right,
    List.find?_nil, Option.map_none, Option.toList_none, List.append_nil]

theorem trace_ascends (parent : ClassId) (rest : List ClassId) :
    heap.trace name (id :: parent :: rest) =
      ("Method '" ++ name ++ "' not on '" ++ (heap.cls id).name ++ "', ascending to '" ++
        (heap.cls parent).name ++ "'") :: heap.trace name (parent :: rest) := by
  have passed : (id :: parent :: rest).takeWhile (fun id => !(heap.cls id).methods.contains name) =
      id :: (parent :: rest).takeWhile fun id => !(heap.cls id).methods.contains name :=
    List.takeWhile_cons_of_pos (by simpa using undeclared)
  simp only [trace, passed, List.find?_cons, undeclared, List.tail_cons, List.zipWith_cons_cons,
    List.cons_append]

end Trace

theorem WellFormed.messages_searchEvents {heap : Heap} (formed : heap.WellFormed) {id : ClassId}
    {chain : List ClassId} (links : Chain (fun id => (heap.cls id).superclass) id chain)
    (name : String) : (heap.searchEvents id name).map Event.message = heap.trace name chain := by
  induction links with
  | @last id top =>
      rw [searchEvents_eq, formed.superclass?_eq, top]
      by_cases declared : (heap.cls id).methods.contains name
      · rw [if_pos declared, trace_declared declared]
        rfl
      · rw [if_neg declared, trace_top declared]
        rfl
  | @link id parent rest up above ih =>
      rw [searchEvents_eq, formed.superclass?_eq, up]
      by_cases declared : (heap.cls id).methods.contains name
      · rw [if_pos declared, trace_declared declared]
        rfl
      · obtain ⟨more, rfl⟩ : ∃ more, rest = parent :: more := by
          cases above with
          | last => exact ⟨[], rfl⟩
          | link => exact ⟨_, rfl⟩
        rw [if_neg declared, trace_ascends declared, ← ih]
        rfl

theorem messages_definitions (heap : Heap) (closure : Closure) (arguments : List Value) :
    (heap.definitions (closure.entries arguments)).map Event.message =
      List.zipWith
        (fun param value => "Defining '" ++ param.lexeme ++ "' = " ++ heap.display value)
        closure.decl.params arguments := by
  rw [definitions, Closure.entries, List.map_map, List.zip, List.map_zipWith,
    List.zipWith_map_left]
  rfl

section Messages

variable {heap : Heap} {cls : ClassId} {search : List String}
  (told : (heap.searchEvents cls initializerName).map Event.message = search)

include told

theorem messages_dispatch : (heap.dispatchEvents (.cls cls)).map Event.message =
    ("Constructing instance of '" ++ (heap.cls cls).name ++ "'") :: search := by
  rw [dispatchEvents, List.map_cons, told]
  rfl

theorem messages_refusal (expected got line : Nat) :
    (heap.refusalEvents (.cls cls) expected got line).map Event.message =
      ("Constructing instance of '" ++ (heap.cls cls).name ++ "'") :: search ++ search ++ [
        "Creating Arity error: line=" ++ toString line ++ ", expected=" ++ toString expected ++
          ", got=" ++ toString got] := by
  rw [refusalEvents, List.map_append, List.map_append, messages_dispatch told, told]
  rfl

theorem messages_staging (method : ClosureId) (arguments : List Value) :
    (heap.stagingEvents cls method arguments).map Event.message =
      ("Creating instance of '" ++ (heap.cls cls).name ++ "'") :: search ++ ([
        "Running initializer of '" ++ (heap.cls cls).name ++ "'",
        "Binding method '" ++ (heap.closure method).name ++ "' to " ++
          ((heap.cls cls).name ++ " instance"),
        "Defining 'this' = " ++ ((heap.cls cls).name ++ " instance"),
        "Calling user-defined function '" ++ (heap.closure method).name ++ "'"] ++
        List.zipWith
          (fun param value => "Defining '" ++ param.lexeme ++ "' = " ++
            (heap.staged cls method arguments).display value)
          (heap.closure method).decl.params arguments) := by
  have shown (value : Value) : (heap.staged cls method arguments).display value =
      (heap.prepared cls method).display value := display_newScope ..
  simp only [shown, ← messages_definitions]
  rw [stagingEvents, bindingEvents, List.map_append, List.map_append, List.map_append,
    List.map_append, told]
  simp only [List.append_assoc, List.cons_append]
  rfl

end Messages

end Heap

theorem Closure.conclude_writeOnly (closure : Closure) (value : Value) :
    (closure.conclude value).WriteOnly := by
  unfold Closure.conclude
  split
  · exact ScopeId.lookup_writeOnly _ _ _
  · exact .bind (.read _) fun _ => .bind (.log _) fun _ => .pure value

/-- The log of a call of a class, up to the point where the body of its initializer starts. -/
theorem class_call_trace (state : State) (reachable : state.heap.Reachable) {cls : ClassId}
    {chain : List ClassId}
    (links : Chain (fun id => (state.heap.cls id).superclass) cls chain) :
    (∀ name, state.Reports ((cls.findMethod name : Exec Error (Option ClosureId)) state).2
      (state.heap.trace name chain)) ∧
    ∀ (line : Nat) (arguments : List Value),
      let name := (state.heap.cls cls).name
      let shown := name ++ " instance"
      let search := state.heap.trace initializerName chain
      let announced := ("Constructing instance of '" ++ name ++ "'") :: search
      let created := announced ++ ("Creating instance of '" ++ name ++ "'") :: search
      (∀ expected run, state.heap.Expects (.cls cls) expected -> arguments.length ≠ expected ->
        state.Reports (Value.call run (.cls cls) line arguments state).2
          (announced ++ search ++ [
            "Creating Arity error: line=" ++ toString line ++ ", expected=" ++
              toString expected ++ ", got=" ++ toString arguments.length])) ∧
      (state.heap.Expects (.cls cls) arguments.length ->
        (∀ run, state.heap.Ascent initializerName cls none ->
          state.Reports (Value.call run (.cls cls) line arguments state).2 created) ∧
        ∀ method, state.heap.Ascent initializerName cls (some method) ->
          let initializer := state.heap.closure method
          ∃ (scope : ScopeId) (start : State) (rest : Value -> Exec Error Value),
            state.Reports start (created ++ [
              "Running initializer of '" ++ name ++ "'",
              "Binding method '" ++ initializer.name ++ "' to " ++ shown,
              "Defining 'this' = " ++ shown,
              "Calling user-defined function '" ++ initializer.name ++ "'"] ++
              List.zipWith
                (fun param value =>
                  "Defining '" ++ param.lexeme ++ "' = " ++ start.heap.display value)
                initializer.decl.params arguments) ∧
            (∀ run : BodyRunner, Value.call (Closure.call run) (.cls cls) line arguments state =
              ((run initializer.decl.body scope).returnValue >>= rest) start) ∧
            ∀ depth, ∃ said : List Event,
              (invoke (depth + 1) (.cls cls) line arguments state).2.log =
                start.log ++ said) := by
  have formed := reachable.wellFormed
  have told (name : String) := formed.messages_searchEvents links name
  refine ⟨fun name => ⟨_, rfl, told name⟩, fun line arguments => ?_⟩
  intro name shown search announced created
  have searched := told initializerName
  refine ⟨?_, fun expects => ?_⟩
  · intro expected run expects wrong
    rw [Value.call_refused run line (formed.expects_iff.mp expects) wrong]
    exact ⟨_, rfl, Heap.messages_refusal searched expected arguments.length line⟩
  -- With the right number of arguments the class is instantiated after the announcement.
  let dispatched : State :=
    { state with log := state.log ++ state.heap.dispatchEvents (.cls cls) }
  have reports : state.Reports dispatched announced := ⟨_, rfl, Heap.messages_dispatch searched⟩
  have calls (run : ClosureRunner) : Value.call run (.cls cls) line arguments state =
      cls.instantiate run arguments dispatched :=
    Value.call_unchecked line rfl (formed.expects_iff.mp expects)
  refine ⟨?_, ?_⟩
  · intro run missing
    obtain ⟨after, _, log, steps⟩ :=
      ClassId.instantiate_bare dispatched (formed.ascent_iff.mp missing)
    rw [calls, steps]
    refine reports.trans ⟨_, log, ?_⟩
    rw [List.map_append, searched]
    rfl
  · intro method found initializer
    obtain ⟨start, heap, log, runs⟩ :=
      ClassId.instantiate_starts dispatched (formed.ascent_iff.mp found) arguments
    let rest (value : Value) : Exec Error Value := do
      let _ ← (state.heap.boundInitializer method).conclude value
      return .inst state.heap.nextInstance
    have started (run : BodyRunner) :
        Value.call (Closure.call run) (.cls cls) line arguments state =
          ((run initializer.decl.body (state.heap.prepared cls method).nextScope).returnValue >>=
            rest) start := (calls (Closure.call run)).trans (runs run)
    refine ⟨(state.heap.prepared cls method).nextScope, start, rest, ?_, started, fun depth => ?_⟩
    · have staged := reports.trans ⟨_, log, Heap.messages_staging searched method arguments⟩
      simpa only [created, heap, List.append_assoc] using staged
    · have blind : ((Stmt.execAll (invoke depth) initializer.decl.body
          (state.heap.prepared cls method).nextScope).returnValue >>= rest).WriteOnly := by
        refine .bind (.returnValue ?_) fun value => ?_
        · exact Stmt.execAll_writeOnly (invoke_writeOnly depth) _ _
        · exact .bind (Closure.conclude_writeOnly _ value) fun _ => .pure _
      obtain ⟨said, extended, _⟩ := blind.behind start []
      refine ⟨said, ?_⟩
      rw [invoke_succ, runClosure, started]
      exact extended

theorem class_call_trace_inherited :
    let state : State := { heap := oneArgumentSession.heap }
    let search := ["Method 'init' not on 'B', ascending to 'A'", "Method 'init' found on class 'A'"]
    Chain (fun id => (state.heap.cls id).superclass) ⟨1⟩ [⟨1⟩, ⟨0⟩] ∧
      state.Reports (invoke 1 (.cls ⟨1⟩) 7 [] state).2
        (["Constructing instance of 'B'"] ++ search ++ search ++
          ["Creating Arity error: line=7, expected=1, got=0"]) ∧
      ∃ start : State,
        state.Reports start (["Constructing instance of 'B'"] ++ search ++
          ["Creating instance of 'B'"] ++ search ++
          ["Running initializer of 'B'", "Binding method 'init' to B instance",
            "Defining 'this' = B instance", "Calling user-defined function 'init'",
            "Defining 'x' = true"]) ∧
        ∃ said : List Event,
          (invoke 1 (.cls ⟨1⟩) 7 [.bool true] state).2.log = start.log ++ said := by
  intro state search
  have reachable : state.heap.Reachable := Session.reachable_after _
  have links : Chain (fun id => (state.heap.cls id).superclass) ⟨1⟩ [⟨1⟩, ⟨0⟩] :=
    .link rfl (.last rfl)
  have found : state.heap.findMethod ⟨1⟩ initializerName = some ⟨0⟩ := by decide +kernel
  have ascent := reachable.wellFormed.ascent_iff.mpr found
  have searched : state.heap.trace initializerName [⟨1⟩, ⟨0⟩] = search := by decide +kernel
  have expects : state.heap.Expects (.cls ⟨1⟩) 1 := .initialized ascent
  obtain ⟨_, calls⟩ := class_call_trace state reachable links
  obtain ⟨refused, _⟩ := calls 7 []
  obtain ⟨_, fits⟩ := calls 7 [.bool true]
  obtain ⟨scope, start, rest, reports, _, depths⟩ := (fits expects).2 ⟨0⟩ ascent
  rw [searched] at reports
  have refusal := refused 1 (runClosure 0) expects (by decide)
  rw [searched] at refusal
  exact ⟨links, refusal, start, reports, depths 0⟩

end Lox
