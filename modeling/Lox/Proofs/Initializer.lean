import Lox.Proofs.BoundScope
import Lox.Proofs.Construction

set_option autoImplicit false

namespace Lox

def Change.assigned? (scope : ScopeId) (name : String) : Change -> Option Value
  | .assign holder query value => if holder = scope ∧ query = name then some value else none
  | _ => none

def lastAssigned? (changes : List Change) (scope : ScopeId) (name : String) : Option Value :=
  (changes.filterMap (Change.assigned? scope name)).getLast?

theorem Change.assigned?_eq_some {change : Change} {scope : ScopeId} {name : String}
    {value : Value} (assigned : change.assigned? scope name = some value) :
    change = .assign scope name value := by
  cases change with
  | assign holder query given =>
      obtain ⟨⟨rfl, rfl⟩, same⟩ := Option.ite_none_right_eq_some.mp assigned
      rw [Option.some.inj same]
  | newScope | bindScope | newClosure | newClass | newInstance | define | setField =>
      cases assigned

theorem lastAssigned?_eq_none {changes : List Change} {scope : ScopeId} {name : String}
    (kept : ∀ value, .assign scope name value ∉ changes) :
    lastAssigned? changes scope name = none := by
  rw [lastAssigned?, List.getLast?_eq_none_iff, List.filterMap_eq_nil_iff]
  intro change made
  refine Option.eq_none_iff_forall_ne_some.mpr fun value assigned => ?_
  rw [Change.assigned?_eq_some assigned] at made
  exact kept value made

section Foreign

variable {heap : Heap} {own : ScopeId -> Prop} {id : ScopeId} (has : heap.Has (.scope id))
  (foreign : ¬ own id) (name : String)

include has foreign

theorem Change.Orderly.get?_apply {change : Change} (orderly : change.Orderly heap own) :
    ((heap.apply change).scope id).vars.get? name =
      (change.assigned? id name).or ((heap.scope id).vars.get? name) := by
  have old := Heap.ne_nextScope has
  have within : id.index < heap.scopes.size := has
  rw [Heap.scope_apply]
  cases change with
  | newScope | bindScope => simp [Change.assigned?, old]
  | define scope query value =>
      have other : id ≠ scope := by
        rintro rfl
        exact foreign orderly
      simp [Change.assigned?, other]
  | assign holder query value =>
      by_cases same : id = holder
      · subst same
        by_cases hit : name = query
        · simp [Change.assigned?, within, hit]
        · simp [Change.assigned?, within, hit, Ne.symm hit]
      · simp [Change.assigned?, same, Ne.symm same]
  | newClosure | newClass | newInstance | setField => rfl

theorem Heap.Admits.get?_replay {changes : List Change} (admits : heap.Admits own changes) :
    ((heap.replay changes).scope id).vars.get? name =
      (lastAssigned? changes id name).or ((heap.scope id).vars.get? name) := by
  induction changes generalizing heap own with
  | nil => rfl
  | cons change rest ih =>
      have stillForeign : ¬ (own id ∨ change.opened? heap = some id) := by
        rintro (mine | opened)
        · exact foreign mine
        · exact Change.created?_fresh (Change.created?_of_opened opened) has
      have hasAfter : (heap.apply change).Has (.scope id) :=
        (Heap.has_apply heap change _).mpr (.inl has)
      rw [Heap.replay_cons, ih hasAfter stillForeign admits.2,
        admits.1.get?_apply has foreign name]
      unfold lastAssigned?
      cases assigned : change.assigned? id name with
      | none => simp [assigned]
      | some value =>
          cases last : (rest.filterMap (Change.assigned? id name)).getLast? <;>
            simp [assigned, List.getLast?_cons, last]

end Foreign

theorem Exec.bind_done {ε α β : Type} {first : Exec ε α} {next : α -> Exec ε β}
    {state after : State} {result : β}
    (ended : (first >>= next) state = (.done result, after)) :
    ∃ value middle, first state = (.done value, middle) ∧
      next value middle = (.done result, after) := by
  rw [Exec.bind_apply] at ended
  cases begun : first state with
  | mk outcome middle =>
      rw [begun] at ended
      cases outcome with
      | done value => exact ⟨value, middle, rfl, ended⟩
      | failed error => cases ended
      | exhausted => cases ended

theorem Closure.call_initializer {run : BodyRunner} {closure : Closure} {arguments : List Value}
    {state after : State} {value : Value} (initializes : closure.isInitializer)
    (ended : closure.call run arguments state = (.done value, after)) :
    after.heap.lookup closure.scope receiverName = some value := by
  obtain ⟨_, _, _, ended⟩ := Exec.bind_done ended
  obtain ⟨_, _, _, ended⟩ := Exec.bind_done ended
  obtain ⟨_, _, _, ended⟩ := Exec.bind_done ended
  obtain ⟨_, last, _, ended⟩ := Exec.bind_done ended
  rw [if_pos initializes, ScopeId.lookup_apply] at ended
  cases found : last.heap.lookup closure.scope receiverName with
  | none =>
      rw [found] at ended
      cases ended
  | some held =>
      rw [found] at ended
      cases ended
      exact found

def Heap.withBound (heap : Heap) (method : ClosureId) (receiver : InstanceId) : Heap :=
  (heap.apply (.bindScope (heap.closure method).scope receiver)).apply
    (.newClosure { heap.closure method with scope := heap.nextScope })

theorem ClosureId.bindTo_apply {ε : Type} (method : ClosureId) (receiver : InstanceId)
    (state : State) :
    ∃ log journal, (method.bindTo receiver : Exec ε ClosureId) state =
      (.done state.heap.nextClosure,
        { heap := state.heap.withBound method receiver, log, journal }) :=
  ⟨_, _, rfl⟩

theorem Invocation.run_function {depth : Nat} {arguments : List Value} {invocation : Invocation}
    {id : ClosureId} (calls : invocation = .function id ∨
      ∃ line, invocation = .checked (.closure id) line)
    {state after : State} {value : Value}
    (ended : invocation.run depth arguments state = (.done value, after)) :
    ∃ inner, runClosure inner (state.heap.closure id) arguments state = (.done value, after) := by
  rcases calls with rfl | ⟨line, rfl⟩
  · exact ⟨depth, ended⟩
  · cases depth with
    | zero => cases ended
    | succ depth =>
        rw [Invocation.run, invoke_function] at ended
        split at ended
        · cases ended
        · exact ⟨depth, ended⟩

namespace Heap

variable (heap : Heap) (method : ClosureId) (receiver : InstanceId)

-- The new scope and the new function.

theorem scope_withBound : (heap.withBound method receiver).scope heap.nextScope =
    .ofReceiver (heap.closure method).scope receiver := by
  rw [withBound, scope_apply]
  dsimp only
  rw [scope_apply]
  exact if_pos rfl

theorem closure_withBound : (heap.withBound method receiver).closure heap.nextClosure =
    { heap.closure method with scope := heap.nextScope } := by
  rw [withBound, closure_apply]
  exact if_pos rfl

theorem has_withBound : (heap.withBound method receiver).Has (.scope heap.nextScope) := by
  rw [withBound, has_apply, has_apply]
  exact .inl (.inr rfl)

end Heap

theorem runClosure_initializer {depth : Nat} {closure : Closure} {arguments : List Value}
    {method : ScopeId} {receiver : InstanceId} {state after : State} {value : Value}
    (initializes : closure.isInitializer) (has : state.heap.Has (.scope closure.scope))
    (shape : state.heap.scope closure.scope = .ofReceiver method receiver)
    (ended : runClosure depth closure arguments state = (.done value, after)) :
    ∃ changes, after.heap = state.heap.replay changes ∧
      after.journal.toList = state.journal.toList ++ changes ∧
      value = (lastAssigned? changes closure.scope receiverName).getD (.inst receiver) := by
  obtain ⟨changes, heap, journal, admitted⟩ :=
    (Closure.call_orderly closure arguments).contained (invoke_contained depth) state
  have found := Closure.call_initializer initializes ended
  rw [runClosure] at ended
  rw [ended] at heap journal
  refine ⟨changes, heap, journal, ?_⟩
  have stored : (after.heap.scope closure.scope).vars.get? receiverName =
      some ((lastAssigned? changes closure.scope receiverName).getD (.inst receiver)) := by
    rw [heap, admitted.get?_replay has not_false, shape]
    exact Option.or_some
  -- The receiver is looked up where it was bound, as the call has left it.
  have here : after.heap.holder? closure.scope receiverName = some closure.scope :=
    Heap.holder?_here (by rw [Bindings.contains, stored]; rfl)
  rw [Heap.lookup, here] at found
  exact Option.some.inj (found.symm.trans stored)

/--
A bound initializer gives what the call assigned to the receiver's variable last, and the
receiver if it assigned nothing to it.
-/
theorem bound_initializer_result (state : State) (method : ClosureId) (receiver : InstanceId)
    (initializes : (state.heap.closure method).isInitializer) {bound : ClosureId} {start : State}
    (binds : (method.bindTo receiver : Exec Error ClosureId) state = (.done bound, start))
    (invocation : Invocation)
    (calls : invocation = .function bound ∨ ∃ line, invocation = .checked (.closure bound) line)
    (depth : Nat) (arguments : List Value) {value : Value} {after : State}
    (ended : invocation.run depth arguments start = (.done value, after)) :
    ∃ changes, after.heap = start.heap.replay changes ∧
      after.journal.toList = start.journal.toList ++ changes ∧
      value = (lastAssigned? changes (start.heap.closure bound).scope receiverName).getD
        (.inst receiver) ∧
      (value = .inst receiver <->
        ∀ other, lastAssigned? changes (start.heap.closure bound).scope receiverName = some other ->
          other = .inst receiver) ∧
      ((∀ other, .assign (start.heap.closure bound).scope receiverName other ∉ changes) ->
        value = .inst receiver) := by
  obtain ⟨log, journal, steps⟩ := @ClosureId.bindTo_apply Error method receiver state
  rw [steps] at binds
  cases binds
  obtain ⟨inner, ran⟩ := Invocation.run_function calls ended
  dsimp only at ran ⊢
  rw [Heap.closure_withBound] at ran ⊢
  have flagged : ({ state.heap.closure method with scope := state.heap.nextScope } :
      Closure).isInitializer := initializes
  obtain ⟨changes, heap, journal, result⟩ :=
    runClosure_initializer flagged (Heap.has_withBound ..) (Heap.scope_withBound ..) ran
  refine ⟨changes, heap, journal, result, ?_, ?_⟩
  · rw [result]
    cases lastAssigned? changes state.heap.nextScope receiverName <;> simp
  · intro kept
    rw [result, lastAssigned?_eq_none kept]
    rfl

-- An instance, and an initializer that is not bound to it yet.
def initializerSession (params : List Token) (body : List (Stmt Literal)) : Session :=
  Session.start.after [
    { operation := .newClass (some "A") none [], storeAs := some "A" },
    { operation := .newInstance "A", storeAs := some "o" },
    { operation := .newFunction {
        decl := .inline ⟨.identifier initializerName 1, params, body⟩ } }]

theorem bound_initializer_result_hidden :
    let session := initializerSession [.identifier receiverName 1] [
      .assign receiverName (.const (.text "other")) 2,
      .ret (.const (.text "returned"))]
    let bound := (ClosureId.bindTo ⟨0⟩ ⟨0⟩ : Exec Error ClosureId) { heap := session.heap }
    let called := (Invocation.checked (.closure ⟨1⟩) 4).run 1 [.nil] bound.2
    called.1 = .done (.inst ⟨0⟩) ∧
      ∃ changes, called.2.heap = bound.2.heap.replay changes ∧
        Value.inst ⟨0⟩ = (lastAssigned? changes ⟨1⟩ receiverName).getD (.inst ⟨0⟩) := by
  intro session bound called
  have initializes : (session.heap.closure ⟨0⟩).isInitializer := by decide +kernel
  have result : called.1 = .done (.inst ⟨0⟩) := by decide +kernel
  have scope : (bound.2.heap.closure ⟨1⟩).scope = ⟨1⟩ := by decide +kernel
  have binds : bound = (.done ⟨1⟩, bound.2) := Prod.ext (by decide +kernel) rfl
  have ended : called = (.done (.inst ⟨0⟩), called.2) := Prod.ext result rfl
  obtain ⟨changes, heap, _, last, _, _⟩ := bound_initializer_result { heap := session.heap } ⟨0⟩ ⟨0⟩
    initializes binds (.checked (.closure ⟨1⟩) 4) (.inr ⟨4, rfl⟩) 1 [.nil] ended
  rw [scope] at last
  exact ⟨result, changes, heap, last⟩

theorem bound_initializer_replaced :
    let session := initializerSession [] [.assign receiverName (.const (.text "other")) 2]
    let bound := (ClosureId.bindTo ⟨0⟩ ⟨0⟩ : Exec Error ClosureId) { heap := session.heap }
    session.heap.Reachable ∧ session.heap.Has (.inst ⟨0⟩) ∧
      (session.heap.closure ⟨0⟩).isInitializer ∧ bound.1 = .done ⟨1⟩ ∧
      ((Invocation.function ⟨1⟩).run 0 [] bound.2).1 = .done (.text "other") ∧
      ((Invocation.function ⟨1⟩).run 0 [] bound.2).1 ≠ .done (.inst ⟨0⟩) := by
  intro session bound
  exact ⟨Session.reachable_after _, by decide +kernel, by decide +kernel, by decide +kernel,
    by decide +kernel, by decide +kernel⟩

end Lox
