import Lox.Proofs.Activation
import Lox.Proofs.Frozen

set_option autoImplicit false

namespace Lox

/-- Changes that define variables in scopes of one's own only, those opened on the way included. -/
def Heap.Admits (heap : Heap) (own : ScopeId -> Prop) : List Change -> Prop
  | [] => True
  | change :: rest =>
      change.Orderly heap own ∧
        (heap.apply change).Admits (fun id => own id ∨ change.opened? heap = some id) rest

namespace Heap.Admits

variable {heap : Heap} {own more : ScopeId -> Prop} {changes : List Change}

theorem mono (admits : heap.Admits own changes) (grows : ∀ id, own id -> more id) :
    heap.Admits more changes := by
  induction changes generalizing heap own more with
  | nil => trivial
  | cons change rest ih =>
      exact ⟨admits.1.mono grows, ih admits.2 fun id => Or.imp_left (grows id)⟩

theorem append {later : List Change} (first : heap.Admits own changes)
    (second : (heap.replay changes).Admits own later) : heap.Admits own (changes ++ later) := by
  induction changes generalizing heap own with
  | nil => exact second
  | cons change rest ih => exact ⟨first.1, ih first.2 (second.mono fun _ => .inl)⟩

theorem define_mem (admits : heap.Admits own changes)
    (present : ∀ id, own id -> heap.Has (.scope id)) {scope : ScopeId} {name : String}
    {value : Value} (made : .define scope name value ∈ changes) :
    (own scope ∨ ¬ heap.Has (.scope scope)) ∧ (heap.replay changes).Has (.scope scope) := by
  induction changes generalizing heap own with
  | nil => cases made
  | cons change rest ih =>
      rcases List.mem_cons.mp made with same | later
      · have mine : own scope := by
          have orderly := admits.1
          rw [← same] at orderly
          exact orderly
        exact ⟨.inl mine, Heap.has_replay (present scope mine) (change :: rest)⟩
      · have presentAfter (id : ScopeId)
            (held : own id ∨ change.opened? heap = some id) :
            (heap.apply change).Has (.scope id) :=
          (Heap.has_apply heap change _).mpr (held.imp (present id) Change.created?_of_opened)
        obtain ⟨held, has⟩ := ih admits.2 presentAfter later
        refine ⟨?_, has⟩
        rcases held with (mine | opened) | missing
        · exact .inl mine
        · exact .inr (Change.created?_fresh (Change.created?_of_opened opened))
        · exact .inr fun old => missing ((Heap.has_apply heap change _).mpr (.inl old))

end Heap.Admits

/-- The variables of a scope later, if changes do no more than assign to them. -/
def Scope.AssignedBy (changes : List Change) (id : ScopeId) (scope later : Scope) : Prop :=
  later.vars.keys = scope.vars.keys ∧
    ∀ name, later.vars.get? name = scope.vars.get? name ∨
      ∃ value, .assign id name value ∈ changes ∧ later.vars.get? name = some value

theorem Change.Orderly.assigned {heap : Heap} {own : ScopeId -> Prop} {change : Change}
    (orderly : change.Orderly heap own) {id : ScopeId} (has : heap.Has (.scope id))
    (foreign : ¬ own id) :
    Scope.AssignedBy [change] id (heap.scope id) ((heap.apply change).scope id) := by
  have kept {later : Scope} (same : later = heap.scope id) :
      Scope.AssignedBy [change] id (heap.scope id) later :=
    same ▸ ⟨rfl, fun _ => .inl rfl⟩
  rw [Heap.scope_apply]
  cases change with
  | newScope | bindScope => exact kept (if_neg (Heap.ne_nextScope has))
  | define scope name value =>
      have other : id ≠ scope := by
        rintro rfl
        exact foreign orderly
      exact kept (if_neg fun hit => other hit.1)
  | assign holder name value =>
      dsimp only
      split
      · next hit =>
          obtain ⟨rfl, _⟩ := hit
          -- The name is there, so writing it adds none.
          have present : name ∈ (heap.scope id).vars.keys :=
            (Bindings.mem_keys_iff _ _).mpr orderly
          refine ⟨by simp [Bindings.keys_insert, present], fun query => ?_⟩
          by_cases same : query = name
          · exact .inr ⟨value, by simp [same], by simp [same]⟩
          · exact .inl (by simp [same])
      · exact kept rfl
  | newClosure | newClass | newInstance | setField => exact kept rfl

theorem Heap.Admits.assigned {heap : Heap} {own : ScopeId -> Prop} {changes : List Change}
    (admits : heap.Admits own changes) {id : ScopeId} (has : heap.Has (.scope id))
    (foreign : ¬ own id) :
    Scope.AssignedBy changes id (heap.scope id) ((heap.replay changes).scope id) := by
  induction changes generalizing heap own with
  | nil => exact ⟨rfl, fun _ => .inl rfl⟩
  | cons change rest ih =>
      have stillForeign : ¬ (own id ∨ change.opened? heap = some id) := by
        rintro (mine | opened)
        · exact foreign mine
        · exact Change.created?_fresh (Change.created?_of_opened opened) has
      obtain ⟨keys, values⟩ := admits.1.assigned has foreign
      obtain ⟨keysAfter, valuesAfter⟩ :=
        ih admits.2 ((Heap.has_apply heap change _).mpr (.inl has)) stillForeign
      refine ⟨keysAfter.trans keys, fun name => ?_⟩
      rcases valuesAfter name with same | ⟨value, made, stored⟩
      · rw [Heap.replay_cons, same]
        refine (values name).imp_right ?_
        rintro ⟨value, made, stored⟩
        exact ⟨value, List.mem_append_left rest made, stored⟩
      · exact .inr ⟨value, List.mem_cons_of_mem _ made, stored⟩

/-- A state that changes lead to which define variables only in scopes that they open. -/
def State.ContainedTo (before after : State) (changes : List Change) : Prop :=
  after.heap = before.heap.replay changes ∧
    after.journal.toList = before.journal.toList ++ changes ∧
    before.heap.Admits (fun _ => False) changes

def Caller.Contained (call : Caller) : Prop :=
  ∀ callee line arguments (state : State), ∃ changes,
    state.ContainedTo (call callee line arguments state).2 changes

namespace Deed

def changes (call : Caller) (state : State) (deed : Deed) : List Change :=
  (deed.run call state).journal.toList.drop state.journal.size

def Defines (call : Caller) (state : State) (deed : Deed) (scope : ScopeId) : Prop :=
  ∃ name value, .define scope name value ∈ deed.changes call state

variable {call : Caller}

theorem changes_eq {state : State} {deed : Deed} {made : List Change}
    (journal : (deed.run call state).journal.toList = state.journal.toList ++ made) :
    deed.changes call state = made := by
  rw [Deed.changes, journal, ← Array.length_toList, List.drop_left]

@[simp]
theorem changes_report (state : State) (events : List Event) :
    (Deed.report events).changes call state = [] :=
  changes_eq (by simp [Deed.run])

@[simp]
theorem changes_change (state : State) (made : Change) :
    (Deed.change made).changes call state = [made] :=
  changes_eq (by simp [Deed.run])

theorem changes_call (contained : call.Contained) (callee : Value) (line : Nat)
    (arguments : List Value) (state : State) :
    state.ContainedTo (call callee line arguments state).2
      ((Deed.call callee line arguments).changes call state) := by
  obtain ⟨made, reached⟩ := contained callee line arguments state
  have all : (Deed.call callee line arguments).changes call state = made :=
    changes_eq reached.2.1
  rw [all]
  exact reached

theorem has_run (contained : call.Contained) (deed : Deed) {state : State} {handle : Handle}
    (has : state.heap.Has handle) : (deed.run call state).heap.Has handle := by
  cases deed with
  | report events => exact has
  | change made => exact (Heap.has_apply _ made handle).mpr (.inl has)
  | call callee line arguments =>
      rw [Deed.run, (changes_call contained callee line arguments state).1]
      exact Heap.has_replay has _

end Deed

namespace Activation

variable {call : Caller} {activation : Activation}

theorem AllowsAll.admits {deeds : List Deed} (allowed : activation.AllowsAll call deeds)
    (contained : call.Contained) :
    ∃ changes, (activation.state.follow call deeds).heap = activation.state.heap.replay changes ∧
      (activation.state.follow call deeds).journal.toList =
        activation.state.journal.toList ++ changes ∧
      activation.state.heap.Admits activation.own changes := by
  induction deeds generalizing activation with
  | nil => exact ⟨[], rfl, by simp [State.follow], trivial⟩
  | cons deed rest ih =>
      obtain ⟨more, heap, journal, admitted⟩ := ih allowed.2
      have mine (id : ScopeId)
          (held : activation.own id ∨ none = some id) : activation.own id :=
        held.resolve_right (by simp)
      cases deed with
      | report events => exact ⟨more, heap, journal, admitted.mono mine⟩
      | change made =>
          refine ⟨made :: more, heap, ?_, ⟨allowed.1, admitted⟩⟩
          rw [List.append_cons, ← Array.toList_push]
          exact journal
      | call callee line arguments =>
          obtain ⟨inner, heapInner, journalInner, admittedInner⟩ :=
            contained callee line arguments activation.state
          refine ⟨inner ++ more, ?_, ?_, ?_⟩
          · rw [Heap.replay_append, ← heapInner]
            exact heap
          · rw [← List.append_assoc, ← journalInner]
            exact journal
          · refine (admittedInner.mono fun _ never => never.elim).append ?_
            rw [← heapInner]
            exact admitted.mono mine

theorem has_actAll (contained : call.Contained) {handle : Handle}
    (has : activation.state.heap.Has handle) (deeds : List Deed) :
    (activation.actAll call deeds).state.heap.Has handle := by
  induction deeds generalizing activation with
  | nil => exact has
  | cons deed rest ih => exact ih (deed.has_run contained has)

def Present (activation : Activation) : Prop :=
  ∀ id, activation.own id -> activation.state.heap.Has (.scope id)

theorem Present.act (contained : call.Contained) (present : activation.Present) (deed : Deed) :
    (activation.act call deed).Present := by
  rintro id (mine | opened)
  · exact deed.has_run contained (present id mine)
  · cases deed with
    | change made =>
        exact (Heap.has_apply _ made _).mpr (.inr (Change.created?_of_opened opened))
    | report | call => cases opened

theorem Present.actAll (contained : call.Contained) (present : activation.Present)
    (deeds : List Deed) : (activation.actAll call deeds).Present := by
  induction deeds generalizing activation with
  | nil => exact present
  | cons deed rest ih => exact ih (present.act contained deed)

theorem foreign_actAll (contained : call.Contained) {id : ScopeId}
    (has : activation.state.heap.Has (.scope id)) (foreign : ¬ activation.own id)
    (deeds : List Deed) : ¬ (activation.actAll call deeds).own id := by
  induction deeds generalizing activation with
  | nil => exact foreign
  | cons deed rest ih =>
      refine ih (deed.has_run contained has) ?_
      rintro (mine | opened)
      · exact foreign mine
      · cases deed with
        | change made =>
            exact Change.created?_fresh (Change.created?_of_opened opened) has
        | report | call => cases opened

theorem Allows.defines {deed : Deed} (contained : call.Contained)
    (allowed : activation.Allows deed) (present : activation.Present) {scope : ScopeId}
    (defines : deed.Defines call activation.state scope) :
    (deed.IsCall ∧ ¬ activation.state.heap.Has (.scope scope) ∨
      ¬ deed.IsCall ∧ activation.own scope) ∧
        (activation.act call deed).state.heap.Has (.scope scope) := by
  obtain ⟨name, value, made⟩ := defines
  cases deed with
  | report events => simp at made
  | change done =>
      have same : .define scope name value = done := by simpa using made
      have mine : activation.own scope := by
        rw [← same] at allowed
        exact allowed
      exact ⟨.inr ⟨not_false, mine⟩, Deed.has_run contained _ (present scope mine)⟩
  | call callee line arguments =>
      obtain ⟨heap, _, admitted⟩ :=
        Deed.changes_call contained callee line arguments activation.state
      obtain ⟨held, has⟩ := admitted.define_mem (fun _ never => never.elim) made
      refine ⟨.inl ⟨trivial, held.resolve_left not_false⟩, ?_⟩
      rw [← heap] at has
      exact has

theorem calls_apart (contained : call.Contained) (present : activation.Present)
    {earlier between later : List Deed} {first second : Deed}
    (allowed : activation.AllowsAll call (earlier ++ first :: between ++ second :: later))
    (called : first.IsCall ∨ second.IsCall) {scope : ScopeId}
    (defines : first.Defines call (activation.state.follow call earlier) scope) :
    ¬ second.Defines call
      (activation.state.follow call (earlier ++ first :: between)) scope := by
  intro again
  rw [← state_actAll] at defines again
  rw [allowsAll_append, allowsAll_append] at allowed
  obtain ⟨⟨_, firstAllowed, _⟩, secondAllowed, _⟩ := allowed
  rw [actAll_append] at again secondAllowed
  have presentFirst := present.actAll contained earlier
  have presentNext := presentFirst.act contained first
  obtain ⟨firstMade, has⟩ := firstAllowed.defines contained presentFirst defines
  obtain ⟨secondMade, _⟩ :=
    secondAllowed.defines contained (presentNext.actAll contained between) again
  have stillHas := has_actAll contained has between
  rcases secondMade with ⟨_, fresh⟩ | ⟨notCall, mine⟩
  · exact fresh stillHas
  · -- The second deed is the activation's own, so the first is a call.
    rcases firstMade with ⟨isCall, fresh⟩ | ⟨notFirst, _⟩
    · have foreign : ¬ ((activation.actAll call earlier).act call first).own scope := by
        rintro (mine | opened)
        · exact fresh (presentFirst scope mine)
        · cases first with
          | call => cases opened
          | report | change => exact isCall
      exact foreign_actAll contained has foreign between mine
    · exact called.elim notFirst notCall

end Activation

theorem Exec.Orderly.contained {ε α : Type} {call : Caller} {action : Exec ε α}
    (orderly : action.Orderly call fun _ => False) (contained : call.Contained)
    (state : State) : ∃ changes, state.ContainedTo (action state).2 changes := by
  obtain ⟨deeds, allowed, reached⟩ := orderly state
  obtain ⟨changes, heap, journal, admitted⟩ := allowed.admits contained
  refine ⟨changes, ?_, ?_, admitted⟩
  · rw [reached, heap]
  · rw [reached, journal]

theorem invoke_contained (depth : Nat) : (invoke depth).Contained := by
  induction depth with
  | zero => exact fun _ _ _ state => ⟨[], rfl, by simp [invoke, Exec.exhaust], trivial⟩
  | succ depth ih =>
      intro callee line arguments
      exact (Value.call_orderly callee line arguments).contained ih

inductive Invocation where
  | checked (callee : Value) (line : Nat)
  | function (id : ClosureId)
  | cls (id : ClassId)

def Invocation.run (depth : Nat) (arguments : List Value) : Invocation -> Exec Error Value
  | .checked callee line => invoke depth callee line arguments
  | .function id => do runClosure depth (← Exec.read (·.closure id)) arguments
  | .cls id => id.instantiate (runClosure depth) arguments

theorem Invocation.run_contained (depth : Nat) (arguments : List Value)
    (invocation : Invocation) (state : State) :
    ∃ changes, state.ContainedTo (invocation.run depth arguments state).2 changes := by
  cases invocation with
  | checked callee line => exact invoke_contained depth callee line arguments state
  | function id =>
      have orderly : (Invocation.run depth arguments (.function id)).Orderly (invoke depth)
          fun _ => False :=
        .bind (.read _) fun closure => Closure.call_orderly closure arguments
      exact orderly.contained (invoke_contained depth) state
  | cls id =>
      exact (ClassId.instantiate_orderly id arguments).contained (invoke_contained depth) state

/--
A call defines variables in new scopes only, and shares none of them with the calls that it
makes, nor do two of these.
-/
theorem calls_define_in_new_scopes (depth : Nat) :
    (∀ (invocation : Invocation) (arguments : List Value) (before after : State),
      after = (invocation.run depth arguments before).2 ->
      ∃ changes, after.heap = before.heap.replay changes ∧
        after.journal.toList = before.journal.toList ++ changes ∧
        (∀ scope name value, .define scope name value ∈ changes ->
          ¬ before.heap.Has (.scope scope) ∧ after.heap.Has (.scope scope)) ∧
        ∀ id, before.heap.Has (.scope id) ->
          (after.heap.scope id).vars.keys = (before.heap.scope id).vars.keys ∧
          ∀ name, (after.heap.scope id).vars.get? name = (before.heap.scope id).vars.get? name ∨
            ∃ value, .assign id name value ∈ changes ∧
              (after.heap.scope id).vars.get? name = some value) ∧
    (invoke depth).Contained ∧
    ∀ call : Caller, call.Contained ->
      ∀ (closure : Closure) (arguments : List Value) (before : State), ∃ deeds,
        (closure.call (Stmt.execAll call) arguments before).2 = before.follow call deeds ∧
        (∀ scope name value, .change (.define scope name value) ∈ deeds ->
          ¬ before.heap.Has (.scope scope)) ∧
        ∀ earlier first between second later,
          deeds = earlier ++ first :: between ++ second :: later ->
          first.IsCall ∨ second.IsCall ->
          ∀ scope, first.Defines call (before.follow call earlier) scope ->
            ¬ second.Defines call (before.follow call (earlier ++ first :: between)) scope := by
  refine ⟨?_, invoke_contained depth, ?_⟩
  · rintro invocation arguments before after rfl
    obtain ⟨changes, heap, journal, admitted⟩ :=
      invocation.run_contained depth arguments before
    refine ⟨changes, heap, journal, ?_, ?_⟩
    · intro scope name value made
      obtain ⟨held, has⟩ := admitted.define_mem (fun _ never => never.elim) made
      rw [heap]
      exact ⟨held.resolve_left not_false, has⟩
    · intro id has
      rw [heap]
      exact admitted.assigned has not_false
  · intro call contained closure arguments before
    have orderly : (closure.call (Stmt.execAll call) arguments).Orderly call fun _ => False :=
      Closure.call_orderly closure arguments
    obtain ⟨deeds, allowed, reached⟩ := orderly before
    have present : (Activation.mk before fun _ => False).Present := fun _ never => never.elim
    refine ⟨deeds, reached, ?_, ?_⟩
    · intro scope name value made has
      obtain ⟨earlier, later, rfl⟩ := List.append_of_mem made
      obtain ⟨_, mine, _⟩ := (Activation.allowsAll_append _ earlier _).mp allowed
      exact Activation.foreign_actAll contained has not_false earlier mine
    · rintro earlier first between second later rfl called scope defines
      exact Activation.calls_apart contained present allowed called defines

-- A function of one parameter and one local, which calls itself once.
def recursiveSession : Session :=
  Session.start.after [
    { operation := .newFunction {
        decl := .inline ⟨.identifier "f" 1, [.identifier "n" 1], [
          .define "y" (.var "n" 2),
          .cond (.var "n" 3) [.run (.call (.var "f" 4) [.const .nil] 4)] []]⟩ },
      storeAs := some "f" },
    { operation := .define globalsName "f" (.register "f") }]

theorem calls_define_in_new_scopes_recursive :
    let before : State := { heap := recursiveSession.heap }
    let after := (invoke 2 (.closure ⟨0⟩) 5 [.bool true] before).2
    before.heap.Has (.scope ⟨0⟩) ∧
      (before.heap.scope ⟨0⟩).vars.keys = ["f"] ∧
      (after.heap.scope ⟨0⟩).vars.keys = ["f"] ∧
      (after.heap.scope ⟨1⟩).vars.get? "y" = some (.bool true) ∧
      (after.heap.scope ⟨2⟩).vars.get? "y" = some .nil := by
  intro before after
  have has : before.heap.Has (.scope ⟨0⟩) := by decide +kernel
  have keys : (before.heap.scope ⟨0⟩).vars.keys = ["f"] := by decide +kernel
  obtain ⟨calls, _⟩ := calls_define_in_new_scopes 2
  obtain ⟨_, _, _, _, kept⟩ := calls (.checked (.closure ⟨0⟩) 5) [.bool true] before after rfl
  refine ⟨has, keys, ?_, by decide +kernel, by decide +kernel⟩
  rw [(kept ⟨0⟩ has).1, keys]

end Lox
