import Lox.Proofs.PropertyRead
import Lox.Proofs.Shadowing

set_option autoImplicit false

namespace Lox

namespace Heap

structure Beside (heap : Heap) (scope other : ScopeId) : Prop where
  formed : heap.WellFormed
  has : heap.Has (.scope scope)
  otherHas : heap.Has (.scope other)
  differ : scope ≠ other
  enclosing : (heap.scope other).enclosing = (heap.scope scope).enclosing

variable {heap later : Heap} {name : String} {scope other outer reader holder : ScopeId}

theorem Inside.has (inside : heap.Inside scope outer) (has : heap.Has (.scope outer)) :
    heap.Has (.scope scope) := by
  cases inside with
  | here => exact has
  | outward link _ =>
      by_contra absent
      rw [scope_absent absent] at link
      cases link

theorem Unshadowed.inside_of_held (unshadowed : heap.Unshadowed name scope holder)
    (inside : heap.Inside scope outer) (held : (heap.scope outer).vars.contains name) :
    heap.Inside holder outer := by
  induction unshadowed with
  | here => exact inside
  | outward link absent _ ih =>
      cases inside with
      | here => exact absurd held absent
      | outward again onward =>
          have same := Option.some.inj (link.symm.trans again)
          subst same
          exact ih onward

namespace Beside

variable (beside : heap.Beside scope other)

include beside

theorem symm : heap.Beside other scope :=
  ⟨beside.formed, beside.otherHas, beside.has, beside.differ.symm, beside.enclosing.symm⟩

theorem disjoint (id : ScopeId) : ¬ (heap.Inside id scope ∧ heap.Inside id other) := by
  rintro ⟨first, second⟩
  rcases first.linear second with inside | inside
  · exact inside.apart beside.formed beside.differ beside.enclosing
  · exact inside.apart beside.formed beside.symm.differ beside.symm.enclosing

theorem of_frozen (frozen : heap.Frozen later) (formed : later.WellFormed) :
    later.Beside scope other where
  formed := formed
  has := frozen.has _ beside.has
  otherHas := frozen.has _ beside.otherHas
  differ := beside.differ
  enclosing := by
    rw [frozen.enclosing _ beside.has, frozen.enclosing _ beside.otherHas, beside.enclosing]

theorem unseen (held : (heap.scope scope).vars.contains name)
    (reads : heap.Inside reader scope) (written : heap.Inside holder other) :
    ¬ heap.Unshadowed name reader holder :=
  fun seen => beside.disjoint holder ⟨seen.inside_of_held reads held, written⟩

theorem holder?_eq_of_absent (absent : ¬ (heap.scope scope).vars.contains name)
    (otherAbsent : ¬ (heap.scope other).vars.contains name) :
    heap.holder? other name = heap.holder? scope name := by
  rw [holder?_eq, if_neg otherAbsent, holder?_eq heap scope, if_neg absent,
    beside.formed.enclosing?_eq, beside.formed.enclosing?_eq, beside.enclosing]

end Beside

theorem WellFormed.lookup_copy (formed : heap.WellFormed)
    (same : heap.scope other = heap.scope scope) (name : String) :
    heap.lookup other name = heap.lookup scope name := by
  rw [lookup, holder?_eq, lookup, holder?_eq heap scope, formed.enclosing?_eq,
    formed.enclosing?_eq, same]
  by_cases present : (heap.scope scope).vars.contains name
  · simp [present, same]
  · simp [present]

end Heap

inductive ScopeAction where
  | create (enclosing : Option ScopeId)
  | clone (scope : ScopeId)
  | bind (method : ClosureId) (receiver : InstanceId)
  | define (scope : ScopeId) (name : String) (value : Value)
  | assign (scope : ScopeId) (name : String) (value : Value) (line : Nat)
  | call (depth : Nat) (callee : Value) (line : Nat) (arguments : List Value)

namespace ScopeAction

def run : ScopeAction -> Exec Error Unit
  | .create enclosing => do let _ ← ScopeId.create enclosing
  | .clone scope => do let _ ← scope.clone
  | .bind method receiver => do let _ ← method.bindTo receiver
  | .define scope name value => scope.define name value
  | .assign scope name value line => scope.assign name value line
  | .call depth callee line arguments => do let _ ← invoke depth callee line arguments

instance : Refers ScopeAction :=
  ⟨fun
    | .create enclosing => Refers.links enclosing
    | .clone scope => Refers.links scope
    | .bind method receiver => fun target =>
        Refers.links method target ∨ Refers.links receiver target
    | .define scope _ value | .assign scope _ value _ => fun target =>
        Refers.links scope target ∨ Refers.links value target
    | .call _ callee _ arguments => Refers.links (callee :: arguments)⟩

theorem run_confined {world : World} (owned : ∀ id, world.known (.scope id) -> world.own id)
    {action : ScopeAction} (known : world.Knows action) : action.run.Confined world := by
  have ended (later : World) : (pure () : Exec Error Unit).Confined later :=
    .pure (World.knows_unit ())
  cases action with
  | create enclosing =>
      exact .bind (ScopeId.create_confined known) fun _ _ _ _ => ended _
  | clone scope =>
      exact .bind (ScopeId.clone_confined (known _ rfl)) fun _ _ _ _ => ended _
  | bind method receiver =>
      exact .bind (ClosureId.bindTo_confined (known _ (.inl rfl)) (known _ (.inr rfl)))
        fun _ _ _ _ => ended _
  | define scope name value =>
      exact ScopeId.define_confined (owned _ (known _ (.inl rfl))) fun target link =>
        known target (.inr link)
  | assign scope name value line =>
      exact ScopeId.assign_confined (known _ (.inl rfl)) fun target link =>
        known target (.inr link)
  | call depth callee line arguments =>
      have ⟨calleeKnown, argumentsKnown⟩ := (World.knows_cons _ _).mp known
      exact .bind (invoke_confined depth world callee line arguments calleeKnown argumentsKnown)
        fun _ _ _ _ => ended _

end ScopeAction

/-- States that actions lead to, one after the other, each on objects that are there by then. -/
inductive State.Precedes (before : State) : State -> Prop where
  | refl : Precedes before before
  | step {state : State} (action : ScopeAction) : Precedes before state ->
      (∀ target, Refers.links action target -> state.heap.Has target) ->
        Precedes before (action.run state).2

theorem World.PermitsAll.wellFormed {world : World} (closed : world.Closed)
    (formed : world.heap.WellFormed) {changes : List Change}
    (permitted : world.PermitsAll changes) : (world.heap.replay changes).WellFormed := by
  induction changes generalizing world with
  | nil => exact formed
  | cons change rest ih =>
      have within : world.Within (World.ofHeap world.heap world.own) :=
        ⟨closed.present, fun _ own => own⟩
      have present (id : ScopeId) (own : world.own id) : world.heap.Has (.scope id) :=
        closed.present _ (closed.ownKnown id own)
      have allowed : (World.ofHeap world.heap world.own).Permits change :=
        permitted.1.mono (by rfl) within
      exact ih (closed.apply permitted.1) (formed.apply present allowed) permitted.2

theorem State.Precedes.replays {before after : State} (precedes : before.Precedes after)
    (formed : before.heap.WellFormed) :
    after.heap.WellFormed ∧ ∃ changes, after.heap = before.heap.replay changes := by
  induction precedes with
  | refl => exact ⟨formed, [], rfl⟩
  | @step state action _ present ih =>
      obtain ⟨formed, earlier, replayed⟩ := ih
      let world := World.ofHeap state.heap fun id => state.heap.Has (.scope id)
      have closed : world.Closed := ⟨fun _ has => has, formed.linked, fun _ has => has⟩
      have confined : action.run.Confined world :=
        ScopeAction.run_confined (fun _ has => has) present
      obtain ⟨changes, permitted, heap, _, _⟩ := confined closed state rfl
      rw [heap]
      refine ⟨permitted.wellFormed closed formed, earlier ++ changes, ?_⟩
      rw [Heap.replay_append, ← replayed]
      rfl

theorem ScopeId.clone_apply {ε : Type} (scope : ScopeId) (state : State) :
    ∃ log journal, (scope.clone : Exec ε ScopeId) state = (.done state.heap.nextScope,
      { heap := state.heap.apply (.newScope (state.heap.scope scope)), log, journal }) :=
  ⟨_, _, rfl⟩

theorem Heap.WellFormed.beside_copy {heap : Heap} (formed : heap.WellFormed) {scope : ScopeId}
    (has : heap.Has (.scope scope)) :
    (heap.apply (.newScope (heap.scope scope))).Beside scope heap.nextScope where
  formed := formed.apply (fun _ never => never.elim) (formed.closed.scope has)
  has := (has_apply ..).mpr (.inl has)
  otherHas := (has_apply ..).mpr (.inr rfl)
  differ := ne_nextScope has
  enclosing := by simp [scope_apply, ne_nextScope has]

def ScopeId.ReadsAlike (reader : ScopeId) (name : String) (state after : State) : Prop :=
  after.heap.holder? reader name = state.heap.holder? reader name ∧
    ∀ line, (reader.lookup name line after).1 = (reader.lookup name line state).1

/-- A write of the name from inside of one scope is not seen from inside of the other. -/
def State.Shields (state : State) (name : String) (own other : ScopeId) : Prop :=
  ∀ reader writer, state.heap.Inside reader own -> state.heap.Inside writer other ->
    ∀ value line,
      reader.ReadsAlike name state ((writer.define name value : Exec Error Unit) state).2 ∧
      reader.ReadsAlike name state (writer.assign name value line state).2

/-- What is assigned to the name through one scope is what a lookup through the other gives. -/
def State.Shares (state : State) (name : String) (own other : ScopeId) : Prop :=
  ∀ value line after, own.assign name value line state = (.done (), after) ->
    ∀ place, (other.lookup name place after).1 = .done value

namespace Heap.Beside

variable {state : State} {name : String} {scope other : ScopeId}
  (beside : state.heap.Beside scope other)

include beside

theorem readsAlike_define (held : (state.heap.scope scope).vars.contains name)
    {reader writer : ScopeId} (reads : state.heap.Inside reader scope)
    (written : state.heap.Inside writer other) (value : Value) (log : Array Event)
    (journal : Array Change) :
    reader.ReadsAlike name state ⟨state.heap.define writer name value, log, journal⟩ := by
  have has := written.has beside.otherHas
  have unseen : ¬ (name = name ∧ state.heap.Unshadowed name reader writer) :=
    fun seen => beside.unseen held reads written seen.2
  refine ⟨Heap.holder?_define_unseen value has beside.formed unseen, fun line => ?_⟩
  rw [ScopeId.lookup_result, ScopeId.lookup_result,
    Heap.lookup_define_unseen value has beside.formed unseen]

theorem shields (held : (state.heap.scope scope).vars.contains name)
    (otherHeld : (state.heap.scope other).vars.contains name) :
    state.Shields name scope other := by
  intro reader writer reads writes value line
  constructor
  · obtain ⟨_, _, steps⟩ := @ScopeId.define_apply Error writer name value state
    rw [steps]
    exact beside.readsAlike_define held reads writes ..
  · rw [ScopeId.assign_apply]
    cases found : state.heap.holder? writer name with
    | none =>
        refine ⟨rfl, fun place => ?_⟩
        rw [ScopeId.lookup_result, ScopeId.lookup_result]
        rfl
    | some holder =>
        -- The variable assigned to is no further out than the one that the copied scope has.
        have written : state.heap.Inside holder other :=
          (beside.formed.unshadowed_of_holder? found).inside_of_held writes otherHeld
        exact beside.readsAlike_define held reads written ..

theorem shares (absent : ¬ (state.heap.scope scope).vars.contains name)
    (otherAbsent : ¬ (state.heap.scope other).vars.contains name) :
    state.Shares name scope other := by
  intro value line after assigned place
  rw [ScopeId.assign_apply] at assigned
  cases found : state.heap.holder? scope name with
  | none =>
      rw [found] at assigned
      cases assigned
  | some holder =>
      rw [found] at assigned
      cases assigned
      have same := beside.holder?_eq_of_absent absent otherAbsent
      have seen := beside.formed.unshadowed_of_holder? (same.trans found)
      have has := beside.formed.holder?_has beside.has found
      rw [ScopeId.lookup_result, Heap.lookup_define_seen value has beside.formed seen]

end Heap.Beside

/--
A copy is kept apart from the original in the names that were copied, and shares with it
those that neither has as its own.
-/
theorem scope_copy_independent (state : State) (reachable : state.heap.Reachable)
    (scope : ScopeId) (has : state.heap.Has (.scope scope)) :
    ∃ copy copied, (scope.clone : Exec Error ScopeId) state = (.done copy, copied) ∧
      ¬ state.heap.Has (.scope copy) ∧
      (∀ name line, (copy.lookup name line copied).1 = (scope.lookup name line copied).1 ∧
        (scope.lookup name line copied).1 = (scope.lookup name line state).1) ∧
      ∀ later, copied.Precedes later ->
        (∀ id, ¬ (later.heap.Inside id scope ∧ later.heap.Inside id copy)) ∧
        (∀ name, (state.heap.scope scope).vars.contains name ->
          later.Shields name scope copy ∧ later.Shields name copy scope) ∧
        ∀ name, ¬ (later.heap.scope scope).vars.contains name ->
          ¬ (later.heap.scope copy).vars.contains name ->
            (∀ holder, later.heap.Nearest name scope holder <->
              later.heap.Nearest name copy holder) ∧
            later.Shares name scope copy ∧ later.Shares name copy scope := by
  have formed := reachable.wellFormed
  have created := formed.beside_copy has
  obtain ⟨log, journal, steps⟩ := @ScopeId.clone_apply Error scope state
  refine ⟨_, _, steps, Nat.lt_irrefl _, fun name line => ⟨?_, ?_⟩, fun later precedes => ?_⟩
  · rw [ScopeId.lookup_result, ScopeId.lookup_result, created.formed.lookup_copy]
    simp [Heap.scope_apply, Heap.ne_nextScope has]
  · rw [ScopeId.lookup_result, ScopeId.lookup_result,
      (Heap.Keeps.of_created rfl).lookup formed has name]
  · obtain ⟨formedLater, changes, replayed⟩ := precedes.replays created.formed
    have outlasts : later.heap.Outlasts _ := replayed ▸ Heap.outlasts_replay _ changes
    have beside := created.of_frozen outlasts.frozen formedLater
    refine ⟨beside.disjoint, fun name held => ?_, fun name absent copyAbsent => ?_⟩
    · have here := outlasts.vars scope name created.has (by
        simpa [Heap.scope_apply, Heap.ne_nextScope has] using held)
      have there := outlasts.vars _ name created.otherHas (by
        simpa [Heap.scope_apply] using held)
      exact ⟨beside.shields here there, beside.symm.shields there here⟩
    · refine ⟨fun holder => ?_, beside.shares absent copyAbsent,
        beside.symm.shares copyAbsent absent⟩
      rw [← formedLater.holder?_eq_some_iff, ← formedLater.holder?_eq_some_iff,
        beside.holder?_eq_of_absent absent copyAbsent]

-- A scope with a variable of its own, inside of the global scope that has another one.
def localSession : Session :=
  Session.start.after [
    { operation := .define globalsName "x" (.text "around") },
    { operation := .newScope (some globalsName), storeAs := some "s" },
    { operation := .define "s" "y" (.text "own") }]

theorem scope_copy_independent_inside :
    let state : State := { heap := localSession.heap }
    let copied := ((ScopeId.clone ⟨1⟩ : Exec Error ScopeId) state).2
    let later := ((ScopeAction.create (some ⟨2⟩)).run copied).2
    let apart := (ScopeId.assign ⟨3⟩ "y" (.text "new") 4 later).2
    let shared := (ScopeId.assign ⟨2⟩ "x" (.text "new") 4 later).2
    state.heap.Has (.scope ⟨1⟩) ∧ copied.Precedes later ∧
      (ScopeId.lookup ⟨2⟩ "y" 5 apart).1 = .done (.text "new") ∧
      (ScopeId.lookup ⟨1⟩ "y" 5 apart).1 = .done (.text "own") ∧
      (ScopeId.lookup ⟨1⟩ "x" 5 shared).1 = .done (.text "new") := by
  intro state copied later apart shared
  have has : state.heap.Has (.scope ⟨1⟩) := by decide +kernel
  have precedes : copied.Precedes later := by
    refine .step (.create (some ⟨2⟩)) .refl ?_
    rintro _ ⟨_, ⟨⟩, rfl⟩
    decide +kernel
  obtain ⟨copy, after, steps, _, _, independent⟩ :=
    scope_copy_independent state (Session.reachable_after _) ⟨1⟩ has
  have isCopy : copy = ⟨2⟩ :=
    Outcome.done.inj ((congrArg Prod.fst steps).symm.trans (by decide +kernel))
  have isAfter : copied = after := congrArg Prod.snd steps
  subst isCopy isAfter
  obtain ⟨_, kept, shares⟩ := independent later precedes
  refine ⟨has, precedes, by decide +kernel, ?_, ?_⟩
  · have inside : later.heap.Inside ⟨3⟩ ⟨2⟩ := .outward (by decide +kernel) .here
    have same := ((kept "y" (by decide +kernel)).1 ⟨1⟩ ⟨3⟩ .here inside (.text "new") 4).2
    rw [same.2 5]
    decide +kernel
  · have done : (ScopeId.assign ⟨2⟩ "x" (.text "new") 4 later).1 = .done () := by
      decide +kernel
    exact (shares "x" (by decide +kernel) (by decide +kernel)).2.2 (.text "new") 4 shared
      (Prod.ext done rfl) 5

end Lox
