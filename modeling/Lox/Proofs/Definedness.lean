import Lox.Proofs.BoundScope
import Lox.Proofs.Frozen

set_option autoImplicit false

namespace Lox

/-- The value that was stored in a field of an instance last in the course of a journal. -/
def StoredLast (journal : List Change) (object : InstanceId) (name : String)
    (value : Value) : Prop :=
  ∃ before after, journal = before ++ .setField object name value :: after ∧
    ∀ other, .setField object name other ∉ after

namespace Heap

variable {heap later : Heap}

theorem contains_apply {id : ScopeId} {name : String} (has : heap.Has (.scope id))
    (present : (heap.scope id).vars.contains name) (change : Change) :
    ((heap.apply change).scope id).vars.contains name := by
  rw [scope_apply]
  cases change with
  | newScope | bindScope => simpa only [if_neg (ne_nextScope has)] using present
  | define scope other value | assign scope other value =>
      dsimp only
      split
      · next hit => simp [← hit.1, present]
      · exact present
  | newClosure | newClass | newInstance | setField => exact present

theorem field_apply {id : InstanceId} {name : String} (has : heap.Has (.inst id))
    (present : (heap.inst id).fields.contains name) (change : Change) :
    ((heap.apply change).inst id).fields.contains name := by
  rw [inst_apply]
  cases change with
  | newInstance cls => simpa only [if_neg (ne_nextInstance has)] using present
  | setField object other value =>
      dsimp only
      split
      · next hit => simp [← hit.1, present]
      · exact present
  | newScope | bindScope | newClosure | newClass | define | assign => exact present

structure Outlasts (later heap : Heap) : Prop where
  frozen : heap.Frozen later
  vars : ∀ id name, heap.Has (.scope id) ->
    (heap.scope id).vars.contains name -> (later.scope id).vars.contains name
  fields : ∀ id name, heap.Has (.inst id) ->
    (heap.inst id).fields.contains name -> (later.inst id).fields.contains name

theorem outlasts_replay (heap : Heap) (changes : List Change) :
    (heap.replay changes).Outlasts heap := by
  induction changes generalizing heap with
  | nil => exact ⟨.refl heap, fun _ _ _ present => present, fun _ _ _ present => present⟩
  | cons change rest ih =>
      have step := Frozen.apply heap change
      have more := ih (heap.apply change)
      refine ⟨step.trans more.frozen, ?_, ?_⟩
      · intro id name has present
        exact more.vars id name (step.has _ has) (contains_apply has present change)
      · intro id name has present
        exact more.fields id name (step.has _ has) (field_apply has present change)

theorem isSome_lookup (heap : Heap) (id : ScopeId) (name : String) :
    (heap.lookup id name).isSome = (heap.holder? id name).isSome := by
  unfold lookup
  cases held : heap.holder? id name with
  | none => rfl
  | some holder => exact holder?_contains held

theorem Outlasts.holder? (outlasts : later.Outlasts heap) (formed : heap.WellFormed)
    {id : ScopeId} {name : String} (has : heap.Has (.scope id))
    (held : (heap.holder? id name).isSome) : (later.holder? id name).isSome := by
  fun_induction Heap.holder? heap id name with
  | case1 id present =>
      rw [holder?_here (outlasts.vars id name has present)]
      rfl
  | case2 id absent parent link ih =>
      have outward : (heap.scope id).enclosing = some parent := by
        rwa [formed.enclosing?_eq] at link
      have parentHas : heap.Has (.scope parent) :=
        formed.linked (.scope id) _ has (.inl ⟨parent, outward, rfl⟩)
      have linkAfter : later.enclosing? id = some parent := by
        rw [enclosing?, outlasts.frozen.enclosing id has]
        exact link
      -- The name may have been defined here by now, and hides the one further out.
      by_cases shadowed : (later.scope id).vars.contains name
      · rw [holder?_here shadowed]
        rfl
      · rw [holder?_outward shadowed linkAfter]
        exact ih parentHas held
  | case3 id absent link => cases held

end Heap

theorem StoredLast.snoc {journal : List Change} {change : Change} {object : InstanceId}
    {name : String} {value : Value} (stored : StoredLast journal object name value)
    (elsewhere : ∀ other, change ≠ .setField object name other) :
    StoredLast (journal ++ [change]) object name value := by
  obtain ⟨before, after, rfl, last⟩ := stored
  refine ⟨before, after ++ [change], by simp, ?_⟩
  intro other made
  rcases List.mem_append.mp made with earlier | now
  · exact last other earlier
  · exact elsewhere other (List.mem_singleton.mp now).symm

theorem Lawful.field_stored {own : List Change -> ScopeId -> Prop} {journal : List Change}
    (lawful : Lawful own journal) {object : InstanceId} {name : String} {value : Value}
    (found : ((Heap.ofJournal journal).inst object).fields.get? name = some value) :
    StoredLast journal object name value := by
  induction lawful with
  | nil => cases found
  | @snoc journal change lawful permitted ih =>
      rw [Heap.ofJournal_snoc, Heap.inst_apply] at found
      cases change with
      | newInstance cls =>
          dsimp only at found
          split at found
          · cases found
          · exact (ih found).snoc (by simp)
      | setField target field stored =>
          dsimp only at found
          split at found
          · next hit =>
              rw [Bindings.get?_insert] at found
              split at found
              · next same =>
                  rw [hit.1, same, Option.some.inj found]
                  exact ⟨journal, [], rfl, by simp⟩
              · next differs =>
                  refine (ih (hit.1 ▸ found)).snoc ?_
                  rintro other isSet
                  cases isSet
                  exact differs rfl
          · next miss =>
              -- The instance that the field is set on is there, so it is another one.
              refine (ih found).snoc ?_
              rintro other isSet
              cases isSet
              exact miss ⟨rfl, permitted.1⟩
      | newScope | bindScope | newClosure | newClass | define | assign =>
          exact (ih found).snoc (by simp)

theorem ClassId.boundMethod_result (cls : ClassId) (name : String) (receiver : InstanceId)
    (line : Nat) (state : State) :
    (cls.boundMethod name receiver line state).1 =
      match state.heap.findMethod cls name with
      | some _ => .done (.closure state.heap.nextClosure)
      | none => .failed (.undefinedProperty name line) := by
  simp only [ClassId.boundMethod, ClassId.findMethod, bind_assoc, Exec.read_bind,
    Exec.logAll_bind]
  cases state.heap.findMethod cls name with
  | none => rfl
  | some method => rfl

theorem InstanceId.get_apply (object : InstanceId) (name : String) (line : Nat)
    (state : State) :
    object.get name line state =
      match (state.heap.inst object).fields.get? name with
      | some value =>
          (.done value, { state with
            log := state.log.push (.fieldRead name (state.heap.display value)) })
      | none => (state.heap.inst object).cls.boundMethod name object line state := by
  simp only [InstanceId.get, Exec.read_bind]
  cases (state.heap.inst object).fields.get? name with
  | none => rfl
  | some value => rfl

theorem InstanceId.get_succeeds_iff (object : InstanceId) (name : String) (line : Nat)
    (state : State) :
    (∃ value, (object.get name line state).1 = .done value) <->
      (state.heap.inst object).fields.contains name ∨
        (state.heap.findMethod (state.heap.inst object).cls name).isSome := by
  rw [InstanceId.get_apply, Bindings.contains]
  cases (state.heap.inst object).fields.get? name with
  | some value => simp
  | none =>
      dsimp only
      rw [ClassId.boundMethod_result]
      cases state.heap.findMethod (state.heap.inst object).cls name with
      | none => simp
      | some method => simp

theorem ScopeId.lookup_succeeds_iff (scope : ScopeId) (name : String) (line : Nat)
    (state : State) :
    (∃ value, (scope.lookup name line state).1 = .done value) <->
      (state.heap.holder? scope name).isSome := by
  rw [ScopeId.lookup_apply, ← Heap.isSome_lookup]
  cases state.heap.lookup scope name with
  | some value => simp
  | none =>
      have fails : ((Exec.raise (.undefinedVariable name line) : Exec Error Value) state).1 =
          .failed (.undefinedVariable name line) := rfl
      simp [fails]

theorem InstanceId.set_apply {ε : Type} (object : InstanceId) (name : String) (value : Value)
    (state : State) :
    (object.set name value : Exec ε Unit) state =
      (.done (), {
        heap := state.heap.setField object name value
        log := state.log.push (.fieldSet object name value (state.heap.display value))
        journal := state.journal.push (.setField object name value) }) := rfl

/--
What has a meaning somewhere has one there for ever, though maybe another one, and a field
holds what was stored last.
-/
theorem Session.Run.definedness_lasts {journal : List Change} {session : Session}
    (run : Session.Run (fun _ _ _ => True) journal session) :
    (∀ (ε : Type) (object : InstanceId) (name : String) (value : Value) (state : State),
      ∃ log, (object.set name value : Exec ε Unit) state =
        (.done (), {
          heap := state.heap.setField object name value
          log
          journal := state.journal.push (.setField object name value) })) ∧
    session.heap = .ofJournal journal ∧
    ∀ earlier later, earlier <+: later -> later <+: journal ->
    ∀ before after : State, before.heap = .ofJournal earlier -> after.heap = .ofJournal later ->
      (∀ scope name line, before.heap.Has (.scope scope) ->
        (∃ value, (scope.lookup name line before).1 = .done value) ->
          ∀ line, ∃ value, (scope.lookup name line after).1 = .done value) ∧
      (∀ object name line, before.heap.Has (.inst object) ->
        (∃ value, (object.get name line before).1 = .done value) ->
          ∀ line, ∃ value, (object.get name line after).1 = .done value) ∧
      ∀ object name, before.heap.Has (.inst object) ->
        name ∈ (before.heap.inst object).fields.keys ->
          name ∈ (after.heap.inst object).fields.keys ∧
          ∃ value, StoredLast later object name value ∧
            ∀ line, object.get name line after =
              (.done value, { after with
                log := after.log.push (.fieldRead name (after.heap.display value)) }) := by
  refine ⟨fun ε object name value state => ⟨_, object.set_apply name value state⟩,
    run.everyScope_sound.heap, ?_⟩
  intro earlier later begins within before after isEarlier isLater
  have formed : before.heap.WellFormed := isEarlier ▸ run.wellFormed (begins.trans within)
  have outlasts : after.heap.Outlasts before.heap := by
    obtain ⟨more, rfl⟩ := begins
    rw [isLater, isEarlier, Heap.ofJournal_append]
    exact Heap.outlasts_replay _ more
  refine ⟨?_, ?_, ?_⟩
  · intro scope name line has readable line
    rw [ScopeId.lookup_succeeds_iff] at readable ⊢
    exact outlasts.holder? formed has readable
  · intro object name line has readable line
    rw [InstanceId.get_succeeds_iff] at readable ⊢
    have classHas : before.heap.Has (.cls (before.heap.inst object).cls) :=
      formed.linked (.inst object) _ has (.inl rfl)
    rw [outlasts.frozen.instanceClass object has,
      outlasts.frozen.findMethod formed classHas]
    exact readable.imp_left (outlasts.fields object name has)
  · intro object name has isField
    rw [Bindings.mem_keys_iff] at isField ⊢
    have stays := outlasts.fields object name has isField
    obtain ⟨value, found⟩ := Option.isSome_iff_exists.mp stays
    have lawful := run.everyScope_sound.lawful.of_begins within
    refine ⟨stays, value, lawful.field_stored (isLater ▸ found), ?_⟩
    intro line
    rw [InstanceId.get_apply, found]

-- A field that hides a method, set again by a function that gets the instance as an argument.
def overwritingRequests : List Request :=
  shadowingRequests ++ [
    { operation := .newFunction {
        decl := .inline ⟨.identifier "f" 1, [.identifier "x" 1],
          [.set (.var "x" 2) "m" (.const (.text "again")) 2]⟩ },
      storeAs := some "f" },
    { operation := .call (.register "f") [.register "o"] 3 }]

theorem Session.Run.definedness_lasts_overwritten :
    let before : State := { heap := (Session.start.after shadowingRequests).heap }
    let after : State := { heap := (Session.start.after overwritingRequests).heap }
    ("m" ∈ (before.heap.inst ⟨0⟩).fields.keys ∧
      (before.heap.inst ⟨0⟩).fields.get? "m" = some (.text "field")) ∧
    "m" ∈ (after.heap.inst ⟨0⟩).fields.keys ∧
      ∀ line, (InstanceId.get ⟨0⟩ "m" line after).1 = .done (.text "again") := by
  intro before after
  have begun : Session.Run (fun _ _ _ => True) [] Session.start := .start
  obtain ⟨_, shadowed⟩ := begun.after shadowingRequests
  have made := Session.Run.perform maxDepth overwritingRequests[4] shadowed trivial
  have run := Session.Run.perform maxDepth overwritingRequests[5] made trivial
  obtain ⟨_, same, points⟩ := Session.Run.definedness_lasts run
  obtain ⟨_, _, fields⟩ :=
    points _ _ ((List.prefix_append _ _).trans (List.prefix_append _ _)) List.prefix_rfl
      before after shadowed.everyScope_sound.heap same
  have isField : "m" ∈ (before.heap.inst ⟨0⟩).fields.keys := by decide +kernel
  have object : before.heap.Has (.inst ⟨0⟩) := by decide +kernel
  have written : (after.heap.inst ⟨0⟩).fields.get? "m" = some (.text "again") := by
    decide +kernel
  obtain ⟨stays, value, _, reads⟩ := fields ⟨0⟩ "m" object isField
  have latest : value = .text "again" := by
    have read := reads 0
    rw [InstanceId.get_apply, written] at read
    exact (Outcome.done.inj (congrArg Prod.fst read)).symm
  refine ⟨⟨isField, by decide +kernel⟩, stays, ?_⟩
  intro line
  rw [reads line, latest]

end Lox
