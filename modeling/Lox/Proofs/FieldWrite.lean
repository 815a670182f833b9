import Lox.Proofs.PropertyRead

set_option autoImplicit false

namespace Lox

inductive Property where
  | field (value : Value)
  | method (function : Closure)
  | missing

inductive Heap.Offers (heap : Heap) (object : InstanceId) (name : String) : Property -> Prop where
  | field {value : Value} :
      (heap.inst object).fields.get? name = some value -> Offers heap object name (.field value)
  | method {method : ClosureId} :
      (heap.inst object).fields.get? name = none ->
        heap.Ascent name (heap.inst object).cls (some method) ->
          Offers heap object name (.method (heap.closure method))
  | missing :
      (heap.inst object).fields.get? name = none ->
        heap.Ascent name (heap.inst object).cls none -> Offers heap object name .missing

/-- How a read from a state ends that finds this property, a method as a new function. -/
inductive Property.Read (object : InstanceId) (name : String) (line : Nat) (state : State) :
    Property -> Outcome Error Value × State -> Prop where
  | field {value : Value} {after : State} :
      after.heap = state.heap -> Read object name line state (.field value) (.done value, after)
  | method {function : Closure} {id : ClosureId} {after : State} :
      ¬ state.heap.Has (.closure id) -> after.heap.BoundMethod function object id ->
        Read object name line state (.method function) (.done (.closure id), after)
  | missing {after : State} :
      after.heap = state.heap ->
        Read object name line state .missing (.failed (.undefinedProperty name line), after)

theorem Heap.Offers.unique {heap : Heap} (formed : heap.WellFormed) {object : InstanceId}
    {name : String} {property other : Property} (offers : heap.Offers object name property)
    (others : heap.Offers object name other) : property = other := by
  cases offers with
  | field isField =>
      cases others with
      | field same => rw [Option.some.inj (isField.symm.trans same)]
      | method absent | missing absent => simp [absent] at isField
  | method absent ascent | missing absent ascent =>
      rw [formed.ascent_iff] at ascent
      cases others with
      | field isField => simp [absent] at isField
      | method _ again | missing _ again => simp_all [formed.ascent_iff]

namespace InstanceId

variable {object : InstanceId} {name : String} {state : State}

theorem read_field {value : Value}
    (isField : (state.heap.inst object).fields.get? name = some value) (line : Nat) :
    (Property.field value).Read object name line state (object.get name line state) := by
  obtain ⟨_, steps⟩ := get_field isField line
  rw [steps]
  exact .field rfl

section NoField

variable (absent : (state.heap.inst object).fields.get? name = none)

include absent

theorem read_method {method : ClosureId}
    (found : state.heap.findMethod (state.heap.inst object).cls name = some method) (line : Nat) :
    (Property.method (state.heap.closure method)).Read object name line state
      (object.get name line state) := by
  obtain ⟨_, _, steps⟩ := get_method absent found line
  rw [steps]
  exact .method (Nat.lt_irrefl _) (state.heap.boundMethod_withBound method object)

theorem read_missing
    (missing : state.heap.findMethod (state.heap.inst object).cls name = none) (line : Nat) :
    Property.missing.Read object name line state (object.get name line state) := by
  obtain ⟨_, steps⟩ := get_missing absent missing line
  rw [steps]
  exact .missing rfl

end NoField

end InstanceId

theorem InstanceId.reads_of_agree {first second : State} {object : InstanceId} {name : String}
    (formed : first.heap.WellFormed)
    (fields : (second.heap.inst object).fields.get? name =
      (first.heap.inst object).fields.get? name)
    (cls : (second.heap.inst object).cls = (first.heap.inst object).cls)
    (classes : ∀ id, second.heap.cls id = first.heap.cls id)
    (closures : ∀ id, second.heap.closure id = first.heap.closure id) :
    ∃ property, first.heap.Offers object name property ∧ ∀ line,
      property.Read object name line first (object.get name line first) ∧
      property.Read object name line second (object.get name line second) := by
  have methods : second.heap.findMethod (second.heap.inst object).cls name =
      first.heap.findMethod (first.heap.inst object).cls name := by
    rw [cls]
    exact Heap.findMethod_congr classes _ name
  cases field : (first.heap.inst object).fields.get? name with
  | some value =>
      refine ⟨.field value, .field field, fun line => ⟨InstanceId.read_field field line, ?_⟩⟩
      exact InstanceId.read_field (fields.trans field) line
  | none =>
      have absent := fields.trans field
      cases found : first.heap.findMethod (first.heap.inst object).cls name with
      | some method =>
          refine ⟨.method (first.heap.closure method),
            .method field (formed.ascent_iff.mpr found), fun line => ?_⟩
          refine ⟨InstanceId.read_method field found line, ?_⟩
          rw [← closures method]
          exact InstanceId.read_method absent (methods.trans found) line
      | none =>
          refine ⟨.missing, .missing field (formed.ascent_iff.mpr found), fun line => ?_⟩
          exact ⟨InstanceId.read_missing field found line,
            InstanceId.read_missing absent (methods.trans found) line⟩

namespace Heap

variable {heap : Heap} {object : InstanceId}

theorem field_setField (has : heap.Has (.inst object)) (name : String) (value : Value)
    (other : InstanceId) (query : String) :
    ((heap.setField object name value).inst other).fields.get? query =
      if other = object ∧ query = name then some value
      else (heap.inst other).fields.get? query := by
  have within : object.index < heap.instances.size := has
  rw [inst_setField]
  by_cases same : other = object <;> simp [same, within]

theorem class_setField (object : InstanceId) (name : String) (value : Value)
    (other : InstanceId) :
    ((heap.setField object name value).inst other).cls = (heap.inst other).cls := by
  rw [inst_setField]
  split
  · next hit => rw [hit.1]
  · rfl

end Heap

/--
A field that was written is read back, and every other property is read as it would have
been before.
-/
theorem field_write_exact (state : State) (reachable : state.heap.Reachable)
    (object : InstanceId) (has : state.heap.Has (.inst object)) (name : String) (value : Value) :
    ∃ after, (object.set name value : Exec Error Unit) state = (.done (), after) ∧
      (∀ line, (Property.field value).Read object name line after (object.get name line after)) ∧
      (∀ other query, ¬ (other = object ∧ query = name) ->
        ∃ property, state.heap.Offers other query property ∧ ∀ line,
          property.Read other query line state (other.get query line state) ∧
          property.Read other query line after (other.get query line after)) ∧
      after.heap.scopes = state.heap.scopes ∧
      after.heap.closures = state.heap.closures ∧
      after.heap.classes = state.heap.classes ∧
      after.heap.instances.size = state.heap.instances.size ∧
      (∀ other, (after.heap.inst other).cls = (state.heap.inst other).cls) ∧
      ∀ other query, (after.heap.inst other).fields.get? query =
        if other = object ∧ query = name then some value
        else (state.heap.inst other).fields.get? query := by
  have fields := Heap.field_setField has name value
  have classOf := @Heap.class_setField state.heap object name value
  refine ⟨_, object.set_apply name value state, ?_, ?_, rfl, rfl, rfl, ?_, classOf, fields⟩
  · intro line
    exact InstanceId.read_field (by simp [fields]) line
  · intro other query elsewhere
    refine InstanceId.reads_of_agree reachable.wellFormed ?_ (classOf other)
      (fun _ => rfl) (fun _ => rfl)
    rw [fields, if_neg elsewhere]
  · simp [Heap.setField]

-- Two instances of a class with a method, and the method bound to the first of them.
def sharedClassSession : Session :=
  Session.start.after [
    { operation := .newClass (some "A") none
        [some (.make { decl := .inline ⟨.identifier "m" 1, [.identifier "x" 1], []⟩ })],
      storeAs := some "A" },
    { operation := .newInstance "A", storeAs := some "o" },
    { operation := .newInstance "A" },
    { operation := .get "o" (.inline "m" 2) }]

theorem field_write_exact_hiding :
    let state : State := { heap := sharedClassSession.heap }
    let after := ((InstanceId.set ⟨0⟩ "m" (.closure ⟨1⟩) : Exec Error Unit) state).2
    state.heap.Has (.inst ⟨0⟩) ∧
      state.heap.lookup (state.heap.closure ⟨1⟩).scope receiverName = some (.inst ⟨0⟩) ∧
      (InstanceId.get ⟨0⟩ "m" 4 after).1 = .done (.closure ⟨1⟩) ∧
      ∃ function, (InstanceId.get ⟨1⟩ "m" 4 after).1 = .done (.closure function) ∧
        (InstanceId.get ⟨1⟩ "m" 4 after).2.heap.BoundMethod (state.heap.closure ⟨0⟩) ⟨1⟩
          function := by
  intro state after
  have has : state.heap.Has (.inst ⟨0⟩) := by decide +kernel
  have reachable : state.heap.Reachable := Session.reachable_after _
  have formed := reachable.wellFormed
  have noField : (state.heap.inst ⟨1⟩).fields.get? "m" = none := by decide +kernel
  have found : state.heap.findMethod (state.heap.inst ⟨1⟩).cls "m" = some ⟨0⟩ := by
    decide +kernel
  obtain ⟨written, steps, back, others, _⟩ :=
    field_write_exact state reachable ⟨0⟩ has "m" (.closure ⟨1⟩)
  have same : after = written := congrArg Prod.snd steps
  subst same
  refine ⟨has, by decide +kernel, ?_, ?_⟩
  · have read := back 4
    generalize InstanceId.get ⟨0⟩ "m" 4 after = ended at read ⊢
    cases read
    rfl
  · obtain ⟨property, offered, reads⟩ := others ⟨1⟩ "m" (by decide)
    have isMethod : property = .method (state.heap.closure ⟨0⟩) :=
      offered.unique formed (.method noField (formed.ascent_iff.mpr found))
    have read := (reads 4).2
    rw [isMethod] at read
    generalize InstanceId.get ⟨1⟩ "m" 4 after = ended at read ⊢
    cases read with
    | method _ bound => exact ⟨_, rfl, bound⟩

end Lox
