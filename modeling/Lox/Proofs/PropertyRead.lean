import Lox.Proofs.Assignment
import Lox.Proofs.Initializer

set_option autoImplicit false

namespace Lox

namespace Heap

/-- All objects of a heap are there later, and are exactly as they were. -/
structure Keeps (heap later : Heap) : Prop where
  has : ∀ handle, heap.Has handle -> later.Has handle
  scope : ∀ id, heap.Has (.scope id) -> later.scope id = heap.scope id
  closure : ∀ id, heap.Has (.closure id) -> later.closure id = heap.closure id
  cls : ∀ id, heap.Has (.cls id) -> later.cls id = heap.cls id
  inst : ∀ id, heap.Has (.inst id) -> later.inst id = heap.inst id

/--
A function that is a method with a receiver: it runs the same body in a scope
that holds the receiver and nothing else, inside the scope of the method.
-/
structure BoundMethod (heap : Heap) (method : Closure) (receiver : InstanceId)
    (function : ClosureId) : Prop where
  has : heap.Has (.closure function)
  scopeHas : heap.Has (.scope (heap.closure function).scope)
  decl : (heap.closure function).decl = method.decl
  arity : (heap.closure function).arity = method.arity
  isInitializer : (heap.closure function).isInitializer = method.isInitializer
  vars : (heap.scope (heap.closure function).scope).vars.entries = [(receiverName, .inst receiver)]
  enclosing : (heap.scope (heap.closure function).scope).enclosing = some method.scope

namespace Keeps

variable {heap later : Heap}

theorem refl (heap : Heap) : heap.Keeps heap :=
  ⟨fun _ has => has, fun _ _ => rfl, fun _ _ => rfl, fun _ _ => rfl, fun _ _ => rfl⟩

theorem trans {latest : Heap} (first : heap.Keeps later) (second : later.Keeps latest) :
    heap.Keeps latest where
  has handle present := second.has handle (first.has handle present)
  scope id has := (second.scope id (first.has _ has)).trans (first.scope id has)
  closure id has := (second.closure id (first.has _ has)).trans (first.closure id has)
  cls id has := (second.cls id (first.has _ has)).trans (first.cls id has)
  inst id has := (second.inst id (first.has _ has)).trans (first.inst id has)

theorem of_created {change : Change} {handle : Handle}
    (creates : change.created? heap = some handle) : heap.Keeps (heap.apply change) where
  has := (Frozen.apply heap change).has
  scope id has := by
    rw [scope_apply]
    cases change with
    | newScope | bindScope => exact if_neg (ne_nextScope has)
    | newClosure | newClass | newInstance => rfl
    | define | assign | setField => cases creates
  closure := (Frozen.apply heap change).closure
  cls := (Frozen.apply heap change).cls
  inst id has := by
    rw [inst_apply]
    cases change with
    | newInstance => exact if_neg (ne_nextInstance has)
    | newScope | bindScope | newClosure | newClass => rfl
    | define | assign | setField => cases creates

theorem withBound (heap : Heap) (method : ClosureId) (receiver : InstanceId) :
    heap.Keeps (heap.withBound method receiver) :=
  (of_created rfl).trans (of_created rfl)

section Consequences

variable (keeps : heap.Keeps later)

include keeps

theorem frozen : heap.Frozen later where
  has := keeps.has
  cls := keeps.cls
  closure := keeps.closure
  instanceClass id has := congrArg Instance.cls (keeps.inst id has)
  enclosing id has := congrArg Scope.enclosing (keeps.scope id has)

theorem lookup (formed : heap.WellFormed) {id : ScopeId} (has : heap.Has (.scope id))
    (name : String) : later.lookup id name = heap.lookup id name := by
  have held : later.holder? id name = heap.holder? id name :=
    keeps.frozen.holder? formed (fun other has => by rw [keeps.scope other has]) has
  unfold Heap.lookup
  rw [held]
  cases found : heap.holder? id name with
  | none => rfl
  | some holder =>
      dsimp only
      rw [keeps.scope holder (formed.holder?_has has found)]

end Consequences

end Keeps

theorem WellFormed.ascent_iff {heap : Heap} (formed : heap.WellFormed) {id : ClassId}
    {name : String} {found : Option ClosureId} :
    heap.Ascent name id found <-> heap.findMethod id name = found := by
  constructor
  · intro ascent
    induction ascent with
    | found declared => rw [findMethod_eq, declared, Option.some_or]
    | missing undeclared top =>
        rw [findMethod_eq, undeclared, formed.superclass?_eq, top]
        rfl
    | upward undeclared link _ ih =>
        rw [findMethod_eq, undeclared, formed.superclass?_eq, link]
        exact ih
  · rintro rfl
    exact formed.ascent name id

theorem boundMethod_withBound (heap : Heap) (method : ClosureId) (receiver : InstanceId) :
    (heap.withBound method receiver).BoundMethod (heap.closure method) receiver
      heap.nextClosure where
  has := (has_apply ..).mpr (.inr rfl)
  scopeHas := by
    rw [closure_withBound]
    exact has_withBound heap method receiver
  decl := by rw [closure_withBound]
  arity := by
    rw [closure_withBound]
    rfl
  isInitializer := by rw [closure_withBound]
  vars := by
    rw [closure_withBound, scope_withBound]
    rfl
  enclosing := by
    rw [closure_withBound, scope_withBound]
    rfl

end Heap

/-- Two reads that end alike, where functions bound for them may differ in their identity. -/
inductive ReadAlike (receiver : InstanceId) :
    Outcome Error Value × State -> Outcome Error Value × State -> Prop where
  | same {outcome : Outcome Error Value} {first second : State} :
      ReadAlike receiver (outcome, first) (outcome, second)
  | bound {method : Closure} {left right : ClosureId} {first second : State} :
      first.heap.BoundMethod method receiver left ->
        second.heap.BoundMethod method receiver right ->
          ReadAlike receiver (.done (.closure left), first) (.done (.closure right), second)

theorem Value.equals_new {heap : Heap} {id : ClosureId} (absent : ¬ heap.Has (.closure id))
    {value : Value} (has : ∀ handle, Refers.links value handle -> heap.Has handle) :
    value.equals (.closure id) = false ∧ (Value.closure id).equals value = false := by
  cases value with
  | closure other =>
      have differs : other ≠ id := by
        rintro rfl
        exact absent (has _ rfl)
      simp [Value.equals, differs, differs.symm]
  | native | cls | inst | number | text | bool | nil => exact ⟨rfl, rfl⟩

namespace InstanceId

variable {object : InstanceId} {name : String} {state : State}

theorem get_field {value : Value} (isField : (state.heap.inst object).fields.get? name = some value)
    (line : Nat) : ∃ log, object.get name line state = (.done value, { state with log }) := by
  rw [get_apply, isField]
  exact ⟨_, rfl⟩

section NoField

variable (absent : (state.heap.inst object).fields.get? name = none)

include absent

theorem get_method {method : ClosureId}
    (found : state.heap.findMethod (state.heap.inst object).cls name = some method) (line : Nat) :
    ∃ log journal, object.get name line state =
      (.done (.closure state.heap.nextClosure),
        { heap := state.heap.withBound method object, log, journal }) := by
  rw [get_apply, absent]
  simp only [ClassId.boundMethod, ClassId.findMethod, bind_assoc, Exec.read_bind,
    Exec.logAll_bind, found]
  exact ⟨_, _, rfl⟩

theorem get_missing
    (missing : state.heap.findMethod (state.heap.inst object).cls name = none) (line : Nat) :
    ∃ log, object.get name line state =
      (.failed (.undefinedProperty name line), { state with log }) := by
  rw [get_apply, absent]
  simp only [ClassId.boundMethod, ClassId.findMethod, bind_assoc, Exec.read_bind,
    Exec.logAll_bind, missing]
  exact ⟨_, rfl⟩

theorem get_new {line : Nat} {value : Value} (read : (object.get name line state).1 = .done value)
    {old : Value} (has : ∀ handle, Refers.links old handle -> state.heap.Has handle) :
    old.equals value = false ∧ value.equals old = false := by
  cases found : state.heap.findMethod (state.heap.inst object).cls name with
  | none =>
      obtain ⟨_, steps⟩ := get_missing absent found line
      rw [steps] at read
      cases read
  | some method =>
      obtain ⟨_, _, steps⟩ := get_method absent found line
      rw [steps] at read
      cases read
      exact Value.equals_new (Nat.lt_irrefl _) has

end NoField

end InstanceId

theorem InstanceId.get_alike {object : InstanceId} {name : String} {first second : State}
    (frozen : first.heap.Frozen second.heap) (formed : first.heap.WellFormed)
    (has : first.heap.Has (.inst object))
    (fields : (second.heap.inst object).fields.get? name =
      (first.heap.inst object).fields.get? name) (line : Nat) :
    ReadAlike object (object.get name line first) (object.get name line second) := by
  have cls : (second.heap.inst object).cls = (first.heap.inst object).cls :=
    frozen.instanceClass object has
  have classHas : first.heap.Has (.cls (first.heap.inst object).cls) :=
    formed.linked (.inst object) _ has (.inl rfl)
  have methods : second.heap.findMethod (second.heap.inst object).cls name =
      first.heap.findMethod (first.heap.inst object).cls name := by
    rw [cls, frozen.findMethod formed classHas]
  cases field : (first.heap.inst object).fields.get? name with
  | some value =>
      obtain ⟨_, left⟩ := get_field field line
      obtain ⟨_, right⟩ := get_field (fields.trans field) line
      rw [left, right]
      exact .same
  | none =>
      rw [field] at fields
      cases found : first.heap.findMethod (first.heap.inst object).cls name with
      | none =>
          obtain ⟨_, left⟩ := get_missing field found line
          obtain ⟨_, right⟩ := get_missing fields (methods.trans found) line
          rw [left, right]
          exact .same
      | some method =>
          obtain ⟨_, _, left⟩ := get_method field found line
          obtain ⟨_, _, right⟩ := get_method fields (methods.trans found) line
          have same : second.heap.closure method = first.heap.closure method :=
            frozen.closure method (formed.findMethod_has classHas found)
          have bound := second.heap.boundMethod_withBound method object
          rw [same] at bound
          rw [left, right]
          exact .bound (first.heap.boundMethod_withBound method object) bound

theorem InstanceId.get_keeps (object : InstanceId) (name : String) (line : Nat) (state : State) :
    state.heap.Keeps (object.get name line state).2.heap := by
  cases field : (state.heap.inst object).fields.get? name with
  | some value =>
      obtain ⟨_, steps⟩ := get_field field line
      rw [steps]
      exact .refl state.heap
  | none =>
      cases found : state.heap.findMethod (state.heap.inst object).cls name with
      | none =>
          obtain ⟨_, steps⟩ := get_missing field found line
          rw [steps]
          exact .refl state.heap
      | some method =>
          obtain ⟨_, _, steps⟩ := get_method field found line
          rw [steps]
          exact .withBound state.heap method object

/--
A read gives the field, else the method bound anew, else it fails, and changes nothing that
there was.
-/
theorem property_read (state : State) (reachable : state.heap.Reachable) (object : InstanceId)
    (token : Token) :
    let field := (state.heap.inst object).fields.get? token.lexeme
    let cls := (state.heap.inst object).cls
    let read := object.get token.lexeme token.line state
    (∀ value, field = some value -> read.1 = .done value ∧ read.2.heap = state.heap) ∧
    (∀ method, field = none -> state.heap.Ascent token.lexeme cls (some method) ->
      ∃ function, read.1 = .done (.closure function) ∧
        read.2.heap.BoundMethod (state.heap.closure method) object function ∧
        ¬ state.heap.Has (.closure function) ∧
        ¬ state.heap.Has (.scope (read.2.heap.closure function).scope) ∧
        (∀ value, (∀ handle, Refers.links value handle -> state.heap.Has handle) ->
          value.equals (.closure function) = false ∧
          (Value.closure function).equals value = false) ∧
        ∀ since later, later.heap = read.2.heap.replay since ->
        ∀ (other : InstanceId) (again : Token) (value : Value),
          (later.heap.inst other).fields.get? again.lexeme = none ->
          (other.get again.lexeme again.line later).1 = .done value ->
            value.equals (.closure function) = false ∧
            (Value.closure function).equals value = false) ∧
    (field = none -> state.heap.Ascent token.lexeme cls none ->
      read.1 = .failed (.undefinedProperty token.lexeme token.line) ∧
      read.2.heap = state.heap) ∧
    state.heap.Keeps read.2.heap ∧
    (∀ scope name line, state.heap.Has (.scope scope) ->
      (scope.lookup name line read.2).1 = (scope.lookup name line state).1) ∧
    (∀ cls name, state.heap.Has (.cls cls) ->
      ((cls.findMethod name : Exec Error (Option ClosureId)) read.2).1 =
        ((cls.findMethod name : Exec Error (Option ClosureId)) state).1) ∧
    ∀ other name line, state.heap.Has (.inst other) ->
      ReadAlike other (other.get name line state) (other.get name line read.2) := by
  intro field cls read
  have formed := reachable.wellFormed
  have keeps : state.heap.Keeps read.2.heap := object.get_keeps token.lexeme token.line state
  refine ⟨?_, ?_, ?_, keeps, ?_, ?_, ?_⟩
  · intro value isField
    obtain ⟨log, steps⟩ := InstanceId.get_field isField token.line
    exact ⟨congrArg Prod.fst steps, congrArg (fun ended => ended.2.heap) steps⟩
  · intro method noField ascent
    obtain ⟨log, journal, steps⟩ :=
      InstanceId.get_method noField (formed.ascent_iff.mp ascent) token.line
    have result : read.1 = .done (.closure state.heap.nextClosure) := congrArg Prod.fst steps
    have after : read.2.heap = state.heap.withBound method object :=
      congrArg (fun ended => ended.2.heap) steps
    have bound := state.heap.boundMethod_withBound method object
    rw [← after] at bound
    refine ⟨state.heap.nextClosure, result, bound, Nat.lt_irrefl _, ?_, ?_, ?_⟩
    · rw [after, Heap.closure_withBound]
      exact Nat.lt_irrefl _
    · intro value old
      exact InstanceId.get_new noField result old
    · intro since later same other again value noField readAgain
      -- By then the function of this read is one of those there were.
      have there : later.heap.Has (.closure state.heap.nextClosure) :=
        same ▸ Heap.has_replay bound.has since
      refine (InstanceId.get_new noField readAgain fun handle isFunction => ?_).symm
      cases isFunction
      exact there
  · intro noField ascent
    obtain ⟨log, steps⟩ :=
      InstanceId.get_missing noField (formed.ascent_iff.mp ascent) token.line
    exact ⟨congrArg Prod.fst steps, congrArg (fun ended => ended.2.heap) steps⟩
  · intro scope name line scopeHas
    rw [ScopeId.lookup_result, ScopeId.lookup_result, keeps.lookup formed scopeHas]
  · intro cls name classHas
    exact congrArg Outcome.done (keeps.frozen.findMethod formed classHas name)
  · intro other name line otherHas
    refine InstanceId.get_alike keeps.frozen formed otherHas ?_ line
    rw [keeps.inst other otherHas]

-- An instance with a field that holds an inherited method, bound to the instance itself.
def keepingSession : Session :=
  Session.start.after [
    { operation := .newClass (some "A") none
        [some (.make { decl := .inline ⟨.identifier "m" 1, [.identifier "x" 1], []⟩ })],
      storeAs := some "A" },
    { operation := .newClass (some "B") (some "A") [], storeAs := some "B" },
    { operation := .newInstance "B", storeAs := some "o" },
    { operation := .get "o" (.inline "m" 2), storeAs := some "f" },
    { operation := .set "o" (.inline "f" 3) (.register "f") }]

theorem property_read_kept :
    let state : State := { heap := keepingSession.heap }
    let read := InstanceId.get ⟨0⟩ "m" 4 state
    (InstanceId.get ⟨0⟩ "f" 4 state).1 = .done (.closure ⟨1⟩) ∧
      read.1 = .done (.closure ⟨2⟩) ∧
      read.2.heap.BoundMethod (state.heap.closure ⟨0⟩) ⟨0⟩ ⟨2⟩ ∧
      (Value.closure ⟨2⟩).equals (.closure ⟨1⟩) = false ∧
      (InstanceId.get ⟨0⟩ "z" 4 state).1 = .failed (.undefinedProperty "z" 4) ∧
      (ScopeId.lookup ⟨1⟩ receiverName 5 read.2).1 = .done (.inst ⟨0⟩) := by
  intro state read
  have reachable : state.heap.Reachable := Session.reachable_after _
  have ascent {name : String} {found : Option ClosureId} :
      state.heap.Ascent name (state.heap.inst ⟨0⟩).cls found <->
        state.heap.findMethod (state.heap.inst ⟨0⟩).cls name = found :=
    reachable.wellFormed.ascent_iff
  obtain ⟨kept, _⟩ := property_read state reachable ⟨0⟩ (.identifier "f" 4)
  obtain ⟨_, _, fails, _⟩ := property_read state reachable ⟨0⟩ (.identifier "z" 4)
  obtain ⟨_, binds, _, _, lookups, _⟩ := property_read state reachable ⟨0⟩ (.identifier "m" 4)
  have result : read.1 = .done (.closure ⟨2⟩) := by decide +kernel
  obtain ⟨function, done, bound, _, _, isNew, _⟩ :=
    binds ⟨0⟩ (by decide +kernel) (ascent.mpr (by decide +kernel))
  have second : function = ⟨2⟩ := by
    cases done.symm.trans result
    rfl
  subst second
  refine ⟨(kept _ (by decide +kernel)).1, result, bound, ?_, ?_, ?_⟩
  · refine (isNew (.closure ⟨1⟩) fun handle isFunction => ?_).2
    cases isFunction
    decide +kernel
  · exact (fails (by decide +kernel) (ascent.mpr (by decide +kernel))).1
  · exact (lookups ⟨1⟩ receiverName 5 (by decide +kernel)).trans (by decide +kernel)

end Lox
