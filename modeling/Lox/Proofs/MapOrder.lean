import Lox.Proofs.Inspection
import Lox.Proofs.Logging
import Lox.Proofs.Parallel
import Mathlib.Logic.Relation

set_option autoImplicit false

namespace Lox

/-- Heaps with the same objects, whose maps agree on every name. -/
structure Heap.Reordered (left right : Heap) : Prop where
  vars : ∀ id name, (right.scope id).vars.get? name = (left.scope id).vars.get? name
  enclosing : ∀ id, (right.scope id).enclosing = (left.scope id).enclosing
  closure : ∀ id, right.closure id = left.closure id
  className : ∀ id, (right.cls id).name = (left.cls id).name
  superclass : ∀ id, (right.cls id).superclass = (left.cls id).superclass
  methods : ∀ id name, (right.cls id).methods.get? name = (left.cls id).methods.get? name
  instanceClass : ∀ id, (right.inst id).cls = (left.inst id).cls
  fields : ∀ id name, (right.inst id).fields.get? name = (left.inst id).fields.get? name
  scopes : right.scopes.size = left.scopes.size
  closures : right.closures.size = left.closures.size
  classes : right.classes.size = left.classes.size
  instances : right.instances.size = left.instances.size

@[simp]
theorem Value.rename_refl : Value.rename (.refl ClosureId) = id := by
  funext value
  cases value <;> rfl

theorem Heap.reordered_iff {left right : Heap} :
    left.Reordered right <-> left.Alike (.refl ClosureId) right := by
  constructor
  · intro same
    refine ⟨fun id => ⟨?_, same.enclosing id⟩, same.closure, ?_,
      fun id => ⟨same.className id, same.superclass id, ?_⟩,
      fun id => ⟨same.instanceClass id, ?_⟩, same.scopes, ?_, same.classes, same.instances⟩
    · intro name
      simp [same.vars]
    · intro id value _
      simp
    · intro name
      simp [same.methods, Function.Embedding.coe_refl]
    · intro name
      simp [same.fields]
    · intro count
      simp [same.closures]
  · intro alike
    have closures := alike.closures 0
    refine ⟨fun id name => ?_, fun id => (alike.scope id).enclosing, alike.closure,
      fun id => (alike.cls id).name, fun id => (alike.cls id).superclass, fun id name => ?_,
      fun id => (alike.inst id).cls, fun id name => ?_, alike.scopes, ?_, alike.classes,
      alike.instances⟩
    · simpa using (alike.scope id).vars name
    · simpa [Function.Embedding.coe_refl] using (alike.cls id).methods name
    · simpa using (alike.inst id).fields name
    · simpa using closures.symm

variable {ε δ α β : Type}

structure Exec.OrderBlind (action : Exec ε α) : Prop where
  run : ∀ first second : State, first.heap.Reordered second.heap ->
    (action second).1 = (action first).1 ∧
      (action first).2.heap.Reordered (action second).2.heap ∧
      ∃ said, (action first).2.messages = first.messages ++ said ∧
        (action second).2.messages = second.messages ++ said

instance : Compares Fault := ⟨fun _ left right => right = left⟩

/-- Results of which alike ones are the same if no function has another identity. -/
class Compares.Exact (α : Type) [Compares α] : Prop where
  same : ∀ left right : α, Compares.alike (.refl ClosureId) left right -> right = left

namespace Compares.Exact

instance : Exact Unit := ⟨fun _ _ same => same⟩

instance : Exact Nat := ⟨fun _ _ same => same⟩

instance : Exact ScopeId := ⟨fun _ _ same => same⟩

instance : Exact ClassId := ⟨fun _ _ same => same⟩

instance : Exact InstanceId := ⟨fun _ _ same => same⟩

instance : Exact Error := ⟨fun _ _ same => same⟩

instance : Exact Fault := ⟨fun _ _ same => same⟩

instance : Exact ClosureId := ⟨fun _ _ same => same⟩

instance : Exact Value := ⟨fun _ _ same => by simpa [Compares.alike] using same⟩

instance : Exact (Option ClosureId) :=
  ⟨fun _ _ same => by simpa [Compares.alike, Function.Embedding.coe_refl] using same⟩

end Compares.Exact

namespace Exec.OrderBlind

theorem of_parallel [Compares ε] [Compares α] [Compares.Exact ε] [Compares.Exact α]
    {action : Exec ε α} (parallel : action.Parallel (.refl ClosureId) action) :
    action.OrderBlind := by
  constructor
  intro first second reordered
  obtain ⟨outcomes, heaps, messages⟩ :=
    parallel first second (Heap.reordered_iff.mp reordered)
  refine ⟨?_, Heap.reordered_iff.mpr heaps, messages⟩
  generalize (action first).1 = outcome at outcomes
  generalize (action second).1 = other at outcomes
  cases outcomes with
  | done values => rw [Compares.Exact.same _ _ values]
  | failed errors => rw [Compares.Exact.same _ _ errors]
  | exhausted => rfl

theorem of_steady {action : Exec ε α} (kept : ∀ state, (action state).2 = state)
    (same : ∀ first second : State, first.heap.Reordered second.heap ->
      (action second).1 = (action first).1) : action.OrderBlind := by
  constructor
  intro first second reordered
  refine ⟨same first second reordered, ?_, [], ?_⟩
  · simpa only [kept] using reordered
  · simp only [kept, List.append_nil, and_self]

@[grind ←]
theorem pure (value : α) : (Pure.pure value : Exec ε α).OrderBlind :=
  of_steady (fun _ => rfl) fun _ _ _ => rfl

@[grind ←]
theorem fail (error : ε) : (Exec.fail error : Exec ε α).OrderBlind :=
  of_steady (fun _ => rfl) fun _ _ _ => rfl

@[grind ←]
theorem read {view : Heap -> α}
    (same : ∀ left right : Heap, left.Reordered right -> view right = view left) :
    (Exec.read view : Exec ε α).OrderBlind :=
  of_steady (fun _ => rfl) fun first second reordered =>
    congrArg Outcome.done (same first.heap second.heap reordered)

@[grind ←]
theorem logAll (events : List Event) : (Exec.logAll events : Exec ε Unit).OrderBlind :=
  ⟨fun _ _ reordered =>
    ⟨rfl, reordered, events.map Event.text, by simp [Exec.logAll, State.messages],
      by simp [Exec.logAll, State.messages]⟩⟩

@[grind ←]
theorem log (event : Event) : (Exec.log event : Exec ε Unit).OrderBlind :=
  ⟨fun _ _ reordered =>
    ⟨rfl, reordered, [event.text], by simp [Exec.log, State.messages],
      by simp [Exec.log, State.messages]⟩⟩

@[grind ←]
theorem bind {action : Exec ε α} {next : α -> Exec ε β} (start : action.OrderBlind)
    (rest : ∀ value, (next value).OrderBlind) : (action >>= next).OrderBlind := by
  constructor
  intro first second reordered
  obtain ⟨outcomes, heaps, said, messages, others⟩ := start.run first second reordered
  rw [Exec.bind_apply, Exec.bind_apply]
  generalize action first = ended at outcomes heaps messages ⊢
  generalize action second = other at outcomes heaps others ⊢
  obtain ⟨outcome, after⟩ := ended
  obtain ⟨result, later⟩ := other
  dsimp only at outcomes heaps messages others
  subst outcomes
  cases result with
  | failed error => exact ⟨rfl, heaps, said, messages, others⟩
  | exhausted => exact ⟨rfl, heaps, said, messages, others⟩
  | done value =>
      obtain ⟨outcomes, heaps, more, messagesMore, othersMore⟩ := (rest value).run after later heaps
      refine ⟨outcomes, heaps, said ++ more, ?_, ?_⟩
      · rw [messagesMore, messages, List.append_assoc]
      · rw [othersMore, others, List.append_assoc]

@[grind ←]
theorem mapError {convert : ε -> δ} {action : Exec ε α} (blind : action.OrderBlind) :
    (action.mapError convert).OrderBlind := by
  constructor
  intro first second reordered
  obtain ⟨outcomes, heaps, messages⟩ := blind.run first second reordered
  unfold Exec.mapError
  generalize action first = ended at outcomes heaps messages ⊢
  generalize action second = other at outcomes heaps messages ⊢
  obtain ⟨outcome, after⟩ := ended
  obtain ⟨result, later⟩ := other
  dsimp only at outcomes heaps messages
  subst outcomes
  cases result <;> exact ⟨rfl, heaps, messages⟩

@[grind ←]
theorem required (item : Option α) : (Exec.required item).OrderBlind := by
  cases item with
  | none => exact .fail Fault.misuse
  | some value => exact .pure value

end Exec.OrderBlind

theorem steady_refl (constants : List Value) : Steady (.refl ClosureId) constants := by
  intro value _
  simp

theorem Heap.Reordered.fieldNames {left right : Heap} (same : left.Reordered right)
    (id : InstanceId) : right.fieldNames id = left.fieldNames id :=
  Heap.fieldNames_congr fun name => by simp only [Bindings.contains, same.fields]

theorem Heap.Reordered.display {left right : Heap} (same : left.Reordered right)
    (value : Value) : right.display value = left.display value := by
  simpa using (Heap.reordered_iff.mp same).display value

section Operations

variable (scope : ScopeId) (cls : ClassId) (object : InstanceId) (name : String) (value : Value)
  (line : Nat)

theorem ScopeId.clone_parallel {naming : ClosureId ↪ ClosureId} [Compares ε] :
    (scope.clone : Exec ε ScopeId).Parallel naming scope.clone := by
  refine .read_bind fun left right alike => ?_
  exact .allocate (.newScope (alike.scope scope)) fun _ _ alike => alike.nextScope

@[grind ←]
theorem ScopeId.create_orderBlind (enclosing : Option ScopeId) :
    (ScopeId.create enclosing : Exec Fault ScopeId).OrderBlind :=
  .of_parallel (ScopeId.create_parallel enclosing)

@[grind ←]
theorem ScopeId.clone_orderBlind : (scope.clone : Exec Fault ScopeId).OrderBlind :=
  .of_parallel (ScopeId.clone_parallel scope)

@[grind ←]
theorem ScopeId.define_orderBlind : (scope.define name value : Exec Fault Unit).OrderBlind := by
  have parallel : (scope.define name value : Exec Fault Unit).Parallel (.refl ClosureId) _ :=
    ScopeId.define_parallel scope name value
  exact .of_parallel (by simpa using parallel)

@[grind ←]
theorem ScopeId.assign_orderBlind : (scope.assign name value line).OrderBlind := by
  have parallel : (scope.assign name value line).Parallel (.refl ClosureId) _ :=
    ScopeId.assign_parallel scope name value line
  exact .of_parallel (by simpa using parallel)

@[grind ←]
theorem ScopeId.lookup_orderBlind : (scope.lookup name line).OrderBlind :=
  .of_parallel (ScopeId.lookup_parallel scope name line)

@[grind ←]
theorem Closure.allocate_orderBlind (closure : Closure) :
    (closure.allocate : Exec Fault ClosureId).OrderBlind :=
  .of_parallel (Closure.allocate_parallel (steady_refl _))

@[grind ←]
theorem ClosureId.bindTo_orderBlind (method : ClosureId) :
    (method.bindTo object : Exec Fault ClosureId).OrderBlind :=
  .of_parallel (ClosureId.bindTo_parallel method object)

@[grind ←]
theorem ClassId.create_orderBlind (superclass : Option ClassId) (methods : List Closure) :
    (ClassId.create name superclass methods : Exec Fault ClassId).OrderBlind :=
  .of_parallel (ClassId.create_parallel name superclass fun _ _ => steady_refl _)

@[grind ←]
theorem ClassId.findMethod_orderBlind :
    (cls.findMethod name : Exec Fault (Option ClosureId)).OrderBlind :=
  .of_parallel (ClassId.findMethod_parallel cls name)

@[grind ←]
theorem ClassId.arity_orderBlind : (cls.arity : Exec Fault Nat).OrderBlind :=
  .of_parallel (ClassId.arity_parallel cls)

@[grind ←]
theorem InstanceId.create_orderBlind : (InstanceId.create cls : Exec Fault InstanceId).OrderBlind :=
  .of_parallel (InstanceId.create_parallel cls)

@[grind ←]
theorem InstanceId.get_orderBlind : (object.get name line).OrderBlind :=
  .of_parallel (InstanceId.get_parallel object name line)

@[grind ←]
theorem InstanceId.set_orderBlind : (object.set name value : Exec Fault Unit).OrderBlind := by
  have parallel : (object.set name value : Exec Fault Unit).Parallel (.refl ClosureId) _ :=
    InstanceId.set_parallel object name value
  exact .of_parallel (by simpa using parallel)

@[grind ←]
theorem invoke_orderBlind (depth : Nat) (callee : Value) (arguments : List Value) :
    (invoke depth callee line arguments).OrderBlind := by
  have parallel := invoke_parallel (.refl ClosureId) depth callee line arguments
  exact .of_parallel (by simpa using parallel)

@[grind ←]
theorem runClosure_orderBlind (depth : Nat) (closure : Closure) (arguments : List Value) :
    (runClosure depth closure arguments).OrderBlind := by
  have parallel := runClosure_parallel (.refl ClosureId) depth closure arguments (steady_refl _)
  exact .of_parallel (by simpa using parallel)

@[grind ←]
theorem ClassId.instantiate_orderBlind (depth : Nat) (arguments : List Value) :
    (cls.instantiate (runClosure depth) arguments).OrderBlind := by
  have parallel := ClassId.instantiate_parallel (runClosure_parallel (.refl ClosureId) depth)
    cls arguments
  exact .of_parallel (by simpa using parallel)

end Operations

theorem Heap.Reordered.debugInstance {left right : Heap} (same : left.Reordered right)
    (id : InstanceId) : right.debugInstance id = left.debugInstance id := by
  simp only [Heap.debugInstance, Heap.classOf, same.instanceClass, same.className,
    same.fieldNames]

theorem Heap.Reordered.debug {left right : Heap} (same : left.Reordered right) {value : Value}
    (other : ∀ id, value ≠ .cls id) : right.debug value = left.debug value := by
  cases value with
  | closure id => simp only [Heap.debug, same.closure]
  | inst id => simp only [Heap.debug, same.debugInstance]
  | cls id => exact absurd rfl (other id)
  | native | number | text | bool | nil => rfl

theorem Heap.Reordered.returnSignalAnswer {left right : Heap} (same : left.Reordered right)
    (value : Value) : Lox.returnSignalAnswer right value = Lox.returnSignalAnswer left value := by
  have display : (Unwind.returned value).display right = (Unwind.returned value).display left :=
    congrArg ("Return signal with value: " ++ ·) (same.display value)
  have debug (other : ∀ id, value ≠ .cls id) :
      (Unwind.returned value).debug right = (Unwind.returned value).debug left :=
    congrArg (Text.applied "ReturnSignal") (same.debug other)
  unfold Lox.returnSignalAnswer
  dsimp only
  rw [display]
  split
  · rfl
  · rfl
  · next other => rw [debug other]

@[grind ←]
theorem valueResult_orderBlind {action : Exec Error Value} (blind : action.OrderBlind) :
    (valueResult action).OrderBlind := by
  grind [valueResult]

@[grind ←]
theorem functionResult_orderBlind (closure : Closure) : (functionResult closure).OrderBlind := by
  grind [functionResult]

namespace Registers

variable (registers : Registers)

@[grind ←]
theorem need_orderBlind (find : Registers -> Option α) : (registers.need find).OrderBlind :=
  .required _

@[grind ←]
theorem makeFunction_orderBlind (spec : FunctionSpec) :
    (registers.makeFunction spec).OrderBlind := by
  grind [makeFunction, Closure.create]

@[grind ←]
theorem makeMethod_orderBlind (spec : MethodSpec) : (registers.makeMethod spec).OrderBlind := by
  cases spec with
  | copy name =>
      exact .bind (registers.need_orderBlind _) fun id => .read fun _ _ same => same.closure id
  | make spec => exact registers.makeFunction_orderBlind spec

@[grind ←]
theorem makeMethods_orderBlind (specs : List (Option MethodSpec)) :
    (registers.makeMethods specs).OrderBlind := by
  induction specs with
  | nil => exact .pure []
  | cons spec rest ih => grind [makeMethods]

@[grind ←]
theorem makeClass_orderBlind (name superclass : Option String)
    (methods : List (Option MethodSpec)) :
    (registers.makeClass name superclass methods).OrderBlind := by
  have parent : (superclass.mapM fun register => registers.need (·.class? register) :
      Exec Fault (Option ClassId)).OrderBlind := by
    cases superclass with
    | none => exact .pure none
    | some register => exact .bind (registers.need_orderBlind _) fun _ => .pure _
  grind [makeClass]

theorem perform_orderBlind (depth : Nat) {operation : Operation}
    (other : ∀ register, operation ≠ .debug register) :
    (registers.perform depth operation).OrderBlind := by
  cases operation with
  | debug register => exact absurd rfl (other register)
  | newScope enclosing => cases enclosing <;> grind [perform]
  | error error =>
      refine .bind (.logAll _) fun _ => .bind (.read fun _ _ _ => rfl) fun display => ?_
      exact .bind (.read fun _ _ _ => rfl) fun _ => .pure _
  | enclosingScope scope =>
      refine .bind (registers.need_orderBlind _) fun id => ?_
      refine .bind (.read fun _ _ same => same.enclosing id) fun enclosing => ?_
      cases enclosing <;> exact .pure _
  | superclass cls =>
      refine .bind (registers.need_orderBlind _) fun id => ?_
      refine .bind (.read fun _ _ same => same.superclass id) fun superclass => ?_
      cases superclass <;> exact .pure _
  | apply callee arguments =>
      refine .bind (registers.need_orderBlind _) fun callee => ?_
      refine .bind (registers.need_orderBlind _) fun arguments => ?_
      cases callee with
      | closure id =>
          refine .bind (.read fun _ _ same => same.closure id) fun closure => ?_
          exact valueResult_orderBlind (runClosure_orderBlind depth closure arguments)
      | cls id => exact valueResult_orderBlind (ClassId.instantiate_orderBlind id depth arguments)
      | native | inst | number | text | bool | nil => exact .fail _
  | classOf object =>
      -- The whole instance is read here, but no more than its class is used.
      refine .bind (registers.need_orderBlind _) fun id => ?_
      have cls : (Exec.read fun heap => (heap.inst id).cls : Exec Fault ClassId).OrderBlind :=
        .read fun _ _ same => same.instanceClass id
      have shown := cls.bind fun cls => .pure (Result.object (.value (.cls cls)))
      exact shown
  | set object property value =>
      refine .bind (registers.need_orderBlind _) fun id => ?_
      refine .bind (registers.need_orderBlind _) fun property => ?_
      refine .bind (registers.need_orderBlind _) fun value => ?_
      refine .bind (InstanceId.set_orderBlind id property.1 value) fun _ => ?_
      exact .bind (.read fun _ _ same => same.fieldNames id) fun _ => .pure _
  | _ => grind [perform, Heap.Reordered, Heap.Reordered.fieldNames,
      Heap.Reordered.returnSignalAnswer]

end Registers

theorem Bindings.entries_eq {left right : Bindings α} (few : left.size ≤ 1)
    (same : ∀ name, right.get? name = left.get? name) : right.entries = left.entries := by
  have entries := entries_perm same
  rcases listed : left.entries with _ | ⟨entry, _ | ⟨second, rest⟩⟩
  · rw [listed] at entries
    exact List.perm_nil.mp entries
  · rw [listed] at entries
    exact List.perm_singleton.mp entries
  · simp [size, listed] at few

namespace Heap

/-- The number of entries that the text of an object lists as they are stored. -/
def listedSize (heap : Heap) : Handle -> Nat
  | .scope id => (heap.scope id).vars.size
  | .cls id => (heap.cls id).methods.size
  | .closure _ | .inst _ => 0

def Terse (heap : Heap) (handle : Handle) : Prop :=
  ∀ shown, Relation.ReflTransGen heap.Shows handle shown -> heap.listedSize shown ≤ 1

theorem Terse.listedSize {heap : Heap} {handle : Handle} (terse : heap.Terse handle) :
    heap.listedSize handle ≤ 1 :=
  terse handle .refl

theorem Terse.of_shows {heap : Heap} {source target : Handle} (terse : heap.Terse source)
    (shows : heap.Shows source target) : heap.Terse target :=
  fun shown path => terse shown (.head shows path)

namespace Reordered

variable {left right : Heap} (same : left.Reordered right)

include same

theorem superclass? (id : ClassId) : right.superclass? id = left.superclass? id :=
  (reordered_iff.mp same).superclass? id

theorem enclosing? (id : ScopeId) : right.enclosing? id = left.enclosing? id :=
  (reordered_iff.mp same).enclosing? id

theorem debugClass {id : ClassId} (terse : left.Terse (.cls id)) :
    right.debugClass id = left.debugClass id := by
  refine debugClass_congr (fun id => left.Terse (.cls id)) ?_ same.superclass? same.className ?_
    terse
  · intro id parent terse link
    exact terse.of_shows (.superclass (Option.filter_eq_some_iff.mp link).1)
  · intro id terse
    rw [Bindings.entries_eq terse.listedSize (same.methods id)]
    simp only [same.closure]

theorem debugValue {value : Value}
    (terse : ∀ handle, value.handle? = some handle -> left.Terse handle) :
    right.debug value = left.debug value := by
  cases value with
  | cls id => simp only [Heap.debug, same.debugClass (terse _ rfl)]
  | native | closure | inst | number | text | bool | nil => exact same.debug (by simp)

theorem debugScope {id : ScopeId} (terse : left.Terse (.scope id)) :
    right.debugScope id = left.debugScope id := by
  induction measured : id.index using Nat.strongRecOn generalizing id with
  | ind index ih =>
      have entries := Bindings.entries_eq terse.listedSize (same.vars id)
      have values : ((left.scope id).vars.entries.map fun entry =>
          (Text.quoted entry.1, right.debug entry.2)) =
            (left.scope id).vars.entries.map fun entry =>
              (Text.quoted entry.1, left.debug entry.2) := by
        refine List.map_congr_left fun entry listed => ?_
        have held := (Bindings.mem_entries_iff _ _ _).mp listed
        rw [same.debugValue fun handle refers => terse.of_shows (.held held refers)]
      have around : ((right.enclosing? id).map fun outer =>
          Text.record "RefCell" [("value", right.debugScope outer)]) =
            (left.enclosing? id).map fun outer =>
              Text.record "RefCell" [("value", left.debugScope outer)] := by
        rw [same.enclosing?]
        refine Option.map_congr fun outer link => ?_
        have older := enclosing?_older link
        have shown : left.Terse (.scope outer) :=
          terse.of_shows (.enclosing (Option.filter_eq_some_iff.mp link).1)
        rw [ih outer.index (measured ▸ older) shown rfl]
      rw [debugScope_eq, debugScope_eq, entries, values, around]

end Reordered

end Heap

def Entry.handle? : Entry -> Option Handle
  | .value held => held.handle?
  | .scope id => some (.scope id)
  | .token _ | .decl _ => none

section Entries

variable {left right : Heap} (same : left.Reordered right)

include same

theorem Entry.debug?_reordered {entry : Entry}
    (terse : ∀ handle, entry.handle? = some handle -> left.Terse handle) :
    entry.debug? right = entry.debug? left := by
  cases entry with
  | value value =>
      cases value with
      | native => rfl
      | closure | cls | inst | number | text | bool | nil =>
          exact congrArg some (same.debugValue terse)
  | scope id => exact congrArg some (same.debugScope (terse _ rfl))
  | token | decl => rfl

omit same in
theorem Entry.debug?_of_handle {entry : Entry} {handle : Handle}
    (held : entry.handle? = some handle) (heap : Heap) : ∃ text, entry.debug? heap = some text := by
  cases entry with
  | value value =>
      cases value with
      | native => cases held
      | closure | cls | inst | number | text | bool | nil => exact ⟨_, rfl⟩
  | scope id => exact ⟨_, rfl⟩
  | token | decl => cases held

theorem Result.answer_reordered (numbering : Numbering) (result : Result) :
    result.answer right numbering = result.answer left numbering := by
  have views (value : Value) : ValueView.of right numbering value =
      ValueView.of left numbering value := by
    unfold ValueView.of
    simp only [same.display]
  cases result with
  | object entry =>
      cases entry with
      | value value => simp only [Result.answer, views]
      | scope | token | decl => rfl
  | cls id arity => simp only [Result.answer, same.superclass, same.className, views]
  | function | plain => rfl

end Entries

theorem Registers.perform_debug (registers : Registers) (depth : Nat) (register : String)
    (state : State) :
    registers.perform depth (.debug register) state =
      (match (registers.get? register).bind (·.debug? state.heap) with
        | some text => .done (.plain (.debug text))
        | none => .failed .misuse, state) := by
  rw [Registers.perform, Registers.need]
  cases registers.get? register with
  | none => rfl
  | some entry =>
      change (do let text ← Exec.required (entry.debug? state.heap)
                 return Result.plain (.debug text) : Exec Fault Result) state = _
      rw [Option.bind_some]
      cases entry.debug? state.heap <;> rfl

def Reply.messages (reply : Reply) : List String :=
  reply.log.map Event.text

structure Reply.Alike (listing : Prop) (left right : Reply) : Prop where
  messages : right.messages = left.messages
  answer : right.answer = left.answer ∨
    listing ∧ ∃ text other, left.answer = .debug text ∧ right.answer = .debug other

namespace Session

structure Reordered (left right : Session) : Prop where
  heap : left.heap.Reordered right.heap
  registers : right.registers = left.registers
  numbering : right.numbering = left.numbering

/-- The request is for a text in which a map of more than one entry is listed. -/
def ListsEntries (session : Session) (request : Request) : Prop :=
  ∃ register entry handle, request.operation = .debug register ∧
    session.registers.get? register = some entry ∧ entry.handle? = some handle ∧
    ¬ session.heap.Terse handle

theorem conclude_messages (session : Session) (request : Request)
    (outcome : Outcome Fault Result) (state : State) :
    (session.conclude request outcome state).1.messages = state.messages := by
  rcases outcome with result | (_ | error) | _ <;> rfl

variable {left right : Session}

theorem Reordered.conclude (same : left.Reordered right) (request : Request)
    (outcome : Outcome Fault Result) {first second : State}
    (heaps : first.heap.Reordered second.heap) :
    (left.conclude request outcome first).2.Reordered (right.conclude request outcome second).2 ∧
      (right.conclude request outcome second).1.answer =
        (left.conclude request outcome first).1.answer := by
  obtain ⟨_, registers, numbering⟩ := same
  rcases outcome with result | (_ | error) | _
  · simp only [Session.conclude, store, numbering, Result.answer_reordered heaps]
    refine ⟨?_, trivial⟩
    split
    · exact ⟨heaps, by simp only [registers], rfl⟩
    · exact ⟨heaps, registers, rfl⟩
  · exact ⟨⟨heaps, registers, numbering⟩, rfl⟩
  · exact ⟨⟨heaps, registers, numbering⟩, rfl⟩
  · exact ⟨⟨heaps, registers, numbering⟩, rfl⟩

theorem conclude_plain (session : Session) (request : Request) (answer : Answer) (state : State) :
    session.conclude request (.done (.plain answer)) state =
      (⟨answer, state.log.toList⟩, { session with heap := state.heap }) := by
  obtain ⟨operation, _ | name⟩ := request <;> rfl

theorem Reordered.perform_debug (same : left.Reordered right) (depth : Nat) {request : Request}
    {register : String} (isDebug : request.operation = .debug register) :
    (left.perform depth request).2.Reordered (right.perform depth request).2 ∧
      (left.perform depth request).1.Alike (left.ListsEntries request)
        (right.perform depth request).1 := by
  obtain ⟨heaps, registers, numbering⟩ := same
  simp only [perform_eq_onto, performOnto, isDebug, Registers.perform_debug, registers]
  cases found : left.registers.get? register with
  | none => exact ⟨⟨heaps, registers, numbering⟩, rfl, .inl rfl⟩
  | some entry =>
      simp only [Option.bind_some]
      by_cases terse : ∀ handle, entry.handle? = some handle -> left.heap.Terse handle
      · rw [Entry.debug?_reordered heaps terse]
        cases entry.debug? left.heap with
        | none => exact ⟨⟨heaps, registers, numbering⟩, rfl, .inl rfl⟩
        | some text =>
            rw [conclude_plain, conclude_plain]
            exact ⟨⟨heaps, registers, numbering⟩, rfl, .inl rfl⟩
      · push Not at terse
        obtain ⟨handle, held, long⟩ := terse
        obtain ⟨text, shown⟩ := Entry.debug?_of_handle held left.heap
        obtain ⟨other, otherShown⟩ := Entry.debug?_of_handle held right.heap
        rw [shown, otherShown, conclude_plain, conclude_plain]
        refine ⟨⟨heaps, registers, numbering⟩, rfl, .inr ⟨?_, text, other, rfl, rfl⟩⟩
        exact ⟨register, entry, handle, isDebug, found, held, long⟩

theorem Reordered.perform (same : left.Reordered right) (depth : Nat) (request : Request) :
    (left.perform depth request).2.Reordered (right.perform depth request).2 ∧
      (left.perform depth request).1.Alike (left.ListsEntries request)
        (right.perform depth request).1 := by
  by_cases isDebug : ∃ register, request.operation = .debug register
  · obtain ⟨register, isDebug⟩ := isDebug
    exact same.perform_debug depth isDebug
  · have blind := left.registers.perform_orderBlind depth (not_exists.mp isDebug)
    obtain ⟨outcome, heaps, said, messages, others⟩ :=
      blind.run { heap := left.heap } { heap := right.heap } same.heap
    simp only [perform_eq_onto, performOnto, same.registers, outcome]
    obtain ⟨after, answer⟩ := same.conclude request _ heaps
    refine ⟨after, ?_, .inl answer⟩
    rw [conclude_messages, conclude_messages, messages, others]
    rfl

theorem Reordered.after (same : left.Reordered right) (requests : List Request) :
    (left.after requests).Reordered (right.after requests) := by
  induction requests generalizing left right with
  | nil => exact same
  | cons request rest ih => exact ih (same.perform maxDepth request).1

end Session

/--
No computation can tell in which order maps keep their entries, and no answer shows it but
an inspection text that lists more than one.
-/
theorem map_order_unseen :
    (∀ depth callee line arguments, (invoke depth callee line arguments).OrderBlind) ∧
      (∀ depth closure arguments, (runClosure depth closure arguments).OrderBlind) ∧
      (∀ depth cls arguments,
        (ClassId.instantiate (runClosure depth) cls arguments).OrderBlind) ∧
      ∀ left right : Session, left.Reordered right -> ∀ requests depth request,
        (left.after requests).Reordered (right.after requests) ∧
          ((left.after requests).perform depth request).2.Reordered
            ((right.after requests).perform depth request).2 ∧
          ((left.after requests).perform depth request).1.Alike
            ((left.after requests).ListsEntries request)
            ((right.after requests).perform depth request).1 := by
  refine ⟨fun depth callee line arguments => invoke_orderBlind line depth callee arguments,
    runClosure_orderBlind, fun depth cls => ClassId.instantiate_orderBlind cls depth, ?_⟩
  intro left right same requests depth request
  have later := same.after requests
  exact ⟨later, later.perform depth request⟩

theorem Heap.size_define (heap : Heap) (scope : ScopeId) (name : String) (value : Value) :
    (heap.define scope name value).scopes.size = heap.scopes.size := by
  simp [define]

theorem Heap.reordered_define (heap : Heap) (scope : ScopeId) {name other : String}
    (differ : name ≠ other) (value result : Value) :
    ((heap.define scope name value).define scope other result).Reordered
      ((heap.define scope other result).define scope name value) where
  vars id query := by
    simp only [scope_define, size_define]
    grind [Bindings.get?_insert]
  enclosing id := by
    simp only [scope_define, size_define]
    grind
  closure _ := rfl
  className _ := rfl
  superclass _ := rfl
  methods _ _ := rfl
  instanceClass _ := rfl
  fields _ _ := rfl
  scopes := by simp only [size_define]
  closures := rfl
  classes := rfl
  instances := rfl

theorem map_order_unseen_either :
    let first : Request := { operation := .define globalsName "a" .nil }
    let second : Request := { operation := .define globalsName "b" (.bool true) }
    let left := Session.start.after [first, second]
    let right := Session.start.after [second, first]
    let asked : Request := { operation := .lookup globalsName "a" 1 }
    (left.heap.scope ⟨0⟩).vars.keys = ["a", "b"] ∧ (right.heap.scope ⟨0⟩).vars.keys = ["b", "a"] ∧
      left.Reordered right ∧ (right.perform 1 asked).1.answer = (left.perform 1 asked).1.answer := by
  intro first second left right asked
  have same : left.Reordered right :=
    ⟨Session.start.heap.reordered_define ⟨0⟩ (by decide) .nil (.bool true), rfl, rfl⟩
  obtain ⟨_, _, _, sessions⟩ := map_order_unseen
  obtain ⟨_, _, _, answer⟩ := sessions left right same [] 1 asked
  refine ⟨by decide +kernel, by decide +kernel, same, ?_⟩
  rcases answer with equal | ⟨⟨register, _, _, isDebug, _⟩, _⟩
  · exact equal
  · cases isDebug

end Lox
