import Lox.Proofs.Alike
import Lox.Script.Eval

set_option autoImplicit false

namespace Lox

def Unwind.rename (naming : ClosureId ↪ ClosureId) : Unwind -> Unwind
  | .error cause => .error cause
  | .returned value => .returned (value.rename naming)

/-- Results that are the same but for the identities of functions. -/
class Compares (α : Type) where
  alike : (ClosureId ↪ ClosureId) -> α -> α -> Prop

namespace Compares

instance : Compares Unit := ⟨fun _ left right => right = left⟩

instance : Compares Nat := ⟨fun _ left right => right = left⟩

instance : Compares ScopeId := ⟨fun _ left right => right = left⟩

instance : Compares ClassId := ⟨fun _ left right => right = left⟩

instance : Compares InstanceId := ⟨fun _ left right => right = left⟩

instance : Compares Error := ⟨fun _ left right => right = left⟩

instance : Compares ClosureId := ⟨fun naming left right => right = naming left⟩

instance : Compares Value := ⟨fun naming left right => right = left.rename naming⟩

instance : Compares Unwind := ⟨fun naming left right => right = left.rename naming⟩

instance : Compares (List Value) :=
  ⟨fun naming left right => right = left.map (Value.rename naming)⟩

instance : Compares (Option ClosureId) := ⟨fun naming left right => right = left.map naming⟩

instance : Compares (Bindings ClosureId) := ⟨fun naming left right => left.Alike naming right⟩

instance : Compares Closure :=
  ⟨fun naming left right => right = left ∧ Steady naming left.decl.constants⟩

instance : Compares (List Closure) :=
  ⟨fun naming left right =>
    right = left ∧ ∀ closure ∈ left, Steady naming closure.decl.constants⟩

end Compares

inductive Outcome.Alike {ε α : Type} [Compares ε] [Compares α] (naming : ClosureId ↪ ClosureId) :
    Outcome ε α -> Outcome ε α -> Prop where
  | done {left right : α} :
      Compares.alike naming left right -> Alike naming (.done left) (.done right)
  | failed {left right : ε} :
      Compares.alike naming left right -> Alike naming (.failed left) (.failed right)
  | exhausted : Alike naming .exhausted .exhausted

def State.messages (state : State) : List String :=
  state.log.toList.map Event.text

variable {ε δ α β : Type} {naming : ClosureId ↪ ClosureId}

/-- Two computations that end alike, with the states that they started in. -/
structure EndsAlike [Compares ε] [Compares α] (naming : ClosureId ↪ ClosureId)
    (first second : State) (left right : Outcome ε α × State) : Prop where
  outcome : left.1.Alike naming right.1
  heap : left.2.heap.Alike naming right.2.heap
  messages : ∃ said, left.2.messages = first.messages ++ said ∧
    right.2.messages = second.messages ++ said

def Exec.Parallel [Compares ε] [Compares α] (naming : ClosureId ↪ ClosureId)
    (left right : Exec ε α) : Prop :=
  ∀ first second : State, first.heap.Alike naming second.heap ->
    EndsAlike naming first second (left first) (right second)

namespace Exec.Parallel

variable [Compares ε] [Compares δ] [Compares α] [Compares β]

theorem of_steady {left right : Exec ε α} (kept : ∀ state, (left state).2 = state)
    (keptRight : ∀ state, (right state).2 = state)
    (outcomes : ∀ first second : State, first.heap.Alike naming second.heap ->
      (left first).1.Alike naming (right second).1) :
    left.Parallel naming right := by
  intro first second alike
  refine ⟨outcomes first second alike, ?_, [], ?_, ?_⟩
  · rw [kept, keptRight]
    exact alike
  · rw [kept, List.append_nil]
  · rw [keptRight, List.append_nil]

theorem pure {left right : α} (alike : Compares.alike naming left right) :
    (Pure.pure left : Exec ε α).Parallel naming (Pure.pure right) :=
  of_steady (fun _ => rfl) (fun _ => rfl) fun _ _ _ => .done alike

theorem fail {left right : ε} (alike : Compares.alike naming left right) :
    (Exec.fail left : Exec ε α).Parallel naming (Exec.fail right) :=
  of_steady (fun _ => rfl) (fun _ => rfl) fun _ _ _ => .failed alike

theorem exhaust : (Exec.exhaust : Exec ε α).Parallel naming Exec.exhaust :=
  of_steady (fun _ => rfl) (fun _ => rfl) fun _ _ _ => .exhausted

theorem read {view other : Heap -> α}
    (views : ∀ left right, Heap.Alike naming left right ->
      Compares.alike naming (view left) (other right)) :
    (Exec.read view : Exec ε α).Parallel naming (Exec.read other) :=
  of_steady (fun _ => rfl) (fun _ => rfl) fun _ _ alike => .done (views _ _ alike)

theorem change {left right : Change} (changes : left.Alike naming right) :
    (Exec.change left : Exec ε Unit).Parallel naming (Exec.change right) :=
  fun first second alike =>
    ⟨.done rfl, alike.apply changes, [], by simp [Exec.change, State.messages],
      by simp [Exec.change, State.messages]⟩

theorem logAll {events others : List Event}
    (texts : others.map Event.text = events.map Event.text) :
    (Exec.logAll events : Exec ε Unit).Parallel naming (Exec.logAll others) :=
  fun first second alike =>
    ⟨.done rfl, alike, events.map Event.text, by simp [Exec.logAll, State.messages],
      by simp [Exec.logAll, State.messages, texts]⟩

theorem log {event other : Event} (text : other.text = event.text) :
    (Exec.log event : Exec ε Unit).Parallel naming (Exec.log other) :=
  fun first second alike =>
    ⟨.done rfl, alike, [event.text], by simp [Exec.log, State.messages],
      by simp [Exec.log, State.messages, text]⟩

theorem bind {left right : Exec ε α} {next other : α -> Exec ε β}
    (start : left.Parallel naming right)
    (rest : ∀ value result, Compares.alike naming value result ->
      (next value).Parallel naming (other result)) :
    (left >>= next).Parallel naming (right >>= other) := by
  intro first second alike
  have ends := start first second alike
  rw [Exec.bind_apply, Exec.bind_apply]
  generalize left first = ended at ends ⊢
  generalize right second = other at ends ⊢
  obtain ⟨outcome, after⟩ := ended
  obtain ⟨result, later⟩ := other
  obtain ⟨outcomes, heaps, said, messages, others⟩ := ends
  cases outcomes with
  | failed errors => exact ⟨.failed errors, heaps, said, messages, others⟩
  | exhausted => exact ⟨.exhausted, heaps, said, messages, others⟩
  | done values =>
      obtain ⟨outcomes, heaps, more, messagesMore, othersMore⟩ := rest _ _ values after later heaps
      refine ⟨outcomes, heaps, said ++ more, ?_, ?_⟩
      · dsimp only at messages ⊢
        rw [messagesMore, messages, List.append_assoc]
      · dsimp only at others ⊢
        rw [othersMore, others, List.append_assoc]

omit [Compares α] in
theorem read_bind {view other : Heap -> α} {next last : α -> Exec ε β}
    (rest : ∀ left right, Heap.Alike naming left right ->
      (next (view left)).Parallel naming (last (other right))) :
    (Exec.read view >>= next).Parallel naming (Exec.read other >>= last) :=
  fun first second alike => rest first.heap second.heap alike first second alike

theorem log_bind {event other : Event} {next last : Unit -> Exec ε β}
    (text : other.text = event.text) (rest : (next ()).Parallel naming (last ())) :
    (Exec.log event >>= next).Parallel naming (Exec.log other >>= last) :=
  bind (log text) fun _ _ _ => rest

theorem allocate {view other : Heap -> α} {left right : Change}
    (changes : left.Alike naming right)
    (views : ∀ left right, Heap.Alike naming left right ->
      Compares.alike naming (view left) (other right)) :
    (Exec.allocate view left : Exec ε α).Parallel naming (Exec.allocate other right) :=
  bind (read views) fun _ _ values => bind (change changes) fun _ _ _ => pure values

theorem raise (error : Error) :
    (Exec.raise error : Exec Error α).Parallel naming (Exec.raise error) :=
  bind (logAll rfl) fun _ _ _ => fail rfl

theorem mapError {convert : ε -> δ} {left right : Exec ε α} (parallel : left.Parallel naming right)
    (errors : ∀ error other, Compares.alike naming error other ->
      Compares.alike naming (convert error) (convert other)) :
    (left.mapError convert).Parallel naming (right.mapError convert) := by
  intro first second alike
  have ends := parallel first second alike
  unfold Exec.mapError
  generalize left first = ended at ends ⊢
  generalize right second = other at ends ⊢
  obtain ⟨outcome, after⟩ := ended
  obtain ⟨result, later⟩ := other
  obtain ⟨outcomes, heaps, messages⟩ := ends
  cases outcomes with
  | failed causes => exact ⟨.failed (errors _ _ causes), heaps, messages⟩
  | exhausted => exact ⟨.exhausted, heaps, messages⟩
  | done values => exact ⟨.done values, heaps, messages⟩

theorem returnValue {left right : Exec Unwind Unit} (parallel : left.Parallel naming right) :
    left.returnValue.Parallel naming right.returnValue := by
  intro first second alike
  have ends := parallel first second alike
  unfold Exec.returnValue
  generalize left first = ended at ends ⊢
  generalize right second = other at ends ⊢
  obtain ⟨outcome, after⟩ := ended
  obtain ⟨result, later⟩ := other
  obtain ⟨outcomes, heaps, messages⟩ := ends
  cases outcomes with
  | @failed cause other causes =>
      have same : other = cause.rename naming := causes
      subst same
      cases cause with
      | error error => exact ⟨.failed rfl, heaps, messages⟩
      | returned value => exact ⟨.done rfl, heaps, messages⟩
  | exhausted => exact ⟨.exhausted, heaps, messages⟩
  | done values => exact ⟨.done rfl, heaps, messages⟩

end Exec.Parallel

section Operations

variable [Compares ε]

theorem ScopeId.create_parallel (enclosing : Option ScopeId) :
    (ScopeId.create enclosing : Exec ε ScopeId).Parallel naming (ScopeId.create enclosing) :=
  .allocate (.newScope ⟨.empty, rfl⟩) fun _ _ alike => alike.nextScope

theorem ScopeId.define_parallel (scope : ScopeId) (name : String) (value : Value) :
    (scope.define name value : Exec ε Unit).Parallel naming
      (scope.define name (value.rename naming)) := by
  refine .read_bind fun left right alike => .log_bind ?_ (.change (.define scope name value))
  rw [alike.display]
  rfl

theorem ScopeId.defineAll_parallel (scope : ScopeId) (entries : List (String × Value)) :
    (scope.defineAll entries : Exec ε Unit).Parallel naming
      (scope.defineAll (entries.map (Prod.map id (Value.rename naming)))) := by
  induction entries with
  | nil => exact .pure rfl
  | cons entry rest ih => exact .bind (ScopeId.define_parallel scope _ _) fun _ _ _ => ih

theorem ScopeId.lookup_parallel (scope : ScopeId) (name : String) (line : Nat) :
    (scope.lookup name line).Parallel naming (scope.lookup name line) := by
  refine .read_bind fun left right alike => ?_
  rw [alike.lookup]
  cases left.lookup scope name with
  | none => exact .raise _
  | some value => exact .pure rfl

theorem ScopeId.assign_parallel (scope : ScopeId) (name : String) (value : Value) (line : Nat) :
    (scope.assign name value line).Parallel naming
      (scope.assign name (value.rename naming) line) := by
  refine .read_bind fun left right alike => ?_
  rw [alike.holder?]
  cases left.holder? scope name with
  | none => exact .raise _
  | some holder => exact .change (.assign holder name value)

theorem Closure.create_parallel {decl : Decl Value} (steady : Steady naming decl.constants)
    (scope : ScopeId) (isInitializer : Bool) :
    (Closure.create decl scope isInitializer : Exec ε Closure).Parallel naming
      (Closure.create decl scope isInitializer) :=
  .log_bind rfl (.pure ⟨rfl, steady⟩)

theorem Closure.allocate_parallel {closure : Closure}
    (steady : Steady naming closure.decl.constants) :
    (closure.allocate : Exec ε ClosureId).Parallel naming closure.allocate :=
  .allocate (.newClosure steady) fun _ _ alike => alike.nextClosure

theorem Closure.allocateAll_parallel {methods : List Closure}
    (steady : ∀ closure ∈ methods, Steady naming closure.decl.constants)
    {table other : Bindings ClosureId} (tables : table.Alike naming other) :
    (Closure.allocateAll table methods : Exec ε (Bindings ClosureId)).Parallel naming
      (Closure.allocateAll other methods) := by
  induction methods generalizing table other with
  | nil => exact .pure tables
  | cons method rest ih =>
      have ⟨first, others⟩ := List.forall_mem_cons.mp steady
      refine .bind (Closure.allocate_parallel first) fun id result same => ?_
      rw [show result = naming id from same]
      exact ih others (tables.insert method.name id)

theorem Closure.bindTo_parallel {closure : Closure}
    (steady : Steady naming closure.decl.constants) (receiver : InstanceId) :
    (closure.bindTo receiver : Exec ε Closure).Parallel naming (closure.bindTo receiver) := by
  refine .read_bind fun left right alike => .log_bind (by rw [alike.displayInstance]) ?_
  refine .bind (.allocate (.bindScope closure.scope receiver) fun _ _ alike => alike.nextScope) ?_
  rintro _ scope rfl
  refine .read_bind fun left right alike => .log_bind ?_ (.pure ⟨rfl, steady⟩)
  rw [← alike.display]
  rfl

theorem ClosureId.bindTo_parallel (method : ClosureId) (receiver : InstanceId) :
    (method.bindTo receiver : Exec ε ClosureId).Parallel naming
      ((naming method).bindTo receiver) := by
  refine .read_bind fun left right alike => ?_
  rw [alike.closure]
  refine .bind (Closure.bindTo_parallel (alike.steady method) receiver) ?_
  rintro _ bound ⟨rfl, steady⟩
  exact Closure.allocate_parallel steady

theorem ClassId.create_parallel (name : String) (superclass : Option ClassId)
    {methods : List Closure}
    (steady : ∀ closure ∈ methods, Steady naming closure.decl.constants) :
    (ClassId.create name superclass methods : Exec ε ClassId).Parallel naming
      (ClassId.create name superclass methods) := by
  refine .bind (Closure.allocateAll_parallel steady .empty) fun table other tables => ?_
  refine .bind (.allocate (.newClass ⟨rfl, rfl, tables⟩) fun _ _ alike => alike.nextClass) ?_
  rintro id _ rfl
  refine .read_bind fun left right alike => .log_bind ?_ (.pure rfl)
  have names : (superclass.map fun parent => (right.cls parent).name) =
      superclass.map fun parent => (left.cls parent).name := by
    simp only [(alike.cls _).name]
  rw [names, Bindings.Alike.size tables]

theorem ClassId.findMethod_parallel (cls : ClassId) (name : String) :
    (cls.findMethod name : Exec ε (Option ClosureId)).Parallel naming (cls.findMethod name) := by
  refine .read_bind fun left right alike => .bind (.logAll (by rw [alike.searchEvents])) ?_
  exact fun _ _ _ => .read fun _ _ alike => alike.findMethod cls name

theorem ClassId.arity_parallel (cls : ClassId) :
    (cls.arity : Exec ε Nat).Parallel naming cls.arity := by
  refine .bind (ClassId.findMethod_parallel cls _) ?_
  rintro (_ | method) _ rfl
  · exact .pure rfl
  · exact .read fun _ _ alike => congrArg Closure.arity (alike.closure method)

theorem ClassId.boundMethod_parallel (cls : ClassId) (name : String) (receiver : InstanceId)
    (line : Nat) :
    (cls.boundMethod name receiver line).Parallel naming (cls.boundMethod name receiver line) := by
  refine .bind (ClassId.findMethod_parallel cls name) ?_
  rintro (_ | method) _ rfl
  · exact .raise _
  · refine .bind (ClosureId.bindTo_parallel method receiver) ?_
    rintro id _ rfl
    exact .pure rfl

theorem InstanceId.create_parallel (cls : ClassId) :
    (InstanceId.create cls : Exec ε InstanceId).Parallel naming (InstanceId.create cls) :=
  .read_bind fun _ _ alike => .log_bind (by rw [(alike.cls cls).name])
    (.allocate (.newInstance cls) fun _ _ alike => alike.nextInstance)

theorem InstanceId.get_parallel (object : InstanceId) (name : String) (line : Nat) :
    (object.get name line).Parallel naming (object.get name line) := by
  refine .read_bind fun left right alike => ?_
  rw [(alike.inst object).fields]
  cases (left.inst object).fields.get? name with
  | none =>
      refine .read_bind fun left right alike => ?_
      rw [(alike.inst object).cls]
      exact ClassId.boundMethod_parallel _ name object line
  | some value =>
      exact .read_bind fun left right alike => .log_bind (by rw [alike.display]) (.pure rfl)

theorem InstanceId.set_parallel (object : InstanceId) (name : String) (value : Value) :
    (object.set name value : Exec ε Unit).Parallel naming
      (object.set name (value.rename naming)) := by
  refine .read_bind fun left right alike => .log_bind ?_ (.change (.setField object name value))
  rw [alike.display]
  rfl

theorem ScopeId.superMethod_parallel (scope : ScopeId) (name : String) (line : Nat) :
    (scope.superMethod name line).Parallel naming (scope.superMethod name line) := by
  refine .bind (ScopeId.lookup_parallel scope _ line) ?_
  rintro superclass _ rfl
  refine .bind (ScopeId.lookup_parallel scope _ line) ?_
  rintro receiver _ rfl
  cases superclass with
  | cls cls =>
      cases receiver with
      | inst object => exact ClassId.boundMethod_parallel cls name object line
      | native | closure | cls | number | text | bool | nil => exact .raise _
  | native | closure | inst | number | text | bool | nil => exact .raise _

theorem Closure.createAll_parallel (scope : ScopeId) {decls : List (Decl Value)}
    (steady : Steady naming (Decl.constantsAll decls)) :
    (Closure.createAll scope decls : Exec ε (List Closure)).Parallel naming
      (Closure.createAll scope decls) := by
  induction decls with
  | nil => exact .pure ⟨rfl, by simp⟩
  | cons decl rest ih =>
      rw [Decl.constantsAll, steady_append] at steady
      refine .bind (Closure.create_parallel steady.1 scope _) ?_
      rintro _ method ⟨rfl, methodSteady⟩
      refine .bind (ih steady.2) ?_
      rintro _ methods ⟨rfl, methodsSteady⟩
      exact .pure ⟨rfl, List.forall_mem_cons.mpr ⟨methodSteady, methodsSteady⟩⟩

theorem ScopeId.methodScope_parallel (scope : ScopeId) (superclass : Option ClassId) :
    (scope.methodScope superclass : Exec ε ScopeId).Parallel naming
      (scope.methodScope superclass) := by
  cases superclass with
  | none => exact .pure rfl
  | some parent =>
      refine .bind (ScopeId.create_parallel (some scope)) ?_
      rintro _ inner rfl
      exact .bind (ScopeId.define_parallel inner superclassName (.cls parent)) fun _ _ _ =>
        .pure rfl

theorem ScopeId.declareClass_parallel (scope : ScopeId) (name : String)
    (superclass : Option ClassId) {methods : List (Decl Value)}
    (steady : Steady naming (Decl.constantsAll methods)) :
    (scope.declareClass name superclass methods : Exec ε Value).Parallel naming
      (scope.declareClass name superclass methods) := by
  refine .bind (ScopeId.methodScope_parallel scope superclass) ?_
  rintro _ inner rfl
  refine .bind (Closure.createAll_parallel inner steady) ?_
  rintro _ closures ⟨rfl, closuresSteady⟩
  refine .bind (ClassId.create_parallel name superclass closuresSteady) ?_
  rintro id _ rfl
  exact .pure rfl

end Operations

theorem sumFrom_rename (total : Number) (arguments : List Value) :
    sumFrom total (arguments.map (Value.rename naming)) =
      (sumFrom total arguments).mapError (Value.rename naming) := by
  induction arguments generalizing total with
  | nil => rfl
  | cons value rest ih =>
      cases value with
      | number value => exact ih (total.add value)
      | native | closure | cls | inst | text | bool | nil => rfl

theorem Builtin.apply_alike {left right : Heap} (alike : left.Alike naming right)
    (builtin : Builtin) (arguments : List Value) :
    builtin.apply right (arguments.map (Value.rename naming)) =
      (builtin.apply left arguments).map (Value.rename naming) := by
  have texts : (arguments.map (Value.rename naming)).map right.display =
      arguments.map left.display := by
    rw [List.map_map]
    exact List.map_congr_left fun value _ => alike.display value
  cases builtin with
  | sum =>
      simp only [Builtin.apply, sumFrom_rename]
      cases sumFrom (.ofNat 0) arguments with
      | ok total => rfl
      | error other =>
          simp only [Except.mapError, alike.display]
          rfl
  | count => simp only [Builtin.apply, List.length_map]; rfl
  | first =>
      cases arguments with
      | nil => rfl
      | cons value rest => rfl
  | concat => simp only [Builtin.apply, texts]; rfl
  | fail => simp only [Builtin.apply, texts]; rfl

theorem Native.call_parallel (function : Native) (line : Nat) (arguments : List Value) :
    (function.call line arguments).Parallel naming
      (function.call line (arguments.map (Value.rename naming))) := by
  refine .log_bind rfl ?_
  rw [List.length_map]
  split
  · exact .raise _
  · refine .read_bind fun left right alike => ?_
    rw [Builtin.apply_alike alike]
    cases function.builtin.apply left arguments with
    | error message => exact .raise _
    | ok value =>
        exact .read_bind fun left right alike => .log_bind (by rw [alike.display]) (.pure rfl)

def Caller.Parallel (naming : ClosureId ↪ ClosureId) (call : Caller) : Prop :=
  ∀ callee line arguments, (call callee line arguments).Parallel naming
    (call (callee.rename naming) line (arguments.map (Value.rename naming)))

def ClosureRunner.Parallel (naming : ClosureId ↪ ClosureId) (run : ClosureRunner) : Prop :=
  ∀ (closure : Closure) (arguments : List Value), Steady naming closure.decl.constants ->
    (run closure arguments).Parallel naming
      (run closure (arguments.map (Value.rename naming)))

def BodyRunner.Parallel (naming : ClosureId ↪ ClosureId) (run : BodyRunner) : Prop :=
  ∀ (body : List (Stmt Value)) (scope : ScopeId), Steady naming (Stmt.constantsAll body) ->
    (run body scope).Parallel naming (run body scope)

theorem Closure.call_parallel {run : BodyRunner} (parallel : run.Parallel naming) :
    ClosureRunner.Parallel naming (Closure.call run) := by
  intro closure arguments steady
  rw [Decl.constants_eq] at steady
  refine .log_bind rfl (.bind (ScopeId.create_parallel _) ?_)
  rintro _ scope rfl
  rw [List.zip_map_right]
  refine .bind (ScopeId.defineAll_parallel scope _) fun _ _ _ => ?_
  refine .bind (.returnValue (parallel _ scope steady)) ?_
  rintro value _ rfl
  split
  · exact ScopeId.lookup_parallel _ _ _
  · exact .read_bind fun left right alike => .log_bind (by rw [alike.display]) (.pure rfl)

theorem ClassId.instantiate_parallel {run : ClosureRunner} (parallel : run.Parallel naming)
    (cls : ClassId) (arguments : List Value) :
    (cls.instantiate run arguments).Parallel naming
      (cls.instantiate run (arguments.map (Value.rename naming))) := by
  refine .bind (InstanceId.create_parallel cls) ?_
  rintro _ object rfl
  refine .bind (ClassId.findMethod_parallel cls _) ?_
  rintro (_ | method) _ rfl
  · exact .pure rfl
  · refine .read_bind fun left right alike => .log_bind (by rw [(alike.cls cls).name]) ?_
    refine .read_bind fun left right alike => ?_
    rw [alike.closure]
    refine .bind (Closure.bindTo_parallel (alike.steady method) object) ?_
    rintro _ bound ⟨rfl, steady⟩
    exact .bind (parallel bound arguments steady) fun _ _ _ => .pure rfl

theorem Value.call_parallel {run : ClosureRunner} (parallel : run.Parallel naming) :
    Caller.Parallel naming (Value.call run) := by
  intro callee line arguments
  cases callee with
  | native function => exact Native.call_parallel function line arguments
  | closure id =>
      refine .read_bind fun left right alike => ?_
      rw [alike.closure, List.length_map]
      split
      · exact .raise _
      · exact parallel _ arguments (alike.steady id)
  | cls id =>
      refine .read_bind fun left right alike => .log_bind (by rw [(alike.cls id).name]) ?_
      refine .bind (ClassId.arity_parallel id) ?_
      rintro arity _ rfl
      rw [List.length_map]
      split
      · refine .bind (ClassId.arity_parallel id) ?_
        rintro expected _ rfl
        exact .raise _
      · exact ClassId.instantiate_parallel parallel id arguments
  | inst | number | text | bool | nil =>
      refine .read_bind fun left right alike => .log_bind ?_ (.raise _)
      rw [← alike.display]

theorem Value.add_rename (left right : Value) (line : Nat) :
    (left.rename naming).add (right.rename naming) line = left.add right line := by
  cases left <;> cases right <;> rfl

theorem Value.add_parallel (left right : Value) (line : Nat) :
    (left.add right line).Parallel naming
      ((left.rename naming).add (right.rename naming) line) := by
  rw [Value.add_rename]
  unfold Value.add
  split
  · exact .pure rfl
  · exact .pure rfl
  · exact .raise _

theorem Value.equals_rename (left right : Value) :
    (left.rename naming).equals (right.rename naming) = left.equals right := by
  cases left with
  | closure id =>
      cases right with
      | closure other => simp [Value.rename, Value.equals]
      | native | cls | inst | number | text | bool | nil => rfl
  | native | cls | inst | number | text | bool | nil => cases right <;> rfl

theorem Value.isTruthy_rename (value : Value) :
    (value.rename naming).isTruthy = value.isTruthy := by
  cases value <;> rfl

mutual

theorem Expr.eval_parallel {call : Caller} (parallel : call.Parallel naming) (scope : ScopeId)
    (expr : Expr Value) (steady : Steady naming expr.constants) :
    (expr.eval call scope).Parallel naming (expr.eval call scope) := by
  match expr with
  | .const value =>
      rw [Expr.constants] at steady
      rw [Expr.eval]
      exact .pure (steady value (List.mem_singleton.mpr rfl)).symm
  | .var name line =>
      rw [Expr.eval]
      exact ScopeId.lookup_parallel scope name line
  | .get object name line =>
      rw [Expr.constants] at steady
      rw [Expr.eval]
      refine .bind (Expr.eval_parallel parallel scope object steady) ?_
      rintro value _ rfl
      cases value with
      | inst id => exact InstanceId.get_parallel id name line
      | native | closure | cls | number | text | bool | nil => exact .raise _
  | .call callee arguments line =>
      rw [Expr.constants, steady_append] at steady
      rw [Expr.eval]
      refine .bind (Expr.eval_parallel parallel scope callee steady.1) ?_
      rintro callee _ rfl
      refine .bind (Expr.evalAll_parallel parallel scope arguments steady.2) ?_
      rintro values _ rfl
      exact parallel callee line values
  | .superMethod name line =>
      rw [Expr.eval]
      exact ScopeId.superMethod_parallel scope name line
  | .add left right line =>
      rw [Expr.constants, steady_append] at steady
      rw [Expr.eval]
      refine .bind (Expr.eval_parallel parallel scope left steady.1) ?_
      rintro left _ rfl
      refine .bind (Expr.eval_parallel parallel scope right steady.2) ?_
      rintro right _ rfl
      exact Value.add_parallel left right line
  | .equal left right =>
      rw [Expr.constants, steady_append] at steady
      rw [Expr.eval]
      refine .bind (Expr.eval_parallel parallel scope left steady.1) ?_
      rintro left _ rfl
      refine .bind (Expr.eval_parallel parallel scope right steady.2) ?_
      rintro right _ rfl
      exact .pure (congrArg Value.bool (Value.equals_rename left right))
  | .display operand =>
      rw [Expr.constants] at steady
      rw [Expr.eval]
      refine .bind (Expr.eval_parallel parallel scope operand steady) ?_
      rintro value _ rfl
      exact .read_bind fun _ _ alike => .pure (congrArg Value.text (alike.display value))
  | .function decl =>
      rw [Expr.constants] at steady
      rw [Expr.eval]
      refine .bind (Closure.create_parallel steady scope false) ?_
      rintro _ closure ⟨rfl, closureSteady⟩
      refine .bind (Closure.allocate_parallel closureSteady) ?_
      rintro id _ rfl
      exact .pure rfl
  | .cls name none methods line =>
      rw [Expr.constants] at steady
      rw [Expr.eval]
      exact ScopeId.declareClass_parallel scope name none steady
  | .cls name (some superclass) methods line =>
      rw [Expr.constants, steady_append] at steady
      rw [Expr.eval]
      refine .bind (Expr.eval_parallel parallel scope superclass steady.1) ?_
      rintro value _ rfl
      cases value with
      | cls parent => exact ScopeId.declareClass_parallel scope name (some parent) steady.2
      | native | closure | inst | number | text | bool | nil => exact .raise _

theorem Expr.evalAll_parallel {call : Caller} (parallel : call.Parallel naming) (scope : ScopeId)
    (exprs : List (Expr Value)) (steady : Steady naming (Expr.constantsAll exprs)) :
    (Expr.evalAll call scope exprs).Parallel naming (Expr.evalAll call scope exprs) := by
  match exprs with
  | [] =>
      rw [Expr.evalAll]
      exact .pure rfl
  | head :: tail =>
      rw [Expr.constantsAll, steady_append] at steady
      rw [Expr.evalAll]
      refine .bind (Expr.eval_parallel parallel scope head steady.1) ?_
      rintro value _ rfl
      refine .bind (Expr.evalAll_parallel parallel scope tail steady.2) ?_
      rintro values _ rfl
      exact .pure rfl

end

theorem Exec.Parallel.toUnwind [Compares α] {left right : Exec Error α}
    (parallel : left.Parallel naming right) :
    (left.mapError Unwind.error).Parallel naming (right.mapError Unwind.error) := by
  refine .mapError parallel ?_
  rintro error _ rfl
  rfl

theorem Expr.evalIn_parallel {call : Caller} (parallel : call.Parallel naming) (scope : ScopeId)
    {expr : Expr Value} (steady : Steady naming expr.constants) :
    (expr.evalIn call scope).Parallel naming (expr.evalIn call scope) :=
  .toUnwind (Expr.eval_parallel parallel scope expr steady)

mutual

theorem Stmt.exec_parallel {call : Caller} (parallel : call.Parallel naming) (stmt : Stmt Value)
    (scope : ScopeId) (steady : Steady naming stmt.constants) :
    (stmt.exec call scope).Parallel naming (stmt.exec call scope) := by
  match stmt with
  | .run value =>
      rw [Stmt.constants] at steady
      rw [Stmt.exec]
      exact .bind (Expr.evalIn_parallel parallel scope steady) fun _ _ _ => .pure rfl
  | .ret value =>
      rw [Stmt.constants] at steady
      rw [Stmt.exec]
      refine .bind (Expr.evalIn_parallel parallel scope steady) ?_
      rintro value _ rfl
      exact .fail rfl
  | .define name value =>
      rw [Stmt.constants] at steady
      rw [Stmt.exec]
      refine .bind (Expr.evalIn_parallel parallel scope steady) ?_
      rintro value _ rfl
      exact ScopeId.define_parallel scope name value
  | .assign name value line =>
      rw [Stmt.constants] at steady
      rw [Stmt.exec]
      refine .bind (Expr.evalIn_parallel parallel scope steady) ?_
      rintro value _ rfl
      exact .toUnwind (ScopeId.assign_parallel scope name value line)
  | .set object name value line =>
      rw [Stmt.constants, steady_append] at steady
      rw [Stmt.exec]
      refine .bind (Expr.evalIn_parallel parallel scope steady.1) ?_
      rintro object _ rfl
      cases object with
      | inst id =>
          refine .bind (Expr.evalIn_parallel parallel scope steady.2) ?_
          rintro value _ rfl
          exact InstanceId.set_parallel id name value
      | native | closure | cls | number | text | bool | nil => exact .toUnwind (.raise _)
  | .fail message line =>
      rw [Stmt.exec]
      exact .toUnwind (.raise _)
  | .cond condition thenBranch elseBranch =>
      rw [Stmt.constants, steady_append, steady_append] at steady
      rw [Stmt.exec]
      refine .bind (Expr.evalIn_parallel parallel scope steady.1.1) ?_
      rintro value _ rfl
      rw [Value.isTruthy_rename]
      split
      · exact Stmt.execAll_parallel parallel thenBranch scope steady.1.2
      · exact Stmt.execAll_parallel parallel elseBranch scope steady.2
  | .block body =>
      rw [Stmt.constants] at steady
      rw [Stmt.exec]
      refine .bind (ScopeId.create_parallel (some scope)) ?_
      rintro _ inner rfl
      exact Stmt.execAll_parallel parallel body inner steady

theorem Stmt.execAll_parallel {call : Caller} (parallel : call.Parallel naming)
    (stmts : List (Stmt Value)) (scope : ScopeId)
    (steady : Steady naming (Stmt.constantsAll stmts)) :
    (Stmt.execAll call stmts scope).Parallel naming (Stmt.execAll call stmts scope) := by
  match stmts with
  | [] =>
      rw [Stmt.execAll]
      exact .pure rfl
  | head :: tail =>
      rw [Stmt.constantsAll, steady_append] at steady
      rw [Stmt.execAll]
      exact .bind (Stmt.exec_parallel parallel head scope steady.1) fun _ _ _ =>
        Stmt.execAll_parallel parallel tail scope steady.2

end

theorem invoke_parallel (naming : ClosureId ↪ ClosureId) (depth : Nat) :
    Caller.Parallel naming (invoke depth) := by
  induction depth with
  | zero => exact fun _ _ _ => .exhaust
  | succ depth ih => exact Value.call_parallel (Closure.call_parallel (Stmt.execAll_parallel ih))

theorem runClosure_parallel (naming : ClosureId ↪ ClosureId) (depth : Nat) :
    ClosureRunner.Parallel naming (runClosure depth) :=
  Closure.call_parallel (Stmt.execAll_parallel (invoke_parallel naming depth))

end Lox
