import Lox.Session.Run

set_option autoImplicit false

namespace Lox

variable {ε δ α β : Type}

/-- From states that differ in their log only, the same happens and the same is added to it. -/
def Exec.WriteOnly (action : Exec ε α) : Prop :=
  ∀ state : State, ∃ said : List Event, ∀ log : Array Event,
    action { state with log } =
      ((action state).1, { (action state).2 with log := log ++ said })

namespace Exec.WriteOnly

@[grind ←]
theorem pure (value : α) : (Pure.pure value : Exec ε α).WriteOnly :=
  fun _ => ⟨[], fun log => by simp⟩

@[grind ←]
theorem fail (error : ε) : (Exec.fail error : Exec ε α).WriteOnly :=
  fun _ => ⟨[], fun log => by simp [Exec.fail]⟩

@[grind ←]
theorem exhaust : (Exec.exhaust : Exec ε α).WriteOnly :=
  fun _ => ⟨[], fun log => by simp [Exec.exhaust]⟩

@[grind ←]
theorem read (view : Heap -> α) : (Exec.read view : Exec ε α).WriteOnly :=
  fun _ => ⟨[], fun log => by simp [Exec.read]⟩

@[grind ←]
theorem change (change : Change) : (Exec.change change : Exec ε Unit).WriteOnly :=
  fun _ => ⟨[], fun log => by simp [Exec.change]⟩

@[grind ←]
theorem log (event : Event) : (Exec.log event : Exec ε Unit).WriteOnly :=
  fun _ => ⟨[event], fun log => by simp [Exec.log]⟩

@[grind ←]
theorem logAll (events : List Event) : (Exec.logAll events : Exec ε Unit).WriteOnly :=
  fun _ => ⟨events, fun log => by simp [Exec.logAll]⟩

@[grind ←]
theorem bind {first : Exec ε α} {next : α -> Exec ε β} (start : first.WriteOnly)
    (rest : ∀ value, (next value).WriteOnly) : (first >>= next).WriteOnly := by
  intro state
  obtain ⟨said, start⟩ := start state
  rcases ended : first state with ⟨outcome, after⟩
  rw [ended] at start
  cases outcome with
  | done value =>
      obtain ⟨more, rest⟩ := rest value after
      refine ⟨said ++ more, fun log => ?_⟩
      have joined : log ++ said ++ more = log ++ (said ++ more) := Array.ext' (by simp)
      simp only [Exec.bind_apply, ended, start log]
      rw [rest (log ++ said), joined]
  | failed error =>
      refine ⟨said, fun log => ?_⟩
      simp only [Exec.bind_apply, ended, start log]
  | exhausted =>
      refine ⟨said, fun log => ?_⟩
      simp only [Exec.bind_apply, ended, start log]

@[grind ←]
theorem mapError {convert : ε -> δ} {action : Exec ε α} (blind : action.WriteOnly) :
    (action.mapError convert).WriteOnly := by
  intro state
  obtain ⟨said, blind⟩ := blind state
  refine ⟨said, fun log => ?_⟩
  rw [Exec.mapError, blind log, Exec.mapError]
  rcases action state with ⟨outcome, after⟩
  cases outcome <;> rfl

@[grind ←]
theorem returnValue {body : Exec Unwind Unit} (blind : body.WriteOnly) :
    body.returnValue.WriteOnly := by
  intro state
  obtain ⟨said, blind⟩ := blind state
  refine ⟨said, fun log => ?_⟩
  rw [Exec.returnValue, blind log, Exec.returnValue]
  rcases body state with ⟨_ | (cause | value) | _, after⟩ <;> rfl

@[grind ←]
theorem allocate (view : Heap -> α) (change : Change) :
    (Exec.allocate view change : Exec ε α).WriteOnly :=
  bind (read view) fun id => bind (.change change) fun _ => pure id

@[grind ←]
theorem raise (error : Error) : (Exec.raise error : Exec Error α).WriteOnly :=
  bind (logAll _) fun _ => fail error

end Exec.WriteOnly

section Objects

variable (scope : ScopeId) (cls : ClassId) (object : InstanceId) (closure : Closure)
  (name : String) (value : Value) (line : Nat)

@[grind ←]
theorem ScopeId.create_writeOnly (enclosing : Option ScopeId) :
    (ScopeId.create enclosing : Exec ε ScopeId).WriteOnly :=
  .allocate _ _

@[grind ←]
theorem ScopeId.clone_writeOnly : (scope.clone : Exec ε ScopeId).WriteOnly :=
  .bind (.read _) fun _ => .allocate _ _

@[grind ←]
theorem ScopeId.define_writeOnly : (scope.define name value : Exec ε Unit).WriteOnly :=
  .bind (.read _) fun _ => .bind (.log _) fun _ => .change _

theorem ScopeId.defineAll_writeOnly (entries : List (String × Value)) :
    (scope.defineAll entries : Exec ε Unit).WriteOnly := by
  induction entries with
  | nil => exact .pure ()
  | cons entry rest ih => exact .bind (ScopeId.define_writeOnly scope _ _) fun _ => ih

@[grind ←]
theorem ScopeId.lookup_writeOnly : (scope.lookup name line).WriteOnly := by
  refine .bind (.read _) fun found => ?_
  cases found with
  | none => exact .raise _
  | some value => exact .pure value

@[grind ←]
theorem ScopeId.assign_writeOnly : (scope.assign name value line).WriteOnly := by
  refine .bind (.read _) fun holder => ?_
  cases holder with
  | none => exact .raise _
  | some holder => exact .change _

@[grind ←]
theorem Closure.create_writeOnly (decl : Decl Value) (isInitializer : Bool) :
    (Closure.create decl scope isInitializer : Exec ε Closure).WriteOnly :=
  .bind (.log _) fun _ => .pure _

theorem Closure.createAll_writeOnly (decls : List (Decl Value)) :
    (Closure.createAll scope decls : Exec ε (List Closure)).WriteOnly := by
  induction decls with
  | nil => exact .pure []
  | cons decl rest ih =>
      exact .bind (Closure.create_writeOnly scope decl _) fun _ => .bind ih fun _ => .pure _

@[grind ←]
theorem Closure.allocate_writeOnly : (closure.allocate : Exec ε ClosureId).WriteOnly :=
  .allocate _ _

theorem Closure.allocateAll_writeOnly (table : Bindings ClosureId) (methods : List Closure) :
    (Closure.allocateAll table methods : Exec ε (Bindings ClosureId)).WriteOnly := by
  induction methods generalizing table with
  | nil => exact .pure table
  | cons method rest ih => exact .bind (Closure.allocate_writeOnly method) fun _ => ih _

theorem Closure.bindTo_writeOnly : (closure.bindTo object : Exec ε Closure).WriteOnly := by
  refine .bind (.read _) fun _ => .bind (.log _) fun _ => .bind (.allocate _ _) fun scope => ?_
  exact .bind (.read _) fun _ => .bind (.log _) fun _ => .pure _

@[grind ←]
theorem ClosureId.bindTo_writeOnly (method : ClosureId) :
    (method.bindTo object : Exec ε ClosureId).WriteOnly := by
  refine .bind (.read _) fun closure => .bind (Closure.bindTo_writeOnly object closure) ?_
  exact fun bound => Closure.allocate_writeOnly bound

theorem ClassId.create_writeOnly (superclass : Option ClassId) (methods : List Closure) :
    (ClassId.create name superclass methods : Exec ε ClassId).WriteOnly := by
  refine .bind (Closure.allocateAll_writeOnly _ methods) fun table => ?_
  refine .bind (.allocate _ _) fun id => .bind (.read _) fun superName => ?_
  exact .bind (.log _) fun _ => .pure id

@[grind ←]
theorem ClassId.findMethod_writeOnly :
    (cls.findMethod name : Exec ε (Option ClosureId)).WriteOnly :=
  .bind (.read _) fun _ => .bind (.logAll _) fun _ => .read _

@[grind ←]
theorem ClassId.arity_writeOnly : (cls.arity : Exec ε Nat).WriteOnly := by
  refine .bind (ClassId.findMethod_writeOnly cls _) fun found => ?_
  cases found with
  | none => exact .pure 0
  | some method => exact .read _

theorem ClassId.boundMethod_writeOnly : (cls.boundMethod name object line).WriteOnly := by
  refine .bind (ClassId.findMethod_writeOnly cls name) fun found => ?_
  cases found with
  | none => exact .raise _
  | some method => exact .bind (ClosureId.bindTo_writeOnly object method) fun _ => .pure _

@[grind ←]
theorem InstanceId.create_writeOnly : (InstanceId.create cls : Exec ε InstanceId).WriteOnly :=
  .bind (.read _) fun _ => .bind (.log _) fun _ => .allocate _ _

@[grind ←]
theorem InstanceId.get_writeOnly : (object.get name line).WriteOnly := by
  refine .bind (.read _) fun field => ?_
  cases field with
  | none => exact .bind (.read _) fun cls => ClassId.boundMethod_writeOnly cls object name line
  | some value => exact .bind (.read _) fun _ => .bind (.log _) fun _ => .pure value

@[grind ←]
theorem InstanceId.set_writeOnly : (object.set name value : Exec ε Unit).WriteOnly :=
  .bind (.read _) fun _ => .bind (.log _) fun _ => .change _

theorem ScopeId.superMethod_writeOnly : (scope.superMethod name line).WriteOnly := by
  refine .bind (ScopeId.lookup_writeOnly scope _ line) fun superclass => ?_
  refine .bind (ScopeId.lookup_writeOnly scope _ line) fun receiver => ?_
  split
  · exact ClassId.boundMethod_writeOnly _ _ name line
  · exact .raise _

theorem ScopeId.methodScope_writeOnly (superclass : Option ClassId) :
    (scope.methodScope superclass : Exec ε ScopeId).WriteOnly := by
  cases superclass with
  | none => exact .pure scope
  | some parent =>
      refine .bind (ScopeId.create_writeOnly (some scope)) fun inner => ?_
      exact .bind (ScopeId.define_writeOnly inner _ _) fun _ => .pure inner

theorem ScopeId.declareClass_writeOnly (superclass : Option ClassId)
    (methods : List (Decl Value)) :
    (scope.declareClass name superclass methods : Exec ε Value).WriteOnly := by
  refine .bind (ScopeId.methodScope_writeOnly scope superclass) fun inner => ?_
  refine .bind (Closure.createAll_writeOnly inner methods) fun closures => ?_
  exact .bind (ClassId.create_writeOnly name superclass closures) fun _ => .pure _

theorem Value.add_writeOnly (left right : Value) : (left.add right line).WriteOnly := by
  unfold Value.add
  split
  · exact .pure _
  · exact .pure _
  · exact .raise _

theorem Native.call_writeOnly (function : Native) (arguments : List Value) :
    (function.call line arguments).WriteOnly := by
  refine .bind (.log _) fun _ => ?_
  split
  · exact .raise _
  · refine .bind (.read _) fun applied => ?_
    cases applied with
    | error message => exact .raise _
    | ok value => exact .bind (.read _) fun _ => .bind (.log _) fun _ => .pure value

end Objects

def Caller.WriteOnly (call : Caller) : Prop :=
  ∀ callee line arguments, (call callee line arguments).WriteOnly

def ClosureRunner.WriteOnly (run : ClosureRunner) : Prop :=
  ∀ closure arguments, (run closure arguments).WriteOnly

mutual

theorem Expr.eval_writeOnly {call : Caller} (blind : call.WriteOnly) (scope : ScopeId)
    (expr : Expr Value) : (expr.eval call scope).WriteOnly := by
  match expr with
  | .const value => exact .pure value
  | .var name line => exact ScopeId.lookup_writeOnly scope name line
  | .get object name line =>
      refine .bind (Expr.eval_writeOnly blind scope object) fun value => ?_
      cases value with
      | inst id => exact InstanceId.get_writeOnly id name line
      | native | closure | cls | number | text | bool | nil => exact .raise _
  | .call callee arguments line =>
      refine .bind (Expr.eval_writeOnly blind scope callee) fun callee => ?_
      refine .bind (Expr.evalAll_writeOnly blind scope arguments) fun values => ?_
      exact blind callee line values
  | .superMethod name line => exact ScopeId.superMethod_writeOnly scope name line
  | .add left right line =>
      refine .bind (Expr.eval_writeOnly blind scope left) fun left => ?_
      refine .bind (Expr.eval_writeOnly blind scope right) fun right => ?_
      exact Value.add_writeOnly line left right
  | .equal left right =>
      refine .bind (Expr.eval_writeOnly blind scope left) fun left => ?_
      exact .bind (Expr.eval_writeOnly blind scope right) fun right => .pure _
  | .display operand =>
      refine .bind (Expr.eval_writeOnly blind scope operand) fun value => ?_
      exact .bind (.read _) fun _ => .pure _
  | .function decl =>
      refine .bind (Closure.create_writeOnly scope decl false) fun closure => ?_
      exact .bind (Closure.allocate_writeOnly closure) fun _ => .pure _
  | .cls name none methods line => exact ScopeId.declareClass_writeOnly scope name none methods
  | .cls name (some superclass) methods line =>
      refine .bind (Expr.eval_writeOnly blind scope superclass) fun value => ?_
      cases value with
      | cls parent => exact ScopeId.declareClass_writeOnly scope name (some parent) methods
      | native | closure | inst | number | text | bool | nil => exact .raise _

theorem Expr.evalAll_writeOnly {call : Caller} (blind : call.WriteOnly) (scope : ScopeId)
    (exprs : List (Expr Value)) : (Expr.evalAll call scope exprs).WriteOnly := by
  match exprs with
  | [] => exact .pure []
  | head :: tail =>
      refine .bind (Expr.eval_writeOnly blind scope head) fun value => ?_
      exact .bind (Expr.evalAll_writeOnly blind scope tail) fun values => .pure _

end

theorem Expr.evalIn_writeOnly {call : Caller} (blind : call.WriteOnly) (scope : ScopeId)
    (expr : Expr Value) : (expr.evalIn call scope).WriteOnly :=
  .mapError (Expr.eval_writeOnly blind scope expr)

mutual

theorem Stmt.exec_writeOnly {call : Caller} (blind : call.WriteOnly) (stmt : Stmt Value)
    (scope : ScopeId) : (stmt.exec call scope).WriteOnly := by
  match stmt with
  | .run value => exact .bind (Expr.evalIn_writeOnly blind scope value) fun _ => .pure ()
  | .ret value => exact .bind (Expr.evalIn_writeOnly blind scope value) fun _ => .fail _
  | .define name value =>
      refine .bind (Expr.evalIn_writeOnly blind scope value) fun value => ?_
      exact ScopeId.define_writeOnly scope name value
  | .assign name value line =>
      refine .bind (Expr.evalIn_writeOnly blind scope value) fun value => ?_
      exact .mapError (ScopeId.assign_writeOnly scope name value line)
  | .set object name value line =>
      refine .bind (Expr.evalIn_writeOnly blind scope object) fun object => ?_
      cases object with
      | inst id =>
          refine .bind (Expr.evalIn_writeOnly blind scope value) fun value => ?_
          exact InstanceId.set_writeOnly id name value
      | native | closure | cls | number | text | bool | nil => exact .mapError (.raise _)
  | .fail message line => exact .mapError (.raise _)
  | .cond condition thenBranch elseBranch =>
      refine .bind (Expr.evalIn_writeOnly blind scope condition) fun value => ?_
      split
      · exact Stmt.execAll_writeOnly blind thenBranch scope
      · exact Stmt.execAll_writeOnly blind elseBranch scope
  | .block body =>
      refine .bind (ScopeId.create_writeOnly (some scope)) fun inner => ?_
      exact Stmt.execAll_writeOnly blind body inner

theorem Stmt.execAll_writeOnly {call : Caller} (blind : call.WriteOnly)
    (stmts : List (Stmt Value)) (scope : ScopeId) : (Stmt.execAll call stmts scope).WriteOnly := by
  match stmts with
  | [] => exact .pure ()
  | head :: tail =>
      refine .bind (Stmt.exec_writeOnly blind head scope) fun _ => ?_
      exact Stmt.execAll_writeOnly blind tail scope

end

theorem Closure.call_writeOnly {call : Caller} (blind : call.WriteOnly) :
    ClosureRunner.WriteOnly (Closure.call (Stmt.execAll call)) := by
  intro closure arguments
  refine .bind (.log _) fun _ => .bind (ScopeId.create_writeOnly _) fun scope => ?_
  refine .bind (ScopeId.defineAll_writeOnly scope _) fun _ => ?_
  refine .bind (.returnValue (Stmt.execAll_writeOnly blind _ scope)) fun value => ?_
  split
  · exact ScopeId.lookup_writeOnly _ _ _
  · exact .bind (.read _) fun _ => .bind (.log _) fun _ => .pure value

theorem ClassId.instantiate_writeOnly {run : ClosureRunner} (blind : run.WriteOnly)
    (cls : ClassId) (arguments : List Value) : (cls.instantiate run arguments).WriteOnly := by
  refine .bind (InstanceId.create_writeOnly cls) fun object => ?_
  refine .bind (ClassId.findMethod_writeOnly cls _) fun found => ?_
  cases found with
  | none => exact .pure _
  | some method =>
      refine .bind (.read _) fun _ => .bind (.log _) fun _ => .bind (.read _) fun closure => ?_
      refine .bind (Closure.bindTo_writeOnly object closure) fun bound => ?_
      exact .bind (blind bound arguments) fun _ => .pure _

theorem Value.call_writeOnly {run : ClosureRunner} (blind : run.WriteOnly) :
    Caller.WriteOnly (Value.call run) := by
  intro callee line arguments
  cases callee with
  | native function => exact Native.call_writeOnly line function arguments
  | closure id =>
      refine .bind (.read _) fun closure => ?_
      split
      · exact .raise _
      · exact blind closure arguments
  | cls id =>
      refine .bind (.read _) fun _ => .bind (.log _) fun _ => ?_
      refine .bind (ClassId.arity_writeOnly id) fun arity => ?_
      split
      · exact .bind (ClassId.arity_writeOnly id) fun _ => .raise _
      · exact ClassId.instantiate_writeOnly blind id arguments
  | inst | number | text | bool | nil =>
      exact .bind (.read _) fun _ => .bind (.log _) fun _ => .raise _

theorem invoke_writeOnly (depth : Nat) : Caller.WriteOnly (invoke depth) := by
  induction depth with
  | zero => exact fun _ _ _ => .exhaust
  | succ depth ih => exact Value.call_writeOnly (Closure.call_writeOnly ih)

theorem runClosure_writeOnly (depth : Nat) : ClosureRunner.WriteOnly (runClosure depth) :=
  Closure.call_writeOnly (invoke_writeOnly depth)

@[grind ←]
theorem Exec.required_writeOnly (item : Option α) : (Exec.required item).WriteOnly := by
  cases item with
  | none => exact .fail Fault.misuse
  | some value => exact .pure value

@[grind ←]
theorem valueResult_writeOnly {action : Exec Error Value} (blind : action.WriteOnly) :
    (valueResult action).WriteOnly :=
  .bind (.mapError blind) fun _ => .pure _

@[grind ←]
theorem functionResult_writeOnly (closure : Closure) : (functionResult closure).WriteOnly :=
  .bind (Closure.allocate_writeOnly closure) fun _ => .pure _

namespace Registers

variable (registers : Registers)

@[grind ←]
theorem need_writeOnly (find : Registers -> Option α) : (registers.need find).WriteOnly :=
  Exec.required_writeOnly _

@[grind ←]
theorem makeFunction_writeOnly (spec : FunctionSpec) :
    (registers.makeFunction spec).WriteOnly := by
  refine .bind (registers.need_writeOnly _) fun decl => ?_
  refine .bind (registers.need_writeOnly _) fun scope => ?_
  exact Closure.create_writeOnly scope decl _

theorem makeMethod_writeOnly (spec : MethodSpec) : (registers.makeMethod spec).WriteOnly := by
  cases spec with
  | copy name => exact .bind (registers.need_writeOnly _) fun id => .read _
  | make spec => exact registers.makeFunction_writeOnly spec

theorem makeMethods_writeOnly (specs : List (Option MethodSpec)) :
    (registers.makeMethods specs).WriteOnly := by
  induction specs with
  | nil => exact .pure []
  | cons spec rest ih =>
      refine .bind (Exec.required_writeOnly spec) fun spec => ?_
      exact .bind (registers.makeMethod_writeOnly spec) fun _ => .bind ih fun _ => .pure _

@[grind ←]
theorem makeClass_writeOnly (name superclass : Option String)
    (methods : List (Option MethodSpec)) :
    (registers.makeClass name superclass methods).WriteOnly := by
  have parent : (superclass.mapM fun register => registers.need (·.class? register) :
      Exec Fault (Option ClassId)).WriteOnly := by
    cases superclass with
    | none => exact .pure none
    | some register => exact .bind (registers.need_writeOnly _) fun _ => .pure _
  refine .bind parent fun parent => ?_
  refine .bind (registers.makeMethods_writeOnly methods) fun closures => ?_
  refine .bind (Exec.required_writeOnly name) fun name => ?_
  exact .bind (ClassId.create_writeOnly name parent closures) fun _ => .pure _

theorem perform_writeOnly (depth : Nat) (operation : Operation) :
    (registers.perform depth operation).WriteOnly := by
  have calls := invoke_writeOnly depth
  have runs := runClosure_writeOnly depth
  have instances := ClassId.instantiate_writeOnly runs
  cases operation with
  | newScope enclosing => cases enclosing <;> grind [perform]
  | call callee arguments line => grind [perform, Caller.WriteOnly]
  | apply callee arguments => grind [perform, ClosureRunner.WriteOnly]
  | _ => grind [perform]

end Registers

namespace Session

def conclude (session : Session) (request : Request) (outcome : Outcome Fault Result)
    (state : State) : Reply × Session :=
  let session := { session with heap := state.heap }
  let log := state.log.toList
  match outcome with
  | .done result =>
      let (answer, numbering) := result.answer session.heap session.numbering
      (⟨answer, log⟩, { session with numbering }.store request result)
  | .failed (.raised error) => (⟨.failed error, log⟩, session)
  | .failed .misuse => (⟨.misuse, log⟩, session)
  | .exhausted => (⟨.exhausted, log⟩, session)

def performOnto (log : List Event) (session : Session) (depth : Nat) (request : Request) :
    Reply × Session :=
  let (outcome, state) := session.registers.perform depth request.operation
    { heap := session.heap, log := log.toArray }
  session.conclude request outcome state

/--
Perform requests with one log for all of them: with logging on it takes up what
they report, else this is thrown away after each.
-/
def performAllOnto (logging : Bool) (log : List Event) (session : Session) :
    List (Option Request) -> List Answer × List Event
  | [] => ([], log)
  | none :: rest =>
      let (answers, log) := session.performAllOnto logging log rest
      (.misuse :: answers, log)
  | some request :: rest =>
      let (reply, session) := session.performOnto log maxDepth request
      let kept := if logging then reply.log else log
      let (answers, log) := session.performAllOnto logging kept rest
      (reply.answer :: answers, log)

theorem perform_eq_onto (session : Session) (depth : Nat) (request : Request) :
    session.perform depth request = session.performOnto [] depth request := rfl

theorem conclude_log (session : Session) (request : Request) (outcome : Outcome Fault Result)
    (state : State) (log : List Event) (said : List Event) :
    session.conclude request outcome { state with log := log.toArray ++ said } =
      let (reply, session) := session.conclude request outcome { state with log := said.toArray }
      ({ reply with log := log ++ reply.log }, session) := by
  rcases outcome with result | (_ | error) | _ <;> simp [conclude]

theorem performOnto_eq (log : List Event) (session : Session) (depth : Nat) (request : Request) :
    session.performOnto log depth request =
      let (reply, session) := session.perform depth request
      ({ reply with log := log ++ reply.log }, session) := by
  obtain ⟨said, same⟩ :=
    session.registers.perform_writeOnly depth request.operation { heap := session.heap }
  have alone : (#[] : Array Event) ++ said = said.toArray := by simp
  rw [perform_eq_onto, performOnto, performOnto, same log.toArray, same [].toArray]
  dsimp only
  rw [conclude_log, alone]

/-- Whatever the log holds, everything ends in the same way and adds the same events to it. -/
theorem logging_write_only :
    (∀ (registers : Registers) (depth : Nat) (operation : Operation),
      (registers.perform depth operation).WriteOnly) ∧
    (∀ depth callee line arguments, (invoke depth callee line arguments).WriteOnly) ∧
    (∀ depth closure arguments, (runClosure depth closure arguments).WriteOnly) ∧
    (∀ depth cls arguments,
      (ClassId.instantiate (runClosure depth) cls arguments).WriteOnly) ∧
    ∀ (logging : Bool) (log : List Event) (session : Session) (requests : List (Option Request)),
      session.performAllOnto logging log requests =
        ((session.performAll requests).map Reply.answer,
          if logging then log ++ (session.performAll requests).flatMap Reply.log else log) := by
  refine ⟨Registers.perform_writeOnly, invoke_writeOnly, runClosure_writeOnly,
    fun depth => ClassId.instantiate_writeOnly (runClosure_writeOnly depth), ?_⟩
  intro logging log session requests
  induction requests generalizing session log with
  | nil => simp [performAllOnto, performAll]
  | cons request rest ih =>
      cases request with
      | none => simp [performAllOnto, performAll, ih]
      | some request => cases logging <;> simp [performAllOnto, performAll, performOnto_eq, ih]

end Session

end Lox
