import Lox.Proofs.Operations

set_option autoImplicit false

/-!
# Activations

The execution of a function is a sequence of deeds of its own: it reports
events, changes the heap, and calls. An activation keeps apart the scopes that
it has opened itself from those that its calls open, and the code of functions
is orderly: it defines variables in the former only, whatever calls do.
-/

namespace Lox

inductive Deed where
  | report (events : List Event)
  | change (change : Change)
  | call (callee : Value) (line : Nat) (arguments : List Value)

/-- An execution of a function that has come to a state and has opened some scopes by then. -/
structure Activation where
  state : State
  own : ScopeId -> Prop

namespace Deed

def run (call : Caller) (state : State) : Deed -> State
  | .report events => { state with log := state.log ++ events }
  | .change made => { state with
      heap := state.heap.apply made
      journal := state.journal.push made }
  | .call callee line arguments => (call callee line arguments state).2

def IsCall : Deed -> Prop
  | .call _ _ _ => True
  | _ => False

def opened? (heap : Heap) : Deed -> Option ScopeId
  | .change made => made.opened? heap
  -- What a call opens is not its caller's own.
  | _ => none

end Deed

def State.follow (call : Caller) (state : State) (deeds : List Deed) : State :=
  deeds.foldl (Deed.run call) state

theorem State.follow_append (call : Caller) (state : State) (before after : List Deed) :
    state.follow call (before ++ after) = (state.follow call before).follow call after :=
  List.foldl_append

def Change.Orderly (heap : Heap) (own : ScopeId -> Prop) : Change -> Prop
  | .define scope _ _ => own scope
  | .assign holder name _ => (heap.scope holder).vars.contains name
  | _ => True

namespace Activation

variable {call : Caller}

def Allows (activation : Activation) : Deed -> Prop
  | .change made => made.Orderly activation.state.heap activation.own
  | _ => True

def act (call : Caller) (activation : Activation) (deed : Deed) : Activation where
  state := deed.run call activation.state
  own id := activation.own id ∨ deed.opened? activation.state.heap = some id

def actAll (call : Caller) (activation : Activation) (deeds : List Deed) : Activation :=
  deeds.foldl (act call) activation

def AllowsAll (call : Caller) (activation : Activation) : List Deed -> Prop
  | [] => True
  | deed :: rest => activation.Allows deed ∧ (activation.act call deed).AllowsAll call rest

@[simp]
theorem state_actAll (activation : Activation) (deeds : List Deed) :
    (activation.actAll call deeds).state = activation.state.follow call deeds := by
  induction deeds generalizing activation with
  | nil => rfl
  | cons deed rest ih => exact ih (activation.act call deed)

theorem actAll_append (activation : Activation) (before after : List Deed) :
    activation.actAll call (before ++ after) =
      (activation.actAll call before).actAll call after :=
  List.foldl_append

theorem allowsAll_append (activation : Activation) (before after : List Deed) :
    activation.AllowsAll call (before ++ after) <->
      activation.AllowsAll call before ∧
        (activation.actAll call before).AllowsAll call after := by
  induction before generalizing activation with
  | nil => simp [AllowsAll, actAll]
  | cons deed rest ih => simp [AllowsAll, ih, actAll, and_assoc]

theorem own_actAll (call : Caller) (activation : Activation) (deeds : List Deed) (id : ScopeId)
    (own : activation.own id) : (activation.actAll call deeds).own id := by
  induction deeds generalizing activation with
  | nil => exact own
  | cons deed rest ih => exact ih (activation.act call deed) (.inl own)

end Activation

theorem Change.Orderly.mono {heap : Heap} {own more : ScopeId -> Prop} {change : Change}
    (orderly : change.Orderly heap own) (grows : ∀ id, own id -> more id) :
    change.Orderly heap more := by
  cases change with
  | define scope name value => exact grows scope orderly
  | assign holder name value => exact orderly
  | newScope | bindScope | newClosure | newClass | newInstance | setField => trivial

theorem Activation.AllowsAll.mono {call : Caller} {state : State} {own more : ScopeId -> Prop}
    {deeds : List Deed} (allowed : (Activation.mk state own).AllowsAll call deeds)
    (grows : ∀ id, own id -> more id) : (Activation.mk state more).AllowsAll call deeds := by
  induction deeds generalizing state own more with
  | nil => trivial
  | cons deed rest ih =>
      obtain ⟨first, others⟩ := allowed
      have growsAfter (id : ScopeId) (held : own id ∨ deed.opened? state.heap = some id) :
          more id ∨ deed.opened? state.heap = some id := held.imp_left (grows id)
      refine ⟨?_, ih others growsAfter⟩
      cases deed with
      | change made => exact Change.Orderly.mono first grows
      | report | call => trivial

variable {ε δ α β : Type} {call : Caller} {own : ScopeId -> Prop}

/-- From every state, the computation does what an activation with these scopes may do. -/
def Exec.Orderly (call : Caller) (own : ScopeId -> Prop) (action : Exec ε α) : Prop :=
  ∀ state, ∃ deeds, (Activation.mk state own).AllowsAll call deeds ∧
    (action state).2 = state.follow call deeds

namespace Exec.Orderly

theorem of_steady {action : Exec ε α} (steady : ∀ state, (action state).2 = state) :
    action.Orderly call own :=
  fun state => ⟨[], trivial, steady state⟩

theorem pure (value : α) : (Pure.pure value : Exec ε α).Orderly call own :=
  of_steady fun _ => rfl

theorem fail (error : ε) : (Exec.fail error : Exec ε α).Orderly call own :=
  of_steady fun _ => rfl

theorem read (view : Heap -> α) : (Exec.read view : Exec ε α).Orderly call own :=
  of_steady fun _ => rfl

theorem log (event : Event) : (Exec.log event : Exec ε Unit).Orderly call own :=
  fun _ => ⟨[.report [event]], ⟨trivial, trivial⟩, rfl⟩

theorem logAll (events : List Event) : (Exec.logAll events : Exec ε Unit).Orderly call own :=
  fun _ => ⟨[.report events], ⟨trivial, trivial⟩, rfl⟩

theorem raise (error : Error) : (Exec.raise error : Exec Error α).Orderly call own :=
  fun _ => ⟨[.report error.event?.toList], ⟨trivial, trivial⟩, rfl⟩

theorem change {change : Change} (orderly : ∀ heap, change.Orderly heap own) :
    (Exec.change change : Exec ε Unit).Orderly call own :=
  fun state => ⟨[.change change], ⟨orderly state.heap, trivial⟩, rfl⟩

theorem allocate {view : Heap -> α} {change : Change}
    (orderly : ∀ heap, change.Orderly heap own) :
    (Exec.allocate view change : Exec ε α).Orderly call own :=
  fun state => ⟨[.change change], ⟨orderly state.heap, trivial⟩, rfl⟩

theorem called (callee : Value) (line : Nat) (arguments : List Value) :
    (call callee line arguments).Orderly call own :=
  fun _ => ⟨[.call callee line arguments], ⟨trivial, trivial⟩, rfl⟩

theorem bind {first : Exec ε α} {next : α -> Exec ε β} (start : first.Orderly call own)
    (rest : ∀ value, (next value).Orderly call own) : (first >>= next).Orderly call own := by
  intro state
  obtain ⟨deeds, allowed, reached⟩ := start state
  rw [Exec.bind_apply]
  cases ended : first state with
  | mk outcome after =>
      rw [ended] at reached
      cases outcome with
      | failed error => exact ⟨deeds, allowed, reached⟩
      | exhausted => exact ⟨deeds, allowed, reached⟩
      | done value =>
          obtain ⟨more, allowedMore, reachedMore⟩ := rest value after
          -- By now the activation may have opened scopes, which the rest does not rely on.
          have allowedRest := allowedMore.mono
            (Activation.own_actAll call (Activation.mk state own) deeds)
          have here : after = ((Activation.mk state own).actAll call deeds).state := by
            rw [Activation.state_actAll]
            exact reached
          rw [here] at allowedRest
          refine ⟨deeds ++ more, (Activation.allowsAll_append _ deeds more).mpr
            ⟨allowed, allowedRest⟩, ?_⟩
          rw [State.follow_append, ← reached]
          exact reachedMore

theorem create_bind {enclosing : Option ScopeId} {next : ScopeId -> Exec ε β}
    (rest : ∀ id, (next id).Orderly call fun other => own other ∨ some id = some other) :
    (ScopeId.create enclosing >>= next).Orderly call own := by
  intro state
  obtain ⟨deeds, allowed, reached⟩ := rest state.heap.nextScope
    (Deed.run call state (.change (.newScope { enclosing })))
  exact ⟨.change (.newScope { enclosing }) :: deeds, ⟨trivial, allowed⟩, reached⟩

theorem mapError {convert : ε -> δ} {action : Exec ε α} (orderly : action.Orderly call own) :
    (action.mapError convert).Orderly call own := by
  intro state
  obtain ⟨deeds, allowed, reached⟩ := orderly state
  refine ⟨deeds, allowed, ?_⟩
  rw [← reached, Exec.mapError]
  rcases action state with ⟨outcome, after⟩
  cases outcome <;> rfl

theorem returnValue {body : Exec Unwind Unit} (orderly : body.Orderly call own) :
    body.returnValue.Orderly call own := by
  intro state
  obtain ⟨deeds, allowed, reached⟩ := orderly state
  refine ⟨deeds, allowed, ?_⟩
  rw [← reached, Exec.returnValue]
  rcases body state with ⟨_ | (cause | value) | _, after⟩ <;> rfl

end Exec.Orderly

section Operations

theorem ScopeId.define_orderly {scope : ScopeId} (mine : own scope) (name : String)
    (value : Value) : (scope.define name value : Exec ε Unit).Orderly call own :=
  .bind (.read _) fun _ => .bind (.log _) fun _ => .change fun _ => mine

theorem ScopeId.defineAll_orderly {scope : ScopeId} (mine : own scope)
    (entries : List (String × Value)) :
    (scope.defineAll entries : Exec ε Unit).Orderly call own := by
  induction entries with
  | nil => exact .pure ()
  | cons entry rest ih => exact .bind (ScopeId.define_orderly mine _ _) fun _ => ih

theorem ScopeId.lookup_orderly (scope : ScopeId) (name : String) (line : Nat) :
    (scope.lookup name line).Orderly call own := by
  refine .bind (.read _) fun found => ?_
  cases found with
  | none => exact .raise _
  | some value => exact .pure value

theorem ScopeId.assign_orderly (scope : ScopeId) (name : String) (value : Value) (line : Nat) :
    (scope.assign name value line).Orderly call own := by
  intro state
  rw [ScopeId.assign, Exec.read_bind]
  cases found : state.heap.holder? scope name with
  | none => exact Exec.Orderly.raise _ state
  | some holder =>
      exact ⟨[.change (.assign holder name value)], ⟨Heap.holder?_contains found, trivial⟩, rfl⟩

theorem Closure.create_orderly (decl : Decl Value) (scope : ScopeId) (isInitializer : Bool) :
    (Closure.create decl scope isInitializer : Exec ε Closure).Orderly call own :=
  .bind (.log _) fun _ => .pure _

theorem Closure.createAll_orderly (scope : ScopeId) (decls : List (Decl Value)) :
    (Closure.createAll scope decls : Exec ε (List Closure)).Orderly call own := by
  induction decls with
  | nil => exact .pure []
  | cons decl rest ih =>
      exact .bind (Closure.create_orderly _ _ _) fun _ => .bind ih fun _ => .pure _

theorem Closure.allocate_orderly (closure : Closure) :
    (closure.allocate : Exec ε ClosureId).Orderly call own :=
  .allocate fun _ => trivial

theorem Closure.allocateAll_orderly (methods : List Closure) (table : Bindings ClosureId) :
    (Closure.allocateAll table methods : Exec ε (Bindings ClosureId)).Orderly call own := by
  induction methods generalizing table with
  | nil => exact .pure table
  | cons method rest ih => exact .bind (Closure.allocate_orderly method) fun _ => ih _

theorem Closure.bindTo_orderly (closure : Closure) (receiver : InstanceId) :
    (closure.bindTo receiver : Exec ε Closure).Orderly call own :=
  .bind (.read _) fun _ => .bind (.log _) fun _ => .bind (.allocate fun _ => trivial) fun _ =>
    .bind (.read _) fun _ => .bind (.log _) fun _ => .pure _

theorem ClosureId.bindTo_orderly (method : ClosureId) (receiver : InstanceId) :
    (method.bindTo receiver : Exec ε ClosureId).Orderly call own :=
  .bind (.read _) fun _ => .bind (Closure.bindTo_orderly _ _) fun _ => Closure.allocate_orderly _

theorem ClassId.create_orderly (name : String) (superclass : Option ClassId)
    (methods : List Closure) :
    (ClassId.create name superclass methods : Exec ε ClassId).Orderly call own :=
  .bind (Closure.allocateAll_orderly methods _) fun _ =>
    .bind (.allocate fun _ => trivial) fun _ => .bind (.read _) fun _ =>
      .bind (.log _) fun _ => .pure _

theorem ClassId.findMethod_orderly (cls : ClassId) (name : String) :
    (cls.findMethod name : Exec ε (Option ClosureId)).Orderly call own :=
  .bind (.read _) fun _ => .bind (.logAll _) fun _ => .read _

theorem ClassId.arity_orderly (cls : ClassId) :
    (cls.arity : Exec ε Nat).Orderly call own := by
  refine .bind (ClassId.findMethod_orderly cls _) fun method => ?_
  cases method with
  | none => exact .pure 0
  | some method => exact .read _

theorem ClassId.boundMethod_orderly (cls : ClassId) (name : String) (receiver : InstanceId)
    (line : Nat) : (cls.boundMethod name receiver line).Orderly call own := by
  refine .bind (ClassId.findMethod_orderly cls name) fun method => ?_
  cases method with
  | none => exact .raise _
  | some method => exact .bind (ClosureId.bindTo_orderly method receiver) fun _ => .pure _

theorem InstanceId.create_orderly (cls : ClassId) :
    (InstanceId.create cls : Exec ε InstanceId).Orderly call own :=
  .bind (.read _) fun _ => .bind (.log _) fun _ => .allocate fun _ => trivial

theorem InstanceId.get_orderly (object : InstanceId) (name : String) (line : Nat) :
    (object.get name line).Orderly call own := by
  refine .bind (.read _) fun field => ?_
  cases field with
  | some value => exact .bind (.read _) fun _ => .bind (.log _) fun _ => .pure value
  | none => exact .bind (.read _) fun cls => ClassId.boundMethod_orderly cls name object line

theorem InstanceId.set_orderly (object : InstanceId) (name : String) (value : Value) :
    (object.set name value : Exec ε Unit).Orderly call own :=
  .bind (.read _) fun _ => .bind (.log _) fun _ => .change fun _ => trivial

theorem ScopeId.superMethod_orderly (scope : ScopeId) (name : String) (line : Nat) :
    (scope.superMethod name line).Orderly call own := by
  refine .bind (ScopeId.lookup_orderly scope _ line) fun superclass => ?_
  refine .bind (ScopeId.lookup_orderly scope _ line) fun receiver => ?_
  split
  · exact ClassId.boundMethod_orderly _ name _ line
  · exact .raise _

theorem ScopeId.methodScope_orderly (scope : ScopeId) (superclass : Option ClassId) :
    (scope.methodScope superclass : Exec ε ScopeId).Orderly call own := by
  cases superclass with
  | none => exact .pure scope
  | some parent =>
      exact .create_bind fun inner => .bind (ScopeId.define_orderly (.inr rfl) _ _) fun _ =>
        .pure inner

theorem ScopeId.declareClass_orderly (scope : ScopeId) (name : String)
    (superclass : Option ClassId) (methods : List (Decl Value)) :
    (scope.declareClass name superclass methods : Exec ε Value).Orderly call own :=
  .bind (ScopeId.methodScope_orderly scope superclass) fun inner =>
    .bind (Closure.createAll_orderly inner methods) fun closures =>
      .bind (ClassId.create_orderly name superclass closures) fun _ => .pure _

theorem Value.add_orderly (left right : Value) (line : Nat) :
    (left.add right line).Orderly call own := by
  unfold Value.add
  split
  · exact .pure _
  · exact .pure _
  · exact .raise _

theorem Native.call_orderly (function : Native) (line : Nat) (arguments : List Value) :
    (function.call line arguments).Orderly call own := by
  refine .bind (.log _) fun _ => ?_
  split
  · exact .raise _
  · refine .bind (.read _) fun result => ?_
    cases result with
    | ok value => exact .bind (.read _) fun _ => .bind (.log _) fun _ => .pure value
    | error message => exact .raise _

end Operations

mutual

theorem Expr.eval_orderly (scope : ScopeId) (expr : Expr Value) :
    (expr.eval call scope).Orderly call own := by
  match expr with
  | .const value =>
      rw [Expr.eval]
      exact .pure value
  | .var name line =>
      rw [Expr.eval]
      exact ScopeId.lookup_orderly scope name line
  | .get object name line =>
      rw [Expr.eval]
      refine .bind (Expr.eval_orderly scope object) fun value => ?_
      cases value with
      | inst id => exact InstanceId.get_orderly id name line
      | native | closure | cls | number | text | bool | nil => exact .raise _
  | .call callee arguments line =>
      rw [Expr.eval]
      refine .bind (Expr.eval_orderly scope callee) fun callee => ?_
      exact .bind (Expr.evalAll_orderly scope arguments) fun values => .called callee line values
  | .superMethod name line =>
      rw [Expr.eval]
      exact ScopeId.superMethod_orderly scope name line
  | .add left right line =>
      rw [Expr.eval]
      refine .bind (Expr.eval_orderly scope left) fun left => ?_
      exact .bind (Expr.eval_orderly scope right) fun right => Value.add_orderly left right line
  | .equal left right =>
      rw [Expr.eval]
      refine .bind (Expr.eval_orderly scope left) fun left => ?_
      exact .bind (Expr.eval_orderly scope right) fun right => .pure _
  | .display operand =>
      rw [Expr.eval]
      exact .bind (Expr.eval_orderly scope operand) fun value => .bind (.read _) fun _ => .pure _
  | .function decl =>
      rw [Expr.eval]
      refine .bind (Closure.create_orderly decl scope false) fun closure => ?_
      exact .bind (Closure.allocate_orderly closure) fun _ => .pure _
  | .cls name none methods line =>
      rw [Expr.eval]
      exact ScopeId.declareClass_orderly scope name none methods
  | .cls name (some superclass) methods line =>
      rw [Expr.eval]
      refine .bind (Expr.eval_orderly scope superclass) fun value => ?_
      cases value with
      | cls parent => exact ScopeId.declareClass_orderly scope name (some parent) methods
      | native | closure | inst | number | text | bool | nil => exact .raise _

theorem Expr.evalAll_orderly (scope : ScopeId) (exprs : List (Expr Value)) :
    (Expr.evalAll call scope exprs).Orderly call own := by
  match exprs with
  | [] =>
      rw [Expr.evalAll]
      exact .pure []
  | head :: tail =>
      rw [Expr.evalAll]
      refine .bind (Expr.eval_orderly scope head) fun value => ?_
      exact .bind (Expr.evalAll_orderly scope tail) fun values => .pure (value :: values)

end

theorem Expr.evalIn_orderly (scope : ScopeId) (expr : Expr Value) :
    (expr.evalIn call scope).Orderly call own :=
  .mapError (Expr.eval_orderly scope expr)

-- A statement defines variables in its scope, which is that of the call or one of its blocks.

mutual

theorem Stmt.exec_orderly (stmt : Stmt Value) (scope : ScopeId) (own : ScopeId -> Prop)
    (mine : own scope) : (stmt.exec call scope).Orderly call own := by
  match stmt with
  | .run value =>
      rw [Stmt.exec]
      exact .bind (Expr.evalIn_orderly scope value) fun _ => .pure ()
  | .ret value =>
      rw [Stmt.exec]
      exact .bind (Expr.evalIn_orderly scope value) fun _ => .fail _
  | .define name value =>
      rw [Stmt.exec]
      exact .bind (Expr.evalIn_orderly scope value) fun value =>
        ScopeId.define_orderly mine name value
  | .assign name value line =>
      rw [Stmt.exec]
      exact .bind (Expr.evalIn_orderly scope value) fun value =>
        .mapError (ScopeId.assign_orderly scope name value line)
  | .set object name value line =>
      rw [Stmt.exec]
      refine .bind (Expr.evalIn_orderly scope object) fun object => ?_
      cases object with
      | inst id =>
          exact .bind (Expr.evalIn_orderly scope value) fun value =>
            InstanceId.set_orderly id name value
      | native | closure | cls | number | text | bool | nil => exact .mapError (.raise _)
  | .fail message line =>
      rw [Stmt.exec]
      exact .mapError (.raise _)
  | .cond condition thenBranch elseBranch =>
      rw [Stmt.exec]
      refine .bind (Expr.evalIn_orderly scope condition) fun value => ?_
      split
      · exact Stmt.execAll_orderly thenBranch scope own mine
      · exact Stmt.execAll_orderly elseBranch scope own mine
  | .block body =>
      rw [Stmt.exec]
      exact .create_bind fun inner => Stmt.execAll_orderly body inner _ (.inr rfl)

theorem Stmt.execAll_orderly (stmts : List (Stmt Value)) (scope : ScopeId)
    (own : ScopeId -> Prop) (mine : own scope) :
    (Stmt.execAll call stmts scope).Orderly call own := by
  match stmts with
  | [] =>
      rw [Stmt.execAll]
      exact .pure ()
  | head :: tail =>
      rw [Stmt.execAll]
      exact .bind (Stmt.exec_orderly head scope own mine) fun _ =>
        Stmt.execAll_orderly tail scope own mine

end

theorem Closure.call_orderly (closure : Closure) (arguments : List Value) :
    (closure.call (Stmt.execAll call) arguments).Orderly call own := by
  refine .bind (.log _) fun _ => .create_bind fun scope => ?_
  refine .bind (ScopeId.defineAll_orderly (.inr rfl) _) fun _ => ?_
  refine .bind (.returnValue (Stmt.execAll_orderly _ scope _ (.inr rfl))) fun value => ?_
  split
  · exact ScopeId.lookup_orderly _ _ _
  · exact .bind (.read _) fun _ => .bind (.log _) fun _ => .pure value

theorem ClassId.instantiate_orderly (cls : ClassId) (arguments : List Value) :
    (cls.instantiate (Closure.call (Stmt.execAll call)) arguments).Orderly call own := by
  refine .bind (InstanceId.create_orderly cls) fun object => ?_
  refine .bind (ClassId.findMethod_orderly cls _) fun method => ?_
  cases method with
  | none => exact .pure _
  | some method =>
      refine .bind (.read _) fun _ => .bind (.log _) fun _ => .bind (.read _) fun closure => ?_
      refine .bind (Closure.bindTo_orderly closure object) fun bound => ?_
      exact .bind (Closure.call_orderly bound arguments) fun _ => .pure _

theorem Value.call_orderly (callee : Value) (line : Nat) (arguments : List Value) :
    (callee.call (Closure.call (Stmt.execAll call)) line arguments).Orderly call own := by
  cases callee with
  | native function => exact Native.call_orderly function line arguments
  | closure id =>
      refine .bind (.read _) fun closure => ?_
      split
      · exact .raise _
      · exact Closure.call_orderly closure arguments
  | cls id =>
      refine .bind (.read _) fun _ => .bind (.log _) fun _ => ?_
      refine .bind (ClassId.arity_orderly id) fun arity => ?_
      split
      · exact .bind (ClassId.arity_orderly id) fun _ => .raise _
      · exact ClassId.instantiate_orderly id arguments
  | inst | number | text | bool | nil =>
      exact .bind (.read _) fun _ => .bind (.log _) fun _ => .raise _

end Lox
