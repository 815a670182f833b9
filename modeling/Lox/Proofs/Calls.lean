import Lox.Proofs.Operations

set_option autoImplicit false

namespace Lox

def Caller.Confined (call : Caller) : Prop :=
  ∀ (world : World) (callee : Value) (line : Nat) (arguments : List Value),
    world.Knows callee -> world.Knows arguments -> (call callee line arguments).Confined world

def ClosureRunner.Confined (run : ClosureRunner) : Prop :=
  ∀ (world : World) (closure : Closure) (arguments : List Value),
    world.Knows closure -> world.Knows arguments -> (run closure arguments).Confined world

def BodyRunner.Confined (run : BodyRunner) : Prop :=
  ∀ (world : World) (body : List (Stmt Value)) (scope : ScopeId),
    world.known (.scope scope) -> world.own scope -> world.Knows (Stmt.constantsAll body) ->
      (run body scope).Confined world

variable {world : World}

theorem Builtin.apply_knows (builtin : Builtin) (heap : Heap) {arguments : List Value}
    (known : world.Knows arguments) {value : Value}
    (applied : builtin.apply heap arguments = .ok value) : world.Knows value := by
  cases builtin with
  | first =>
      cases arguments with
      | nil => cases applied
      | cons head tail =>
          have same : head = value := Except.ok.inj applied
          exact same ▸ ((World.knows_cons _ _).mp known).1
  | sum =>
      unfold Builtin.apply at applied
      dsimp only at applied
      split at applied
      · exact Except.ok.inj applied ▸ World.knows_plain rfl
      · cases applied
  | count => exact Except.ok.inj applied ▸ World.knows_plain rfl
  | concat => exact Except.ok.inj applied ▸ World.knows_plain rfl
  | fail => cases applied

theorem Native.call_confined (function : Native) (line : Nat) {arguments : List Value}
    (known : world.Knows arguments) : (function.call line arguments).Confined world := by
  refine .log_bind ?_
  split
  · exact .raise _
  · refine .read_bind fun _ => ?_
    cases applied : function.builtin.apply world.heap arguments with
    | error message => exact .raise _
    | ok value =>
        have valueKnown := Builtin.apply_knows function.builtin world.heap known applied
        exact .read_bind fun _ => .log_bind (.pure valueKnown)

theorem Closure.call_confined {run : BodyRunner} (confined : run.Confined) :
    ClosureRunner.Confined (Closure.call run) := by
  intro world closure arguments known argumentsKnown
  have ⟨scopeKnown, declKnown⟩ := (World.knows_closure _).mp known
  refine .log_bind ?_
  refine .allocate_bind ?_ ?_
  · exact (World.knows_scope _).mpr ⟨by simpa using scopeKnown, World.knows_empty⟩
  refine .bind (ScopeId.defineAll_confined _ (.inr rfl) ?_) ?_
  · intro entry member
    exact World.knows_apply (argumentsKnown.mem (List.of_mem_zip member).2)
  intro later _ within _
  have early := (World.Within.apply world _).trans within
  have bodyKnown := (World.knows_decl _).mp (declKnown.mono early)
  refine .bind (.returnValue (confined later _ _ ?_ (within.own _ (.inr rfl)) bodyKnown)) ?_
  · exact within.known _ (.inr rfl)
  intro latest value onward valueKnown
  split
  · exact ScopeId.lookup_confined (onward.known _ (early.known _ scopeKnown))
  · exact .read_bind fun _ => .log_bind (.pure valueKnown)

theorem ClassId.instantiate_confined {run : ClosureRunner} (confined : run.Confined)
    {cls : ClassId} {arguments : List Value} (known : world.known (.cls cls))
    (argumentsKnown : world.Knows arguments) :
    (cls.instantiate run arguments).Confined world := by
  refine .bind (InstanceId.create_confined known) ?_
  intro created object toCreated objectKnown
  refine .bind (ClassId.findMethod_confined (toCreated.known _ known)) ?_
  intro found method toFound methodKnown
  have objectKnown := objectKnown.mono toFound
  cases method with
  | none => exact .pure (by simpa using objectKnown)
  | some method =>
      refine .read_bind fun _ => .log_bind (.read_bind fun closed => ?_)
      refine .bind (Closure.bindTo_confined (closed.closure (by simpa using methodKnown))
        (by simpa using objectKnown)) ?_
      intro bound initializer toBound initializerKnown
      have argumentsKnown := ((argumentsKnown.mono toCreated).mono toFound).mono toBound
      refine .bind (confined bound initializer arguments initializerKnown argumentsKnown) ?_
      intro done _ toDone _
      exact .pure (by simpa using (objectKnown.mono toBound).mono toDone)

theorem Value.call_confined {run : ClosureRunner} (confined : run.Confined) :
    Caller.Confined (Value.call run) := by
  intro world callee line arguments known argumentsKnown
  cases callee with
  | native function => exact Native.call_confined function line argumentsKnown
  | closure id =>
      refine .read_bind fun closed => ?_
      split
      · exact .raise _
      · exact confined world _ arguments (closed.closure (by simpa using known)) argumentsKnown
  | cls id =>
      have known : world.known (.cls id) := by simpa using known
      refine .read_bind fun _ => .log_bind (.bind (ClassId.arity_confined known) ?_)
      intro later arity within _
      split
      · refine .bind (ClassId.arity_confined (within.known _ known)) ?_
        intro latest expected _ _
        exact .raise _
      · exact ClassId.instantiate_confined confined (within.known _ known)
          (argumentsKnown.mono within)
  | inst | number | text | bool | nil =>
      exact .read_bind fun _ => .log_bind (.raise _)

theorem Value.add_confined (left right : Value) (line : Nat) :
    (left.add right line).Confined world := by
  unfold Value.add
  split
  · exact .pure (World.knows_plain rfl)
  · exact .pure (World.knows_plain rfl)
  · exact .raise _

theorem ScopeId.methodScope_confined {scope : ScopeId} {superclass : Option ClassId}
    (known : world.known (.scope scope)) (superclassKnown : world.Knows superclass) :
    (scope.methodScope superclass : Exec Error ScopeId).Confined world := by
  cases superclass with
  | none => exact .pure (by simpa using known)
  | some parent =>
      refine .allocate_bind ?_ (.bind (ScopeId.define_confined (.inr rfl) ?_) ?_)
      · exact (World.knows_scope _).mpr ⟨by simpa using known, World.knows_empty⟩
      · exact World.knows_apply (by simpa using superclassKnown)
      · intro later _ within _
        exact .pure (by simpa using within.known _ (.inr rfl))

theorem ScopeId.declareClass_confined {scope : ScopeId} {name : String}
    {superclass : Option ClassId} {methods : List (Decl Value)}
    (known : world.known (.scope scope)) (superclassKnown : world.Knows superclass)
    (methodsKnown : world.Knows (Decl.constantsAll methods)) :
    (scope.declareClass name superclass methods : Exec Error Value).Confined world := by
  refine .bind (ScopeId.methodScope_confined known superclassKnown) ?_
  intro opened inner toOpened innerKnown
  refine .bind (Closure.createAll_confined inner methods (by simpa using innerKnown)
    (methodsKnown.mono toOpened)) ?_
  intro created closures toCreated closuresKnown
  have superclassKnown := (superclassKnown.mono toOpened).mono toCreated
  refine .bind (ClassId.create_confined superclassKnown closuresKnown) ?_
  intro declared id _ idKnown
  exact .pure (by simpa using idKnown)

-- Evaluation only reads its scope, so knowing it is enough; statements define in theirs.

mutual

theorem Expr.eval_confined {call : Caller} (confined : call.Confined) (scope : ScopeId)
    (expr : Expr Value) (world : World) (known : world.known (.scope scope))
    (constants : world.Knows expr.constants) : (expr.eval call scope).Confined world := by
  match expr with
  | .const value =>
      rw [Expr.constants] at constants
      rw [Expr.eval]
      exact .pure (constants.mem (by simp))
  | .var name line =>
      rw [Expr.eval]
      exact ScopeId.lookup_confined known
  | .get object name line =>
      rw [Expr.constants] at constants
      rw [Expr.eval]
      refine .bind (Expr.eval_confined confined scope object world known constants) ?_
      intro later value within valueKnown
      cases value with
      | inst id => exact InstanceId.get_confined (by simpa using valueKnown)
      | native | closure | cls | number | text | bool | nil => exact .raise _
  | .call callee arguments line =>
      rw [Expr.constants, World.knows_append] at constants
      rw [Expr.eval]
      refine .bind (Expr.eval_confined confined scope callee world known constants.1) ?_
      intro later callee within calleeKnown
      refine .bind (Expr.evalAll_confined confined scope arguments later (within.known _ known)
        (constants.2.mono within)) ?_
      intro latest values onward valuesKnown
      exact confined latest callee line values (calleeKnown.mono onward) valuesKnown
  | .superMethod name line =>
      rw [Expr.eval]
      exact ScopeId.superMethod_confined known
  | .add left right line =>
      rw [Expr.constants, World.knows_append] at constants
      rw [Expr.eval]
      refine .bind (Expr.eval_confined confined scope left world known constants.1) ?_
      intro later left within leftKnown
      refine .bind (Expr.eval_confined confined scope right later (within.known _ known)
        (constants.2.mono within)) ?_
      intro latest right onward rightKnown
      exact Value.add_confined left right line
  | .equal left right =>
      rw [Expr.constants, World.knows_append] at constants
      rw [Expr.eval]
      refine .bind (Expr.eval_confined confined scope left world known constants.1) ?_
      intro later left within leftKnown
      refine .bind (Expr.eval_confined confined scope right later (within.known _ known)
        (constants.2.mono within)) ?_
      intro latest right onward rightKnown
      exact .pure (World.knows_plain rfl)
  | .display operand =>
      rw [Expr.constants] at constants
      rw [Expr.eval]
      refine .bind (Expr.eval_confined confined scope operand world known constants) ?_
      intro later value within valueKnown
      exact .read_bind fun _ => .pure (World.knows_plain rfl)
  | .function decl =>
      rw [Expr.constants] at constants
      rw [Expr.eval]
      refine .bind (Closure.create_confined known constants) ?_
      intro later closure within closureKnown
      refine .bind (Closure.allocate_confined closureKnown) ?_
      intro latest id onward idKnown
      exact .pure (by simpa using idKnown)
  | .cls name none methods line =>
      rw [Expr.constants] at constants
      rw [Expr.eval]
      exact ScopeId.declareClass_confined known World.knows_none constants
  | .cls name (some superclass) methods line =>
      rw [Expr.constants, World.knows_append] at constants
      rw [Expr.eval]
      refine .bind (Expr.eval_confined confined scope superclass world known constants.1) ?_
      intro later value within valueKnown
      cases value with
      | cls parent =>
          exact ScopeId.declareClass_confined (within.known _ known) (by simpa using valueKnown)
            (constants.2.mono within)
      | native | closure | inst | number | text | bool | nil => exact .raise _

theorem Expr.evalAll_confined {call : Caller} (confined : call.Confined) (scope : ScopeId)
    (exprs : List (Expr Value)) (world : World) (known : world.known (.scope scope))
    (constants : world.Knows (Expr.constantsAll exprs)) :
    (Expr.evalAll call scope exprs).Confined world := by
  match exprs with
  | [] =>
      rw [Expr.evalAll]
      exact .pure World.knows_nil
  | head :: tail =>
      rw [Expr.constantsAll, World.knows_append] at constants
      rw [Expr.evalAll]
      refine .bind (Expr.eval_confined confined scope head world known constants.1) ?_
      intro later value within valueKnown
      refine .bind (Expr.evalAll_confined confined scope tail later (within.known _ known)
        (constants.2.mono within)) ?_
      intro latest values onward valuesKnown
      exact .pure ((World.knows_cons _ _).mpr ⟨valueKnown.mono onward, valuesKnown⟩)

end

theorem Expr.evalIn_confined {call : Caller} (confined : call.Confined) {scope : ScopeId}
    {expr : Expr Value} (known : world.known (.scope scope))
    (constants : world.Knows expr.constants) : (expr.evalIn call scope).Confined world :=
  .mapError (Expr.eval_confined confined scope expr world known constants)
    fun _ error _ => World.knows_unwindError error

mutual

theorem Stmt.exec_confined {call : Caller} (confined : call.Confined) (stmt : Stmt Value)
    (scope : ScopeId) (world : World) (known : world.known (.scope scope))
    (own : world.own scope) (constants : world.Knows stmt.constants) :
    (stmt.exec call scope).Confined world := by
  match stmt with
  | .run value =>
      rw [Stmt.constants] at constants
      rw [Stmt.exec]
      refine .bind (Expr.evalIn_confined confined known constants) ?_
      intro later value within valueKnown
      exact .pure (World.knows_unit ())
  | .ret value =>
      rw [Stmt.constants] at constants
      rw [Stmt.exec]
      refine .bind (Expr.evalIn_confined confined known constants) ?_
      intro later value within valueKnown
      exact .fail valueKnown
  | .define name value =>
      rw [Stmt.constants] at constants
      rw [Stmt.exec]
      refine .bind (Expr.evalIn_confined confined known constants) ?_
      intro later value within valueKnown
      exact ScopeId.define_confined (within.own scope own) valueKnown
  | .assign name value line =>
      rw [Stmt.constants] at constants
      rw [Stmt.exec]
      refine .bind (Expr.evalIn_confined confined known constants) ?_
      intro later value within valueKnown
      exact .mapError (ScopeId.assign_confined (within.known _ known) valueKnown)
        fun _ error _ => World.knows_unwindError error
  | .set object name value line =>
      rw [Stmt.constants, World.knows_append] at constants
      rw [Stmt.exec]
      refine .bind (Expr.evalIn_confined confined known constants.1) ?_
      intro later object within objectKnown
      cases object with
      | inst id =>
          refine .bind (Expr.evalIn_confined confined (within.known _ known)
            (constants.2.mono within)) ?_
          intro latest value onward valueKnown
          exact InstanceId.set_confined (by simpa using objectKnown.mono onward) valueKnown
      | native | closure | cls | number | text | bool | nil =>
          exact .mapError (.raise _) fun _ error _ => World.knows_unwindError error
  | .fail message line =>
      rw [Stmt.exec]
      exact .mapError (.raise _) fun _ error _ => World.knows_unwindError error
  | .cond condition thenBranch elseBranch =>
      rw [Stmt.constants, World.knows_append, World.knows_append] at constants
      rw [Stmt.exec]
      refine .bind (Expr.evalIn_confined confined known constants.1.1) ?_
      intro later value within valueKnown
      split
      · exact Stmt.execAll_confined confined thenBranch scope later (within.known _ known)
          (within.own scope own) (constants.1.2.mono within)
      · exact Stmt.execAll_confined confined elseBranch scope later (within.known _ known)
          (within.own scope own) (constants.2.mono within)
  | .block body =>
      rw [Stmt.constants] at constants
      rw [Stmt.exec]
      refine .allocate_bind ?_ ?_
      · exact (World.knows_scope _).mpr ⟨by simpa using known, World.knows_empty⟩
      · exact Stmt.execAll_confined confined body _ _ (.inr rfl) (.inr rfl)
          (World.knows_apply constants)

theorem Stmt.execAll_confined {call : Caller} (confined : call.Confined)
    (stmts : List (Stmt Value)) (scope : ScopeId) (world : World)
    (known : world.known (.scope scope)) (own : world.own scope)
    (constants : world.Knows (Stmt.constantsAll stmts)) :
    (Stmt.execAll call stmts scope).Confined world := by
  match stmts with
  | [] =>
      rw [Stmt.execAll]
      exact .pure (World.knows_unit ())
  | head :: tail =>
      rw [Stmt.constantsAll, World.knows_append] at constants
      rw [Stmt.execAll]
      refine .bind (Stmt.exec_confined confined head scope world known own constants.1) ?_
      intro later _ within _
      exact Stmt.execAll_confined confined tail scope later (within.known _ known)
        (within.own scope own) (constants.2.mono within)

end

theorem invoke_confined (depth : Nat) : Caller.Confined (invoke depth) := by
  induction depth with
  | zero =>
      intro world callee line arguments _ _
      exact .exhaust
  | succ depth ih =>
      have body : BodyRunner.Confined (Stmt.execAll (invoke depth)) :=
        fun world stmts scope known own constants =>
          Stmt.execAll_confined ih stmts scope world known own constants
      exact Value.call_confined (Closure.call_confined body)

theorem runClosure_confined (depth : Nat) : ClosureRunner.Confined (runClosure depth) :=
  Closure.call_confined fun world stmts scope known own constants =>
    Stmt.execAll_confined (invoke_confined depth) stmts scope world known own constants

end Lox
