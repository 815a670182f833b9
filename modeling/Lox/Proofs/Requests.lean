import Lox.Proofs.Calls
import Lox.Session.Run

set_option autoImplicit false

namespace Lox

namespace Refers

instance : Refers Entry :=
  ⟨fun
    | .value value => links value
    | .scope id => links id
    | .token _ => fun _ => False
    | .decl decl => links decl⟩

instance : Refers Result :=
  ⟨fun
    | .object entry => links entry
    | .function closure => links closure
    | .cls id _ => links id
    | .plain _ => fun _ => False⟩

instance : Refers Fault := ⟨fun _ _ => False⟩

end Refers

section Resolve

variable {κ μ : Type} (constant : κ -> Option μ)

def ResolvedBy (values : List μ) : Prop :=
  ∀ value ∈ values, ∃ source, constant source = some value

variable {constant}

theorem resolvedBy_append {left right : List μ} (leftDone : ResolvedBy constant left)
    (rightDone : ResolvedBy constant right) : ResolvedBy constant (left ++ right) :=
  List.forall_mem_append.mpr ⟨leftDone, rightDone⟩

mutual

theorem Expr.resolve_constants (expr : Expr κ) {resolved : Expr μ}
    (done : expr.resolve constant = some resolved) : ResolvedBy constant resolved.constants := by
  match expr with
  | .const value =>
      simp only [Expr.resolve, Option.bind_eq_bind, Option.bind_eq_some_iff] at done
      obtain ⟨first, firstDone, same⟩ := done
      cases same
      rw [Expr.constants]
      exact List.forall_mem_singleton.mpr ⟨value, firstDone⟩
  | .var name line =>
      cases done
      rw [Expr.constants]
      exact List.forall_mem_nil _
  | .get object name line =>
      simp only [Expr.resolve, Option.bind_eq_bind, Option.bind_eq_some_iff] at done
      obtain ⟨first, firstDone, same⟩ := done
      cases same
      rw [Expr.constants]
      exact Expr.resolve_constants object firstDone
  | .call callee arguments line =>
      simp only [Expr.resolve, Option.bind_eq_bind, Option.bind_eq_some_iff] at done
      obtain ⟨first, firstDone, second, secondDone, same⟩ := done
      cases same
      rw [Expr.constants]
      exact resolvedBy_append (Expr.resolve_constants callee firstDone)
        (Expr.resolveAll_constants arguments secondDone)
  | .superMethod name line =>
      cases done
      rw [Expr.constants]
      exact List.forall_mem_nil _
  | .add left right line =>
      simp only [Expr.resolve, Option.bind_eq_bind, Option.bind_eq_some_iff] at done
      obtain ⟨first, firstDone, second, secondDone, same⟩ := done
      cases same
      rw [Expr.constants]
      exact resolvedBy_append (Expr.resolve_constants left firstDone)
        (Expr.resolve_constants right secondDone)
  | .equal left right =>
      simp only [Expr.resolve, Option.bind_eq_bind, Option.bind_eq_some_iff] at done
      obtain ⟨first, firstDone, second, secondDone, same⟩ := done
      cases same
      rw [Expr.constants]
      exact resolvedBy_append (Expr.resolve_constants left firstDone)
        (Expr.resolve_constants right secondDone)
  | .display operand =>
      simp only [Expr.resolve, Option.bind_eq_bind, Option.bind_eq_some_iff] at done
      obtain ⟨first, firstDone, same⟩ := done
      cases same
      rw [Expr.constants]
      exact Expr.resolve_constants operand firstDone
  | .function decl =>
      simp only [Expr.resolve, Option.bind_eq_bind, Option.bind_eq_some_iff] at done
      obtain ⟨first, firstDone, same⟩ := done
      cases same
      rw [Expr.constants]
      exact Decl.resolve_constants decl firstDone
  | .cls name none methods line =>
      simp only [Expr.resolve, Option.bind_eq_bind, Option.bind_eq_some_iff] at done
      obtain ⟨first, firstDone, same⟩ := done
      cases same
      rw [Expr.constants]
      exact Decl.resolveAll_constants methods firstDone
  | .cls name (some superclass) methods line =>
      simp only [Expr.resolve, Option.bind_eq_bind, Option.bind_eq_some_iff] at done
      obtain ⟨first, firstDone, second, secondDone, same⟩ := done
      cases same
      rw [Expr.constants]
      exact resolvedBy_append (Expr.resolve_constants superclass firstDone)
        (Decl.resolveAll_constants methods secondDone)

theorem Expr.resolveAll_constants (exprs : List (Expr κ)) {resolved : List (Expr μ)}
    (done : Expr.resolveAll constant exprs = some resolved) :
    ResolvedBy constant (Expr.constantsAll resolved) := by
  match exprs with
  | [] =>
      cases done
      rw [Expr.constantsAll]
      exact List.forall_mem_nil _
  | head :: tail =>
      simp only [Expr.resolveAll, Option.bind_eq_bind, Option.bind_eq_some_iff] at done
      obtain ⟨first, firstDone, second, secondDone, same⟩ := done
      cases same
      rw [Expr.constantsAll]
      exact resolvedBy_append (Expr.resolve_constants head firstDone)
        (Expr.resolveAll_constants tail secondDone)

theorem Stmt.resolve_constants (stmt : Stmt κ) {resolved : Stmt μ}
    (done : stmt.resolve constant = some resolved) : ResolvedBy constant resolved.constants := by
  match stmt with
  | .run value =>
      simp only [Stmt.resolve, Option.bind_eq_bind, Option.bind_eq_some_iff] at done
      obtain ⟨first, firstDone, same⟩ := done
      cases same
      rw [Stmt.constants]
      exact Expr.resolve_constants value firstDone
  | .ret value =>
      simp only [Stmt.resolve, Option.bind_eq_bind, Option.bind_eq_some_iff] at done
      obtain ⟨first, firstDone, same⟩ := done
      cases same
      rw [Stmt.constants]
      exact Expr.resolve_constants value firstDone
  | .define name value =>
      simp only [Stmt.resolve, Option.bind_eq_bind, Option.bind_eq_some_iff] at done
      obtain ⟨first, firstDone, same⟩ := done
      cases same
      rw [Stmt.constants]
      exact Expr.resolve_constants value firstDone
  | .assign name value line =>
      simp only [Stmt.resolve, Option.bind_eq_bind, Option.bind_eq_some_iff] at done
      obtain ⟨first, firstDone, same⟩ := done
      cases same
      rw [Stmt.constants]
      exact Expr.resolve_constants value firstDone
  | .set object name value line =>
      simp only [Stmt.resolve, Option.bind_eq_bind, Option.bind_eq_some_iff] at done
      obtain ⟨first, firstDone, second, secondDone, same⟩ := done
      cases same
      rw [Stmt.constants]
      exact resolvedBy_append (Expr.resolve_constants object firstDone)
        (Expr.resolve_constants value secondDone)
  | .fail message line =>
      cases done
      rw [Stmt.constants]
      exact List.forall_mem_nil _
  | .cond condition thenBranch elseBranch =>
      simp only [Stmt.resolve, Option.bind_eq_bind, Option.bind_eq_some_iff] at done
      obtain ⟨first, firstDone, second, secondDone, third, thirdDone, same⟩ := done
      cases same
      rw [Stmt.constants]
      exact resolvedBy_append (resolvedBy_append (Expr.resolve_constants condition firstDone)
        (Stmt.resolveAll_constants thenBranch secondDone)) (Stmt.resolveAll_constants elseBranch thirdDone)
  | .block body =>
      simp only [Stmt.resolve, Option.bind_eq_bind, Option.bind_eq_some_iff] at done
      obtain ⟨first, firstDone, same⟩ := done
      cases same
      rw [Stmt.constants]
      exact Stmt.resolveAll_constants body firstDone

theorem Stmt.resolveAll_constants (stmts : List (Stmt κ)) {resolved : List (Stmt μ)}
    (done : Stmt.resolveAll constant stmts = some resolved) :
    ResolvedBy constant (Stmt.constantsAll resolved) := by
  match stmts with
  | [] =>
      cases done
      rw [Stmt.constantsAll]
      exact List.forall_mem_nil _
  | head :: tail =>
      simp only [Stmt.resolveAll, Option.bind_eq_bind, Option.bind_eq_some_iff] at done
      obtain ⟨first, firstDone, second, secondDone, same⟩ := done
      cases same
      rw [Stmt.constantsAll]
      exact resolvedBy_append (Stmt.resolve_constants head firstDone)
        (Stmt.resolveAll_constants tail secondDone)

theorem Decl.resolve_constants (decl : Decl κ) {resolved : Decl μ}
    (done : decl.resolve constant = some resolved) : ResolvedBy constant resolved.constants := by
  match decl with
  | ⟨name, params, body⟩ =>
      simp only [Decl.resolve, Option.bind_eq_bind, Option.bind_eq_some_iff] at done
      obtain ⟨first, firstDone, same⟩ := done
      cases same
      rw [Decl.constants]
      exact Stmt.resolveAll_constants body firstDone

theorem Decl.resolveAll_constants (decls : List (Decl κ)) {resolved : List (Decl μ)}
    (done : Decl.resolveAll constant decls = some resolved) :
    ResolvedBy constant (Decl.constantsAll resolved) := by
  match decls with
  | [] =>
      cases done
      rw [Decl.constantsAll]
      exact List.forall_mem_nil _
  | head :: tail =>
      simp only [Decl.resolveAll, Option.bind_eq_bind, Option.bind_eq_some_iff] at done
      obtain ⟨first, firstDone, second, secondDone, same⟩ := done
      cases same
      rw [Decl.constantsAll]
      exact resolvedBy_append (Decl.resolve_constants head firstDone)
        (Decl.resolveAll_constants tail secondDone)

end

end Resolve

variable {world : World}

@[simp]
theorem World.knows_valueEntry (value : Value) :
    world.Knows (Entry.value value) <-> world.Knows value := Iff.rfl

@[simp]
theorem World.knows_scopeEntry (id : ScopeId) :
    world.Knows (Entry.scope id) <-> world.known (.scope id) :=
  World.knows_scopeId id

@[simp]
theorem World.knows_tokenEntry (token : Token) : world.Knows (Entry.token token) := by
  simp [World.Knows, Refers.links]

@[simp]
theorem World.knows_fault (fault : Fault) : world.Knows fault := by
  simp [World.Knows, Refers.links]

@[simp]
theorem World.knows_objectResult (entry : Entry) :
    world.Knows (Result.object entry) <-> world.Knows entry := Iff.rfl

@[simp]
theorem World.knows_plainResult (answer : Answer) : world.Knows (Result.plain answer) := by
  simp [World.Knows, Refers.links]

theorem Exec.Confined.required_bind {α β : Type} [Refers β] {item : Option α}
    {next : α -> Exec Fault β} (rest : ∀ value, item = some value -> (next value).Confined world) :
    (Exec.required item >>= next).Confined world := by
  cases item with
  | none => exact .fail (World.knows_fault _)
  | some value => exact rest value rfl

namespace Registers

variable {registers : Registers}

theorem value?_known (known : world.Knows registers) {name : String} {value : Value}
    (found : registers.value? name = some value) : world.Knows value := by
  unfold value? at found
  split at found
  · next entry holds => exact Option.some.inj found ▸ known.get? holds
  · cases found

theorem scope?_known (known : world.Knows registers) {name : String} {id : ScopeId}
    (found : registers.scope? name = some id) : world.known (.scope id) := by
  unfold scope? at found
  split at found
  · next entry holds =>
      have held := known.get? holds
      rw [Option.some.inj found] at held
      exact (World.knows_scopeId id).mp held
  · cases found

theorem decl?_known (known : world.Knows registers) {name : String} {decl : Decl Value}
    (found : registers.decl? name = some decl) : world.Knows decl := by
  unfold decl? at found
  split at found
  · next entry holds => exact Option.some.inj found ▸ known.get? holds
  · cases found

theorem closure?_known (known : world.Knows registers) {name : String} {id : ClosureId}
    (found : registers.closure? name = some id) : world.known (.closure id) := by
  unfold closure? at found
  split at found
  · next held holds =>
      have heldKnown := value?_known known holds
      simpa [Option.some.inj found] using heldKnown
  · cases found

theorem class?_known (known : world.Knows registers) {name : String} {id : ClassId}
    (found : registers.class? name = some id) : world.known (.cls id) := by
  unfold class? at found
  split at found
  · next held holds =>
      have heldKnown := value?_known known holds
      simpa [Option.some.inj found] using heldKnown
  · cases found

theorem instance?_known (known : world.Knows registers) {name : String} {id : InstanceId}
    (found : registers.instance? name = some id) : world.known (.inst id) := by
  unfold instance? at found
  split at found
  · next held holds =>
      have heldKnown := value?_known known holds
      simpa [Option.some.inj found] using heldKnown
  · cases found

theorem literal?_known (known : world.Knows registers) {literal : Literal} {value : Value}
    (found : registers.literal? literal = some value) : world.Knows value := by
  cases literal with
  | nil | bool | text => exact Option.some.inj found ▸ World.knows_plain rfl
  | integer number =>
      unfold literal? at found
      dsimp only at found
      split at found
      · exact Option.some.inj found ▸ World.knows_plain rfl
      · cases found
  | bits hex =>
      obtain ⟨number, _, same⟩ := Option.map_eq_some_iff.mp found
      exact same ▸ World.knows_plain rfl
  | native builtin name arity =>
      obtain ⟨function, _, same⟩ := Option.map_eq_some_iff.mp found
      exact same ▸ World.knows_plain rfl
  | register name => exact value?_known known found

theorem literals?_known (known : world.Knows registers) (literals : List Literal)
    {values : List Value} (found : registers.literals? literals = some values) :
    world.Knows values := by
  induction literals generalizing values with
  | nil => exact Option.some.inj found ▸ World.knows_nil
  | cons head tail ih =>
      simp only [literals?, List.mapM_cons, Option.bind_eq_bind, Option.bind_eq_some_iff] at found
      obtain ⟨value, valueFound, rest, restFound, same⟩ := found
      have headKnown := literal?_known known valueFound
      exact Option.some.inj same ▸ (World.knows_cons _ _).mpr ⟨headKnown, ih restFound⟩

theorem source?_known (known : world.Knows registers) {source : DeclSource} {decl : Decl Value}
    (found : registers.source? source = some decl) : world.Knows decl := by
  cases source with
  | register name => exact decl?_known known found
  | inline text =>
      rintro target ⟨value, member, link⟩
      obtain ⟨literal, resolved⟩ := Decl.resolve_constants text found value member
      exact literal?_known known resolved target link

theorem need_bind {α β : Type} [Refers β] {find : Registers -> Option α}
    {next : α -> Exec Fault β}
    (rest : ∀ value, find registers = some value -> (next value).Confined world) :
    (registers.need find >>= next).Confined world :=
  .required_bind rest

theorem makeFunction_confined (known : world.Knows registers) (spec : FunctionSpec) :
    (registers.makeFunction spec).Confined world := by
  refine need_bind fun decl declFound => need_bind fun scope scopeFound => ?_
  exact Closure.create_confined (scope?_known known scopeFound) (source?_known known declFound)

theorem makeMethod_confined (known : world.Knows registers) (spec : MethodSpec) :
    (registers.makeMethod spec).Confined world := by
  cases spec with
  | copy name =>
      exact need_bind fun id found => .read fun closed => closed.closure (closure?_known known found)
  | make spec => exact makeFunction_confined known spec

theorem makeMethods_confined (specs : List (Option MethodSpec)) {world : World}
    (known : world.Knows registers) : (registers.makeMethods specs).Confined world := by
  induction specs generalizing world with
  | nil => exact .pure World.knows_nil
  | cons spec rest ih =>
      refine .required_bind fun spec _ => .bind (makeMethod_confined known spec) ?_
      intro later method within methodKnown
      refine .bind (ih (known.mono within)) ?_
      intro latest methods onward methodsKnown
      exact .pure ((World.knows_cons _ _).mpr ⟨methodKnown.mono onward, methodsKnown⟩)

theorem makeClass_confined (known : world.Knows registers) (name superclass : Option String)
    (methods : List (Option MethodSpec)) :
    (registers.makeClass name superclass methods).Confined world := by
  have superclassConfined :
      (superclass.mapM fun register => registers.need (·.class? register) :
        Exec Fault (Option ClassId)).Confined world := by
    cases superclass with
    | none => exact .pure World.knows_none
    | some register =>
        refine need_bind fun id found => .pure ?_
        exact (World.knows_some _).mpr ((World.knows_classId _).mpr (class?_known known found))
  refine .bind superclassConfined ?_
  intro later parent within parentKnown
  refine .bind (makeMethods_confined methods (known.mono within)) ?_
  intro latest closures onward closuresKnown
  refine .required_bind fun name _ => ?_
  refine .bind (ClassId.create_confined (parentKnown.mono onward) closuresKnown) ?_
  intro last id _ idKnown
  exact .pure (by simpa using idKnown)

end Registers

theorem functionResult_confined {closure : Closure} (known : world.Knows closure) :
    (functionResult closure).Confined world := by
  refine .bind (Closure.allocate_confined known) ?_
  intro later id within idKnown
  exact .pure (by simpa using idKnown)

theorem valueResult_confined {action : Exec Error Value} (confined : action.Confined world) :
    (valueResult action).Confined world := by
  refine .bind (.mapError confined fun later error _ => World.knows_fault _) ?_
  intro later value within valueKnown
  exact .pure valueKnown

theorem Registers.perform_confined {registers : Registers} (known : world.Knows registers)
    (depth : Nat) (operation : Operation)
    (definable : ∀ scope name value id, operation = .define scope name value ->
      registers.scope? scope = some id -> world.own id) :
    (registers.perform depth operation).Confined world := by
  cases operation with
  | token token => exact .log_bind (.pure (World.knows_tokenEntry token))
  | compareTokens left right =>
      exact need_bind fun _ _ => need_bind fun _ _ => .pure (World.knows_plainResult _)
  | error error =>
      exact .logAll_bind (.read_bind fun _ => .read_bind fun _ =>
        .pure (World.knows_plainResult _))
  | returnSignal value =>
      exact need_bind fun _ _ => .read_bind fun _ => .pure (World.knows_plainResult _)
  | value value => exact need_bind fun _ found => .pure (literal?_known known found)
  | equal left right =>
      exact need_bind fun _ _ => need_bind fun _ _ => .pure (World.knows_plainResult _)
  | debug register =>
      exact need_bind fun _ _ => .read_bind fun _ => .required_bind fun _ _ =>
        .pure (World.knows_plainResult _)
  | newScope enclosing =>
      cases enclosing with
      | none =>
          refine .bind (ScopeId.create_confined World.knows_none) fun later id _ idKnown => ?_
          exact .pure idKnown
      | some enclosing =>
          refine need_bind fun outer found => ?_
          have outerKnown : world.Knows (some outer) := by simpa using scope?_known known found
          exact .bind (ScopeId.create_confined outerKnown) fun later id _ idKnown => .pure idKnown
  | cloneScope scope =>
      refine need_bind fun id found => ?_
      exact .bind (ScopeId.clone_confined (scope?_known known found))
        fun later copy _ copyKnown => .pure copyKnown
  | enclosingScope scope =>
      refine need_bind fun id found => .read_bind fun closed => ?_
      have enclosingKnown := ((World.knows_scope _).mp (closed.scope (scope?_known known found))).1
      cases link : (world.heap.scope id).enclosing with
      | none => exact .pure (World.knows_plainResult _)
      | some outer =>
          rw [link, World.knows_some] at enclosingKnown
          exact .pure enclosingKnown
  | define scope name value =>
      refine need_bind fun id found => need_bind fun value valueFound => ?_
      have own := definable scope name _ id rfl found
      refine .bind (ScopeId.define_confined own (literal?_known known valueFound)) ?_
      exact fun later _ _ _ => .pure (World.knows_plainResult _)
  | assign scope name value line =>
      refine need_bind fun id found => need_bind fun value valueFound => ?_
      refine .bind (.mapError (ScopeId.assign_confined (scope?_known known found)
        (literal?_known known valueFound)) fun later error _ => World.knows_fault _) ?_
      exact fun later _ _ _ => .pure (World.knows_plainResult _)
  | lookup scope name line =>
      exact need_bind fun id found =>
        valueResult_confined (ScopeId.lookup_confined (scope?_known known found))
  | declare decl => exact need_bind fun decl found => .pure (source?_known known found)
  | newFunction spec =>
      exact .bind (makeFunction_confined known spec)
        fun later closure _ closureKnown => functionResult_confined closureKnown
  | cloneFunction function =>
      exact need_bind fun id found => .read_bind fun closed =>
        functionResult_confined (closed.closure (closure?_known known found))
  | functionInfo function =>
      exact need_bind fun id found => .read_bind fun closed =>
        .pure (closed.closure (closure?_known known found))
  | scopeOf function =>
      refine need_bind fun id found => .read_bind fun closed => .pure ?_
      have closureKnown := closed.closure (closure?_known known found)
      exact (World.knows_scopeId _).mpr ((World.knows_closure _).mp closureKnown).1
  | bind function receiver =>
      refine need_bind fun id found => need_bind fun object objectFound => ?_
      exact .bind (ClosureId.bindTo_confined (closure?_known known found)
        (instance?_known known objectFound)) fun later id _ idKnown =>
          .pure (by simpa using idKnown)
  | call callee arguments line =>
      refine need_bind fun callee found => need_bind fun values valuesFound => ?_
      exact valueResult_confined (invoke_confined depth world callee line values
        (literal?_known known found) (literals?_known known arguments valuesFound))
  | apply callee arguments =>
      refine need_bind fun callee found => need_bind fun values valuesFound => ?_
      have calleeKnown := value?_known known found
      have valuesKnown := literals?_known known arguments valuesFound
      cases callee with
      | closure id =>
          refine .read_bind fun closed => valueResult_confined ?_
          exact runClosure_confined depth world _ values
            (closed.closure (by simpa using calleeKnown)) valuesKnown
      | cls id =>
          exact valueResult_confined (ClassId.instantiate_confined (runClosure_confined depth)
            (by simpa using calleeKnown) valuesKnown)
      | native | inst | number | text | bool | nil => exact .fail (World.knows_fault _)
  | arity callee =>
      refine need_bind fun callee found => ?_
      have calleeKnown := value?_known known found
      cases callee with
      | closure id => exact .read_bind fun _ => .pure (World.knows_plainResult _)
      | cls id =>
          exact .bind (ClassId.arity_confined (by simpa using calleeKnown))
            fun later arity _ _ => .pure (World.knows_plainResult _)
      | native | inst | number | text | bool | nil => exact .fail (World.knows_fault _)
  | newClass name superclass methods => exact makeClass_confined known name superclass methods
  | classInfo cls =>
      refine need_bind fun id found => ?_
      have idKnown := class?_known known found
      exact .bind (ClassId.arity_confined idKnown) fun later arity within _ =>
        .pure ((World.knows_classId id).mpr (within.known _ idKnown))
  | superclass cls =>
      refine need_bind fun id found => .read_bind fun closed => ?_
      have superclassKnown := ((World.knows_class _).mp (closed.cls (class?_known known found))).1
      cases link : (world.heap.cls id).superclass with
      | none => exact .pure (World.knows_plainResult _)
      | some parent =>
          rw [link] at superclassKnown
          exact .pure (by simpa using superclassKnown)
  | findMethod cls name =>
      refine need_bind fun id found => ?_
      refine .bind (ClassId.findMethod_confined (class?_known known found)) ?_
      intro later method within methodKnown
      cases method with
      | none => exact .pure (World.knows_plainResult _)
      | some method => exact .pure (by simpa using methodKnown)
  | instantiate cls arguments =>
      refine need_bind fun id found => need_bind fun values valuesFound => ?_
      exact valueResult_confined (ClassId.instantiate_confined (runClosure_confined depth)
        (class?_known known found) (literals?_known known arguments valuesFound))
  | newInstance cls =>
      refine need_bind fun id found => ?_
      exact .bind (InstanceId.create_confined (class?_known known found))
        fun later object _ objectKnown => .pure (by simpa using objectKnown)
  | classOf object =>
      refine need_bind fun id found => .read_bind fun closed => .pure ?_
      have objectKnown := closed.inst (instance?_known known found)
      simpa using ((World.knows_instance _).mp objectKnown).1
  | get object property =>
      exact need_bind fun id found => need_bind fun _ _ =>
        valueResult_confined (InstanceId.get_confined (instance?_known known found))
  | set object property value =>
      refine need_bind fun id found => need_bind fun _ _ => need_bind fun value valueFound => ?_
      refine .bind (InstanceId.set_confined (instance?_known known found)
        (literal?_known known valueFound)) ?_
      exact fun later _ _ _ => .read_bind fun _ => .pure (World.knows_plainResult _)
  | fields object =>
      exact need_bind fun _ _ => .read_bind fun _ => .pure (World.knows_plainResult _)
  | sameInstance left right =>
      exact need_bind fun _ _ => need_bind fun _ _ => .pure (World.knows_plainResult _)

end Lox
