import Lox.Proofs.Calls

set_option autoImplicit false

namespace Lox

section Lines

variable {κ : Type}

mutual

def Expr.lines : Expr κ -> List Nat
  | .const _ => []
  | .var _ line => [line]
  | .get object _ line => line :: object.lines
  | .call callee arguments line => line :: (callee.lines ++ Expr.linesAll arguments)
  | .superMethod _ line => [line]
  | .add left right line => line :: (left.lines ++ right.lines)
  | .equal left right => left.lines ++ right.lines
  | .display operand => operand.lines
  | .function decl => decl.lines
  | .cls _ none methods line => line :: Decl.linesAll methods
  | .cls _ (some superclass) methods line => line :: (superclass.lines ++ Decl.linesAll methods)

def Expr.linesAll : List (Expr κ) -> List Nat
  | [] => []
  | head :: tail => head.lines ++ Expr.linesAll tail

def Stmt.lines : Stmt κ -> List Nat
  | .run value => value.lines
  | .ret value => value.lines
  | .define _ value => value.lines
  | .assign _ value line => line :: value.lines
  | .set object _ value line => line :: (object.lines ++ value.lines)
  | .fail _ line => [line]
  | .cond condition thenBranch elseBranch =>
      condition.lines ++ (Stmt.linesAll thenBranch ++ Stmt.linesAll elseBranch)
  | .block body => Stmt.linesAll body

def Stmt.linesAll : List (Stmt κ) -> List Nat
  | [] => []
  | head :: tail => head.lines ++ Stmt.linesAll tail

def Decl.lines : Decl κ -> List Nat
  | ⟨name, _, body⟩ => name.line :: Stmt.linesAll body

def Decl.linesAll : List (Decl κ) -> List Nat
  | [] => []
  | head :: tail => head.lines ++ Decl.linesAll tail

end

theorem Decl.lines_eq (decl : Decl κ) :
    decl.lines = decl.name.line :: Stmt.linesAll decl.body := by
  cases decl
  rw [Decl.lines]

end Lines

/-- The lines that errors point at, now or when a function is called. -/
class Cites (α : Type) where
  lines : α -> List Nat := fun _ => []

namespace Cites

variable {α β : Type}

instance : Cites Unit := {}

instance : Cites Nat := {}

instance : Cites Value := {}

instance : Cites (List Value) := {}

instance : Cites ScopeId := {}

instance : Cites ClosureId := {}

instance : Cites ClassId := {}

instance : Cites InstanceId := {}

instance : Cites (Option ClosureId) := {}

instance : Cites (Bindings ClosureId) := {}

instance : Cites Error := ⟨fun error => [error.line]⟩

instance : Cites Unwind :=
  ⟨fun
    | .error cause => [cause.line]
    | .returned _ => []⟩

instance : Cites Closure := ⟨fun closure => closure.decl.lines⟩

instance : Cites (List Closure) := ⟨fun closures => closures.flatMap (·.decl.lines)⟩

instance : Cites Change :=
  ⟨fun
    | .newClosure closure => closure.decl.lines
    | _ => []⟩

instance [Cites α] [Cites β] : Cites (Outcome α β) :=
  ⟨fun
    | .done value => lines value
    | .failed error => lines error
    | .exhausted => []⟩

def Only [Cites α] (allowed : Nat -> Prop) (item : α) : Prop :=
  ∀ line ∈ lines item, allowed line

variable [Cites α] {allowed : Nat -> Prop}

theorem Only.none {item : α} (silent : lines item = []) : Only allowed item := by
  simp [Only, silent]

theorem only_error (error : Error) : Only allowed error <-> allowed error.line := by
  simp [Only, lines]

theorem only_closure (closure : Closure) :
    Only allowed closure <->
      allowed closure.decl.name.line ∧ ∀ line ∈ Stmt.linesAll closure.decl.body, allowed line := by
  simp [Only, lines, Decl.lines_eq]

end Cites

def World.Lined (allowed : Nat -> Prop) (world : World) : Prop :=
  ∀ id, world.known (.closure id) -> Cites.Only allowed (world.heap.closure id)

namespace World.Lined

variable {allowed : Nat -> Prop} {world : World}

theorem apply (lined : world.Lined allowed) {change : Change}
    (cited : Cites.Only allowed change) : (world.apply change).Lined allowed := by
  intro id known
  rw [heap_apply, Heap.closure_apply]
  cases change with
  | newClosure closure =>
      dsimp only
      split
      · exact cited
      · next other => exact lined id (known.resolve_right (by simpa [Change.created?, eq_comm]))
  | newScope | bindScope | newClass | newInstance | define | assign | setField =>
      exact lined id (known.resolve_right (by simp [Change.created?]))

theorem replay {changes : List Change} (lined : world.Lined allowed)
    (cited : ∀ change ∈ changes, Cites.Only allowed change) :
    (world.replay changes).Lined allowed := by
  induction changes generalizing world with
  | nil => exact lined
  | cons change rest ih =>
      have ⟨first, others⟩ := List.forall_mem_cons.mp cited
      exact ih (lined.apply first) others

end World.Lined

variable {ε δ α β : Type}

/-- Errors point at given lines, and so do those of all functions that are made. -/
def Exec.Located [Cites ε] [Cites α] (allowed : Nat -> Prop) (action : Exec ε α)
    (world : World) : Prop :=
  world.Closed -> world.Lined allowed -> ∀ state : State, state.heap = world.heap ->
    Cites.Only allowed (action state).1 ∧ ∃ changes,
      (action state).2.journal.toList = state.journal.toList ++ changes ∧
        ∀ change ∈ changes, Cites.Only allowed change

namespace Exec.Located

variable [Cites ε] [Cites δ] [Cites α] [Cites β] {allowed : Nat -> Prop} {world : World}

theorem of_steady {action : Exec ε α} (kept : ∀ state, (action state).2.journal = state.journal)
    (cited : world.Closed -> world.Lined allowed -> ∀ state : State, state.heap = world.heap ->
      Cites.Only allowed (action state).1) : action.Located allowed world := by
  intro closed lined state same
  refine ⟨cited closed lined state same, [], ?_, by simp⟩
  rw [kept, List.append_nil]

theorem pure {value : α} (cited : Cites.Only allowed value) :
    (Pure.pure value : Exec ε α).Located allowed world :=
  of_steady (fun _ => rfl) fun _ _ _ _ => cited

theorem fail {error : ε} (cited : Cites.Only allowed error) :
    (Exec.fail error : Exec ε α).Located allowed world :=
  of_steady (fun _ => rfl) fun _ _ _ _ => cited

theorem exhaust : (Exec.exhaust : Exec ε α).Located allowed world :=
  of_steady (fun _ => rfl) fun _ _ _ _ => .none rfl

theorem raise {error : Error} (cited : allowed error.line) :
    (Exec.raise error : Exec Error α).Located allowed world :=
  of_steady (fun _ => rfl) fun _ _ _ _ => (Cites.only_error error).mpr cited

theorem read {view : Heap -> α}
    (cited : world.Lined allowed -> Cites.Only allowed (view world.heap)) :
    (Exec.read view : Exec ε α).Located allowed world := by
  refine of_steady (fun _ => rfl) fun _ lined state same => ?_
  have viewed := cited lined
  rw [← same] at viewed
  exact viewed

theorem log_bind {event : Event} {next : Unit -> Exec ε β}
    (rest : (next ()).Located allowed world) :
    (Exec.log event >>= next).Located allowed world :=
  fun closed lined state same =>
    rest closed lined { state with log := state.log.push event } same

theorem logAll_bind {events : List Event} {next : Unit -> Exec ε β}
    (rest : (next ()).Located allowed world) :
    (Exec.logAll events >>= next).Located allowed world :=
  fun closed lined state same =>
    rest closed lined { state with log := state.log ++ events } same

omit [Cites α] in
theorem read_bind {view : Heap -> α} {next : α -> Exec ε β}
    (rest : world.Closed -> world.Lined allowed ->
      (next (view world.heap)).Located allowed world) :
    (Exec.read view >>= next).Located allowed world := by
  intro closed lined state same
  rw [Exec.read_bind, same]
  exact rest closed lined closed lined state same

theorem bind [Refers ε] [Refers α] {first : Exec ε α} {next : α -> Exec ε β}
    (confined : first.Confined world) (start : first.Located allowed world)
    (rest : ∀ later value, world.Within later -> later.Knows value ->
      Cites.Only allowed value -> (next value).Located allowed later) :
    (first >>= next).Located allowed world := by
  intro closed lined state same
  obtain ⟨changes, permitted, heap, journal, known⟩ := confined closed state same
  obtain ⟨cited, made, journalMade, citedMade⟩ := start closed lined state same
  -- Both speak about the same changes, those that the journal shows.
  have sameChanges : made = changes := List.append_cancel_left (journalMade.symm.trans journal)
  subst sameChanges
  rw [Exec.bind_apply]
  cases ended : first state with
  | mk outcome after =>
      rw [ended] at heap journal known cited
      cases outcome with
      | failed error => exact ⟨cited, made, journal, citedMade⟩
      | exhausted => exact ⟨.none rfl, made, journal, citedMade⟩
      | done value =>
          have sameAfter : after.heap = (world.replay made).heap := by
            rw [World.heap_replay]
            exact heap
          obtain ⟨citedMore, more, journalMore, allMore⟩ :=
            rest _ value (.replay world made) known cited (closed.replay permitted)
              (lined.replay citedMade) after sameAfter
          refine ⟨citedMore, made ++ more, ?_, ?_⟩
          · dsimp only at journal ⊢
            rw [journalMore, journal, List.append_assoc]
          · exact List.forall_mem_append.mpr ⟨citedMade, allMore⟩

theorem change {change : Change} (cited : Cites.Only allowed change) :
    (Exec.change change : Exec ε Unit).Located allowed world := by
  intro _ _ state _
  exact ⟨.none rfl, [change], by simp [Exec.change], by simpa using cited⟩

theorem allocate {view : Heap -> α} {change : Change} (cited : Cites.Only allowed change)
    (silent : ∀ value : α, Cites.lines value = []) :
    (Exec.allocate view change : Exec ε α).Located allowed world := by
  intro _ _ state _
  exact ⟨.none (silent _), [change], Array.toList_push, by simpa using cited⟩

omit [Cites α] in
theorem allocate_bind {view : Heap -> α} {change : Change} {next : α -> Exec ε β}
    (permitted : world.Permits change) (cited : Cites.Only allowed change)
    (rest : (next (view world.heap)).Located allowed (world.apply change)) :
    (Exec.allocate view change >>= next).Located allowed world := by
  intro closed lined state same
  have applied : state.heap.apply change = (world.apply change).heap := by rw [same]; rfl
  obtain ⟨citedMore, more, journal, allMore⟩ :=
    rest (closed.apply permitted) (lined.apply cited)
      { state with heap := state.heap.apply change, journal := state.journal.push change } applied
  rw [Exec.allocate_bind, same]
  rw [same] at citedMore journal
  refine ⟨citedMore, change :: more, ?_, List.forall_mem_cons.mpr ⟨cited, allMore⟩⟩
  rw [journal, Array.toList_push, List.append_assoc, List.singleton_append]

theorem mapError {convert : ε -> δ} {action : Exec ε α} (located : action.Located allowed world)
    (errors : ∀ error, Cites.Only allowed error -> Cites.Only allowed (convert error)) :
    (action.mapError convert).Located allowed world := by
  intro closed lined state same
  obtain ⟨cited, changes⟩ := located closed lined state same
  unfold Exec.mapError
  cases ended : action state with
  | mk outcome after =>
      rw [ended] at cited changes
      cases outcome with
      | failed error => exact ⟨errors error cited, changes⟩
      | done value => exact ⟨cited, changes⟩
      | exhausted => exact ⟨.none rfl, changes⟩

theorem returnValue {body : Exec Unwind Unit} (located : body.Located allowed world) :
    body.returnValue.Located allowed world := by
  intro closed lined state same
  obtain ⟨cited, changes⟩ := located closed lined state same
  unfold Exec.returnValue
  cases ended : body state with
  | mk outcome after =>
      rw [ended] at cited changes
      rcases outcome with _ | (cause | value) | _
      · exact ⟨.none rfl, changes⟩
      · exact ⟨cited, changes⟩
      · exact ⟨.none rfl, changes⟩
      · exact ⟨.none rfl, changes⟩

end Exec.Located

section Operations

variable [Cites ε] {allowed : Nat -> Prop} {world : World} {scope : ScopeId} {cls : ClassId}
  {object : InstanceId} {name : String} {value : Value} {line : Nat}

theorem ScopeId.define_located : (scope.define name value : Exec ε Unit).Located allowed world :=
  .read_bind fun _ _ => .log_bind (.change (.none rfl))

theorem ScopeId.defineAll_located [Refers ε] (entries : List (String × Value)) {world : World}
    (own : world.own scope) (known : ∀ entry ∈ entries, world.Knows entry.2) :
    (scope.defineAll entries : Exec ε Unit).Located allowed world := by
  induction entries generalizing world with
  | nil => exact .pure (.none rfl)
  | cons entry rest ih =>
      have ⟨first, others⟩ := List.forall_mem_cons.mp known
      refine .bind (ScopeId.define_confined own first) ScopeId.define_located ?_
      intro later _ within _ _
      exact ih (within.own scope own) fun other member => (others other member).mono within

theorem ScopeId.lookup_located (cited : allowed line) :
    (scope.lookup name line).Located allowed world := by
  refine .read_bind fun _ _ => ?_
  cases world.heap.lookup scope name with
  | none => exact .raise cited
  | some value => exact .pure (.none rfl)

theorem ScopeId.assign_located (cited : allowed line) :
    (scope.assign name value line).Located allowed world := by
  refine .read_bind fun _ _ => ?_
  cases world.heap.holder? scope name with
  | none => exact .raise cited
  | some holder => exact .change (.none rfl)

theorem Closure.create_located {decl : Decl Value} {isInitializer : Bool}
    (cited : ∀ line ∈ decl.lines, allowed line) :
    (Closure.create decl scope isInitializer : Exec ε Closure).Located allowed world :=
  .log_bind (.pure cited)

theorem Closure.createAll_located [Refers ε] (decls : List (Decl Value)) {world : World}
    (known : world.known (.scope scope)) (constants : world.Knows (Decl.constantsAll decls))
    (cited : ∀ line ∈ Decl.linesAll decls, allowed line) :
    (Closure.createAll scope decls : Exec ε (List Closure)).Located allowed world := by
  induction decls generalizing world with
  | nil => exact .pure (.none rfl)
  | cons decl rest ih =>
      rw [Decl.constantsAll, World.knows_append] at constants
      rw [Decl.linesAll, List.forall_mem_append] at cited
      refine .bind (Closure.create_confined known constants.1) (Closure.create_located cited.1) ?_
      intro later method within _ methodCited
      have restKnown := constants.2.mono within
      have scopeKnown := within.known _ known
      refine .bind (Closure.createAll_confined scope rest scopeKnown restKnown)
        (ih scopeKnown restKnown cited.2) ?_
      intro latest methods _ _ methodsCited
      exact .pure (List.forall_mem_append.mpr ⟨methodCited, methodsCited⟩)

theorem Closure.allocate_located {closure : Closure} (cited : Cites.Only allowed closure) :
    (closure.allocate : Exec ε ClosureId).Located allowed world :=
  .allocate cited fun _ => rfl

theorem Closure.allocateAll_located [Refers ε] (methods : List Closure)
    {table : Bindings ClosureId} {world : World} (known : world.Knows methods)
    (cited : Cites.Only allowed methods) :
    (Closure.allocateAll table methods : Exec ε (Bindings ClosureId)).Located allowed world := by
  induction methods generalizing table world with
  | nil => exact .pure (.none rfl)
  | cons method rest ih =>
      have ⟨methodKnown, restKnown⟩ := (World.knows_cons _ _).mp known
      have ⟨methodCited, restCited⟩ := List.forall_mem_append.mp cited
      refine .bind (Closure.allocate_confined methodKnown) (Closure.allocate_located methodCited) ?_
      intro later id within _ _
      exact ih (restKnown.mono within) restCited

theorem Closure.bindTo_located {closure : Closure} (cited : Cites.Only allowed closure)
    (known : world.Knows closure) (receiverKnown : world.known (.inst object)) :
    (closure.bindTo object : Exec ε Closure).Located allowed world := by
  refine .read_bind fun _ _ => .log_bind ?_
  refine .allocate_bind ⟨((World.knows_closure _).mp known).1, receiverKnown⟩ (.none rfl) ?_
  exact .read_bind fun _ _ => .log_bind (.pure cited)

theorem ClosureId.bindTo_located [Refers ε] {method : ClosureId}
    (known : world.known (.closure method)) (receiverKnown : world.known (.inst object)) :
    (method.bindTo object : Exec ε ClosureId).Located allowed world := by
  refine .read_bind fun closed lined => ?_
  refine .bind (Closure.bindTo_confined (closed.closure known) receiverKnown)
    (Closure.bindTo_located (lined method known) (closed.closure known) receiverKnown) ?_
  intro later bound _ _ boundCited
  exact Closure.allocate_located boundCited

theorem ClassId.create_located [Refers ε] {superclass : Option ClassId} {methods : List Closure}
    (superclassKnown : world.Knows superclass) (known : world.Knows methods)
    (cited : Cites.Only allowed methods) :
    (ClassId.create name superclass methods : Exec ε ClassId).Located allowed world := by
  refine .bind (Closure.allocateAll_confined methods known World.knows_empty)
    (Closure.allocateAll_located methods known cited) ?_
  intro later table within tableKnown _
  refine .allocate_bind ((World.knows_class _).mpr ⟨superclassKnown.mono within, tableKnown⟩)
    (.none rfl) ?_
  exact .read_bind fun _ _ => .log_bind (.pure (.none rfl))

theorem ClassId.findMethod_located :
    (cls.findMethod name : Exec ε (Option ClosureId)).Located allowed world :=
  .read_bind fun _ _ => .logAll_bind (.read fun _ => .none rfl)

theorem ClassId.arity_located [Refers ε] (known : world.known (.cls cls)) :
    (cls.arity : Exec ε Nat).Located allowed world := by
  refine .bind (ClassId.findMethod_confined known) ClassId.findMethod_located ?_
  intro later method _ _ _
  cases method with
  | none => exact .pure (.none rfl)
  | some method => exact .read fun _ => .none rfl

theorem ClassId.boundMethod_located (known : world.known (.cls cls))
    (objectKnown : world.known (.inst object)) (cited : allowed line) :
    (cls.boundMethod name object line).Located allowed world := by
  refine .bind (ClassId.findMethod_confined known) ClassId.findMethod_located ?_
  intro later method within methodKnown _
  cases method with
  | none => exact .raise cited
  | some method =>
      have methodKnown : later.known (.closure method) := by simpa using methodKnown
      have objectKnown := within.known _ objectKnown
      refine .bind (ClosureId.bindTo_confined methodKnown objectKnown)
        (ClosureId.bindTo_located methodKnown objectKnown) ?_
      intro latest bound _ _ _
      exact .pure (.none rfl)

theorem InstanceId.create_located :
    (InstanceId.create cls : Exec ε InstanceId).Located allowed world :=
  .read_bind fun _ _ => .log_bind (.allocate (.none rfl) fun _ => rfl)

theorem InstanceId.get_located (known : world.known (.inst object)) (cited : allowed line) :
    (object.get name line).Located allowed world := by
  refine .read_bind fun closed _ => ?_
  have classKnown := ((World.knows_instance _).mp (closed.inst known)).1
  cases (world.heap.inst object).fields.get? name with
  | some value => exact .read_bind fun _ _ => .log_bind (.pure (.none rfl))
  | none => exact .read_bind fun _ _ => ClassId.boundMethod_located classKnown known cited

theorem InstanceId.set_located :
    (object.set name value : Exec ε Unit).Located allowed world :=
  .read_bind fun _ _ => .log_bind (.change (.none rfl))

theorem ScopeId.superMethod_located (known : world.known (.scope scope)) (cited : allowed line) :
    (scope.superMethod name line).Located allowed world := by
  refine .bind (ScopeId.lookup_confined known) (ScopeId.lookup_located cited) ?_
  intro later superclass within superclassKnown _
  refine .bind (ScopeId.lookup_confined (within.known _ known)) (ScopeId.lookup_located cited) ?_
  intro latest receiver onward receiverKnown _
  have superclassKnown := superclassKnown.mono onward
  cases superclass with
  | cls cls =>
      cases receiver with
      | inst object =>
          exact ClassId.boundMethod_located (by simpa using superclassKnown)
            (by simpa using receiverKnown) cited
      | native | closure | cls | number | text | bool | nil => exact .raise cited
  | native | closure | inst | number | text | bool | nil => exact .raise cited

theorem ScopeId.methodScope_located {superclass : Option ClassId}
    (known : world.known (.scope scope)) (superclassKnown : world.Knows superclass) :
    (scope.methodScope superclass : Exec Error ScopeId).Located allowed world := by
  cases superclass with
  | none => exact .pure (.none rfl)
  | some parent =>
      refine .allocate_bind ?_ (.none rfl) ?_
      · exact (World.knows_scope _).mpr ⟨by simpa using known, World.knows_empty⟩
      · refine .bind (ScopeId.define_confined (.inr rfl) ?_) ScopeId.define_located ?_
        · exact World.knows_apply (by simpa using superclassKnown)
        · intro later _ _ _ _
          exact .pure (.none rfl)

theorem ScopeId.declareClass_located {superclass : Option ClassId} {methods : List (Decl Value)}
    (known : world.known (.scope scope)) (superclassKnown : world.Knows superclass)
    (constants : world.Knows (Decl.constantsAll methods))
    (cited : ∀ line ∈ Decl.linesAll methods, allowed line) :
    (scope.declareClass name superclass methods : Exec Error Value).Located allowed world := by
  refine .bind (ScopeId.methodScope_confined known superclassKnown)
    (ScopeId.methodScope_located known superclassKnown) ?_
  intro opened inner toOpened innerKnown _
  have innerKnown : opened.known (.scope inner) := by simpa using innerKnown
  have constants := constants.mono toOpened
  refine .bind (Closure.createAll_confined inner methods innerKnown constants)
    (Closure.createAll_located methods innerKnown constants cited) ?_
  intro created closures toCreated closuresKnown closuresCited
  have superclassKnown := (superclassKnown.mono toOpened).mono toCreated
  refine .bind (ClassId.create_confined superclassKnown closuresKnown)
    (ClassId.create_located superclassKnown closuresKnown closuresCited) ?_
  intro declared id _ _ _
  exact .pure (.none rfl)

theorem Value.add_located (left right : Value) (cited : allowed line) :
    (left.add right line).Located allowed world := by
  unfold Value.add
  split
  · exact .pure (.none rfl)
  · exact .pure (.none rfl)
  · exact .raise cited

theorem Native.call_located (function : Native) (arguments : List Value) (cited : allowed line) :
    (function.call line arguments).Located allowed world := by
  refine .log_bind ?_
  split
  · exact .raise cited
  · refine .read_bind fun _ _ => ?_
    cases function.builtin.apply world.heap arguments with
    | error message => exact .raise cited
    | ok value => exact .read_bind fun _ _ => .log_bind (.pure (.none rfl))

end Operations

section Calls

variable (allowed : Nat -> Prop)

def Caller.Located (call : Caller) : Prop :=
  ∀ (world : World) (callee : Value) (line : Nat) (arguments : List Value),
    world.Knows callee -> world.Knows arguments -> allowed line ->
      (call callee line arguments).Located allowed world

def ClosureRunner.Located (run : ClosureRunner) : Prop :=
  ∀ (world : World) (closure : Closure) (arguments : List Value),
    world.Knows closure -> world.Knows arguments -> Cites.Only allowed closure ->
      (run closure arguments).Located allowed world

def BodyRunner.Located (run : BodyRunner) : Prop :=
  ∀ (world : World) (body : List (Stmt Value)) (scope : ScopeId),
    world.known (.scope scope) -> world.own scope -> world.Knows (Stmt.constantsAll body) ->
      (∀ line ∈ Stmt.linesAll body, allowed line) -> (run body scope).Located allowed world

end Calls

variable {allowed : Nat -> Prop} {world : World}

theorem Closure.call_located {run : BodyRunner} (confined : run.Confined)
    (located : run.Located allowed) : ClosureRunner.Located allowed (Closure.call run) := by
  intro world closure arguments known argumentsKnown cited
  have ⟨scopeKnown, declKnown⟩ := (World.knows_closure _).mp known
  have ⟨nameCited, bodyCited⟩ := (Cites.only_closure closure).mp cited
  refine .log_bind (.allocate_bind ?_ (.none rfl) ?_)
  · exact (World.knows_scope _).mpr ⟨by simpa using scopeKnown, World.knows_empty⟩
  have entries : ∀ entry ∈ (closure.decl.params.map Token.lexeme).zip arguments,
      (world.apply (.newScope { enclosing := some closure.scope })).Knows entry.2 :=
    fun entry member => World.knows_apply (argumentsKnown.mem (List.of_mem_zip member).2)
  refine .bind (ScopeId.defineAll_confined _ (.inr rfl) entries)
    (ScopeId.defineAll_located _ (.inr rfl) entries) ?_
  intro later _ within _ _
  have early := (World.Within.apply world _).trans within
  have inner := within.known _ (.inr rfl)
  have own := within.own _ (.inr rfl)
  have bodyKnown := (World.knows_decl _).mp (declKnown.mono early)
  refine .bind (.returnValue (confined later _ _ inner own bodyKnown))
    (.returnValue (located later _ _ inner own bodyKnown bodyCited)) ?_
  intro latest value _ _ _
  -- An initializer ends with a lookup of its receiver, on the line of its name.
  split
  · exact ScopeId.lookup_located nameCited
  · exact .read_bind fun _ _ => .log_bind (.pure (.none rfl))

theorem ClassId.instantiate_located {run : ClosureRunner} (confined : run.Confined)
    (located : run.Located allowed) {cls : ClassId} {arguments : List Value}
    (known : world.known (.cls cls)) (argumentsKnown : world.Knows arguments) :
    (cls.instantiate run arguments).Located allowed world := by
  refine .bind (InstanceId.create_confined known) InstanceId.create_located ?_
  intro created object toCreated objectKnown _
  refine .bind (ClassId.findMethod_confined (toCreated.known _ known))
    ClassId.findMethod_located ?_
  intro found method toFound methodKnown _
  have objectKnown : found.known (.inst object) := by simpa using objectKnown.mono toFound
  cases method with
  | none => exact .pure (.none rfl)
  | some method =>
      have methodKnown : found.known (.closure method) := by simpa using methodKnown
      refine .read_bind fun _ _ => .log_bind (.read_bind fun closed lined => ?_)
      have closureKnown := closed.closure methodKnown
      refine .bind (Closure.bindTo_confined closureKnown objectKnown)
        (Closure.bindTo_located (lined method methodKnown) closureKnown objectKnown) ?_
      intro bound initializer toBound initializerKnown initializerCited
      have argumentsKnown := ((argumentsKnown.mono toCreated).mono toFound).mono toBound
      refine .bind (confined bound initializer arguments initializerKnown argumentsKnown)
        (located bound initializer arguments initializerKnown argumentsKnown initializerCited) ?_
      intro done _ _ _ _
      exact .pure (.none rfl)

theorem Value.call_located {run : ClosureRunner} (confined : run.Confined)
    (located : run.Located allowed) : Caller.Located allowed (Value.call run) := by
  intro world callee line arguments known argumentsKnown cited
  cases callee with
  | native function => exact Native.call_located function arguments cited
  | closure id =>
      have known : world.known (.closure id) := by simpa using known
      refine .read_bind fun closed lined => ?_
      split
      · exact .raise cited
      · exact located world _ arguments (closed.closure known) argumentsKnown (lined id known)
  | cls id =>
      have known : world.known (.cls id) := by simpa using known
      refine .read_bind fun _ _ => .log_bind ?_
      refine .bind (ClassId.arity_confined known) (ClassId.arity_located known) ?_
      intro later arity within _ _
      have known := within.known _ known
      split
      · refine .bind (ClassId.arity_confined known) (ClassId.arity_located known) ?_
        intro latest expected _ _ _
        exact .raise cited
      · exact ClassId.instantiate_located confined located known (argumentsKnown.mono within)
  | inst | number | text | bool | nil =>
      exact .read_bind fun _ _ => .log_bind (.raise cited)

mutual

theorem Expr.eval_located {call : Caller} (confined : call.Confined)
    (located : call.Located allowed) (scope : ScopeId) (expr : Expr Value) (world : World)
    (known : world.known (.scope scope)) (constants : world.Knows expr.constants)
    (cited : ∀ line ∈ expr.lines, allowed line) :
    (expr.eval call scope).Located allowed world := by
  match expr with
  | .const value =>
      rw [Expr.eval]
      exact .pure (.none rfl)
  | .var name line =>
      rw [Expr.lines] at cited
      rw [Expr.eval]
      exact ScopeId.lookup_located (cited line (by simp))
  | .get object name line =>
      rw [Expr.constants] at constants
      rw [Expr.lines, List.forall_mem_cons] at cited
      rw [Expr.eval]
      refine .bind (Expr.eval_confined confined scope object world known constants)
        (Expr.eval_located confined located scope object world known constants cited.2) ?_
      intro later value _ valueKnown _
      cases value with
      | inst id => exact InstanceId.get_located (by simpa using valueKnown) cited.1
      | native | closure | cls | number | text | bool | nil => exact .raise cited.1
  | .call callee arguments line =>
      rw [Expr.constants, World.knows_append] at constants
      rw [Expr.lines, List.forall_mem_cons, List.forall_mem_append] at cited
      rw [Expr.eval]
      refine .bind (Expr.eval_confined confined scope callee world known constants.1)
        (Expr.eval_located confined located scope callee world known constants.1 cited.2.1) ?_
      intro later callee within calleeKnown _
      have known := within.known _ known
      have constants := constants.2.mono within
      refine .bind (Expr.evalAll_confined confined scope arguments later known constants)
        (Expr.evalAll_located confined located scope arguments later known constants cited.2.2) ?_
      intro latest values onward valuesKnown _
      exact located latest callee line values (calleeKnown.mono onward) valuesKnown cited.1
  | .superMethod name line =>
      rw [Expr.lines] at cited
      rw [Expr.eval]
      exact ScopeId.superMethod_located known (cited line (by simp))
  | .add left right line =>
      rw [Expr.constants, World.knows_append] at constants
      rw [Expr.lines, List.forall_mem_cons, List.forall_mem_append] at cited
      rw [Expr.eval]
      refine .bind (Expr.eval_confined confined scope left world known constants.1)
        (Expr.eval_located confined located scope left world known constants.1 cited.2.1) ?_
      intro later left within _ _
      have known := within.known _ known
      have constants := constants.2.mono within
      refine .bind (Expr.eval_confined confined scope right later known constants)
        (Expr.eval_located confined located scope right later known constants cited.2.2) ?_
      intro latest right _ _ _
      exact Value.add_located left right cited.1
  | .equal left right =>
      rw [Expr.constants, World.knows_append] at constants
      rw [Expr.lines, List.forall_mem_append] at cited
      rw [Expr.eval]
      refine .bind (Expr.eval_confined confined scope left world known constants.1)
        (Expr.eval_located confined located scope left world known constants.1 cited.1) ?_
      intro later left within _ _
      have known := within.known _ known
      have constants := constants.2.mono within
      refine .bind (Expr.eval_confined confined scope right later known constants)
        (Expr.eval_located confined located scope right later known constants cited.2) ?_
      intro latest right _ _ _
      exact .pure (.none rfl)
  | .display operand =>
      rw [Expr.constants] at constants
      rw [Expr.lines] at cited
      rw [Expr.eval]
      refine .bind (Expr.eval_confined confined scope operand world known constants)
        (Expr.eval_located confined located scope operand world known constants cited) ?_
      intro later value _ _ _
      exact .read_bind fun _ _ => .pure (.none rfl)
  | .function decl =>
      rw [Expr.constants] at constants
      rw [Expr.lines] at cited
      rw [Expr.eval]
      refine .bind (Closure.create_confined known constants) (Closure.create_located cited) ?_
      intro later closure _ closureKnown closureCited
      refine .bind (Closure.allocate_confined closureKnown)
        (Closure.allocate_located closureCited) ?_
      intro latest id _ _ _
      exact .pure (.none rfl)
  | .cls name none methods line =>
      rw [Expr.constants] at constants
      rw [Expr.lines, List.forall_mem_cons] at cited
      rw [Expr.eval]
      exact ScopeId.declareClass_located known World.knows_none constants cited.2
  | .cls name (some superclass) methods line =>
      rw [Expr.constants, World.knows_append] at constants
      rw [Expr.lines, List.forall_mem_cons, List.forall_mem_append] at cited
      rw [Expr.eval]
      refine .bind (Expr.eval_confined confined scope superclass world known constants.1)
        (Expr.eval_located confined located scope superclass world known constants.1 cited.2.1) ?_
      intro later value within valueKnown _
      cases value with
      | cls parent =>
          exact ScopeId.declareClass_located (within.known _ known) (by simpa using valueKnown)
            (constants.2.mono within) cited.2.2
      | native | closure | inst | number | text | bool | nil => exact .raise cited.1

theorem Expr.evalAll_located {call : Caller} (confined : call.Confined)
    (located : call.Located allowed) (scope : ScopeId) (exprs : List (Expr Value)) (world : World)
    (known : world.known (.scope scope)) (constants : world.Knows (Expr.constantsAll exprs))
    (cited : ∀ line ∈ Expr.linesAll exprs, allowed line) :
    (Expr.evalAll call scope exprs).Located allowed world := by
  match exprs with
  | [] =>
      rw [Expr.evalAll]
      exact .pure (.none rfl)
  | head :: tail =>
      rw [Expr.constantsAll, World.knows_append] at constants
      rw [Expr.linesAll, List.forall_mem_append] at cited
      rw [Expr.evalAll]
      refine .bind (Expr.eval_confined confined scope head world known constants.1)
        (Expr.eval_located confined located scope head world known constants.1 cited.1) ?_
      intro later value within _ _
      have known := within.known _ known
      have constants := constants.2.mono within
      refine .bind (Expr.evalAll_confined confined scope tail later known constants)
        (Expr.evalAll_located confined located scope tail later known constants cited.2) ?_
      intro latest values _ _ _
      exact .pure (.none rfl)

end

theorem Exec.Located.toUnwind [Cites α] {action : Exec Error α}
    (located : action.Located allowed world) :
    (action.mapError Unwind.error).Located allowed world :=
  .mapError located fun _ cited => cited

theorem Expr.evalIn_located {call : Caller} (confined : call.Confined)
    (located : call.Located allowed) {scope : ScopeId} {expr : Expr Value}
    (known : world.known (.scope scope)) (constants : world.Knows expr.constants)
    (cited : ∀ line ∈ expr.lines, allowed line) :
    (expr.evalIn call scope).Located allowed world :=
  .toUnwind (Expr.eval_located confined located scope expr world known constants cited)

mutual

theorem Stmt.exec_located {call : Caller} (confined : call.Confined)
    (located : call.Located allowed) (stmt : Stmt Value) (scope : ScopeId) (world : World)
    (known : world.known (.scope scope)) (own : world.own scope)
    (constants : world.Knows stmt.constants) (cited : ∀ line ∈ stmt.lines, allowed line) :
    (stmt.exec call scope).Located allowed world := by
  match stmt with
  | .run value =>
      rw [Stmt.constants] at constants
      rw [Stmt.lines] at cited
      rw [Stmt.exec]
      refine .bind (Expr.evalIn_confined confined known constants)
        (Expr.evalIn_located confined located known constants cited) ?_
      intro later value _ _ _
      exact .pure (.none rfl)
  | .ret value =>
      rw [Stmt.constants] at constants
      rw [Stmt.lines] at cited
      rw [Stmt.exec]
      refine .bind (Expr.evalIn_confined confined known constants)
        (Expr.evalIn_located confined located known constants cited) ?_
      intro later value _ _ _
      exact .fail (.none rfl)
  | .define name value =>
      rw [Stmt.constants] at constants
      rw [Stmt.lines] at cited
      rw [Stmt.exec]
      refine .bind (Expr.evalIn_confined confined known constants)
        (Expr.evalIn_located confined located known constants cited) ?_
      intro later value _ _ _
      exact ScopeId.define_located
  | .assign name value line =>
      rw [Stmt.constants] at constants
      rw [Stmt.lines, List.forall_mem_cons] at cited
      rw [Stmt.exec]
      refine .bind (Expr.evalIn_confined confined known constants)
        (Expr.evalIn_located confined located known constants cited.2) ?_
      intro later value _ _ _
      exact .toUnwind (ScopeId.assign_located cited.1)
  | .set object name value line =>
      rw [Stmt.constants, World.knows_append] at constants
      rw [Stmt.lines, List.forall_mem_cons, List.forall_mem_append] at cited
      rw [Stmt.exec]
      refine .bind (Expr.evalIn_confined confined known constants.1)
        (Expr.evalIn_located confined located known constants.1 cited.2.1) ?_
      intro later object within _ _
      cases object with
      | inst id =>
          have known := within.known _ known
          have constants := constants.2.mono within
          refine .bind (Expr.evalIn_confined confined known constants)
            (Expr.evalIn_located confined located known constants cited.2.2) ?_
          intro latest value _ _ _
          exact InstanceId.set_located
      | native | closure | cls | number | text | bool | nil => exact .toUnwind (.raise cited.1)
  | .fail message line =>
      rw [Stmt.lines] at cited
      rw [Stmt.exec]
      exact .toUnwind (.raise (cited line (by simp)))
  | .cond condition thenBranch elseBranch =>
      rw [Stmt.constants, World.knows_append, World.knows_append] at constants
      rw [Stmt.lines, List.forall_mem_append, List.forall_mem_append] at cited
      rw [Stmt.exec]
      refine .bind (Expr.evalIn_confined confined known constants.1.1)
        (Expr.evalIn_located confined located known constants.1.1 cited.1) ?_
      intro later value within _ _
      have known := within.known _ known
      have own := within.own scope own
      split
      · exact Stmt.execAll_located confined located thenBranch scope later known own
          (constants.1.2.mono within) cited.2.1
      · exact Stmt.execAll_located confined located elseBranch scope later known own
          (constants.2.mono within) cited.2.2
  | .block body =>
      rw [Stmt.constants] at constants
      rw [Stmt.lines] at cited
      rw [Stmt.exec]
      refine .allocate_bind ?_ (.none rfl) ?_
      · exact (World.knows_scope _).mpr ⟨by simpa using known, World.knows_empty⟩
      · exact Stmt.execAll_located confined located body _ _ (.inr rfl) (.inr rfl)
          (World.knows_apply constants) cited

theorem Stmt.execAll_located {call : Caller} (confined : call.Confined)
    (located : call.Located allowed) (stmts : List (Stmt Value)) (scope : ScopeId)
    (world : World) (known : world.known (.scope scope)) (own : world.own scope)
    (constants : world.Knows (Stmt.constantsAll stmts))
    (cited : ∀ line ∈ Stmt.linesAll stmts, allowed line) :
    (Stmt.execAll call stmts scope).Located allowed world := by
  match stmts with
  | [] =>
      rw [Stmt.execAll]
      exact .pure (.none rfl)
  | head :: tail =>
      rw [Stmt.constantsAll, World.knows_append] at constants
      rw [Stmt.linesAll, List.forall_mem_append] at cited
      rw [Stmt.execAll]
      refine .bind (Stmt.exec_confined confined head scope world known own constants.1)
        (Stmt.exec_located confined located head scope world known own constants.1 cited.1) ?_
      intro later _ within _ _
      exact Stmt.execAll_located confined located tail scope later (within.known _ known)
        (within.own scope own) (constants.2.mono within) cited.2

end

theorem invoke_located (allowed : Nat -> Prop) (depth : Nat) :
    Caller.Located allowed (invoke depth) := by
  induction depth with
  | zero =>
      intro world callee line arguments _ _ _
      exact .exhaust
  | succ depth ih =>
      have confined : BodyRunner.Confined (Stmt.execAll (invoke depth)) :=
        fun world stmts scope known own constants =>
          Stmt.execAll_confined (invoke_confined depth) stmts scope world known own constants
      have located : BodyRunner.Located allowed (Stmt.execAll (invoke depth)) :=
        fun world stmts scope known own constants cited =>
          Stmt.execAll_located (invoke_confined depth) ih stmts scope world known own constants
            cited
      exact Value.call_located (runClosure_confined depth) (Closure.call_located confined located)

end Lox
