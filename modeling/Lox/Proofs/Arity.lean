import Lox.Script.Eval

set_option autoImplicit false

namespace Lox

def Closure.guardedCall (abort : ClosureRunner) (run : BodyRunner) : ClosureRunner :=
  fun closure arguments =>
    if arguments.length = closure.decl.params.length then closure.call run arguments
    else abort closure arguments

def guardedInvoke (abort : ClosureRunner) : Nat -> Caller
  | 0 => fun _ _ _ => Exec.exhaust
  | depth + 1 =>
      Value.call (Closure.guardedCall abort (Stmt.execAll (guardedInvoke abort depth)))

theorem Heap.findMethod_congr {left right : Heap} (same : ∀ id, left.cls id = right.cls id)
    (id : ClassId) (name : String) : left.findMethod id name = right.findMethod id name := by
  have links (id : ClassId) : left.superclass? id = right.superclass? id := by
    rw [superclass?, same, superclass?]
  fun_induction Heap.findMethod left id name with
  | case1 id method declared =>
      rw [right.findMethod_eq, ← same, declared]
      rfl
  | case2 id undeclared parent link ih =>
      rw [right.findMethod_eq, ← same, undeclared, ← links, link]
      exact ih
  | case3 id undeclared link =>
      rw [right.findMethod_eq, ← same, undeclared, ← links, link]
      rfl

theorem ClassId.arity_bind {ε α : Type} (cls : ClassId) (next : Nat -> Exec ε α) (state : State) :
    (cls.arity >>= next) state =
      next (state.heap.classArity cls)
        { state with log := state.log ++ state.heap.searchEvents cls initializerName } := by
  simp only [ClassId.arity, ClassId.findMethod, bind_assoc, Exec.read_bind, Exec.logAll_bind,
    Heap.classArity]
  cases state.heap.findMethod cls initializerName with
  | none => rfl
  | some method => rfl

theorem Closure.bindTo_bind_congr {ε α : Type} (closure : Closure) (receiver : InstanceId)
    {first second : Closure -> Exec ε α} (state : State)
    (same : ∀ bound : Closure, bound.arity = closure.arity -> first bound = second bound) :
    (closure.bindTo receiver >>= first) state = (closure.bindTo receiver >>= second) state := by
  simp only [Closure.bindTo, bind_assoc, pure_bind, Exec.read_bind, Exec.log_bind,
    Exec.allocate_bind]
  rw [same]
  rfl

def ClosureRunner.AgreeOnArity (left right : ClosureRunner) : Prop :=
  ∀ closure arguments, arguments.length = closure.arity ->
    left closure arguments = right closure arguments

section Agree

variable {left right : ClosureRunner}

theorem ClassId.instantiate_congr (agree : left.AgreeOnArity right) (cls : ClassId)
    (arguments : List Value) (state : State)
    (fits : arguments.length = state.heap.classArity cls) :
    cls.instantiate left arguments state = cls.instantiate right arguments state := by
  -- The second search is on a heap with one more instance, and finds the same initializer.
  have again : (state.heap.apply (.newInstance cls)).findMethod cls initializerName =
      state.heap.findMethod cls initializerName :=
    Heap.findMethod_congr (fun id => Heap.cls_apply ..) cls initializerName
  simp only [ClassId.instantiate, InstanceId.create, ClassId.findMethod, bind_assoc,
    Exec.read_bind, Exec.logAll_bind, Exec.log_bind, Exec.allocate_bind, again]
  cases found : state.heap.findMethod cls initializerName with
  | none => rfl
  | some method =>
      have sized : arguments.length = (state.heap.closure method).arity := by
        rw [fits, Heap.classArity, found]
      simp only [Exec.read_bind, Exec.log_bind]
      rw [Heap.closure_apply]
      -- Binding changes the scope of the initializer and not its parameters.
      apply Closure.bindTo_bind_congr
      intro bound kept
      rw [agree bound arguments (sized.trans kept.symm)]

theorem Value.call_congr (agree : left.AgreeOnArity right) :
    Value.call left = Value.call right := by
  funext callee line arguments state
  cases callee with
  | closure id =>
      simp only [Value.call, Exec.read_bind]
      split
      · rfl
      · next fits => rw [agree _ _ (Decidable.not_not.mp fits)]
  | cls id =>
      simp only [Value.call, Exec.read_bind, Exec.log_bind, ClassId.arity_bind]
      split
      · rfl
      · next fits => exact ClassId.instantiate_congr agree id arguments _ (Decidable.not_not.mp fits)
  | native | inst | number | text | bool | nil => rfl

end Agree

theorem Closure.guardedCall_agree (abort : ClosureRunner) (run : BodyRunner) :
    ClosureRunner.AgreeOnArity (Closure.guardedCall abort run) (Closure.call run) := by
  intro closure arguments fits
  exact if_pos fits

/-- No call of a value ever runs a function on more or fewer arguments than it has parameters. -/
theorem guardedInvoke_eq_invoke (abort : ClosureRunner) (depth : Nat) :
    guardedInvoke abort depth = invoke depth := by
  induction depth with
  | zero => rfl
  | succ depth ih =>
      rw [guardedInvoke, invoke, ih]
      exact Value.call_congr (Closure.guardedCall_agree abort _)

end Lox
