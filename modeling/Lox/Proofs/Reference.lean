import Lox.Call

set_option autoImplicit false

namespace Lox

section Constants

variable {κ : Type}

mutual

def Expr.constants : Expr κ -> List κ
  | .const value => [value]
  | .var _ _ => []
  | .get object _ _ => object.constants
  | .call callee arguments _ => callee.constants ++ Expr.constantsAll arguments
  | .superMethod _ _ => []
  | .add left right _ => left.constants ++ right.constants
  | .equal left right => left.constants ++ right.constants
  | .display operand => operand.constants
  | .function decl => decl.constants
  | .cls _ none methods _ => Decl.constantsAll methods
  | .cls _ (some superclass) methods _ => superclass.constants ++ Decl.constantsAll methods

def Expr.constantsAll : List (Expr κ) -> List κ
  | [] => []
  | head :: tail => head.constants ++ Expr.constantsAll tail

def Stmt.constants : Stmt κ -> List κ
  | .run value => value.constants
  | .ret value => value.constants
  | .define _ value => value.constants
  | .assign _ value _ => value.constants
  | .set object _ value _ => object.constants ++ value.constants
  | .fail _ _ => []
  | .cond condition thenBranch elseBranch =>
      condition.constants ++ Stmt.constantsAll thenBranch ++ Stmt.constantsAll elseBranch
  | .block body => Stmt.constantsAll body

def Stmt.constantsAll : List (Stmt κ) -> List κ
  | [] => []
  | head :: tail => head.constants ++ Stmt.constantsAll tail

def Decl.constants : Decl κ -> List κ
  | ⟨_, _, body⟩ => Stmt.constantsAll body

def Decl.constantsAll : List (Decl κ) -> List κ
  | [] => []
  | head :: tail => head.constants ++ Decl.constantsAll tail

end

theorem Decl.constants_eq (decl : Decl κ) : decl.constants = Stmt.constantsAll decl.body := by
  cases decl
  rw [Decl.constants]

end Constants

class Refers (α : Type) where
  links : α -> Handle -> Prop

namespace Refers

variable {α β : Type}

instance : Refers ScopeId := ⟨fun id target => target = .scope id⟩

instance : Refers ClosureId := ⟨fun id target => target = .closure id⟩

instance : Refers ClassId := ⟨fun id target => target = .cls id⟩

instance : Refers InstanceId := ⟨fun id target => target = .inst id⟩

instance : Refers Value := ⟨fun value target => value.handle? = some target⟩

instance [Refers α] : Refers (List α) := ⟨fun items target => ∃ item ∈ items, links item target⟩

instance [Refers α] : Refers (Option α) := ⟨fun item target => ∃ inner ∈ item, links inner target⟩

instance [Refers α] : Refers (Bindings α) :=
  ⟨fun bindings target => ∃ name value, bindings.get? name = some value ∧ links value target⟩

instance : Refers (Decl Value) := ⟨fun decl => links decl.constants⟩

instance : Refers Scope :=
  ⟨fun scope target => links scope.enclosing target ∨ links scope.vars target⟩

instance : Refers Closure :=
  ⟨fun closure target => links closure.scope target ∨ links closure.decl target⟩

instance : Refers Class :=
  ⟨fun cls target => links cls.superclass target ∨ links cls.methods target⟩

instance : Refers Instance :=
  ⟨fun object target => links object.cls target ∨ links object.fields target⟩

instance : Refers Unit := ⟨fun _ _ => False⟩

instance : Refers Nat := ⟨fun _ _ => False⟩

instance : Refers Error := ⟨fun _ _ => False⟩

instance : Refers Unwind :=
  ⟨fun
    | .error cause => links cause
    | .returned value => links value⟩

instance [Refers α] [Refers β] : Refers (Outcome α β) :=
  ⟨fun
    | .done value => links value
    | .failed error => links error
    | .exhausted => fun _ => False⟩

end Refers

namespace Heap

def Has (heap : Heap) : Handle -> Prop
  | .scope id => id.index < heap.scopes.size
  | .closure id => id.index < heap.closures.size
  | .cls id => id.index < heap.classes.size
  | .inst id => id.index < heap.instances.size

instance (heap : Heap) : DecidablePred heap.Has
  | .scope id => inferInstanceAs (Decidable (id.index < heap.scopes.size))
  | .closure id => inferInstanceAs (Decidable (id.index < heap.closures.size))
  | .cls id => inferInstanceAs (Decidable (id.index < heap.classes.size))
  | .inst id => inferInstanceAs (Decidable (id.index < heap.instances.size))

section Absent

variable {heap : Heap}

-- What is not there reads as an empty object.

theorem scope_absent {id : ScopeId} (absent : ¬ heap.Has (.scope id)) :
    heap.scope id = default := by
  rw [Heap.scope, Array.getElem?_eq_none (Nat.not_lt.mp absent), Option.getD_none]

theorem closure_absent {id : ClosureId} (absent : ¬ heap.Has (.closure id)) :
    heap.closure id = default := by
  rw [Heap.closure, Array.getElem?_eq_none (Nat.not_lt.mp absent), Option.getD_none]

theorem cls_absent {id : ClassId} (absent : ¬ heap.Has (.cls id)) :
    heap.cls id = default := by
  rw [Heap.cls, Array.getElem?_eq_none (Nat.not_lt.mp absent), Option.getD_none]

theorem inst_absent {id : InstanceId} (absent : ¬ heap.Has (.inst id)) :
    heap.inst id = default := by
  rw [Heap.inst, Array.getElem?_eq_none (Nat.not_lt.mp absent), Option.getD_none]

end Absent

def RefersTo (heap : Heap) : Handle -> Handle -> Prop
  | .scope id => Refers.links (heap.scope id)
  | .closure id => Refers.links (heap.closure id)
  | .cls id => Refers.links (heap.cls id)
  | .inst id => Refers.links (heap.inst id)

/-- The objects that references lead to from given ones, those included. -/
inductive Reaches (heap : Heap) (roots : Handle -> Prop) : Handle -> Prop where
  | root {handle : Handle} : roots handle -> Reaches heap roots handle
  | next {source target : Handle} :
      Reaches heap roots source -> heap.RefersTo source target -> Reaches heap roots target

theorem Reaches.least {heap : Heap} {roots inside : Handle -> Prop}
    (start : ∀ handle, roots handle -> inside handle)
    (closed : ∀ source target, inside source -> heap.RefersTo source target -> inside target)
    {handle : Handle} (reached : heap.Reaches roots handle) : inside handle := by
  induction reached with
  | root isRoot => exact start _ isRoot
  | next _ link ih => exact closed _ _ ih link

end Heap

end Lox
