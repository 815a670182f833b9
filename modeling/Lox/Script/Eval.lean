import Lox.Call

set_option autoImplicit false

/-!
# Running function bodies

Expressions and statements are evaluated by recursion on their structure. Only
calls go beyond it, so how to call is a parameter, and `invoke` closes the
circle: calls nest at most as deep as it is told.
-/

namespace Lox

abbrev Caller := Value -> Nat -> List Value -> Exec Error Value

def Value.add (left right : Value) (line : Nat) : Exec Error Value :=
  match left, right with
  | .number left, .number right => return .number (left.add right)
  | .text left, .text right => return .text (left ++ right)
  | _, _ => Exec.raise (.runtime "Operands must match." line)

def ScopeId.superMethod (scope : ScopeId) (name : String) (line : Nat) :
    Exec Error Value := do
  let superclass ← scope.lookup superclassName line
  let receiver ← scope.lookup receiverName line
  match superclass, receiver with
  | .cls cls, .inst object => cls.boundMethod name object line
  | _, _ => Exec.raise (.runtime "Bad super." line)

def Closure.createAll {ε : Type} (scope : ScopeId) : List (Decl Value) -> Exec ε (List Closure)
  | [] => pure []
  | decl :: rest => do
      let method ← Closure.create decl scope (decl.name.lexeme = initializerName)
      return method :: (← Closure.createAll scope rest)

def ScopeId.methodScope {ε : Type} (scope : ScopeId) : Option ClassId -> Exec ε ScopeId
  | some superclass => do
      let inner ← ScopeId.create (some scope)
      inner.define superclassName (.cls superclass)
      return inner
  | none => return scope

def ScopeId.declareClass {ε : Type} (scope : ScopeId) (name : String)
    (superclass : Option ClassId) (methods : List (Decl Value)) : Exec ε Value := do
  let inner ← scope.methodScope superclass
  return .cls (← ClassId.create name superclass (← Closure.createAll inner methods))

mutual

def Expr.eval (call : Caller) (scope : ScopeId) : Expr Value -> Exec Error Value
  | .const value => return value
  | .var name line => scope.lookup name line
  | .get object name line => do
      match ← object.eval call scope with
      | .inst id => id.get name line
      | _ => Exec.raise (.runtime "Only instances have properties." line)
  | .call callee arguments line => do
      let callee ← callee.eval call scope
      call callee line (← Expr.evalAll call scope arguments)
  | .superMethod name line => scope.superMethod name line
  | .add left right line => do
      let left ← left.eval call scope
      left.add (← right.eval call scope) line
  | .equal left right => do
      let left ← left.eval call scope
      return .bool (left.equals (← right.eval call scope))
  | .display operand => do
      let value ← operand.eval call scope
      return .text (← Exec.read (·.display value))
  | .function decl => do
      return .closure (← (← Closure.create decl scope false).allocate)
  | .cls name none methods _ => scope.declareClass name none methods
  | .cls name (some superclass) methods line => do
      match ← superclass.eval call scope with
      | .cls parent => scope.declareClass name (some parent) methods
      | _ => Exec.raise (.runtime "Superclass must be a class." line)
termination_by structural expr => expr

def Expr.evalAll (call : Caller) (scope : ScopeId) :
    List (Expr Value) -> Exec Error (List Value)
  | [] => return []
  | head :: tail => do
      let value ← head.eval call scope
      return value :: (← Expr.evalAll call scope tail)
termination_by structural exprs => exprs

end

def Expr.evalIn (call : Caller) (scope : ScopeId) (expr : Expr Value) : Exec Unwind Value :=
  (expr.eval call scope).mapError .error

mutual

def Stmt.exec (call : Caller) : Stmt Value -> ScopeId -> Exec Unwind Unit
  | .run value, scope => do
      let _ ← value.evalIn call scope
  | .ret value, scope => do
      Exec.fail (.returned (← value.evalIn call scope))
  | .define name value, scope => do
      scope.define name (← value.evalIn call scope)
  | .assign name value line, scope => do
      let value ← value.evalIn call scope
      (scope.assign name value line).mapError .error
  | .set object name value line, scope => do
      match ← object.evalIn call scope with
      | .inst id => id.set name (← value.evalIn call scope)
      | _ => (Exec.raise (.runtime "Only instances have fields." line)).mapError .error
  | .fail message line, _ => (Exec.raise (.runtime message line)).mapError .error
  | .cond condition thenBranch elseBranch, scope => do
      if (← condition.evalIn call scope).isTruthy then Stmt.execAll call thenBranch scope
      else Stmt.execAll call elseBranch scope
  | .block body, scope => do
      Stmt.execAll call body (← ScopeId.create (some scope))
termination_by structural stmt => stmt

def Stmt.execAll (call : Caller) : List (Stmt Value) -> ScopeId -> Exec Unwind Unit
  | [], _ => return ()
  | head :: tail, scope => do
      head.exec call scope
      Stmt.execAll call tail scope
termination_by structural stmts => stmts

end

def invoke : Nat -> Caller
  | 0 => fun _ _ _ => Exec.exhaust
  | depth + 1 => Value.call (Closure.call (Stmt.execAll (invoke depth)))

def runClosure (depth : Nat) : ClosureRunner :=
  Closure.call (Stmt.execAll (invoke depth))

@[simp]
theorem invoke_succ (depth : Nat) :
    invoke (depth + 1) = Value.call (runClosure depth) := rfl

end Lox
