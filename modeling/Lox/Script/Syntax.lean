import Lox.Token

set_option autoImplicit false

namespace Lox

mutual

/-- An expression; lines are those that its errors point at. -/
inductive Expr (κ : Type) where
  | const (value : κ)
  | var (name : String) (line : Nat)
  | get (object : Expr κ) (name : String) (line : Nat)
  -- A call; the callee is evaluated before its arguments.
  | call (callee : Expr κ) (arguments : List (Expr κ)) (line : Nat)
  -- A method looked up from the superclass and bound to the receiver.
  | superMethod (name : String) (line : Nat)
  -- The sum of two numbers or the concatenation of two texts.
  | add (left right : Expr κ) (line : Nat)
  | equal (left right : Expr κ)
  | display (operand : Expr κ)
  | function (decl : Decl κ)
  -- A class whose methods see the current scope, and their superclass if there is one.
  | cls (name : String) (superclass : Option (Expr κ)) (methods : List (Decl κ)) (line : Nat)

inductive Stmt (κ : Type) where
  | run (value : Expr κ)
  | ret (value : Expr κ)
  | define (name : String) (value : Expr κ)
  -- Assign to a variable of the current scope or one around it.
  | assign (name : String) (value : Expr κ) (line : Nat)
  -- Set a field; the instance is evaluated before the value.
  | set (object : Expr κ) (name : String) (value : Expr κ) (line : Nat)
  | fail (message : String) (line : Nat)
  | cond (condition : Expr κ) (thenBranch elseBranch : List (Stmt κ))
  -- Run statements in a scope of their own.
  | block (body : List (Stmt κ))

structure Decl (κ : Type) where
  name : Token
  params : List Token
  body : List (Stmt κ)

end

instance {κ : Type} : Inhabited (Decl κ) :=
  ⟨⟨Token.identifier "" 0, [], []⟩⟩

variable {κ μ : Type}

def Decl.arity (decl : Decl κ) : Nat :=
  decl.params.length

mutual

def Expr.resolve (constant : κ -> Option μ) : Expr κ -> Option (Expr μ)
  | .const value => return .const (← constant value)
  | .var name line => return .var name line
  | .get object name line => return .get (← object.resolve constant) name line
  | .call callee arguments line =>
      return .call (← callee.resolve constant) (← Expr.resolveAll constant arguments) line
  | .superMethod name line => return .superMethod name line
  | .add left right line =>
      return .add (← left.resolve constant) (← right.resolve constant) line
  | .equal left right => return .equal (← left.resolve constant) (← right.resolve constant)
  | .display operand => return .display (← operand.resolve constant)
  | .function decl => return .function (← decl.resolve constant)
  | .cls name none methods line =>
      return .cls name none (← Decl.resolveAll constant methods) line
  | .cls name (some superclass) methods line =>
      return .cls name (some (← superclass.resolve constant))
        (← Decl.resolveAll constant methods) line

def Expr.resolveAll (constant : κ -> Option μ) : List (Expr κ) -> Option (List (Expr μ))
  | [] => some []
  | head :: tail => return (← head.resolve constant) :: (← Expr.resolveAll constant tail)

def Stmt.resolve (constant : κ -> Option μ) : Stmt κ -> Option (Stmt μ)
  | .run value => return .run (← value.resolve constant)
  | .ret value => return .ret (← value.resolve constant)
  | .define name value => return .define name (← value.resolve constant)
  | .assign name value line => return .assign name (← value.resolve constant) line
  | .set object name value line =>
      return .set (← object.resolve constant) name (← value.resolve constant) line
  | .fail message line => return .fail message line
  | .cond condition thenBranch elseBranch =>
      return .cond (← condition.resolve constant) (← Stmt.resolveAll constant thenBranch)
        (← Stmt.resolveAll constant elseBranch)
  | .block body => return .block (← Stmt.resolveAll constant body)

def Stmt.resolveAll (constant : κ -> Option μ) : List (Stmt κ) -> Option (List (Stmt μ))
  | [] => some []
  | head :: tail => return (← head.resolve constant) :: (← Stmt.resolveAll constant tail)

def Decl.resolve (constant : κ -> Option μ) : Decl κ -> Option (Decl μ)
  | ⟨name, params, body⟩ => return ⟨name, params, ← Stmt.resolveAll constant body⟩

def Decl.resolveAll (constant : κ -> Option μ) : List (Decl κ) -> Option (List (Decl μ))
  | [] => some []
  | head :: tail => return (← head.resolve constant) :: (← Decl.resolveAll constant tail)

end

end Lox
