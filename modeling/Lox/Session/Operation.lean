import Lox.Session.Register

set_option autoImplicit false

namespace Lox

inductive DeclSource where
  | inline (decl : Decl Literal)
  | register (name : String)

structure FunctionSpec where
  decl : DeclSource
  scope : String := globalsName
  -- Unless told, an initializer is a function that is named like one.
  isInitializer : Option Bool := none

inductive MethodSpec where
  | copy (register : String)
  | make (spec : FunctionSpec)

inductive PropertyName where
  | inline (name : String) (line : Nat)
  | token (register : String)

inductive Operation where
  | token (token : Token)
  | compareTokens (left right : String)
  -- Make an error and show its texts.
  | error (error : Error)
  | returnSignal (value : Literal)
  | value (value : Literal)
  | equal (left right : Literal)
  -- Show the inspection text of what a register holds.
  | debug (register : String)
  | newScope (enclosing : Option String)
  | cloneScope (scope : String)
  | enclosingScope (scope : String)
  | define (scope name : String) (value : Literal)
  | assign (scope name : String) (value : Literal) (line : Nat)
  | lookup (scope name : String) (line : Nat)
  | declare (decl : Decl Literal)
  | newFunction (spec : FunctionSpec)
  | cloneFunction (function : String)
  | functionInfo (function : String)
  | scopeOf (function : String)
  | bind (function receiver : String)
  -- Call a value with a check of its arity.
  | call (callee : Literal) (arguments : List Literal) (line : Nat)
  -- Call a function or a class without a check.
  | apply (callee : String) (arguments : List Literal)
  | arity (callee : String)
  -- Make a class; its name or a method is missing if it could not be read.
  | newClass (name : Option String) (superclass : Option String)
      (methods : List (Option MethodSpec))
  | classInfo (cls : String)
  | superclass (cls : String)
  | findMethod (cls name : String)
  -- Make an instance and initialize it, without a check of the arity.
  | instantiate (cls : String) (arguments : List Literal)
  -- Make an instance that is not initialized.
  | newInstance (cls : String)
  | classOf (object : String)
  | get (object : String) (property : PropertyName)
  | set (object : String) (property : PropertyName) (value : Literal)
  | fields (object : String)
  | sameInstance (left right : String)

structure Request where
  operation : Operation
  storeAs : Option String := none

end Lox
