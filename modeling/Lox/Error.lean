import Lox.Text.Layout
import Lox.Text.Quoted

set_option autoImplicit false

namespace Lox

inductive Error where
  | undefinedProperty (name : String) (line : Nat)
  | undefinedVariable (name : String) (line : Nat)
  | arity (expected got : Nat) (line : Nat)
  -- A call of something that is neither a function nor a class.
  | notCallable (line : Nat)
  -- A failure that a function raised itself.
  | runtime (message : String) (line : Nat)
  deriving DecidableEq, Repr

namespace Error

def line : Error -> Nat
  | .undefinedProperty _ line => line
  | .undefinedVariable _ line => line
  | .arity _ _ line => line
  | .notCallable line => line
  | .runtime _ line => line

def cause : Error -> String
  | .undefinedProperty name _ => "Undefined property '" ++ name ++ "'."
  | .undefinedVariable name _ => "Undefined variable '" ++ name ++ "'."
  | .arity expected got _ =>
      "Expected " ++ toString expected ++ " arguments but got " ++ toString got ++ "."
  | .notCallable _ => "Can only call functions and classes."
  | .runtime message _ => message

def message (error : Error) : String :=
  "[line " ++ toString error.line ++ "] Error: " ++ error.cause

def debug : Error -> String
  | .undefinedProperty name line =>
      Text.record "UndefinedProperty" [("name", Text.quoted name), ("line", toString line)]
  | .undefinedVariable name line =>
      Text.record "UndefinedVariable" [("name", Text.quoted name), ("line", toString line)]
  | .arity expected got line =>
      Text.record "Arity" [
        ("expected", toString expected), ("got", toString got), ("line", toString line)]
  | .notCallable line => Text.record "NotCallable" [("line", toString line)]
  | .runtime message line =>
      Text.record "Runtime" [("message", Text.quoted message), ("line", toString line)]

end Error

end Lox
