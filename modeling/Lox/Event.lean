import Lox.Error
import Lox.Token
import Lox.Value

set_option autoImplicit false

namespace Lox

inductive Level where
  | info
  | debug
  deriving DecidableEq, Repr

def Level.word : Level -> String
  | .info => "INFO"
  | .debug => "DEBUG"

inductive Event where
  | tokenCreated (token : Token)
  | defining (scope : ScopeId) (name : String) (value : Value) (text : String)
  | functionCreated (name : String) (isInitializer : Bool)
  | binding (method : String) (receiver : InstanceId) (text : String)
  | calling (function : String)
  | returned (function value : String)
  | classCreated (name : String) (methods : Nat) (superclass : Option String)
  | methodFound (method cls : String)
  | methodInherited (method cls superclass : String)
  | constructing (cls : String)
  | instanceCreated (cls : String)
  | initializing (cls : String)
  | fieldRead (name value : String)
  | fieldSet (object : InstanceId) (name : String) (value : Value) (text : String)
  | nativeCalling (function : String)
  | nativeReturned (function value : String)
  | calleeRejected (value : String)
  | undefinedProperty (name : String) (line : Nat)
  | undefinedVariable (name : String) (line : Nat)
  | arityMismatch (expected got : Nat) (line : Nat)
  | runtimeFailure (message : String) (line : Nat)
  deriving DecidableEq, Repr

def Error.event? : Error -> Option Event
  | .undefinedProperty name line => some (.undefinedProperty name line)
  | .undefinedVariable name line => some (.undefinedVariable name line)
  | .arity expected got line => some (.arityMismatch expected got line)
  -- The call that was refused has been reported already.
  | .notCallable _ => none
  | .runtime message line => some (.runtimeFailure message line)

namespace Event

def level : Event -> Level
  | .returned .. | .classCreated .. | .instanceCreated .. | .nativeReturned ..
  | .undefinedProperty .. | .undefinedVariable .. | .arityMismatch .. | .runtimeFailure .. =>
      .info
  | _ => .debug

def message : Event -> String
  | .tokenCreated token =>
      "Creating new token: type=" ++ token.kind.word ++ ", lexeme=" ++ token.lexeme ++
        ", line=" ++ toString token.line
  | .defining _ name _ text => "Defining '" ++ name ++ "' = " ++ text
  | .functionCreated name isInitializer =>
      "Creating function '" ++ name ++ "' (initializer: " ++ Text.truth isInitializer ++ ")"
  | .binding method _ text => "Binding method '" ++ method ++ "' to " ++ text
  | .calling function => "Calling user-defined function '" ++ function ++ "'"
  | .returned function value => "Function '" ++ function ++ "' returned: " ++ value
  | .classCreated name methods superclass =>
      "Class '" ++ name ++ "' created with " ++ toString methods ++
        " method(s), superclass: " ++ superclass.getD "none"
  | .methodFound method cls => "Method '" ++ method ++ "' found on class '" ++ cls ++ "'"
  | .methodInherited method cls superclass =>
      "Method '" ++ method ++ "' not on '" ++ cls ++ "', ascending to '" ++ superclass ++ "'"
  | .constructing cls => "Constructing instance of '" ++ cls ++ "'"
  | .instanceCreated cls => "Creating instance of '" ++ cls ++ "'"
  | .initializing cls => "Running initializer of '" ++ cls ++ "'"
  | .fieldRead name value => "Field '" ++ name ++ "' hit: " ++ value
  | .fieldSet _ name _ text => "Setting field '" ++ name ++ "' = " ++ text
  | .nativeCalling function => "Calling native function '" ++ function ++ "'"
  | .nativeReturned function value =>
      "Native function '" ++ function ++ "' returned: " ++ value
  | .calleeRejected value => "Error: " ++ value ++ " is not callable"
  | .undefinedProperty name line =>
      "Creating UndefinedProperty error: line=" ++ toString line ++ ", name=" ++ name
  | .undefinedVariable name line =>
      "Creating UndefinedVariable error: line=" ++ toString line ++ ", name=" ++ name
  | .arityMismatch expected got line =>
      "Creating Arity error: line=" ++ toString line ++ ", expected=" ++ toString expected ++
        ", got=" ++ toString got
  | .runtimeFailure message line =>
      "Creating Runtime error: line=" ++ toString line ++ ", msg=" ++ message

def text (event : Event) : String :=
  event.level.word ++ " " ++ event.message

end Event

end Lox
