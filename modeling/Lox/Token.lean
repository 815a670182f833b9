import Lox.Text.Json
import Lox.Text.Layout
import Lox.Text.Quoted

set_option autoImplicit false

namespace Lox

inductive TokenKind where
  | identifier
  | receiver
  | superclass
  deriving DecidableEq, Repr

def TokenKind.word : TokenKind -> String
  | .identifier => "IDENTIFIER"
  | .receiver => "THIS"
  | .superclass => "SUPER"

structure Token where
  kind : TokenKind
  lexeme : String
  line : Nat
  deriving DecidableEq, Repr

namespace Token

def identifier (lexeme : String) (line : Nat) : Token :=
  ⟨.identifier, lexeme, line⟩

def display (token : Token) : String :=
  -- A name token carries no literal, so the last word is fixed.
  token.kind.word ++ " " ++ token.lexeme ++ " null"

def debug (token : Token) : String :=
  Text.record "Token" [
    ("token_type", token.kind.word),
    ("lexeme", Text.quoted token.lexeme),
    ("line", toString token.line)]

def json (token : Token) : String :=
  "\x7b\"token_type\":" ++ Text.jsonString token.kind.word ++
    ",\"lexeme\":" ++ Text.jsonString token.lexeme ++
    ",\"line\":" ++ toString token.line ++ "\x7d"

end Token

end Lox
