set_option autoImplicit false

namespace Lox.Text

def escapeControl (char : Char) : List Char :=
  ['\\', 'u', '0', '0', Nat.digitChar (char.toNat / 16), Nat.digitChar (char.toNat % 16)]

def escapeJson (char : Char) : List Char :=
  match char with
  | '"' => ['\\', '"']
  | '\\' => ['\\', '\\']
  | '\n' => ['\\', 'n']
  | '\r' => ['\\', 'r']
  | '\t' => ['\\', 't']
  | '\x08' => ['\\', 'b']
  | '\x0c' => ['\\', 'f']
  | _ => if char.toNat < 0x20 then escapeControl char else [char]

def jsonString (text : String) : String :=
  String.ofList ('"' :: text.toList.flatMap escapeJson ++ ['"'])

end Lox.Text
