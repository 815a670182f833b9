set_option autoImplicit false

namespace Lox.Text

def commaSeparated (parts : List String) : String :=
  ", ".intercalate parts

def applied (name part : String) : String :=
  name ++ "(" ++ part ++ ")"

def record (name : String) (fields : List (String × String)) : String :=
  name ++ " \x7b " ++
    commaSeparated (fields.map fun field => field.1 ++ ": " ++ field.2) ++ " \x7d"

def partialRecord (name : String) (fields : List (String × String)) : String :=
  name ++ " \x7b " ++
    commaSeparated (fields.map (fun field => field.1 ++ ": " ++ field.2) ++ [".."]) ++ " \x7d"

def sequence (parts : List String) : String :=
  "[" ++ commaSeparated parts ++ "]"

def mapping (entries : List (String × String)) : String :=
  "\x7b" ++ commaSeparated (entries.map fun entry => entry.1 ++ ": " ++ entry.2) ++ "\x7d"

def optional : Option String -> String
  | none => "None"
  | some part => applied "Some" part

def truth (value : Bool) : String :=
  if value then "true" else "false"

end Lox.Text
