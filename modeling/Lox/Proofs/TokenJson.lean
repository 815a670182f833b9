import Lox.Proofs.JsonReader
import Lox.Token

set_option autoImplicit false

namespace Lox

namespace Json

section Members

variable {bound : Nat} (name : String) {value : Json} {chars rest : List Char}

theorem readMember?_member (reads : readValue? bound chars = some (value, rest)) :
    readMember? (bound + 1) ((Text.jsonString name).toList ++ ':' :: chars) =
      some ((name, value), rest) := by
  rw [jsonString_append, readMember?, skipBlanks_cons (by decide)]
  simp [readString?_escaped, skipBlanks_cons (show ¬ isBlank ':' by decide), reads]

theorem readMembers?_last (reads : readValue? bound chars = some (value, '\x7d' :: rest)) :
    readMembers? (bound + 2) ((Text.jsonString name).toList ++ ':' :: chars) =
      some ([(name, value)], rest) := by
  rw [readMembers?, readMember?_member name reads]
  simp [skipBlanks_cons (show ¬ isBlank '\x7d' by decide)]

theorem readMembers?_next {members : List (String × Json)} {others : List Char}
    (reads : readValue? bound chars = some (value, ',' :: rest))
    (continues : readMembers? (bound + 1) rest = some (members, others)) :
    readMembers? (bound + 2) ((Text.jsonString name).toList ++ ':' :: chars) =
      some ((name, value) :: members, others) := by
  rw [readMembers?, readMember?_member name reads]
  simp [skipBlanks_cons (show ¬ isBlank ',' by decide), continues]

theorem readValue?_object {members : List (String × Json)} {others : List Char}
    (reads : readMembers? bound ((Text.jsonString name).toList ++ chars) = some (members, others)) :
    readValue? (bound + 1) ('\x7b' :: ((Text.jsonString name).toList ++ chars)) =
      some (.object members, others) := by
  have quote : ¬ isBlank '"' := by decide
  have brace : ¬ isBlank '\x7b' := by decide
  rw [jsonString_append] at reads ⊢
  simp [readValue?, skipBlanks_cons brace, skipBlanks_cons quote, reads]

end Members

end Json

theorem TokenKind.word_inj {left right : TokenKind} :
    left.word = right.word ↔ left = right := by
  cases left <;> cases right <;> simp [word]

namespace Token

theorem toList_json (token : Token) :
    token.json.toList =
      '\x7b' :: ((Text.jsonString "token_type").toList ++ ':' ::
        ((Text.jsonString token.kind.word).toList ++ ',' ::
          ((Text.jsonString "lexeme").toList ++ ':' ::
            ((Text.jsonString token.lexeme).toList ++ ',' ::
              ((Text.jsonString "line").toList ++ ':' ::
                ((toString token.line).toList ++ ['\x7d'])))))) := by
  -- The names of the fields are strings of JSON too, so that one lemma reads every member.
  have kindKey : "\x7b\"token_type\":" = "\x7b" ++ Text.jsonString "token_type" ++ ":" := by
    decide +kernel
  have lexemeKey : ",\"lexeme\":" = "," ++ Text.jsonString "lexeme" ++ ":" := by decide +kernel
  have lineKey : ",\"line\":" = "," ++ Text.jsonString "line" ++ ":" := by decide +kernel
  have written : token.json = "\x7b\"token_type\":" ++ Text.jsonString token.kind.word ++
      ",\"lexeme\":" ++ Text.jsonString token.lexeme ++
      ",\"line\":" ++ toString token.line ++ "\x7d" := rfl
  rw [written, kindKey, lexemeKey, lineKey]
  simp

def toJson (token : Token) : Json :=
  .object [
    ("token_type", .string token.kind.word),
    ("lexeme", .string token.lexeme),
    ("line", .number token.line)]

theorem read?_json (token : Token) : Json.read? token.json = some token.toJson := by
  obtain ⟨bound, length⟩ : ∃ bound, token.json.length = bound + 6 := by
    refine Nat.exists_eq_add_of_le' ?_
    rw [← String.length_toList, toList_json]
    simp [Json.jsonString_append]
    omega
  have line := Json.readMembers?_last "line"
    (Json.readValue?_toString bound token.line [])
  have lexeme := Json.readMembers?_next "lexeme"
    (Json.readValue?_jsonString (bound + 1) token.lexeme _) line
  have kind := Json.readMembers?_next "token_type"
    (Json.readValue?_jsonString (bound + 2) token.kind.word _) lexeme
  rw [Json.read?, length, toList_json, Json.readValue?_object "token_type" kind]
  rfl

theorem toJson_inj {left right : Token} : left.toJson = right.toJson ↔ left = right := by
  obtain ⟨kind, lexeme, line⟩ := left
  obtain ⟨otherKind, otherLexeme, otherLine⟩ := right
  simp [toJson, TokenKind.word_inj]

end Token

/-- The JSON text of a token is read back as its three fields, so it tells tokens apart. -/
theorem token_json_readable (token : Token) :
    Json.read? token.json = some (.object [
      ("token_type", .string token.kind.word),
      ("lexeme", .string token.lexeme),
      ("line", .number token.line)]) ∧
    ∀ other : Token,
      (token.kind.word = other.kind.word ↔ token.kind = other.kind) ∧
      (token.json = other.json ↔ token = other) := by
  refine ⟨token.read?_json, fun other => ⟨TokenKind.word_inj, fun same => ?_, congrArg Token.json⟩⟩
  have reads := token.read?_json
  rw [same, other.read?_json, Option.some_inj, Token.toJson_inj] at reads
  exact reads.symm

end Lox
