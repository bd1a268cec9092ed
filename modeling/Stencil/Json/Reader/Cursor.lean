/-! Reading position in JSON text, and the errors a reader reports at a line and column. -/

namespace Stencil.Json

/-- Why JSON text could not be read. -/
inductive ReadError.Cause where
  | eofWhileParsingList
  | eofWhileParsingObject
  | eofWhileParsingString
  | eofWhileParsingValue
  | expectedColon
  | expectedListCommaOrEnd
  | expectedObjectCommaOrEnd
  | expectedSomeIdent
  | expectedSomeValue
  | invalidEscape
  | invalidNumber
  | numberOutOfRange
  | controlCharacterWhileParsingString
  | keyMustBeAString
  | loneLeadingSurrogateInHexEscape
  | trailingComma
  | trailingCharacters
  | unexpectedEndOfHexEscape
  | recursionLimitExceeded
deriving Repr, DecidableEq

def ReadError.Cause.message : ReadError.Cause → String
  | .eofWhileParsingList => "EOF while parsing a list"
  | .eofWhileParsingObject => "EOF while parsing an object"
  | .eofWhileParsingString => "EOF while parsing a string"
  | .eofWhileParsingValue => "EOF while parsing a value"
  | .expectedColon => "expected `:`"
  | .expectedListCommaOrEnd => "expected `,` or `]`"
  | .expectedObjectCommaOrEnd => "expected `,` or `\x7d`"
  | .expectedSomeIdent => "expected ident"
  | .expectedSomeValue => "expected value"
  | .invalidEscape => "invalid escape"
  | .invalidNumber => "invalid number"
  | .numberOutOfRange => "number out of range"
  | .controlCharacterWhileParsingString =>
    "control character (\\u0000-\\u001F) found while parsing a string"
  | .keyMustBeAString => "key must be a string"
  | .loneLeadingSurrogateInHexEscape => "lone leading surrogate in hex escape"
  | .trailingComma => "trailing comma"
  | .trailingCharacters => "trailing characters"
  | .unexpectedEndOfHexEscape => "unexpected end of hex escape"
  | .recursionLimitExceeded => "recursion limit exceeded"

/-- A reading error and the byte offset it is reported at. -/
structure ReadError where
  cause : ReadError.Cause
  offset : Nat
deriving Repr, DecidableEq

/-- The line and column of a byte offset in the text. -/
def lineColumn (text : List Char) (offset : Nat) : Nat × Nat :=
  go text 0 1 0
where
  go : List Char → Nat → Nat → Nat → Nat × Nat
    | [], _, line, lineStart => (line, offset - lineStart)
    | c :: rest, pos, line, lineStart =>
      if offset ≤ pos then (line, offset - lineStart)
      else if c = '\n' then go rest (pos + 1) (line + 1) (pos + 1)
      else go rest (pos + c.utf8Size) line lineStart

def ReadError.describe (text : String) (e : ReadError) : String :=
  let (line, column) := lineColumn text.toList e.offset
  e.cause.message ++ " at line " ++ toString line ++ " column " ++ toString column

/-- What remains of the text, and the number of bytes before it. -/
structure Cursor where
  rest : List Char
  offset : Nat
deriving Repr, DecidableEq

namespace Cursor

def start (text : String) : Cursor := ⟨text.toList, 0⟩

def skipSpace (c : Cursor) : Cursor :=
  go c.rest c.offset
where
  go : List Char → Nat → Cursor
    | ' ' :: rest, offset => go rest (offset + 1)
    | '\n' :: rest, offset => go rest (offset + 1)
    | '\t' :: rest, offset => go rest (offset + 1)
    | '\r' :: rest, offset => go rest (offset + 1)
    | rest, offset => ⟨rest, offset⟩

def fail (c : Cursor) (cause : ReadError.Cause) : ReadError := ⟨cause, c.offset⟩

/-- An error reported one byte ahead, at the character being looked at, or at the end of
the text when nothing is left. -/
def failAhead (c : Cursor) (cause : ReadError.Cause) : ReadError :=
  ⟨cause, if c.rest.isEmpty then c.offset else c.offset + 1⟩

end Cursor

end Stencil.Json
