import Stencil.Json.Reader.Number
import Stencil.Json.Reader.String
/-! Reading JSON text into a value, nesting at most 127 deep, the error naming the first fault. -/

namespace Stencil.Json

def Cursor.readWord (c : Cursor) (word : List Char) (value : Json) : Except ReadError (Json × Cursor) :=
  go word c.rest c.offset
where
  go : List Char → List Char → Nat → Except ReadError (Json × Cursor)
    | [], rest, offset => .ok (value, ⟨rest, offset⟩)
    | _ :: _, [], offset => .error ⟨.eofWhileParsingValue, offset⟩
    | w :: ws, r :: rest, offset =>
      if w = r then go ws rest (offset + 1) else .error ⟨.expectedSomeIdent, offset + 1⟩

mutual

/-- One value after optional whitespace. `room` is the nesting depth still allowed plus one;
`fuel` bounds the calls and is never the reason to stop when it starts at twice the length of
the text plus four. -/
def readValue : Nat → Nat → Cursor → Except ReadError (Json × Cursor)
  | 0, _, c => .error (c.fail .eofWhileParsingValue)
  | fuel + 1, room, c =>
    let c := c.skipSpace
    match c.rest with
    | [] => .error (c.failAhead .eofWhileParsingValue)
    | 'n' :: rest => Cursor.readWord ⟨rest, c.offset + 1⟩ ['u', 'l', 'l'] .null
    | 't' :: rest => Cursor.readWord ⟨rest, c.offset + 1⟩ ['r', 'u', 'e'] (.bool true)
    | 'f' :: rest => Cursor.readWord ⟨rest, c.offset + 1⟩ ['a', 'l', 's', 'e'] (.bool false)
    | '-' :: rest =>
      match Cursor.readNumber ⟨rest, c.offset + 1⟩ false with
      | .ok (n, c') => .ok (.number n, c')
      | .error e => .error e
    | '"' :: rest =>
      match Cursor.readString ⟨rest, c.offset + 1⟩ with
      | .ok (s, c') => .ok (.string s, c')
      | .error e => .error e
    | '[' :: rest =>
      if room ≤ 1 then .error (c.failAhead .recursionLimitExceeded)
      else readItems fuel (room - 1) [] true ⟨rest, c.offset + 1⟩
    | '{' :: rest =>
      if room ≤ 1 then .error (c.failAhead .recursionLimitExceeded)
      else readMembers fuel (room - 1) [] true ⟨rest, c.offset + 1⟩
    | d :: _ =>
      if d.isDigit then
        match c.readNumber true with
        | .ok (n, c') => .ok (.number n, c')
        | .error e => .error e
      else .error (c.failAhead .expectedSomeValue)

/-- The items of an array after its opening bracket, `acc` holding those read so far in
reverse; the cursor ends past the closing bracket. -/
def readItems : Nat → Nat → List Json → Bool → Cursor → Except ReadError (Json × Cursor)
  | 0, _, _, _, c => .error (c.fail .eofWhileParsingList)
  | fuel + 1, room, acc, first, c =>
    let c := c.skipSpace
    let item : Cursor → Except ReadError (Json × Cursor) := fun here =>
      match here.rest with
      | ']' :: _ => .error (here.failAhead .trailingComma)
      | [] => .error (here.failAhead .eofWhileParsingValue)
      | _ =>
        match readValue fuel room here with
        | .ok (v, c') => readItems fuel room (v :: acc) false c'
        | .error e => .error e
    match c.rest with
    | ']' :: rest => .ok (.array acc.reverse, ⟨rest, c.offset + 1⟩)
    | [] => .error (c.failAhead .eofWhileParsingList)
    | ',' :: rest => if first then item c else item (Cursor.skipSpace ⟨rest, c.offset + 1⟩)
    | _ => if first then item c else .error (c.failAhead .expectedListCommaOrEnd)

/-- The members of an object after its opening brace, `acc` holding those read so far in key
order; the cursor ends past the closing brace. -/
def readMembers : Nat → Nat → List (String × Json) → Bool → Cursor → Except ReadError (Json × Cursor)
  | 0, _, _, _, c => .error (c.fail .eofWhileParsingObject)
  | fuel + 1, room, acc, first, c =>
    let c := c.skipSpace
    let member : Cursor → Except ReadError (Json × Cursor) := fun here =>
      match here.rest with
      | '"' :: rest =>
        match Cursor.readString ⟨rest, here.offset + 1⟩ with
        | .error e => .error e
        | .ok (key, afterKey) =>
          let colon := afterKey.skipSpace
          match colon.rest with
          | ':' :: rest =>
            match readValue fuel room ⟨rest, colon.offset + 1⟩ with
            | .ok (v, c') => readMembers fuel room (insertMember key v acc) false c'
            | .error e => .error e
          | [] => .error (colon.failAhead .eofWhileParsingObject)
          | _ => .error (colon.failAhead .expectedColon)
      | '\x7d' :: _ => .error (here.failAhead .trailingComma)
      | [] => .error (here.failAhead .eofWhileParsingValue)
      | _ => .error (here.failAhead .keyMustBeAString)
    match c.rest with
    | '\x7d' :: rest => .ok (.object acc, ⟨rest, c.offset + 1⟩)
    | [] => .error (c.failAhead .eofWhileParsingObject)
    | ',' :: rest => if first then member c else member (Cursor.skipSpace ⟨rest, c.offset + 1⟩)
    | _ => if first then member c else .error (c.failAhead .expectedObjectCommaOrEnd)

end

def read (text : String) : Except ReadError Json :=
  match readValue (2 * text.length + 4) 128 (Cursor.start text) with
  | .error e => .error e
  | .ok (v, c) =>
    let c := c.skipSpace
    if c.rest.isEmpty then .ok v else .error (c.failAhead .trailingCharacters)

/-- The value of a JSON text, or the error as a user sees it. -/
def parse (text : String) : Except String Json :=
  (read text).mapError (·.describe text)

end Stencil.Json
