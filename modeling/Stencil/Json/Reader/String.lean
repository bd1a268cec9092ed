import Stencil.Json.Reader.Cursor
import Stencil.Text.Utf8
/-! Reading the inside of a JSON string, escapes and surrogate pairs included. -/

namespace Stencil.Json

def hexValue? (c : Char) : Option Nat :=
  if '0' ≤ c ∧ c ≤ '9' then some (c.toNat - 48)
  else if 'a' ≤ c ∧ c ≤ 'f' then some (c.toNat - 87)
  else if 'A' ≤ c ∧ c ≤ 'F' then some (c.toNat - 55)
  else none

def hexQuad? (a b c d : Char) : Option Nat := do
  let a ← hexValue? a
  let b ← hexValue? b
  let c ← hexValue? c
  let d ← hexValue? d
  pure (((a * 16 + b) * 16 + c) * 16 + d)

/-- The four bytes after a `\u` at `offset` (the offset just past the `u`): their value and
what follows, or the error when they are not four hex digits or the text ends first. -/
def hexEscape (rest : List Char) (offset : Nat) : Except ReadError (Nat × List Char) :=
  match rest with
  | a :: b :: c :: d :: after =>
    match hexQuad? a b c d with
    | some n => .ok (n, after)
    | none => .error ⟨.invalidEscape, offset + 4⟩
  | short =>
    if Text.utf8Length short ≥ 4 then .error ⟨.invalidEscape, offset + 4⟩
    else .error ⟨.eofWhileParsingString, offset + Text.utf8Length short⟩

def isLeadingSurrogate (n : Nat) : Bool := 0xD800 ≤ n && n ≤ 0xDBFF

def isTrailingSurrogate (n : Nat) : Bool := 0xDC00 ≤ n && n ≤ 0xDFFF

/-- The characters of a string up to its closing quote, appended to `acc`, and the cursor past
the quote. `offset` is the byte offset of the first character of `rest`. -/
def readStringBody (acc : String) (rest : List Char) (offset : Nat) :
    Except ReadError (String × Cursor) :=
  match rest with
  | [] => .error ⟨.eofWhileParsingString, offset⟩
  | '"' :: after => .ok (acc, ⟨after, offset + 1⟩)
  | '\\' :: escape =>
    match escape with
    | [] => .error ⟨.eofWhileParsingString, offset + 1⟩
    | '"' :: after => readStringBody (acc.push '"') after (offset + 2)
    | '\\' :: after => readStringBody (acc.push '\\') after (offset + 2)
    | '/' :: after => readStringBody (acc.push '/') after (offset + 2)
    | 'b' :: after => readStringBody (acc.push '\x08') after (offset + 2)
    | 'f' :: after => readStringBody (acc.push '\x0c') after (offset + 2)
    | 'n' :: after => readStringBody (acc.push '\n') after (offset + 2)
    | 'r' :: after => readStringBody (acc.push '\r') after (offset + 2)
    | 't' :: after => readStringBody (acc.push '\t') after (offset + 2)
    | 'u' :: a :: b :: c :: d :: after =>
      match hexQuad? a b c d with
      | none => .error ⟨.invalidEscape, offset + 6⟩
      | some n =>
        if isTrailingSurrogate n then .error ⟨.loneLeadingSurrogateInHexEscape, offset + 6⟩
        else if !isLeadingSurrogate n then readStringBody (acc.push (Char.ofNat n)) after (offset + 6)
        else
          match after with
          | [] => .error ⟨.eofWhileParsingString, offset + 6⟩
          | '\\' :: 'u' :: e :: f :: g :: h :: tail =>
            match hexQuad? e f g h with
            | none => .error ⟨.invalidEscape, offset + 12⟩
            | some m =>
              if isTrailingSurrogate m then
                readStringBody (acc.push (Char.ofNat (0x10000 + (n - 0xD800) * 0x400 + (m - 0xDC00))))
                  tail (offset + 12)
              else .error ⟨.loneLeadingSurrogateInHexEscape, offset + 12⟩
          | '\\' :: 'u' :: short =>
            match hexEscape short (offset + 8) with
            | .error e => .error e
            | .ok _ => .error ⟨.eofWhileParsingString, offset + 8⟩
          | '\\' :: [] => .error ⟨.eofWhileParsingString, offset + 7⟩
          | '\\' :: _ :: _ => .error ⟨.unexpectedEndOfHexEscape, offset + 8⟩
          | _ :: _ => .error ⟨.unexpectedEndOfHexEscape, offset + 7⟩
    | 'u' :: short =>
      match hexEscape short (offset + 2) with
      | .error e => .error e
      | .ok _ => .error ⟨.eofWhileParsingString, offset + 2⟩
    | _ :: _ => .error ⟨.invalidEscape, offset + 2⟩
  | c :: after =>
    if c.toNat < 0x20 then .error ⟨.controlCharacterWhileParsingString, offset + 1⟩
    else readStringBody (acc.push c) after (offset + c.utf8Size)

def Cursor.readString (c : Cursor) : Except ReadError (String × Cursor) :=
  readStringBody "" c.rest c.offset

end Stencil.Json
