import Stencil.Json.Basic
import Stencil.Text.Trim
/-! Paths into the data: dot-separated segments, each a member name or a name followed by bracketed
keys. -/

namespace Stencil.Data

/-- One dot-separated part of a path: a member name used as written, or a name (empty for the
current value) and bracketed keys. -/
inductive Segment where
  | member (name : String)
  | indexed (name : String) (keys : List String)
deriving Repr, DecidableEq

def isBracket (c : Char) : Bool := c = '[' || c = ']'

/-- The keys of text made only of bracketed groups without inner brackets, else `none`.
`pending` holds the characters of the key being read, last first. -/
def bracketKeys (pending : Option (List Char)) : List Char → Option (List String)
  | [] => if pending.isNone then some [] else none
  | c :: rest =>
    match pending with
    | none => if c = '[' then bracketKeys (some []) rest else none
    | some key =>
      if c = ']' then (bracketKeys none rest).map (String.ofList key.reverse :: ·)
      else if c = '[' then none
      else bracketKeys (some (c :: key)) rest

def Segment.ofString (text : String) : Segment :=
  let cs := text.toList
  let name := cs.takeWhile (!isBracket ·)
  match bracketKeys none (cs.dropWhile (!isBracket ·)) with
  | some (key :: keys) => .indexed (String.ofList name) (key :: keys)
  | _ => .member text

/-- The segments of a path: its parts between dots, empty ones included. -/
def segments (path : String) : List Segment :=
  (path.toList.splitOn '.').map fun part => Segment.ofString (String.ofList part)

def parseNatural? (cs : List Char) : Option Nat :=
  let digits := match cs with
    | '+' :: rest => rest
    | _ => cs
  if digits.isEmpty ∨ !digits.all Char.isDigit then none
  else some (digits.foldl (fun n d => n * 10 + (d.toNat - 48)) 0)

/-- An array position written as text: white space around it is ignored, and it must be
below 2^64. -/
def parseIndex? (text : String) : Option Nat :=
  match parseNatural? (Text.trimChars text.toList) with
  | some n => if n < Nat.pow 2 64 then some n else none
  | none => none

/-- One step: an object's member, or an array's item at the position the key writes. -/
def step (value : Json) (key : String) : Option Json :=
  match value with
  | .object members => Json.findMember? key members
  | .array items => (parseIndex? key).bind (items[·]?)
  | _ => none

def Segment.resolve (value : Json) : Segment → Option Json
  | .member name => step value name
  | .indexed name keys =>
    let start := if name.isEmpty then some value else step value name
    keys.foldl (fun found key => found.bind (step · key)) start

/-- The value a path reaches in the data. -/
def resolvePath (path : String) (data : Json) : Option Json :=
  (segments path).foldl (fun found segment => found.bind (Segment.resolve · segment)) (some data)

/-- The member a key without dots or brackets names: the key is one step, not a path. -/
def lookupKey (key : String) (data : Json) : Option Json := step data key

end Stencil.Data
