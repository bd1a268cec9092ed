import Stencil.Template.Scan
import Stencil.Text.Trim
/-! The parts of a placeholder: its key, its alternative and its modifier chain. -/

namespace Stencil.Template

/-- A placeholder found in a template, split into its parts, with the byte range of its text, end
excluded. -/
structure Placeholder where
  span : String
  start : Nat
  stop : Nat
  key : String
  alternative : String
  modifiers : List String
deriving Repr, DecidableEq

/-- The text with both markers erased, the opening one first. -/
def strip (opening closing : Marker) (cs : List Char) : List Char :=
  closing.erase (opening.erase cs)

/-- The key: the inner text up to the first `:` or `|`. -/
def keyPart (inner : List Char) : List Char := inner.takeWhile fun c => c != ':' && c != '|'

/-- The alternative: after the first `:`, up to the next `|`. -/
def alternativePart (inner : List Char) : List Char :=
  match inner.dropWhile (· != ':') with
  | _ :: rest => rest.takeWhile (· != '|')
  | [] => []

/-- The modifier chain: everything after the first `|`, if there is one. -/
def chainPart (inner : List Char) : Option (List Char) :=
  match inner.dropWhile (· != '|') with
  | _ :: rest => some rest
  | [] => none

/-- The names of a modifier chain: split at commas, trimmed, empty ones dropped. -/
def chainNames (chain : String) : List String :=
  ((chain.toList.splitOn ',').map fun part => Text.trim (String.ofList part)).filter (!·.isEmpty)

def Placeholder.ofSpan (opening closing : Marker) (s : Span) (start stop : Nat) : Placeholder :=
  let clean := strip opening closing
  { span := String.ofList s.chars
    start, stop
    key := String.ofList (clean (keyPart s.inner))
    alternative := String.ofList (clean (alternativePart s.inner))
    modifiers := match chainPart s.inner with
      | some chain => chainNames (String.ofList (clean chain))
      | none => [] }

/-- Whether the key is a path (it has a dot or a bracket) rather than one member name. -/
def Placeholder.isPath (p : Placeholder) : Bool := p.key.contains '.' || p.key.contains '['

def placeholders (opening closing : Marker) (template : String) : List Placeholder :=
  (scan opening closing template.toList).ranges.map fun (s, start, stop) =>
    Placeholder.ofSpan opening closing s start stop

end Stencil.Template
