import Stencil.Template.Placeholder
import Stencil.Modifier
import Stencil.Alias
import Stencil.Data.Render
/-! Filling placeholders: where each value comes from, its modifier chain, and the replacement of
first occurrences. -/

namespace Stencil

/-- Where a placeholder's replacement came from. -/
inductive Source where
  | alias
  | data
  | alternative
  | key
  | removed
deriving Repr, DecidableEq

def Source.label : Source → String
  | .alias => "alias"
  | .data => "data"
  | .alternative => "alternative"
  | .key => "key"
  | .removed => "removed"

/-- What one placeholder turned into, and why; `unknownModifiers` are the chain's names that no
registered modifier answers to, and `modifierFailed` says the chain gave back its input. -/
structure Substitution where
  span : String
  start : Nat
  stop : Nat
  key : String
  source : Source
  replacement : String
  unknownModifiers : List String
  modifierFailed : Bool
deriving Repr, DecidableEq

structure Piped where
  text : String
  failed : Bool
deriving Repr, DecidableEq

/-- A modifier name of a placeholder's chain, with the registered modifier it finds, if any. -/
structure ModifierSlot where
  name : String
  modifier : Option Modifier

def Registry.slots (registry : Registry) (names : List String) : List ModifierSlot :=
  names.map fun name => ⟨name, registry.lookup name⟩

/-- Runs the known modifiers of the slots left to right from `input`, passing over unknown ones.
`current` is the text so far, `none` until a known modifier has run; on the first failure,
`input` itself comes back, marked as failed. -/
def applyModifiers (data : Json) (input : String) : Option String → List ModifierSlot → Piped
  | current, [] => ⟨current.getD input, false⟩
  | current, slot :: slots =>
    match slot.modifier with
    | none => applyModifiers data input current slots
    | some m =>
      match m.transform (current.getD input) data with
      | .ok next => applyModifiers data input (some next) slots
      | .error _ => ⟨input, true⟩

/-- A placeholder's modifier chain run on `input`; a placeholder that names no modifier keeps
its input as it is. -/
def pipe (slots : List ModifierSlot) (input : String) (data : Json) : Piped :=
  if slots.isEmpty then ⟨input, false⟩ else applyModifiers data input none slots

def findValue (aliases : AliasTable) (p : Template.Placeholder) (data : Json) : Option (Json × Source) :=
  match ((aliases.get? p.key).bind (·.resolve data)).filter Data.isTruthy with
  | some v => some (v, .alias)
  | none =>
    let found := if p.isPath then Data.resolvePath p.key data else Data.lookupKey p.key data
    (found.filter Data.isTruthy).map (·, .data)

/-- The replacement of one placeholder and how it was chosen. -/
def substitute (registry : Registry) (aliases : AliasTable) (data : Json)
    (p : Template.Placeholder) : Substitution :=
  let slots := registry.slots p.modifiers
  let chain := fun input => pipe slots input data
  let (piped, source) : Piped × Source :=
    match findValue aliases p data with
    | some (v, source) => (chain (Data.render v), source)
    | none =>
      if !p.alternative.isEmpty then (chain p.alternative, .alternative)
      else
        let fromKey := chain p.key
        if fromKey.text = p.key then (⟨"", fromKey.failed⟩, .removed) else (fromKey, .key)
  { span := p.span, start := p.start, stop := p.stop, key := p.key, source
    replacement := piped.text
    unknownModifiers := (slots.filter (·.modifier.isNone)).map (·.name)
    modifierFailed := piped.failed }

/-- `text` with the first occurrence of `pattern` replaced; unchanged if there is none. -/
def replaceFirst (pattern replacement : List Char) : List Char → List Char
  | [] => if pattern.isPrefixOf [] then replacement else []
  | c :: rest =>
    if pattern.isPrefixOf (c :: rest) then replacement ++ (c :: rest).drop pattern.length
    else c :: replaceFirst pattern replacement rest

structure Rendering where
  output : String
  substitutions : List Substitution
deriving Repr, DecidableEq

def fillFound (registry : Registry) (aliases : AliasTable) (template : String)
    (found : List Template.Placeholder) (data : Json) : Rendering :=
  let substitutions := found.map (substitute registry aliases data)
  let output := substitutions.foldl
    (fun working s => replaceFirst s.span.toList s.replacement.toList working) template.toList
  ⟨String.ofList output, substitutions⟩

/-- Fills every placeholder of a template, in order. -/
def fill (opening closing : Marker) (registry : Registry) (aliases : AliasTable)
    (template : String) (data : Json) : Rendering :=
  fillFound registry aliases template (Template.placeholders opening closing template) data

end Stencil
