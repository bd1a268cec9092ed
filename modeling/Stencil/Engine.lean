import Stencil.Substitution
import Stencil.Text.Quoted
import Stencil.Options
/-! An engine: its markers, a modifier registry and an alias table, and the templates it fills. -/

namespace Stencil

/-- Why an engine could not be set up. -/
inductive ConfigError where
  | emptyDelimiter (opening closing : String)
deriving Repr, DecidableEq

def ConfigError.message : ConfigError → String
  | .emptyDelimiter opening closing =>
    "delimiter markers must not be empty (got open=" ++ Text.quoted opening ++ ", close=" ++
      Text.quoted closing ++ ")"

structure Engine where
  options : Options
  opening : Marker
  closing : Marker
  registry : Registry
  aliases : AliasTable

namespace Engine

/-- The engine with the given options, or why they cannot be used. -/
def withOptions (o : Options) : Except ConfigError Engine :=
  match Marker.ofString? o.opening, Marker.ofString? o.closing with
  | some opening, some closing => .ok ⟨o, opening, closing, Registry.builtins, AliasTable.empty⟩
  | _, _ => .error (.emptyDelimiter o.opening o.closing)

def new : Engine :=
  ⟨{}, ⟨['\x7b'], by simp⟩, ⟨['\x7d'], by simp⟩, Registry.builtins, AliasTable.empty⟩

/-- The template with every placeholder filled, and what each became. -/
def render (e : Engine) (template : String) (data : Json) : Rendering :=
  fill e.opening e.closing e.registry e.aliases template data

/-- The template with every placeholder filled. -/
def parse (e : Engine) (template : String) (data : Json) : String := (e.render template data).output

def registerModifier (e : Engine) (name : String) (transform : Transform) :
    Except RegistrationError Engine :=
  (e.registry.register name transform).map fun registry => { e with registry }

def addAlias (e : Engine) (key : String) (target : AliasTarget) : Engine :=
  { e with aliases := e.aliases.add key target }

def removeAlias (e : Engine) (key : String) : Engine :=
  { e with aliases := e.aliases.remove key }

end Engine

/-- A template filled by the default engine. -/
def parse (template : String) (data : Json) : String := Engine.new.parse template data

end Stencil
