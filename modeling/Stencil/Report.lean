import Stencil.Substitution
/-! The per-placeholder report of a run, coloured with ANSI escape codes when colour is on. -/

namespace Stencil.Report

def reset : String := "\x1b[0m"
def dimCode : String := "\x1b[2m"
def boldCode : String := "\x1b[1m"
def red : String := "\x1b[31m"
def green : String := "\x1b[32m"
def yellow : String := "\x1b[33m"
def blue : String := "\x1b[34m"
def cyan : String := "\x1b[36m"
def gray : String := "\x1b[90m"

structure Palette where
  enabled : Bool

namespace Palette

/-- Text wrapped in a code and a reset, or as it is when colour is off. -/
def wrap (p : Palette) (code s : String) : String := if p.enabled then code ++ s ++ reset else s

def paint (p : Palette) (s code : String) : String := p.wrap code s
def bold (p : Palette) (s : String) : String := p.wrap boldCode s
def dim (p : Palette) (s : String) : String := p.wrap dimCode s

end Palette

/-- Elapsed times of a run, in nanoseconds. -/
structure Timings where
  total : Nat
  extract : Nat
  substitute : Nat
deriving Repr, DecidableEq

/-- A whole part, and a fractional part of `width` digits written without trailing zeros. -/
def decimalWithFraction (whole fraction width : Nat) (unit : String) : String :=
  let digits := (Nat.toDigits 10 fraction)
  let padded := List.replicate (width - digits.length) '0' ++ digits
  let trimmed := (padded.reverse.dropWhile (· = '0')).reverse
  toString whole ++ (if trimmed.isEmpty then "" else "." ++ String.ofList trimmed) ++ unit

/-- A duration in the largest unit among seconds, milliseconds, microseconds and nanoseconds
that keeps its whole part non-zero. -/
def durationText (nanos : Nat) : String :=
  if nanos ≥ 1000000000 then decimalWithFraction (nanos / 1000000000) (nanos % 1000000000) 9 "s"
  else if nanos ≥ 1000000 then decimalWithFraction (nanos / 1000000) (nanos % 1000000) 6 "ms"
  else if nanos ≥ 1000 then decimalWithFraction (nanos / 1000) (nanos % 1000) 3 "µs"
  else toString nanos ++ "ns"

def substitutionLines (p : Palette) (index : Nat) (s : Substitution) : String :=
  let replacement :=
    if s.replacement.isEmpty then p.dim "(removed)"
    else p.bold (p.paint ("\"" ++ s.replacement ++ "\"") green)
  let first := "  " ++ p.paint ("[" ++ toString index ++ "]") gray ++ " " ++ p.paint s.span cyan ++
    " " ++ p.dim "→" ++ " " ++ replacement ++ " " ++
    p.paint ("span " ++ toString s.start ++ ".." ++ toString s.stop) yellow ++ "\n"
  let second := "      " ++ p.dim "key:" ++ " " ++ p.paint ("\"" ++ s.key ++ "\"") blue ++ "  " ++
    p.dim "│ source:" ++ " " ++ p.paint s.source.label cyan ++ "\n"
  let unknown :=
    if s.unknownModifiers.isEmpty then ""
    else "      " ++ p.paint "unknown modifiers:" yellow ++ " " ++ ", ".intercalate s.unknownModifiers ++ "\n"
  let failed :=
    if s.modifierFailed then "      " ++ p.paint "modifier failed; untransformed value used" red ++ "\n"
    else ""
  first ++ second ++ unknown ++ failed

/-- The report of a run of `template`. -/
def render (color : Bool) (template : String) (r : Rendering) (t : Timings) : String :=
  let p : Palette := ⟨color⟩
  let header := "\n" ++ p.bold (p.paint ("⚙  Template: \"" ++ template ++ "\"") cyan) ++ "\n"
  let placeholders :=
    "\n" ++ p.paint "━━━ Placeholders ━━━" gray ++ "\n" ++
      if r.substitutions.isEmpty then
        p.dim "  No placeholders found" ++ "\n" ++ "\n" ++ p.paint "Possible reasons:" yellow ++ "\n" ++
          "  • The template uses different delimiters (see --open/--close)\n" ++
          "  • A placeholder is empty or never closed\n"
      else
        String.join ((List.range r.substitutions.length).zip r.substitutions |>.map
          fun (i, s) => substitutionLines p i s)
  let output := "\n" ++ p.paint "━━━ Output ━━━" gray ++ "\n" ++
    "  " ++ p.bold (p.paint r.output green) ++ "\n"
  let timing := "\n" ++ p.paint "━━━ Timing ━━━" gray ++ "\n" ++
    "  Total: " ++ p.paint (durationText t.total) green ++ "  │  Extract: " ++
    p.paint (durationText t.extract) cyan ++ "  │  Substitute: " ++ p.dim (durationText t.substitute) ++
    "\n" ++ "\n"
  header ++ placeholders ++ output ++ timing

end Stencil.Report
