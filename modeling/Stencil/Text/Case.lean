import Stencil.Unicode.CaseMapping
import Stencil.Unicode.CaseContext
import Stencil.Text.Trim
/-! Case conversion of whole strings, final sigma included. -/

namespace Stencil.Text

/-- Whether, after skipping case-ignorable characters, the next one is cased. -/
def casedAfterIgnorable (cs : List Char) : Bool :=
  match cs.dropWhile Unicode.isCaseIgnorable with
  | c :: _ => Unicode.isCased c
  | [] => false

/-- The lowercase form of a capital sigma between `before` (nearest first) and `after`. -/
def lowerSigma (before after : List Char) : Char :=
  if casedAfterIgnorable before && !casedAfterIgnorable after then 'ς' else 'σ'

/-- Lowercase characters, `before` holding what precedes them, nearest first. -/
def lowerChars (before : List Char) : List Char → List Char
  | [] => []
  | c :: after =>
    (if c = 'Σ' then [lowerSigma before after] else Unicode.toLowerChars c) ++
      lowerChars (c :: before) after

def toUpper (s : String) : String := String.ofList (s.toList.flatMap Unicode.toUpperChars)

/-- The string in lower case, final sigma included. -/
def toLower (s : String) : String := String.ofList (lowerChars [] s.toList)

/-- Title case of characters: `start` tells whether the next one begins a word. -/
def titleChars (start : Bool) : List Char → List Char
  | [] => []
  | c :: rest =>
    if Unicode.isWhiteSpace c then c :: titleChars true rest
    else if start then Unicode.toUpperChars c ++ titleChars false rest
    else Unicode.toLowerChars c ++ titleChars false rest

/-- The string in title case. -/
def toTitle (s : String) : String := String.ofList (titleChars true s.toList)

end Stencil.Text
