import Stencil.Unicode.Printable
/-! Quoted text for messages, escaped as the debug form of strings and characters. -/

namespace Stencil.Text

/-- The characters standing for one character inside quotes; `quote` is the quote in use. -/
def escapeForQuote (quote : Char) (c : Char) : List Char :=
  if c = '\x00' then ['\\', '0']
  else if c = '\t' then ['\\', 't']
  else if c = '\r' then ['\\', 'r']
  else if c = '\n' then ['\\', 'n']
  else if c = '\\' then ['\\', '\\']
  else if c = quote then ['\\', c]
  else if Unicode.isGraphemeExtend c ∨ !Unicode.isPrintable c then
    ['\\', 'u', '\x7b'] ++ Nat.toDigits 16 c.toNat ++ ['\x7d']
  else [c]

def quoted (s : String) : String :=
  String.ofList ('"' :: s.toList.flatMap (escapeForQuote '"') ++ ['"'])

def quotedChar (c : Char) : String := String.ofList ('\'' :: escapeForQuote '\'' c ++ ['\''])

end Stencil.Text
