import Stencil.Unicode.WhiteSpace
/-! Trimming white space, by the Unicode White_Space property. -/

namespace Stencil.Text

/-- The characters without leading and trailing white space. -/
def trimChars (cs : List Char) : List Char :=
  ((cs.dropWhile Unicode.isWhiteSpace).reverse.dropWhile Unicode.isWhiteSpace).reverse

def trim (s : String) : String := String.ofList (trimChars s.toList)

def isBlank (s : String) : Bool := s.toList.all Unicode.isWhiteSpace

end Stencil.Text
