import Stencil.Unicode.Basic

/-! The White_Space property of Unicode 17.0. -/

namespace Stencil.Unicode

/-- Code points with the White_Space property. -/
def whiteSpaceRanges : Array CodeRange := #[
  ⟨0x9, 0xD⟩, ⟨0x20, 0x20⟩, ⟨0x85, 0x85⟩, ⟨0xA0, 0xA0⟩, ⟨0x1680, 0x1680⟩, ⟨0x2000, 0x200A⟩,
  ⟨0x2028, 0x2029⟩, ⟨0x202F, 0x202F⟩, ⟨0x205F, 0x205F⟩, ⟨0x3000, 0x3000⟩]

def isWhiteSpace (c : Char) : Bool := CodeRange.contains whiteSpaceRanges c.toNat

end Stencil.Unicode
