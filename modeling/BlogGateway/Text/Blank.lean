/-
White space and control characters.

White space here is the Unicode property of that name, twenty-five characters, and not
only the four that ASCII text uses.
-/
import BlogGateway.Text.Ranges

namespace BlogGateway.Text

/-- The characters with the Unicode property White_Space. -/
def blankRanges : Array (Nat × Nat) := #[
   (0x09, 0x0D), (0x20, 0x20), (0x85, 0x85), (0xA0, 0xA0), (0x1680, 0x1680), (0x2000, 0x200A),
   (0x2028, 0x2029), (0x202F, 0x202F), (0x205F, 0x205F), (0x3000, 0x3000)]

/-- Whether a character is white space. -/
def isBlank (c : Char) : Bool := inRanges blankRanges c

/-- Whether a character is one of the sixty-five control characters. -/
def isControl (c : Char) : Bool := c.toNat < 0x20 || (0x7F ≤ c.toNat && c.toNat ≤ 0x9F)

end BlogGateway.Text
