/-
Classes of characters as ranges of code points.

A property of characters that no short rule gives is a table of closed ranges, and one
look-up serves every table.
-/
namespace BlogGateway.Text

/-- Whether the code point of a character lies in one of the closed ranges. -/
def inRanges (ranges : Array (Nat × Nat)) (c : Char) : Bool :=
  ranges.any fun range => range.1 ≤ c.toNat && c.toNat ≤ range.2

end BlogGateway.Text
