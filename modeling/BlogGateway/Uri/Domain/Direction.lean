/-
The direction of domains.

Some scripts are written from right to left.  A domain that has such a label may only have
labels that read the same wherever they stand: each begins with a letter, keeps to the
direction of that letter, and ends in a letter or a number.  The ranges are those of
Unicode 15.
-/
import BlogGateway.Uri.Domain.Marks

namespace BlogGateway.Uri

/-- The part that a character plays in the direction of a text. -/
inductive Direction
  /-- A letter of a script that is written from left to right. -/
  | left
  /-- A letter of a script that is written from right to left. -/
  | right
  /-- A digit. -/
  | digit
  /-- A digit of the Arabic script. -/
  | arabicDigit
  /-- A mark, which goes with the character before it. -/
  | mark
  /-- A sign that takes the direction of its surroundings. -/
  | neutral
  deriving DecidableEq, Repr

/-- Closed ranges of the letters that are written from right to left. -/
def rightRanges : Array (Nat × Nat) := #[
   (0x5BE, 0x5BE), (0x5C0, 0x5C0), (0x5C3, 0x5C3), (0x5C6, 0x5C6), (0x5D0, 0x5F4), (0x608, 0x608),
   (0x60B, 0x60B), (0x60D, 0x60D), (0x61B, 0x64A), (0x66D, 0x66F), (0x671, 0x6D5), (0x6E5, 0x6E6),
   (0x6EE, 0x6EF), (0x6FA, 0x710), (0x712, 0x72F), (0x74D, 0x7A5), (0x7B1, 0x7EA), (0x7F4, 0x7F5),
   (0x7FA, 0x7FA), (0x7FE, 0x815), (0x81A, 0x81A), (0x824, 0x824), (0x828, 0x828), (0x830, 0x858),
   (0x85E, 0x88E), (0x8A0, 0x8C9), (0xFB1D, 0xFB1D), (0xFB1F, 0xFB28), (0xFB2A, 0xFD3D),
   (0xFD50, 0xFDC7), (0xFDF0, 0xFDFC), (0xFE70, 0xFEFC), (0x10800, 0x1091B), (0x10920, 0x10A00),
   (0x10A10, 0x10A35), (0x10A40, 0x10AE4), (0x10AEB, 0x10B35), (0x10B40, 0x10D23),
   (0x10E80, 0x10EA9), (0x10EAD, 0x10EB1), (0x10F00, 0x10F45), (0x10F51, 0x10F81),
   (0x10F86, 0x10FF6), (0x1E800, 0x1E8CF), (0x1E900, 0x1E943), (0x1E94B, 0x1EEBB)]

/-- Closed ranges of the digits. -/
def digitRanges : Array (Nat × Nat) := #[
   (0x30, 0x39), (0xB2, 0xB3), (0xB9, 0xB9), (0x6F0, 0x6F9), (0x2070, 0x2070), (0x2074, 0x2079),
   (0x2080, 0x2089), (0xFF10, 0xFF19), (0x102E1, 0x102FB), (0x1D7CE, 0x1D7FF), (0x1F101, 0x1F10A),
   (0x1FBF0, 0x1FBF9)]

/-- Closed ranges of the digits of the Arabic script. -/
def arabicDigitRanges : Array (Nat × Nat) := #[
   (0x660, 0x669), (0x66B, 0x66C), (0x10D30, 0x10E7E)]

/-- Closed ranges of the signs without a direction. -/
def neutralRanges : Array (Nat × Nat) := #[
   (0x0, 0x8), (0xE, 0x1B), (0x21, 0x2F), (0x3A, 0x40), (0x5B, 0x60), (0x7B, 0xA9), (0xAB, 0xB1),
   (0xB4, 0xB4), (0xB6, 0xB8), (0xBB, 0xBF), (0xD7, 0xD7), (0xF7, 0xF7), (0x2B9, 0x2BA),
   (0x2C2, 0x2CF), (0x2D2, 0x2DF), (0x2E5, 0x2ED), (0x2EF, 0x2FF), (0x374, 0x375), (0x37E, 0x37E),
   (0x384, 0x385), (0x387, 0x387), (0x3F6, 0x3F6), (0x58A, 0x58F), (0x606, 0x607), (0x609, 0x60A),
   (0x60C, 0x60C), (0x60E, 0x60F), (0x66A, 0x66A), (0x6DE, 0x6DE), (0x6E9, 0x6E9), (0x7F6, 0x7F9),
   (0x9F2, 0x9F3), (0x9FB, 0x9FB), (0xAF1, 0xAF1), (0xBF3, 0xBFA), (0xC78, 0xC7E), (0xE3F, 0xE3F),
   (0xF3A, 0xF3D), (0x1390, 0x1399), (0x1400, 0x1400), (0x169B, 0x169C), (0x17DB, 0x17DB),
   (0x17F0, 0x180A), (0x1940, 0x1945), (0x19DE, 0x19FF), (0x1FBD, 0x1FBD), (0x1FBF, 0x1FC1),
   (0x1FCD, 0x1FCF), (0x1FDD, 0x1FDF), (0x1FED, 0x1FEF), (0x1FFD, 0x1FFE), (0x200C, 0x205E),
   (0x207A, 0x207E), (0x208A, 0x208E), (0x20A0, 0x20C0), (0x2100, 0x2101), (0x2103, 0x2106),
   (0x2108, 0x2109), (0x2114, 0x2114), (0x2116, 0x2118), (0x211E, 0x2123), (0x2125, 0x2125),
   (0x2127, 0x2127), (0x2129, 0x2129), (0x212E, 0x212E), (0x213A, 0x213B), (0x2140, 0x2144),
   (0x214A, 0x214D), (0x2150, 0x215F), (0x2189, 0x2335), (0x237B, 0x2394), (0x2396, 0x2487),
   (0x24EA, 0x26AB), (0x26AD, 0x27FF), (0x2900, 0x2BFF), (0x2CE5, 0x2CEA), (0x2CF9, 0x2CFF),
   (0x2E00, 0x2FD5), (0x3001, 0x3004), (0x3008, 0x3020), (0x3030, 0x3030), (0x3036, 0x3037),
   (0x303D, 0x303F), (0x309B, 0x309C), (0x30A0, 0x30A0), (0x30FB, 0x30FB), (0x31C0, 0x31E3),
   (0x321D, 0x321E), (0x3250, 0x325F), (0x327C, 0x327E), (0x32B1, 0x32BF), (0x32CC, 0x32CF),
   (0x3377, 0x337A), (0x33DE, 0x33DF), (0x33FF, 0x33FF), (0x4DC0, 0x4DFF), (0xA490, 0xA4C6),
   (0xA60D, 0xA60F), (0xA673, 0xA673), (0xA67E, 0xA67F), (0xA700, 0xA721), (0xA788, 0xA788),
   (0xA828, 0xA82B), (0xA838, 0xA839), (0xA874, 0xA877), (0xAB6A, 0xAB6B), (0xFB29, 0xFB29),
   (0xFD3E, 0xFD4F), (0xFDCF, 0xFDCF), (0xFDFD, 0xFE18), (0xFE31, 0xFE6B), (0xFF01, 0xFF0F),
   (0xFF1A, 0xFF20), (0xFF3B, 0xFF40), (0xFF5B, 0xFF65), (0xFFE0, 0xFFEE), (0x10101, 0x10101),
   (0x10140, 0x1018C), (0x10190, 0x101A0), (0x1091F, 0x1091F), (0x10B39, 0x10B3F),
   (0x11052, 0x11065), (0x11660, 0x1166C), (0x11FD5, 0x11FF1), (0x16FE2, 0x16FE2),
   (0x1D1E9, 0x1D241), (0x1D245, 0x1D245), (0x1D300, 0x1D356), (0x1D6DB, 0x1D6DB),
   (0x1D715, 0x1D715), (0x1D74F, 0x1D74F), (0x1D789, 0x1D789), (0x1D7C3, 0x1D7C3),
   (0x1E2FF, 0x1E2FF), (0x1EEF0, 0x1F0F5), (0x1F10B, 0x1F10F), (0x1F12F, 0x1F12F),
   (0x1F16A, 0x1F16F), (0x1F1AD, 0x1F1AD), (0x1F260, 0x1FBCA)]

/-- The part that a character plays. -/
def Direction.of (c : Char) : Direction :=
  if Text.inRanges rightRanges c then .right
  else if Text.inRanges digitRanges c then .digit
  else if Text.inRanges arabicDigitRanges c then .arabicDigit
  else if isNonspacing c then .mark
  else if Text.inRanges neutralRanges c then .neutral
  else .left

/-- Whether a label makes its domain one that is written from right to left. -/
def turnsRight (label : List Char) : Bool :=
  label.any fun c => Direction.of c = .right || Direction.of c = .arabicDigit

/-- Whether parts that begin with a letter from left to right keep to that direction. -/
def keepsLeft (parts : List Direction) : Bool :=
  let last := (parts.reverse.dropWhile (· = .mark)).head?
  parts.all (fun part => part ≠ .right && part ≠ .arabicDigit)
    && (last = some .left || last = some .digit)

/-- Whether parts that begin with a letter from right to left keep to that direction. -/
def keepsRight (parts : List Direction) : Bool :=
  let last := (parts.reverse.dropWhile (· = .mark)).head?
  parts.all (· ≠ .left)
    && (last = some .right || last = some .digit || last = some .arabicDigit)
    && !(parts.contains .digit && parts.contains .arabicDigit)

/-- Whether a label may stand in a domain that is written from right to left. -/
def keepsDirection (label : List Char) : Bool :=
  let parts := label.map Direction.of
  match parts.head? with
  | none => true
  | some .left => keepsLeft parts
  | some .right => keepsRight parts
  | some _ => false

end BlogGateway.Uri
