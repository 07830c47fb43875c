import FieldLayout.Pattern.CharRanges

/-!
# Variants of letters in case

Two characters are variants of each other if simple case folding makes them equal. Most letters have
one variant, at a fixed distance in a whole run of letters; in some alphabets capital and small
letters alternate, so that every other code point starts a pair.

## Main definitions

* `Unicode.CaseRun`: a run of pairs.
* `Unicode.caseClasses`: the classes of characters that are variants of each other.
* `CharRanges.withCaseVariants`: a set with all variants of its members.
* `CharRanges.withAsciiVariants`: a set with the variants of its members in the ASCII range.
-/

namespace FieldLayout

namespace Unicode

/-- A run of pairs of letters. -/
structure CaseRun where
  /-- The capital letter of the first pair. -/
  upper : Nat
  /-- The small letter of the first pair. -/
  lower : Nat
  /-- The distance of the first letters of consecutive pairs. -/
  step : Nat
  /-- The number of pairs. -/
  count : Nat
  deriving Repr, Inhabited

/-- The pairs of a run. -/
def CaseRun.pairs (r : CaseRun) : List (List Nat) :=
  (List.range r.count).map fun i => [r.upper + i * r.step, r.lower + i * r.step]

/-- The runs of pairs. -/
def caseRuns : List CaseRun := [
  ⟨0x41, 0x61, 1, 26⟩, ⟨0xC0, 0xE0, 1, 23⟩, ⟨0xD8, 0xF8, 1, 7⟩, ⟨0x100, 0x101, 2, 24⟩,
  ⟨0x132, 0x133, 2, 3⟩, ⟨0x139, 0x13A, 2, 8⟩, ⟨0x14A, 0x14B, 2, 23⟩, ⟨0x179, 0x17A, 2, 3⟩,
  ⟨0x182, 0x183, 2, 2⟩, ⟨0x189, 0x256, 1, 2⟩, ⟨0x1A0, 0x1A1, 2, 3⟩, ⟨0x1B1, 0x28A, 1, 2⟩,
  ⟨0x1B3, 0x1B4, 2, 2⟩, ⟨0x1CD, 0x1CE, 2, 8⟩, ⟨0x1DE, 0x1DF, 2, 9⟩, ⟨0x1F8, 0x1F9, 2, 20⟩,
  ⟨0x222, 0x223, 2, 9⟩, ⟨0x23F, 0x2C7E, 1, 2⟩, ⟨0x246, 0x247, 2, 5⟩, ⟨0x370, 0x371, 2, 2⟩,
  ⟨0x37B, 0x3FD, 1, 3⟩, ⟨0x388, 0x3AD, 1, 3⟩, ⟨0x38E, 0x3CD, 1, 2⟩, ⟨0x391, 0x3B1, 1, 15⟩,
  ⟨0x3A4, 0x3C4, 1, 8⟩, ⟨0x3D8, 0x3D9, 2, 12⟩, ⟨0x400, 0x450, 1, 16⟩, ⟨0x410, 0x430, 1, 32⟩,
  ⟨0x460, 0x461, 2, 17⟩, ⟨0x48A, 0x48B, 2, 27⟩, ⟨0x4C1, 0x4C2, 2, 7⟩, ⟨0x4D0, 0x4D1, 2, 48⟩,
  ⟨0x531, 0x561, 1, 38⟩, ⟨0x10A0, 0x2D00, 1, 38⟩, ⟨0x10D0, 0x1C90, 1, 43⟩, ⟨0x10FD, 0x1CBD, 1, 3⟩,
  ⟨0x13A0, 0xAB70, 1, 80⟩, ⟨0x13F0, 0x13F8, 1, 6⟩, ⟨0x1E00, 0x1E01, 2, 75⟩, ⟨0x1EA0, 0x1EA1, 2, 48⟩,
  ⟨0x1F00, 0x1F08, 1, 8⟩, ⟨0x1F10, 0x1F18, 1, 6⟩, ⟨0x1F20, 0x1F28, 1, 8⟩, ⟨0x1F30, 0x1F38, 1, 8⟩,
  ⟨0x1F40, 0x1F48, 1, 6⟩, ⟨0x1F51, 0x1F59, 2, 4⟩, ⟨0x1F60, 0x1F68, 1, 8⟩, ⟨0x1F70, 0x1FBA, 1, 2⟩,
  ⟨0x1F72, 0x1FC8, 1, 4⟩, ⟨0x1F76, 0x1FDA, 1, 2⟩, ⟨0x1F78, 0x1FF8, 1, 2⟩, ⟨0x1F7A, 0x1FEA, 1, 2⟩,
  ⟨0x1F7C, 0x1FFA, 1, 2⟩, ⟨0x1F80, 0x1F88, 1, 8⟩, ⟨0x1F90, 0x1F98, 1, 8⟩, ⟨0x1FA0, 0x1FA8, 1, 8⟩,
  ⟨0x1FB0, 0x1FB8, 1, 2⟩, ⟨0x1FD0, 0x1FD8, 1, 2⟩, ⟨0x1FE0, 0x1FE8, 1, 2⟩, ⟨0x2160, 0x2170, 1, 16⟩,
  ⟨0x24B6, 0x24D0, 1, 26⟩, ⟨0x2C00, 0x2C30, 1, 48⟩, ⟨0x2C67, 0x2C68, 2, 3⟩, ⟨0x2C80, 0x2C81, 2, 50⟩,
  ⟨0x2CEB, 0x2CEC, 2, 2⟩, ⟨0xA640, 0xA641, 2, 23⟩, ⟨0xA680, 0xA681, 2, 14⟩, ⟨0xA722, 0xA723, 2, 7⟩,
  ⟨0xA732, 0xA733, 2, 31⟩, ⟨0xA779, 0xA77A, 2, 2⟩, ⟨0xA77E, 0xA77F, 2, 5⟩, ⟨0xA790, 0xA791, 2, 2⟩,
  ⟨0xA796, 0xA797, 2, 10⟩, ⟨0xA7B4, 0xA7B5, 2, 8⟩, ⟨0xA7C7, 0xA7C8, 2, 2⟩, ⟨0xA7D6, 0xA7D7, 2, 3⟩,
  ⟨0xFF21, 0xFF41, 1, 26⟩, ⟨0x10400, 0x10428, 1, 40⟩, ⟨0x104B0, 0x104D8, 1, 36⟩,
  ⟨0x10570, 0x10597, 1, 11⟩, ⟨0x1057C, 0x105A3, 1, 15⟩, ⟨0x1058C, 0x105B3, 1, 7⟩,
  ⟨0x10594, 0x105BB, 1, 2⟩, ⟨0x10C80, 0x10CC0, 1, 51⟩, ⟨0x10D50, 0x10D70, 1, 22⟩,
  ⟨0x118A0, 0x118C0, 1, 32⟩, ⟨0x16E40, 0x16E60, 1, 32⟩, ⟨0x1E900, 0x1E922, 1, 34⟩]

/-- The classes that belong to no run, among them those with more than two members. -/
def loneClasses : List (List Nat) := [
  [0x4B, 0x6B, 0x212A], [0x53, 0x73, 0x17F], [0xB5, 0x39C, 0x3BC], [0xC5, 0xE5, 0x212B],
  [0xDF, 0x1E9E], [0xFF, 0x178], [0x180, 0x243], [0x181, 0x253], [0x186, 0x254], [0x187, 0x188],
  [0x18B, 0x18C], [0x18E, 0x1DD], [0x18F, 0x259], [0x190, 0x25B], [0x191, 0x192], [0x193, 0x260],
  [0x194, 0x263], [0x195, 0x1F6], [0x196, 0x269], [0x197, 0x268], [0x198, 0x199], [0x19A, 0x23D],
  [0x19B, 0xA7DC], [0x19C, 0x26F], [0x19D, 0x272], [0x19E, 0x220], [0x19F, 0x275], [0x1A6, 0x280],
  [0x1A7, 0x1A8], [0x1A9, 0x283], [0x1AC, 0x1AD], [0x1AE, 0x288], [0x1AF, 0x1B0], [0x1B7, 0x292],
  [0x1B8, 0x1B9], [0x1BC, 0x1BD], [0x1BF, 0x1F7], [0x1C4, 0x1C5, 0x1C6], [0x1C7, 0x1C8, 0x1C9],
  [0x1CA, 0x1CB, 0x1CC], [0x1F1, 0x1F2, 0x1F3], [0x1F4, 0x1F5], [0x23A, 0x2C65], [0x23B, 0x23C],
  [0x23E, 0x2C66], [0x241, 0x242], [0x244, 0x289], [0x245, 0x28C], [0x250, 0x2C6F], [0x251, 0x2C6D],
  [0x252, 0x2C70], [0x25C, 0xA7AB], [0x261, 0xA7AC], [0x264, 0xA7CB], [0x265, 0xA78D],
  [0x266, 0xA7AA], [0x26A, 0xA7AE], [0x26B, 0x2C62], [0x26C, 0xA7AD], [0x271, 0x2C6E],
  [0x27D, 0x2C64], [0x282, 0xA7C5], [0x287, 0xA7B1], [0x29D, 0xA7B2], [0x29E, 0xA7B0],
  [0x345, 0x399, 0x3B9, 0x1FBE], [0x376, 0x377], [0x37F, 0x3F3], [0x386, 0x3AC], [0x38C, 0x3CC],
  [0x390, 0x1FD3], [0x392, 0x3B2, 0x3D0], [0x395, 0x3B5, 0x3F5], [0x398, 0x3B8, 0x3D1, 0x3F4],
  [0x39A, 0x3BA, 0x3F0], [0x3A0, 0x3C0, 0x3D6], [0x3A1, 0x3C1, 0x3F1], [0x3A3, 0x3C2, 0x3C3],
  [0x3A6, 0x3C6, 0x3D5], [0x3A9, 0x3C9, 0x2126], [0x3B0, 0x1FE3], [0x3CF, 0x3D7], [0x3F2, 0x3F9],
  [0x3F7, 0x3F8], [0x3FA, 0x3FB], [0x412, 0x432, 0x1C80], [0x414, 0x434, 0x1C81],
  [0x41E, 0x43E, 0x1C82], [0x421, 0x441, 0x1C83], [0x422, 0x442, 0x1C84, 0x1C85],
  [0x42A, 0x44A, 0x1C86], [0x462, 0x463, 0x1C87], [0x4C0, 0x4CF], [0x10C7, 0x2D27],
  [0x10CD, 0x2D2D], [0x1C88, 0xA64A, 0xA64B], [0x1C89, 0x1C8A], [0x1D79, 0xA77D], [0x1D7D, 0x2C63],
  [0x1D8E, 0xA7C6], [0x1E60, 0x1E61, 0x1E9B], [0x1FB3, 0x1FBC], [0x1FC3, 0x1FCC], [0x1FE5, 0x1FEC],
  [0x1FF3, 0x1FFC], [0x2132, 0x214E], [0x2183, 0x2184], [0x2C60, 0x2C61], [0x2C72, 0x2C73],
  [0x2C75, 0x2C76], [0x2CF2, 0x2CF3], [0xA78B, 0xA78C], [0xA794, 0xA7C4], [0xA7B3, 0xAB53],
  [0xA7CC, 0xA7CD], [0xA7D0, 0xA7D1], [0xA7F5, 0xA7F6], [0xFB05, 0xFB06]]

/-- The classes of characters that are variants of each other in case. -/
def caseClasses : List (List Nat) := caseRuns.flatMap CaseRun.pairs ++ loneClasses

end Unicode

/-- A set with the other members of every class that has a member in it. -/
def CharRanges.closedUnder (classes : List (List Nat)) (s : CharRanges) : CharRanges :=
  (classes.filter (·.any s.containsCode)).foldl (fun t codes => t.union (.ofCodes codes)) s

/-- A set with all variants of its members in case. -/
def CharRanges.withCaseVariants (s : CharRanges) : CharRanges := s.closedUnder Unicode.caseClasses

/-- A set with the variants in case that its members have in the ASCII range. -/
def CharRanges.withAsciiVariants (s : CharRanges) : CharRanges :=
  s.closedUnder (Unicode.CaseRun.pairs ⟨0x41, 0x61, 1, 26⟩)

end FieldLayout
