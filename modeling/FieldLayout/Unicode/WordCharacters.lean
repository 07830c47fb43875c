import FieldLayout.Unicode.GeneralCategory

/-!
# Word characters

Letters, marks, decimal digits, letters used as numbers, connecting punctuation such as the low
line, the two join controls, and the symbols that show a letter in a circle or a square.

## Main definitions

* `Unicode.wordCharacters`: the set of these characters.
* `Unicode.asciiWordCharacters`: those in the ASCII range.
-/

namespace FieldLayout.Unicode

/-- The characters of words. -/
def wordCharacters : CharRanges :=
  (ofCategories
    [.uppercaseLetter, .lowercaseLetter, .titlecaseLetter, .modifierLetter, .otherLetter,
      .nonspacingMark, .spacingMark, .enclosingMark, .decimalNumber, .letterNumber,
      .connectorPunctuation]).union
    (.ofTable "200C-200D 24B6-24E9 1F130-1F149 1F150-1F169 1F170-1F189")

/-- The characters of words in the ASCII range. -/
def asciiWordCharacters : CharRanges := .ofEnds [0x30, 0x39, 0x41, 0x5A, 0x5F, 0x5F, 0x61, 0x7A]

end FieldLayout.Unicode
