import FieldLayout.Unicode.NamedSet

/-!
# Names of general categories

The categories and the groups of categories, with the names they go by.

## Main definitions

* `Unicode.categorySets`: the sets with their names.
-/

namespace FieldLayout.Unicode

/-- The general categories and their groups. -/
def categorySets : List NamedSet := [
  ⟨["L", "Letter"], [.uppercaseLetter, .lowercaseLetter, .titlecaseLetter, .modifierLetter,
      .otherLetter],
    "",
    ""⟩,
  ⟨["LC", "Cased_Letter"], [.uppercaseLetter, .lowercaseLetter, .titlecaseLetter], "", ""⟩,
  ⟨["M", "Mark", "Combining_Mark"], [.nonspacingMark, .spacingMark, .enclosingMark], "", ""⟩,
  ⟨["N", "Number"], [.decimalNumber, .letterNumber, .otherNumber], "", ""⟩,
  ⟨["P", "Punctuation", "punct"],
    [.connectorPunctuation, .dashPunctuation, .openPunctuation, .closePunctuation,
      .initialPunctuation, .finalPunctuation, .otherPunctuation],
    "",
    ""⟩,
  ⟨["S", "Symbol"], [.mathSymbol, .currencySymbol, .modifierSymbol, .otherSymbol], "", ""⟩,
  ⟨["Z", "Separator"], [.spaceSeparator, .lineSeparator, .paragraphSeparator], "", ""⟩,
  ⟨["C", "Other"], [.control, .format, .privateUse, .unassigned], "", ""⟩,
  ⟨["Lu", "Uppercase_Letter"], [.uppercaseLetter], "", ""⟩,
  ⟨["Ll", "Lowercase_Letter"], [.lowercaseLetter], "", ""⟩,
  ⟨["Lt", "Titlecase_Letter"], [.titlecaseLetter], "", ""⟩,
  ⟨["Lm", "Modifier_Letter"], [.modifierLetter], "", ""⟩,
  ⟨["Lo", "Other_Letter"], [.otherLetter], "", ""⟩,
  ⟨["Mn", "Nonspacing_Mark"], [.nonspacingMark], "", ""⟩,
  ⟨["Mc", "Spacing_Mark"], [.spacingMark], "", ""⟩,
  ⟨["Me", "Enclosing_Mark"], [.enclosingMark], "", ""⟩,
  ⟨["Nd", "Decimal_Number", "digit"], [.decimalNumber], "", ""⟩,
  ⟨["Nl", "Letter_Number"], [.letterNumber], "", ""⟩,
  ⟨["No", "Other_Number"], [.otherNumber], "", ""⟩,
  ⟨["Pc", "Connector_Punctuation"], [.connectorPunctuation], "", ""⟩,
  ⟨["Pd", "Dash_Punctuation"], [.dashPunctuation], "", ""⟩,
  ⟨["Ps", "Open_Punctuation"], [.openPunctuation], "", ""⟩,
  ⟨["Pe", "Close_Punctuation"], [.closePunctuation], "", ""⟩,
  ⟨["Pi", "Initial_Punctuation"], [.initialPunctuation], "", ""⟩,
  ⟨["Pf", "Final_Punctuation"], [.finalPunctuation], "", ""⟩,
  ⟨["Po", "Other_Punctuation"], [.otherPunctuation], "", ""⟩,
  ⟨["Sm", "Math_Symbol"], [.mathSymbol], "", ""⟩,
  ⟨["Sc", "Currency_Symbol"], [.currencySymbol], "", ""⟩,
  ⟨["Sk", "Modifier_Symbol"], [.modifierSymbol], "", ""⟩,
  ⟨["So", "Other_Symbol"], [.otherSymbol], "", ""⟩,
  ⟨["Zs", "Space_Separator"], [.spaceSeparator], "", ""⟩,
  ⟨["Zl", "Line_Separator"], [.lineSeparator], "", ""⟩,
  ⟨["Zp", "Paragraph_Separator"], [.paragraphSeparator], "", ""⟩,
  ⟨["Cc", "Control", "cntrl"], [.control], "", ""⟩,
  ⟨["Cf", "Format"], [.format], "", ""⟩,
  ⟨["Co", "Private_Use"], [.privateUse], "", ""⟩,
  ⟨["Cn", "Unassigned"], [.unassigned], "", ""⟩]

end FieldLayout.Unicode
