import SymbolFootprint.Text.Category.Letters
import SymbolFootprint.Text.Category.MarkProperties
import SymbolFootprint.Text.Category.Marks
import SymbolFootprint.Text.Category.Numbers
import SymbolFootprint.Text.Category.Others
import SymbolFootprint.Text.Category.Punctuation
import SymbolFootprint.Text.Category.Symbols

/-!
The Unicode general categories.
-/

namespace SymbolFootprint.Text

inductive Category where
  | uppercaseLetter
  | lowercaseLetter
  | titlecaseLetter
  | modifierLetter
  | otherLetter
  | nonspacingMark
  | spacingMark
  | enclosingMark
  | decimalNumber
  | letterNumber
  | otherNumber
  | connectorPunctuation
  | dashPunctuation
  | openPunctuation
  | closePunctuation
  | initialPunctuation
  | finalPunctuation
  | otherPunctuation
  | mathSymbol
  | currencySymbol
  | modifierSymbol
  | otherSymbol
  | spaceSeparator
  | lineSeparator
  | paragraphSeparator
  | control
  | format
  | surrogate
  | privateUse
deriving DecidableEq

namespace Category

def table : Category → CodeTable
  | .uppercaseLetter => .uppercaseLetters
  | .lowercaseLetter => .lowercaseLetters
  | .titlecaseLetter => .titlecaseLetters
  | .modifierLetter => .modifierLetters
  | .otherLetter => .otherLetters
  | .nonspacingMark => .nonspacingMarks
  | .spacingMark => .spacingMarks
  | .enclosingMark => .enclosingMarks
  | .decimalNumber => .decimalNumbers
  | .letterNumber => .letterNumbers
  | .otherNumber => .otherNumbers
  | .connectorPunctuation => .connectorPunctuation
  | .dashPunctuation => .dashPunctuation
  | .openPunctuation => .openPunctuation
  | .closePunctuation => .closePunctuation
  | .initialPunctuation => .initialPunctuation
  | .finalPunctuation => .finalPunctuation
  | .otherPunctuation => .otherPunctuation
  | .mathSymbol => .mathSymbols
  | .currencySymbol => .currencySymbols
  | .modifierSymbol => .modifierSymbols
  | .otherSymbol => .otherSymbols
  | .spaceSeparator => .spaceSeparators
  | .lineSeparator => .lineSeparators
  | .paragraphSeparator => .paragraphSeparators
  | .control => .controls
  | .format => .formats
  | .surrogate => .surrogates
  | .privateUse => .privateUses

def all : List Category :=
  [.uppercaseLetter, .lowercaseLetter, .titlecaseLetter, .modifierLetter, .otherLetter,
    .nonspacingMark, .spacingMark, .enclosingMark, .decimalNumber, .letterNumber, .otherNumber,
    .connectorPunctuation, .dashPunctuation, .openPunctuation, .closePunctuation,
    .initialPunctuation, .finalPunctuation, .otherPunctuation, .mathSymbol, .currencySymbol,
    .modifierSymbol, .otherSymbol, .spaceSeparator, .lineSeparator, .paragraphSeparator, .control,
    .format, .surrogate, .privateUse]

/-- The category of a character; a code point that is not assigned has none. -/
def of? (c : Char) : Option Category :=
  all.find? fun category => category.table.contains c.toNat

end Category

/-- Is the character assigned and of one of the categories? -/
def hasCategory (categories : List Category) (c : Char) : Bool :=
  categories.any fun category => category.table.contains c.toNat

/-- Symbols that look like letters in circles or squares and count as alphabetic. -/
def enclosedLetters : CodeTable where
  blocks := [(0x24B6, 0x24E9), (0x1F130, 0x1F149), (0x1F150, 0x1F169), (0x1F170, 0x1F189)]

def isAlphabetic (c : Char) : Bool :=
  hasCategory [.uppercaseLetter, .lowercaseLetter, .titlecaseLetter, .modifierLetter, .otherLetter,
    .letterNumber] c ||
    CodeTable.alphabeticMarks.contains c.toNat || enclosedLetters.contains c.toNat

/-- Is the character a number or a part of one? -/
def isNumeric (c : Char) : Bool :=
  hasCategory [.decimalNumber, .letterNumber, .otherNumber] c

def isWordChar (c : Char) : Bool :=
  isAlphabetic c ||
    hasCategory [.nonspacingMark, .spacingMark, .enclosingMark, .decimalNumber,
      .connectorPunctuation] c ||
    c = '\u200C' || c = '\u200D'

/-- Does the character belong to the one before it? -/
def isExtending (c : Char) : Bool :=
  hasCategory [.nonspacingMark, .enclosingMark] c ||
    CodeTable.extendingCharacters.contains c.toNat

end SymbolFootprint.Text
