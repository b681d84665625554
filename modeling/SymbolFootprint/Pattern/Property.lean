import SymbolFootprint.Pattern.CharSet

/-!
The names by which patterns refer to properties of characters, and the sets they stand for.

Names are compared without case, blanks, underscores, hyphens and a leading `is`.
-/

namespace SymbolFootprint.CharProperty

open Text (Category)

/-- The names of sets of categories, each with a short and a long form. -/
def categoryNames : List (List String × List Category) :=
  [(["lu", "uppercaseletter"], [.uppercaseLetter]),
    (["ll", "lowercaseletter"], [.lowercaseLetter]),
    (["lt", "titlecaseletter"], [.titlecaseLetter]),
    (["lm", "modifierletter"], [.modifierLetter]),
    (["lo", "otherletter"], [.otherLetter]),
    (["mn", "nonspacingmark"], [.nonspacingMark]),
    (["mc", "spacingmark"], [.spacingMark]),
    (["me", "enclosingmark"], [.enclosingMark]),
    (["nd", "decimalnumber", "digit"], [.decimalNumber]),
    (["nl", "letternumber"], [.letterNumber]),
    (["no", "othernumber"], [.otherNumber]),
    (["pc", "connectorpunctuation"], [.connectorPunctuation]),
    (["pd", "dashpunctuation"], [.dashPunctuation]),
    (["ps", "openpunctuation"], [.openPunctuation]),
    (["pe", "closepunctuation"], [.closePunctuation]),
    (["pi", "initialpunctuation"], [.initialPunctuation]),
    (["pf", "finalpunctuation"], [.finalPunctuation]),
    (["po", "otherpunctuation"], [.otherPunctuation]),
    (["sm", "mathsymbol"], [.mathSymbol]),
    (["sc", "currencysymbol"], [.currencySymbol]),
    (["sk", "modifiersymbol"], [.modifierSymbol]),
    (["so", "othersymbol"], [.otherSymbol]),
    (["zs", "spaceseparator"], [.spaceSeparator]),
    (["zl", "lineseparator"], [.lineSeparator]),
    (["zp", "paragraphseparator"], [.paragraphSeparator]),
    (["cc", "control", "cntrl"], [.control]),
    (["cf", "format"], [.format]),
    (["cs", "surrogate"], [.surrogate]),
    (["co", "privateuse"], [.privateUse]),
    (["lc", "casedletter"], [.uppercaseLetter, .lowercaseLetter, .titlecaseLetter]),
    (["l", "letter"],
      [.uppercaseLetter, .lowercaseLetter, .titlecaseLetter, .modifierLetter, .otherLetter]),
    (["m", "mark", "combiningmark"], [.nonspacingMark, .spacingMark, .enclosingMark]),
    (["n", "number"], [.decimalNumber, .letterNumber, .otherNumber]),
    (["p", "punctuation", "punct"],
      [.connectorPunctuation, .dashPunctuation, .openPunctuation, .closePunctuation,
        .initialPunctuation, .finalPunctuation, .otherPunctuation]),
    (["s", "symbol"], [.mathSymbol, .currencySymbol, .modifierSymbol, .otherSymbol]),
    (["z", "separator"], [.spaceSeparator, .lineSeparator, .paragraphSeparator])]

def ofCategories (categories : List Category) : CharSet :=
  .unionAll (categories.map fun category => .property (.category category))

/-- The set for the name of a general category or of several. -/
def ofCategoryName? (name : String) : Option CharSet :=
  match categoryNames.find? fun entry => name ∈ entry.1 with
  | some (_, categories) => some (ofCategories categories)
  | none =>
    if name = "any" then some .all
    else if name = "ascii" then some (.range '\x00' '\x7F')
    else if name = "assigned" then some (.complement (.property .unassigned))
    else if name ∈ ["cn", "unassigned"] then some (.property .unassigned)
    else if name ∈ ["c", "other"] then
      some (.union (.property .unassigned)
        (ofCategories [.control, .format, .surrogate, .privateUse]))
    else none

/-- Characters in upper case that are no letters. -/
def otherUppercase : List (Char × Char) :=
  [('\u2160', '\u216F'), ('\u24B6', '\u24CF'), (.ofNat 0x1F130, .ofNat 0x1F149),
    (.ofNat 0x1F150, .ofNat 0x1F169), (.ofNat 0x1F170, .ofNat 0x1F189)]

/-- Characters in lower case that are no letters, or are letters without case otherwise. -/
def otherLowercase : List (Char × Char) :=
  [('\u00AA', '\u00AA'), ('\u00BA', '\u00BA'), ('\u02B0', '\u02B8'), ('\u02C0', '\u02C1'),
    ('\u02E0', '\u02E4'), ('\u0345', '\u0345'), ('\u037A', '\u037A'), ('\u10FC', '\u10FC'),
    ('\u1D2C', '\u1D6A'), ('\u1D78', '\u1D78'), ('\u1D9B', '\u1DBF'), ('\u2071', '\u2071'),
    ('\u207F', '\u207F'), ('\u2090', '\u209C'), ('\u2170', '\u217F'), ('\u24D0', '\u24E9'),
    ('\u2C7C', '\u2C7D'), ('\uA69C', '\uA69D'), ('\uA770', '\uA770'), ('\uA7F1', '\uA7F4'),
    ('\uA7F8', '\uA7F9'), ('\uAB5C', '\uAB5F'), ('\uAB69', '\uAB69'),
    (.ofNat 0x10780, .ofNat 0x10780), (.ofNat 0x10783, .ofNat 0x10785),
    (.ofNat 0x10787, .ofNat 0x107B0), (.ofNat 0x107B2, .ofNat 0x107BA),
    (.ofNat 0x1E030, .ofNat 0x1E06D)]

/-- The set for the name of a property that characters have or lack. -/
def ofBinaryName? (name : String) : Option CharSet :=
  if name ∈ ["alphabetic", "alpha"] then some (.property .alphabetic)
  else if name ∈ ["whitespace", "wspace", "space"] then some (.property .blank)
  else if name ∈ ["uppercase", "upper"] then
    some (.union (ofCategories [.uppercaseLetter]) (.ranges otherUppercase))
  else if name ∈ ["lowercase", "lower"] then
    some (.union (ofCategories [.lowercaseLetter]) (.ranges otherLowercase))
  else if name ∈ ["asciihexdigit", "ahex"] then
    some (.ranges [('0', '9'), ('A', 'F'), ('a', 'f')])
  else if name ∈ ["joincontrol", "joinc"] then some (.range '\u200C' '\u200D')
  else none

def normalName (name : List Char) : String :=
  let lower (c : Char) : Char := if 'A' ≤ c ∧ c ≤ 'Z' then Char.ofNat (c.toNat + 32) else c
  let kept := (name.map lower).filter fun c =>
    c ≠ ' ' && c ≠ '_' && c ≠ '-' && c.toNat < 0x80
  match (name.map lower), kept with
  | 'i' :: 's' :: _, 'i' :: 's' :: rest => if rest = ['c'] then "isc" else String.ofList rest
  | _, _ => String.ofList kept

def ofScriptName? (name : String) : Option CharSet :=
  if (Text.Script.find? name).isSome then some (.property (.script name)) else none

def ofName? (name : List Char) : Option CharSet :=
  let name := normalName name
  (ofBinaryName? name).or ((ofCategoryName? name).or (ofScriptName? name))

/-- The set for the name of a property and the name of its value. -/
def ofValueName? (name value : List Char) : Option CharSet :=
  if normalName name ∈ ["generalcategory", "gc"] then ofCategoryName? (normalName value)
  else if normalName name ∈ ["script", "sc"] then ofScriptName? (normalName value)
  else none

end SymbolFootprint.CharProperty
