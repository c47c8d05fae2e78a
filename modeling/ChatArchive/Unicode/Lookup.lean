import ChatArchive.Unicode.Category
import ChatArchive.Unicode.Script
import ChatArchive.Unicode.Property

/-!
# Named character sets

Finding the set that a property name stands for.  Names are compared loosely: letter case,
spaces, hyphens, underscores and a leading `is` do not count.  A bare name is a binary property,
a general category or a script, in this order; a name with a value says which of the last two it
means.
-/

namespace ChatArchive.Unicode

/-! ## Loose names -/

/-- Lowercase of an ASCII letter. -/
def asciiLower (c : Char) : Char :=
  if 'A' ≤ c ∧ c ≤ 'Z' then Char.ofNat (c.toNat + 32) else c

/-- Does the name start with `is`? -/
def startsWithIs : List Char → Bool
  | a :: b :: _ => asciiLower a == 'i' && asciiLower b == 's'
  | _ => false

/-- What counts of a name.  `isc` keeps its first two letters, because `c` is a name of its
own. -/
def looseName (name : List Char) : List Char :=
  let body := if startsWithIs name then name.drop 2 else name
  let kept := (body.filter fun c => c.toNat ≤ 0x7F && c != ' ' && c != '_' && c != '-').map
    asciiLower
  if startsWithIs name && kept == ['c'] then ['i', 's', 'c'] else kept

/-- Is the loose name one of the given names? -/
def isNamed (name : List Char) (names : List String) : Bool :=
  names.any fun n => looseName n.toList == name

/-! ## Categories by name -/

/-- The names of the categories, and of the groups of them, with their characters. -/
def categoryNames : List (List String × List Category) :=
  [(["C", "Other"], []),
   (["Cc", "Control", "Cntrl"], [.control]),
   (["Cf", "Format"], [.format]),
   (["Cn", "Unassigned"], []),
   (["Co", "Private_Use"], [.privateUse]),
   (["L", "Letter"], Category.letters),
   (["LC", "Cased_Letter"], Category.casedLetters),
   (["Ll", "Lowercase_Letter"], [.lowercaseLetter]),
   (["Lm", "Modifier_Letter"], [.modifierLetter]),
   (["Lo", "Other_Letter"], [.otherLetter]),
   (["Lt", "Titlecase_Letter"], [.titlecaseLetter]),
   (["Lu", "Uppercase_Letter"], [.uppercaseLetter]),
   (["M", "Mark", "Combining_Mark"], Category.marks),
   (["Mc", "Spacing_Mark"], [.spacingMark]),
   (["Me", "Enclosing_Mark"], [.enclosingMark]),
   (["Mn", "Nonspacing_Mark"], [.nonspacingMark]),
   (["N", "Number"], Category.numbers),
   (["Nd", "Decimal_Number", "Digit"], [.decimalNumber]),
   (["Nl", "Letter_Number"], [.letterNumber]),
   (["No", "Other_Number"], [.otherNumber]),
   (["P", "Punctuation", "Punct"], Category.punctuation),
   (["Pc", "Connector_Punctuation"], [.connectorPunctuation]),
   (["Pd", "Dash_Punctuation"], [.dashPunctuation]),
   (["Pe", "Close_Punctuation"], [.closePunctuation]),
   (["Pf", "Final_Punctuation"], [.finalPunctuation]),
   (["Pi", "Initial_Punctuation"], [.initialPunctuation]),
   (["Po", "Other_Punctuation"], [.otherPunctuation]),
   (["Ps", "Open_Punctuation"], [.openPunctuation]),
   (["S", "Symbol"], Category.symbols),
   (["Sc", "Currency_Symbol"], [.currencySymbol]),
   (["Sk", "Modifier_Symbol"], [.modifierSymbol]),
   (["Sm", "Math_Symbol"], [.mathSymbol]),
   (["So", "Other_Symbol"], [.otherSymbol]),
   (["Z", "Separator"], Category.separators),
   (["Zl", "Line_Separator"], [.lineSeparator]),
   (["Zp", "Paragraph_Separator"], [.paragraphSeparator]),
   (["Zs", "Space_Separator"], [.spaceSeparator])]

/-- The set of a category, a group of categories, or one of the sets that are named like them. -/
def categorySet? (name : List Char) : Option CharSet :=
  if isNamed name ["Any"] then some CharSet.all
  else if isNamed name ["Assigned"] then some Category.assigned
  else if isNamed name ["ASCII"] then some ⟨[(0, 0x7F)]⟩
  else if isNamed name ["Cn", "Unassigned"] then some Category.unassigned
  else if isNamed name ["C", "Other"] then
    some ((Category.membersOf [.control, .format, .privateUse]).union Category.unassigned)
  else (categoryNames.find? fun e => isNamed name e.1).map fun e => Category.membersOf e.2

/-! ## Scripts and properties by name -/

/-- The script of a name, in its long or short form. -/
def script? (name : List Char) : Option Script :=
  Script.all.find? fun s => isNamed name s.names

/-- The property of a name. -/
def property? (name : List Char) : Option Property :=
  Property.all.find? fun p => isNamed name p.names

/-! ## Lookup -/

/-- The set of a bare name.  `cf`, `sc` and `lc` are always categories, although they abbreviate
properties as well. -/
def namedSet? (name : List Char) : Option CharSet :=
  let n := looseName name
  let asProperty :=
    if isNamed n ["cf", "sc", "lc"] then none else (property? n).map Property.members
  asProperty <|> categorySet? n <|> (script? n).map Script.members

/-- The set of a property with a value: a category, a script, or a script with the characters
that it shares. -/
def valuedSet? (property value : List Char) : Option CharSet :=
  let p := looseName property
  let v := looseName value
  if isNamed p ["General_Category", "gc"] then categorySet? v
  else if isNamed p ["Script", "sc"] then (script? v).map Script.members
  else if isNamed p ["Script_Extensions", "scx"] then (script? v).map Script.extensions
  else none

/-! ## Frequent sets -/

/-- Letters and what continues a word of any script. -/
def wordCharacters : CharSet :=
  CharSet.unions
    [Property.alphabetic.members, Category.membersOf Category.marks,
     Category.decimalNumber.members, Category.connectorPunctuation.members,
     Property.joinControl.members]

/-- Decimal digits of any script. -/
def decimalDigits : CharSet := Category.decimalNumber.members

/-- Letters of any script. -/
def alphabetic : CharSet := Property.alphabetic.members

/-- Letters and numbers of any script. -/
def alphanumeric : CharSet := alphabetic.union (Category.membersOf Category.numbers)

end ChatArchive.Unicode
