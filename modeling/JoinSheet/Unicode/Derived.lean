import JoinSheet.Unicode.Break
import JoinSheet.Unicode.Category
import JoinSheet.Unicode.Property

/-!
# Derived properties of characters

Two-valued properties that follow from the general categories and the listed properties. The
properties that patterns can name follow version 16.0 of the standard. What shows in a message and
what may stand in the name of a group follows version 17.0, which assigned some more characters.

## Main definitions

* `Unicode.alphabetic`, `Unicode.graphemeExtend`, … — the properties.
* `Unicode.derivedProperties` — all of them by name.
* `Unicode.recentShown`, `Unicode.recentAlphabetic`, `Unicode.recentNumbers` — what version 17.0
  added to some of them.
-/

namespace JoinSheet.Unicode

/-- Lower-case characters. -/
def lowercase : CharSet := (category "Ll").union (listed "Other_Lowercase")

/-- Upper-case characters. -/
def uppercase : CharSet := (category "Lu").union (listed "Other_Uppercase")

/-- Characters with a case. -/
def cased : CharSet := .unions [lowercase, uppercase, category "Lt"]

/-- Letters, and the marks and numbers that count as letters. -/
def alphabetic : CharSet :=
  .unions [cased, inCategories ["Lm", "Lo", "Nl"], listed "Other_Alphabetic"]

/-- Characters of mathematical notation. -/
def mathematical : CharSet := (category "Sm").union (listed "Other_Math")

/-- Characters that extend the one before them. -/
def graphemeExtend : CharSet :=
  (inCategories ["Me", "Mn"]).union (listed "Other_Grapheme_Extend")

/-- Characters that show and extend no other one. -/
def graphemeBase : CharSet :=
  (inCategories ["Cc", "Cf", "Co", "Cn", "Zl", "Zp"]).compl.diff graphemeExtend

/-- Characters that are looked through where the case of their neighbours matters. -/
def caseIgnorable : CharSet :=
  .unions [inCategories ["Mn", "Me", "Cf", "Lm", "Sk"], NamedSet.first wordBreaks "ML",
    NamedSet.first wordBreaks "MB", NamedSet.first wordBreaks "SQ"]

/-- Characters that do not show if they are not supported. -/
def defaultIgnorable : CharSet :=
  (CharSet.unions [listed "Other_Default_Ignorable_Code_Point", category "Cf",
    listed "Variation_Selector"]).diff
    (.unions [listed "White_Space", listed "Prepended_Concatenation_Mark",
      .range '\ufff9' '\ufffb', .range (Char.ofNat 0x13430) (Char.ofNat 0x13440)])

/-- Characters that patterns use as their own signs or as blanks. -/
def patternSigns : CharSet := (listed "Pattern_Syntax").union (listed "Pattern_White_Space")

/-- Characters that start identifiers. -/
def identifierStart : CharSet :=
  (CharSet.unions [inCategories ["Lu", "Ll", "Lt", "Lm", "Lo", "Nl"], listed "Other_ID_Start"]).diff
    patternSigns

/-- Characters that continue identifiers. -/
def identifierContinue : CharSet :=
  (CharSet.unions [identifierStart, inCategories ["Mn", "Mc", "Nd", "Pc"],
    listed "Other_ID_Continue"]).diff patternSigns

/-- Characters that some mapping of case changes. -/
def changesWhenCasemapped : CharSet :=
  .unions [listed "Changes_When_Lowercased", listed "Changes_When_Uppercased",
    listed "Changes_When_Titlecased"]

/-- The derived properties with their names. -/
def derivedProperties : List (List String × CharSet) :=
  [(["Alphabetic", "Alpha"], alphabetic),
   (["Case_Ignorable", "CI"], caseIgnorable),
   (["Cased"], cased),
   (["Changes_When_Casemapped", "CWCM"], changesWhenCasemapped),
   (["Default_Ignorable_Code_Point", "DI"], defaultIgnorable),
   (["Grapheme_Base", "Gr_Base"], graphemeBase),
   (["Grapheme_Extend", "Gr_Ext"], graphemeExtend),
   (["ID_Continue", "IDC"], identifierContinue),
   (["ID_Start", "IDS"], identifierStart),
   (["Lowercase", "Lower"], lowercase),
   (["Math"], mathematical),
   (["Uppercase", "Upper"], uppercase),
   (["XID_Continue", "XIDC"], identifierContinue.diff unstableContinues),
   (["XID_Start", "XIDS"], identifierStart.diff unstableStarts)]

/-! ## Recent characters -/

/-- Those that show by themselves. -/
def recentShown : CharSet := ofRuns
  "2191 1 972 1 127 1 5092 1 2772 1 31799 2 2 1 1 1 28 1 21457 16 445 2 54 7 2929 26 1387 3 8 9
  3208 1 3 1 1 1 584 44 4 10 20662 25 2 25 286 5 6145 8 1289 22 97 115 16135 3 445 23 15 17 6095
  31 1 3 1 2 1 7 2 5 9 2 4056 1 158 4 341 9 379 4 50 1 3 1 57 1 4 1 28 1 4 1 266 1 47935 6 5986 12
  21762 4298"

/-- Those that count as letters. -/
def recentAlphabetic : CharSet := ofRuns
  "2191 1 972 1 127 1 39665 2 2 1 1 1 28 1 24910 26 1387 3 50 2 3172 8 584 44 20676 25 2 25 286 5
  6145 8 1289 22 97 115 22733 31 1 22 8 2 53306 6 5986 12 21762 4298"

/-- Those that are numbers. -/
def recentNumbers : CharSet := ofRuns
  "73184 10 21002 3"

end JoinSheet.Unicode
