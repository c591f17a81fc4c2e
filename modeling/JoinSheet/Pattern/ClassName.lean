import JoinSheet.Unicode.Age
import JoinSheet.Unicode.Break
import JoinSheet.Unicode.Derived
import JoinSheet.Unicode.Script

/-!
# Names of classes

The sets of characters that patterns know by name: classes of ASCII, properties with two values, and
the values of properties with many.

## Main definitions

* `CharSet.digit`, `CharSet.blank`, `CharSet.word` — the classes with short names.
* `CharSet.ofAsciiName?` — the classes of ASCII.
* `CharSet.ofName?`, `CharSet.ofProperty?` — sets by a single name, or by a property and its value.
-/

namespace JoinSheet

namespace CharSet

open Unicode

/-! ## Short names -/

/-- Decimal digits. -/
def digit : CharSet := category "Nd"

/-- White space. -/
def blank : CharSet := listed "White_Space"

/-- Letters, marks, decimal digits, connecting punctuation and joiners. -/
def word : CharSet :=
  .unions [alphabetic, inCategories ["Mc", "Me", "Mn", "Nd", "Pc"], listed "Join_Control"]

/-- The classes of ASCII, by the names that patterns use between colons. -/
def asciiNames : List (String × List (Char × Char)) :=
  [("alnum", [('0', '9'), ('A', 'Z'), ('a', 'z')]),
   ("alpha", [('A', 'Z'), ('a', 'z')]),
   ("ascii", [('\x00', '\x7f')]),
   ("blank", [('\t', '\t'), (' ', ' ')]),
   ("cntrl", [('\x00', '\x1f'), ('\x7f', '\x7f')]),
   ("digit", [('0', '9')]),
   ("graph", [('!', '~')]),
   ("lower", [('a', 'z')]),
   ("print", [(' ', '~')]),
   ("punct", [('!', '/'), (':', '@'), ('[', '`'), ('\x7b', '~')]),
   ("space", [('\t', '\r'), (' ', ' ')]),
   ("upper", [('A', 'Z')]),
   ("word", [('0', '9'), ('A', 'Z'), ('a', 'z'), ('_', '_')]),
   ("xdigit", [('0', '9'), ('A', 'F'), ('a', 'f')])]

/-- The class of ASCII with a name. -/
def ofAsciiName? (name : Text) : Option CharSet :=
  (asciiNames.find? fun entry => entry.1.toList == name).map fun entry => ofRanges entry.2

/-! ## Properties -/

/-- The characters of a two-valued property, by its loose name. -/
def ofBinary? (loose : Text) : Option CharSet :=
  ((NamedSet.find? listedProperties loose).map NamedSet.set) <|>
    ((derivedProperties.find? fun entry => NamedSet.isNamed entry.1 loose).map Prod.snd)

/-- The characters of a general category, or of a group of them, by its loose name. -/
def ofCategory? (loose : Text) : Option CharSet :=
  if loose = "any" then some all
  else if loose = "ascii" then some ascii
  else if loose = "assigned" then some (category "Cn").compl
  else ((NamedSet.find? categories loose).map NamedSet.set) <|>
    ((categoryGroups.find? fun entry => NamedSet.isNamed entry.1 loose).map fun entry =>
      inCategories entry.2)

/-- The characters of a script, by its loose name. -/
def ofScript? (loose : Text) : Option CharSet := (NamedSet.find? scripts loose).map NamedSet.set

/-- The characters that a script uses, by its loose name. -/
def usedByScript? (loose : Text) : Option CharSet :=
  (NamedSet.find? scripts loose).bind fun s => s.names.head?.map usedByScript

/-- The set with a single name: a property, a category or a script. -/
def ofName? (name : Text) : Option CharSet :=
  let loose := looseName name
  ofBinary? loose <|> ofCategory? loose <|> ofScript? loose

/-- The properties with many values by their names, with the set for the loose name of a value. -/
def manyValued : List (List String × (Text → Option CharSet)) :=
  [(["gc", "General_Category"], ofCategory?),
   (["sc", "Script"], ofScript?),
   (["scx", "Script_Extensions"], usedByScript?),
   (["age", "Age"], fun loose => (NamedSet.find? versions loose).map charactersIn),
   (["GCB", "Grapheme_Cluster_Break"],
      fun loose => (NamedSet.find? graphemeBreaks loose).map NamedSet.set),
   (["WB", "Word_Break"], fun loose => (NamedSet.find? wordBreaks loose).map NamedSet.set),
   (["SB", "Sentence_Break"], fun loose => (NamedSet.find? sentenceBreaks loose).map NamedSet.set)]

/-- The characters for which a property has some value. -/
def ofProperty? (property value : Text) : Option CharSet :=
  (manyValued.find? fun entry => NamedSet.isNamed entry.1 (looseName property)).bind fun entry =>
    entry.2 (looseName value)

end CharSet

end JoinSheet
