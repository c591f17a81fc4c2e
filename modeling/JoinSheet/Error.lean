import JoinSheet.Table
import JoinSheet.Unicode.Derived

/-!
# Errors

An error is a cause. Causes are grouped by how callers react to them, and each has one wording.

## Main definitions

* `ParseFault`, `EvalFault`, `ResolveFault`, `UnsafeFault`, `GraphFault`, `WriteFault`,
  `InternalFault` — the causes of each kind.
* `Error` — a cause of some kind, or an error within a named place.
* `Text.quoted` — the form in which a message shows a text that may hold anything.
* `Error.report` — the kind and the wording of an error.
-/

namespace JoinSheet

/-- Classes of failure. -/
inductive ErrorKind where
  /-- Malformed formulas and references, unknown functions. -/
  | parse
  /-- Operands that cannot be computed with. -/
  | evaluation
  /-- Unknown columns and tables, rows and ranges out of bounds. -/
  | resolution
  /-- Names, operators and casts that may not enter a statement. -/
  | unsafeSql
  /-- Keys that do not extend a join path, dependency cycles. -/
  | graph
  /-- Writes that lack what they need. -/
  | write
  /-- Failures that the database reports. -/
  | database
  /-- Catalogs that contradict themselves. -/
  | internal
  deriving DecidableEq, Repr

namespace ErrorKind

/-- The name of a kind. -/
def toText : ErrorKind → Text
  | parse => "parse error"
  | evaluation => "evaluation error"
  | resolution => "resolution error"
  | unsafeSql => "unsafe SQL"
  | graph => "join graph error"
  | write => "write error"
  | database => "database error"
  | internal => "internal error"

end ErrorKind

/-! ## Quoted names -/

/-- The characters that show by themselves: the space, and those that are no controls, formats,
separators, private or unassigned, and that do not extend the character before them. -/
def Text.shown : CharSet :=
  .unions [.single ' ', Unicode.recentShown,
    ((Unicode.inCategories ["Cc", "Cf", "Co", "Cn", "Zl", "Zp", "Zs"]).union
      Unicode.graphemeExtend).compl]

/-- One character of a quoted text. -/
def Text.quotedChar (c : Char) : Text :=
  if c = '\x00' then "\\0"
  else if c = '\t' then "\\t"
  else if c = '\r' then "\\r"
  else if c = '\n' then "\\n"
  else if c = '\\' then "\\\\"
  else if c = '"' then "\\\""
  else if shown.mem c then [c]
  else "\\u\x7b" ++ Nat.toDigits 16 c.toNat ++ "\x7d"

/-- A text between double quotes, with escapes. -/
def Text.quoted (t : Text) : Text := '"' :: t.flatMap quotedChar ++ ['"']

/-! ## Causes -/

/-- What can be wrong with the characters of a formula. -/
inductive ScanFault where
  | arrayFormula
  | unmatchedOpener
  | unmatchedCloser
  | unclosedText
  deriving DecidableEq, Repr

/-- The wording of a fault in the characters of a formula. -/
def ScanFault.message : ScanFault → Text
  | arrayFormula => "array formulas are not supported"
  | unmatchedOpener => "unmatched opening parenthesis"
  | unmatchedCloser => "no matching opener for closer"
  | unclosedText => "reached end of formula while parsing string"

/-- Causes of parse errors. -/
inductive ParseFault where
  /-- A fault at a byte position of a formula. -/
  | scan (fault : ScanFault) (position : Nat) (formula : Text)
  | notAnOpener
  | missingColumn (reference : Text)
  | invalidRow (reference : Text)
  | mixedColumns (reference : Text)
  | reversedRange (reference : Text)
  | unmatchedGroup (opener : Text)
  | unknownFunction (name : Text)
  deriving DecidableEq, Repr

/-- The wording of a parse error. -/
def ParseFault.message : ParseFault → Text
  | scan fault position formula =>
    fault.message ++ " at position " ++ Text.ofNat position ++ " in " ++ formula
  | notAnOpener => "token is not an opener"
  | missingColumn reference => "missing column name in " ++ reference
  | invalidRow reference => "invalid row index in " ++ reference
  | mixedColumns reference => "ranges must be for a single column, got " ++ reference
  | reversedRange reference => "range start is after its end in " ++ reference
  | unmatchedGroup opener => "unmatched parentheses after " ++ opener
  | unknownFunction name => "unsupported function: " ++ name

/-- Causes of evaluation errors. -/
inductive EvalFault where
  | leavesSheet (row : Nat) (offset : Int) (reference : Text)
  | emptyExpression
  | notAnOperand (token : Text)
  | rangeAsValue (range : Text)
  | missingOperand (operator : Text)
  | divisionByZero
  | unknownSign (operator : Text)
  | notNumeric (context value : Text)
  | malformed (expression : Text)
  | unsupportedCriterion (criterion : Text)
  | nonNumericAnswer (value : Text)
  /-- A cell that a function cannot compute with. -/
  | nonNumericCell (function value column : Text) (row : Nat)
  | averageOfNothing
  | argumentCount (function : Text)
  | invalidRange (function : Text)
  | noMatchingRows (function : Text)
  | searchedNumber
  | numericPattern (pattern : Text)
  | invalidPattern
  | severalComparisons
  | notLogical (value : Text)
  | unsupportedComparison (operator : Text)
  deriving DecidableEq, Repr

/-- The wording of an evaluation error. -/
def EvalFault.message : EvalFault → Text
  | leavesSheet row offset reference =>
    "row " ++ Text.ofNat row ++ " shifted by " ++ Text.ofInt offset ++ " leaves the sheet in " ++
      reference
  | emptyExpression => "empty expression"
  | notAnOperand token => "not an operand: " ++ token
  | rangeAsValue range => "range " ++ range ++ " used as a single value"
  | missingOperand operator => "operator " ++ operator ++ " is missing an operand"
  | divisionByZero => "division by zero"
  | unknownSign operator => "invalid prefix operator " ++ operator
  | notNumeric context value => "non-numeric argument to " ++ context ++ ": " ++ value
  | malformed expression => "not implemented: " ++ expression
  | unsupportedCriterion criterion => "unsupported operator in criteria " ++ criterion
  | nonNumericAnswer value => "database returned a non-numeric value " ++ value
  | nonNumericCell function value column row =>
    "non-numeric value in " ++ function ++ ": " ++ value ++ " (from " ++ column ++ Text.ofNat row ++
      ")"
  | averageOfNothing => "AVERAGE of no values"
  | argumentCount function => "wrong number of arguments for " ++ function
  | invalidRange function => "invalid range in " ++ function
  | noMatchingRows function => "no rows match condition in " ++ function
  | searchedNumber => "only text can be searched with REGEXMATCH"
  | numericPattern pattern => "invalid regex " ++ pattern
  | invalidPattern => "invalid regex"
  | severalComparisons => "multiple logical operators in single expression"
  | notLogical value => "not a logical expression: " ++ value
  | unsupportedComparison operator => "unsupported logical operator: " ++ operator

/-- Causes of resolution errors. -/
inductive ResolveFault where
  | unqualifiedTable (name : Text)
  | unknownTable (name : Text)
  | unknownColumn (name : Text)
  | unknownColumnOf (column table : Text)
  | malformedColumn (name : Text)
  | rowNotLoaded (row loaded : Nat)
  | nothingLoaded (base : TableName)
  | noConnection
  | misaligned (condition values : Text)
  | mixedRanges (function : Text)
  | noColumnAt (index : Nat)
  | emptyColumnName
  | columnExists (name : Text)
  deriving DecidableEq, Repr

/-- The wording of a resolution error. -/
def ResolveFault.message : ResolveFault → Text
  | unqualifiedTable name => "tables must be specified as <schema>.<table>, got " ++ name
  | unknownTable name => "no such table " ++ name
  | unknownColumn name => "no such column " ++ name
  | unknownColumnOf column table => "no column " ++ column ++ " on table " ++ table
  | malformedColumn name =>
    "columns must be specified as <col> or <schema>.<table>.<col>, got " ++ name
  | rowNotLoaded row loaded =>
    "row index out of range: " ++ Text.ofNat row ++ " (loaded " ++ Text.ofNat loaded ++ ")"
  | nothingLoaded base => "rows of " ++ base.toText ++ " have not been loaded"
  | noConnection => "database ranges can only be aggregated with a connection"
  | misaligned condition values =>
    "condition range (" ++ condition ++ ") and value range (" ++ values ++ ") must be aligned"
  | mixedRanges function => "cannot combine database and sheet ranges in " ++ function
  | noColumnAt index => "no extra column at index " ++ Text.ofNat index
  | emptyColumnName => "column name may not be empty"
  | columnExists name => "column " ++ name ++ " already exists"

/-- Causes of refusals to build a statement. -/
inductive UnsafeFault where
  | emptyIdentifier
  | quoteInIdentifier (name : Text)
  | emptySegment (name : Text)
  | castType (type : Text)
  | qualifiedAlias (label : Text)
  | unknownOperator (operator : Text)
  | filterWithoutComparison (filter : Text)
  | filterWithoutOperand (filter : Text)
  | nothingSelected (table : TableName)
  | emptyJoin (table : TableName)
  | columnName (name : Text)
  | nothingToInsert (table : TableName)
  | nothingToUpdate (table : TableName)
  | noKey (table : TableName)
  | keyUpdated (column : Text)
  | noAggregate
  deriving DecidableEq, Repr

/-- The wording of a refusal to build a statement. -/
def UnsafeFault.message : UnsafeFault → Text
  | emptyIdentifier => "empty identifier"
  | quoteInIdentifier name => "identifier may not contain a quote: " ++ name
  | emptySegment name => "empty identifier segment in " ++ name
  | castType type => "cast to " ++ type ++ " is not allowed"
  | qualifiedAlias label => "alias may not be qualified: " ++ label
  | unknownOperator operator => "operator " ++ operator ++ " is not allowed"
  | filterWithoutComparison filter => "filter must start with a comparison: " ++ filter
  | filterWithoutOperand filter => "filter has no operand: " ++ filter
  | nothingSelected table => "no columns selected from " ++ table.toText
  | emptyJoin table => "join to " ++ table.toText ++ " has no columns"
  | columnName name => "invalid column name " ++ name.quoted
  | nothingToInsert table => "no values to insert into " ++ table.toText
  | nothingToUpdate table => "no values to update in " ++ table.toText
  | noKey table => "no key to update " ++ table.toText ++ " by"
  | keyUpdated column => "column " ++ column ++ " is both updated and used as a key"
  | noAggregate => "no aggregate requested"

/-- Causes of join graph errors. -/
inductive GraphFault where
  | joinGap (index joins : Nat)
  | keyNotAttached (id : ConstraintId)
  | alreadyJoined (table : TableName)
  /-- Tables on a cycle of dependencies or behind one. -/
  | cycle (tables : List TableName)
  deriving DecidableEq, Repr

/-- The wording of a join graph error. -/
def GraphFault.message : GraphFault → Text
  | joinGap index joins =>
    "join " ++ Text.ofNat index ++ " would leave a gap after " ++ Text.ofNat joins ++ " joins"
  | keyNotAttached id =>
    "foreign key " ++ Text.ofInt id ++ " is not attached to any table in the sheet"
  | alreadyJoined table => table.toText ++ " is already joined"
  | cycle tables => "cycle detected among " ++ Text.joined ", " (tables.map TableName.toText)

/-- Causes of write errors. -/
inductive WriteFault where
  | noRowReturned (table : TableName)
  | allEmpty
  | noKeyValues (table : TableName)
  deriving DecidableEq, Repr

/-- The wording of a write error. -/
def WriteFault.message : WriteFault → Text
  | noRowReturned table => "insert into " ++ table.toText ++ " returned no row"
  | allEmpty => "all fields are empty"
  | noKeyValues table => "no primary key values for " ++ table.toText

/-- Causes of internal errors. -/
inductive InternalFault where
  | missingField (index : Nat)
  | unexpectedFlag (flag : Text)
  | expectedInteger (text : Text)
  | unknownEndpoint (key : ForeignKey) (table : TableName)
  | keyDoesNotTouch (key : ForeignKey) (table : TableName)
  | noAggregateRow (function : Text)
  | aggregateWidth (function : Text) (columns : Nat)
  deriving DecidableEq, Repr

/-- The wording of an internal error. -/
def InternalFault.message : InternalFault → Text
  | missingField index => "catalog row is missing field " ++ Text.ofNat index
  | unexpectedFlag flag => "unexpected catalog flag " ++ flag
  | expectedInteger text => "expected an integer in the catalog, got " ++ text
  | unknownEndpoint key table =>
    "foreign key " ++ key.toText ++ " references unknown table " ++ table.toText
  | keyDoesNotTouch key table =>
    "foreign key " ++ key.toText ++ " does not touch " ++ table.toText
  | noAggregateRow function => function ++ " returned no row"
  | aggregateWidth function columns =>
    function ++ " returned " ++ Text.ofNat columns ++ " columns"

/-! ## Errors and their reports -/

/-- A failure by its cause. -/
inductive Error where
  | parse (fault : ParseFault)
  | eval (fault : EvalFault)
  | resolve (fault : ResolveFault)
  | unsafeSql (fault : UnsafeFault)
  | graph (fault : GraphFault)
  | write (fault : WriteFault)
  | internal (fault : InternalFault)
  /-- What the database says about its own failure. -/
  | database (message : Text)
  /-- An error and the place where it arose. -/
  | within (place : Text) (error : Error)
  deriving DecidableEq, Repr

/-- The kind of an error with its wording. -/
structure Report where
  kind : ErrorKind
  message : Text
  deriving DecidableEq, Repr

namespace Report

/-- The report of the same failure with the place where it arose in front. -/
def within (place : Text) (r : Report) : Report := { r with message := place ++ ": " ++ r.message }

/-- The kind, a colon, and the message. -/
def toText (r : Report) : Text := r.kind.toText ++ ": " ++ r.message

end Report

namespace Error

/-- The kind and the wording of an error. -/
def report : Error → Report
  | parse fault => ⟨.parse, fault.message⟩
  | eval fault => ⟨.evaluation, fault.message⟩
  | resolve fault => ⟨.resolution, fault.message⟩
  | unsafeSql fault => ⟨.unsafeSql, fault.message⟩
  | graph fault => ⟨.graph, fault.message⟩
  | write fault => ⟨.write, fault.message⟩
  | internal fault => ⟨.internal, fault.message⟩
  | database message => ⟨.database, message⟩
  | within place error => error.report.within place

/-- The class of an error. -/
def kind (e : Error) : ErrorKind := e.report.kind

end Error

end JoinSheet
