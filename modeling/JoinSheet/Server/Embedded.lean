import JoinSheet.Database.Dialogue
import JoinSheet.Number.Writing
import JoinSheet.Sql.Aggregate
import JoinSheet.Value

/-!
# Embedded databases

An embedded database knows its tables by their declarations. It has no numbers for constraints, so a
foreign key is numbered by a hash of its table and of its place among the table's keys. The tables
here are empty: a selection yields no rows, and an aggregate what it yields over none.

This is the outermost layer: nothing of a sheet depends on it, and sheets meet it only as a `Server`
like any other.

## Main definitions

* `TableDeclaration`, `Embedded` — declared tables and the database of them.
* `Hash.ofText`, `Embedded.constraintId` — the numbers of constraints.
* `Embedded.keys` — all declared keys with their numbers.
* `Embedded.server` — the database.
* `StoredValue.toText`, `StoredValue.product` — what is read back from stored values.
-/

namespace JoinSheet

/-! ## Declarations -/

/-- A column as it is declared. -/
structure ColumnDeclaration where
  name : Text
  type : Text
  notNull : Bool
  deriving DecidableEq, Repr

/-- A foreign key as it is declared. Without target columns it references the primary key. -/
structure KeyDeclaration where
  sourceColumns : List Text
  target : Text
  targetColumns : Option (List Text)
  deriving DecidableEq, Repr

/-- A table as it is declared. -/
structure TableDeclaration where
  name : TableName
  columns : List ColumnDeclaration
  primaryKey : List Text
  keys : List KeyDeclaration
  deriving DecidableEq, Repr

namespace TableDeclaration

/-- The columns as the catalog describes them. Those of the primary key are not nullable. -/
def toColumns (t : TableDeclaration) : List Column :=
  t.columns.mapIdx fun i c =>
    { name := c.name
      nullable := !c.notNull && !t.primaryKey.contains c.name
      dataType := c.type
      primaryKey := t.primaryKey.contains c.name
      position := i + 1 }

end TableDeclaration

/-! ## Numbers of constraints -/

namespace Hash

/-- A hash with one more word. -/
def addWord (h word : UInt64) : UInt64 :=
  (((h <<< 5) ||| (h >>> 59)) ^^^ word) * 0x517cc1b727220a95

/-- The word whose bytes are given, the lowest first. -/
def word (bytes : List UInt8) : UInt64 :=
  bytes.foldr (fun b w => w * 256 + b.toUInt64) 0

/-- A hash with bytes after whole words of eight: one word of four, one of two and one of one byte, as
far as there are bytes for them. -/
def addTail (h : UInt64) (bytes : List UInt8) : UInt64 :=
  let add (n : Nat) (state : UInt64 × List UInt8) : UInt64 × List UInt8 :=
    if n ≤ state.2.length then (addWord state.1 (word (state.2.take n)), state.2.drop n) else state
  (add 1 (add 2 (add 4 (h, bytes)))).1

/-- A hash with bytes, taken in words of eight. -/
def addBytes (h : UInt64) (bytes : List UInt8) : UInt64 :=
  if _h : 8 ≤ bytes.length then addBytes (addWord h (word (bytes.take 8))) (bytes.drop 8)
  else addTail h bytes
termination_by bytes.length
decreasing_by simp only [List.length_drop]; omega

/-- A hash with a text that is present: two marks of presence, the bytes, and a mark of the end. -/
def addText (h : UInt64) (t : Text) : UInt64 :=
  addWord (addBytes (addWord (addWord h 1) 1) (t.flatMap String.utf8EncodeChar)) 0xff

end Hash

/-- A database of declared tables. -/
structure Embedded where
  tables : List TableDeclaration

namespace Embedded

/-- The number of the key at a place among those of a table. -/
def constraintId (t : TableName) (place : Nat) : ConstraintId :=
  let h := Hash.addWord (Hash.addText (Hash.addText 0 t.schema) t.table) place.toUInt64
  (h >>> 1).toNat

/-! ## Keys -/

/-- The primary key of a table. Names of tables are found in any letter case. -/
def primaryKeyOf (db : Embedded) (t : TableName) : List Text :=
  let declared := db.tables.find? fun d =>
    d.name.schema == t.schema && d.name.table.eqIgnoringCase t.table
  (declared.map TableDeclaration.primaryKey).getD []

/-- A declared key, whose target lies in the schema of its table. -/
def toKey (db : Embedded) (t : TableName) (k : KeyDeclaration) : ForeignKey :=
  let target : TableName := ⟨t.schema, k.target⟩
  ⟨t, target, k.sourceColumns, k.targetColumns.getD (db.primaryKeyOf target)⟩

/-- The keys of a declared table with their numbers, which count from the key declared last. -/
def keysDeclaredBy (db : Embedded) (d : TableDeclaration) : List (ConstraintId × ForeignKey) :=
  d.keys.reverse.mapIdx fun place k => (constraintId d.name place, db.toKey d.name k)

/-- The keys that any table declares, with their numbers. -/
def keys (db : Embedded) : List (ConstraintId × ForeignKey) := db.tables.flatMap db.keysDeclaredBy

/-- The keys declared in the schema of a table by it or for it, in the order of their tables. -/
def keysOf (db : Embedded) (t : TableName) : List (ConstraintId × ForeignKey) :=
  let neighbours := (db.tables.filter fun d => d.name.schema == t.schema).mergeSort fun a b =>
    (compare a.name b.name).isLE
  (neighbours.flatMap db.keysDeclaredBy).filter fun (_, key) => key.touches t

/-! ## Statements over empty tables -/

/-- What an aggregate yields over no rows. -/
def valueOverNothing : Aggregate → Value
  | .count | .rows => some "0"
  | .sum | .max | .min | .product => none

/-- All aggregates. -/
def aggregates : List Aggregate := [.sum, .max, .min, .product, .count, .rows]

/-- The aggregate that starts a text, and the text after it. -/
def readAggregate? (t : Text) : Option (Aggregate × Text) :=
  aggregates.findSome? fun a => (Text.dropStart? (a.render .sqlite) t).map fun rest => (a, rest)

/-- The aggregates at the start of a text with a comma between each two. At most `fuel` are read. -/
def readAggregates : Nat → Text → List Aggregate
  | 0, _ => []
  | fuel + 1, t =>
    match readAggregate? t with
    | none => []
    | some (a, rest) => a :: ((Text.dropStart? ", " rest).map (readAggregates fuel)).getD []

/-- The rows that a statement yields over empty tables: one for aggregates, and otherwise none. -/
def rowsOverNothing (sql : Text) : List Row :=
  match ((Text.dropStart? "SELECT " sql).map (readAggregates sql.length)).getD [] with
  | [] => []
  | found => [found.map valueOverNothing]

/-- The failure of a statement with an aggregate that has not been installed. -/
def missingProduct : Error := .database "no such function: mul"

/-- Whether a statement multiplies. -/
def multiplies (sql : Text) : Bool :=
  (((Text.dropStart? "SELECT " sql).map (readAggregates sql.length)).getD []).contains .product

/-- The database. Its state is whether the aggregate that multiplies is installed. -/
def server (db : Embedded) : Server Bool
  | .listTables, s => (.ok (db.tables.map TableDeclaration.name), s)
  | .loadColumns t, s =>
    (.ok (((db.tables.find? fun d => d.name = t).map TableDeclaration.toColumns).getD []), s)
  | .loadForeignKeys t, s => (.ok (db.keysOf t), s)
  | .installAggregates, _ => (.ok (), true)
  | .query sql _, s =>
    (if multiplies sql && !s then .error missingProduct else .ok (rowsOverNothing sql), s)
  | .execute .., s => (.ok (0 : Nat), s)
  | .begin, s | .commit, s | .rollback, s => (.ok (), s)

end Embedded

/-! ## Stored values -/

/-- A value as the database stores it. -/
inductive StoredValue where
  | null
  | integer (n : Int)
  | real (x : Float)
  | text (t : Text)
  | blob (bytes : List UInt8)

namespace StoredValue

/-- The class of the bytes that may follow the first byte of a character: how many there are and the
bounds of the next one. -/
def lead? (b : UInt8) : Option (Nat × UInt8 × UInt8) :=
  if b < 0x80 then some (0, 0x80, 0xbf)
  else if b < 0xc2 then none
  else if b < 0xe0 then some (1, 0x80, 0xbf)
  else if b < 0xf0 then some (2, if b = 0xe0 then 0xa0 else 0x80, if b = 0xed then 0x9f else 0xbf)
  else if b < 0xf5 then some (3, if b = 0xf0 then 0x90 else 0x80, if b = 0xf4 then 0x8f else 0xbf)
  else none

/-- A character of which some bytes are read: their bits, how many bytes are missing, and the bounds
of the next one. -/
structure Unfinished where
  bits : Nat
  missing : Nat
  low : UInt8 := 0x80
  high : UInt8 := 0xbf

/-- The character that stands for bytes that are no character. -/
def replacement : Char := '\ufffd'

/-- The characters that a first byte finishes, and what it starts. -/
def startByte (b : UInt8) : Text × Option Unfinished :=
  match lead? b with
  | none => ([replacement], none)
  | some (0, _, _) => ([Char.ofNat b.toNat], none)
  | some (n, low, high) => ([], some ⟨b.toNat % Nat.pow 2 (6 - n), n, low, high⟩)

/-- The text of bytes after those of an unfinished character. Every longest run of bytes that starts no
character is replaced. -/
def decodeFrom (unfinished : Option Unfinished) : List UInt8 → Text
  | [] => if unfinished.isSome then [replacement] else []
  | b :: rest =>
    let (done, next) : Text × Option Unfinished :=
      match unfinished with
      | none => startByte b
      | some p =>
        if p.low ≤ b ∧ b ≤ p.high then
          let bits := 64 * p.bits + b.toNat % 64
          if p.missing = 1 then ([Char.ofNat bits], none) else ([], some ⟨bits, p.missing - 1, 0x80, 0xbf⟩)
        else (replacement :: (startByte b).1, (startByte b).2)
    done ++ decodeFrom next rest

/-- The text that bytes encode. -/
def decode (bytes : List UInt8) : Text := decodeFrom none bytes

/-- A value as it is read back. -/
def toText : StoredValue → Value
  | null => none
  | integer n => some (Text.ofInt n)
  | real x => some (Number.signed x)
  | text t => some t
  | blob bytes => some (decode bytes)

/-- The number that a value is for an aggregate, if it has one. -/
def factor : StoredValue → Except Error (Option Float)
  | null => .ok none
  | integer n => .ok (some (Float.ofInt n))
  | real x => .ok (some x)
  | text _ => .error (.database "Invalid function parameter type Text at index 0")
  | blob _ => .error (.database "Invalid function parameter type Blob at index 0")

/-- The product of those values that have a number, read back. Without any there is none, and a
product that is not a number is stored as NULL. -/
def product (values : List StoredValue) : Except Error Value := do
  let factors ← values.mapM factor
  return match factors.reduceOption with
    | [] => none
    | factors =>
      let x := factors.foldl (· * ·) 1.0
      if x.isNaN then none else some (Number.signed x)

end StoredValue

end JoinSheet
