import NaturalKey.Text

/-!
CSV: a text is split into rows of fields, one byte after another. The first row names the columns of
the rows after it. White space around names and fields does not count.
-/

set_option autoImplicit false

namespace NaturalKey.Csv

/-! ### Faults

What can be wrong with a row. The place is that of the row, counted from where the row before it
ended.
-/

/-- Where a record starts: how many records, line breaks and bytes come before it, the lines being
counted from 1. -/
structure Place where
  record : Nat
  line : Nat
  byte : Nat
deriving DecidableEq, Repr

def Place.start : Place := ⟨0, 1, 0⟩

inductive Fault where
  /-- A field is not UTF-8 after its first `validLength` bytes. -/
  | notUtf8 (place : Place) (field validLength : Nat)
  | endOfRow (place : Place)
  | repeatedColumn (place : Place) (name : String)
  | missingColumn (place : Place) (name : String)
  | tooFewFields (place : Place) (count : Nat)
deriving DecidableEq, Repr

def misfitText (place : Place) (text : String) : String :=
  "CSV deserialize error: record " ++ toString place.record ++ " (line: " ++
    toString place.line ++ ", byte: " ++ toString place.byte ++ "): " ++ text

def Fault.text : Fault → String
  | .notUtf8 place field validLength =>
    "CSV parse error: record " ++ toString place.record ++ " (line " ++ toString place.line ++
      ", field: " ++ toString field ++ ", byte: " ++ toString place.byte ++
      "): invalid utf-8: invalid UTF-8 in field " ++ toString field ++ " near byte index " ++
      toString validLength
  | .endOfRow place => misfitText place "expected field, but got end of row"
  | .repeatedColumn place name => misfitText place ("duplicate field `" ++ name ++ "`")
  | .missingColumn place name => misfitText place ("missing field `" ++ name ++ "`")
  | .tooFewFields place count =>
    misfitText place
      ("invalid length " ++ toString count ++ ", expected struct SeedRow with 5 elements")

/-! ### Rows

Commas part fields and line ends part rows; between two quotes both are text, and so is a quote
written twice. Empty lines are no rows, and a text without a line break at its end still ends its
last row.
-/

/-- The bytes of the fields of a row, and where the row starts. -/
structure Row where
  place : Place
  fields : List (List UInt8)
deriving DecidableEq, Repr

/-- What the next byte belongs to. -/
inductive Mode where
  | rowStart
  | fieldStart
  | plain
  | quoted
  /-- A quote inside quotes has been read: it ends them, or a second one follows. -/
  | quoteRead
deriving DecidableEq, Repr

/-- How far a text has been read. Fields and bytes stand with the last one first. -/
structure Reading where
  mode : Mode
  field : List UInt8
  fields : List (List UInt8)
  start : Place
  here : Place

namespace Reading

def before (place : Place) : Reading :=
  ⟨.rowStart, [], [], place, place⟩

def row (reading : Reading) : Row :=
  ⟨reading.start, (reading.field.reverse :: reading.fields).reverse⟩

def endField (reading : Reading) : Reading :=
  let fields := reading.field.reverse :: reading.fields
  { reading with mode := .fieldStart, field := [], fields }

def take (reading : Reading) (mode : Mode) (b : UInt8) : Reading :=
  { reading with mode, field := b :: reading.field }

/-- The reading after a row: the next one starts right here. -/
def endRow (reading : Reading) : Reading :=
  .before { reading.here with record := reading.here.record + 1 }

def isLineEnd (b : UInt8) : Bool :=
  b == 0x0A || b == 0x0D

/-- What a byte does outside quotes: it ends the field, ends the row, or belongs to the field. -/
def unquoted (reading : Reading) (b : UInt8) : Option Row × Reading :=
  if b = 0x2C then (none, reading.endField)
  else if isLineEnd b then (some reading.row, reading.endRow)
  else (none, reading.take .plain b)

def advance (reading : Reading) (b : UInt8) : Reading :=
  let here := reading.here
  let line := if b = 0x0A then here.line + 1 else here.line
  { reading with here := ⟨here.record, line, here.byte + 1⟩ }

/-- Reads a byte, which may end a row. A quote opens quotes only where a field starts. -/
def step (reading : Reading) (b : UInt8) : Option Row × Reading :=
  let reading := reading.advance b
  match reading.mode with
  | .rowStart =>
    if isLineEnd b then (none, reading)
    else if b = 0x22 then (none, { reading with mode := .quoted })
    else reading.unquoted b
  | .fieldStart =>
    if b = 0x22 then (none, { reading with mode := .quoted }) else reading.unquoted b
  | .plain => reading.unquoted b
  | .quoted =>
    if b = 0x22 then (none, { reading with mode := .quoteRead }) else (none, reading.take .quoted b)
  | .quoteRead => if b = 0x22 then (none, reading.take .quoted b) else reading.unquoted b

def rows (reading : Reading) : List UInt8 → List Row
  | [] => if reading.mode = .rowStart then [] else [reading.row]
  | b :: rest =>
    match reading.step b with
    | (none, next) => next.rows rest
    | (some row, next) => row :: next.rows rest

end Reading

/-- The rows of a text. A byte order mark before them is passed over, but counted. -/
def rowsOf : List UInt8 → List Row
  | 0xEF :: 0xBB :: 0xBF :: rest => (Reading.before { Place.start with byte := 3 }).rows rest
  | text => (Reading.before Place.start).rows text

/-! ### Tables -/

def isAsciiSpace (b : UInt8) : Bool :=
  b == 0x20 || b == 0x09 || b == 0x0A || b == 0x0C || b == 0x0D

/-- The bytes without the ASCII white space at their ends. -/
def trimBytes (bytes : List UInt8) : List UInt8 :=
  ((bytes.dropWhile isAsciiSpace).reverse.dropWhile isAsciiSpace).reverse

/-- The names of the columns. There are none unless all of the first row is UTF-8. -/
def Row.names? (row : Row) : Option (List String) :=
  row.fields.mapM fun field => (Utf8.decode? field).map Text.trim

/-- The texts of the fields; `index` is the number of the first of them. -/
def Row.textsFrom (row : Row) (index : Nat) : List (List UInt8) → Except Fault (List String)
  | [] => .ok []
  | field :: rest =>
    let bytes := trimBytes field
    match Utf8.decode? bytes with
    | none => .error (.notUtf8 row.place index (Utf8.validLength bytes))
    | some text =>
      match row.textsFrom (index + 1) rest with
      | .ok texts => .ok (Text.trim text :: texts)
      | .error fault => .error fault

def Row.texts (row : Row) : Except Fault (List String) :=
  row.textsFrom 0 row.fields

/-- The names of the columns, if they can be read, and the rows below them. -/
structure Table where
  names? : Option (List String)
  rows : List Row

def Table.ofText (text : List UInt8) : Table :=
  match rowsOf text with
  | [] => ⟨some [], []⟩
  | header :: rest => ⟨header.names?, rest⟩

end NaturalKey.Csv
