import TableVerbs.Csv.Record
import TableVerbs.Csv.Typing
import TableVerbs.Table.Basic

/-!
# Tables as files of records

The first record of a file names the columns, and every other one is a row with
as many fields. Reading stops at the first record with a fault: another number
of fields, which is looked at first, or a field that is not text. A mark of byte
order at the start of a file is no part of it.

Writing gives the names and then every row with the texts of its cells. Types
and labels are not written; reading finds the types again as far as the texts
show them, and labels the rows from 0.
-/

namespace TableVerbs.Csv

open Text (Glyph)

/-- The mark of byte order. -/
def byteOrderMark : Char := '\ufeff'

/-- A file without the mark at its start. -/
def withoutMark : List Glyph → List Glyph
  | some c :: rest => if c = byteOrderMark then rest else some c :: rest
  | cs => cs

/-- The fields of a record as texts. -/
def fieldTexts (record : List (List Glyph)) : Except Error (List String) :=
  record.mapM fun field =>
    match field.mapM id with
    | some cs => .ok (String.ofList cs)
    | none => .error .notUnicode

/-- The rows of a file whose first record has `width` fields. -/
def readRows (width : Nat) (records : List (List (List Glyph))) :
    Except Error (List (List String)) :=
  records.mapM fun record =>
    if record.length ≠ width then .error (.recordLength width record.length)
    else fieldTexts record

/-- The fields at one position of every row. -/
def fieldsAt (rows : List (List String)) (position : Nat) : List String :=
  rows.filterMap fun row => row[position]?

/-- A table of names and rows of fields. -/
def toTable (names : List String) (rows : List (List String)) : Except Error Table :=
  Table.ofColumns (names.zipIdx.map fun (name, i) => (name, typed (fieldsAt rows i)))

/-- Reads the table of a file. -/
def read (file : List Glyph) : Except Error Table :=
  match readRecords (withoutMark file) with
  | [] => toTable [] []
  | header :: records =>
    match fieldTexts header with
    | .error e => .error e
    | .ok names =>
      match readRows header.length records with
      | .error e => .error e
      | .ok rows => toTable names rows

/-- Reads the table of a text. -/
def readText (text : String) : Except Error Table := read (Text.glyphs text)

/-- Reads the table of a file's bytes; `none` stands for a file that cannot be
opened. -/
def readBytes (bytes : Option (List UInt8)) : Except Error Table :=
  match bytes with
  | some bytes => read (Text.decode bytes)
  | none => .error .notOpened

/-- The rows of a table as texts. -/
def rowTexts (t : Table) : List (List String) :=
  let cells := t.columns.map fun c => c.2.cells
  (List.range t.rows).map fun row =>
    cells.map fun cs => ((cs[row]?).map Cell.text).getD ""

/-- The text of a table. -/
def write (t : Table) : String :=
  String.ofList (writeRecords ((t.names :: rowTexts t).map fun record => record.map String.toList))

/-- Writes a table to a file, if the file can be opened. -/
def writeTo (opened : Bool) (t : Table) : Except Error String :=
  if opened then .ok (write t) else .error .notOpened

end TableVerbs.Csv
