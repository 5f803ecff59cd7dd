import MiniGrc.App.PolicyStorage

/-!
# Reading CSV files

`csv.DictReader` as the importers use it: it reads the line of the column names when they are
asked for, and each row when the loop over the rows comes to it.
-/

namespace MiniGrc

/-- A row, as `row.get` sees it: the value of each column, if it has one. -/
abbrev CsvRow := String → Option String

/-- `csv.DictReader` on a text. -/
structure CsvReader where
  /-- the names of the columns, or the text of the `csv.Error` that reading them raises -/
  fieldnames : Except String (List String)
  /-- the rows that the reader yields -/
  rows : List CsvRow
  /-- the text of the `csv.Error` that then ends the loop, if the file does not end there -/
  failure : Option String

namespace CsvReader

/-- The rows with their line numbers, `enumerate(reader, start=2)`. -/
def lines (reader : CsvReader) : List (Nat × CsvRow) := (reader.rows.zipIdx 2).map Prod.swap

/-- The required columns that the file does not have, in the given order. -/
def missing (required fieldnames : List String) : List String :=
  required.filter fun column => column ∉ fieldnames

/-! ## Plain files -/

/-- The text of the `csv.Error` for a carriage return within a line. -/
def newLineError : String :=
  "new-line character seen in unquoted field - do you need to open the file with newline=''?"

/-- `csv.DictReader` on the ASCII text of a file without quotes. -/
def plain (rawBytes : List UInt8) : CsvReader :=
  let lines := ((rawBytes.map fun b => Char.ofNat b.toNat).splitOn '\n').filter (· ≠ [])
  let whole := lines.takeWhile fun line => !line.dropLast.contains '\r'
  let cells := whole.map fun line =>
    ((line.filter (· ≠ '\r')).splitOn ',').map String.ofList
  let failure := if whole.length < lines.length then some newLineError else none
  { fieldnames :=
      match cells, failure with
      | [], some message => .error message
      | [], none => .ok []
      | fieldnames :: _, _ => .ok fieldnames
    rows := cells.tail.map fun values column => ((cells.headD []).zip values).lookup column
    failure := failure }

/-- The bytes of an ASCII text. -/
def ascii (text : String) : List UInt8 := text.toList.map fun c => UInt8.ofNat c.toNat

end CsvReader
end MiniGrc
