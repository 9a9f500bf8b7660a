import CrossFilter.Text.Blank

/-!
# Column types

The service reports every column with a native type tag, whose spellings differ from one data frame
library to the next. A tag stands for one of seven column types, which decide what charts and pivot
tables can do with the column. Tags are compared without surrounding blanks and letter case. A tag
outside the table is judged by how it starts, then by what it holds, and is text in the last resort.
-/

namespace CrossFilter

inductive ColumnType where
  | integer
  | decimal
  | text
  | date
  | dateTime
  | boolean
  | unknown
  deriving DecidableEq, Repr

namespace ColumnType

def all : List ColumnType := [integer, decimal, text, date, dateTime, boolean, unknown]

def name : ColumnType → String
  | .integer => "Integer"
  | .decimal => "Decimal"
  | .text => "Text"
  | .date => "Date"
  | .dateTime => "DateTime"
  | .boolean => "Boolean"
  | .unknown => "Unknown"

/-- The tags with a type of their own. -/
def table : List (List String × ColumnType) :=
  [(["int8", "int16", "int32", "int64", "uint8", "uint16", "uint32", "uint64", "integer", "int"],
      integer),
   (["float32", "float64", "numeric", "decimal", "float"], decimal),
   (["string", "utf8", "str", "object", "categorical", "category", "text"], text),
   (["date"], date),
   (["datetime", "timestamp"], dateTime),
   (["boolean", "bool"], boolean),
   (["null", "unknown"], unknown)]

def tabled? (word : String) : Option ColumnType :=
  (table.find? fun row => row.1.contains word).map (·.2)

/-- The type of a tag outside the table. A parameter behind the name of a type does not matter. -/
def guess (word : String) : ColumnType :=
  if Text.startsWith "datetime" word || Text.startsWith "timestamp" word then .dateTime
  else if Text.startsWith "decimal" word then .decimal
  else if Text.holds "int" word then .integer
  else if Text.holds "float" word || Text.holds "decimal" word || Text.holds "num" word then .decimal
  else .text

def ofTag (tag : String) : ColumnType :=
  let word := Text.word tag
  (tabled? word).getD (guess word)

def isNumeric : ColumnType → Bool
  | .integer | .decimal => true
  | _ => false

/-- Types whose values are taken one by one, as categories. -/
def isCategorical : ColumnType → Bool
  | .text | .date | .dateTime | .boolean => true
  | _ => false

end ColumnType

end CrossFilter
