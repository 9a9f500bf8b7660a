import CrossFilter.Pivot.Request

/-!
# Pivot assignments

Columns are put into the three zones of a pivot table. An assignment is one list of columns with
their placements, in the order they were placed, and a column stands in it at most once; so no
column is in two zones, and moving one takes it out of its old place first. Whether the aggregators
suit the columns is only checked when a request is made of the assignment, and so is, once more,
that no column stands in it twice.
-/

namespace CrossFilter.Pivot

inductive Zone where
  | rows
  | columns
  | values
  deriving DecidableEq, Repr

def Zone.all : List Zone := [rows, columns, values]

def Zone.name : Zone → String
  | .rows => "rows"
  | .columns => "columns"
  | .values => "values"

/-- A zone, with the aggregator where it is the values zone. -/
inductive Placement where
  | rows
  | columns
  | values (aggregator : Aggregator)
  deriving DecidableEq, Repr

namespace Placement

def zone : Placement → Zone
  | .rows => .rows
  | .columns => .columns
  | .values _ => .values

def aggregator? : Placement → Option Aggregator
  | .values a => some a
  | _ => none

/-- How a column enters a zone: values start with `sum`. -/
def entering : Zone → Placement
  | .rows => .rows
  | .columns => .columns
  | .values => .values .sum

end Placement

structure Assignment where
  fields : List (String × Placement)
  distinct : (fields.map (·.1)).Nodup
  deriving DecidableEq, Repr

namespace Assignment

def empty : Assignment := ⟨[], by simp⟩

def placement? (a : Assignment) (column : String) : Option Placement :=
  (a.fields.find? fun f => f.1 == column).map (·.2)

def zoneOf? (a : Assignment) (column : String) : Option Zone :=
  (a.placement? column).map Placement.zone

def aggregatorOf? (a : Assignment) (column : String) : Option Aggregator :=
  (a.placement? column).bind Placement.aggregator?

def isAssigned (a : Assignment) (column : String) : Bool := (a.placement? column).isSome

def isEmpty (a : Assignment) : Bool := a.fields.isEmpty

/-- The assignment of the columns that satisfy a condition. -/
def restrict (a : Assignment) (keep : String → Bool) : Assignment :=
  ⟨a.fields.filter fun f => keep f.1, a.distinct.sublist (List.filter_sublist.map _)⟩

/-- Moves a column to the end of a zone, out of wherever it was. -/
def assign (a : Assignment) (column : String) (zone : Zone) : Assignment where
  fields := (a.restrict (· != column)).fields ++ [(column, .entering zone)]
  distinct := by
    rw [List.map_append, List.map_singleton, List.nodup_append]
    refine ⟨(a.restrict _).distinct, by simp, ?_⟩
    intro c hc d hd
    obtain ⟨f, hf, rfl⟩ := List.mem_map.1 hc
    simp only [restrict, List.mem_filter, bne_iff_ne] at hf
    rw [List.mem_singleton.1 hd]
    exact hf.2

/-- Takes a column out, and says whether it was assigned. -/
def unassign (a : Assignment) (column : String) : Bool × Assignment :=
  (a.isAssigned column, a.restrict (· != column))

/-- The fields with another placement for one column. -/
def replaced (column : String) (p : Placement) (fields : List (String × Placement)) :
    List (String × Placement) :=
  fields.map fun f => if f.1 = column then (f.1, p) else f

theorem map_fst_replaced (column : String) (p : Placement) (fields : List (String × Placement)) :
    (replaced column p fields).map (·.1) = fields.map (·.1) := by
  simp only [replaced, List.map_map]
  refine List.map_congr_left fun f _ => ?_
  simp only [Function.comp_apply]
  split <;> rfl

/-- Changes the aggregator of a column in the values zone, which keeps its place. -/
def setAggregator (a : Assignment) (column : String) (aggregator : Aggregator) :
    Except Rejection Unit × Assignment :=
  if (a.aggregatorOf? column).isSome then
    (.ok (), ⟨replaced column (.values aggregator) a.fields,
      by rw [map_fst_replaced]; exact a.distinct⟩)
  else (.error (.notAValueField column), a)

/-- Where a column goes that is not told where to go: categories make rows. -/
def naturalZone (type : ColumnType) : Zone := if type.isCategorical then .rows else .values

/-- Takes an assigned column out, and assigns any other to its natural zone, which is returned. -/
def toggle (a : Assignment) (column : String) (type : ColumnType) : Option Zone × Assignment :=
  if a.isAssigned column then (none, a.restrict (· != column))
  else (some (naturalZone type), a.assign column (naturalZone type))

/-- The columns of a zone, in the order they were placed. -/
def inZone (a : Assignment) (zone : Zone) : List String :=
  (a.fields.filter fun f => f.2.zone = zone).map (·.1)

def rows (a : Assignment) : List String := a.inZone .rows

def columns (a : Assignment) : List String := a.inZone .columns

def values (a : Assignment) : List ValueField :=
  a.fields.filterMap fun f => f.2.aggregator?.map fun aggregator => ⟨f.1, aggregator⟩

/-- The assigned columns that a catalog does not know, in order. -/
def dangling (a : Assignment) (catalog : Catalog) : List String :=
  (a.fields.map (·.1)).filter fun c => !catalog.contains c

/-- Keeps the columns of the catalog. -/
def prune (a : Assignment) (catalog : Catalog) : Assignment := a.restrict catalog.contains

/-- The value columns that cannot be aggregated as they are: only numbers can, unless they are
just counted. -/
def misfits (a : Assignment) (catalog : Catalog) : List String :=
  (a.values.filter fun v => !catalog.isNumeric v.column && v.aggregator != .count).map
    ValueField.column

/-- The first column that has been seen before, where `seen` are those in front of the list. -/
def repeated? (seen : List String) : List String → Option String
  | [] => none
  | c :: cs => if c ∈ seen then some c else repeated? (c :: seen) cs

theorem repeated?_eq_none_iff {cs seen : List String} :
    repeated? seen cs = none ↔ cs.Nodup ∧ ∀ c ∈ cs, c ∉ seen := by
  induction cs generalizing seen with
  | nil => simp [repeated?]
  | cons c cs ih =>
    by_cases hc : c ∈ seen
    · simp [repeated?, hc]
    · simp only [repeated?, hc, if_false, ih, List.nodup_cons, List.mem_cons, not_or]
      grind

/-- The request of an assignment. The first of its faults is reported. -/
def request (a : Assignment) (filters : Filters) (catalog : Catalog) : Except Rejection Request :=
  if a.rows.isEmpty then .error .rowsRequired
  else if a.values.isEmpty then .error .valuesRequired
  else if !(a.misfits catalog).isEmpty then .error (.nonNumericValues (a.misfits catalog))
  else match repeated? [] (a.rows ++ a.columns ++ a.values.map ValueField.column) with
    | some column => .error (.duplicateField column)
    | none => .ok { rows := a.rows, columns := a.columns, values := a.values, filters }

/-- A request is made of an assignment without faults, and holds all of it. -/
theorem request_ok {a : Assignment} {filters : Filters} {catalog : Catalog} {q : Request}
    (h : a.request filters catalog = .ok q) :
    a.rows ≠ [] ∧ a.values ≠ [] ∧ a.misfits catalog = [] ∧
      q = { rows := a.rows, columns := a.columns, values := a.values, filters } := by
  unfold request at h
  by_cases hrows : a.rows = []
  · simp [hrows] at h
  · by_cases hvalues : a.values = []
    · simp [hrows, hvalues] at h
    · by_cases hmisfits : a.misfits catalog = []
      · simp only [hrows, hvalues, hmisfits, List.isEmpty_iff, List.isEmpty_nil, Bool.not_true,
          Bool.false_eq_true, if_false] at h
        split at h
        · cases h
        · cases h
          exact ⟨hrows, hvalues, hmisfits, rfl⟩
      · simp [hrows, hvalues, hmisfits] at h

end Assignment

end CrossFilter.Pivot
