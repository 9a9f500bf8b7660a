import CrossFilter.Column.Kind
import CrossFilter.Failure

/-!
# Chart kinds

Six kinds of chart, and which of them make sense for the types of the X and Y column. Without a Y
column the service counts the rows of each X value. `Kind.valid` lists the kinds in the order of
`Kind.all`, whose first valid member replaces a kind that has become invalid.

`Kind.bar_mem_valid` says that a bar chart is valid wherever any chart is.
-/

namespace CrossFilter.Chart

inductive Kind where
  | bar
  | line
  | pie
  | area
  | scatter
  | boxplot
  deriving DecidableEq, Repr

namespace Kind

def all : List Kind := [bar, line, pie, area, scatter, boxplot]

def name : Kind → String
  | .bar => "bar"
  | .line => "line"
  | .pie => "pie"
  | .area => "area"
  | .scatter => "scatter"
  | .boxplot => "boxplot"

/-- The kind of a name, in any letter case and with any blanks around it. -/
def ofName (s : String) : Except UnknownName Kind :=
  match all.find? fun k => k.name == Text.word s with
  | some k => .ok k
  | none => .error ⟨"chart kind", s⟩

/-- Whether a click on an element of the chart names a category to filter on. -/
def isClickable : Kind → Bool
  | .bar | .pie => true
  | _ => false

/-- Whether a kind makes sense for an X column and, if there is one, a Y column of these types. -/
def suits (x : ColumnType) (y : Option ColumnType) : Kind → Bool
  | .bar | .line | .area => y.all ColumnType.isNumeric
  | .pie => x.isCategorical && y.all ColumnType.isNumeric
  | .scatter => x.isNumeric && y.any ColumnType.isNumeric
  | .boxplot => x.isCategorical && y.any ColumnType.isNumeric

/-- The kinds that make sense; none does without an X column. -/
def valid (x y : Option ColumnType) : List Kind :=
  match x with
  | none => []
  | some x => all.filter (suits x y)

/-- A bar chart suits whatever columns any chart suits. -/
theorem bar_mem_valid {x y : Option ColumnType} {kind : Kind} (h : kind ∈ valid x y) :
    .bar ∈ valid x y := by
  cases x with
  | none => cases h
  | some x =>
    simp only [valid, List.mem_filter] at h ⊢
    refine ⟨by decide, ?_⟩
    have hsuits := h.2
    cases kind with
    | bar | line | area => exact hsuits
    | pie =>
      simp only [suits, Bool.and_eq_true] at hsuits
      exact hsuits.2
    | scatter | boxplot =>
      simp only [suits, Bool.and_eq_true] at hsuits
      obtain ⟨y', hy, hn⟩ := (Option.any_eq_true ..).1 hsuits.2
      rw [suits, hy]
      exact hn

end Kind

end CrossFilter.Chart
