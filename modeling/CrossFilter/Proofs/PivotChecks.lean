import CrossFilter.Proofs.PivotHistories
import Mathlib.Data.List.Perm.Subperm

/-!
# What is checked of an assignment

A request is made of an assignment after four checks, and the first that fails is the answer.
`Assignment.Checked` says without the checks which answer an assignment is to get: by the zones that
hold a column, and by the value columns that cannot be aggregated. The fourth check is for columns
that stand in the assignment twice, and has no case of its own: there are none (`repeated?_zones`).
`request_exact` says that the answer is always that one.
-/

namespace CrossFilter.Pivot

namespace Assignment

/-- Some column is in the zone. -/
def Uses (a : Assignment) (zone : Zone) : Prop := ∃ c, a.zoneOf? c = some zone

/-- A value column that is to be aggregated, and not just counted, without being a number. -/
def Unsuited (a : Assignment) (catalog : Catalog) (column : String) : Prop :=
  catalog.isNumeric column = false ∧ ∃ g, a.aggregatorOf? column = some g ∧ g ≠ .count

/-- The unsuited columns and no others, in the order of the values. -/
structure ListsUnsuited (a : Assignment) (catalog : Catalog) (columns : List String) : Prop where
  order : columns.Sublist (a.values.map ValueField.column)
  mem : ∀ c, c ∈ columns ↔ a.Unsuited catalog c

/-- Every assigned column is asked for exactly once, in its place among those of its zone and under
its aggregator. -/
structure AskedBy (a : Assignment) (q : Request) : Prop where
  once : (q.rows ++ q.columns ++ q.values.map ValueField.column).Nodup
  all : ∀ c, c ∈ q.rows ++ q.columns ++ q.values.map ValueField.column ↔ a.isAssigned c = true
  rows : q.rows = a.rows
  columns : q.columns = a.columns
  values : q.values = a.values

/-- The answer to an assignment of which a request is to be made. -/
inductive Checked (a : Assignment) (filters : Filters) (catalog : Catalog) :
    Except Rejection Request → Prop
  | rowless : ¬ a.Uses .rows → a.Checked filters catalog (.error .rowsRequired)
  | valueless : a.Uses .rows → ¬ a.Uses .values → a.Checked filters catalog (.error .valuesRequired)
  | unsuited {columns : List String} : a.Uses .rows → a.Uses .values →
      (∃ c, a.Unsuited catalog c) → a.ListsUnsuited catalog columns →
      a.Checked filters catalog (.error (.nonNumericValues columns))
  | accepted {q : Request} : a.Uses .rows → a.Uses .values → (¬ ∃ c, a.Unsuited catalog c) →
      a.AskedBy q → q.filters = filters → a.Checked filters catalog (.ok q)

variable {a : Assignment} {filters : Filters} {catalog : Catalog} {column : String}

/-! ## Zones -/

theorem mem_inZone_iff_zoneOf? {zone : Zone} :
    column ∈ a.inZone zone ↔ a.zoneOf? column = some zone := by
  rw [mem_inZone, zoneOf?_eq_some_iff]

theorem uses_iff {zone : Zone} : a.Uses zone ↔ a.inZone zone ≠ [] := by
  simp only [Uses, ← mem_inZone_iff_zoneOf?]
  exact ⟨fun ⟨_, hc⟩ => List.ne_nil_of_mem hc, List.exists_mem_of_ne_nil _⟩

theorem uses_values_iff : a.Uses .values ↔ a.values ≠ [] := by
  rw [uses_iff, ← map_column_values, ne_eq, ne_eq, List.map_eq_nil_iff]

theorem mem_zones_iff : column ∈ a.rows ++ a.columns ++ a.values.map ValueField.column ↔
    a.isAssigned column = true := by
  rw [isAssigned_iff_zoneOf?, map_column_values, rows, columns, List.mem_append, List.mem_append,
    mem_inZone_iff_zoneOf?, mem_inZone_iff_zoneOf?, mem_inZone_iff_zoneOf?]
  constructor
  · rintro ((h | h) | h)
    · exact ⟨.rows, h⟩
    · exact ⟨.columns, h⟩
    · exact ⟨.values, h⟩
  · rintro ⟨zone, h⟩
    cases zone with
    | rows => exact .inl (.inl h)
    | columns => exact .inl (.inr h)
    | values => exact .inr h

/-! ## Unsuited columns -/

theorem mem_misfits_iff : column ∈ a.misfits catalog ↔ a.Unsuited catalog column := by
  simp only [misfits, Unsuited, List.mem_map, List.mem_filter, Bool.and_eq_true, Bool.not_eq_true',
    bne_iff_ne, mem_values_iff]
  constructor
  · rintro ⟨f, ⟨hf, hnumeric, hcount⟩, rfl⟩
    exact ⟨hnumeric, f.aggregator, hf, hcount⟩
  · rintro ⟨hnumeric, g, hg, hcount⟩
    exact ⟨⟨column, g⟩, ⟨hg, hnumeric, hcount⟩, rfl⟩

theorem exists_unsuited_iff : (∃ c, a.Unsuited catalog c) ↔ a.misfits catalog ≠ [] := by
  simp only [← mem_misfits_iff]
  exact ⟨fun ⟨_, hc⟩ => List.ne_nil_of_mem hc, List.exists_mem_of_ne_nil _⟩

theorem listsUnsuited_misfits (a : Assignment) (catalog : Catalog) :
    a.ListsUnsuited catalog (a.misfits catalog) where
  order := List.filter_sublist.map _
  mem _ := mem_misfits_iff

/-- A value column is listed once, so that its order and its members make a list of some of them. -/
theorem ListsUnsuited.eq_misfits {columns : List String} (h : a.ListsUnsuited catalog columns) :
    columns = a.misfits catalog := by
  have hvalues : (a.values.map ValueField.column).Nodup := by
    rw [map_column_values]
    exact a.nodup_inZone .values
  have hmisfits := a.listsUnsuited_misfits catalog
  have hperm : columns.Perm (a.misfits catalog) :=
    (List.perm_ext_iff_of_nodup (hvalues.sublist h.order) (hvalues.sublist hmisfits.order)).2
      fun c => (h.mem c).trans (hmisfits.mem c).symm
  exact (hvalues.perm_iff_eq_of_sublist h.order hmisfits.order).1 hperm

/-! ## The checks -/

theorem askedBy_self (a : Assignment) (filters : Filters) :
    a.AskedBy { rows := a.rows, columns := a.columns, values := a.values, filters } where
  once := a.nodup_zones
  all _ := mem_zones_iff
  rows := rfl
  columns := rfl
  values := rfl

/-- What is asked for and under which filters is all of a request. -/
theorem AskedBy.eq {q : Request} (h : a.AskedBy q) :
    q = { rows := a.rows, columns := a.columns, values := a.values, filters := q.filters } := by
  rw [← h.rows, ← h.columns, ← h.values]

theorem checked_request (a : Assignment) (filters : Filters) (catalog : Catalog) :
    a.Checked filters catalog (a.request filters catalog) := by
  rw [request_eq]
  split
  · next h => exact .rowless fun hrows => uses_iff.1 hrows h
  · next hrows =>
    have hrows : a.Uses .rows := uses_iff.2 hrows
    split
    · next h => exact .valueless hrows fun hvalues => uses_values_iff.1 hvalues h
    · next hvalues =>
      have hvalues : a.Uses .values := uses_values_iff.2 hvalues
      split
      · next h =>
        exact .accepted hrows hvalues (fun hc => exists_unsuited_iff.1 hc h) (a.askedBy_self filters)
          rfl
      · next h =>
        exact .unsuited hrows hvalues (exists_unsuited_iff.2 h) (a.listsUnsuited_misfits catalog)

/-- No assignment is to get two answers. -/
theorem Checked.unique {x y : Except Rejection Request} (hx : a.Checked filters catalog x)
    (hy : a.Checked filters catalog y) : x = y := by
  cases hx with
  | rowless hrows =>
    cases hy with
    | rowless => rfl
    | _ => contradiction
  | valueless _ hvalues =>
    cases hy with
    | valueless => rfl
    | _ => contradiction
  | unsuited _ _ hsome hcolumns =>
    cases hy with
    | unsuited _ _ _ hcolumns' => rw [hcolumns.eq_misfits, hcolumns'.eq_misfits]
    | _ => contradiction
  | accepted _ _ hnone hq hfilters =>
    cases hy with
    | accepted _ _ _ hq' hfilters' => rw [hq.eq, hq'.eq, hfilters, hfilters']
    | _ => contradiction

/-- An assignment gets the answer that its zones and its unsuited columns call for. No column is
ever found twice, and a request asks for all that is assigned. -/
theorem request_exact (a : Assignment) (filters : Filters) (catalog : Catalog) :
    (∀ answer, a.request filters catalog = answer ↔ a.Checked filters catalog answer) ∧
    (∀ column, a.request filters catalog ≠ .error (.duplicateField column)) ∧
    ∀ q, a.request filters catalog = .ok q → a.AskedBy q ∧ q.filters = filters := by
  have hchecked := a.checked_request filters catalog
  refine ⟨fun answer => ⟨fun h => h ▸ hchecked, fun h => hchecked.unique h⟩, fun column h => ?_,
    fun q h => ?_⟩
  · rw [h] at hchecked
    cases hchecked
  · rw [h] at hchecked
    cases hchecked with
    | accepted _ _ _ hq hfilters => exact ⟨hq, hfilters⟩

def salesCatalog : Catalog :=
  .ofList [.ofTag "region" "utf8", .ofTag "city" "utf8", .ofTag "sales" "float64"]

/-- Sales are summed and regions counted, for each city. The column that was placed first stands in
another zone now. -/
def salesByCity : Assignment := History.result [.assign "region" .rows, .assign "city" .rows,
  .assign "sales" .values, .assign "region" .values, .setAggregator "region" .count]

def salesByCityRequest : Request := ⟨["city"], [], [⟨"sales", .sum⟩, ⟨"region", .count⟩], .empty⟩

theorem request_exact_salesByCity :
    salesByCity.request .empty salesCatalog = .ok salesByCityRequest ∧
    (∀ answer, salesByCity.request .empty salesCatalog = answer ↔
      salesByCity.Checked .empty salesCatalog answer) ∧
    (∀ column, salesByCity.request .empty salesCatalog ≠ .error (.duplicateField column)) ∧
    salesByCity.AskedBy salesByCityRequest ∧ salesByCityRequest.filters = .empty := by
  have hexact := request_exact salesByCity .empty salesCatalog
  have hrequest : salesByCity.request .empty salesCatalog = .ok salesByCityRequest := by
    decide +kernel
  exact ⟨hrequest, hexact.1, hexact.2.1, hexact.2.2 salesByCityRequest hrequest⟩

/-- With `sum` for all values, the text columns among them are named in their order. -/
example : (History.result [.assign "sales" .rows, .assign "region" .values, .assign "city" .values,
      .assign "lost" .values, .setAggregator "city" .count]).request .empty salesCatalog =
    .error (.nonNumericValues ["region", "lost"]) := by
  decide +kernel

end Assignment

end CrossFilter.Pivot
