import CrossFilter.Proofs.Refusals

/-!
# What a reload leaves of a view

A catalog that is loaded replaces the old one as a whole. What a view refers to is pruned to it: the
selection, the assignment and the filters keep what they say of columns that are left, and lose what
they say of any other (`View.Pruned`). Both sections start anew, and no ticket of before is ever
taken again. `reload_prunes` says all this of every view that a run reaches.

A sound view has nothing to lose under its own catalog (`Sound.applyCatalog_self`), so loading a
catalog for the second time only uses up two more numbers.
-/

namespace CrossFilter

/-! ## The parts of a view -/

namespace Chart

/-- The first kind that suits, in the order of all kinds. -/
theorem Kind.find?_valid (x y : Option ColumnType) :
    all.find? (· ∈ valid x y) = (valid x y).head? := by
  cases x with
  | none => rfl
  | some x =>
    have hsuits : ∀ kind ∈ all, decide (kind ∈ valid (some x) y) = suits x y kind := by
      intro kind hkind
      simp [valid, hkind]
    rw [← List.head?_filter, List.filter_congr hsuits]
    rfl

namespace Selection

variable {s : Selection} {catalog : Catalog}

theorem kinds_reconcile (s : Selection) (catalog : Catalog) : (s.reconcile catalog).kinds =
    Kind.valid ((s.reconcile catalog).x.bind catalog.typeOf?)
      ((s.reconcile catalog).y.bind catalog.typeOf?) := rfl

/-- A kind that suits stays, and so does any kind where none suits. -/
theorem kind_reconcile_of_mem
    (h : s.kind ∈ (s.reconcile catalog).kinds ∨ (s.reconcile catalog).kinds = []) :
    (s.reconcile catalog).kind = s.kind := by
  have hkind : (s.reconcile catalog).kind = if (s.reconcile catalog).kinds.contains s.kind
    then s.kind else (s.reconcile catalog).kinds.head?.getD s.kind := rfl
  rcases h with hmem | hnone
  · rw [hkind, if_pos (List.contains_iff_mem.2 hmem)]
  · rw [hkind, hnone]
    rfl

/-- A kind that does not suit gives way to the first that does. -/
theorem kind_reconcile_of_not_mem (hmem : s.kind ∉ (s.reconcile catalog).kinds)
    (hne : (s.reconcile catalog).kinds ≠ []) :
    Kind.all.find? (· ∈ (s.reconcile catalog).kinds) = some (s.reconcile catalog).kind := by
  have hkind : (s.reconcile catalog).kind = if (s.reconcile catalog).kinds.contains s.kind
    then s.kind else (s.reconcile catalog).kinds.head?.getD s.kind := rfl
  have hfirst : (s.reconcile catalog).kinds.head? = some (s.reconcile catalog).kind := by
    obtain ⟨first, rest, hkinds⟩ := List.exists_cons_of_ne_nil hne
    rw [hkind, if_neg (by simpa using hmem), hkinds]
    rfl
  rw [← hfirst, kinds_reconcile, Kind.find?_valid]

/-- A selection that fits a catalog is what the catalog makes of it. -/
theorem Fits.reconcile_eq_self (h : s.Fits catalog) : s.reconcile catalog = s := by
  have hkept : ∀ {column : Option String}, catalog.Knows column.toList →
      column.filter catalog.contains = column := by
    intro column hknown
    cases column with
    | none => rfl
    | some c => simp [Option.filter, hknown c (by simp)]
  have hx := hkept h.x
  have hy := hkept h.y
  have hkinds : (s.reconcile catalog).kinds = s.kinds := by
    rw [kinds_reconcile, h.kinds]
    simp only [reconcile, rederive, hx, hy]
  have hkind : (s.reconcile catalog).kind = s.kind := by
    refine kind_reconcile_of_mem ?_
    rw [hkinds]
    by_cases hnone : s.kinds = []
    · exact .inr hnone
    · exact .inl (h.kind hnone)
  calc s.reconcile catalog
      = { s with
          x := s.x.filter catalog.contains
          y := s.y.filter catalog.contains
          kinds := (s.reconcile catalog).kinds
          kind := (s.reconcile catalog).kind } := rfl
    _ = s := by rw [hx, hy, hkinds, hkind]

end Selection

end Chart

namespace Pivot.Assignment

theorem inZone_restrict (a : Assignment) (keep : String → Bool) (zone : Zone) :
    (a.restrict keep).inZone zone = (a.inZone zone).filter keep := by
  simp only [inZone, restrict, List.filter_map, List.filter_filter]
  simp [Bool.and_comm]

theorem values_restrict (a : Assignment) (keep : String → Bool) :
    (a.restrict keep).values = a.values.filter fun f => keep f.column := by
  simp only [values, restrict]
  rw [List.filterMap_filter, List.filter_filterMap]
  congr 1
  funext f
  cases f.2 <;> simp [Placement.aggregator?, Option.filter]

theorem prune_eq_self {a : Assignment} {catalog : Catalog} (h : catalog.Knows a.names) :
    a.prune catalog = a := by
  have hfields : (a.fields.filter fun f => catalog.contains f.1) = a.fields :=
    List.filter_eq_self.2 fun f hf => h f.1 (List.mem_map_of_mem hf)
  obtain ⟨fields, distinct⟩ := a
  simp only [prune, restrict, Assignment.mk.injEq]
  exact hfields

end Pivot.Assignment

namespace View

/-- What is left of a view under a new catalog. -/
structure Pruned (v : View) (catalog : Catalog) (left : View) : Prop where
  known : left.catalog = catalog
  tab : left.tab = v.tab
  title : left.selection.title = v.selection.title
  x : ∀ c, left.selection.x = some c ↔ v.selection.x = some c ∧ catalog.contains c = true
  y : ∀ c, left.selection.y = some c ↔ v.selection.y = some c ∧ catalog.contains c = true
  kinds : left.selection.kinds = Chart.Kind.valid (left.selection.x.bind catalog.typeOf?)
    (left.selection.y.bind catalog.typeOf?)
  kind_kept : v.selection.kind ∈ left.selection.kinds ∨ left.selection.kinds = [] →
    left.selection.kind = v.selection.kind
  kind_replaced : v.selection.kind ∉ left.selection.kinds → left.selection.kinds ≠ [] →
    [.bar, .line, .pie, .area, .scatter, .boxplot].find? (· ∈ left.selection.kinds) =
      some left.selection.kind
  /-- The columns that are left keep their order, their placements and their aggregators. -/
  fields : left.assignment.fields = v.assignment.fields.filter fun f => catalog.contains f.1
  rows : left.assignment.rows = v.assignment.rows.filter catalog.contains
  columns : left.assignment.columns = v.assignment.columns.filter catalog.contains
  values : left.assignment.values = v.assignment.values.filter fun f => catalog.contains f.column
  filters : left.filters.entries = v.filters.entries.filter fun e => catalog.contains e.1
  chart : left.chart = {
    slot := { phase := .idle, outcome := none, error := none }
    number := v.chart.number + 1
    last := none }
  chartTitle : left.chartTitle = none
  pivot : left.pivot = {
    slot := { phase := .idle, outcome := none, error := none }
    number := v.pivot.number + 1
    last := none }

theorem pruned_applyCatalog (v : View) (catalog : Catalog) :
    v.Pruned catalog (v.applyCatalog catalog) where
  known := rfl
  tab := rfl
  title := rfl
  x _ := Option.filter_eq_some_iff
  y _ := Option.filter_eq_some_iff
  kinds := rfl
  kind_kept := Chart.Selection.kind_reconcile_of_mem
  kind_replaced := Chart.Selection.kind_reconcile_of_not_mem
  fields := rfl
  rows := v.assignment.inZone_restrict catalog.contains .rows
  columns := v.assignment.inZone_restrict catalog.contains .columns
  values := v.assignment.values_restrict catalog.contains
  filters := rfl
  chart := rfl
  chartTitle := rfl
  pivot := rfl

/-- A sound view only starts its sections anew under the catalog that it has. -/
theorem Sound.applyCatalog_self {v : View} (h : v.Sound) : v.applyCatalog v.catalog =
    { v with chart := v.chart.reset, chartTitle := none, pivot := v.pivot.reset } := by
  simp only [applyCatalog, resetChart, resetPivotSection, h.selection.reconcile_eq_self,
    Pivot.Assignment.prune_eq_self h.assignment, Filters.prune, Filters.restrict_eq_self h.filters]

theorem applyCatalog_applyCatalog (v : View) (catalog : Catalog) :
    (v.applyCatalog catalog).applyCatalog catalog = { v.applyCatalog catalog with
      chart := { (v.applyCatalog catalog).chart with
        number := (v.applyCatalog catalog).chart.number + 1 }
      pivot := { (v.applyCatalog catalog).pivot with
        number := (v.applyCatalog catalog).pivot.number + 1 } } :=
  (v.applyCatalog_sound catalog).applyCatalog_self

theorem reload_of_ok {v : View} {service : Backend.Service Id} {catalog : Catalog}
    (h : service.columns = .ok catalog) :
    v.reload (m := Id) service = (.ok (), v.applyCatalog catalog) := by
  simp [reload, bind, pure, h]
  rfl

end View

/-! ## Runs -/

theorem Track.Coherent.stale_of_reset {Query Data : Type} [Filtered Query] {k : Track Query Data}
    (h : k.Coherent) (catalog : Catalog) (fs : Filters) {t : Ticket Query}
    (ht : t ∈ k.log.issued) :
    Track.Stale { k with catalog, filters := fs, part := k.part.reset } t :=
  ⟨ht, Nat.ne_of_lt (Nat.lt_succ_of_le (h.bounded t ht))⟩

namespace Record

variable {r : Record} {service : Backend.Service Id} {catalog : Catalog}

theorem step_reload (r : Record) (h : service.columns = .ok catalog) :
    r.step (.reload service) = { r with view := r.view.applyCatalog catalog } := by
  rw [step, View.perform, View.reload_of_ok h]
  rfl

/-- A reload that goes through with a catalog. -/
structure Reloads (r : Record) (service : Backend.Service Id) (catalog : Catalog) : Prop where
  done : r.view.reload (m := Id) service = (.ok (), (r.step (.reload service)).view)
  pruned : r.view.Pruned catalog (r.step (.reload service)).view
  charts_stale : ∀ t ∈ r.charts.issued, ∀ s, (r.step (.reload service)).Run s →
    ∀ answer, s.view.completeChart t answer = (.ok false, s.view)
  pivots_stale : ∀ t ∈ r.pivots.issued, ∀ s, (r.step (.reload service)).Run s →
    ∀ answer, s.view.completePivot t answer = (.ok false, s.view)
  /-- Nothing is left to be pruned when the same catalog is loaded again. -/
  again : ∀ service', service'.columns = .ok catalog →
    ((r.step (.reload service)).step (.reload service')).view =
      { (r.step (.reload service)).view with
        chart := { (r.step (.reload service)).view.chart with
          number := (r.step (.reload service)).view.chart.number + 1 }
        pivot := { (r.step (.reload service)).view.pivot with
          number := (r.step (.reload service)).view.pivot.number + 1 } }

/-- A new catalog takes away what refers to columns that it lacks, and nothing else. -/
theorem reload_prunes (h : r.Reachable) (hc : service.columns = .ok catalog) :
    r.Reloads service catalog := by
  have hnext := h.coherent.step (show (Operation.reload service).Allowed r from trivial)
  have hstep := r.step_reload hc
  constructor
  case done => rw [View.reload_of_ok hc, hstep]
  case pruned =>
    rw [hstep]
    exact r.view.pruned_applyCatalog catalog
  case charts_stale =>
    intro t ht s hs answer
    have hstale : (r.step (.reload service)).chartTrack.Stale t := by
      rw [hstep]
      exact h.coherent.chart.stale_of_reset _ _ ht
    exact View.completeChart_of_ne (hnext.chart_stale hstale hs).2 answer
  case pivots_stale =>
    intro t ht s hs answer
    have hstale : (r.step (.reload service)).pivotTrack.Stale t := by
      rw [hstep]
      exact h.coherent.pivot.stale_of_reset _ _ ht
    exact View.completePivot_of_ne (hnext.pivot_stale hstale hs).2 answer
  case again =>
    intro service' hc'
    rw [step_reload _ hc', hstep]
    exact r.view.applyCatalog_applyCatalog catalog

/-- A pie of the regions and a table of the cities are awaited, under filters on both. -/
def bothFiltered : Record := (start .default).run [.reload .sample, .setX (some "region"),
  .setY (some "sales"), .setKind .pie, .beginChart, .assign "city" .rows, .assign "region" .rows,
  .assign "sales" .values, .setAggregator "sales" .mean, .beginPivot,
  .addFilter "city" (.text "Oslo"), .addFilter "region" (.text "North")]

/-- The cities are lost, and the regions are numbers that make no pie. -/
theorem reload_prunes_bothFiltered : bothFiltered.Reachable ∧
    Backend.Service.renumbered.columns =
      .ok (.ofList [.ofTag "region" "int64", .ofTag "sales" "float64"]) ∧
    (bothFiltered.step (.reload .renumbered)).view.selection.kind = .bar ∧
    (bothFiltered.step (.reload .renumbered)).view.assignment.fields =
      [("region", .rows), ("sales", .values .mean)] ∧
    (bothFiltered.step (.reload .renumbered)).view.filters.entries =
      [("region", .text "North")] ∧
    bothFiltered.Reloads .renumbered
      (.ofList [.ofTag "region" "int64", .ofTag "sales" "float64"]) := by
  have hr : bothFiltered.Reachable := reachable_of_legal (by decide +kernel)
  exact ⟨hr, rfl, by decide +kernel, by decide +kernel, by decide +kernel, reload_prunes hr rfl⟩

end Record

end CrossFilter
