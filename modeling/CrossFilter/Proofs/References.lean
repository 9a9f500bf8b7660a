import CrossFilter.Proofs.Run

/-!
# References into the catalog

A view refers to columns in its selection, its assignment and its filters. `View.Sound` says that
they are all in the catalog, and that the kinds offered for a chart are worked out from it. Every
operation keeps a view sound (`Sound.perform`), the ones that replace the catalog included, and so
`references_known` holds of every view that a run reaches.
-/

namespace CrossFilter

/-! ## The parts of a view -/

/-- All of some columns are in the catalog. -/
def Catalog.Knows (catalog : Catalog) (columns : List String) : Prop :=
  ∀ c ∈ columns, catalog.contains c = true

namespace Catalog

variable {catalog : Catalog}

theorem Knows.subset {cs ds : List String} (h : catalog.Knows cs) (hs : ds ⊆ cs) :
    catalog.Knows ds := fun c hc => h c (hs hc)

theorem knows_nil : catalog.Knows [] := nofun

theorem knows_append {cs ds : List String} :
    catalog.Knows (cs ++ ds) ↔ catalog.Knows cs ∧ catalog.Knows ds := by
  simp [Knows, or_imp, forall_and]

theorem knows_filter (x : Option String) : catalog.Knows (x.filter catalog.contains).toList := by
  intro c hc
  rw [Option.mem_toList, Option.filter_eq_some_iff] at hc
  exact hc.2

theorem contains_of_typeOf? {c : String} {type : ColumnType} (h : catalog.typeOf? c = some type) :
    catalog.contains c = true := by
  obtain ⟨column, hc, -⟩ := Option.map_eq_some_iff.1 h
  rw [contains, hc]
  rfl

end Catalog

namespace Chart

variable {catalog : Catalog}

theorem chosen?_known {text choice : Option String} (h : chosen? catalog text = .ok choice) :
    catalog.Knows choice.toList := by
  unfold chosen? at h
  split at h
  · cases h; exact Catalog.knows_nil
  · dsimp only at h
    split at h
    · cases h; exact Catalog.knows_nil
    · split at h
      · next hc => cases h; simpa [Catalog.Knows] using hc
      · cases h

namespace Selection

/-- The columns are known, the kinds those of their types, and the kind is one of them. -/
structure Fits (s : Selection) (catalog : Catalog) : Prop where
  x : catalog.Knows s.x.toList
  y : catalog.Knows s.y.toList
  kinds : s.kinds = Kind.valid (s.x.bind catalog.typeOf?) (s.y.bind catalog.typeOf?)
  kind : s.kinds ≠ [] → s.kind ∈ s.kinds

variable {s : Selection}

theorem rederive_fits (hx : catalog.Knows s.x.toList) (hy : catalog.Knows s.y.toList) :
    (s.rederive catalog).Fits catalog where
  x := hx
  y := hy
  kinds := rfl
  kind := by
    simp only [rederive]
    generalize Kind.valid (s.x.bind catalog.typeOf?) (s.y.bind catalog.typeOf?) = kinds
    intro hne
    split
    · next h => exact List.contains_iff_mem.1 h
    · cases kinds with
      | nil => exact absurd rfl hne
      | cons first rest => exact List.mem_cons_self

theorem reconcile_fits (s : Selection) (catalog : Catalog) : (s.reconcile catalog).Fits catalog :=
  rederive_fits (Catalog.knows_filter s.x) (Catalog.knows_filter s.y)

theorem Fits.setX (h : s.Fits catalog) (column : Option String) :
    (s.setX catalog column).2.Fits catalog := by
  unfold Selection.setX
  cases hc : chosen? catalog column with
  | error cause => exact h
  | ok x => exact rederive_fits (chosen?_known hc) h.y

theorem Fits.setY (h : s.Fits catalog) (column : Option String) :
    (s.setY catalog column).2.Fits catalog := by
  unfold Selection.setY
  cases hc : chosen? catalog column with
  | error cause => exact h
  | ok y => exact rederive_fits h.x (chosen?_known hc)

theorem Fits.setKind (h : s.Fits catalog) (kind : Kind) :
    (s.setKind kind).2.Fits catalog := by
  unfold Selection.setKind
  split
  · next hk => exact { h with kind := fun _ => List.contains_iff_mem.1 hk }
  · exact h

end Selection

end Chart

namespace Pivot.Assignment

variable {catalog : Catalog} {a : Assignment}

/-- The assigned columns, in the order they were placed. -/
def names (a : Assignment) : List String := a.fields.map (·.1)

theorem names_restrict (a : Assignment) (keep : String → Bool) :
    (a.restrict keep).names = a.names.filter keep := by
  simp [names, restrict, List.filter_map, Function.comp_def]

theorem names_assign (a : Assignment) (column : String) (zone : Zone) :
    (a.assign column zone).names = a.names.filter (· != column) ++ [column] := by
  rw [← names_restrict]
  simp [names, assign]

theorem known_prune (a : Assignment) (catalog : Catalog) : catalog.Knows (a.prune catalog).names := by
  rw [prune, names_restrict]
  exact fun c hc => (List.mem_filter.1 hc).2

theorem known_restrict (h : catalog.Knows a.names) (keep : String → Bool) :
    catalog.Knows (a.restrict keep).names := by
  rw [names_restrict]
  exact h.subset List.filter_sublist.subset

theorem known_assign (h : catalog.Knows a.names) {column : String}
    (hc : catalog.contains column = true) (zone : Zone) :
    catalog.Knows (a.assign column zone).names := by
  rw [names_assign, Catalog.knows_append]
  exact ⟨h.subset List.filter_sublist.subset, by simpa [Catalog.Knows] using hc⟩

theorem known_toggle (h : catalog.Knows a.names) {column : String} {type : ColumnType}
    (hc : catalog.typeOf? column = some type) : catalog.Knows (a.toggle column type).2.names := by
  unfold toggle
  split
  · exact known_restrict h _
  · exact known_assign h (Catalog.contains_of_typeOf? hc) _

theorem known_setAggregator (h : catalog.Knows a.names) (column : String) (aggregator : Aggregator) :
    catalog.Knows (a.setAggregator column aggregator).2.names := by
  unfold setAggregator
  split
  · show catalog.Knows ((replaced column (.values aggregator) a.fields).map (·.1))
    rw [map_fst_replaced]
    exact h
  · exact h

theorem inZone_subset (a : Assignment) (zone : Zone) : a.inZone zone ⊆ a.names :=
  (List.filter_sublist.map _).subset

theorem map_column_values (a : Assignment) : a.values.map ValueField.column = a.inZone .values := by
  unfold values inZone
  induction a.fields with
  | nil => rfl
  | cons f fields ih =>
    obtain ⟨column, p⟩ := f
    cases p with
    | rows => simpa [Placement.aggregator?, Placement.zone] using ih
    | columns => simpa [Placement.aggregator?, Placement.zone] using ih
    | values aggregator => simpa [Placement.aggregator?, Placement.zone] using ih

theorem known_zones (h : catalog.Knows a.names) :
    catalog.Knows (a.rows ++ a.columns ++ a.values.map ValueField.column) := by
  rw [map_column_values, Catalog.knows_append, Catalog.knows_append]
  exact ⟨⟨h.subset (a.inZone_subset _), h.subset (a.inZone_subset _)⟩, h.subset (a.inZone_subset _)⟩

end Pivot.Assignment

namespace Filters

variable {catalog : Catalog} {fs : Filters}

theorem known_prune (fs : Filters) (catalog : Catalog) : catalog.Knows (fs.prune catalog).columns :=
  fun _ hc => (mem_columns_restrict.1 hc).2

theorem known_restrict (h : catalog.Knows fs.columns) (keep : String → Bool) :
    catalog.Knows (fs.restrict keep).columns :=
  h.subset fun _ hc => (mem_columns_restrict.1 hc).1

theorem known_upsert (h : catalog.Knows fs.columns) {column : String}
    (hcolumn : catalog.contains column = true) (value : Scalar) :
    catalog.Knows (fs.upsert column value).columns := by
  unfold upsert
  split
  · exact h
  · intro c hc
    rcases mem_columns_insert.1 hc with rfl | hc
    · exact hcolumn
    · exact h c hc

end Filters

/-! ## Views -/

namespace View

structure Sound (v : View) : Prop where
  selection : v.selection.Fits v.catalog
  assignment : v.catalog.Knows v.assignment.names
  filters : v.catalog.Knows v.filters.columns

variable {v : View}

theorem applyCatalog_sound (v : View) (catalog : Catalog) : (v.applyCatalog catalog).Sound where
  selection := v.selection.reconcile_fits catalog
  assignment := v.assignment.known_prune catalog
  filters := v.filters.known_prune catalog

/-- An attempt to load a catalog either fails or prunes every reference. -/
theorem Sound.load {w : View} (h : v.Sound)
    (hw : w = v ∨ ∃ catalog, w = v.applyCatalog catalog) : w.Sound := by
  rcases hw with rfl | ⟨catalog, rfl⟩
  · exact h
  · exact v.applyCatalog_sound catalog

theorem Sound.select {s : Chart.Selection} (h : v.Sound) (hs : s.Fits v.catalog) :
    Sound { v with selection := s } := ⟨hs, h.assignment, h.filters⟩

theorem Sound.place {a : Pivot.Assignment} (h : v.Sound) (ha : v.catalog.Knows a.names) :
    Sound { v with assignment := a } := ⟨h.selection, ha, h.filters⟩

theorem Sound.filtersChanged {fs : Filters} (h : v.Sound) (hfs : v.catalog.Knows fs.columns)
    (changed : Bool) : ({ v with filters := fs }.filtersChanged changed).2.Sound := by
  cases changed with
  | false => exact ⟨h.selection, h.assignment, hfs⟩
  | true => exact ⟨h.selection, h.assignment, hfs⟩

theorem Sound.addFilter (h : v.Sound) (column : String) (value : Scalar) :
    (v.addFilter column value).2.Sound := by
  cases hc : v.catalog.contains column with
  | false => rwa [addFilter_of_not_contains hc]
  | true =>
    rw [addFilter_of_contains hc]
    exact h.filtersChanged (Filters.known_upsert h.filters hc value) _

theorem Sound.click (h : v.Sound) (label : String) : (v.click label).2.Sound := by
  unfold View.click
  split
  · exact h
  · exact h.addFilter _ _

theorem Sound.beginChart (h : v.Sound) : v.beginChart.2.Sound := by
  cases hq : v.chartRequest with
  | ok request => rw [beginChart_ok hq]; exact ⟨h.selection, h.assignment, h.filters⟩
  | error cause => rw [beginChart_error hq]; exact ⟨h.selection, h.assignment, h.filters⟩

theorem Sound.beginPivot (h : v.Sound) : v.beginPivot.2.Sound := by
  cases hq : v.pivotRequest with
  | ok request => rw [beginPivot_ok hq]; exact ⟨h.selection, h.assignment, h.filters⟩
  | error cause => rw [beginPivot_error hq]; exact ⟨h.selection, h.assignment, h.filters⟩

theorem Sound.perform (h : v.Sound) (op : Operation) : (v.perform op).2.Sound := by
  cases op with
  | reload service => exact h.load (v.reload_cases service)
  | recast changes service => exact h.load (v.recast_cases changes service)
  | setX column => exact h.select (h.selection.setX column)
  | setY column => exact h.select (h.selection.setY column)
  | setKind kind => exact h.select (h.selection.setKind kind)
  | setTitle title => exact h.select { h.selection with }
  | beginChart => exact h.beginChart
  | completeChart t a => exact ⟨h.selection, h.assignment, h.filters⟩
  | assign column zone =>
    show (v.assign column zone).2.Sound
    rw [assign_snd]
    split
    · next hc => exact h.place (Pivot.Assignment.known_assign h.assignment hc zone)
    · exact h
  | unassign column => exact h.place (Pivot.Assignment.known_restrict h.assignment _)
  | toggle column =>
    show (v.toggle column).2.Sound
    rw [toggle_snd]
    split
    · exact h
    · next hc => exact h.place (Pivot.Assignment.known_toggle h.assignment hc)
  | setAggregator column aggregator =>
    exact h.place (Pivot.Assignment.known_setAggregator h.assignment column aggregator)
  | resetPivot => exact ⟨h.selection, Catalog.knows_nil, h.filters⟩
  | beginPivot => exact h.beginPivot
  | completePivot t a => exact ⟨h.selection, h.assignment, h.filters⟩
  | addFilter column value => exact h.addFilter column value
  | removeFilter column => exact h.filtersChanged (Filters.known_restrict h.filters _) _
  | clearFilters =>
    have hv : v.settled.Sound := ⟨h.selection, h.assignment, h.filters⟩
    exact hv.filtersChanged Catalog.knows_nil _
  | click label => exact h.click label
  | switchTab tab =>
    show (v.switchTab tab).2.Sound
    rw [switchTab_snd]
    exact ⟨h.selection, h.assignment, h.filters⟩

end View

namespace Record

theorem sound_start (tab : Tab) : (start tab).view.Sound where
  selection := ⟨Catalog.knows_nil, Catalog.knows_nil, rfl, fun h => absurd rfl h⟩
  assignment := Catalog.knows_nil
  filters := Catalog.knows_nil

theorem Reachable.sound {r : Record} (h : r.Reachable) : r.view.Sound := by
  obtain ⟨tab, h⟩ := h
  exact h.preserves (P := fun r => r.view.Sound) (fun s op hs _ => hs.perform op) (sound_start tab)

end Record

/-! ## What a view refers to -/

/-- All the columns that a view refers to. -/
def View.references (v : View) : List String :=
  v.selection.x.toList ++ v.selection.y.toList ++
    (v.assignment.rows ++ v.assignment.columns ++ v.assignment.values.map Pivot.ValueField.column) ++
    v.filters.columns

theorem View.Sound.references {v : View} (h : v.Sound) : v.catalog.Knows v.references := by
  unfold View.references
  rw [Catalog.knows_append, Catalog.knows_append, Catalog.knows_append]
  exact ⟨⟨⟨h.selection.x, h.selection.y⟩, Pivot.Assignment.known_zones h.assignment⟩, h.filters⟩

/-- The same dataset without its cities, and with numbers for its regions. -/
def Backend.Service.renumbered : Backend.Service Id :=
  { Backend.Service.sample with
    columns := .ok (.ofList [.ofTag "region" "int64", .ofTag "sales" "float64"]) }

namespace Record

/-- A view refers to columns of its catalog only, whatever catalogs it has had, and offers the kinds
of chart that suit the types that its columns have by now. -/
theorem references_known {r : Record} (h : r.Reachable) :
    (∀ c ∈ r.view.references, r.view.catalog.contains c = true) ∧
      r.view.selection.kinds = Chart.Kind.valid (r.view.selection.x.bind r.view.catalog.typeOf?)
        (r.view.selection.y.bind r.view.catalog.typeOf?) ∧
      (r.view.selection.kinds = [] ∨ r.view.selection.kind ∈ r.view.selection.kinds) := by
  have hs := h.sound
  refine ⟨hs.references, hs.selection.kinds, ?_⟩
  by_cases hk : r.view.selection.kinds = []
  · exact .inl hk
  · exact .inr (hs.selection.kind hk)

/-- A pie of the regions is chosen, and then the regions turn into numbers. -/
def renumbered : Record := (start .default).run [.reload .sample, .setX (some "region"),
  .setY (some "sales"), .setKind .pie, .assign "city" .rows, .assign "sales" .values,
  .addFilter "city" (.text "Oslo"), .reload .renumbered]

theorem references_known_renumbered : renumbered.Reachable ∧
    renumbered.view.references = ["region", "sales", "sales"] ∧
    renumbered.view.selection.kind = .bar ∧
    (∀ c ∈ renumbered.view.references, renumbered.view.catalog.contains c = true) ∧
    renumbered.view.selection.kinds =
      Chart.Kind.valid (renumbered.view.selection.x.bind renumbered.view.catalog.typeOf?)
        (renumbered.view.selection.y.bind renumbered.view.catalog.typeOf?) ∧
    (renumbered.view.selection.kinds = [] ∨
      renumbered.view.selection.kind ∈ renumbered.view.selection.kinds) := by
  have hr : renumbered.Reachable := reachable_of_legal (by decide +kernel)
  exact ⟨hr, by decide +kernel, by decide +kernel, references_known hr⟩

end Record

end CrossFilter
