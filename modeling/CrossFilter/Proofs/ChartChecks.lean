import CrossFilter.Proofs.References

/-!
# What is checked of a chart

A chart can be asked for if there is a dataset, an X column is chosen, and the Y column, if there is
one, holds numbers: `View.Chartable`. The columns themselves are not looked at when the chart is
asked for. The view compares the kind of the chart with the kinds that it worked out from the
catalog when a column was chosen last or a catalog was loaded.

The two come to the same because some kind suits the columns unless Y does not hold numbers
(`Kind.valid_ne_nil_iff`), and because the kind is always one of those that suit, if any does
(`Selection.Fits`). `chart_decided` says so of every view that a run reaches.
-/

namespace CrossFilter

theorem Catalog.exists_typeOf? {catalog : Catalog} {c : String} (h : catalog.contains c = true) :
    ∃ type, catalog.typeOf? c = some type := by
  obtain ⟨column, hc⟩ := Option.isSome_iff_exists.1 h
  exact ⟨column.type, by rw [typeOf?, hc]; rfl⟩

namespace Chart

/-- An X column can always be charted, with any Y column that holds numbers or without one. -/
theorem Kind.valid_ne_nil_iff {x y : Option ColumnType} :
    valid x y ≠ [] ↔ x ≠ none ∧ ∀ type, y = some type → type.isNumeric = true := by
  have hbar : valid x y ≠ [] ↔ .bar ∈ valid x y := by
    constructor
    · intro hne
      obtain ⟨kind, hkind⟩ := List.exists_mem_of_ne_nil _ hne
      exact bar_mem_valid hkind
    · exact List.ne_nil_of_mem
  rw [hbar]
  cases x with
  | none => simp [valid]
  | some x => cases y <;> simp [valid, all, suits]

/-- Where the kinds are those of the catalog, the kind that is chosen stands for the columns. -/
theorem Selection.Fits.kind_mem_iff {s : Selection} {catalog : Catalog} (h : s.Fits catalog) :
    s.kind ∈ s.kinds ↔ s.x ≠ none ∧ ∀ y, s.y = some y → catalog.HoldsNumbers y := by
  have hx : s.x.bind catalog.typeOf? ≠ none ↔ s.x ≠ none := by
    cases hs : s.x with
    | none => simp
    | some x =>
      obtain ⟨type, htype⟩ := Catalog.exists_typeOf? (h.x x (by simp [hs]))
      simp [htype]
  have hy : (∀ type, s.y.bind catalog.typeOf? = some type → type.isNumeric = true) ↔
      ∀ y, s.y = some y → catalog.HoldsNumbers y := by
    cases hs : s.y with
    | none => simp
    | some y =>
      obtain ⟨type, htype⟩ := Catalog.exists_typeOf? (h.y y (by simp [hs]))
      simp [htype, Catalog.HoldsNumbers]
  calc s.kind ∈ s.kinds
      ↔ s.kinds ≠ [] := ⟨List.ne_nil_of_mem, h.kind⟩
    _ ↔ _ := by rw [h.kinds, Kind.valid_ne_nil_iff, hx, hy]

end Chart

namespace View

/-- What is selected makes sense as a chart. -/
structure Chartable (v : View) : Prop where
  dataset : v.catalog.columns ≠ []
  x : v.selection.x ≠ none
  y : ∀ y, v.selection.y = some y → v.catalog.HoldsNumbers y

/-- Why what is selected makes no chart. The first of its faults counts. -/
inductive Unchartable (v : View) : Rejection → Prop
  | noDataset : v.catalog.columns = [] → v.Unchartable .noDataset
  | xRequired : v.catalog.columns ≠ [] → v.selection.x = none → v.Unchartable .xRequired
  | kindNotAllowed {y : String} : v.catalog.columns ≠ [] → v.selection.x ≠ none →
      v.selection.y = some y → ¬ v.catalog.HoldsNumbers y →
      v.Unchartable (.kindNotAllowed v.selection.kind.name)

/-- The ticket of a query for what is selected, under the present filters. -/
structure AsksSelected (v : View) (t : Ticket Chart.Query) : Prop where
  number : t.number = v.chart.number + 1
  x : some t.query.request.x = v.selection.x
  y : t.query.request.y = v.selection.y
  kind : t.query.request.kind = v.selection.kind
  filters : t.query.request.filters = v.filters
  title : t.query.title = v.selection.effectiveTitle

variable {v : View} {cause : Rejection}

theorem Chartable.not_unchartable (h : v.Chartable) : ¬ v.Unchartable cause := by
  intro hc
  cases hc with
  | noDataset hnone => exact h.dataset hnone
  | xRequired _ hnone => exact h.x hnone
  | kindNotAllowed _ _ hy hnumbers => exact hnumbers (h.y _ hy)

/-- There is one reason at most. -/
theorem Unchartable.unique {cause' : Rejection} (h : v.Unchartable cause)
    (h' : v.Unchartable cause') : cause = cause' := by
  cases h with
  | noDataset hnone =>
    cases h' with
    | noDataset => rfl
    | _ => contradiction
  | xRequired hsome hx =>
    cases h' with
    | xRequired => rfl
    | _ => contradiction
  | kindNotAllowed hsome hx _ _ =>
    cases h' with
    | kindNotAllowed => rfl
    | _ => contradiction

namespace Sound

variable (h : v.Sound)

include h

/-- A chosen X column is in the catalog, so that there is a dataset. -/
theorem renderable_iff : v.selection.isRenderable = true ↔ v.Chartable := by
  rw [Chart.Selection.isRenderable, Bool.and_eq_true, List.contains_iff_mem,
    h.selection.kind_mem_iff]
  constructor
  · rintro ⟨-, hx, hy⟩
    refine ⟨?_, hx, hy⟩
    obtain ⟨x, hs⟩ := Option.ne_none_iff_exists'.1 hx
    obtain ⟨type, htype⟩ := Catalog.exists_typeOf? (h.selection.x x (by simp [hs]))
    intro hnone
    simp [Catalog.typeOf?, Catalog.find?, hnone] at htype
  · intro hc
    exact ⟨Option.isSome_iff_ne_none.2 hc.x, hc.x, hc.y⟩

theorem beginChart_of_chartable (hc : v.Chartable) :
    ∃ t, v.beginChart.1 = .ok t ∧ v.AsksSelected t := by
  obtain ⟨x, hx⟩ := Option.ne_none_iff_exists'.1 hc.x
  have hkind : v.selection.kind ∈ v.selection.kinds := h.selection.kind_mem_iff.2 ⟨hc.x, hc.y⟩
  have hrequest : v.chartRequest =
      .ok { x, y := v.selection.y, kind := v.selection.kind, filters := v.filters } := by
    simp [chartRequest, Catalog.isEmpty, hc.dataset, Chart.Selection.request, hx, hkind]
  rw [beginChart_ok hrequest]
  exact ⟨_, rfl, ⟨rfl, hx.symm, rfl, rfl, rfl, rfl⟩⟩

theorem beginChart_of_not_chartable (hc : ¬ v.Chartable) :
    ∃ cause, v.beginChart.1 = .error cause ∧ v.Unchartable cause := by
  suffices hrequest : ∃ cause, v.chartRequest = .error cause ∧ v.Unchartable cause by
    obtain ⟨cause, hrequest, hcause⟩ := hrequest
    exact ⟨cause, by rw [beginChart_error hrequest], hcause⟩
  by_cases hdataset : v.catalog.columns = []
  · exact ⟨_, by simp [chartRequest, Catalog.isEmpty, hdataset], .noDataset hdataset⟩
  · cases hx : v.selection.x with
    | none =>
      exact ⟨_, by simp [chartRequest, Catalog.isEmpty, hdataset, Chart.Selection.request, hx],
        .xRequired hdataset hx⟩
    | some x =>
      have hsome : v.selection.x ≠ none := by simp [hx]
      have hnumbers : ¬ ∀ y, v.selection.y = some y → v.catalog.HoldsNumbers y :=
        fun hy => hc ⟨hdataset, hsome, hy⟩
      have hkind : v.selection.kind ∉ v.selection.kinds :=
        fun hk => hnumbers (h.selection.kind_mem_iff.1 hk).2
      obtain ⟨y, hy, hnone⟩ : ∃ y, v.selection.y = some y ∧ ¬ v.catalog.HoldsNumbers y := by
        simpa using hnumbers
      exact ⟨_, by
        simp [chartRequest, Catalog.isEmpty, hdataset, Chart.Selection.request, hx, hkind],
        .kindNotAllowed hdataset hsome hy hnone⟩

theorem beginChart_ok_iff : (∃ t, v.beginChart.1 = .ok t) ↔ v.Chartable := by
  by_cases hc : v.Chartable
  · obtain ⟨t, ht, -⟩ := h.beginChart_of_chartable hc
    exact iff_of_true ⟨t, ht⟩ hc
  · obtain ⟨cause, hcause, -⟩ := h.beginChart_of_not_chartable hc
    exact iff_of_false (by simp [hcause]) hc

theorem beginChart_error_iff : v.beginChart.1 = .error cause ↔ v.Unchartable cause := by
  by_cases hc : v.Chartable
  · obtain ⟨t, ht, -⟩ := h.beginChart_of_chartable hc
    simp [ht, hc.not_unchartable]
  · obtain ⟨cause', hcause, hun⟩ := h.beginChart_of_not_chartable hc
    rw [hcause, Except.error.injEq]
    exact ⟨fun heq => heq ▸ hun, hun.unique⟩

end Sound

end View

namespace Record

/-- A chart is asked for as what is selected allows. -/
structure ChartDecided (r : Record) : Prop where
  asked_iff : (∃ t, r.view.beginChart.1 = .ok t) ↔ r.view.Chartable
  rejected_iff : ∀ cause, r.view.beginChart.1 = .error cause ↔ r.view.Unchartable cause
  renderable_iff : (∃ t, r.view.beginChart.1 = .ok t) ↔ r.view.selection.isRenderable = true
  selected : ∀ t, r.view.beginChart.1 = .ok t → r.view.AsksSelected t

/-- Whether a chart can be asked for depends on the columns alone, and why not, too. -/
theorem chart_decided {r : Record} (h : r.Reachable) : r.ChartDecided where
  asked_iff := h.sound.beginChart_ok_iff
  rejected_iff _ := h.sound.beginChart_error_iff
  renderable_iff := h.sound.beginChart_ok_iff.trans h.sound.renderable_iff.symm
  selected t ht := by
    have hc := h.sound.beginChart_ok_iff.1 ⟨t, ht⟩
    obtain ⟨t', ht', hasks⟩ := h.sound.beginChart_of_chartable hc
    rw [ht] at ht'
    cases ht'
    exact hasks

/-- The same dataset with its sales spelled out. -/
def spelledService : Backend.Service Id :=
  { Backend.Service.sample with
    columns := .ok (.ofList [.ofTag "region" "utf8", .ofTag "sales" "utf8"]) }

/-- A boxplot of the sales is chosen, and then the sales turn into texts. No kind is left, so that
the boxplot stays chosen. -/
def salesSpelled : Record := (start .default).run [.reload .sample, .setX (some "region"),
  .setY (some "sales"), .setKind .boxplot, .reload spelledService]

theorem chart_decided_salesSpelled : salesSpelled.Reachable ∧
    salesSpelled.view.selection.y = some "sales" ∧
    ¬ salesSpelled.view.catalog.HoldsNumbers "sales" ∧
    salesSpelled.view.selection.kind = .boxplot ∧ salesSpelled.view.selection.kinds = [] ∧
    salesSpelled.ChartDecided := by
  have hr : salesSpelled.Reachable := reachable_of_legal (by decide +kernel)
  exact ⟨hr, by decide +kernel, by decide +kernel, by decide +kernel, by decide +kernel,
    chart_decided hr⟩

end Record

end CrossFilter
