import CrossFilter.Proofs.References
import CrossFilter.Proofs.Sections
import Mathlib.Data.List.Nodup

/-!
# Tickets carry valid requests

A request that a view makes of its selection or its assignment is checked when it is made. One that
a change of the filters issues again is not: it is the stored one with other filters in it. Stored
requests stay valid all the same, since a catalog that is replaced takes them with it.
-/

namespace CrossFilter

/-! ## Requests that are made -/

/-- A chart that the service can draw from the columns of a catalog. -/
structure Chart.Request.Valid (q : Chart.Request) (catalog : Catalog) : Prop where
  x : catalog.contains q.x = true
  y : ∀ y, q.y = some y → catalog.contains y = true
  kind : q.kind ∈ Chart.Kind.valid (catalog.typeOf? q.x) (q.y.bind catalog.typeOf?)
  filters : catalog.Knows q.filters.columns

theorem View.Sound.chartRequest_valid {v : View} (h : v.Sound) {q : Chart.Request}
    (hq : v.chartRequest = .ok q) : q.Valid v.catalog := by
  obtain ⟨x, hx, hkind, rfl⟩ := Chart.Selection.request_ok (View.chartRequest_ok hq)
  have hs := h.selection
  have hkinds := hs.kinds
  rw [hx] at hkinds
  exact {
    x := hs.x x (by simp [hx])
    y := fun y hy => hs.y y (by simpa using hy)
    kind := hkinds ▸ hkind
    filters := h.filters }

namespace Pivot

/-- A table that the service can make of the columns of a catalog. -/
structure Request.Valid (q : Request) (catalog : Catalog) : Prop where
  rows : q.rows ≠ []
  values : q.values ≠ []
  distinct : (q.rows ++ q.columns ++ q.values.map ValueField.column).Nodup
  known : catalog.Knows (q.rows ++ q.columns ++ q.values.map ValueField.column)
  counted : ∀ f ∈ q.values, catalog.isNumeric f.column = false → f.aggregator = .count
  filters : catalog.Knows q.filters.columns

namespace Assignment

theorem mem_inZone {a : Assignment} {zone : Zone} {column : String} :
    column ∈ a.inZone zone ↔ ∃ p, (column, p) ∈ a.fields ∧ p.zone = zone := by
  simp [inZone]

theorem nodup_inZone (a : Assignment) (zone : Zone) : (a.inZone zone).Nodup :=
  a.distinct.sublist (List.filter_sublist.map _)

/-- A column is in one zone at most. -/
theorem zone_unique {a : Assignment} {z z' : Zone} {column : String} (h : column ∈ a.inZone z)
    (h' : column ∈ a.inZone z') : z = z' := by
  obtain ⟨p, hp, rfl⟩ := mem_inZone.1 h
  obtain ⟨p', hp', rfl⟩ := mem_inZone.1 h'
  have heq : (column, p) = (column, p') := List.inj_on_of_nodup_map a.distinct hp hp' rfl
  cases heq
  rfl

/-- No column stands twice in what is asked for. -/
theorem nodup_zones (a : Assignment) :
    (a.rows ++ a.columns ++ a.values.map ValueField.column).Nodup := by
  have hne : ∀ z z' : Zone, z ≠ z' → ∀ c ∈ a.inZone z, ∀ d ∈ a.inZone z', c ≠ d := by
    intro z z' hz c hc d hd heq
    exact hz (zone_unique hc (heq ▸ hd))
  rw [map_column_values, rows, columns, List.nodup_append, List.nodup_append]
  refine ⟨⟨a.nodup_inZone _, a.nodup_inZone _, hne _ _ (by decide)⟩, a.nodup_inZone _, ?_⟩
  intro c hc d hd
  rcases List.mem_append.1 hc with hc | hc
  · exact hne _ _ (by decide) c hc d hd
  · exact hne _ _ (by decide) c hc d hd

/-- The check for repeated columns finds none. -/
theorem repeated?_zones (a : Assignment) :
    repeated? [] (a.rows ++ a.columns ++ a.values.map ValueField.column) = none :=
  repeated?_eq_none_iff.2 ⟨a.nodup_zones, fun _ _ => List.not_mem_nil⟩

/-- The checks one after the other. The last of them always passes. -/
theorem request_eq (a : Assignment) (filters : Filters) (catalog : Catalog) :
    a.request filters catalog =
      if a.rows = [] then .error .rowsRequired
      else if a.values = [] then .error .valuesRequired
      else if a.misfits catalog = [] then
        .ok { rows := a.rows, columns := a.columns, values := a.values, filters }
      else .error (.nonNumericValues (a.misfits catalog)) := by
  rw [request, a.repeated?_zones]
  by_cases hrows : a.rows = []
  · simp [hrows]
  · by_cases hvalues : a.values = []
    · simp [hrows, hvalues]
    · by_cases hmisfits : a.misfits catalog = []
      · simp [hrows, hvalues, hmisfits]
      · simp [hrows, hvalues, hmisfits]

/-- Without misfits, what is not a number is only counted. -/
theorem misfits_eq_nil_iff {a : Assignment} {catalog : Catalog} : a.misfits catalog = [] ↔
    ∀ f ∈ a.values, catalog.isNumeric f.column = false → f.aggregator = .count := by
  simp [misfits]

end Assignment

end Pivot

theorem View.Sound.pivotRequest_valid {v : View} (h : v.Sound) {q : Pivot.Request}
    (hq : v.pivotRequest = .ok q) : q.Valid v.catalog := by
  obtain ⟨hrows, hvalues, hmisfits, rfl⟩ := Pivot.Assignment.request_ok (View.pivotRequest_ok hq)
  exact {
    rows := hrows
    values := hvalues
    distinct := v.assignment.nodup_zones
    known := Pivot.Assignment.known_zones h.assignment
    counted := Pivot.Assignment.misfits_eq_nil_iff.1 hmisfits
    filters := h.filters }

/-! ## Requests that are issued again -/

/-- What stored queries have in common is kept by a step, if new queries have it and other filters
do not lose it. -/
theorem Track.Step.keeps {Query Data : Type} [Filtered Query] {Fresh : Query → Prop}
    {k k' : Track Query Data} {P : Catalog → Query → Prop} (hs : Step Fresh k k')
    (hk : ∀ q, k.part.last = some q → P k.catalog q) (hnew : ∀ q, Fresh q → P k.catalog q)
    (hre : ∀ q, P k'.catalog q → P k'.catalog (Filtered.refilter q k'.filters)) :
    ∀ q, k'.part.last = some q → P k'.catalog q := by
  intro q hq
  obtain ⟨hcatalog, h | h | ⟨p, hp, rfl⟩⟩ := hs.stored hq
  · rw [hcatalog]; exact hk q h
  · rw [hcatalog]; exact hnew q h
  · exact hre p (hcatalog ▸ hk p hp)

namespace Record

variable {r : Record} {op : Operation}

structure Stored (r : Record) : Prop where
  sound : r.view.Sound
  chart : ∀ q, r.view.chart.last = some q → q.request.Valid r.view.catalog
  pivot : ∀ q, r.view.pivot.last = some q → q.Valid r.view.catalog

theorem stored_start (tab : Tab) : (start tab).Stored := ⟨sound_start tab, nofun, nofun⟩

theorem Stored.step (h : r.Stored) (hop : op.Allowed r) : (r.step op).Stored := by
  have hsound : (r.step op).view.Sound := h.sound.perform op
  refine ⟨hsound, ?_, ?_⟩
  · refine (chart_step hop).keeps
      (P := fun (catalog : Catalog) (q : Chart.Query) => q.request.Valid catalog) h.chart ?_ ?_
    · rintro q ⟨request, hq, rfl⟩
      exact h.sound.chartRequest_valid hq
    · exact fun q hq => { hq with filters := hsound.filters }
  · refine (pivot_step hop).keeps
      (P := fun (catalog : Catalog) (q : Pivot.Request) => q.Valid catalog) h.pivot ?_ ?_
    · exact fun q hq => h.sound.pivotRequest_valid hq
    · exact fun q hq => { hq with filters := hsound.filters }

theorem Reachable.stored (h : r.Reachable) : r.Stored := by
  obtain ⟨tab, h⟩ := h
  exact h.preserves (fun _ _ hs hop => hs.step hop) (stored_start tab)

theorem charts_step {t : Ticket Chart.Query} (h : (r.view.perform op).1.chart = some t) :
    (r.step op).charts.issued = t :: r.charts.issued := by
  have hafter : (r.chartsAfter op).issued = r.charts.issued := by
    unfold chartsAfter
    split <;> simp
  simp [step, Log.issue, h, hafter]

theorem pivots_step {t : Ticket Pivot.Request} (h : (r.view.perform op).1.pivot = some t) :
    (r.step op).pivots.issued = t :: r.pivots.issued := by
  have hafter : (r.pivotsAfter op).issued = r.pivots.issued := by
    unfold pivotsAfter
    split <;> simp
  simp [step, Log.issue, h, hafter]

/-- Every ticket that is handed out is valid for the catalog that the view then has. -/
theorem tickets_valid (h : r.Reachable) (hop : op.Allowed r) :
    (∀ t, (r.view.perform op).1.chart = some t → t.query.request.Valid (r.step op).view.catalog) ∧
      ∀ t, (r.view.perform op).1.pivot = some t → t.query.Valid (r.step op).view.catalog := by
  have hs := h.stored.step hop
  constructor
  · intro t ht
    exact hs.chart t.query ((chart_step hop).stored_of_issued (charts_step ht))
  · intro t ht
    exact hs.pivot t.query ((pivot_step hop).stored_of_issued (pivots_step ht))

/-- A chart and a pivot table are awaited when a filter is added. -/
def bothAwaited : Record := (start .default).run [.reload .sample, .setX (some "region"),
  .setY (some "sales"), .beginChart, .assign "city" .rows, .assign "sales" .values, .beginPivot]

def osloOnly : Operation := .addFilter "city" (.text "Oslo")

theorem tickets_valid_bothAwaited : bothAwaited.Reachable ∧ osloOnly.Allowed bothAwaited ∧
    (bothAwaited.view.perform osloOnly).1.chart.isSome = true ∧
    (bothAwaited.view.perform osloOnly).1.pivot.isSome = true ∧
    (∀ t, (bothAwaited.view.perform osloOnly).1.chart = some t →
      t.query.request.Valid (bothAwaited.step osloOnly).view.catalog) ∧
    ∀ t, (bothAwaited.view.perform osloOnly).1.pivot = some t →
      t.query.Valid (bothAwaited.step osloOnly).view.catalog := by
  have hr : bothAwaited.Reachable := reachable_of_legal (by decide +kernel)
  exact ⟨hr, trivial, by decide +kernel, by decide +kernel, tickets_valid hr trivial⟩

end Record

end CrossFilter
