import CrossFilter.Proofs.Coherence
import CrossFilter.Proofs.Requests

/-!
# Clicks and what they are made on

A click on the displayed chart filters on the X column of the chart that was asked for last. That is
the displayed chart's own column as long as no other chart is awaited and none has failed since. In
between, the displayed chart is an older one, and a click on it filters on a column that need not
hold the clicked label: `click_on_awaited_column` is such a run. `clicks_on_displayed_iff` tells the
two cases apart.
-/

namespace CrossFilter

/-! ## Setting a filter -/

theorem Scalar.eq_of_same_text {v : Scalar} {s : String} (h : v.same (.text s) = true) :
    v = .text s := by
  cases v with
  | null => simp [same] at h
  | bool b => simp [same] at h
  | number d => simp [same] at h
  | text t => simpa [same] using h

/-- What reads neither as a number nor as a truth value stays a text in every column. -/
theorem typedValue_eq_text {raw : String} (hn : Number.real? (Text.trim raw) = none)
    (ht : Text.trim raw ≠ "true") (hf : Text.trim raw ≠ "false") (type : Option ColumnType) :
    typedValue type raw = .text raw := by
  unfold typedValue
  split
  · rw [hn]; rfl
  · rw [hn]; rfl
  · simp [ht, hf]
  · rfl

/-- `gs` has the value on the column, or one that is the same, and agrees with `fs` elsewhere. -/
structure Filters.Sets (fs : Filters) (column : String) (value : Scalar) (gs : Filters) : Prop where
  here : ∃ v, gs.get? column = some v ∧ (v = value ∨ v.same value = true)
  elsewhere : ∀ c, c ≠ column → gs.get? c = fs.get? c

theorem Filters.sets_upsert (fs : Filters) (column : String) (value : Scalar) :
    fs.Sets column value (fs.upsert column value) where
  here := fs.get?_upsert_self column value
  elsewhere _ hc := get?_upsert_of_ne hc fs value

namespace View

variable {v : View}

theorem addFilter_sets {column : String} (hc : v.catalog.contains column = true) (value : Scalar) :
    ∃ tickets w, v.addFilter column value = (.ok tickets, w) ∧
      v.filters.Sets column value w.filters := by
  rw [addFilter_of_contains hc]
  refine ⟨_, (filtersChanged _ _).2, rfl, ?_⟩
  rw [filters_filtersChanged]
  exact v.filters.sets_upsert column value

/-- A click with a label goes through, and filters on one column alone. -/
def ClicksOn (v : View) (label column : String) : Prop :=
  ∃ tickets w, v.click label = (.ok tickets, w) ∧
    v.filters.Sets column (typedValue (v.catalog.typeOf? column) label) w.filters

theorem clicksOn_last {result : Chart.Result} {q : Chart.Query}
    (hdata : v.chart.slot.data? = some result) (hk : result.kind.isClickable = true)
    (hq : v.chart.last = some q) (hx : v.catalog.contains q.request.x = true) (label : String) :
    v.ClicksOn label q.request.x := by
  have hcolumn : v.clickColumn? = some q.request.x := by simp [clickColumn?, hdata, hq, hk]
  unfold ClicksOn click
  rw [hcolumn]
  exact addFilter_sets hx _

theorem ClicksOn.value {x y : String} {label : String} (hx : v.ClicksOn label x)
    (hy : v.ClicksOn label y) (hne : x ≠ y)
    (hlabel : typedValue (v.catalog.typeOf? y) label = .text label) :
    v.filters.get? y = some (.text label) := by
  obtain ⟨_, w, hw, hsets⟩ := hx
  obtain ⟨_, w', hw', ⟨u, hu, hvalue⟩, -⟩ := hy
  rw [hw] at hw'
  cases hw'
  rw [hlabel] at hvalue
  rw [← hsets.elsewhere y (Ne.symm hne), hu]
  rcases hvalue with rfl | hs
  · rfl
  · rw [Scalar.eq_of_same_text hs]

/-- Clicks filter on one column only: two labels tell two columns apart. -/
theorem ClicksOn.unique {x y : String} (hx : ∀ label, v.ClicksOn label x)
    (hy : ∀ label, v.ClicksOn label y) : x = y := by
  by_contra hne
  have ha : v.filters.get? y = some (.text "a") := by
    refine (hx "a").value (hy "a") hne (typedValue_eq_text ?_ ?_ ?_ _) <;> decide +kernel
  have hb : v.filters.get? y = some (.text "b") := by
    refine (hx "b").value (hy "b") hne (typedValue_eq_text ?_ ?_ ?_ _) <;> decide +kernel
  have hvalue : some (Scalar.text "a") = some (.text "b") := ha.symm.trans hb
  simp at hvalue

end View

/-! ## Clicks on what is displayed -/

theorem Log.shown?_of_head? {Query Data : Type} {l : Log Query Data} {t : Ticket Query}
    {o : Outcome Data} (h : l.taken.head? = some (t, .ok o)) : l.shown? = some (t, o) := by
  obtain ⟨rest, hrest⟩ := List.head?_eq_some_iff.1 h
  simp [shown?, hrest, Except.toOption]

namespace Record

variable {r : Record} {result : Chart.Result}

/-- The displayed chart was asked for with `t`, the last one with `q`. A click filters on the column
of `q`, so all clicks filter on the column of `t` just if that is the same one. -/
theorem clicks_on_displayed_iff (h : r.Reachable) (hdata : r.view.chart.slot.data? = some result)
    (hk : result.kind.isClickable = true) :
    ∃ t q, r.charts.shown? = some (t, .data result) ∧ r.view.chart.last = some q ∧
      (r.view.chart.slot.phase = .displayed → t.query = q) ∧
      (∀ label, r.view.ClicksOn label q.request.x) ∧
      ((∀ label, r.view.ClicksOn label t.query.request.x) ↔ t.query.request.x = q.request.x) := by
  have hc := h.coherent.chart
  have ho : r.view.chart.slot.outcome = some (.data result) := by
    obtain ⟨o, ho, hod⟩ := Option.bind_eq_some_iff.1 hdata
    cases o with
    | empty => cases hod
    | data a =>
      cases hod
      exact ho
  obtain ⟨hlast, t, ht⟩ := hc.outcome _ ho
  obtain ⟨q, hq⟩ := Option.isSome_iff_exists.1 hlast
  have hclicks : ∀ label, r.view.ClicksOn label q.request.x :=
    View.clicksOn_last hdata hk hq (h.stored.chart q hq).x
  refine ⟨t, q, ht, hq, ?_, hclicks, ?_, ?_⟩
  · intro hd
    obtain ⟨u, hu, hn, o, htaken, -⟩ := hc.displayed hd
    have htu : (t, Outcome.data result) = (u, o) :=
      Option.some.inj (ht.symm.trans (Log.shown?_of_head? htaken))
    cases htu
    exact Option.some.inj ((hc.current t hu hn).1.symm.trans hq)
  · intro hall
    exact View.ClicksOn.unique hall hclicks
  · intro heq label
    rw [heq]
    exact hclicks label

def northBar : Chart.Result := .series .bar ["North"] [none] "count"

/-- A chart of the regions is displayed, and one of the cities is awaited. -/
def citiesAwaited : Record := (start .default).run [.reload .sample, .setX (some "region"),
  .beginChart, .completeChart regionTicket (.ok (.data northBar)), .setX (some "city"), .beginChart]

theorem clicks_on_displayed_iff_citiesAwaited : citiesAwaited.Reachable ∧
    citiesAwaited.view.chart.slot.data? = some northBar ∧ northBar.kind.isClickable = true ∧
    ∃ t q, citiesAwaited.charts.shown? = some (t, .data northBar) ∧
      citiesAwaited.view.chart.last = some q ∧
      (citiesAwaited.view.chart.slot.phase = .displayed → t.query = q) ∧
      (∀ label, citiesAwaited.view.ClicksOn label q.request.x) ∧
      ((∀ label, citiesAwaited.view.ClicksOn label t.query.request.x) ↔
        t.query.request.x = q.request.x) := by
  have hr : citiesAwaited.Reachable := reachable_of_legal (by decide +kernel)
  have hdata : citiesAwaited.view.chart.slot.data? = some northBar := by decide +kernel
  exact ⟨hr, hdata, rfl, clicks_on_displayed_iff hr hdata rfl⟩

/-- A click on a region goes to the column of the cities. -/
theorem click_on_awaited_column : citiesAwaited.Reachable ∧
    citiesAwaited.charts.shown? = some (regionTicket, .data northBar) ∧
    (citiesAwaited.run [.click "North"]).view.filters.entries = [("city", .text "North")] ∧
    ¬ citiesAwaited.view.ClicksOn "North" regionTicket.query.request.x := by
  refine ⟨reachable_of_legal (by decide +kernel), by decide +kernel, by decide +kernel, ?_⟩
  rintro ⟨tickets, w, hw, ⟨value, hvalue, -⟩, -⟩
  have hnone : (citiesAwaited.view.click "North").2.filters.get? "region" = none := by
    decide +kernel
  rw [hw] at hnone
  have hsome : w.filters.get? "region" = some value := hvalue
  simp [hnone] at hsome

end Record

end CrossFilter
