import CrossFilter.Proofs.Coherence
import CrossFilter.Proofs.Requests

/-!
# A filter that is added again

Adding a filter whose value is there already is no change, so nothing is asked again. Whether a
value is there already is decided by the equality of values, and NaN is not equal to itself: as long
as a section shows or awaits a result, adding the filter NaN asks for it again and again.
`readded_iff` says that this is the only exception, and `nan_added_twice` is a run that meets it.
-/

namespace CrossFilter

theorem Scalar.same_self_iff {v : Scalar} : v.same v = true ↔ v ≠ .number .nan := by
  cases v with
  | null => simp [same]
  | bool b => simp [same]
  | text s => simp [same]
  | number d => cases d <;> simp [same, Number.Binary64.same]

/-- Nothing is equal to NaN. -/
theorem Scalar.not_same_nan (v : Scalar) : v.same (.number .nan) = false := by
  cases v with
  | number d => cases d <;> rfl
  | _ => rfl

namespace Filters

variable {fs : Filters} {column : String} {value : Scalar}

theorem any_same_upsert_iff :
    ((fs.upsert column value).get? column).any (·.same value) = true ↔ value ≠ .number .nan := by
  unfold upsert
  split
  · next hsame =>
    refine iff_of_true hsame ?_
    rintro rfl
    simp [Scalar.not_same_nan] at hsame
  · simp [get?_insert, Scalar.same_self_iff]

theorem upsert_upsert : (fs.upsert column value).upsert column value = fs.upsert column value := by
  by_cases hsame : (fs.get? column).any (·.same value) = true
  · simp [upsert, hsame]
  · have hfirst : fs.upsert column value = fs.insert column value := if_neg hsame
    have hthere : (fs.insert column value).get? column = some value := by simp [get?_insert]
    rw [hfirst]
    unfold upsert
    split
    · rfl
    · exact insert_eq_self hthere

end Filters

namespace Section

variable {Query Data : Type} {s : Section Query Data}

/-- What shows or awaits something awaits something afterwards, and nothing else does. -/
theorem isActive_reissue (change : Query → Query) :
    (s.reissue change).2.slot.isActive = s.slot.isActive := by
  cases ha : s.slot.isActive with
  | false => rw [reissue_of_inactive ha, ha]
  | true =>
    rcases s.reissue_cases change with hr | ⟨q, -, hr⟩
    · rw [hr, ha]
    · rw [hr]
      exact Slot.isActive_of_loading rfl

/-- A section with a query to issue again keeps quiet only where nothing is shown or awaited. -/
theorem reissue_eq_none_iff (hlast : s.slot.isActive = true → ∃ q, s.last = some q)
    (change : Query → Query) : s.reissue change = (none, s) ↔ s.slot.isActive = false := by
  cases ha : s.slot.isActive with
  | false => exact iff_of_true (reissue_of_inactive ha change) rfl
  | true =>
    obtain ⟨q, hq⟩ := hlast ha
    rw [reissue_of_active ha hq]
    simp

end Section

namespace View

variable {v : View} {column : String} (hc : v.catalog.contains column = true) (value : Scalar)

include hc

theorem exists_addFilter : ∃ tickets w, v.addFilter column value = (.ok tickets, w) ∧
    w.catalog = v.catalog ∧ w.filters = v.filters.upsert column value ∧
    w.chart.slot.isActive = v.chart.slot.isActive ∧
    w.pivot.slot.isActive = v.pivot.slot.isActive := by
  rw [addFilter_of_contains hc]
  cases !(v.filters.get? column).any (Scalar.same · value) with
  | false => exact ⟨_, _, rfl, rfl, rfl, rfl, rfl⟩
  | true => exact ⟨_, _, rfl, rfl, rfl, Section.isActive_reissue _, Section.isActive_reissue _⟩

omit hc in
theorem reissue_eq_none_iff (hchart : v.chart.slot.isActive = true → ∃ q, v.chart.last = some q)
    (hpivot : v.pivot.slot.isActive = true → ∃ q, v.pivot.last = some q) :
    v.reissue = ({}, v) ↔ v.chart.slot.isActive = false ∧ v.pivot.slot.isActive = false := by
  rw [← Section.reissue_eq_none_iff hchart fun q =>
      { q with request := { q.request with filters := v.filters } },
    ← Section.reissue_eq_none_iff hpivot fun q => { q with filters := v.filters }]
  obtain ⟨tab, catalog, selection, assignment, filters, chart, title, pivot⟩ := v
  simp only [reissue, Refresh.mk.injEq, View.mk.injEq, Prod.ext_iff]
  tauto

/-- A filter that was just set is set again. -/
theorem addFilter_eq_none_iff {fs : Filters} (hfs : v.filters = fs.upsert column value)
    (hchart : v.chart.slot.isActive = true → ∃ q, v.chart.last = some q)
    (hpivot : v.pivot.slot.isActive = true → ∃ q, v.pivot.last = some q) :
    v.addFilter column value = (.ok {}, v) ↔ value ≠ .number .nan ∨
      v.chart.slot.isActive = false ∧ v.pivot.slot.isActive = false := by
  have hthere : { v with filters := v.filters.upsert column value } = v := by
    rw [hfs, Filters.upsert_upsert, ← hfs]
  have hsame : (v.filters.get? column).any (Scalar.same · value) = true ↔ value ≠ .number .nan := by
    rw [hfs]
    exact Filters.any_same_upsert_iff
  have hpair : ∀ p : Refresh × View, p.map .ok id = ((.ok {} : Except Rejection Refresh), v) ↔
      p = ({}, v) := by
    intro p
    simp [Prod.ext_iff]
  rw [addFilter_of_contains hc, hthere, hpair]
  by_cases hn : value ≠ .number .nan
  · rw [hsame.2 hn]
    exact iff_of_true rfl (.inl hn)
  · have hchange : (v.filters.get? column).any (Scalar.same · value) = false :=
      Bool.eq_false_iff.2 fun h => hn (hsame.1 h)
    rw [hchange, or_iff_right hn]
    exact reissue_eq_none_iff hchart hpivot

end View

namespace Record

variable {r : Record}

/-- Adding a filter for the second time is no change, unless its value is NaN. It still does nothing
then, as long as no section shows or awaits anything. -/
theorem readded_iff (h : r.Reachable) {column : String}
    (hc : r.view.catalog.contains column = true) (value : Scalar) :
    ∃ tickets v, r.view.addFilter column value = (.ok tickets, v) ∧
      (v.addFilter column value = (.ok {}, v) ↔ value ≠ .number .nan ∨
        r.view.chart.slot.isActive = false ∧ r.view.pivot.slot.isActive = false) := by
  obtain ⟨tickets, v, hadd, hcatalog, hfilters, hchart, hpivot⟩ := View.exists_addFilter hc value
  -- The view in between is reached by a run, too, so what it shows or awaits can be asked again.
  have hview : (r.step (.addFilter column value)).view = v := by
    show (r.view.addFilter column value).2 = v
    rw [hadd]
  have hnext := h.coherent.step (show (Operation.addFilter column value).Allowed r from trivial)
  refine ⟨tickets, v, hadd, ?_⟩
  rw [← hchart, ← hpivot]
  refine View.addFilter_eq_none_iff (hcatalog ▸ hc) value hfilters ?_ ?_
  · exact hview ▸ hnext.chart.exists_last
  · exact hview ▸ hnext.pivot.exists_last

theorem readded_iff_bothAwaited : bothAwaited.Reachable ∧
    bothAwaited.view.catalog.contains "city" = true ∧
    bothAwaited.view.chart.slot.isActive = true ∧ bothAwaited.view.pivot.slot.isActive = true ∧
    ∃ tickets v, bothAwaited.view.addFilter "city" (.text "Oslo") = (.ok tickets, v) ∧
      (v.addFilter "city" (.text "Oslo") = (.ok {}, v) ↔ Scalar.text "Oslo" ≠ .number .nan ∨
        bothAwaited.view.chart.slot.isActive = false ∧
          bothAwaited.view.pivot.slot.isActive = false) := by
  have hr : bothAwaited.Reachable := reachable_of_legal (by decide +kernel)
  have hc : bothAwaited.view.catalog.contains "city" = true := by decide +kernel
  exact ⟨hr, hc, by decide +kernel, by decide +kernel, readded_iff hr hc _⟩

/-- A text typed for a column of numbers can stand for NaN. While a chart and a pivot table are
awaited, filtering on NaN twice asks for both twice. -/
theorem nan_added_twice : bothAwaited.Reachable ∧
    bothAwaited.view.catalog.contains "sales" = true ∧
    typedValue (bothAwaited.view.catalog.typeOf? "sales") "NaN" = .number .nan ∧
    ¬ ∀ tickets v, bothAwaited.view.addFilter "sales" (.number .nan) = (.ok tickets, v) →
      v.addFilter "sales" (.number .nan) = (.ok {}, v) := by
  refine ⟨reachable_of_legal (by decide +kernel), by decide +kernel, by decide +kernel, ?_⟩
  intro hquiet
  have hasked : ((bothAwaited.view.addFilter "sales" (.number .nan)).2.addFilter "sales"
      (.number .nan)).1.toOption.map Refresh.isEmpty = some false := by decide +kernel
  obtain ⟨tickets, v, hadd, -⟩ :=
    View.exists_addFilter (show bothAwaited.view.catalog.contains "sales" = true by decide +kernel)
      (.number .nan)
  rw [hadd, hquiet _ _ hadd] at hasked
  cases hasked

end Record

end CrossFilter
