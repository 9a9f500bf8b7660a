import CrossFilter.Proofs.Superseding

/-!
# Refreshes

A refresh asks up to two questions at once and takes both answers when both are in. Neither section
sees the other's answer: `completeRefresh_eq` splits a refresh into what each section makes of its
own, which `Section.Takes` lists. By then either ticket may have been superseded; an answer to such a
one is dropped, and if it is a failure it is not reported.
-/

namespace CrossFilter

/-! ## One section -/

namespace Section

variable {Query Data : Type} {s s' : Section Query Data} {t : Ticket Query}
  {a : Except Failure (Outcome Data)} {e : Option (Answer Query Data)} {failure : Failure}

/-- What an answer makes of a section, if one comes. -/
inductive Takes (s : Section Query Data) : Option (Answer Query Data) → Section Query Data → Prop
  | unasked : Takes s none s
  | superseded (t : Ticket Query) (a : Except Failure (Outcome Data)) :
      t.number ≠ s.number → Takes s (some (t, a)) s
  | displayed (t : Ticket Query) (o : Outcome Data) : t.number = s.number →
      Takes s (some (t, .ok o))
        { s with slot := { phase := .displayed, outcome := some o, error := none } }
  /-- What was displayed before stays. -/
  | failed (t : Ticket Query) (failure : Failure) : t.number = s.number →
      Takes s (some (t, .error failure))
        { s with slot := { s.slot with phase := .failed, error := some failure.userMessage } }

/-- A failure comes in under the current ticket. -/
def FailsBy (s : Section Query Data) (e : Option (Answer Query Data)) (failure : Failure) : Prop :=
  ∃ t, e = some (t, .error failure) ∧ t.number = s.number

theorem takes_complete (s : Section Query Data) (t : Ticket Query)
    (a : Except Failure (Outcome Data)) : s.Takes (some (t, a)) (s.complete t a).2 := by
  by_cases h : t.number = s.number
  · cases a with
    | ok o => rw [complete_ok h]; exact .displayed t o h
    | error failure => rw [complete_error h]; exact .failed t failure h
  · rw [complete_of_ne h]
    exact .superseded t a h

theorem complete_error_iff :
    (s.complete t a).1 = .error failure ↔ s.FailsBy (some (t, a)) failure := by
  by_cases h : t.number = s.number
  · cases a with
    | ok o => simp [complete_ok h, FailsBy]
    | error cause => simp [complete_error h, FailsBy, h]
  · simp only [complete_of_ne h, FailsBy]
    constructor
    · nofun
    · rintro ⟨u, hu, hn⟩
      cases hu
      exact absurd hn h

/-- The current ticket's answer ends the waiting. -/
theorem Takes.phase_ne_loading (h : s.Takes e s') (he : e = some (t, a)) (ht : t.number = s.number) :
    s'.slot.phase ≠ .loading := by
  cases h with
  | unasked => cases he
  | superseded u b hu =>
    cases he
    exact absurd ht hu
  | displayed u o hu => exact nofun
  | failed u failure hu => exact nofun

end Section

/-! ## Both sections of a view -/

/-- The answers of a service to the tickets of a refresh. -/
def Refresh.answeredBy (tickets : Refresh) (service : Backend.Service Id) : View.RefreshAnswer where
  chart := tickets.chart.map fun t =>
    (t, (service.chart t.query.request).map fun response => response.outcome t.query.request)
  pivot := tickets.pivot.map fun t =>
    (t, (service.pivot t.query).map fun response => response.outcome t.query)

namespace View

theorem refresh_eq (v : View) (tickets : Refresh) (service : Backend.Service Id) :
    v.refresh (m := Id) service tickets = v.completeRefresh (tickets.answeredBy service) := by
  obtain ⟨chart, pivot⟩ := tickets
  cases chart <;> cases pivot <;> rfl

section

variable {v : View} {chart : Option (Answer Chart.Query Chart.Result)}
  {pivot : Option (Answer Pivot.Request Pivot.Table)} {failure : Failure}

theorem takes_completeChart? (v : View) (chart : Option (Answer Chart.Query Chart.Result)) :
    v.chart.Takes chart (v.completeChart? chart).2.chart := by
  cases chart with
  | none => exact .unasked
  | some e => exact v.chart.takes_complete e.1 e.2

theorem takes_completePivot? (v : View) (pivot : Option (Answer Pivot.Request Pivot.Table)) :
    v.pivot.Takes pivot (v.completePivot? pivot).2.pivot := by
  cases pivot with
  | none => exact .unasked
  | some e => exact v.pivot.takes_complete e.1 e.2

theorem completeChart?_error_iff :
    (v.completeChart? chart).1 = .error failure ↔ v.chart.FailsBy chart failure := by
  cases chart with
  | none => simp [completeChart?, Section.FailsBy]
  | some e => exact Section.complete_error_iff

theorem completePivot?_error_iff :
    (v.completePivot? pivot).1 = .error failure ↔ v.pivot.FailsBy pivot failure := by
  cases pivot with
  | none => simp [completePivot?, Section.FailsBy]
  | some e => exact Section.complete_error_iff

/-- The title changes with the chart that is displayed. -/
theorem completeChart?_title_of_displayed {t : Ticket Chart.Query} {o : Outcome Chart.Result}
    (h : t.number = v.chart.number) :
    (v.completeChart? (some (t, .ok o))).2.chartTitle = t.query.title := by
  simp [completeChart?, completeChart, Section.complete_ok h]

theorem completeChart?_title_of_not_displayed
    (h : ∀ t o, chart = some (t, .ok o) → t.number ≠ v.chart.number) :
    (v.completeChart? chart).2.chartTitle = v.chartTitle := by
  cases chart with
  | none => rfl
  | some e =>
    obtain ⟨t, a⟩ := e
    by_cases hn : t.number = v.chart.number
    · cases a with
      | ok o => exact absurd hn (h t o rfl)
      | error failure => simp [completeChart?, completeChart, Section.complete_error hn]
    · simp [completeChart?, completeChart, Section.complete_of_ne hn]

end

theorem firstFailure_pair_error_iff {x y : Except Failure Bool} {failure : Failure} :
    firstFailure [x, y] = .error failure ↔
      x = .error failure ∨ (∀ cause, x ≠ .error cause) ∧ y = .error failure := by
  cases x with
  | error cause => simp [firstFailure]
  | ok _ => cases y <;> simp [firstFailure]

/-- A refresh is put together from what each section makes of its answer on its own. -/
theorem completeRefresh_eq (v : View) (a : RefreshAnswer) : v.completeRefresh a =
    (firstFailure [(v.completeChart? a.chart).1, (v.completePivot? a.pivot).1],
      { v with
        chart := (v.completeChart? a.chart).2.chart
        chartTitle := (v.completeChart? a.chart).2.chartTitle
        pivot := (v.completePivot? a.pivot).2.pivot }) := by
  obtain ⟨chart, pivot⟩ := a
  cases chart <;> cases pivot <;> rfl

/-- What the answers to a refresh make of a view, and what the refresh then reports. -/
structure Refreshed (v : View) (a : RefreshAnswer) (report : Except Failure Unit) (after : View) :
    Prop where
  chart : v.chart.Takes a.chart after.chart
  pivot : v.pivot.Takes a.pivot after.pivot
  title_displayed : ∀ t o, a.chart = some (t, .ok o) → t.number = v.chart.number →
    after.chartTitle = t.query.title
  title_kept : (∀ t o, a.chart = some (t, .ok o) → t.number ≠ v.chart.number) →
    after.chartTitle = v.chartTitle
  framed : after = { v with
    chart := after.chart, chartTitle := after.chartTitle, pivot := after.pivot }
  /-- The chart's failure is reported before the pivot table's. -/
  reported : ∀ failure, report = .error failure ↔ v.chart.FailsBy a.chart failure ∨
    (∀ cause, ¬ v.chart.FailsBy a.chart cause) ∧ v.pivot.FailsBy a.pivot failure
  chart_over : ∀ t answer, a.chart = some (t, answer) → t.number = v.chart.number →
    after.chart.slot.phase ≠ .loading
  pivot_over : ∀ t answer, a.pivot = some (t, answer) → t.number = v.pivot.number →
    after.pivot.slot.phase ≠ .loading

theorem refreshed (v : View) (a : RefreshAnswer) :
    v.Refreshed a (v.completeRefresh a).1 (v.completeRefresh a).2 := by
  have hchart := v.takes_completeChart? a.chart
  have hpivot := v.takes_completePivot? a.pivot
  rw [completeRefresh_eq]
  exact {
    chart := hchart
    pivot := hpivot
    title_displayed := by
      intro t o he hn
      rw [he]
      exact completeChart?_title_of_displayed hn
    title_kept := completeChart?_title_of_not_displayed
    framed := rfl
    reported := by
      intro failure
      simp only [firstFailure_pair_error_iff, ne_eq, completeChart?_error_iff,
        completePivot?_error_iff]
    chart_over := fun _ _ => hchart.phase_ne_loading
    pivot_over := fun _ _ => hpivot.phase_ne_loading }

end View

namespace Record

/-- Handing in the answers of a refresh one by one, in either order, comes to the same. -/
theorem run_answers_of_refresh (r : Record) (a : View.RefreshAnswer) {ops : List Operation}
    (hops : ops.Perm (Operation.answers a.chart.toList a.pivot.toList)) :
    (r.run ops).view = (r.view.completeRefresh a).2 := by
  have hc : (a.chart.toList.map (·.1.number)).Nodup := by cases a.chart <;> simp
  have hp : (a.pivot.toList.map (·.1.number)).Nodup := by cases a.pivot <;> simp
  calc (r.run ops).view
      = ops.foldl (fun v op => (v.perform op).2) r.view := run_view r ops
    _ = (Operation.answers a.chart.toList a.pivot.toList).foldl (fun v op => (v.perform op).2)
          r.view :=
        (hops.symm.foldl_eq' (fun x hx y hy v => View.perform_comm hc hp hx hy v) r.view).symm
    _ = (r.view.completeRefresh a).2 := by
        obtain ⟨chart, pivot⟩ := a
        cases chart <;> cases pivot <;> rfl

/-- Both answers of a refresh are taken, each by its own section. -/
structure RefreshesBoth (r : Record) : Prop where
  asked : ∀ (tickets : Refresh) (service : Backend.Service Id),
    r.view.refresh (m := Id) service tickets = r.view.completeRefresh (tickets.answeredBy service)
  orders : ∀ (a : View.RefreshAnswer) (ops : List Operation),
    ops.Perm (Operation.answers a.chart.toList a.pivot.toList) →
    (r.run ops).view = (r.view.completeRefresh a).2
  answered : ∀ a : View.RefreshAnswer,
    r.view.Refreshed a (r.view.completeRefresh a).1 (r.view.completeRefresh a).2

theorem refreshes_both (r : Record) : r.RefreshesBoth where
  asked := r.view.refresh_eq
  orders a _ := r.run_answers_of_refresh a
  answered := r.view.refreshed

end Record

end CrossFilter
