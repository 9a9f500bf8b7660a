import CrossFilter.Proofs.PivotHistories
import CrossFilter.Proofs.Superseding

/-!
# Refused operations

Most operations are done as a whole or refused. `View.Refuses` lists when one is refused and with
which failure, and one that is refused leaves no trace, neither in the view nor in its tickets: it
hands back the view that it was given (`Keeps`, for each operation). What would have been asked of
the service is not asked either.

A query that is rejected does leave a trace: it supersedes all tickets of its section and shows why.
The chart that was displayed goes with it, the pivot table stays.
-/

namespace CrossFilter

/-- The failure that a result is, if it is one. -/
def failure? {ε α : Type} : Except ε α → Option ε
  | .error failure => some failure
  | .ok _ => none

theorem failure?_eq_some_iff {ε α : Type} {e : Except ε α} {failure : ε} :
    failure? e = some failure ↔ e = .error failure := by
  cases e <;> simp [failure?]

/-- The first of some changes that the catalog does not know is that of a column. -/
def View.FirstUnknown (v : View) (changes : List (String × Recast.Target)) (column : String) :
    Prop :=
  ∃ before target after, changes = before ++ (column, target) :: after ∧
    (∀ change ∈ before, v.catalog.contains change.1 = true) ∧ v.catalog.contains column = false

/-- The failure with which an operation is refused. Operations that are never refused as a whole
have none. -/
def View.refusal? (v : View) : Operation → Option Failure
  | .reload service => failure? (v.reload (m := Id) service).1
  | .recast changes service => failure? (v.recast (m := Id) service changes).1
  | .setX column => (failure? (v.setX column).1).map .rejected
  | .setY column => (failure? (v.setY column).1).map .rejected
  | .setKind kind => (failure? (v.setKind kind).1).map .rejected
  | .assign column zone => (failure? (v.assign column zone).1).map .rejected
  | .toggle column => (failure? (v.toggle column).1).map .rejected
  | .setAggregator column aggregator =>
    (failure? (v.setAggregator column aggregator).1).map .rejected
  | .addFilter column value => (failure? (v.addFilter column value).1).map .rejected
  | .click label => (failure? (v.click label).1).map .rejected
  | _ => none

/-- A column is named that the catalog does not know. -/
def View.Misses (v : View) (column : String) (failure : Failure) : Prop :=
  v.catalog.contains column = false ∧ failure = .rejected (.unknownColumn column)

/-- When an operation is refused, and why. -/
def View.Refuses (v : View) (failure : Failure) : Operation → Prop
  | .reload service => service.columns = .error failure
  | .recast changes service =>
    (∃ column, v.FirstUnknown changes column ∧ failure = .rejected (.unknownColumn column)) ∨
    changes ≠ [] ∧ (∀ change ∈ changes, v.catalog.contains change.1 = true) ∧
      (service.recast (.ofTargets changes) = .error failure ∨
        -- The columns are recast on the side of the service, and then not reported.
        service.recast (.ofTargets changes) = .ok () ∧ service.columns = .error failure)
  | .setX text | .setY text => ∃ column, Chart.meant? text = some column ∧ v.Misses column failure
  | .setKind kind => kind ∉ v.selection.kinds ∧ failure = .rejected (.kindNotAllowed kind.name)
  | .assign column _ | .toggle column | .addFilter column _ => v.Misses column failure
  | .setAggregator column _ => column ∉ v.assignment.values.map Pivot.ValueField.column ∧
      failure = .rejected (.notAValueField column)
  | .click _ => ∃ column, v.clickColumn? = some column ∧ v.Misses column failure
  | _ => False

namespace View

variable {v : View}

/-! ## What is refused -/

theorem chosen?_error_iff {catalog : Catalog} {text : Option String} {cause : Rejection} :
    Chart.chosen? catalog text = .error cause ↔ ∃ column, Chart.meant? text = some column ∧
      catalog.contains column = false ∧ cause = .unknownColumn column := by
  rw [Chart.chosen?_eq]
  cases Chart.meant? text with
  | none => simp
  | some column =>
    cases hc : catalog.contains column with
    | true => simp [hc]
    | false => simp [hc, eq_comm (a := cause)]

theorem setX_error_iff {text : Option String} {cause : Rejection} :
    (v.setX text).1 = .error cause ↔ ∃ column, Chart.meant? text = some column ∧
      v.catalog.contains column = false ∧ cause = .unknownColumn column := by
  rw [← chosen?_error_iff]
  show (v.selection.setX v.catalog text).1 = .error cause ↔ _
  unfold Chart.Selection.setX
  cases Chart.chosen? v.catalog text <;> simp

theorem setY_error_iff {text : Option String} {cause : Rejection} :
    (v.setY text).1 = .error cause ↔ ∃ column, Chart.meant? text = some column ∧
      v.catalog.contains column = false ∧ cause = .unknownColumn column := by
  rw [← chosen?_error_iff]
  show (v.selection.setY v.catalog text).1 = .error cause ↔ _
  unfold Chart.Selection.setY
  cases Chart.chosen? v.catalog text <;> simp

theorem setKind_error_iff {kind : Chart.Kind} {cause : Rejection} :
    (v.setKind kind).1 = .error cause ↔
      kind ∉ v.selection.kinds ∧ cause = .kindNotAllowed kind.name := by
  show (v.selection.setKind kind).1 = .error cause ↔ _
  unfold Chart.Selection.setKind
  by_cases hk : kind ∈ v.selection.kinds
  · simp [hk]
  · simp [hk, eq_comm]

theorem assign_error_iff {column : String} {zone : Pivot.Zone} {cause : Rejection} :
    (v.assign column zone).1 = .error cause ↔
      v.catalog.contains column = false ∧ cause = .unknownColumn column := by
  unfold assign
  cases v.catalog.contains column <;> simp [eq_comm]

theorem toggle_error_iff {column : String} {cause : Rejection} :
    (v.toggle column).1 = .error cause ↔
      v.catalog.contains column = false ∧ cause = .unknownColumn column := by
  unfold toggle Catalog.typeOf? Catalog.contains
  cases v.catalog.find? column <;> simp [eq_comm]

theorem setAggregator_error_iff {column : String} {aggregator : Pivot.Aggregator}
    {cause : Rejection} : (v.setAggregator column aggregator).1 = .error cause ↔
      column ∉ v.assignment.values.map Pivot.ValueField.column ∧
        cause = .notAValueField column :=
  Pivot.Assignment.setAggregator_error_iff

theorem addFilter_error_iff {column : String} {value : Scalar} {cause : Rejection} :
    (v.addFilter column value).1 = .error cause ↔
      v.catalog.contains column = false ∧ cause = .unknownColumn column := by
  cases hc : v.catalog.contains column with
  | false => simp [addFilter_of_not_contains hc, eq_comm]
  | true => simp [addFilter_of_contains hc]

theorem click_error_iff {label : String} {cause : Rejection} :
    (v.click label).1 = .error cause ↔ ∃ column, v.clickColumn? = some column ∧
      v.catalog.contains column = false ∧ cause = .unknownColumn column := by
  unfold click
  cases v.clickColumn? with
  | none => simp
  | some column => simp [addFilter_error_iff]

theorem find?_unknown_iff {changes : List (String × Recast.Target)} {column : String} :
    (∃ target, changes.find? (fun change => !v.catalog.contains change.1) = some (column, target)) ↔
      v.FirstUnknown changes column := by
  simp only [List.find?_eq_some_iff_append, FirstUnknown, Bool.not_eq_true', Bool.not_eq_false']
  constructor
  · rintro ⟨target, hunknown, before, after, hchanges, hbefore⟩
    exact ⟨before, target, after, hchanges, hbefore, hunknown⟩
  · rintro ⟨before, target, after, hchanges, hbefore, hunknown⟩
    exact ⟨target, hunknown, before, after, hchanges, hbefore⟩

theorem exists_firstUnknown {changes : List (String × Recast.Target)}
    (h : ∃ change ∈ changes, v.catalog.contains change.1 = false) :
    ∃ column, v.FirstUnknown changes column := by
  obtain ⟨change, hc, hunknown⟩ := h
  have hsome : (changes.find? fun change => !v.catalog.contains change.1).isSome = true :=
    List.find?_isSome.2 ⟨change, hc, by simp [hunknown]⟩
  obtain ⟨found, hfound⟩ := Option.isSome_iff_exists.1 hsome
  exact ⟨found.1, find?_unknown_iff.1 ⟨found.2, hfound⟩⟩

section

variable {changes : List (String × Recast.Target)} {column : String}
  (h : v.FirstUnknown changes column)

include h

theorem FirstUnknown.ne_nil : changes ≠ [] := by
  obtain ⟨before, target, after, rfl, -, -⟩ := h
  simp

theorem recastRequest_of_unknown :
    v.recastRequest changes = .error (.unknownColumn column) := by
  obtain ⟨target, hfind⟩ := find?_unknown_iff.2 h
  rw [recastRequest, hfind]

/-- Nothing is asked, whatever asking would do. -/
theorem recast_of_unknown {m : Type → Type} [Monad m] (service : Backend.Service m) :
    v.recast service changes = pure (.error (.rejected (.unknownColumn column)), v) := by
  rw [recast, if_neg (by simpa using h.ne_nil), recastRequest_of_unknown h]

end

section

variable {changes : List (String × Recast.Target)} {service : Backend.Service Id}

theorem reload_error_iff {failure : Failure} :
    (v.reload (m := Id) service).1 = .error failure ↔ service.columns = .error failure := by
  obtain ⟨columns, _, _, _⟩ := service
  cases columns with
  | error cause => exact ⟨fun h => by cases h; rfl, fun h => by cases h; rfl⟩
  | ok catalog => exact ⟨nofun, nofun⟩

theorem reload_of_error {failure : Failure} (h : service.columns = .error failure) :
    v.reload (m := Id) service = (.error failure, v) := by
  simp [reload, bind, pure, h]
  rfl

theorem recast_of_known (hne : changes ≠ [])
    (h : ∀ change ∈ changes, v.catalog.contains change.1 = true) :
    v.recast (m := Id) service changes = match service.recast (.ofTargets changes) with
      | .error failure => (.error failure, v)
      | .ok () => v.reload (m := Id) service := by
  have hnone : changes.find? (fun change => !v.catalog.contains change.1) = none :=
    List.find?_eq_none.2 fun change hc => by simp [h change hc]
  rw [recast, if_neg (by simpa using hne), recastRequest, hnone]
  rfl

theorem recast_of_refuses {failure : Failure} (h : v.Refuses failure (.recast changes service)) :
    v.recast (m := Id) service changes = (.error failure, v) := by
  rw [Refuses] at h
  rcases h with ⟨column, hfirst, rfl⟩ | ⟨hne, hknown, hrecast | ⟨hrecast, hcolumns⟩⟩
  · exact recast_of_unknown hfirst service
  · rw [recast_of_known hne hknown, hrecast]
  · rw [recast_of_known hne hknown, hrecast]
    exact reload_of_error hcolumns

theorem recast_error_iff {failure : Failure} :
    (v.recast (m := Id) service changes).1 = .error failure ↔
      v.Refuses failure (.recast changes service) := by
  constructor
  · rw [Refuses]
    intro h
    by_cases hne : changes = []
    · subst hne
      cases h
    by_cases hknown : ∀ change ∈ changes, v.catalog.contains change.1 = true
    · refine .inr ⟨hne, hknown, ?_⟩
      rw [recast_of_known hne hknown] at h
      cases hrecast : service.recast (.ofTargets changes) with
      | error cause =>
        rw [hrecast] at h
        cases h
        exact .inl rfl
      | ok done =>
        rw [hrecast] at h
        exact .inr ⟨rfl, reload_error_iff.1 h⟩
    · have hunknown : ∃ change ∈ changes, v.catalog.contains change.1 = false := by
        simpa using hknown
      obtain ⟨column, hfirst⟩ := exists_firstUnknown hunknown
      rw [recast_of_unknown hfirst] at h
      cases h
      exact .inl ⟨column, hfirst, rfl⟩
  · intro h
    rw [recast_of_refuses h]

end

theorem map_rejected_eq_some_iff {α : Type} {e : Except Rejection α} {failure : Failure} :
    (failure? e).map .rejected = some failure ↔
      ∃ cause, e = .error cause ∧ failure = .rejected cause := by
  cases e <;> simp [failure?, eq_comm]

/-- What is listed is refused, and nothing else is. -/
theorem refusal?_eq_some_iff {op : Operation} {failure : Failure} :
    v.refusal? op = some failure ↔ v.Refuses failure op := by
  cases op with
  | reload service => rw [refusal?, failure?_eq_some_iff, reload_error_iff, Refuses]
  | recast changes service => rw [refusal?, failure?_eq_some_iff, recast_error_iff]
  | setX text =>
    rw [refusal?, map_rejected_eq_some_iff]
    simp [setX_error_iff, Refuses, Misses, and_assoc]
  | setY text =>
    rw [refusal?, map_rejected_eq_some_iff]
    simp [setY_error_iff, Refuses, Misses, and_assoc]
  | setKind kind =>
    rw [refusal?, map_rejected_eq_some_iff]
    simp [setKind_error_iff, Refuses, and_assoc]
  | assign column zone =>
    rw [refusal?, map_rejected_eq_some_iff]
    simp [assign_error_iff, Refuses, Misses, and_assoc]
  | toggle column =>
    rw [refusal?, map_rejected_eq_some_iff]
    simp [toggle_error_iff, Refuses, Misses, and_assoc]
  | setAggregator column aggregator =>
    rw [refusal?, map_rejected_eq_some_iff]
    simp only [setAggregator_error_iff, Refuses, and_assoc]
    simp
  | addFilter column value =>
    rw [refusal?, map_rejected_eq_some_iff]
    simp [addFilter_error_iff, Refuses, Misses, and_assoc]
  | click label =>
    rw [refusal?, map_rejected_eq_some_iff]
    simp [click_error_iff, Refuses, Misses, and_assoc]
  | _ => simp [refusal?, Refuses]

/-! ## What is left of it -/

end View

/-- Where a step is refused, it leaves the state that it was made in. -/
def Keeps {σ α : Type} (s : σ) (step : Except Rejection α × σ) : Prop :=
  ∀ cause, step.1 = .error cause → step.2 = s

namespace Chart.Selection

variable (s : Selection) (catalog : Catalog)

theorem keeps_setX (text : Option String) : Keeps s (s.setX catalog text) := by
  intro cause h
  unfold setX at h ⊢
  cases hc : chosen? catalog text with
  | ok x => rw [hc] at h; cases h
  | error cause' => rfl

theorem keeps_setY (text : Option String) : Keeps s (s.setY catalog text) := by
  intro cause h
  unfold setY at h ⊢
  cases hc : chosen? catalog text with
  | ok y => rw [hc] at h; cases h
  | error cause' => rfl

theorem keeps_setKind (kind : Kind) : Keeps s (s.setKind kind) := by
  intro cause h
  unfold setKind at h ⊢
  split at h
  · cases h
  · next hk => rw [if_neg hk]

end Chart.Selection

theorem Pivot.Assignment.keeps_setAggregator (a : Assignment) (column : String) (g : Aggregator) :
    Keeps a (a.setAggregator column g) := by
  intro cause h
  have hnone : a.aggregatorOf? column = none := by
    have hnot := (setAggregator_error_iff.1 h).1
    rw [mem_column_values_iff] at hnot
    exact Option.eq_none_iff_forall_ne_some.2 fun g' hg' => hnot ⟨g', hg'⟩
  rw [setAggregator_of_none hnone]

namespace View

variable {v : View}

/-- A step of the selection is one of the view. -/
theorem keeps_select {α : Type} {step : Except Rejection α × Chart.Selection}
    (h : Keeps v.selection step) : Keeps v (step.1, { v with selection := step.2 }) := by
  intro cause hcause
  show { v with selection := step.2 } = v
  rw [h cause hcause]

/-- A step of the assignment is one of the view. -/
theorem keeps_place {α : Type} {step : Except Rejection α × Pivot.Assignment}
    (h : Keeps v.assignment step) : Keeps v (step.1, { v with assignment := step.2 }) := by
  intro cause hcause
  show { v with assignment := step.2 } = v
  rw [h cause hcause]

theorem keeps_setX (text : Option String) : Keeps v (v.setX text) :=
  keeps_select (v.selection.keeps_setX v.catalog text)

theorem keeps_setY (text : Option String) : Keeps v (v.setY text) :=
  keeps_select (v.selection.keeps_setY v.catalog text)

theorem keeps_setKind (kind : Chart.Kind) : Keeps v (v.setKind kind) :=
  keeps_select (v.selection.keeps_setKind kind)

theorem keeps_assign (column : String) (zone : Pivot.Zone) : Keeps v (v.assign column zone) := by
  intro cause h
  rw [assign_snd, (assign_error_iff.1 h).1]
  rfl

theorem keeps_toggle (column : String) : Keeps v (v.toggle column) := by
  intro cause h
  have hnone : v.catalog.typeOf? column = none := by
    simpa [Catalog.contains, Catalog.typeOf?] using (toggle_error_iff.1 h).1
  rw [toggle_snd, hnone]

theorem keeps_setAggregator (column : String) (aggregator : Pivot.Aggregator) :
    Keeps v (v.setAggregator column aggregator) :=
  keeps_place (v.assignment.keeps_setAggregator column aggregator)

theorem keeps_addFilter (column : String) (value : Scalar) :
    Keeps v (v.addFilter column value) := by
  intro cause h
  rw [addFilter_of_not_contains (addFilter_error_iff.1 h).1]

theorem keeps_click (label : String) : Keeps v (v.click label) := by
  intro cause h
  obtain ⟨column, hcolumn, -⟩ := click_error_iff.1 h
  unfold click at h ⊢
  rw [hcolumn] at h ⊢
  exact keeps_addFilter _ _ cause h

theorem eq_of_refusal {α : Type} {step : Except Rejection α × View} (hk : Keeps v step)
    {failure : Failure} (h : (failure? step.1).map .rejected = some failure) :
    ∃ cause, step = (.error cause, v) := by
  obtain ⟨cause, hcause, -⟩ := map_rejected_eq_some_iff.1 h
  exact ⟨cause, Prod.ext hcause (hk cause hcause)⟩

/-- What is refused hands out no ticket and leaves the view as it was. -/
theorem perform_of_refusal {op : Operation} {failure : Failure}
    (h : v.refusal? op = some failure) : v.perform op = ({}, v) := by
  cases op with
  | reload service =>
    rw [refusal?_eq_some_iff, Refuses] at h
    rw [perform, reload_of_error h]
  | recast changes service =>
    rw [refusal?_eq_some_iff] at h
    rw [perform, recast_of_refuses h]
  | setX text =>
    obtain ⟨cause, hstep⟩ := eq_of_refusal (keeps_setX text) h
    rw [perform, hstep]
  | setY text =>
    obtain ⟨cause, hstep⟩ := eq_of_refusal (keeps_setY text) h
    rw [perform, hstep]
  | setKind kind =>
    obtain ⟨cause, hstep⟩ := eq_of_refusal (keeps_setKind kind) h
    rw [perform, hstep]
  | assign column zone =>
    obtain ⟨cause, hstep⟩ := eq_of_refusal (keeps_assign column zone) h
    rw [perform, hstep]
  | toggle column =>
    obtain ⟨cause, hstep⟩ := eq_of_refusal (keeps_toggle column) h
    rw [perform, hstep]
  | setAggregator column aggregator =>
    obtain ⟨cause, hstep⟩ := eq_of_refusal (keeps_setAggregator column aggregator) h
    rw [perform, hstep]
  | addFilter column value =>
    obtain ⟨cause, hstep⟩ := eq_of_refusal (keeps_addFilter column value) h
    rw [perform, hstep]
    rfl
  | click label =>
    obtain ⟨cause, hstep⟩ := eq_of_refusal (keeps_click label) h
    rw [perform, hstep]
    rfl
  | _ => cases h

theorem chartRequest_of_error {cause : Rejection} (h : v.beginChart.1 = .error cause) :
    v.chartRequest = .error cause := by
  cases hq : v.chartRequest with
  | ok request =>
    rw [beginChart_ok hq] at h
    cases h
  | error cause' =>
    rw [beginChart_error hq] at h
    cases h
    rfl

theorem pivotRequest_of_error {cause : Rejection} (h : v.beginPivot.1 = .error cause) :
    v.pivotRequest = .error cause := by
  cases hq : v.pivotRequest with
  | ok request =>
    rw [beginPivot_ok hq] at h
    cases h
  | error cause' =>
    rw [beginPivot_error hq] at h
    cases h
    rfl

/-- Nothing is asked about a rejected chart. -/
theorem generateChart_of_error {cause : Rejection} (h : v.chartRequest = .error cause)
    {m : Type → Type} [Monad m] (service : Backend.Service m) :
    v.generateChart service = pure (.error (.rejected cause), v.beginChart.2) := by
  rw [generateChart, beginChart_error h]

/-- Nothing is asked about a rejected pivot table. -/
theorem generatePivot_of_error {cause : Rejection} (h : v.pivotRequest = .error cause)
    {m : Type → Type} [Monad m] (service : Backend.Service m) :
    v.generatePivot service = pure (.error (.rejected cause), v.beginPivot.2) := by
  rw [generatePivot, beginPivot_error h]

end View

/-! ## Rejected queries -/

theorem Track.Coherent.stale_of_reject {Query Data : Type} [Filtered Query] {k : Track Query Data}
    (h : k.Coherent) (slot : Slot Data) {t : Ticket Query} (ht : t ∈ k.log.issued) :
    Track.Stale { k with part := k.part.reject slot } t :=
  ⟨ht, Nat.ne_of_lt (Nat.lt_succ_of_le (h.bounded t ht))⟩

namespace Record

/-- A chart that is rejected. -/
structure ChartRejected (r : Record) (cause : Rejection) : Prop where
  left : r.step .beginChart = { r with view := { r.view with
    chartTitle := none
    chart := { r.view.chart with
      slot := { phase := .failed, outcome := none, error := some cause.message }
      number := r.view.chart.number + 1 } } }
  superseded : ∀ t ∈ r.charts.issued, ∀ s, (r.step .beginChart).Run s →
    ∀ answer, s.view.completeChart t answer = (.ok false, s.view)
  unasked : ∀ (m : Type → Type) [Monad m] (service : Backend.Service m),
    r.view.generateChart service = pure (.error (.rejected cause), (r.step .beginChart).view)

/-- A pivot table that is rejected. -/
structure PivotRejected (r : Record) (cause : Rejection) : Prop where
  left : r.step .beginPivot = { r with view := { r.view with
    pivot := { r.view.pivot with
      slot := { r.view.pivot.slot with phase := .failed, error := some cause.message }
      number := r.view.pivot.number + 1 } } }
  superseded : ∀ t ∈ r.pivots.issued, ∀ s, (r.step .beginPivot).Run s →
    ∀ answer, s.view.completePivot t answer = (.ok false, s.view)
  unasked : ∀ (m : Type → Type) [Monad m] (service : Backend.Service m),
    r.view.generatePivot service = pure (.error (.rejected cause), (r.step .beginPivot).view)

structure Traceless (r : Record) : Prop where
  refused_iff : ∀ op failure, r.view.refusal? op = some failure ↔ r.view.Refuses failure op
  refused : ∀ op failure, r.view.refusal? op = some failure → r.step op = r
  /-- A recast that names an unknown column asks nothing. -/
  unasked : ∀ changes, (∃ change ∈ changes, r.view.catalog.contains change.1 = false) →
    ∃ column, r.view.FirstUnknown changes column ∧
      ∀ (m : Type → Type) [Monad m] (service : Backend.Service m), r.view.recast service changes =
        pure (.error (.rejected (.unknownColumn column)), r.view)
  chart : ∀ cause, r.view.beginChart.1 = .error cause → r.ChartRejected cause
  pivot : ∀ cause, r.view.beginPivot.1 = .error cause → r.PivotRejected cause

variable {r : Record} {cause : Rejection}

theorem Reachable.chart_rejected (h : r.Reachable) (hc : r.view.beginChart.1 = .error cause) :
    r.ChartRejected cause := by
  have hrequest := View.chartRequest_of_error hc
  have hbegin := View.beginChart_error hrequest
  have hstep : r.step .beginChart = { r with view := { r.view with
      chart := r.view.chart.reject (r.view.chart.slot.failAndClear cause.message)
      chartTitle := none } } := by
    rw [step, View.perform, hbegin]
    rfl
  constructor
  case left => exact hstep
  case superseded =>
    intro t ht s hs answer
    have hstale : (r.step .beginChart).chartTrack.Stale t := by
      rw [hstep]
      exact h.coherent.chart.stale_of_reject _ ht
    have hnext := h.coherent.step (show Operation.beginChart.Allowed r from trivial)
    have hlate := hnext.chart_stale hstale hs
    exact View.completeChart_of_ne hlate.2 answer
  case unasked =>
    intro m _ service
    rw [View.generateChart_of_error hrequest, hbegin, hstep]

theorem Reachable.pivot_rejected (h : r.Reachable) (hc : r.view.beginPivot.1 = .error cause) :
    r.PivotRejected cause := by
  have hrequest := View.pivotRequest_of_error hc
  have hbegin := View.beginPivot_error hrequest
  have hstep : r.step .beginPivot = { r with view := { r.view with
      pivot := r.view.pivot.reject (r.view.pivot.slot.fail cause.message) } } := by
    rw [step, View.perform, hbegin]
    rfl
  constructor
  case left => exact hstep
  case superseded =>
    intro t ht s hs answer
    have hstale : (r.step .beginPivot).pivotTrack.Stale t := by
      rw [hstep]
      exact h.coherent.pivot.stale_of_reject _ ht
    have hnext := h.coherent.step (show Operation.beginPivot.Allowed r from trivial)
    have hlate := hnext.pivot_stale hstale hs
    exact View.completePivot_of_ne hlate.2 answer
  case unasked =>
    intro m _ service
    rw [View.generatePivot_of_error hrequest, hbegin, hstep]

/-- What is refused leaves no trace, and of what is rejected only the rejection is left. -/
theorem refused_traceless (h : r.Reachable) : r.Traceless where
  refused_iff _ _ := View.refusal?_eq_some_iff
  refused op failure hop := by
    have hperform := View.perform_of_refusal hop
    cases op with
    | completeChart t a => cases hop
    | completePivot t a => cases hop
    | _ => exact step_of_perform rfl rfl hperform
  unasked changes hc := by
    obtain ⟨column, hfirst⟩ := View.exists_firstUnknown hc
    exact ⟨column, hfirst, fun m _ service => View.recast_of_unknown hfirst service⟩
  chart _ hc := h.chart_rejected hc
  pivot _ hp := h.pivot_rejected hp

/-- A chart is awaited when its column is lost to the selection, and no pivot table is assigned. -/
def rejectable : Record := (start .default).run [.reload .sample, .setX (some "region"),
  .beginChart, .setX none]

theorem refused_traceless_rejectable : rejectable.Reachable ∧
    rejectable.view.beginChart.1 = .error .xRequired ∧ rejectable.charts.issued ≠ [] ∧
    rejectable.view.beginPivot.1 = .error .rowsRequired ∧
    rejectable.view.refusal? (.setX (some "town")) = some (.rejected (.unknownColumn "town")) ∧
    rejectable.Traceless := by
  have hr : rejectable.Reachable := reachable_of_legal (by decide +kernel)
  exact ⟨hr, by decide +kernel, by decide +kernel, by decide +kernel, by decide +kernel,
    refused_traceless hr⟩

end Record

end CrossFilter
