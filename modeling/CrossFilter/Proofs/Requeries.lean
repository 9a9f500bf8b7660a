import CrossFilter.Proofs.Coherence
import CrossFilter.Proofs.Requests

/-!
# Queries that a change of the filters issues again

An edit of the filters that is a change asks the last query of each section again that shows or
awaits an outcome, and of no other: `filters_edited`. That such a section has a query to ask again
is what `Coherent.exists_last` says of every view that a run reaches.
-/

namespace CrossFilter

/-- What a user does to the filters. -/
inductive FilterEdit where
  | add (column : String) (value : Scalar)
  | remove (column : String)
  | clear

namespace FilterEdit

/-- Whether the edit changes some filters, and what it makes of them. -/
def edited (e : FilterEdit) (catalog : Catalog) (fs : Filters) : Except Rejection Bool × Filters :=
  match e with
  | .add column value => fs.add catalog column value
  | .remove column => (fs.remove column).map .ok id
  | .clear => fs.clear.map .ok id

/-- A section that is not asked again. Clearing the filters puts one without an outcome back to idle,
unless it awaits one. -/
def leave {Query Data : Type} (e : FilterEdit) (s : Section Query Data) : Section Query Data :=
  match e with
  | .clear =>
    if s.slot.outcome.isNone ∧ s.slot.phase ≠ .loading then
      { s with slot := { phase := .idle, outcome := none, error := none } }
    else s
  | _ => s

end FilterEdit

def View.edit (v : View) : FilterEdit → Except Rejection Refresh × View
  | .add column value => v.addFilter column value
  | .remove column => (v.removeFilter column).map .ok id
  | .clear => v.clearFilters.map .ok id

/-! ## One section -/

section

variable {Query Data : Type}

theorem FilterEdit.leave_clear (s : Section Query Data) : FilterEdit.clear.leave s = s.settle := by
  unfold leave
  dsimp only
  cases h : s.slot.isActive with
  | true =>
    have hnot : ¬ (s.slot.outcome.isNone ∧ s.slot.phase ≠ .loading) := by
      rw [← Slot.isActive_eq_false, h]
      exact Bool.noConfusion
    rw [if_neg hnot, Section.settle_of_active h]
  | false => rw [if_pos (Slot.isActive_eq_false.1 h), Section.settle_of_inactive h]

theorem FilterEdit.leave_of_active (e : FilterEdit) {s : Section Query Data}
    (h : s.slot.isActive = true) : e.leave s = s := by
  cases e with
  | add column value => rfl
  | remove column => rfl
  | clear => rw [leave_clear, Section.settle_of_active h]

theorem FilterEdit.isActive_leave (e : FilterEdit) (s : Section Query Data) :
    (e.leave s).slot.isActive = s.slot.isActive := by
  cases h : s.slot.isActive with
  | true => rw [leave_of_active e h, h]
  | false =>
    cases e with
    | add column value => exact h
    | remove column => exact h
    | clear => rw [leave_clear, Section.settle_of_inactive h]; rfl

variable [Filtered Query]

/-- What an edit that leaves the filters `fs` does to a section: the ticket that it hands out and
the section after it, which is `left` if there is none. -/
structure Track.Requeried (k : Track Query Data) (fs : Filters) (left : Section Query Data)
    (ticket : Option (Ticket Query)) (part : Section Query Data) : Prop where
  due : ticket.isSome = true ↔ k.part.slot.outcome.isSome = true ∨ k.part.slot.phase = .loading
  /-- The query handed out last, which is the one stored, is asked again under `fs`. -/
  asked : ∀ t, ticket = some t → ∃ newest, k.log.issued.head? = some newest ∧
    k.part.last = some newest.query ∧
    t = ⟨k.part.number + 1, Filtered.refilter newest.query fs⟩ ∧
    part = {
      slot := { k.part.slot with phase := .loading, error := none }
      number := k.part.number + 1
      last := some (Filtered.refilter newest.query fs) }
  quiet : ticket = none → part = left

theorem Track.Coherent.requeried {k : Track Query Data} (h : k.Coherent) (e : FilterEdit)
    (fs : Filters) :
    k.Requeried fs (e.leave k.part) ((e.leave k.part).reissue (Filtered.refilter · fs)).1
      ((e.leave k.part).reissue (Filtered.refilter · fs)).2 := by
  cases ha : k.part.slot.isActive with
  | true =>
    obtain ⟨q, hq⟩ := h.exists_last ha
    obtain ⟨newest, hnewest, rfl⟩ := h.last q hq
    rw [e.leave_of_active ha, Section.reissue_of_active ha hq]
    exact {
      due := iff_of_true rfl (Slot.isActive_iff.1 ha)
      asked := by
        rintro t ⟨⟩
        exact ⟨newest, hnewest, hq, rfl, rfl⟩
      quiet := nofun }
  | false =>
    have hleft : (e.leave k.part).slot.isActive = false := by rw [e.isActive_leave, ha]
    have hnot : ¬ (k.part.slot.outcome.isSome = true ∨ k.part.slot.phase = .loading) := by
      rw [← Slot.isActive_iff, ha]
      exact Bool.false_ne_true
    rw [Section.reissue_of_inactive hleft]
    exact {
      due := iff_of_false Bool.false_ne_true hnot
      asked := nofun
      quiet := fun _ => rfl }

end

/-! ## The view -/

namespace View

variable {v : View} {e : FilterEdit} {fs : Filters}

theorem edit_of_error {cause : Rejection} (h : (e.edited v.catalog v.filters).1 = .error cause) :
    v.edit e = (.error cause, v) := by
  cases e with
  | add column value =>
    cases hc : v.catalog.contains column with
    | true =>
      rw [FilterEdit.edited, Filters.add_of_contains hc] at h
      cases h
    | false =>
      rw [FilterEdit.edited, Filters.add_of_not_contains hc] at h
      cases h
      exact addFilter_of_not_contains hc value
  | remove column => cases h
  | clear => cases h

theorem edit_of_ok {changed : Bool} (h : e.edited v.catalog v.filters = (.ok changed, fs)) :
    v.edit e = ({ v with
      filters := fs
      chart := e.leave v.chart
      pivot := e.leave v.pivot }.filtersChanged changed).map .ok id := by
  cases e with
  | add column value =>
    have hadd : v.filters.add v.catalog column value = (.ok changed, fs) := h
    simp only [edit, addFilter, hadd]
    rfl
  | remove column => cases h; rfl
  | clear =>
    cases h
    simp only [FilterEdit.leave_clear]
    rfl

/-- An edit that is no change leaves the filters as they were. -/
theorem filters_of_unchanged (h : e.edited v.catalog v.filters = (.ok false, fs)) :
    fs = v.filters := by
  cases e with
  | add column value =>
    simp only [FilterEdit.edited, Filters.add] at h
    split at h
    · split at h
      · cases h; rfl
      · cases h
    · cases h
  | remove column =>
    obtain ⟨hchanged, rfl⟩ := Prod.mk.inj h
    exact Filters.remove_eq_self (Except.ok.inj hchanged)
  | clear =>
    obtain ⟨hchanged, rfl⟩ := Prod.mk.inj h
    exact Filters.clear_eq_self (Except.ok.inj hchanged)

end View

namespace Record

variable {r : Record}

/-- What an edit of the filters does, by what it makes of them. -/
structure AsksAgain (r : Record) (e : FilterEdit) : Prop where
  refused : ∀ cause, (e.edited r.view.catalog r.view.filters).1 = .error cause →
    r.view.edit e = (.error cause, r.view)
  unchanged : ∀ fs, e.edited r.view.catalog r.view.filters = (.ok false, fs) →
    r.view.edit e =
      (.ok {}, { r.view with chart := e.leave r.view.chart, pivot := e.leave r.view.pivot })
  changed : ∀ fs, e.edited r.view.catalog r.view.filters = (.ok true, fs) →
    ∃ tickets chart pivot,
      r.view.edit e = (.ok tickets, { r.view with filters := fs, chart, pivot }) ∧
      r.chartTrack.Requeried fs (e.leave r.view.chart) tickets.chart chart ∧
      r.pivotTrack.Requeried fs (e.leave r.view.pivot) tickets.pivot pivot

/-- A change of the filters asks again what is shown or awaited, and only that. -/
theorem filters_edited (h : r.Reachable) (e : FilterEdit) : r.AsksAgain e where
  refused _ he := View.edit_of_error he
  unchanged fs he := by
    rw [View.edit_of_ok he, View.filters_of_unchanged he]
    rfl
  changed fs he :=
    ⟨_, _, _, View.edit_of_ok he, h.coherent.chart.requeried e fs, h.coherent.pivot.requeried e fs⟩

theorem filters_edited_bothAwaited : bothAwaited.Reachable ∧
    (FilterEdit.clear.edited bothAwaited.view.catalog bothAwaited.view.filters).1.toOption =
      some false ∧
    ((FilterEdit.add "city" (.text "Oslo")).edited bothAwaited.view.catalog
      bothAwaited.view.filters).1.toOption = some true ∧
    bothAwaited.AsksAgain .clear ∧ bothAwaited.AsksAgain (.add "city" (.text "Oslo")) := by
  have hr : bothAwaited.Reachable := reachable_of_legal (by decide +kernel)
  exact ⟨hr, by decide +kernel, by decide +kernel, filters_edited hr _, filters_edited hr _⟩

end Record

end CrossFilter
