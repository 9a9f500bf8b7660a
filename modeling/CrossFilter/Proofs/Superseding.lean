import CrossFilter.Proofs.Coherence
import Mathlib.Data.List.MinMax
import Mathlib.Data.List.Nodup

/-!
# The last request wins

An answer under a ticket that is not current changes nothing, and a ticket that is not current never
is again. So of any answers only the one under the latest ticket can count, whatever order they come
in: `run_answers` is that law for answers to both sections of a view.
-/

namespace CrossFilter

/-! ## Answers of which one is current -/

/-- A way of taking answers that drops all but those with the current number. -/
structure Superseding {σ ε : Type} (take : σ → ε → σ) (key : ε → Nat) (number : σ → Nat) :
    Prop where
  drop : ∀ s e, key e ≠ number s → take s e = s
  number_take : ∀ s e, number (take s e) = number s

namespace Superseding

variable {σ ε : Type} {take : σ → ε → σ} {key : ε → Nat} {number : σ → Nat}
  (h : Superseding take key number)

include h

theorem comm {d e : ε} (hne : key d ≠ key e) (s : σ) : take (take s d) e = take (take s e) d := by
  by_cases hd : key d = number s
  · have he : key e ≠ number s := fun he => hne (hd.trans he.symm)
    rw [h.drop s e he, h.drop (take s d) e (by rwa [h.number_take])]
  · rw [h.drop s d hd, h.drop (take s e) d (by rwa [h.number_take])]

theorem foldl_dropped {answers : List ε} {s : σ} (hs : ∀ e ∈ answers, key e < number s) :
    answers.foldl take s = s := by
  induction answers with
  | nil => rfl
  | cons e rest ih =>
    have he : key e ≠ number s := Nat.ne_of_lt (hs e List.mem_cons_self)
    rw [List.foldl_cons, h.drop s e he]
    exact ih fun d hd => hs d (List.mem_cons_of_mem _ hd)

/-- Of answers with different numbers, the one with the greatest does it all. -/
theorem foldl_eq_latest {answers : List ε} {s : σ} (hn : (answers.map key).Nodup)
    (hb : ∀ e ∈ answers, key e ≤ number s) :
    answers.foldl take s = (answers.argmax key).elim s (take s) := by
  cases hm : answers.argmax key with
  | none => rw [List.argmax_eq_none.1 hm]; rfl
  | some m =>
    have hmem : m ∈ answers := List.argmax_mem hm
    obtain ⟨before, after, rfl⟩ := List.append_of_mem hmem
    rw [List.map_append, List.map_cons, List.nodup_middle, List.nodup_cons, ← List.map_append] at hn
    -- All the others have smaller numbers, so none of them is current.
    have hlt : ∀ e ∈ before ++ after, key e < number s := by
      intro e he
      have hne : key e ≠ key m := fun heq => hn.1 (heq ▸ List.mem_map_of_mem he)
      have hall : e ∈ before ++ m :: after := by
        rw [List.mem_append, List.mem_cons]
        exact (List.mem_append.1 he).imp_right .inr
      have hle : key e ≤ key m := List.le_of_mem_argmax hall hm
      have hms : key m ≤ number s := hb m hmem
      omega
    have hbefore : before.foldl take s = s :=
      h.foldl_dropped fun e he => hlt e (List.mem_append_left _ he)
    have hafter : after.foldl take (take s m) = take s m :=
      h.foldl_dropped fun e he => by
        rw [h.number_take]
        exact hlt e (List.mem_append_right _ he)
    rw [List.foldl_append, List.foldl_cons, hbefore, hafter]
    rfl

end Superseding

/-! ## Answers to a view -/

namespace View

theorem completeChart_of_ne {v : View} {t : Ticket Chart.Query} (h : t.number ≠ v.chart.number)
    (a : Except Failure (Outcome Chart.Result)) : v.completeChart t a = (.ok false, v) := by
  simp [completeChart, Section.complete_of_ne h]

theorem completePivot_of_ne {v : View} {t : Ticket Pivot.Request} (h : t.number ≠ v.pivot.number)
    (a : Except Failure (Outcome Pivot.Table)) : v.completePivot t a = (.ok false, v) := by
  simp [completePivot, Section.complete_of_ne h]

def takeChart (v : View) (e : Answer Chart.Query Chart.Result) : View :=
  (v.completeChart e.1 e.2).2

def takePivot (v : View) (e : Answer Pivot.Request Pivot.Table) : View :=
  (v.completePivot e.1 e.2).2

theorem superseding_chart : Superseding takeChart (·.1.number) (·.chart.number) where
  drop v e h := by rw [takeChart, completeChart_of_ne h]
  number_take v e := v.chart.complete_number e.1 e.2

theorem superseding_pivot : Superseding takePivot (·.1.number) (·.pivot.number) where
  drop v e h := by rw [takePivot, completePivot_of_ne h]
  number_take v e := v.pivot.complete_number e.1 e.2

theorem foldl_takeChart {v : View} {answers : List (Answer Chart.Query Chart.Result)}
    (hn : (answers.map (·.1.number)).Nodup) (hb : ∀ e ∈ answers, e.1.number ≤ v.chart.number) :
    answers.foldl takeChart v = (v.completeChart? (answers.argmax (·.1.number))).2 := by
  rw [superseding_chart.foldl_eq_latest hn hb]
  cases answers.argmax (·.1.number) <;> rfl

theorem foldl_takePivot {v : View} {answers : List (Answer Pivot.Request Pivot.Table)}
    (hn : (answers.map (·.1.number)).Nodup) (hb : ∀ e ∈ answers, e.1.number ≤ v.pivot.number) :
    answers.foldl takePivot v = (v.completePivot? (answers.argmax (·.1.number))).2 := by
  rw [superseding_pivot.foldl_eq_latest hn hb]
  cases answers.argmax (·.1.number) <;> rfl

theorem takePivot_takeChart (v : View) (d : Answer Chart.Query Chart.Result)
    (e : Answer Pivot.Request Pivot.Table) :
    (v.takeChart d).takePivot e = (v.takePivot e).takeChart d := rfl

end View

/-- The operations that hand in some answers, those to the chart first. -/
def Operation.answers (charts : List (Answer Chart.Query Chart.Result))
    (pivots : List (Answer Pivot.Request Pivot.Table)) : List Operation :=
  charts.map (fun e => .completeChart e.1 e.2) ++ pivots.map fun e => .completePivot e.1 e.2

section

variable {charts : List (Answer Chart.Query Chart.Result)}
  {pivots : List (Answer Pivot.Request Pivot.Table)}

/-- Answers under tickets of different numbers can be handed in in any order. -/
theorem View.perform_comm (hc : (charts.map (·.1.number)).Nodup)
    (hp : (pivots.map (·.1.number)).Nodup) {x y : Operation}
    (hx : x ∈ Operation.answers charts pivots) (hy : y ∈ Operation.answers charts pivots) (v : View) :
    ((v.perform x).2.perform y).2 = ((v.perform y).2.perform x).2 := by
  simp only [Operation.answers, List.mem_append, List.mem_map] at hx hy
  rcases hx with ⟨d, hd, rfl⟩ | ⟨d, hd, rfl⟩
  · rcases hy with ⟨e, he, rfl⟩ | ⟨e, he, rfl⟩
    · by_cases hne : d.1.number = e.1.number
      · rw [List.inj_on_of_nodup_map hc hd he hne]
      · exact superseding_chart.comm hne v
    · exact v.takePivot_takeChart d e
  · rcases hy with ⟨e, he, rfl⟩ | ⟨e, he, rfl⟩
    · exact (v.takePivot_takeChart e d).symm
    · by_cases hne : d.1.number = e.1.number
      · rw [List.inj_on_of_nodup_map hp hd he hne]
      · exact superseding_pivot.comm hne v

end

namespace Track

variable {Query Data : Type} [Filtered Query] {k k' : Track Query Data}

/-- A ticket that was handed out and is not current. -/
def Stale (k : Track Query Data) (t : Ticket Query) : Prop :=
  t ∈ k.log.issued ∧ t.number ≠ k.part.number

theorem Coherent.stale_step {Fresh : Query → Prop} (h : k.Coherent) (hs : Step Fresh k k')
    {t : Ticket Query} (ht : k.Stale t) : k'.Stale t := by
  obtain ⟨hissued, hnumber⟩ := hs.grows
  have hle := h.bounded t ht.1
  have hne := ht.2
  exact ⟨hissued.subset ht.1, by omega⟩

/-- Different tickets have different numbers. -/
theorem Coherent.answers_distinct (h : k.Coherent) {answers : List (Answer Query Data)}
    (hi : ∀ e ∈ answers, e.1 ∈ k.log.issued) (hd : (answers.map Prod.fst).Nodup) :
    (answers.map (·.1.number)).Nodup := by
  have hmem : ∀ t ∈ answers.map Prod.fst, t ∈ k.log.issued := by
    intro t ht
    obtain ⟨e, he, rfl⟩ := List.mem_map.1 ht
    exact hi e he
  have hn : ((answers.map Prod.fst).map Ticket.number).Nodup :=
    hd.map_on fun t ht u hu => List.inj_on_of_nodup_map h.numbers_distinct (hmem t ht) (hmem u hu)
  rwa [List.map_map] at hn

end Track

namespace Record

variable {r s : Record}

theorem run_view (r : Record) (ops : List Operation) :
    (r.run ops).view = ops.foldl (fun v op => (v.perform op).2) r.view := by
  induction ops generalizing r with
  | nil => rfl
  | cons op ops ih => exact ih (r.step op)

theorem Coherent.run_answers (h : r.Coherent) {charts : List (Answer Chart.Query Chart.Result)}
    {pivots : List (Answer Pivot.Request Pivot.Table)} {ops : List Operation}
    (hc : ∀ e ∈ charts, e.1 ∈ r.charts.issued) (hcd : (charts.map Prod.fst).Nodup)
    (hp : ∀ e ∈ pivots, e.1 ∈ r.pivots.issued) (hpd : (pivots.map Prod.fst).Nodup)
    (hops : ops.Perm (Operation.answers charts pivots)) :
    (r.run ops).view = ((r.view.completeChart? (charts.argmax (·.1.number))).2.completePivot?
      (pivots.argmax (·.1.number))).2 := by
  have hcn := h.chart.answers_distinct hc hcd
  have hpn := h.pivot.answers_distinct hp hpd
  have hcharts := View.foldl_takeChart hcn fun e he => h.chart.bounded e.1 (hc e he)
  have hpivots : pivots.foldl View.takePivot (charts.foldl View.takeChart r.view) =
      ((charts.foldl View.takeChart r.view).completePivot? (pivots.argmax (·.1.number))).2 := by
    refine View.foldl_takePivot hpn fun e he => ?_
    have hnumber : (charts.foldl View.takeChart r.view).pivot.number = r.view.pivot.number := by
      rw [hcharts]
      cases charts.argmax (·.1.number) <;> rfl
    rw [hnumber]
    exact h.pivot.bounded e.1 (hp e he)
  calc (r.run ops).view
      = ops.foldl (fun v op => (v.perform op).2) r.view := run_view r ops
    _ = (Operation.answers charts pivots).foldl (fun v op => (v.perform op).2) r.view :=
        (hops.symm.foldl_eq' (fun x hx y hy v => View.perform_comm hcn hpn hx hy v) r.view).symm
    _ = pivots.foldl View.takePivot (charts.foldl View.takeChart r.view) := by
        rw [Operation.answers, List.foldl_append, List.foldl_map, List.foldl_map]
        rfl
    _ = _ := by rw [hpivots, hcharts]

theorem Coherent.chart_stale (h : r.Coherent) {t : Ticket Chart.Query} (ht : r.chartTrack.Stale t)
    (hs : r.Run s) : s.chartTrack.Stale t := by
  induction hs with
  | refl => exact ht
  | step op hrun hop ih => exact (h.run hrun).chart.stale_step (chart_step hop) ih

theorem Coherent.pivot_stale (h : r.Coherent) {t : Ticket Pivot.Request}
    (ht : r.pivotTrack.Stale t) (hs : r.Run s) : s.pivotTrack.Stale t := by
  induction hs with
  | refl => exact ht
  | step op hrun hop ih => exact (h.run hrun).pivot.stale_step (pivot_step hop) ih

structure LastWins (r : Record) : Prop where
  chart_dropped : ∀ t a, t.number ≠ r.view.chart.number →
    r.view.completeChart t a = (.ok false, r.view)
  pivot_dropped : ∀ t a, t.number ≠ r.view.pivot.number →
    r.view.completePivot t a = (.ok false, r.view)
  chart_stale : ∀ t s, r.chartTrack.Stale t → r.Run s → s.chartTrack.Stale t
  pivot_stale : ∀ t s, r.pivotTrack.Stale t → r.Run s → s.pivotTrack.Stale t
  charts_numbered : r.charts.issued.Pairwise fun later earlier => earlier.number < later.number
  pivots_numbered : r.pivots.issued.Pairwise fun later earlier => earlier.number < later.number
  /-- Of answers to different tickets, in any order, the one to the latest ticket counts. -/
  confluent : ∀ (charts : List (Answer Chart.Query Chart.Result))
      (pivots : List (Answer Pivot.Request Pivot.Table)) (ops : List Operation),
    (∀ e ∈ charts, e.1 ∈ r.charts.issued) → (charts.map Prod.fst).Nodup →
    (∀ e ∈ pivots, e.1 ∈ r.pivots.issued) → (pivots.map Prod.fst).Nodup →
    ops.Perm (Operation.answers charts pivots) →
    (r.run ops).view = ((r.view.completeChart? (charts.argmax (·.1.number))).2.completePivot?
      (pivots.argmax (·.1.number))).2

theorem last_request_wins (h : r.Reachable) : r.LastWins := by
  have hr := h.coherent
  exact {
    chart_dropped := fun t a ht => View.completeChart_of_ne ht a
    pivot_dropped := fun t a ht => View.completePivot_of_ne ht a
    chart_stale := fun t s ht hs => hr.chart_stale ht hs
    pivot_stale := fun t s ht hs => hr.pivot_stale ht hs
    charts_numbered := hr.chart.ordered
    pivots_numbered := hr.pivot.ordered
    confluent := fun _ _ _ hc hcd hp hpd hops => hr.run_answers hc hcd hp hpd hops }

/-- A filter is added while a chart and a pivot table are awaited, and both are asked for again. -/
def askedTwice : Record := (start .default).run [.reload .sample, .setX (some "region"), .beginChart,
  .assign "city" .rows, .assign "sales" .values, .beginPivot, .addFilter "region" (.text "North")]

theorem last_request_wins_askedTwice : askedTwice.Reachable ∧
    askedTwice.charts.issued.map Ticket.number = [3, 2] ∧
    askedTwice.pivots.issued.map Ticket.number = [3, 2] ∧ askedTwice.LastWins := by
  have hr : askedTwice.Reachable := reachable_of_legal (by decide +kernel)
  exact ⟨hr, by decide +kernel, by decide +kernel, last_request_wins hr⟩

end Record

end CrossFilter
