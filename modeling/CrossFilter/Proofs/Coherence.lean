import CrossFilter.Proofs.Sections

/-!
# Sections agree with their tickets

`Track.Coherent` ties what a section stores to what was handed out and taken for it. The tickets of
a section have increasing numbers, none above the section's own. A ticket with that number is the
one handed out last, and its query the one stored. What the section shows came in under the ticket
of `Log.shown?`.

A ticket can fail, be kept, and be answered a second time. The filters may have changed in between
without a new query, as nothing was shown or awaited: `current` and everything built on it says so.
-/

namespace CrossFilter

namespace Track

variable {Query Data : Type} [Filtered Query]

structure Coherent (k : Track Query Data) : Prop where
  bounded : ∀ t ∈ k.log.issued, t.number ≤ k.part.number
  ordered : k.log.issued.Pairwise fun later earlier => earlier.number < later.number
  answered : ∀ e ∈ k.log.taken, e.1 ∈ k.log.issued
  last : ∀ q, k.part.last = some q → ∃ t, k.log.issued.head? = some t ∧ t.query = q
  current : ∀ t ∈ k.log.issued, t.number = k.part.number →
    k.part.last = some t.query ∧ (k.part.slot.isActive = true ∧ Filtered.filters t.query = k.filters ∨
      k.log.Failed t)
  loading : k.part.slot.phase = .loading → ∃ t ∈ k.log.issued, t.number = k.part.number ∧
    ∀ e ∈ k.log.taken, e.1 ≠ t
  displayed : k.part.slot.phase = .displayed → ∃ t ∈ k.log.issued, t.number = k.part.number ∧
    ∃ o, k.log.taken.head? = some (t, .ok o) ∧ k.part.slot.outcome = some o
  outcome : ∀ o, k.part.slot.outcome = some o → k.part.last.isSome ∧ ∃ t, k.log.shown? = some (t, o)

/-! ## The newest ticket -/

/-- A ticket with the number of its section is the newest. -/
theorem Coherent.head?_of_current {k : Track Query Data} (h : k.Coherent) {t : Ticket Query}
    (ht : t ∈ k.log.issued) (hn : t.number = k.part.number) : k.log.issued.head? = some t := by
  have hb := h.bounded
  have ho := h.ordered
  cases hl : k.log.issued with
  | nil => simp [hl] at ht
  | cons newest earlier =>
    rw [hl] at ht hb ho
    rcases List.mem_cons.1 ht with rfl | ht
    · rfl
    · have hlt := (List.pairwise_cons.1 ho).1 t ht
      have hle := hb newest List.mem_cons_self
      omega

theorem Coherent.numbers_distinct {k : Track Query Data} (h : k.Coherent) :
    (k.log.issued.map Ticket.number).Nodup := by
  rw [List.Nodup, List.pairwise_map]
  exact h.ordered.imp fun hlt => Nat.ne_of_gt hlt

/-- A section that shows or awaits something has a query to issue again. -/
theorem Coherent.exists_last {k : Track Query Data} (h : k.Coherent)
    (ha : k.part.slot.isActive = true) : ∃ q, k.part.last = some q := by
  rcases Slot.isActive_iff.1 ha with ho | hl
  · obtain ⟨o, ho⟩ := Option.isSome_iff_exists.1 ho
    exact Option.isSome_iff_exists.1 (h.outcome o ho).1
  · obtain ⟨t, ht, hn, -⟩ := h.loading hl
    exact ⟨t.query, (h.current t ht hn).1⟩

/-- Where nothing is shown or awaited, the current ticket has failed. -/
theorem Coherent.failed_of_inactive {k : Track Query Data} (h : k.Coherent)
    (ha : k.part.slot.isActive = false) {t : Ticket Query} (ht : t ∈ k.log.issued)
    (hn : t.number = k.part.number) : k.part.last = some t.query ∧ k.log.Failed t := by
  obtain ⟨hq, hs | hf⟩ := h.current t ht hn
  · simp [ha] at hs
  · exact ⟨hq, hf⟩

/-! ## What each step preserves -/

theorem Coherent.settle {k : Track Query Data} (h : k.Coherent) :
    Coherent { k with part := k.part.settle } := by
  cases ha : k.part.slot.isActive with
  | true => rw [Section.settle_of_active ha]; exact h
  | false =>
    rw [Section.settle_of_inactive ha]
    exact {
      bounded := h.bounded
      ordered := h.ordered
      answered := h.answered
      last := h.last
      current := fun t ht hn => (h.failed_of_inactive ha ht hn).imp_right .inr
      loading := nofun
      displayed := nofun
      outcome := nofun }

/-- A new query, under whatever filters there are by now. -/
theorem Coherent.issue {k : Track Query Data} (h : k.Coherent) (q : Query) (fs : Filters)
    (hq : Filtered.filters q = fs) :
    Coherent { k with
      filters := fs
      part := (k.part.issue q).2
      log := k.log.issue (k.part.issue q).1 } where
  bounded t ht := by
    rcases List.mem_cons.1 ht with rfl | ht
    · exact Nat.le_refl _
    · exact Nat.le_succ_of_le (h.bounded t ht)
  ordered := List.pairwise_cons.2 ⟨fun t ht => Nat.lt_succ_of_le (h.bounded t ht), h.ordered⟩
  answered e he := List.mem_cons_of_mem _ (h.answered e he)
  last q' hq' := ⟨_, rfl, Option.some.inj hq'⟩
  current t ht hn := by
    rcases List.mem_cons.1 ht with rfl | ht
    · exact ⟨rfl, .inl ⟨Slot.isActive_of_loading rfl, hq⟩⟩
    · have hle := h.bounded t ht
      have hn' : t.number = k.part.number + 1 := hn
      omega
  loading _ := by
    refine ⟨_, List.mem_cons_self, rfl, fun e he heq => ?_⟩
    have hle := h.bounded e.1 (h.answered e he)
    have hn : e.1.number = k.part.number + 1 := congrArg Ticket.number heq
    omega
  displayed := nofun
  outcome o ho := ⟨rfl, (h.outcome o ho).2⟩

/-- A rejection or a reset leaves no ticket that could still be answered. -/
theorem Coherent.supersede {k : Track Query Data} (h : k.Coherent) {catalog : Catalog} {fs : Filters}
    {part : Section Query Data} (hn : part.number = k.part.number + 1)
    (hlast : part.last = none ∨ part.last = k.part.last)
    (hphase : part.slot.phase = .idle ∨ part.slot.phase = .failed)
    (houtcome : part.slot.outcome = none ∨
      part.slot.outcome = k.part.slot.outcome ∧ part.last = k.part.last) :
    Coherent { k with catalog, filters := fs, part } where
  bounded t ht := hn ▸ Nat.le_succ_of_le (h.bounded t ht)
  ordered := h.ordered
  answered := h.answered
  last q hq := by
    rcases hlast with hl | hl
    · simp [hl] at hq
    · exact h.last q (hl ▸ hq)
  current t ht hn' := by
    have hle := h.bounded t ht
    have hn'' : t.number = k.part.number + 1 := hn'.trans hn
    omega
  loading hl := by
    rcases hphase with hp | hp
    · simp [hp] at hl
    · simp [hp] at hl
  displayed hd := by
    rcases hphase with hp | hp
    · simp [hp] at hd
    · simp [hp] at hd
  outcome o ho := by
    rcases houtcome with hn | ⟨hs, hl⟩
    · simp [hn] at ho
    · have hk := h.outcome o (hs ▸ ho)
      exact ⟨hl ▸ hk.1, hk.2⟩

theorem Coherent.refilter {k : Track Query Data} (h : k.Coherent) (fs : Filters) :
    Coherent { k with
      filters := fs
      part := (k.part.reissue (Filtered.refilter · fs)).2
      log := k.log.issue (k.part.reissue (Filtered.refilter · fs)).1 } := by
  cases ha : k.part.slot.isActive with
  | true =>
    obtain ⟨q, hq⟩ := h.exists_last ha
    rw [Section.reissue_of_active ha hq]
    exact h.issue (Filtered.refilter q fs) fs (Filtered.filters_refilter q fs)
  | false =>
    rw [Section.reissue_of_inactive ha]
    exact { h with current := fun t ht hn => (h.failed_of_inactive ha ht hn).imp_right .inr }

theorem Coherent.display {k : Track Query Data} (h : k.Coherent) {t : Ticket Query}
    (ht : t ∈ k.log.issued) (hn : t.number = k.part.number) (o : Outcome Data) :
    Coherent { k with
      part := { k.part with slot := k.part.slot.display o }
      log := k.log.answer t (.ok o) (.ok true) } where
  bounded := h.bounded
  ordered := h.ordered
  answered e he := by
    rcases List.mem_cons.1 he with rfl | he
    · exact ht
    · exact h.answered e he
  last := h.last
  current t' ht' hn' := by
    obtain ⟨hq, ⟨-, hf⟩ | ⟨failure, hf⟩⟩ := h.current t' ht' hn'
    · exact ⟨hq, .inl ⟨Slot.isActive_of_outcome rfl, hf⟩⟩
    · exact ⟨hq, .inr ⟨failure, List.mem_cons_of_mem _ hf⟩⟩
  loading := nofun
  displayed _ := ⟨t, ht, hn, o, rfl, rfl⟩
  outcome o' ho := by
    cases ho
    exact ⟨Option.isSome_iff_exists.2 ⟨_, (h.current t ht hn).1⟩, t, rfl⟩

theorem Coherent.fail {k : Track Query Data} (h : k.Coherent) {t : Ticket Query}
    (ht : t ∈ k.log.issued) (hn : t.number = k.part.number) (failure : Failure) :
    Coherent { k with
      part := { k.part with slot := k.part.slot.fail failure.userMessage }
      log := k.log.answer t (.error failure) (.error failure) } where
  bounded := h.bounded
  ordered := h.ordered
  answered e he := by
    rcases List.mem_cons.1 he with rfl | he
    · exact ht
    · exact h.answered e he
  last := h.last
  current t' ht' hn' := by
    -- Only the newest ticket is current, so it is this one that failed.
    have heq : some t' = some t := (h.head?_of_current ht' hn').symm.trans (h.head?_of_current ht hn)
    cases heq
    exact ⟨(h.current t ht hn).1, .inr ⟨failure, List.mem_cons_self⟩⟩
  loading := nofun
  displayed := nofun
  outcome := h.outcome

/-- An answer under a ticket that was handed out, current or not. -/
theorem Coherent.complete {k : Track Query Data} (h : k.Coherent) {t : Ticket Query}
    (ht : t ∈ k.log.issued) (a : Except Failure (Outcome Data)) :
    Coherent { k with
      part := (k.part.complete t a).2
      log := k.log.answer t a (k.part.complete t a).1 } := by
  by_cases hn : t.number = k.part.number
  · cases a with
    | ok o => rw [Section.complete_ok hn]; exact h.display ht hn o
    | error failure => rw [Section.complete_error hn]; exact h.fail ht hn failure
  · rw [Section.complete_of_ne hn]
    exact h

/-! ## The run lemma -/

theorem Coherent.step {k k' : Track Query Data} {Fresh : Query → Prop} (h : k.Coherent)
    (hs : Step Fresh k k') : k'.Coherent := by
  cases hs with
  | keep => exact h
  | settle => exact h.settle
  | issue q _ hq => exact h.issue q _ hq
  | reject slot hp ho => exact h.supersede rfl (.inr rfl) (.inr hp) (ho.imp_right fun ho => ⟨ho, rfl⟩)
  | reset catalog fs => exact h.supersede rfl (.inl rfl) (.inl rfl) (.inl rfl)
  | answer t a ht => exact h.complete ht a
  | refilter fs part hpart =>
    rcases hpart with rfl | rfl
    · exact h.refilter fs
    · exact h.settle.refilter fs

end Track

namespace Record

structure Coherent (r : Record) : Prop where
  chart : r.chartTrack.Coherent
  pivot : r.pivotTrack.Coherent

theorem coherent_start (tab : Tab) : (start tab).Coherent := by
  constructor <;> constructor <;> simp [start, chartTrack, pivotTrack]

theorem Coherent.step {r : Record} (h : r.Coherent) {op : Operation} (hop : op.Allowed r) :
    (r.step op).Coherent :=
  ⟨h.chart.step (chart_step hop), h.pivot.step (pivot_step hop)⟩

theorem Coherent.run {r s : Record} (h : r.Coherent) (hs : r.Run s) : s.Coherent :=
  hs.preserves (fun _ _ h hop => h.step hop) h

theorem Reachable.coherent {r : Record} (h : r.Reachable) : r.Coherent := by
  obtain ⟨tab, h⟩ := h
  exact (coherent_start tab).run h

end Record

end CrossFilter
