import CrossFilter.Failure
import CrossFilter.View.Slot

/-!
# Sections

A section of a view issues queries and shows their answers. Every query goes out under a ticket, and
tickets are numbered: `number` is that of the latest, and an answer under any other ticket comes too
late and is dropped (`complete_of_ne`). A rejected query and a section that is reset use up a number
as well, so that whatever was under way before is dropped too.
-/

namespace CrossFilter

/-- A query that was issued. -/
structure Ticket (Query : Type) where
  number : Nat
  query : Query
  deriving DecidableEq, Repr

structure Section (Query Data : Type) where
  slot : Slot Data := {}
  /-- The number of the latest ticket, rejection or reset. -/
  number : Nat := 0
  /-- The query that was issued last, unless the section was reset since. -/
  last : Option Query := none
  deriving DecidableEq, Repr

namespace Section

variable {Query Data : Type}

/-- Issues a query, whose ticket supersedes all before it. -/
def issue (s : Section Query Data) (q : Query) : Ticket Query × Section Query Data :=
  (⟨s.number + 1, q⟩, { slot := s.slot.begin, number := s.number + 1, last := some q })

/-- Supersedes all tickets without a query to issue; the slot is left as given. -/
def reject (s : Section Query Data) (slot : Slot Data) : Section Query Data :=
  { s with slot, number := s.number + 1 }

/-- Forgets everything but how many tickets there were. -/
def reset (s : Section Query Data) : Section Query Data :=
  { slot := s.slot.clear, number := s.number + 1, last := none }

def isCurrent (s : Section Query Data) (t : Ticket Query) : Bool := t.number = s.number

/-- Takes the answer to a ticket, and says whether the ticket was current. The failure of a current
ticket is shown and handed on. -/
def complete (s : Section Query Data) (t : Ticket Query) (answer : Except Failure (Outcome Data)) :
    Except Failure Bool × Section Query Data :=
  if s.isCurrent t then
    match answer with
    | .ok outcome => (.ok true, { s with slot := s.slot.display outcome })
    | .error failure =>
      (.error failure, { s with slot := s.slot.fail failure.userMessage })
  else (.ok false, s)

/-- Issues the last query again in another form, if its outcome is displayed or awaited. -/
def reissue (s : Section Query Data) (change : Query → Query) :
    Option (Ticket Query) × Section Query Data :=
  match s.slot.isActive, s.last with
  | true, some q =>
    let (ticket, s) := s.issue (change q)
    (some ticket, s)
  | _, _ => (none, s)

/-- A slot in which nothing is displayed or awaited goes back to idle. -/
def settle (s : Section Query Data) : Section Query Data :=
  if s.slot.isActive then s else { s with slot := s.slot.clear }

theorem complete_of_ne {s : Section Query Data} {t : Ticket Query} (h : t.number ≠ s.number)
    (answer : Except Failure (Outcome Data)) : s.complete t answer = (.ok false, s) := by
  simp [complete, isCurrent, h]

theorem complete_ok {s : Section Query Data} {t : Ticket Query} (h : t.number = s.number)
    (o : Outcome Data) : s.complete t (.ok o) = (.ok true, { s with slot := s.slot.display o }) := by
  simp [complete, isCurrent, h]

theorem complete_error {s : Section Query Data} {t : Ticket Query} (h : t.number = s.number)
    (failure : Failure) : s.complete t (.error failure) =
      (.error failure, { s with slot := s.slot.fail failure.userMessage }) := by
  simp [complete, isCurrent, h]

@[simp] theorem complete_number (s : Section Query Data) (t : Ticket Query)
    (answer : Except Failure (Outcome Data)) : (s.complete t answer).2.number = s.number := by
  by_cases h : t.number = s.number
  · cases answer with
    | ok o => rw [complete_ok h]
    | error failure => rw [complete_error h]
  · rw [complete_of_ne h]

@[simp] theorem complete_last (s : Section Query Data) (t : Ticket Query)
    (answer : Except Failure (Outcome Data)) : (s.complete t answer).2.last = s.last := by
  by_cases h : t.number = s.number
  · cases answer with
    | ok o => rw [complete_ok h]
    | error failure => rw [complete_error h]
  · rw [complete_of_ne h]

theorem reissue_of_active {s : Section Query Data} {q : Query} (h : s.slot.isActive = true)
    (hq : s.last = some q) (change : Query → Query) :
    s.reissue change = (some (s.issue (change q)).1, (s.issue (change q)).2) := by
  simp [reissue, h, hq]

theorem reissue_of_inactive {s : Section Query Data} (h : s.slot.isActive = false)
    (change : Query → Query) : s.reissue change = (none, s) := by
  simp [reissue, h]

/-- A query is issued again or nothing happens. -/
theorem reissue_cases (s : Section Query Data) (change : Query → Query) :
    s.reissue change = (none, s) ∨ ∃ q, s.last = some q ∧
      s.reissue change = (some (s.issue (change q)).1, (s.issue (change q)).2) := by
  unfold reissue
  split
  · next q _ hq => exact .inr ⟨q, hq, rfl⟩
  · exact .inl rfl

theorem number_le_reissue (s : Section Query Data) (change : Query → Query) :
    s.number ≤ (s.reissue change).2.number := by
  rcases s.reissue_cases change with h | ⟨q, -, h⟩
  · exact Nat.le_of_eq (by rw [h])
  · rw [h]; exact Nat.le_succ _

theorem settle_of_active {s : Section Query Data} (h : s.slot.isActive = true) : s.settle = s := by
  simp [settle, h]

theorem settle_of_inactive {s : Section Query Data} (h : s.slot.isActive = false) :
    s.settle = { s with slot := {} } := by
  simp [settle, h, Slot.clear]

@[simp] theorem settle_last (s : Section Query Data) : s.settle.last = s.last := by
  unfold settle
  split <;> rfl

@[simp] theorem settle_number (s : Section Query Data) : s.settle.number = s.number := by
  unfold settle
  split <;> rfl

end Section

end CrossFilter
