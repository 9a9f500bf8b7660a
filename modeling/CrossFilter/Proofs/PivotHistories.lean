import CrossFilter.Proofs.Requests
import Mathlib.Data.List.Induction

/-!
# An assignment is what was done to it

An assignment is a list of columns that every edit rewrites, and keeps no record of the edits. A
`History` is that record. `mirrors_history` says that nothing but the record is in the list: a
column stands where it was placed last, unless it was removed since, and the columns of a zone stand
in the order in which they were placed last.

The run lemmas are inductions on the history by its last edit. `zoneOf?_apply`,
`aggregatorOf?_apply` and `names_apply` say what one edit does to an assignment, `stays_concat` and
`aggregatorSince_concat` what it does to the record.
-/

namespace CrossFilter.Pivot

/-- What can be done to an assignment. -/
inductive Edit where
  | assign (column : String) (zone : Zone)
  | unassign (column : String)
  | toggle (column : String) (type : ColumnType)
  | setAggregator (column : String) (aggregator : Aggregator)
  | reset
  | reconcile (catalog : Catalog)

namespace Assignment

def apply (a : Assignment) : Edit → Assignment
  | .assign column zone => a.assign column zone
  | .unassign column => (a.unassign column).2
  | .toggle column type => (a.toggle column type).2
  | .setAggregator column aggregator => (a.setAggregator column aggregator).2
  | .reset => .empty
  | .reconcile catalog => a.prune catalog

/-- An edit of `a` places a column: it assigns it, or toggles it and finds it unassigned. -/
def Places (a : Assignment) (column : String) (zone : Zone) : Edit → Prop
  | .assign c z => c = column ∧ z = zone
  | .toggle c type => c = column ∧ a.isAssigned c = false ∧ naturalZone type = zone
  | _ => False

/-- An edit of `a` removes a column, whether or not it was there. -/
def Removes (a : Assignment) (column : String) : Edit → Prop
  | .unassign c => c = column
  | .toggle c _ => c = column ∧ a.isAssigned c = true
  | .reset => True
  | .reconcile catalog => catalog.contains column = false
  | _ => False

/-- An edit of `a` changes the aggregator of a column, and succeeds. -/
def Aggregates (a : Assignment) (column : String) (aggregator : Aggregator) : Edit → Prop
  | .setAggregator c g => c = column ∧ g = aggregator ∧ (a.setAggregator c g).1 = .ok ()
  | _ => False

end Assignment

/-- What was done to an assignment that was empty at first, the oldest edit first. -/
abbrev History := List Edit

namespace History

def result (h : History) : Assignment := h.foldl Assignment.apply .empty

/-- The edit at position `i` was made to an assignment with which it satisfies `P`. -/
def At (h : History) (i : Nat) (P : Assignment → Edit → Prop) : Prop :=
  ∃ e, h[i]? = some e ∧ P (result (h.take i)) e

def NeverAfter (h : History) (i : Nat) (P : Assignment → Edit → Prop) : Prop :=
  ∀ j, i < j → ¬ h.At j P

/-- The edit at position `i` is the last placement of a column. -/
structure LastPlaced (h : History) (column : String) (i : Nat) (zone : Zone) : Prop where
  placed : h.At i (·.Places column zone)
  last : h.NeverAfter i fun a e => ∃ z, a.Places column z e

/-- The last placement of a column is at position `i`, and no removal follows it. -/
structure Stays (h : History) (column : String) (i : Nat) (zone : Zone) : Prop
    extends h.LastPlaced column i zone where
  kept : h.NeverAfter i (·.Removes column)

/-- The aggregator that a column was given last since position `i`, or `sum` if none was given. -/
def AggregatorSince (h : History) (column : String) (i : Nat) (aggregator : Aggregator) : Prop :=
  (∃ j, i < j ∧ h.At j (·.Aggregates column aggregator) ∧
    h.NeverAfter j fun a e => ∃ g, a.Aggregates column g e) ∨
  aggregator = .sum ∧ h.NeverAfter i fun a e => ∃ g, a.Aggregates column g e

end History

/-! ## One edit of an assignment -/

namespace Assignment

variable {a : Assignment} {column : String}

theorem placement?_eq_some_iff {p : Placement} :
    a.placement? column = some p ↔ (column, p) ∈ a.fields := by
  simp only [placement?, Option.map_eq_some_iff]
  constructor
  · rintro ⟨f, hf, rfl⟩
    have hc : f.1 = column := by simpa using List.find?_some hf
    exact hc ▸ List.mem_of_find?_eq_some hf
  · intro h
    cases hf : a.fields.find? fun f => f.1 == column with
    | none =>
      have hne := List.find?_eq_none.1 hf _ h
      simp at hne
    | some f =>
      have hc : f.1 = column := by simpa using List.find?_some hf
      have heq : f = (column, p) :=
        List.inj_on_of_nodup_map a.distinct (List.mem_of_find?_eq_some hf) h hc
      exact ⟨f, rfl, by rw [heq]⟩

theorem zoneOf?_eq_some_iff {zone : Zone} :
    a.zoneOf? column = some zone ↔ ∃ p, (column, p) ∈ a.fields ∧ p.zone = zone := by
  simp [zoneOf?, placement?_eq_some_iff]

theorem aggregator?_eq_some_iff {p : Placement} {aggregator : Aggregator} :
    p.aggregator? = some aggregator ↔ p = .values aggregator := by
  cases p <;> simp [Placement.aggregator?]

theorem aggregatorOf?_eq_some_iff {aggregator : Aggregator} :
    a.aggregatorOf? column = some aggregator ↔ (column, .values aggregator) ∈ a.fields := by
  simp [aggregatorOf?, Option.bind_eq_some_iff, placement?_eq_some_iff, aggregator?_eq_some_iff]

theorem mem_values_iff {f : ValueField} :
    f ∈ a.values ↔ a.aggregatorOf? f.column = some f.aggregator := by
  simp only [values, List.mem_filterMap, Option.map_eq_some_iff, aggregator?_eq_some_iff,
    aggregatorOf?_eq_some_iff]
  constructor
  · rintro ⟨⟨c, p⟩, hp, g, rfl, rfl⟩
    exact hp
  · intro hf
    exact ⟨_, hf, f.aggregator, rfl, rfl⟩

theorem mem_column_values_iff :
    column ∈ a.values.map ValueField.column ↔ ∃ g, a.aggregatorOf? column = some g := by
  rw [List.mem_map]
  constructor
  · rintro ⟨f, hf, rfl⟩
    exact ⟨f.aggregator, mem_values_iff.1 hf⟩
  · rintro ⟨g, hg⟩
    exact ⟨⟨column, g⟩, mem_values_iff.2 hg, rfl⟩

theorem isAssigned_iff_zoneOf? :
    a.isAssigned column = true ↔ ∃ zone, a.zoneOf? column = some zone := by
  simp [isAssigned, zoneOf?, Option.isSome_iff_exists]

theorem mem_names_iff_zoneOf? : column ∈ a.names ↔ ∃ zone, a.zoneOf? column = some zone := by
  simp [names, zoneOf?_eq_some_iff]

theorem zoneOf?_restrict {keep : String → Bool} {zone : Zone} :
    (a.restrict keep).zoneOf? column = some zone ↔
      a.zoneOf? column = some zone ∧ keep column = true := by
  simp only [zoneOf?_eq_some_iff, restrict, List.mem_filter]
  grind

theorem zoneOf?_assign {c : String} {z zone : Zone} :
    (a.assign c z).zoneOf? column = some zone ↔
      c = column ∧ z = zone ∨ a.zoneOf? column = some zone ∧ c ≠ column := by
  have hz : (Placement.entering z).zone = z := by cases z <;> rfl
  have hrest := @zoneOf?_restrict a column (· != c) zone
  simp only [zoneOf?_eq_some_iff] at hrest ⊢
  simp only [assign, List.mem_append, List.mem_singleton, Prod.mk.injEq, or_and_right, exists_or,
    hrest]
  grind

theorem aggregatorOf?_restrict {keep : String → Bool} {g : Aggregator} :
    (a.restrict keep).aggregatorOf? column = some g ↔
      a.aggregatorOf? column = some g ∧ keep column = true := by
  simp [aggregatorOf?_eq_some_iff, restrict]

theorem aggregatorOf?_assign {c : String} {z : Zone} {g : Aggregator} :
    (a.assign c z).aggregatorOf? column = some g ↔
      (c = column ∧ z = .values) ∧ g = .sum ∨ a.aggregatorOf? column = some g ∧ c ≠ column := by
  have hz : Placement.values g = .entering z ↔ z = .values ∧ g = .sum := by
    cases z <;> simp [Placement.entering]
  have hrest := @aggregatorOf?_restrict a column (· != c) g
  simp only [aggregatorOf?_eq_some_iff] at hrest ⊢
  simp only [assign, List.mem_append, List.mem_singleton, Prod.mk.injEq, hrest, hz]
  grind

theorem mem_replaced {c : String} {p q : Placement} {fields : List (String × Placement)} :
    (column, q) ∈ replaced c p fields ↔
      (column, q) ∈ fields ∧ column ≠ c ∨ (∃ q', (column, q') ∈ fields) ∧ column = c ∧ q = p := by
  simp only [replaced, List.mem_map]
  constructor
  · rintro ⟨⟨d, q'⟩, hf, heq⟩
    by_cases hd : d = c
    · rw [if_pos hd] at heq
      cases heq
      exact .inr ⟨⟨q', hf⟩, hd, rfl⟩
    · rw [if_neg hd] at heq
      cases heq
      exact .inl ⟨hf, hd⟩
  · rintro (⟨hf, hd⟩ | ⟨⟨q', hf⟩, rfl, rfl⟩)
    · exact ⟨_, hf, if_neg hd⟩
    · exact ⟨_, hf, if_pos rfl⟩

theorem setAggregator_of_mem {g g' : Aggregator} (h : a.aggregatorOf? column = some g') :
    ∃ b, a.setAggregator column g = (.ok (), b) ∧
      b.fields = replaced column (.values g) a.fields := by
  unfold setAggregator
  rw [h]
  exact ⟨_, rfl, rfl⟩

theorem setAggregator_of_none {g : Aggregator} (h : a.aggregatorOf? column = none) :
    a.setAggregator column g = (.error (.notAValueField column), a) := by
  simp [setAggregator, h]

/-- Exactly the columns of the values zone can be given another aggregator. -/
theorem setAggregator_ok_iff {g : Aggregator} :
    (a.setAggregator column g).1 = .ok () ↔ ∃ g', a.aggregatorOf? column = some g' := by
  cases h : a.aggregatorOf? column with
  | none => simp [setAggregator_of_none h]
  | some g' =>
    obtain ⟨b, hb, -⟩ := setAggregator_of_mem (g := g) h
    simp [hb]

theorem setAggregator_error_iff {g : Aggregator} {cause : Rejection} :
    (a.setAggregator column g).1 = .error cause ↔
      column ∉ a.values.map ValueField.column ∧ cause = .notAValueField column := by
  rw [mem_column_values_iff]
  cases h : a.aggregatorOf? column with
  | none =>
    rw [setAggregator_of_none h]
    simp [eq_comm]
  | some g' =>
    obtain ⟨b, hb, -⟩ := setAggregator_of_mem (g := g) h
    simp [hb]

theorem zoneOf?_setAggregator {c : String} {g : Aggregator} {zone : Zone} :
    (a.apply (.setAggregator c g)).zoneOf? column = some zone ↔ a.zoneOf? column = some zone := by
  cases h : a.aggregatorOf? c with
  | none => simp [apply, setAggregator_of_none h]
  | some g' =>
    obtain ⟨b, hb, hfields⟩ := setAggregator_of_mem (g := g) h
    have hvalue : (c, .values g') ∈ a.fields := aggregatorOf?_eq_some_iff.1 h
    have hunique : ∀ q, (c, q) ∈ a.fields → q = .values g' := by
      intro q hq
      cases List.inj_on_of_nodup_map a.distinct hq hvalue rfl
      rfl
    simp only [apply, hb, zoneOf?_eq_some_iff, hfields, mem_replaced]
    constructor
    · rintro ⟨q, ⟨hq, -⟩ | ⟨-, rfl, rfl⟩, rfl⟩
      · exact ⟨q, hq, rfl⟩
      · exact ⟨_, hvalue, rfl⟩
    · rintro ⟨q, hq, rfl⟩
      by_cases hc : column = c
      · subst hc
        exact ⟨.values g, .inr ⟨⟨q, hq⟩, rfl, rfl⟩, by rw [hunique q hq]; rfl⟩
      · exact ⟨q, .inl ⟨hq, hc⟩, rfl⟩

theorem aggregatorOf?_setAggregator {c : String} {g g' : Aggregator} :
    (a.apply (.setAggregator c g)).aggregatorOf? column = some g' ↔
      a.Aggregates column g' (.setAggregator c g) ∨ a.aggregatorOf? column = some g' ∧
        ¬ ∃ g'', a.Aggregates column g'' (.setAggregator c g) := by
  simp only [Aggregates, setAggregator_ok_iff]
  cases h : a.aggregatorOf? c with
  | none => simp [apply, setAggregator_of_none h]
  | some old =>
    obtain ⟨b, hb, hfields⟩ := setAggregator_of_mem (g := g) h
    simp only [apply, hb, aggregatorOf?_eq_some_iff, hfields, mem_replaced]
    grind [aggregatorOf?_eq_some_iff]

/-! ### All edits -/

/-- An edit leaves a column in its zone. -/
def Leaves (a : Assignment) (column : String) (e : Edit) : Prop :=
  (¬ ∃ zone, a.Places column zone e) ∧ ¬ a.Removes column e

theorem leaves_of_aggregates {e : Edit} {g : Aggregator} (h : a.Aggregates column g e) :
    (∃ g', a.aggregatorOf? column = some g') ∧ a.Leaves column e := by
  cases e with
  | setAggregator c g' =>
    obtain ⟨rfl, -, hb⟩ := h
    exact ⟨setAggregator_ok_iff.1 hb, fun ⟨_, hp⟩ => hp, id⟩
  | _ => exact h.elim

theorem zoneOf?_apply {e : Edit} {zone : Zone} :
    (a.apply e).zoneOf? column = some zone ↔
      a.Places column zone e ∨ a.zoneOf? column = some zone ∧ a.Leaves column e := by
  unfold Leaves
  cases e with
  | assign c z => simp [apply, zoneOf?_assign, Places, Removes]
  | unassign c => simp [apply, unassign, zoneOf?_restrict, Places, Removes, eq_comm (a := column)]
  | toggle c type =>
    cases hc : a.isAssigned c with
    | true => simp [apply, toggle, hc, zoneOf?_restrict, Places, Removes, eq_comm (a := column)]
    | false => simp [apply, toggle, hc, zoneOf?_assign, Places, Removes]
  | setAggregator c g => simp [zoneOf?_setAggregator, Places, Removes]
  | reset => simp [apply, zoneOf?_eq_some_iff, empty, Places, Removes]
  | reconcile catalog => simp [apply, prune, zoneOf?_restrict, Places, Removes]

theorem aggregatorOf?_apply {e : Edit} {g : Aggregator} :
    (a.apply e).aggregatorOf? column = some g ↔
      a.Places column .values e ∧ g = .sum ∨ a.Aggregates column g e ∨
        a.aggregatorOf? column = some g ∧ a.Leaves column e ∧
          ¬ ∃ g', a.Aggregates column g' e := by
  unfold Leaves
  cases e with
  | assign c z =>
    simp [apply, aggregatorOf?_assign, Places, Removes, Aggregates, eq_comm (b := Zone.values)]
  | unassign c =>
    simp [apply, unassign, aggregatorOf?_restrict, Places, Removes, Aggregates,
      eq_comm (a := column)]
  | toggle c type =>
    cases hc : a.isAssigned c with
    | true =>
      simp [apply, toggle, hc, aggregatorOf?_restrict, Places, Removes, Aggregates,
        eq_comm (a := column)]
    | false => simp [apply, toggle, hc, aggregatorOf?_assign, Places, Removes, Aggregates]
  | setAggregator c g => rw [aggregatorOf?_setAggregator]; simp [Places, Removes]
  | reset => simp [apply, aggregatorOf?_eq_some_iff, empty, Places, Removes, Aggregates]
  | reconcile catalog =>
    simp [apply, prune, aggregatorOf?_restrict, Places, Removes, Aggregates]

/-- What an edit leaves keeps its order, and what it places goes to the end. -/
theorem names_apply (a : Assignment) (e : Edit) :
    ∃ kept new, (a.apply e).names = kept ++ new ∧ kept.Sublist a.names ∧
      (∀ c ∈ kept, a.Leaves c e) ∧ (new = [] ∨ ∃ c zone, new = [c] ∧ a.Places c zone e) := by
  have hrest : ∀ c, ∀ d ∈ a.names.filter (· != c), c ≠ d := by
    intro c d hd heq
    simp [heq] at hd
  cases e with
  | assign c z =>
    refine ⟨_, _, a.names_assign c z, List.filter_sublist, ?_, .inr ⟨c, z, rfl, rfl, rfl⟩⟩
    intro d hd
    simp [Leaves, Places, Removes, hrest c d hd]
  | unassign c =>
    refine ⟨_, [], (a.names_restrict _).trans (List.append_nil _).symm, List.filter_sublist, ?_,
      .inl rfl⟩
    intro d hd
    simp [Leaves, Places, Removes, hrest c d hd]
  | toggle c type =>
    cases hc : a.isAssigned c with
    | true =>
      have hnames : (a.apply (.toggle c type)).names = a.names.filter (· != c) ++ [] := by
        simp [apply, toggle, hc, names_restrict]
      refine ⟨_, [], hnames, List.filter_sublist, ?_, .inl rfl⟩
      intro d hd
      simp [Leaves, Places, Removes, hrest c d hd]
    | false =>
      have hnames : (a.apply (.toggle c type)).names = a.names.filter (· != c) ++ [c] := by
        simp [apply, toggle, hc, names_assign]
      refine ⟨_, _, hnames, List.filter_sublist, ?_, .inr ⟨c, _, rfl, rfl, hc, rfl⟩⟩
      intro d hd
      simp [Leaves, Places, Removes, hrest c d hd]
  | setAggregator c g =>
    have hnames : (a.apply (.setAggregator c g)).names = a.names := by
      cases h : a.aggregatorOf? c with
      | none => rw [apply, setAggregator_of_none h]
      | some old =>
        obtain ⟨b, hb, hfields⟩ := setAggregator_of_mem (g := g) h
        simp [apply, hb, names, hfields, map_fst_replaced]
    refine ⟨_, [], hnames.trans (List.append_nil _).symm, List.Sublist.refl _, ?_, .inl rfl⟩
    intro d _
    simp [Leaves, Places, Removes]
  | reset =>
    refine ⟨[], [], rfl, List.nil_sublist _, ?_, .inl rfl⟩
    intro c hc
    cases hc
  | reconcile catalog =>
    refine ⟨_, [], (a.names_restrict _).trans (List.append_nil _).symm, List.filter_sublist, ?_,
      .inl rfl⟩
    intro d hd
    have hknown : catalog.contains d = true := (List.mem_filter.1 hd).2
    simp [Leaves, Places, Removes, hknown]

end Assignment

/-! ## One edit more in the history -/

namespace History

variable {h : History} {e : Edit} {i : Nat} {P : Assignment → Edit → Prop} {column : String}

theorem result_concat (h : History) (e : Edit) : result (h ++ [e]) = h.result.apply e := by
  simp [result]

theorem At.lt_length (hp : h.At i P) : i < h.length := by
  obtain ⟨e, he, -⟩ := hp
  exact (List.getElem?_eq_some_iff.1 he).1

theorem at_concat : At (h ++ [e]) i P ↔ h.At i P ∨ i = h.length ∧ P h.result e := by
  constructor
  · rintro ⟨d, hd, hp⟩
    rcases Nat.lt_or_ge i h.length with hi | hi
    · rw [List.getElem?_append_left hi] at hd
      rw [List.take_append_of_le_length (Nat.le_of_lt hi)] at hp
      exact .inl ⟨d, hd, hp⟩
    · rw [List.getElem?_append_right hi, List.getElem?_singleton] at hd
      split at hd
      · next hzero =>
        cases hd
        have heq : i = h.length := by omega
        subst heq
        rw [List.take_left] at hp
        exact .inr ⟨rfl, hp⟩
      · cases hd
  · rintro (⟨d, hd, hp⟩ | ⟨rfl, hp⟩)
    · have hi : i < h.length := At.lt_length ⟨d, hd, hp⟩
      refine ⟨d, by rw [List.getElem?_append_left hi, hd], ?_⟩
      rwa [List.take_append_of_le_length (Nat.le_of_lt hi)]
    · exact ⟨e, by simp, by rwa [List.take_left]⟩

theorem neverAfter_concat (hi : i < h.length) :
    NeverAfter (h ++ [e]) i P ↔ h.NeverAfter i P ∧ ¬ P h.result e := by
  simp only [NeverAfter, at_concat, not_or]
  constructor
  · intro hn
    exact ⟨fun j hj => (hn j hj).1, fun hp => (hn _ hi).2 ⟨rfl, hp⟩⟩
  · rintro ⟨hn, hp⟩ j hj
    exact ⟨hn j hj, fun h => hp h.2⟩

theorem neverAfter_length : NeverAfter (h ++ [e]) h.length P := by
  intro j hj hp
  have hlt := hp.lt_length
  simp at hlt
  omega

theorem stays_concat {zone : Zone} :
    Stays (h ++ [e]) column i zone ↔
      h.result.Places column zone e ∧ i = h.length ∨
        h.Stays column i zone ∧ h.result.Leaves column e := by
  constructor
  · rintro ⟨⟨hplaced, hlast⟩, hkept⟩
    rcases at_concat.1 hplaced with hplaced | ⟨hi, hp⟩
    · rw [neverAfter_concat hplaced.lt_length] at hlast hkept
      exact .inr ⟨⟨⟨hplaced, hlast.1⟩, hkept.1⟩, hlast.2, hkept.2⟩
    · exact .inl ⟨hp, hi⟩
  · rintro (⟨hp, rfl⟩ | ⟨⟨⟨hplaced, hlast⟩, hkept⟩, hnot, hnot'⟩)
    · exact ⟨⟨at_concat.2 (.inr ⟨rfl, hp⟩), neverAfter_length⟩, neverAfter_length⟩
    · have hi := hplaced.lt_length
      exact ⟨⟨at_concat.2 (.inl hplaced), (neverAfter_concat hi).2 ⟨hlast, hnot⟩⟩,
        (neverAfter_concat hi).2 ⟨hkept, hnot'⟩⟩

theorem aggregatorSince_concat {g : Aggregator} (hi : i < h.length) :
    AggregatorSince (h ++ [e]) column i g ↔
      h.result.Aggregates column g e ∨
        h.AggregatorSince column i g ∧ ¬ ∃ g', h.result.Aggregates column g' e := by
  unfold AggregatorSince
  rw [neverAfter_concat hi]
  constructor
  · rintro (⟨j, hj, hat, hnever⟩ | ⟨rfl, hnever, hnot⟩)
    · rcases at_concat.1 hat with hat | ⟨-, hp⟩
      · rw [neverAfter_concat hat.lt_length] at hnever
        exact .inr ⟨.inl ⟨j, hj, hat, hnever.1⟩, hnever.2⟩
      · exact .inl hp
    · exact .inr ⟨.inr ⟨rfl, hnever⟩, hnot⟩
  · rintro (hp | ⟨⟨j, hj, hat, hnever⟩ | ⟨rfl, hnever⟩, hnot⟩)
    · exact .inl ⟨h.length, hi, at_concat.2 (.inr ⟨rfl, hp⟩), neverAfter_length⟩
    · exact .inl ⟨j, hj, at_concat.2 (.inl hat), (neverAfter_concat hat.lt_length).2 ⟨hnever, hnot⟩⟩
    · exact .inr ⟨rfl, hnever, hnot⟩

theorem aggregatorSince_length {g : Aggregator} :
    AggregatorSince (h ++ [e]) column h.length g ↔ g = .sum := by
  constructor
  · rintro (⟨j, hj, hat, -⟩ | ⟨rfl, -⟩)
    · exact absurd hat (neverAfter_length j hj)
    · rfl
  · exact fun hg => .inr ⟨hg, neverAfter_length⟩

/-! ## The whole history -/

theorem zoneOf?_result {zone : Zone} :
    h.result.zoneOf? column = some zone ↔ ∃ i, h.Stays column i zone := by
  induction h using List.reverseRecOn with
  | nil =>
    have hnone : result [] = .empty := rfl
    simp only [hnone, Assignment.zoneOf?_eq_some_iff]
    constructor
    · rintro ⟨p, hp, -⟩
      cases hp
    · rintro ⟨i, hs⟩
      exact absurd hs.placed.lt_length (Nat.not_lt_zero i)
  | append_singleton h e ih =>
    rw [result_concat, Assignment.zoneOf?_apply, ih]
    simp only [stays_concat, exists_or, exists_and_left, exists_eq, and_true, exists_and_right]

theorem aggregatorOf?_result {g : Aggregator} :
    h.result.aggregatorOf? column = some g ↔
      ∃ i, h.Stays column i .values ∧ h.AggregatorSince column i g := by
  induction h using List.reverseRecOn generalizing g with
  | nil =>
    have hnone : result [] = .empty := rfl
    simp only [hnone, Assignment.aggregatorOf?_eq_some_iff]
    constructor
    · intro hp
      cases hp
    · rintro ⟨i, hs, -⟩
      exact absurd hs.placed.lt_length (Nat.not_lt_zero i)
  | append_singleton h e ih =>
    rw [result_concat, Assignment.aggregatorOf?_apply, ih]
    constructor
    · rintro (⟨hp, rfl⟩ | hg | ⟨⟨i, hs, hsince⟩, hleaves, hnot⟩)
      · exact ⟨h.length, stays_concat.2 (.inl ⟨hp, rfl⟩), aggregatorSince_length.2 rfl⟩
      · -- Only a column that is among the values can be given an aggregator.
        obtain ⟨⟨g', hold⟩, hleaves⟩ := Assignment.leaves_of_aggregates hg
        obtain ⟨i, hs, -⟩ := ih.1 hold
        have hi := hs.placed.lt_length
        exact ⟨i, stays_concat.2 (.inr ⟨hs, hleaves⟩), (aggregatorSince_concat hi).2 (.inl hg)⟩
      · have hi := hs.placed.lt_length
        exact ⟨i, stays_concat.2 (.inr ⟨hs, hleaves⟩),
          (aggregatorSince_concat hi).2 (.inr ⟨hsince, hnot⟩)⟩
    · rintro ⟨i, hs, hsince⟩
      rcases stays_concat.1 hs with ⟨hp, rfl⟩ | ⟨hs, hleaves⟩
      · exact .inl ⟨hp, aggregatorSince_length.1 hsince⟩
      · rcases (aggregatorSince_concat hs.placed.lt_length).1 hsince with hg | ⟨hsince, hnot⟩
        · exact .inr (.inl hg)
        · exact .inr (.inr ⟨⟨i, hs, hsince⟩, hleaves, hnot⟩)

theorem ordered_result (h : History) :
    h.result.names.Pairwise fun c d =>
      ∃ i j, i < j ∧ (∃ z, h.Stays c i z) ∧ ∃ z, h.Stays d j z := by
  induction h using List.reverseRecOn with
  | nil => exact .nil
  | append_singleton h e ih =>
    obtain ⟨kept, new, hnames, hsub, hleaves, hnew⟩ := (result h).names_apply e
    rw [result_concat, hnames, List.pairwise_append]
    refine ⟨?_, ?_, ?_⟩
    · refine (ih.sublist hsub).imp_of_mem fun hc hd hcd => ?_
      obtain ⟨i, j, hij, ⟨z, hs⟩, z', hs'⟩ := hcd
      exact ⟨i, j, hij, ⟨z, stays_concat.2 (.inr ⟨hs, hleaves _ hc⟩)⟩, z',
        stays_concat.2 (.inr ⟨hs', hleaves _ hd⟩)⟩
    · rcases hnew with rfl | ⟨c, zone, rfl, -⟩
      · exact .nil
      · exact List.pairwise_singleton _ _
    · rcases hnew with rfl | ⟨d, zone, rfl, hp⟩
      · nofun
      · intro c hc d' hd
        rw [List.mem_singleton.1 hd]
        obtain ⟨z, hz⟩ := Assignment.mem_names_iff_zoneOf?.1 (hsub.subset hc)
        obtain ⟨i, hs⟩ := zoneOf?_result.1 hz
        exact ⟨i, h.length, hs.placed.lt_length, ⟨z, stays_concat.2 (.inr ⟨hs, hleaves c hc⟩)⟩,
          zone, stays_concat.2 (.inl ⟨hp, rfl⟩)⟩

/-- The columns that stay in a zone, without repetition, in the order of their last placements. -/
structure Lists (h : History) (zone : Zone) (columns : List String) : Prop where
  distinct : columns.Nodup
  mem : ∀ c, c ∈ columns ↔ ∃ i, h.Stays c i zone
  ordered : columns.Pairwise fun c d =>
    ∃ i j, i < j ∧ h.LastPlaced c i zone ∧ h.LastPlaced d j zone

theorem lists_inZone (h : History) (zone : Zone) : h.Lists zone (h.result.inZone zone) where
  distinct := h.result.nodup_inZone zone
  mem c := by
    rw [← zoneOf?_result, Assignment.mem_inZone, Assignment.zoneOf?_eq_some_iff]
  ordered := by
    have hzone : ∀ c ∈ h.result.inZone zone, h.result.zoneOf? c = some zone := fun c hc =>
      Assignment.zoneOf?_eq_some_iff.2 (Assignment.mem_inZone.1 hc)
    have hsub : (h.result.inZone zone).Sublist h.result.names := List.filter_sublist.map _
    refine (h.ordered_result.sublist hsub).imp_of_mem fun {c d} hc hd hcd => ?_
    obtain ⟨i, j, hij, ⟨z, hs⟩, z', hs'⟩ := hcd
    have hz : some z = some zone := (zoneOf?_result.2 ⟨i, hs⟩).symm.trans (hzone c hc)
    have hz' : some z' = some zone := (zoneOf?_result.2 ⟨j, hs'⟩).symm.trans (hzone d hd)
    cases hz
    cases hz'
    exact ⟨i, j, hij, hs.toLastPlaced, hs'.toLastPlaced⟩

end History

/-! ## What an assignment says of its history -/

structure Assignment.Mirrors (a : Assignment) (h : History) : Prop where
  assigned : ∀ c, a.isAssigned c = true ↔ ∃ i zone, h.Stays c i zone
  zone : ∀ c zone, a.zoneOf? c = some zone ↔ ∃ i, h.Stays c i zone
  aggregator : ∀ c g, a.aggregatorOf? c = some g ↔
    ∃ i, h.Stays c i .values ∧ h.AggregatorSince c i g
  rows : h.Lists .rows a.rows
  columns : h.Lists .columns a.columns
  values : h.Lists .values (a.values.map ValueField.column)
  aggregators : ∀ f ∈ a.values, a.aggregatorOf? f.column = some f.aggregator
  disjoint : (a.rows ++ a.columns ++ a.values.map ValueField.column).Nodup
  /-- Toggling a column returns the zone that it is placed in, or nothing if it is removed. -/
  toggled : ∀ c type, (∀ zone, (a.toggle c type).1 = some zone ↔ a.Places c zone (.toggle c type)) ∧
    ((a.toggle c type).1 = none ↔ a.Removes c (.toggle c type))
  settable : ∀ c g, (a.setAggregator c g).1 = .ok () ↔ c ∈ a.values.map ValueField.column
  refused : ∀ c g, c ∉ a.values.map ValueField.column →
    a.setAggregator c g = (.error (.notAValueField c), a)

/-- An assignment is what was done to it, and nothing else. -/
theorem mirrors_history (h : History) : h.result.Mirrors h := by
  constructor
  case assigned =>
    intro c
    simp only [Assignment.isAssigned_iff_zoneOf?, History.zoneOf?_result]
    exact exists_comm
  case zone => exact fun c zone => History.zoneOf?_result
  case aggregator => exact fun c g => History.aggregatorOf?_result
  case rows => exact h.lists_inZone .rows
  case columns => exact h.lists_inZone .columns
  case values =>
    rw [Assignment.map_column_values]
    exact h.lists_inZone .values
  case aggregators => exact fun f hf => Assignment.mem_values_iff.1 hf
  case disjoint => exact h.result.nodup_zones
  case toggled =>
    intro c type
    cases hc : h.result.isAssigned c with
    | true => simp [Assignment.toggle, Assignment.Places, Assignment.Removes, hc]
    | false => simp [Assignment.toggle, Assignment.Places, Assignment.Removes, hc]
  case settable =>
    intro c g
    rw [Assignment.setAggregator_ok_iff, Assignment.mem_column_values_iff]
  case refused =>
    intro c g hc
    rw [Assignment.mem_column_values_iff] at hc
    exact Assignment.setAggregator_of_none
      (Option.eq_none_iff_forall_ne_some.2 fun g' hg' => hc ⟨g', hg'⟩)

/-- A column that is placed again goes to the end and starts with `sum`. -/
example : (History.result [.assign "sales" .values, .setAggregator "sales" .max,
      .assign "cost" .values, .assign "sales" .values]).values =
    [⟨"cost", .sum⟩, ⟨"sales", .sum⟩] := by
  decide

end CrossFilter.Pivot
