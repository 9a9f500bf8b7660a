import CrossFilter.Column.Catalog
import CrossFilter.Failure
import CrossFilter.Number.Literal
import CrossFilter.Scalar
import CrossFilter.Text.Order

/-!
# Cross-filters

Filters keep at most one value for a column and stand in the order of the column names. They are
shared by the chart and the pivot table of a view, and every change reports whether it was one:
adding the value that is there already changes nothing.

`get?_insertEntry` says what an insertion does to look-ups.
-/

namespace CrossFilter

namespace Filters

def valueAt? (column : String) : List (String × Scalar) → Option Scalar
  | [] => none
  | (c, v) :: rest => if c = column then some v else valueAt? column rest

/-- Puts a value in the place of its column. -/
def insertEntry (column : String) (value : Scalar) :
    List (String × Scalar) → List (String × Scalar)
  | [] => [(column, value)]
  | (c, v) :: rest =>
    if Text.precedes column c then (column, value) :: (c, v) :: rest
    else if column = c then (column, value) :: rest
    else (c, v) :: insertEntry column value rest

def Ordered (entries : List (String × Scalar)) : Prop := entries.Pairwise fun a b => Text.precedes a.1 b.1 = true

theorem precedes_of_mem_insertEntry {column : String} {value : Scalar} {low : String} :
    ∀ {entries : List (String × Scalar)}, (∀ e ∈ entries, Text.precedes low e.1 = true) →
      Text.precedes low column = true →
      ∀ e ∈ insertEntry column value entries, Text.precedes low e.1 = true
  | [], _, h => by simpa [insertEntry] using h
  | (c, v) :: rest, hs, h => by
    have hc := hs (c, v) List.mem_cons_self
    have hr := fun e he => hs e (List.mem_cons_of_mem _ he)
    unfold insertEntry
    intro e he
    split at he
    · rcases List.mem_cons.1 he with rfl | he
      · exact h
      · exact hs e he
    · split at he
      · rcases List.mem_cons.1 he with rfl | he
        · exact h
        · exact hr e he
      · rcases List.mem_cons.1 he with rfl | he
        · exact hc
        · exact precedes_of_mem_insertEntry hr h e he

theorem ordered_insertEntry (column : String) (value : Scalar) :
    ∀ {entries : List (String × Scalar)}, Ordered entries → Ordered (insertEntry column value entries)
  | [], _ => List.pairwise_singleton _ _
  | (c, v) :: rest, h => by
    obtain ⟨hc, hr⟩ := List.pairwise_cons.1 h
    unfold insertEntry
    split
    · next hlt =>
      refine List.pairwise_cons.2 ⟨fun e he => ?_, h⟩
      rcases List.mem_cons.1 he with rfl | he
      · exact hlt
      · exact Text.precedes_trans hlt (hc e he)
    · split
      · next heq => exact List.pairwise_cons.2 ⟨fun e he => heq ▸ hc e he, hr⟩
      · next hlt hne =>
        have hgt : Text.precedes c column = true := by
          rcases Text.eq_or_precedes column c with h' | h' | h'
          · exact absurd h' hne
          · exact absurd h' hlt
          · exact h'
        exact List.pairwise_cons.2
          ⟨precedes_of_mem_insertEntry hc hgt, ordered_insertEntry column value hr⟩

theorem get?_insertEntry (column : String) (value : Scalar) (name : String) :
    ∀ entries : List (String × Scalar),
      valueAt? name (insertEntry column value entries) =
        if name = column then some value else valueAt? name entries
  | [] => by simp [insertEntry, valueAt?, eq_comm]
  | (c, v) :: rest => by
    have ih := get?_insertEntry column value name rest
    unfold insertEntry
    split
    · by_cases h : name = column
      · simp [valueAt?, h]
      · simp [valueAt?, h, Ne.symm h]
    · split
      · next heq =>
        subst heq
        by_cases h : name = column
        · simp [valueAt?, h]
        · simp [valueAt?, h, Ne.symm h]
      · next hne =>
        by_cases h : name = column
        · subst h; simp [valueAt?, ih, Ne.symm hne]
        · simp [valueAt?, ih, h]

end Filters

structure Filters where
  entries : List (String × Scalar)
  ordered : Filters.Ordered entries
  deriving DecidableEq, Repr

namespace Filters

def empty : Filters := ⟨[], .nil⟩

def get? (fs : Filters) (column : String) : Option Scalar := valueAt? column fs.entries

def columns (fs : Filters) : List String := fs.entries.map (·.1)

def size (fs : Filters) : Nat := fs.entries.length

def isEmpty (fs : Filters) : Bool := fs.entries.isEmpty

/-- Sets the value of a column, whatever it was. -/
def insert (fs : Filters) (column : String) (value : Scalar) : Filters :=
  ⟨insertEntry column value fs.entries, ordered_insertEntry column value fs.ordered⟩

/-- Sets the value of a column, unless it is the same already. -/
def upsert (fs : Filters) (column : String) (value : Scalar) : Filters :=
  if (fs.get? column).any (·.same value) then fs else fs.insert column value

/-- The filters that satisfy a condition on their column. -/
def restrict (fs : Filters) (keep : String → Bool) : Filters :=
  ⟨fs.entries.filter fun e => keep e.1, fs.ordered.sublist List.filter_sublist⟩

/-- Of several values for one column the last counts. -/
def ofList (pairs : List (String × Scalar)) : Filters :=
  pairs.foldl (fun fs p => fs.insert p.1 p.2) empty

/-- Sets a filter on a column of the catalog, and says whether that changed anything. -/
def add (fs : Filters) (catalog : Catalog) (column : String) (value : Scalar) :
    Except Rejection Bool × Filters :=
  if catalog.contains column then
    if (fs.get? column).any (·.same value) then (.ok false, fs)
    else (.ok true, fs.insert column value)
  else (.error (.unknownColumn column), fs)

/-- Takes the filter off a column, and says whether there was one. -/
def remove (fs : Filters) (column : String) : Bool × Filters :=
  ((fs.get? column).isSome, fs.restrict (· != column))

/-- Takes off all filters, and says whether there were any. -/
def clear (fs : Filters) : Bool × Filters := (!fs.isEmpty, empty)

/-- The columns whose filters a catalog does not know, in order. -/
def dangling (fs : Filters) (catalog : Catalog) : List String :=
  fs.columns.filter fun c => !catalog.contains c

/-- Keeps the filters on columns of the catalog. -/
def prune (fs : Filters) (catalog : Catalog) : Filters := fs.restrict catalog.contains

def toJson (fs : Filters) : Json := .object (fs.entries.map fun (column, v) => (column, v.toJson))

/-! ## Laws -/

theorem valueAt?_isSome (column : String) (entries : List (String × Scalar)) :
    (valueAt? column entries).isSome = (entries.map (·.1)).contains column := by
  induction entries with
  | nil => rfl
  | cons e rest ih =>
    by_cases h : e.1 = column
    · simp [valueAt?, h]
    · simp [valueAt?, h, Ne.symm h, ih]

theorem get?_isSome (fs : Filters) (column : String) :
    (fs.get? column).isSome = fs.columns.contains column := valueAt?_isSome column fs.entries

theorem mem_columns_restrict {fs : Filters} {keep : String → Bool} {column : String} :
    column ∈ (fs.restrict keep).columns ↔ column ∈ fs.columns ∧ keep column = true := by
  simp only [columns, restrict, List.mem_map, List.mem_filter]
  constructor
  · rintro ⟨e, ⟨he, hk⟩, rfl⟩; exact ⟨⟨e, he, rfl⟩, hk⟩
  · rintro ⟨⟨e, he, rfl⟩, hk⟩; exact ⟨e, ⟨he, hk⟩, rfl⟩

theorem get?_insert (fs : Filters) (column name : String) (value : Scalar) :
    (fs.insert column value).get? name = if name = column then some value else fs.get? name :=
  get?_insertEntry column value name fs.entries

theorem get?_upsert_of_ne {column name : String} (h : name ≠ column) (fs : Filters)
    (value : Scalar) : (fs.upsert column value).get? name = fs.get? name := by
  unfold upsert
  split
  · rfl
  · rw [get?_insert, if_neg h]

/-- What is there after a value was set is the value, or equals it and was there before. -/
theorem get?_upsert_self (fs : Filters) (column : String) (value : Scalar) :
    ∃ v, (fs.upsert column value).get? column = some v ∧ (v = value ∨ v.same value = true) := by
  unfold upsert
  split
  · next hsame =>
    obtain ⟨v, hv, hs⟩ := (Option.any_eq_true ..).1 hsame
    exact ⟨v, hv, .inr hs⟩
  · exact ⟨value, by rw [get?_insert, if_pos rfl], .inl rfl⟩

theorem mem_columns_insert {fs : Filters} {column name : String} {value : Scalar} :
    name ∈ (fs.insert column value).columns ↔ name = column ∨ name ∈ fs.columns := by
  have hget : ∀ gs : Filters, name ∈ gs.columns ↔ (gs.get? name).isSome = true := by
    intro gs
    rw [get?_isSome, List.contains_iff_mem]
  rw [hget, hget, get?_insert]
  by_cases h : name = column
  · simp [h]
  · simp [h]

/-- Setting the value that a column has already changes nothing. -/
theorem insertEntry_eq_self {column : String} {value : Scalar} :
    ∀ {entries : List (String × Scalar)}, Ordered entries → valueAt? column entries = some value →
      insertEntry column value entries = entries
  | [], _, h => by cases h
  | (c, v) :: rest, ho, h => by
    obtain ⟨hc, hr⟩ := List.pairwise_cons.1 ho
    unfold insertEntry
    by_cases heq : column = c
    · subst heq
      simp only [valueAt?, if_true, Option.some.injEq] at h
      simp [Text.not_precedes_self, h]
    · simp only [valueAt?, Ne.symm heq, if_false] at h
      have hmem : column ∈ rest.map (·.1) := by
        have hsome := valueAt?_isSome column rest
        rw [h] at hsome
        exact List.contains_iff_mem.1 hsome.symm
      obtain ⟨e, he, rfl⟩ := List.mem_map.1 hmem
      have hafter := hc e he
      -- The column stands behind `c`, so it does not come before it.
      have hnot : ¬ Text.precedes e.1 c = true := by
        intro hbefore
        have hself := Text.precedes_trans hbefore hafter
        rw [Text.not_precedes_self] at hself
        cases hself
      rw [if_neg hnot, if_neg heq, insertEntry_eq_self hr h]

theorem insert_eq_self {fs : Filters} {column : String} {value : Scalar}
    (h : fs.get? column = some value) : fs.insert column value = fs := by
  cases fs with
  | mk entries ordered => simp only [insert, insertEntry_eq_self ordered h]

theorem add_of_contains {fs : Filters} {catalog : Catalog} {column : String}
    (hc : catalog.contains column = true) (value : Scalar) : fs.add catalog column value =
      (.ok (!(fs.get? column).any (·.same value)), fs.upsert column value) := by
  unfold add upsert
  rw [if_pos hc]
  cases (fs.get? column).any (·.same value) <;> rfl

theorem add_of_not_contains {fs : Filters} {catalog : Catalog} {column : String}
    (hc : catalog.contains column = false) (value : Scalar) :
    fs.add catalog column value = (.error (.unknownColumn column), fs) := by
  simp [add, hc]

theorem restrict_eq_self {fs : Filters} {keep : String → Bool}
    (h : ∀ column ∈ fs.columns, keep column = true) : fs.restrict keep = fs := by
  have e : (fs.entries.filter fun e => keep e.1) = fs.entries :=
    List.filter_eq_self.2 fun e he => h e.1 (List.mem_map_of_mem he)
  cases fs with
  | mk entries ordered => simp only [restrict, e]

/-- Taking off a filter that is not there leaves all as they are. -/
theorem remove_eq_self {fs : Filters} {column : String} (h : (fs.remove column).1 = false) :
    (fs.remove column).2 = fs := by
  simp only [remove, get?_isSome] at h
  have hne : ∀ c ∈ fs.columns, (c != column) = true := by
    intro c hc
    rw [bne_iff_ne]
    rintro rfl
    simp [hc] at h
  exact restrict_eq_self hne

theorem clear_eq_self {fs : Filters} (h : fs.clear.1 = false) : fs.clear.2 = fs := by
  cases fs with
  | mk entries ordered => simp_all [clear, isEmpty, empty]

end Filters

/-- The value that a text stands for in a column of the given type: a clicked label or a typed
argument. A text that does not read as the type stays a text, with its blanks. -/
def typedValue (type : Option ColumnType) (raw : String) : Scalar :=
  match type with
  | some .integer | some .decimal => ((Number.real? (Text.trim raw)).map .number).getD (.text raw)
  | some .boolean =>
    let word := Text.trim raw
    if word = "true" then .bool true else if word = "false" then .bool false else .text raw
  | _ => .text raw

end CrossFilter
