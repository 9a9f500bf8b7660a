import CrossFilter.Pivot.Grid
import Mathlib.Data.List.Forall2

/-!
# Pivot grids

An answer that has headers and rows is shown in full, whatever the lengths of its rows and of its
totals: `answer_shown` says of the grid what stands in which cell. A cell that was not sent is null,
and of the cells that were sent only those behind the last header are lost.
-/

namespace CrossFilter.Pivot

/-- The cell that was sent for a column: null if none was. -/
def sentCell (sent : List Scalar) (column : Nat) : Scalar := sent[column]?.getD .null

/-- The cell of the totals that is shown for a column. A first cell without a value gives way to a
label, if there is a row field to label. -/
def totalCell (q : Request) (totals : List Scalar) (column : Nat) : Scalar :=
  if column = 0 ∧ sentCell totals 0 = .null ∧ q.rows ≠ [] then .text "Total"
  else sentCell totals column

/-- What a grid shows of the answer to a request. -/
structure Shows (q : Request) (r : Response) (g : Grid) : Prop where
  columns_length : g.columns.length = r.headers.length
  column : ∀ (i : Nat) (name : String), r.headers[i]? = some name → g.columns[i]? =
    some ⟨name, if i < min q.rows.length r.headers.length then .rowField else .value⟩
  width : ∀ row ∈ g.rows, row.cells.length = r.headers.length
  /-- The rows but for the totals are those that were sent, in their order. -/
  data : List.Forall₂
    (fun sent row => ∀ i < r.headers.length, row.cells[i]? = some (sentCell sent i))
    r.rows (g.rows.filter fun row => !row.isTotal)
  total_iff : (∃ row ∈ g.rows, row.isTotal = true) ↔ ∃ totals, r.totals = some totals ∧ totals ≠ []
  /-- The totals stand behind all other rows. -/
  total : ∀ totals, r.totals = some totals → totals ≠ [] → ∃ row,
    g.rows = (g.rows.filter fun row => !row.isTotal) ++ [row] ∧ row.isTotal = true ∧
    ∀ i < r.headers.length, row.cells[i]? = some (totalCell q totals i)
  rowCount : g.rowCount = r.rowCount.getD r.rows.length

/-! ## Columns -/

theorem length_gridColumns (n : Nat) (names : List String) :
    (gridColumns n names).length = names.length := by
  induction names generalizing n with
  | nil => cases n <;> rfl
  | cons name names ih =>
    cases n with
    | zero => simp [gridColumns, ih]
    | succ n => simp [gridColumns, ih]

theorem getElem?_gridColumns {names : List String} {i : Nat} {name : String}
    (h : names[i]? = some name) (n : Nat) :
    (gridColumns n names)[i]? = some ⟨name, if i < n then .rowField else .value⟩ := by
  induction names generalizing n i with
  | nil => simp at h
  | cons first names ih =>
    cases n with
    | zero =>
      cases i with
      | zero => simp_all [gridColumns]
      | succ i => simpa [gridColumns] using ih (by simpa using h) 0
    | succ n =>
      cases i with
      | zero => simp_all [gridColumns]
      | succ i => simpa [gridColumns] using ih (by simpa using h) n

/-! ## Cells -/

theorem length_align (width : Nat) (cells : List Scalar) : (align width cells).length = width := by
  simp only [align, List.length_append, List.length_take, List.length_replicate]
  omega

theorem getElem?_align {width i : Nat} (h : i < width) (cells : List Scalar) :
    (align width cells)[i]? = some (sentCell cells i) := by
  unfold align sentCell
  by_cases hi : i < cells.length
  · rw [List.getElem?_append_left (by rw [List.length_take]; omega), List.getElem?_take_of_lt h,
      List.getElem?_eq_getElem hi]
    rfl
  · have hlen : (cells.take width).length = cells.length := by rw [List.length_take]; omega
    rw [List.getElem?_append_right (by omega), hlen, List.getElem?_replicate, if_pos (by omega),
      List.getElem?_eq_none (by omega)]
    rfl

theorem length_labelled (cells : List Scalar) : (labelled cells).length = cells.length := by
  unfold labelled
  split
  · rfl
  · rfl

theorem getElem?_labelled (cells : List Scalar) (i : Nat) :
    (labelled cells)[i]? =
      if i = 0 ∧ cells[0]? = some .null then some (.text "Total") else cells[i]? := by
  unfold labelled
  split
  · cases i with
    | zero => simp
    | succ i => simp
  · next hne =>
    have hfirst : cells[0]? ≠ some .null := by
      cases cells with
      | nil => simp
      | cons c cs =>
        rw [List.getElem?_cons_zero]
        rintro ⟨⟩
        exact hne _ rfl
    rw [if_neg fun h => hfirst h.2]

/-! ## Rows -/

@[simp] theorem Row.shown_isTotal (rowFields : Nat) (row : Row) :
    (row.shown rowFields).isTotal = row.isTotal := by
  unfold shown
  split
  · rfl
  · rfl

@[simp] theorem Row.length_shown (rowFields : Nat) (row : Row) :
    (row.shown rowFields).cells.length = row.cells.length := by
  unfold shown
  split
  · exact length_labelled row.cells
  · rfl

namespace Response

variable {q : Request} {r : Response}

/-- The rows of an answer but for the totals. -/
def plainRows (r : Response) : List Row :=
  r.rows.map fun sent => ⟨align r.headers.length sent, false⟩

theorem totalRows_of_totals {totals : List Scalar} (h : r.totals = some totals)
    (hne : totals ≠ []) :
    r.totalRows = [⟨align r.headers.length totals, true⟩] := by
  cases totals with
  | nil => exact absurd rfl hne
  | cons c cs => simp only [totalRows, h]

theorem totalRows_of_none (h : ¬ ∃ totals, r.totals = some totals ∧ totals ≠ []) :
    r.totalRows = [] := by
  unfold totalRows
  split
  · next c cs hc => exact absurd ⟨_, hc, List.cons_ne_nil c cs⟩ h
  · rfl

theorem length_of_mem_totalRows {row : Row} (h : row ∈ r.totalRows) :
    row.cells.length = r.headers.length := by
  unfold totalRows at h
  split at h
  · rw [List.mem_singleton.1 h, length_align]
  · cases h

/-- Totals make one row at most, and it is flagged. -/
theorem totalRows_cases (r : Response) :
    r.totalRows = [] ∨ ∃ cells, r.totalRows = [⟨cells, true⟩] := by
  unfold totalRows
  split
  · exact .inr ⟨_, rfl⟩
  · exact .inl rfl

theorem filter_plainRows (r : Response) :
    (r.plainRows ++ r.totalRows).filter (fun row => !row.isTotal) = r.plainRows := by
  have hplain : r.plainRows.filter (fun row => !row.isTotal) = r.plainRows := by
    rw [List.filter_eq_self]
    intro row hrow
    obtain ⟨sent, -, rfl⟩ := List.mem_map.1 hrow
    rfl
  rw [List.filter_append, hplain]
  rcases r.totalRows_cases with h | ⟨cells, h⟩
  · simp [h]
  · simp [h]

theorem map_shown_plainRows (r : Response) (rowFields : Nat) :
    r.plainRows.map (Row.shown rowFields) = r.plainRows := by
  rw [plainRows, List.map_map]
  rfl

theorem outcome_of_nonempty (hheaders : r.headers ≠ []) (hrows : r.rows ≠ []) :
    r.outcome q = .data {
      headers := r.headers
      rows := r.plainRows ++ r.totalRows
      rowCount := r.rowCount.getD r.rows.length
      rowFields := min q.rows.length r.headers.length } := by
  simp [outcome, hheaders, hrows, plainRows]

end Response

/-- The data rows of a table and its totals are all its rows. -/
theorem Table.dataRows_append_totals {t : Table} {r : Response}
    (h : t.rows = r.plainRows ++ r.totalRows) : t.dataRows ++ t.totals?.toList = t.rows := by
  rw [dataRows, totals?, h, r.filter_plainRows]
  rcases r.totalRows_cases with htotal | ⟨cells, htotal⟩
  · have hlast : r.plainRows.getLast?.filter Row.isTotal = none := by
      rw [Option.filter_eq_none_iff]
      intro row hrow
      obtain ⟨sent, -, rfl⟩ := List.mem_map.1 (List.mem_of_getLast? hrow)
      exact Bool.false_ne_true
    rw [htotal, List.append_nil, hlast]
    simp
  · rw [htotal, List.getLast?_concat]
    rfl

/-- A cell of the totals as shown, below headers of which there are some. -/
theorem getElem?_shown_totals {q : Request} {width i : Nat} (hi : i < width)
    (totals : List Scalar) :
    (Row.shown (min q.rows.length width) ⟨align width totals, true⟩).cells[i]? =
      some (totalCell q totals i) := by
  have hfirst : (align width totals)[0]? = some (sentCell totals 0) :=
    getElem?_align (by omega) totals
  have hcell : (align width totals)[i]? = some (sentCell totals i) := getElem?_align hi totals
  unfold Row.shown totalCell
  by_cases hq : q.rows = []
  · rw [if_neg (by simp [hq]), if_neg fun h => h.2.2 hq]
    exact hcell
  · have hpos : 0 < min q.rows.length width := by
      have := List.length_pos_of_ne_nil hq
      omega
    rw [if_pos (by simpa using hpos), getElem?_labelled, hfirst, hcell]
    by_cases hlabel : i = 0 ∧ sentCell totals 0 = .null
    · rw [if_pos ⟨hlabel.1, by rw [hlabel.2]⟩, if_pos ⟨hlabel.1, hlabel.2, hq⟩]
    · rw [if_neg fun h => hlabel ⟨h.1, Option.some.inj h.2⟩, if_neg fun h => hlabel ⟨h.1, h.2.1⟩]

section

variable {q : Request} {r : Response} {t : Table} (hrows : t.rows = r.plainRows ++ r.totalRows)

include hrows

theorem Table.grid_rows : t.grid.rows = r.plainRows ++ r.totalRows.map (Row.shown t.rowFields) := by
  rw [grid, hrows, List.map_append, r.map_shown_plainRows]

theorem Table.filter_grid_rows : t.grid.rows.filter (fun row => !row.isTotal) = r.plainRows := by
  have hflag : (fun row : Row => !row.isTotal) ∘ Row.shown t.rowFields =
      fun row => !row.isTotal := by
    funext row
    simp
  rw [grid, hrows, List.filter_map, hflag, r.filter_plainRows, r.map_shown_plainRows]

theorem shows_grid (hheaders : t.headers = r.headers)
    (hcount : t.rowCount = r.rowCount.getD r.rows.length)
    (hfields : t.rowFields = min q.rows.length r.headers.length) : Shows q r t.grid where
  columns_length := by rw [Table.grid, length_gridColumns, hheaders]
  column i name h := by rw [Table.grid, hheaders, hfields, getElem?_gridColumns h]
  width row hrow := by
    obtain ⟨sent, hsent, rfl⟩ := List.mem_map.1 hrow
    rw [Row.length_shown]
    rw [hrows, List.mem_append] at hsent
    rcases hsent with hsent | hsent
    · obtain ⟨cells, -, rfl⟩ := List.mem_map.1 hsent
      exact length_align _ cells
    · exact Response.length_of_mem_totalRows hsent
  data := by
    rw [Table.filter_grid_rows hrows, Response.plainRows, List.forall₂_map_right_iff,
      List.forall₂_same]
    intro sent _ i hi
    exact getElem?_align hi sent
  total_iff := by
    rw [Table.grid_rows hrows]
    constructor
    · rintro ⟨row, hrow, hflag⟩
      by_contra hnone
      rw [Response.totalRows_of_none hnone, List.map_nil, List.append_nil] at hrow
      obtain ⟨sent, -, rfl⟩ := List.mem_map.1 hrow
      cases hflag
    · rintro ⟨totals, htotals, hne⟩
      rw [Response.totalRows_of_totals htotals hne]
      exact ⟨_, List.mem_append_right _ (List.mem_singleton.2 rfl), by simp⟩
  total totals htotals hne := by
    rw [Table.filter_grid_rows hrows, Table.grid_rows hrows,
      Response.totalRows_of_totals htotals hne, hfields]
    exact ⟨_, rfl, by simp, fun i hi => getElem?_shown_totals hi totals⟩
  rowCount := hcount

end

/-- Of every answer with headers and rows a table is made, and its grid shows the answer. -/
theorem answer_shown (q : Request) (r : Response) (hheaders : r.headers ≠ [])
    (hrows : r.rows ≠ []) :
    ∃ t, r.outcome q = .data t ∧ t.dataRows ++ t.totals?.toList = t.rows ∧ Shows q r t.grid :=
  ⟨_, Response.outcome_of_nonempty hheaders hrows, Table.dataRows_append_totals rfl,
    shows_grid rfl rfl rfl rfl⟩

/-- Two row fields over two headers, a short row, a long one, and totals that are both short and
without a first value. -/
theorem answer_shown_ragged :
    let q : Request := ⟨["region", "city"], [], [⟨"sales", .sum⟩], .empty⟩
    let r : Response := {
      headers := ["region", "sales"]
      rows := [[.text "North"], [.text "South", .bool true, .bool false]]
      totals := some [.null] }
    r.headers ≠ [] ∧ r.rows ≠ [] ∧
      ∃ t, r.outcome q = .data t ∧ t.dataRows ++ t.totals?.toList = t.rows ∧ Shows q r t.grid := by
  intro q r
  have hheaders : r.headers ≠ [] := List.cons_ne_nil _ _
  have hrows : r.rows ≠ [] := List.cons_ne_nil _ _
  exact ⟨hheaders, hrows, answer_shown q r hheaders hrows⟩

end CrossFilter.Pivot
