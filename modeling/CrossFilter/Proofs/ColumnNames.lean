import CrossFilter.Proofs.Arguments
import CrossFilter.Proofs.Clicks
import Mathlib.Data.List.DropRight

/-!
# The names of columns

Pivot zones, filters and recasts take a text for the name of just that column. A chart axis takes it
for the name without the blanks around it, although the catalog keeps names as they are reported: a
column whose name begins or ends with a blank can never be chosen for an axis, and the text that
names it may choose another column. `names_agree` says that this is all they differ in, and
`padded_name_unchosen` is a view in which both happen.
-/

namespace CrossFilter

/-! ## Surrounding blanks -/

namespace Text

/-- A text begins or ends with a blank. -/
def padded (s : String) : Bool := s.toList.head?.any isBlank || s.toList.getLast?.any isBlank

theorem trimList_eq (cs : List Char) : trimList cs = (cs.dropWhile isBlank).rdropWhile isBlank := rfl

theorem dropWhile_isBlank_eq_self_iff {cs : List Char} :
    cs.dropWhile isBlank = cs ↔ cs.head?.any isBlank = false := by
  rw [List.dropWhile_eq_self_iff]
  cases cs <;> simp

theorem rdropWhile_isBlank_eq_self_iff {cs : List Char} :
    cs.rdropWhile isBlank = cs ↔ cs.getLast?.any isBlank = false := by
  rw [List.rdropWhile, List.reverse_eq_iff, dropWhile_isBlank_eq_self_iff, List.head?_reverse]

theorem trim_eq_self_iff {s : String} : trim s = s ↔ padded s = false := by
  rw [padded, Bool.or_eq_false_iff, ← dropWhile_isBlank_eq_self_iff,
    ← rdropWhile_isBlank_eq_self_iff, ← String.toList_inj, trim, String.toList_ofList, trimList_eq]
  constructor
  · intro h
    -- Cutting off on the right cannot make up for what is cut off on the left.
    have hle : s.toList.length ≤ (s.toList.dropWhile isBlank).length := by
      rw [← congrArg List.length h]
      exact (List.rdropWhile_prefix _ _).length_le
    have hdrop : s.toList.dropWhile isBlank = s.toList :=
      (List.dropWhile_suffix _).eq_of_length_le hle
    rw [hdrop] at h
    exact ⟨hdrop, h⟩
  · rintro ⟨hdrop, hrdrop⟩
    rw [hdrop, hrdrop]

theorem padded_trim (s : String) : padded (trim s) = false := by
  rw [padded, Bool.or_eq_false_iff, trim, String.toList_ofList, trimList_eq]
  constructor
  · have hd : (s.toList.dropWhile isBlank).head?.any isBlank = false :=
      dropWhile_isBlank_eq_self_iff.1 (List.dropWhile_idempotent ..)
    obtain ⟨rest, hrest⟩ := List.rdropWhile_prefix isBlank (s.toList.dropWhile isBlank)
    rw [← hrest] at hd
    cases hcs : (s.toList.dropWhile isBlank).rdropWhile isBlank with
    | nil => rfl
    | cons c cs => simpa [hcs] using hd
  · exact rdropWhile_isBlank_eq_self_iff.1 (List.rdropWhile_idempotent ..)

theorem trim_eq_empty_iff {s : String} : trim s = "" ↔ allBlank s = true := by
  rw [← String.toList_inj, trim, String.toList_ofList, trimList_eq, allBlank, List.all_eq_true]
  refine List.rdropWhile_eq_nil_iff.trans ⟨fun h c hc => ?_, fun h c hc => ?_⟩
  · rw [← s.toList.takeWhile_append_dropWhile (p := isBlank), List.mem_append] at hc
    exact hc.elim List.mem_takeWhile_imp (h c)
  · exact h c ((List.dropWhile_suffix _).subset hc)

end Text

/-! ## Toggled columns -/

namespace Pivot.Assignment

variable {a : Assignment} {column : String} {type : ColumnType}

theorem toggle_of_assigned (h : a.isAssigned column = true) :
    a.toggle column type = (none, a.restrict (· != column)) := by
  simp [toggle, h]

theorem toggle_of_unassigned (h : a.isAssigned column = false) :
    a.toggle column type = (some (naturalZone type), a.assign column (naturalZone type)) := by
  simp [toggle, h]

end Pivot.Assignment

/-! ## Columns on the axes of a chart -/

namespace Chart

inductive Axis where
  | x
  | y
  deriving DecidableEq

theorem meant?_of_readable {c : String} (h : Text.allBlank c = false) :
    meant? (some c) = some (Text.trim c) := by
  have hne : Text.trim c ≠ "" := by simp [Text.trim_eq_empty_iff, h]
  exact meant?_eq_some_iff.2 ⟨rfl, hne⟩

namespace Selection

def column? (s : Selection) : Axis → Option String
  | .x => s.x
  | .y => s.y

def withColumn (s : Selection) (column : Option String) : Axis → Selection
  | .x => { s with x := column }
  | .y => { s with y := column }

theorem column?_withColumn (s : Selection) (column : Option String) (axis other : Axis) :
    (s.withColumn column axis).column? other = if other = axis then column else s.column? other := by
  cases axis <;> cases other <;> rfl

theorem column?_rederive (s : Selection) (catalog : Catalog) (axis : Axis) :
    (s.rederive catalog).column? axis = s.column? axis := by
  cases axis <;> rfl

end Selection

end Chart

namespace View

open Chart (Axis)

/-- Chooses the column of an axis. -/
def setAxis (v : View) (text : Option String) : Axis → Except Rejection Unit × View
  | .x => v.setX text
  | .y => v.setY text

/-! ## What is done to a named column -/

/-- Something is done if the catalog has the column, and only then, and it is done to that column. -/
structure Accepts {α : Type} (v : View) (column : String) (attempt : Except Rejection α × View)
    (done : α → View → Prop) : Prop where
  ok_iff : (∃ a w, attempt = (.ok a, w)) ↔ v.catalog.contains column = true
  done : ∀ a w, attempt = (.ok a, w) → done a w
  refused : Keeps v attempt

/-- A column was chosen for an axis. -/
structure Chooses (v : View) (axis : Axis) (column : String) (w : View) : Prop where
  chosen : w.selection.column? axis = some column
  others : ∀ other, other ≠ axis → w.selection.column? other = v.selection.column? other
  framed : w = { v with selection := w.selection }

/-- A column was put into a zone, or taken out of all zones. -/
structure Moves (v : View) (column : String) (zone : Option Pivot.Zone) (w : View) : Prop where
  moved : w.assignment.zoneOf? column = zone
  others : ∀ other, other ≠ column → w.assignment.zoneOf? other = v.assignment.zoneOf? other
  framed : w = { v with assignment := w.assignment }

variable {v w : View} {column : String}

theorem accepts_of_error_iff {α : Type} {attempt : Except Rejection α × View}
    {done : α → View → Prop} (he : ∀ cause, attempt.1 = .error cause ↔
      v.catalog.contains column = false ∧ cause = .unknownColumn column)
    (hd : ∀ a w, attempt = (.ok a, w) → done a w) (hk : Keeps v attempt) :
    v.Accepts column attempt done where
  ok_iff := by
    obtain ⟨result, w⟩ := attempt
    cases result with
    | ok a =>
      have hknown : v.catalog.contains column ≠ false := by
        intro hc
        cases (he _).2 ⟨hc, rfl⟩
      simpa using hknown
    | error cause => simp [((he cause).1 rfl).1]
  done := hd
  refused := hk

theorem moves_assign (v : View) (column : String) (zone : Pivot.Zone) :
    v.Moves column (some zone) { v with assignment := v.assignment.assign column zone } where
  moved := Pivot.Assignment.zoneOf?_assign.2 (.inl ⟨rfl, rfl⟩)
  others other hne := Option.ext fun zone => by
    simp [Pivot.Assignment.zoneOf?_assign, hne.symm]
  framed := rfl

theorem moves_unassign (v : View) (column : String) :
    v.Moves column none { v with assignment := v.assignment.restrict (· != column) } where
  moved := Option.eq_none_iff_forall_ne_some.2 fun zone h => by
    simp [Pivot.Assignment.zoneOf?_restrict] at h
  others other hne := Option.ext fun zone => by
    simp [Pivot.Assignment.zoneOf?_restrict, hne]
  framed := rfl

theorem accepts_assign (v : View) (column : String) (zone : Pivot.Zone) :
    v.Accepts column (v.assign column zone) fun _ => v.Moves column (some zone) := by
  refine accepts_of_error_iff (fun _ => assign_error_iff) (fun done w hw => ?_)
    (keeps_assign column zone)
  unfold assign at hw
  split at hw
  · cases hw
    exact v.moves_assign column zone
  · cases hw

theorem toggle_of_typed {type : ColumnType} (h : v.catalog.typeOf? column = some type) :
    v.toggle column = (.ok (v.assignment.toggle column type).1,
      { v with assignment := (v.assignment.toggle column type).2 }) := by
  rw [toggle, h]

theorem accepts_toggle (v : View) (column : String) :
    v.Accepts column (v.toggle column) fun zone w => v.Moves column zone w ∧
      (zone = none ↔ v.assignment.isAssigned column = true) := by
  refine accepts_of_error_iff (fun _ => toggle_error_iff) (fun zone w hw => ?_)
    (keeps_toggle column)
  cases htype : v.catalog.typeOf? column with
  | none =>
    rw [toggle, htype] at hw
    cases hw
  | some type =>
    rw [toggle_of_typed htype] at hw
    obtain ⟨rfl, rfl⟩ : (v.assignment.toggle column type).1 = zone ∧
        { v with assignment := (v.assignment.toggle column type).2 } = w := by
      simpa only [Prod.mk.injEq, Except.ok.injEq] using hw
    cases ha : v.assignment.isAssigned column with
    | true =>
      rw [Pivot.Assignment.toggle_of_assigned ha]
      exact ⟨v.moves_unassign column, iff_of_true rfl rfl⟩
    | false =>
      rw [Pivot.Assignment.toggle_of_unassigned ha]
      exact ⟨v.moves_assign column _, iff_of_false (Option.some_ne_none _) Bool.false_ne_true⟩

theorem accepts_addFilter (v : View) (column : String) (value : Scalar) :
    v.Accepts column (v.addFilter column value)
      fun _ w => v.filters.Sets column value w.filters := by
  refine accepts_of_error_iff (fun _ => addFilter_error_iff) (fun tickets w hw => ?_)
    (keeps_addFilter column value)
  cases hc : v.catalog.contains column with
  | false =>
    rw [addFilter_of_not_contains hc] at hw
    cases hw
  | true =>
    obtain ⟨tickets', w', hw', hsets⟩ := addFilter_sets hc value
    rw [hw'] at hw
    cases hw
    exact hsets

/-- Asks for a recast of just these columns, and loads the columns again after it. -/
def askRecast {m : Type → Type} [Monad m] (v : View) (service : Backend.Service m)
    (changes : List (String × Recast.Target)) : m (Except Failure Unit × View) := do
  match ← service.recast (.ofTargets changes) with
  | .error failure => return (.error failure, v)
  | .ok () => v.reload service

/-- The recast of one column among others that the catalog has. -/
theorem recast_eq {m : Type → Type} [Monad m] (v : View) (service : Backend.Service m)
    (column : String) (target : Recast.Target) {before after : List (String × Recast.Target)}
    (hothers : ∀ change ∈ before ++ after, v.catalog.contains change.1 = true) :
    v.recast service (before ++ (column, target) :: after) =
      if v.catalog.contains column then v.askRecast service (before ++ (column, target) :: after)
      else pure (.error (.rejected (.unknownColumn column)), v) := by
  cases hc : v.catalog.contains column with
  | false =>
    have hbefore : ∀ change ∈ before, v.catalog.contains change.1 = true :=
      fun change h => hothers change (List.mem_append_left _ h)
    exact recast_of_unknown ⟨before, target, after, rfl, hbefore, hc⟩ service
  | true =>
    have hnone : (before ++ (column, target) :: after).find?
        (fun change => !v.catalog.contains change.1) = none := by
      simp only [List.find?_eq_none, List.mem_append, List.mem_cons]
      rintro change (h | rfl | h)
      · simp [hothers change (List.mem_append_left _ h)]
      · simp [hc]
      · simp [hothers change (List.mem_append_right _ h)]
    rw [recast, if_neg (by simp), recastRequest, hnone]
    rfl

theorem setAxis_eq (v : View) (text : Option String) (axis : Axis) :
    v.setAxis text axis = match Chart.chosen? v.catalog text with
      | .ok column => (.ok (), { v with
          selection := (v.selection.withColumn column axis).rederive v.catalog })
      | .error cause => (.error cause, v) := by
  unfold setAxis setX setY Chart.Selection.setX Chart.Selection.setY
  cases axis <;> cases Chart.chosen? v.catalog text <;> rfl

theorem setAxis_ok_iff {text : Option String} {axis : Axis} :
    v.setAxis text axis = (.ok (), w) ↔ Chart.Names v.catalog text ∧ w = { v with
      selection := (v.selection.withColumn (Chart.meant? text) axis).rederive v.catalog } := by
  rw [setAxis_eq]
  rcases Chart.chosen?_cases v.catalog text with ⟨hnames, hchosen⟩ | ⟨hnot, cause, hchosen⟩
  · simp [hchosen, hnames, eq_comm (a := w)]
  · simp [hchosen, hnot]

theorem keeps_setAxis (text : Option String) : ∀ axis, Keeps v (v.setAxis text axis)
  | .x => keeps_setX text
  | .y => keeps_setY text

theorem column?_of_setAxis {text : Option String} {axis : Axis}
    (h : v.setAxis text axis = (.ok (), w)) (other : Axis) : w.selection.column? other =
      if other = axis then Chart.meant? text else v.selection.column? other := by
  obtain ⟨-, rfl⟩ := setAxis_ok_iff.1 h
  rw [Chart.Selection.column?_rederive, Chart.Selection.column?_withColumn]

/-- What is chosen is the column without the blanks. -/
theorem accepts_setAxis (v : View) (axis : Axis) (hc : Text.allBlank column = false) :
    v.Accepts (Text.trim column) (v.setAxis (some column) axis)
      fun _ => v.Chooses axis (Text.trim column) where
  ok_iff := by
    constructor
    · rintro ⟨_, w, hw⟩
      exact (setAxis_ok_iff.1 hw).1 _ (Chart.meant?_of_readable hc)
    · intro hknown
      refine ⟨(), _, setAxis_ok_iff.2 ⟨?_, rfl⟩⟩
      rw [Chart.Names, Chart.meant?_of_readable hc]
      rintro _ ⟨⟩
      exact hknown
  done _ w hw := by
    have hcolumn := column?_of_setAxis hw
    rw [Chart.meant?_of_readable hc] at hcolumn
    obtain ⟨-, rfl⟩ := setAxis_ok_iff.1 hw
    exact {
      chosen := by rw [hcolumn, if_pos rfl]
      others := fun other hne => by rw [hcolumn, if_neg hne]
      framed := rfl }
  refused := keeps_setAxis (some column) axis

/-- An axis does with a text what the other operations do just if there is nothing to cut off, or
if the text names no column either way. -/
theorem accepts_setAxis_iff (v : View) (axis : Axis) (hc : Text.allBlank column = false) :
    (v.Accepts column (v.setAxis (some column) axis) fun _ => v.Chooses axis column) ↔
      Text.padded column = false ∨
        v.catalog.contains column = false ∧ v.catalog.contains (Text.trim column) = false := by
  have htrim := v.accepts_setAxis axis hc
  rw [← Text.trim_eq_self_iff]
  constructor
  · intro h
    cases hknown : v.catalog.contains (Text.trim column) with
    | true =>
      obtain ⟨done, w, hw⟩ := htrim.ok_iff.2 hknown
      have hcolumn : some (Text.trim column) = some column :=
        (htrim.done done w hw).chosen.symm.trans (h.done done w hw).chosen
      exact .inl (Option.some.inj hcolumn)
    | false =>
      have hsame := h.ok_iff.symm.trans htrim.ok_iff
      rw [hknown, Bool.false_eq_true, iff_false, Bool.not_eq_true] at hsame
      exact .inr ⟨hsame, rfl⟩
  · rintro (heq | ⟨hunknown, htrimmed⟩)
    · rwa [heq] at htrim
    · have hnone : ¬ ∃ done w, v.setAxis (some column) axis = (.ok done, w) := by
        rw [htrim.ok_iff, htrimmed]
        exact Bool.false_ne_true
      exact {
        ok_iff := iff_of_false hnone (by simp [hunknown])
        done := fun done w hw => absurd ⟨done, w, hw⟩ hnone
        refused := keeps_setAxis (some column) axis }

/-- No text chooses a column whose name begins or ends with a blank. -/
theorem exists_setAxis_iff (v : View) (axis : Axis) (hc : Text.allBlank column = false) :
    (∃ text w, v.setAxis text axis = (.ok (), w) ∧ w.selection.column? axis = some column) ↔
      v.catalog.contains column = true ∧ Text.padded column = false := by
  constructor
  · rintro ⟨text, w, hw, hcolumn⟩
    rw [column?_of_setAxis hw, if_pos rfl] at hcolumn
    have hnames := (setAxis_ok_iff.1 hw).1 column hcolumn
    cases text with
    | none => simp [Chart.meant?] at hcolumn
    | some text =>
      obtain ⟨rfl, -⟩ := Chart.meant?_eq_some_iff.1 hcolumn
      exact ⟨hnames, Text.padded_trim text⟩
  · rintro ⟨hknown, hpadded⟩
    have haccepts := (v.accepts_setAxis_iff axis hc).2 (.inl hpadded)
    obtain ⟨done, w, hw⟩ := haccepts.ok_iff.2 hknown
    exact ⟨some column, w, hw, (haccepts.done done w hw).chosen⟩

/-- What the operations that name a column make of a text. -/
structure NamesAgree (v : View) (column : String) : Prop where
  assign : ∀ zone, v.Accepts column (v.assign column zone) fun _ => v.Moves column (some zone)
  toggle : v.Accepts column (v.toggle column) fun zone w =>
    v.Moves column zone w ∧ (zone = none ↔ v.assignment.isAssigned column = true)
  addFilter : ∀ value, v.Accepts column (v.addFilter column value) fun _ w =>
    v.filters.Sets column value w.filters
  recast : ∀ (m : Type → Type) [Monad m] (service : Backend.Service m) (target : Recast.Target)
      (before after : List (String × Recast.Target)),
    (∀ change ∈ before ++ after, v.catalog.contains change.1 = true) →
    v.recast service (before ++ (column, target) :: after) =
      if v.catalog.contains column then v.askRecast service (before ++ (column, target) :: after)
      else pure (.error (.rejected (.unknownColumn column)), v)
  setAxis : ∀ axis, v.Accepts (Text.trim column) (v.setAxis (some column) axis)
    fun _ => v.Chooses axis (Text.trim column)
  setAxis_iff : ∀ axis,
    (v.Accepts column (v.setAxis (some column) axis) fun _ => v.Chooses axis column) ↔
    Text.padded column = false ∨
      v.catalog.contains column = false ∧ v.catalog.contains (Text.trim column) = false
  chosen_iff : ∀ axis,
    (∃ text w, v.setAxis text axis = (.ok (), w) ∧ w.selection.column? axis = some column) ↔
      v.catalog.contains column = true ∧ Text.padded column = false

theorem names_agree (v : View) (hc : Text.allBlank column = false) : v.NamesAgree column where
  assign := v.accepts_assign column
  toggle := v.accepts_toggle column
  addFilter := v.accepts_addFilter column
  recast _ _ service target _ _ := v.recast_eq service column target
  setAxis axis := v.accepts_setAxis axis hc
  setAxis_iff axis := v.accepts_setAxis_iff axis hc
  chosen_iff axis := v.exists_setAxis_iff axis hc

end View

namespace Record

/-- A service that reports two columns with blanks around their names. -/
def paddedService : Backend.Service Id where
  columns := .ok (.ofList
    [.ofTag " region " "utf8", .ofTag "region" "utf8", .ofTag " sales " "float64"])
  chart _ := .ok {}
  pivot _ := .ok {}
  recast _ := .ok ()

def paddedLoaded : Record := (start .default).run [.reload paddedService]

theorem names_agree_paddedLoaded : paddedLoaded.Reachable ∧
    Text.allBlank " region " = false ∧ Text.padded " region " = true ∧
    paddedLoaded.view.NamesAgree " region " ∧
    Text.allBlank "region" = false ∧ Text.padded "region" = false ∧
    paddedLoaded.view.NamesAgree "region" :=
  ⟨reachable_of_legal (by decide +kernel), by decide +kernel, by decide +kernel,
    View.names_agree _ (by decide +kernel), by decide +kernel, by decide +kernel,
    View.names_agree _ (by decide +kernel)⟩

/-- The column of the sales is there and can be put into a pivot table, but no text chooses it for an
axis. The name of the one column of regions chooses the other. -/
theorem padded_name_unchosen : paddedLoaded.Reachable ∧
    paddedLoaded.view.catalog.contains " sales " = true ∧
    (paddedLoaded.view.assign " sales " .values).1 = .ok () ∧
    (paddedLoaded.view.assign " sales " .values).2.assignment.zoneOf? " sales " = some .values ∧
    paddedLoaded.view.setX (some " sales ") =
      (.error (.unknownColumn "sales"), paddedLoaded.view) ∧
    paddedLoaded.view.setY (some " sales ") =
      (.error (.unknownColumn "sales"), paddedLoaded.view) ∧
    (∀ axis text w, paddedLoaded.view.setAxis text axis = (.ok (), w) →
      w.selection.column? axis ≠ some " sales ") ∧
    paddedLoaded.view.catalog.contains " region " = true ∧
    (paddedLoaded.view.setX (some " region ")).1 = .ok () ∧
    (paddedLoaded.view.setX (some " region ")).2.selection.x = some "region" := by
  refine ⟨reachable_of_legal (by decide +kernel), by decide +kernel, by decide +kernel,
    by decide +kernel, by decide +kernel, by decide +kernel, ?_, by decide +kernel,
    by decide +kernel, by decide +kernel⟩
  intro axis text w hw hcolumn
  have hpadded := ((View.exists_setAxis_iff _ axis (by decide +kernel)).1 ⟨text, w, hw, hcolumn⟩).2
  exact absurd hpadded (by decide +kernel)

end Record

end CrossFilter
