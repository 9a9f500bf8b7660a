import CrossFilter.View.Session
import Mathlib.Tactic.SplitIfs

/-!
# Saved tabs

A view starts on the tab that its preference file keeps, and writes every tab that is switched to.
The tab is switched even if it cannot be written, and asking again for the active tab succeeds
without another attempt. `persisted_iff` says what a success is worth: the tab is kept, unless it
was active already, writing it had failed, and it was only asked for again since.
-/

namespace CrossFilter

namespace PreferenceFile

theorem tabOf_textOf (tab : Tab) : Preferences.tabOf (some (Preferences.textOf tab)) = tab := by
  cases tab <;> decide +kernel

theorem load_save (file : PreferenceFile) (tab : Tab) :
    (file.save tab).2.load = if file.writable then tab else file.load := by
  unfold save
  split_ifs
  · exact tabOf_textOf tab
  · rfl

theorem save_ok_iff {file : PreferenceFile} {tab : Tab} :
    (file.save tab).1 = .ok () ↔ file.writable = true := by
  unfold save
  split_ifs with h <;> simp [h]

end PreferenceFile

/-- A call for a tab, and whether the preference file can be written meanwhile. -/
structure TabCall where
  tab : Tab
  writable : Bool
  deriving DecidableEq, Repr

/-- A view and the file that keeps its tab. -/
structure StoredView where
  view : View
  file : PreferenceFile

namespace StoredView

/-- A new view, on the tab that the file keeps. -/
def opened (file : PreferenceFile) : StoredView := ⟨{ tab := file.load }, file⟩

def switch (s : StoredView) (call : TabCall) : Except Failure Unit × StoredView :=
  let save : Tab → StateM PreferenceFile (Except Failure Unit) := fun tab file => file.save tab
  let ((done, view), file) :=
    (s.view.switchAndSave save call.tab).run { s.file with writable := call.writable }
  (done, ⟨view, file⟩)

/-- A view that was opened on a file, after some calls. The newest call is the first. -/
def after (file : PreferenceFile) (calls : List TabCall) : StoredView :=
  calls.foldr (fun call s => (s.switch call).2) (opened file)

/-! ## One call -/

theorem switch_of_active {s : StoredView} {call : TabCall} (h : call.tab = s.view.tab) :
    s.switch call = (.ok (), ⟨s.view, { s.file with writable := call.writable }⟩) := by
  have hswitch : s.view.switchTab call.tab = (none, s.view) := if_pos h
  unfold switch View.switchAndSave
  rw [hswitch]
  rfl

theorem switch_of_inactive {s : StoredView} {call : TabCall} (h : call.tab ≠ s.view.tab) :
    s.switch call = (({ s.file with writable := call.writable }.save call.tab).1,
      ⟨{ s.view with tab := call.tab },
        ({ s.file with writable := call.writable }.save call.tab).2⟩) := by
  have hswitch : s.view.switchTab call.tab = (some call.tab, { s.view with tab := call.tab }) :=
    if_neg h
  unfold switch View.switchAndSave
  rw [hswitch]
  rfl

theorem switch_tab (s : StoredView) (call : TabCall) : (s.switch call).2.view.tab = call.tab := by
  by_cases h : call.tab = s.view.tab
  · rw [switch_of_active h, h]
  · rw [switch_of_inactive h]

/-- A call succeeds if there is nothing to write, too. -/
theorem switch_ok_iff {s : StoredView} {call : TabCall} :
    (s.switch call).1 = .ok () ↔ call.tab = s.view.tab ∨ call.writable = true := by
  by_cases h : call.tab = s.view.tab
  · simp [switch_of_active h, h]
  · simp [switch_of_inactive h, PreferenceFile.save_ok_iff, h]

theorem load_switch (s : StoredView) (call : TabCall) : (s.switch call).2.file.load =
    if call.tab ≠ s.view.tab ∧ call.writable = true then call.tab else s.file.load := by
  by_cases h : call.tab = s.view.tab
  · rw [switch_of_active h, if_neg fun hwrites => hwrites.1 h]
    rfl
  · rw [switch_of_inactive h, PreferenceFile.load_save]
    simp only [ne_eq, h, not_false_eq_true, true_and]
    rfl

/-! ## All calls -/

/-- The tab that is active after some calls: the one that was asked for last. -/
def active (first : Tab) : List TabCall → Tab
  | [] => first
  | call :: _ => call.tab

/-- The tab that is kept after some calls: the last one that was not active when it was asked for,
and could be written then. -/
def kept (first : Tab) : List TabCall → Tab
  | [] => first
  | call :: earlier =>
    if call.tab ≠ active first earlier ∧ call.writable = true then call.tab else kept first earlier

theorem tab_after (file : PreferenceFile) (calls : List TabCall) :
    (after file calls).view.tab = active file.load calls := by
  cases calls with
  | nil => rfl
  | cons call earlier => exact switch_tab _ call

theorem load_after (file : PreferenceFile) (calls : List TabCall) :
    (after file calls).file.load = kept file.load calls := by
  induction calls with
  | nil => rfl
  | cons call earlier ih =>
    show ((after file earlier).switch call).2.file.load = _
    rw [load_switch, tab_after, ih, kept]

/-- The tab is active but not kept: writing it failed while another one was kept, and it was only
asked for again since. -/
inductive Stranded (first tab : Tab) : List TabCall → Prop
  | failed {earlier : List TabCall} :
      active first earlier ≠ tab → kept first earlier ≠ tab →
      Stranded first tab (⟨tab, false⟩ :: earlier)
  | again {earlier : List TabCall} {writable : Bool} :
      Stranded first tab earlier → Stranded first tab (⟨tab, writable⟩ :: earlier)

theorem stranded_iff {first tab : Tab} {calls : List TabCall} :
    Stranded first tab calls ↔ active first calls = tab ∧ kept first calls ≠ tab := by
  constructor
  · intro h
    induction h with
    | failed _ hkept => exact ⟨rfl, by simpa [kept] using hkept⟩
    | again _ ih => exact ⟨rfl, by simpa [kept, ih.1] using ih.2⟩
  · rintro ⟨hactive, hkept⟩
    induction calls with
    | nil => exact absurd hactive hkept
    | cons call earlier ih =>
      obtain ⟨called, writable⟩ := call
      obtain rfl : called = tab := hactive
      rw [kept] at hkept
      by_cases hsame : called = active first earlier
      · rw [if_neg fun hwrites => hwrites.1 hsame] at hkept
        exact .again (ih hsame.symm hkept)
      · cases writable with
        | false => exact .failed (Ne.symm hsame) (by simpa using hkept)
        | true => exact absurd (if_pos ⟨hsame, rfl⟩) hkept

/-- A call that succeeds keeps its tab, unless the tab was active without being kept. -/
theorem persisted_iff {file : PreferenceFile} {calls : List TabCall} {call : TabCall}
    (h : ((after file calls).switch call).1 = .ok ()) :
    (opened ((after file calls).switch call).2.file).view.tab = call.tab ↔
      ¬ Stranded file.load call.tab calls := by
  show ((after file calls).switch call).2.file.load = call.tab ↔ _
  rw [switch_ok_iff, tab_after] at h
  rw [load_switch, tab_after, load_after, stranded_iff]
  by_cases hactive : call.tab = active file.load calls
  · simp [hactive]
  · have hwritable : call.writable = true := h.resolve_left hactive
    simp [hactive, hwritable, Ne.symm hactive]

/-- The second tab was saved, and saving the first one again failed. Asking for the second one
now saves it again. -/
theorem persisted_iff_savedAgain :
    ((after ⟨none, true⟩ [⟨.charts, false⟩, ⟨.pivot, true⟩]).switch ⟨.pivot, true⟩).1 = .ok () ∧
    ¬ Stranded .charts .pivot [⟨.charts, false⟩, ⟨.pivot, true⟩] ∧
    (opened ((after ⟨none, true⟩ [⟨.charts, false⟩, ⟨.pivot, true⟩]).switch
      ⟨.pivot, true⟩).2.file).view.tab = .pivot := by
  have hok : ((after ⟨none, true⟩ [⟨.charts, false⟩, ⟨.pivot, true⟩]).switch ⟨.pivot, true⟩).1 =
      .ok () := switch_ok_iff.2 (.inr rfl)
  have hstranded : ¬ Stranded .charts .pivot [⟨.charts, false⟩, ⟨.pivot, true⟩] := by
    rw [stranded_iff]
    decide
  exact ⟨hok, hstranded, (persisted_iff hok).2 hstranded⟩

/-- Writing the second tab fails, and asking for it again succeeds, but the file keeps nothing. -/
theorem repeated_call_unsaved :
    ((opened ⟨none, false⟩).switch ⟨.pivot, false⟩).1 ≠ .ok () ∧
    ((after ⟨none, false⟩ [⟨.pivot, false⟩]).switch ⟨.pivot, false⟩).1 = .ok () ∧
    (opened ((after ⟨none, false⟩ [⟨.pivot, false⟩]).switch ⟨.pivot, false⟩).2.file).view.tab =
      .charts := by
  refine ⟨fun h => ?_, ?_, by decide +kernel⟩
  · rcases switch_ok_iff.1 h with hactive | hwritable
    · exact absurd hactive (by decide +kernel)
    · cases hwritable
  · exact switch_ok_iff.2 (.inl (tab_after ⟨none, false⟩ [⟨.pivot, false⟩]).symm)

end StoredView

end CrossFilter
