import CrossFilter.Chart.Request

/-!
# Chart selections

The X and Y column, kind and title that a user has chosen. The selection remembers which kinds are
valid for its columns: after every change of a column they are worked out from the catalog, and a
kind that is no longer among them gives way to the first that is.
-/

namespace CrossFilter.Chart

structure Selection where
  x : Option String := none
  y : Option String := none
  kind : Kind := .bar
  title : String := ""
  /-- The kinds that are valid for the types of `x` and `y`. -/
  kinds : List Kind := []
  deriving DecidableEq, Repr

/-- The column that a chosen text names, blanks around it aside; a blank text chooses none. -/
def chosen? (catalog : Catalog) : Option String → Except Rejection (Option String)
  | none => .ok none
  | some text =>
    let name := Text.trim text
    if name = "" then .ok none
    else if catalog.contains name then .ok (some name)
    else .error (.unknownColumn name)

/-- The column that a text is meant to name: none, if it is blank. -/
@[irreducible]
def meant? (text : Option String) : Option String := (text.map Text.trim).filter (· != "")

theorem chosen?_eq (catalog : Catalog) (text : Option String) :
    chosen? catalog text =
      match meant? text with
      | none => .ok none
      | some name =>
        if catalog.contains name then .ok (some name) else .error (.unknownColumn name) := by
  cases text with
  | none => simp [chosen?, meant?]
  | some text =>
    by_cases hblank : Text.trim text = ""
    · simp [chosen?, meant?, hblank, Option.filter]
    · simp [chosen?, meant?, hblank, Option.filter]

namespace Selection

/-- Works out the valid kinds, and leaves a kind that is not among them. -/
def rederive (s : Selection) (catalog : Catalog) : Selection :=
  let kinds := Kind.valid (s.x.bind catalog.typeOf?) (s.y.bind catalog.typeOf?)
  let kind := if kinds.contains s.kind then s.kind else kinds.head?.getD s.kind
  { s with kinds, kind }

def setX (s : Selection) (catalog : Catalog) (column : Option String) :
    Except Rejection Unit × Selection :=
  match chosen? catalog column with
  | .ok x => (.ok (), { s with x }.rederive catalog)
  | .error cause => (.error cause, s)

def setY (s : Selection) (catalog : Catalog) (column : Option String) :
    Except Rejection Unit × Selection :=
  match chosen? catalog column with
  | .ok y => (.ok (), { s with y }.rederive catalog)
  | .error cause => (.error cause, s)

def setKind (s : Selection) (kind : Kind) : Except Rejection Unit × Selection :=
  if s.kinds.contains kind then (.ok (), { s with kind })
  else (.error (.kindNotAllowed kind.name), s)

def setTitle (s : Selection) (title : String) : Selection := { s with title }

/-- The title above the chart: the user's if it is not blank, or one made of the columns. -/
def effectiveTitle (s : Selection) : Option String :=
  if Text.allBlank s.title then
    s.x.map fun x =>
      match s.y with
      | some y => y ++ " by " ++ x
      | none => "Distribution of " ++ x
  else some s.title

def isRenderable (s : Selection) : Bool := s.x.isSome && s.kinds.contains s.kind

/-- Takes on a new catalog: columns it does not have are cleared. -/
def reconcile (s : Selection) (catalog : Catalog) : Selection :=
  { s with x := s.x.filter catalog.contains, y := s.y.filter catalog.contains }.rederive catalog

def request (s : Selection) (filters : Filters) : Except Rejection Request :=
  match s.x with
  | none => .error .xRequired
  | some x =>
    if s.kinds.contains s.kind then .ok { x, y := s.y, kind := s.kind, filters }
    else .error (.kindNotAllowed s.kind.name)

/-- A request is made of a chosen X column and a kind that is valid. -/
theorem request_ok {s : Selection} {filters : Filters} {q : Request}
    (h : s.request filters = .ok q) :
    ∃ x, s.x = some x ∧ s.kind ∈ s.kinds ∧ q = { x, y := s.y, kind := s.kind, filters } := by
  unfold request at h
  split at h
  · cases h
  · next x hx =>
    split at h
    · next hkind =>
      cases h
      exact ⟨x, hx, List.contains_iff_mem.1 hkind, rfl⟩
    · cases h

/-- With an X column there is a title, and something to read in it. -/
theorem effectiveTitle_readable {s : Selection} {x : String} (hx : s.x = some x) :
    ∃ title, s.effectiveTitle = some title ∧ Text.allBlank title = false := by
  unfold effectiveTitle
  cases hblank : Text.allBlank s.title with
  | false => exact ⟨s.title, rfl, hblank⟩
  | true =>
    rw [hx]
    cases s.y with
    | none =>
      refine ⟨"Distribution of " ++ x, rfl, Text.allBlank_eq_false (c := 'D') ?_ (by decide)⟩
      simp
    | some y =>
      refine ⟨y ++ " by " ++ x, rfl, Text.allBlank_eq_false (c := 'b') ?_ (by decide)⟩
      simp

end Selection

end CrossFilter.Chart
