import CrossFilter.Failure
import CrossFilter.Json.Printer
import CrossFilter.Json.Shape

/-!
# Preferences

The tab that was active last is kept in a small JSON text. A text that is missing or cannot be read
means the first tab. Members other than `last_tab` may hold anything; two `last_tab` make the text
unreadable.
-/

namespace CrossFilter

inductive Tab where
  | charts
  | pivot
  deriving DecidableEq, Repr

namespace Tab

def all : List Tab := [charts, pivot]

def name : Tab → String
  | .charts => "charts"
  | .pivot => "pivot"

def default : Tab := .charts

def ofTree? (t : Json.Tree) : Option Tab := do
  let name ← t.name?
  all.find? fun tab => tab.name == name

end Tab

namespace Preferences

/-- The tab of a record that is spelled as an object or as an array. -/
def tabOfTree? : Json.Tree → Option Tab
  | .array [] => some .default
  | .array [t] => Tab.ofTree? t
  | .object members => do
    let keys ← members.mapM (·.1)
    match (keys.zip (members.map (·.2))).filter (·.1 == "last_tab") with
    | [] => return .default
    | [(_, t)] => Tab.ofTree? t
    | _ => none
  | _ => none

/-- The tab that a preference text keeps. -/
def tabOf (text : Option String) : Tab :=
  ((text.bind Json.Tree.ofText?).bind tabOfTree?).getD .default

/-- The preference text that keeps a tab. -/
def textOf (tab : Tab) : String :=
  (Json.object [("last_tab", .text tab.name)]).renderPretty

end Preferences

/-- The place where the preference text is kept. -/
structure PreferenceFile where
  /-- The text that can be read there. -/
  text : Option String
  /-- Whether a text can be put there. -/
  writable : Bool
  deriving DecidableEq, Repr

namespace PreferenceFile

def load (f : PreferenceFile) : Tab := Preferences.tabOf f.text

/-- A failed attempt leaves the text as it was. -/
def save (f : PreferenceFile) (tab : Tab) : Except Failure Unit × PreferenceFile :=
  if f.writable then (.ok (), { f with text := some (Preferences.textOf tab) })
  else (.error (.storage "the preference file cannot be written"), f)

end PreferenceFile

end CrossFilter
