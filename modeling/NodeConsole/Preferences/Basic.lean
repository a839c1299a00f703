import NodeConsole.Json.Printer
import NodeConsole.Json.Record
/-!
Display preferences of one running user interface: three flags with a JSON form of their own.
-/

namespace NodeConsole

structure Preferences where
  waveBackground : Bool := true
  minimizedNotification : Bool := true
  settingsDialog : Bool := false
deriving DecidableEq, Repr, Inhabited

namespace Preferences

inductive Flag where
  | waveBackground
  | minimizedNotification
  | settingsDialog
deriving DecidableEq, Repr

def get (preferences : Preferences) : Flag → Bool
  | .waveBackground => preferences.waveBackground
  | .minimizedNotification => preferences.minimizedNotification
  | .settingsDialog => preferences.settingsDialog

def set (preferences : Preferences) (flag : Flag) (value : Bool) : Preferences :=
  match flag with
  | .waveBackground => { preferences with waveBackground := value }
  | .minimizedNotification => { preferences with minimizedNotification := value }
  | .settingsDialog => { preferences with settingsDialog := value }

@[simp] theorem get_set_self (preferences : Preferences) (flag : Flag) (value : Bool) :
    (preferences.set flag value).get flag = value := by
  cases flag <;> rfl

theorem get_set_other {preferences : Preferences} {flag other : Flag} (different : other ≠ flag)
    (value : Bool) : (preferences.set flag value).get other = preferences.get other := by
  cases flag <;> cases other <;> first | rfl | exact absurd rfl different

/-! ## JSON form -/

def entries (preferences : Preferences) : List (String × Bool) :=
  [("showWaveBg", preferences.waveBackground),
   ("showMinimizedNotification", preferences.minimizedNotification),
   ("showSettingsModal", preferences.settingsDialog)]

def toJson (preferences : Preferences) : Json :=
  .ofEntries (preferences.entries.map fun entry => (entry.1, .bool entry.2))

def toText (preferences : Preferences) : String :=
  Json.compact (.object (preferences.entries.map fun entry => (entry.1, .bool entry.2)))

def shape : Json.Shape Preferences where
  name := "UiPreferences"
  initial := {}
  fields :=
    [⟨"showWaveBg", Json.boolSlot, fun value record => { record with waveBackground := value }⟩,
     ⟨"showMinimizedNotification", Json.boolSlot,
      fun value record => { record with minimizedNotification := value }⟩,
     ⟨"showSettingsModal", Json.boolSlot, fun value record => { record with settingsDialog := value }⟩]

def ofText (text : String) : Except Json.Error Preferences :=
  shape.ofText text

def ofJson (value : Json) : Except Json.Cause Preferences :=
  shape.ofValue value

example : (ofText "[false]").toOption = some { waveBackground := false } := by decide +kernel

end Preferences

end NodeConsole
