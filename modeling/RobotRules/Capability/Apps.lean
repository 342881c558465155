import RobotRules.Capability.Places

/-! Opening pages of the system and other apps. -/

namespace RobotRules.Apps

open World

/-- The pages of the system by their friendly names. -/
def pages : List (Text × Text) :=
  [("settings", "SETTINGS"), ("map", "MAP_EDITOR"), ("map editor", "MAP_EDITOR"),
   ("contacts", "CONTACTS"), ("locations", "LOCATIONS"), ("apps", "ALL_APPS"),
   ("all apps", "ALL_APPS"), ("app list", "ALL_APPS"), ("home", "HOME"),
   ("tours", "TOURS")]

/-- The packages that may be behind a friendly name, the preferred one first. -/
def packages : List (Text × List Text) :=
  [("calculator", ["com.android.calculator2", "com.google.android.calculator"]),
   ("browser", ["com.android.chrome", "com.android.browser"]),
   ("chrome", ["com.android.chrome", "com.android.browser"]),
   ("youtube", ["com.google.android.youtube"])]

/-- What is filed under a name. -/
def find? {α : Type} (name : Text) (table : List (Text × α)) : Option α :=
  (table.find? fun entry => entry.1 == name).map Prod.snd

/-- Starts the first app that is installed, and tells whether there was one. -/
def launchFirst : List Text → Action Bool
  | [] => return false
  | app :: rest => do
    tell (.launchApp app)
    if (← get).robot.installedApps.contains app then return true
    launchFirst rest

/-- Opens a page or an app by its friendly name, or an app by the name of its
package, which has a point in it. -/
def openApp (name : Value) : Action Value := do
  match Places.clean? name with
  | none =>
    reportError Places.channel "App name cannot be empty"
    return .boolean false
  | some name =>
    let friendly := Text.lower name
    match find? friendly pages with
    | some page =>
      tell (.startPage page)
      return .boolean true
    | none =>
      let candidates := (if name.contains '.' then [name] else []) ++
        (find? friendly packages).getD []
      if ← launchFirst candidates then return .boolean true
      warn Places.channel ("Could not find app to open: " ++ name)
      return .boolean false

end RobotRules.Apps
