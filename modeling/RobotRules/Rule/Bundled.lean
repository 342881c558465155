import RobotRules.Config.Basic
import RobotRules.Failure
import RobotRules.Files
import RobotRules.Log

/-! The rules that come with the engine, and reading rules from a file. -/

namespace RobotRules.Rule

/-- The lines of the rules that come with the engine: the robot greets, then
drives to a place, names its places, raises its head, drives home, or hands a
question to the assistant. -/
def bundledLines : List String := [
  "[",
  "    [Memory.getStateParam(\"interactionState\") == \"Active\" -->",
  "        TTS.speak(\"Hello, I am listening. Ask me to go somewhere or to list " ++
    "my locations.\");",
  "        Memory.setStateParam(\"interactionState\", \"listening\");",
  "        ASR.listen()]",
  "",
  "    [Memory.getStateParam(\"interactionState\") == \"asrReceived\" && " ++
    "PatternMatch(\"go to \x7bplace\x7d\", Memory.getStateParam(\"lastAsrResult\")) -->",
  "        TTS.speak(\"Okay\");",
  "        Memory.setStateParam(\"destination\", ExtractParam(\"go to " ++
    "\x7bplace\x7d\", Memory.getStateParam(\"lastAsrResult\")));",
  "        Memory.setStateParam(\"interactionState\", \"navigating\")]",
  "",
  "    [Memory.getStateParam(\"interactionState\") == \"navigating\" -->",
  "        TTS.speak(\"On my way\");",
  "        Move.goToLocation(Memory.getStateParam(\"destination\"));",
  "        Memory.setStateParam(\"interactionState\", \"idle\")]",
  "",
  "    [Memory.getStateParam(\"interactionState\") == \"asrReceived\" && " ++
    "PatternMatch(\"*locations*\", Memory.getStateParam(\"lastAsrResult\")) -->",
  "        TTS.speak(Locations.listLocations());",
  "        Memory.setStateParam(\"interactionState\", \"idle\")]",
  "",
  "    [Memory.getStateParam(\"interactionState\") == \"asrReceived\" && " ++
    "PatternMatch(\"look up\", Memory.getStateParam(\"lastAsrResult\")) || " ++
    "Memory.getStateParam(\"interactionState\") == \"asrReceived\" && " ++
    "PatternMatch(\"head up\", Memory.getStateParam(\"lastAsrResult\")) -->",
  "        TTS.speak(\"Looking up\");",
  "        TiltHead.up();",
  "        Memory.setStateParam(\"interactionState\", \"idle\")]",
  "",
  "    [Memory.getStateParam(\"interactionState\") == \"asrReceived\" && " ++
    "PatternMatch(\"go home\", Memory.getStateParam(\"lastAsrResult\")) -->",
  "        TTS.speak(\"Going home\");",
  "        Move.goHome();",
  "        Memory.setStateParam(\"interactionState\", \"idle\")]",
  "",
  "    [Memory.getStateParam(\"interactionState\") == \"asrReceived\" -->",
  "        TTS.speak(Assistant.ask(Memory.getStateParam(\"lastAsrResult\")));",
  "        Memory.setStateParam(\"interactionState\", \"idle\")]",
  "]"]

/-- The rules that come with the engine. -/
def bundledText : Text := Text.ofLines (bundledLines.map String.toList)

/-- The lines of the rules that stand in for a file that cannot be read. -/
def fallbackLines : List String := [
  "[",
  "    [Memory.getStateParam(\"interactionState\") == \"active\" -->",
  "    TTS.speak(\"this is a test\"); Memory.setStateParam(\"interactionState\", " ++
    "\"idle\")]",
  "    [Memory.getStateParam(\"interactionState\") == \"idle\" -->",
  "    TTS.speak(\"Interaction is idle\"); " ++
    "Memory.setStateParam(\"interactionState\", \"active\")]",
  "]"]

/-- The rules that stand in for a file that cannot be read. -/
def fallbackText : Text := Text.join "\n" (fallbackLines.map String.toList)

/-- The channel on which sources of rules report. -/
def sourceChannel : Text := "rulebot.engine.rule_source"

/-- The path that a setting gives, or that of the bundled rules if it gives
none. -/
def pathOrBundled (setting : Value) : Value :=
  if setting.isGiven then setting else .text bundledPath

/-- The normal form of the path that a value spells. -/
def path? : Value → Except Failure Text
  | .text path => .ok (FilePath.normalize path)
  | _ => .error .wrongType

/-- The text of the file at a path in normal form. -/
def readFile (path : Text) (files : Files) :
    Except Failure (Except FileError Text) :=
  if path.contains '\x00' then .error .invalidPath
  else if path = bundledPath then .ok (.ok bundledText)
  else .ok (files path)

/-- The rules that a setting leads to. A file that cannot be read is reported,
and the fallback stands in for it. -/
def load (setting : Value) (files : Files) : Except Failure (Text × Log) := do
  let path ← path? (pathOrBundled setting)
  match ← readFile path files with
  | .ok text => return (text, [])
  | .error error =>
    let message : Text :=
      "Failed to load rules from " ++ path ++ ": " ++ error.className
    return (fallbackText, [⟨.error, sourceChannel, message⟩])

end RobotRules.Rule
