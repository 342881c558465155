import RobotRules.Check.Command

/-! The command line: it gathers what the command finds around it, and writes
its report. Without a network, services do not answer. -/

namespace RobotRules.Check

/-- The text of a file, its lines ended by line feeds, or why there is none. -/
def readTextFile (path : String) : IO (Except FileError Text) := do
  try
    let text ← IO.FS.readFile path
    return .ok (Text.normalizeLines text.toList)
  catch
    | .noFileOrDirectory .. => return .error .notFound
    | .inappropriateType .. => return .error .isADirectory
    | _ => return .error .notADirectory

/-- The variables of the environment that are set. -/
def readEnvironment : IO Config.Environment :=
  Config.variableNames.filterMapM fun name => do
    return (← IO.getEnv name).map fun value => (name.toList, ↑value)

/-- The text of the settings file in the home directory, if there is one. -/
def readConfigFile : IO (Option Text) := do
  match ← IO.getEnv "HOME" with
  | none => return none
  | some home => return (← readTextFile (home ++ "/.rulebot/config.json")).toOption

/-- The file that the command reads, as the only one that it finds. -/
def readFiles (path : Option Text) : IO Files := do
  match path with
  | none => return fun _ => .error .notFound
  | some path =>
    let text ← readTextFile (String.ofList path)
    return fun _ => text

/-- What a service says that cannot be reached. -/
def noNetwork : Reply := .unreachable "no network"

/-- Writes a report, or a failure that ended the command. -/
def write : Except Failure Report → IO UInt32
  | .ok report => do
    IO.print (String.ofList report.output)
    return report.code.toUInt32
  | .error failure => do
    IO.eprintln (String.ofList failure.report)
    return 1

end RobotRules.Check

open RobotRules Check in
/-- Checks the rules that the arguments name. -/
def main (arguments : List String) : IO UInt32 := do
  let texts := arguments.map String.toList
  let environment ← readEnvironment
  let configFile ← readConfigFile
  let files ← readFiles (fileToRead? texts configFile environment)
  write (run texts
    { files := files
      configFile := configFile
      environment := environment
      locate := Service.address?
      rulesReply := noNetwork
      chatReplies := [noNetwork]
      hasLog := false })
