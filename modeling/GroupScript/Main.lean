import GroupScript.CommandLine.Toolkit
import GroupScript.Shell.Run

/-!
# The command line

Reads what the shell needs from the machine it runs on, runs it, and prints what it leaves behind.
-/

namespace GroupScript.Main

/-- What the machine has at a path. -/
def look (path : String) : IO (Except ReadFault String) := do
  if path.contains (Char.ofNat 0) then return .error .nulInPath
  if path.isEmpty then return .error .absent
  let place := (← IO.currentDir) / path
  if ← place.isDir then return .error .directory
  try
    match String.fromUTF8? (← IO.FS.readBinFile path) with
    | some text => return .ok text
    | none => return .error .notText
  catch
    | .noFileOrDirectory .. => return .error .absent
    | .inappropriateType .. => return .error .throughFile
    | .invalidArgument .. => return .error .tooLong
    | _ => return .error .denied

/-- The paths of the files in a directory whose names end in a given way. -/
def listing (directory ending : String) : IO (List String) := do
  let place := (← IO.currentDir) / directory
  if !(← place.isDir) then return []
  let names := (← place.readDir).toList.map fun entry => entry.fileName
  return (names.filter fun name => name.endsWith ending).map (joinPath directory)

/-- What the machine has at each of some paths. -/
def lookAll (paths : List String) : IO (List (String × Except ReadFault String)) :=
  paths.mapM fun path => return (path, ← look path)

/-- Answers from a list of what is at each path. -/
def known (found : List (String × Except ReadFault String)) : Files := fun path =>
  (found.lookup path).getD (.error .absent)

/-- The path of the settings document. -/
def settingsFile : IO (Option String) := do
  let base ← match ← IO.getEnv "XDG_CONFIG_HOME" with
    | some directory => if directory.startsWith "/" then pure (some directory) else inHome
    | none => inHome
  return base.map fun directory => joinPath directory "tdl/config.json"
where
  inHome : IO (Option String) :=
    return (← IO.getEnv "HOME").map fun home => joinPath home ".config"

/-- Everything that the shell may ask for: the files of the command line, the settings, and the modules in the
directories that are searched. -/
def surroundings (invocation : Invocation) : IO Surroundings := do
  let settingsFile ← settingsFile
  let searchPath ← IO.getEnv "TDLPATH"
  let first ← lookAll (settingsFile.toList ++ invocation.files)
  let start : Surroundings :=
    { files := known first, settingsFile, searchPath, standardInput := "" }
  let settings := (Shell.settings CommandLine.toolkit invocation start).toOption.getD {}
  let ending := "." ++ (Workspace.empty.setExtension settings.extension).extension
  let modules ← settings.path.mapM (listing · ending)
  let second ← lookAll modules.flatten
  let reads := settings.interactive || (invocation.files.isEmpty && invocation.command.isNone)
  let standardInput ← if reads then (← IO.getStdin).readToEnd else pure ""
  return { start with files := known (first ++ second), standardInput }

/-- How deep statements may nest, and how often loops may repeat. -/
def levels : Nat := 1000000000000

/-- Prints what a run leaves behind and gives its exit code. -/
def print (transcript : Transcript) : IO UInt32 := do
  IO.print transcript.output
  IO.eprint transcript.errors
  return transcript.code.toUInt32

end GroupScript.Main

open GroupScript in
/-- Runs the shell with the arguments of the command line. -/
def main (arguments : List String) : IO UInt32 := do
  match CommandLine.toolkit.invocation arguments with
  | .error fault => Main.print (Shell.refusal fault)
  | .ok invocation => do
      Main.print (Shell.run CommandLine.toolkit Main.levels invocation (← Main.surroundings invocation))
