import ModelServing.Command.Execution
import ModelServing.Filesystem.Change

/-! The program: it looks at this machine, carries out its command line, and prints what comes of
it. -/

namespace ModelServing.Program

open ModelServing.Command

/-- A changed file system, or the one before where the change cannot be made. -/
def changed (fs : Filesystem) (change : Except Errno Filesystem) : Filesystem :=
  match change with
  | .ok fs => fs
  | .error _ => fs

/-- A file system with a file at a path, and with the directories that lead to it. -/
def withFile (fs : Filesystem) (path : String) (content : Content) : Filesystem :=
  let fs := changed fs (fs.createDirectories (Path.directory path))
  changed fs (fs.write path content false)

/-- A file system with the directories and the sizes of the files below a path of this machine. -/
partial def copyTree (fs : Filesystem) (path : String) : IO Filesystem := do
  -- The sizes are all that is asked for, so files are copied as that many zeros.
  let place := (← IO.currentDir) / path
  if ← place.isDir then
    let mut fs := changed fs (fs.createDirectories path)
    for entry in ← place.readDir do
      fs ← copyTree fs (Path.join path entry.fileName)
    return fs
  else if ← place.pathExists then
    return withFile fs path { zeros := (← place.metadata).byteSize.toNat }
  else return fs

/-- A file system with the content of the file at a path of this machine, if it can be read. -/
def copyFile (fs : Filesystem) (path : String) : IO Filesystem := do
  -- A file that cannot be read is left out, so that the command fails on it in its own way.
  try
    let bytes ← IO.FS.readBinFile path
    return withFile fs path { bytes := bytes.toList }
  catch _ => return fs

/-- The variables of this machine that matter. -/
def readEnvironment : IO Environment := do
  -- A variable for a setting is its name in capitals behind the prefix.
  let settingNames := Settings.fieldNames.map fun name =>
    (Settings.variablePrefix ++ name).toUpper
  let mut environment : Environment := []
  for name in "PATH" :: settingNames do
    if let some value ← IO.getEnv name then environment := environment.set name value
  return environment

/-- What a command line needs to see of this machine. -/
def readHost (settings : Settings) (environment : Environment) (invocation : Invocation) :
    IO Host := do
  -- Each command sees a copy of the files that it asks for, and of no others.
  let here := (← IO.currentDir).toString
  let fs := changed Filesystem.host (Filesystem.host.createDirectories here)
  let fs := changed fs (fs.enter here)
  let deployment : Deployment := { settings, host := { fs, environment } }
  let copyRegistry (fs : Filesystem) (options : LaunchOptions) : IO Filesystem :=
    copyFile fs (deployment.registryPath options.registryPath)
  let copyEngine (fs : Filesystem) (directory : Option String) : IO Filesystem := do
    let engine := deployment.engine none directory
    copyFile (← copyTree fs engine.directory) engine.versionPath
  let fs ←
    match invocation with
    | .probe directory => copyEngine fs directory
    | .showArguments options => copyRegistry fs options
    | .serve options _ directory => do copyEngine (← copyRegistry fs options) directory
    | .diskUsage directory => copyEngine fs directory
    | .version => pure fs
  return { fs, environment }

/-- Waits without end. -/
partial def wait : IO UInt32 := do
  IO.sleep 60000
  wait

/-- Carries out a command line on this machine. -/
def run (arguments : List String) : IO UInt32 := do
  -- Settings that are rejected end the program before the command line counts.
  let environment ← readEnvironment
  match Settings.read environment [], Invocation.read? arguments with
  | .error rejection, _ =>
    IO.eprintln rejection.headline
    return 1
  | .ok _, none =>
    IO.eprintln "Usage: unified-inference-sglang [probe|args|serve|disk-usage|version]"
    return usageCode.toUInt32
  | .ok settings, some invocation =>
    let host ← readHost settings environment invocation
    let outcome := invocation.perform { settings, host }
    IO.print outcome.stdout
    for record in outcome.logs do
      IO.eprintln (record.severity.name ++ ": " ++ record.text)
    if let .crashed failure := outcome.ending then IO.eprintln failure.message
    -- A command that comes to no end goes on waiting until it is interrupted.
    match outcome.ending.code? with
    | some code => return code.toUInt32
    | none => wait

end ModelServing.Program

/-- The entry point of the program. -/
def main (arguments : List String) : IO UInt32 := ModelServing.Program.run arguments
