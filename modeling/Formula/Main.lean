import Formula.Command

namespace Formula.Command

def readEnvironment : IO Environment := do
  return {
    logLevel := ← IO.getEnv "EXPRFORGE_LOG_LEVEL"
    extensions := ← IO.getEnv "EXPRFORGE_EXTENSIONS"
    freezeRegistry := ← IO.getEnv "EXPRFORGE_FREEZE_REGISTRY" }

def readText? (path : String) : IO (Option String) := do
  try return some (← IO.FS.readFile path)
  catch _ => return none

/-- Runs a command line and gives its exit code. -/
def execute (readArguments : ArgumentReader) (load : String → Except LoadFault Value)
    (echo : IO.FS.Stream → String → IO Unit) (args : List String) : IO UInt32 := do
  let environment ← readEnvironment
  let text? ← match statePath? readArguments args with
    | some path => readText? path
    | none => pure none
  let report := run { environment, readArguments, file? := fun _ => text?, load } args
  let stdout ← IO.getStdout
  let stderr ← IO.getStderr
  report.log.forM stderr.putStrLn
  report.output.forM (echo stdout)
  report.errors.forM (echo stderr)
  report.escape.forM fun e => stderr.putStrLn e.message
  return report.exitCode.toUInt32

end Formula.Command
