import EditorGutter.Sample

/-!
The command line: prints the sample scene.

The color depth is the number in the environment variable `FORCE_COLOR`, none if it is unset, and
the log threshold is taken from `GUTTER_LOG_LEVEL` and `NODE_ENV`.  Records go to standard error.
-/

namespace EditorGutter

/-- The color depth that a word stands for. -/
def ColorDepth.ofWord : Option String → ColorDepth
  | some "1" => .basic
  | some "2" => .palette
  | some "3" => .full
  | _ => .none

/-- The words of a record as one line. -/
def Log.Record.line (r : Log.Record) : String :=
  " ".intercalate (r.args.filterMap fun v => match v with
    | .text t => some (Text.toString t)
    | _ => none)

/-- Prints the sample scene. -/
def printSample : IO UInt32 := do
  let depth := ColorDepth.ofWord (← IO.getEnv "FORCE_COLOR")
  let requested := (← IO.getEnv "GUTTER_LOG_LEVEL").map Text.ofString
  let run := (← IO.getEnv "NODE_ENV").map Text.ofString
  for record in Log.shown (Log.Threshold.ofEnvironment requested run) Sample.records do
    IO.eprintln record.line
  match Sample.lines depth with
  | .ok lines =>
    for line in lines do IO.println (Text.toString line)
    return 0
  | .error fault =>
    IO.eprintln (Text.toString fault.message)
    return 1

end EditorGutter

/-- Prints the sample scene; the exit code is zero unless drawing it failed. -/
def main : IO UInt32 := EditorGutter.printSample
