import SparqlStream.Cli.Run

/-!
# The program

Reads the files that the arguments name, runs the job, and prints what it comes to.
-/

open SparqlStream

/-- The files that can be read, by their paths. -/
def readFiles (paths : List String) : IO (List (String × String)) :=
  paths.filterMapM fun (path : String) => do
    try
      return some (path, ← IO.FS.readFile path)
    catch _ =>
      return none

/-- The paths that a job names. -/
def pathsOf (job : Cli.Job) : List String :=
  match job.query with
  | .file path => path :: job.files
  | .text _ => job.files

/-- Runs a job, and gives the exit code. -/
def runJob (job : Cli.Job) : IO UInt32 := do
  let files ← readFiles (pathsOf job)
  let report := job.run (files.lookup ·) (Nat.pow 2 60)
  for path in report.skipped do
    IO.eprintln ("Skipping a file that cannot be parsed: " ++ path)
  IO.print report.output
  match report.failure with
  | some e =>
    IO.eprintln ("Error: " ++ e.message)
    return 1
  | none => return 0

/-- The command line. -/
def main (arguments : List String) : IO UInt32 := do
  match Cli.Request.read? arguments with
  | some (.job job) => runJob job
  | some (.help length) =>
    IO.print (Cli.helpText length)
    return 0
  | some .version =>
    IO.print Cli.versionText
    return 0
  | none =>
    IO.eprintln "The arguments are wrong; see --help"
    return 2
