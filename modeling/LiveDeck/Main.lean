import LiveDeck.CommandLine.Session
import Std.Time.Format

/-! # The program

Takes a picture of the files a job is about, lets the library work on the picture, and writes back
what has changed. -/

namespace LiveDeck.CommandLine

open Log (Loggers)

/-- The table of accounts. -/
def accountTable : String := "/etc/passwd"

/-- The environment of this process. -/
def readEnvironment : IO Environment := do
  let accounts ← try IO.FS.lines accountTable catch _ => pure #[]
  return ⟨← IO.getEnv "HTML5SLIDE_INTERVAL", ← IO.getEnv "HTML5SLIDE_STYLE",
    ← IO.getEnv "HTML5SLIDE_LOG_LEVEL",
    ⟨← IO.getEnv "HOME", accounts.toList.filterMap Path.ofAccount?⟩⟩

/-- What stands at a path on the disk. -/
def look (path : Path) : IO (Option Entry) := do
  let here ← try IO.currentDir catch _ => pure "."
  let target := here / path.text
  if ← target.isDir then return some .directory
  else if ← target.pathExists then
    return some (.file (← IO.FS.readBinFile target).toList)
  else return none

/-- The current directory of this process, if it is still there. -/
def lookHere : IO (Option Path) := do
  try return some (.ofText (← IO.currentDir).toString) catch _ => return none

/-- A picture of nothing but the current directory.  One that is gone has a name that no directory
can have. -/
def blankPicture (here? : Option Path) : Files :=
  match here? with
  | some here => .inside here.names
  | none => ⟨[""], [([], .directory)]⟩

/-- A picture of paths and of every directory that leads to them. -/
def takePicture (paths : List Path) : IO Files := do
  let mut files := blankPicture (← lookHere)
  for path in paths do
    for depth in List.range path.names.length do
      let step := { path with names := path.names.take (depth + 1) }
      match ← look step, files.place step with
      | some entry, .ok place => files := files.put place entry
      | _, _ => pure ()
  return files

/-- Writes the files at paths that differ between two pictures. -/
def writeBack (before after : Files) (paths : List Path) : IO Unit := do
  for path in paths do
    match after.place path with
    | .ok place =>
      match after.find? place with
      | some (.file bytes) =>
        if before.find? place ≠ some (.file bytes) then
          IO.FS.writeBinFile path.text (ByteArray.mk bytes.toArray)
      | _ => pure ()
    | .error _ => pure ()

/-- The paths of a job. -/
def pathsOf (job : Job) : List Path := [job.styleSheet, job.source, job.deck]

/-- The paths of a plan. -/
def Plan.paths : Plan → List Path
  | .once job => pathsOf job
  | .watch job _ => pathsOf job
  | _ => []

/-- Prints what a session prints. -/
def print (loggers : Loggers) (printed : List Printed) : IO Unit := do
  let stamp := (← Std.Time.PlainDateTime.now).format "uuuu-MM-dd HH:mm:ss,SSS"
  IO.print (textOn loggers stamp .output printed)
  IO.eprint (textOn loggers stamp .errors printed)
  (← IO.getStdout).flush

/-- The longest pause, in milliseconds. -/
def longestPause : Nat := 0xFFFFFFFF

/-- A pause in whole milliseconds. -/
def milliseconds : Double → UInt32
  | .finite false units =>
    let pause := units * 1000 / Double.unitsPerOne
    UInt32.ofNat (if pause < longestPause then pause else longestPause)
  | .infinite false => UInt32.ofNat longestPause
  | _ => 0

/-- Ticks and pauses without end.  What others do in a pause is seen by its end. -/
partial def loop (loggers : Loggers) (job : Job) (interval : Double) (run : Run) : IO Unit := do
  let next := run.tick job
  writeBack run.files next.files (pathsOf job)
  print loggers (next.records.map .record)
  IO.sleep (milliseconds interval)
  let seen ← takePicture (pathsOf job)
  loop loggers job interval ({ next with records := [] }.pause fun _ _ => seen)

/-- Reports an escape. -/
def report (escape : Escape) : IO UInt32 := do
  IO.eprintln s!"{escape.kind}: {escape.message}"
  return 1

/-- Runs the program on the disk.  A watch goes on from where its run, interrupted before the first
tick, has got to. -/
def runOnDisk (words : List String) : IO UInt32 := do
  let env ← readEnvironment
  let plan? := (plan env (herePath? (← takePicture [])) words).toOption
  let paths := plan?.elim [] Plan.paths
  let before ← takePicture paths
  let session := run env before (fun _ files => files) 0 words
  match session.exit, plan? with
  | .error escape, _ => report escape
  | .ok code, some (.watch job interval) =>
    print session.loggers [.text .output (announcement job interval)]
    loop session.loggers job interval (.start session.files none)
    return UInt32.ofNat code
  | .ok code, _ =>
    writeBack before session.files paths
    print session.loggers session.printed
    return UInt32.ofNat code

end LiveDeck.CommandLine

/-- Keeps a deck up to date with its Markdown source. -/
def main (args : List String) : IO UInt32 := LiveDeck.CommandLine.runOnDisk args
