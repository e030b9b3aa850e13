import ComponentContainer.Demo

/-! The command line: the demonstration with the settings of the environment. -/

namespace ComponentContainer.CommandLine

def randomDigits (digits : Nat) : IO String := do
  let n ← IO.rand 0 (Nat.pow 16 digits - 1)
  let shown := Nat.toDigits 16 n
  return String.ofList (List.replicate (digits - shown.length) '0' ++ shown)

def randomRun : IO String := do
  let variant ← IO.rand 0 3
  return "-".intercalate
    [← randomDigits 8, ← randomDigits 4, "4" ++ (← randomDigits 3),
      String.ofList (Nat.toDigits 16 (8 + variant)) ++ (← randomDigits 3), ← randomDigits 12]

def succeeds {α : Type} (action : IO α) : IO Bool :=
  try
    discard action
    return true
  catch _ => return false

def placeText (place : List String) : String := "/" ++ "/".intercalate place

def survey (path : String) : IO FileTree := do
  let mut tree : FileTree := ⟨[], [], []⟩
  let mut place : List String := []
  for step in Path.components path do
    place := if step = ".." then place.dropLast else place ++ [step]
    if ← succeeds (IO.FS.realPath (placeText place ++ "/.")) then
      tree := { tree with directories := tree.directories ++ [place] }
    else if ← succeeds (IO.FS.realPath (placeText place)) then
      tree := { tree with files := tree.files ++ [place] }
  return tree

def writeLog (dir : String) (records : List Record) : IO Unit := do
  let h ← IO.FS.Handle.mk (logFile dir) .append
  for r in records do
    h.putStrLn (r.level.capitals ++ " " ++ r.message)

end ComponentContainer.CommandLine

open ComponentContainer

def main : IO UInt32 := do
  let run ← CommandLine.randomRun
  let level ← IO.getEnv "WIRING_LOG_LEVEL"
  let dir ← IO.getEnv "WIRING_LOG_DIR"
  let files ← CommandLine.survey (dir.getD "")
  let (outcome, logging) := Demo.run level dir run ⟨none, [], files⟩
  try
    for place in logging.files.directories.filter (!files.directories.contains ·) do
      IO.FS.createDir (CommandLine.placeText place)
    if let some active := logging.active then
      CommandLine.writeLog active.dir logging.records
  catch e =>
    IO.eprintln s!"error=failed to create log directory: {e}"
    return 1
  for line in outcome.stdout do IO.println line
  for line in outcome.stderr do IO.eprintln line
  return outcome.code.toUInt32
