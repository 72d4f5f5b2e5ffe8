import ClassSwap.CommandLine.Run

namespace ClassSwap.CommandLine

def pathOf (place : Place) : String := "/" ++ "/".intercalate place

def entryAt (path : String) : IO (Option Entry) := do
  try
    return some (.file (← IO.FS.readBinFile path).toList false)
  catch
    | .inappropriateType .. => return some .directory
    | _ => return none

/-- Takes over what is at a path and at the places above it. -/
def takeOver (here : Place) (tree : FileTree) (path : String) : IO FileTree := do
  let place := FileTree.placeOfText here path
  let mut tree := tree
  for length in [1:place.length + 1] do
    match ← entryAt (pathOf (place.take length)) with
    | some entry => tree := tree.put (place.take length) entry
    | none => pure ()
  return tree

def carryOver (change : Place × Entry) : IO Unit := do
  match change.2 with
  | .directory => IO.FS.createDirAll (pathOf change.1)
  | .file content _ => IO.FS.writeBinFile (pathOf change.1) (ByteArray.mk content.toArray)

end ClassSwap.CommandLine

open ClassSwap ClassSwap.CommandLine

def main (arguments : List String) : IO UInt32 := do
  let here := FileTree.placeOfText [] ((← IO.getEnv "PWD").getD "/")
  let bare : Machine Network :=
    { host := { directory := here, run := fun _ files _ => { files, succeeded := false } }
      files := ← takeOver here FileTree.empty "."
      connect := Network.ofSettings .nothing []
      configPath := ← IO.getEnv "HOTLINE_CONFIG"
      logDirectives := ← IO.getEnv "RUST_LOG"
      time := toString (← IO.monoMsNow) ++ "ms" }
  let configured ← (bare.settingsFile? arguments).toList.foldlM (takeOver here) bare.files
  let machine : Machine Network := { bare with files := configured }
  let files ← (machine.namedPaths arguments).foldlM (takeOver here) configured
  let finish := { machine with files : Machine Network }.run arguments
  (files.changes finish.files).forM carryOver
  IO.print finish.stdout
  IO.eprint finish.stderr
  return UInt32.ofNat finish.exitCode
