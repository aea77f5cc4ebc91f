import DumpDigest.Calendar
import DumpDigest.CommandLine.Exit
import Std.Time.DateTime.PlainDateTime
import Std.Time.DateTime.Timestamp

/-! # The program

The program looks up the paths that its command line names, decides on what it has found, and then
prints, complains, and makes the directories and the file that are new.
-/

namespace DumpDigest

/-- The text of a place for the system. -/
def Location.text (place : Location) : String :=
  "/" ++ "/".intercalate place

/-- What is at a place of the system. -/
def lookUp (place : Location) : IO (Option Entry) := do
  match ← (IO.FS.readBinFile place.text).toBaseIO with
  | .ok content => return some (.file content)
  | .error (.noFileOrDirectory ..) => return none
  | .error (.inappropriateType ..) => return some .directory
  | .error other => throw other

/-- The tree with what is on the way of some names from a place. -/
def FileTree.explore (tree : FileTree) (place : Location) : List String → IO FileTree
  | [] => return tree
  | "." :: names => tree.explore place names
  | ".." :: names => tree.explore place.dropLast names
  | name :: names => do
    if nameLimit < name.utf8ByteSize then return tree
    match ← lookUp (place ++ [name]) with
    | none => return tree
    | some (.file content) => return tree.put (place ++ [name]) (.file content)
    | some .directory => (tree.put (place ++ [name]) .directory).explore (place ++ [name]) names

/-- The part of the system's files that some paths lead to. -/
def explorePaths (paths : List Path) : IO FileTree := do
  let here : Path := ⟨(← IO.currentDir).toString⟩
  let bare : FileTree := ⟨.empty, here.names⟩
  let start ← bare.explore [] here.names
  paths.foldlM (fun tree path => tree.explore (tree.start path) path.parts) start

/-- Makes the directories and writes the files in which a tree differs from an earlier one. -/
def commit (before after : FileTree) : IO Unit := do
  for (place, entry) in after.entries.toList do
    match before.entry? place, entry with
    | some .directory, .directory => pure ()
    | _, .directory => IO.FS.createDir place.text
    | some (.file old), .file content =>
      if old.data != content.data then IO.FS.writeBinFile place.text content
    | _, .file content => IO.FS.writeBinFile place.text content

/-- The text of the present moment in universal time. -/
def presentMoment : IO String := do
  let now ← Std.Time.Timestamp.now
  let moment := Std.Time.PlainDateTime.ofWallTime (Std.Time.WallTime.ofDuration now.val)
  let date : Calendar.Date :=
    ⟨moment.year.toInt.toNat, moment.month.val.toNat, moment.day.val.toNat⟩
  let time : Calendar.Time :=
    ⟨moment.hour.val.toNat, moment.minute.val.toNat, moment.second.val.toNat,
      moment.nanosecond.val.toNat⟩
  return (Calendar.DateTime.both date time (some (.minutes 0))).text

end DumpDigest

open DumpDigest in
/-- Runs the program on the words of its command line. -/
def main (words : List String) : IO UInt32 := do
  let start ← IO.monoNanosNow
  let environment ← IO.getEnv "OSHAPROF_CONFIG"
  let paths :=
    match CommandLine.parse environment words with
    | .ok invocation => invocation.paths
    | .error _ => []
  let tree ← explorePaths paths
  let clock : Clock := ⟨← presentMoment, (← IO.monoNanosNow) - start⟩
  let exit := CommandLine.run environment words tree clock
  (← IO.getStdout).putStr exit.printed
  commit tree exit.tree
  for entry in exit.log do
    IO.eprintln entry.text
  IO.eprint exit.complaint
  return exit.status.toUInt32
