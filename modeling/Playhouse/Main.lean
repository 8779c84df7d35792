/-
Module: Playhouse.Main
Purpose: The program as it is started: it looks at its surroundings, hands them
  to a session, and prints the report.
Main exports: main
-/
import Playhouse.CommandLine.Session

namespace Playhouse.CommandLine

/-- More steps than anybody waits for. -/
def endlessPatience : Nat := Nat.pow 2 62

/-- The text of a file, or why its bytes are none.  An empty path leads nowhere. -/
def readText (path : String) : IO (Except String String) := do
  let bytes ← IO.FS.readBinFile path
  match String.fromUTF8? bytes with
  | some text => return .ok text
  | none => return .error ((undecodable? bytes.toList).getD "")

/-- What stands at a path. -/
def lookAt (path : String) : IO FileState := do
  try
    match ← readText path with
    | .ok text => return .text text
    | .error complaint => return .broken (.undecodable complaint)
  catch
    | .noFileOrDirectory .. => return .missing
    | .inappropriateType .. => return .directory
    | other => return .broken ⟨"OSError", toString other⟩

/-- The file of one word list. -/
def lookUpList (directory : String) (category : Category) : IO (Except Absence String) := do
  try
    return (← readText (pathIn directory category.fileName)).mapError .undecodable
  catch
    | .noFileOrDirectory .. => return .error .noSuchFile
    | .inappropriateType .. => return .error .notADirectory
    | other => return .error (.unopened (toString other))

/-- The variables that settings come from. -/
def readEnvironment : IO Environment := do
  let names := ["WORDLIST_DIR", "MAX_STEPS", "LOG_LEVEL", "HOST", "PORT"]
  let known ← names.mapM fun name => do
    let full := "SHAKESPEARE_" ++ name
    return (full, ← IO.getEnv full)
  return fun name => (known.lookup name).join

/-- The part of the surroundings that an invocation needs: the file of its play,
the directory of its word lists, and the input if a play is performed. -/
def look (environment : Environment) (invocation : Invocation) : IO World := do
  let settings := invocation.settings ((Settings.ofEnvironment environment).toOption.getD {})
  let path := (invocation.order.bind Order.file?).getD ""
  let state ← if path.isEmpty then pure .missing else lookAt path
  let lists ←
    match settings.wordLists with
    | none => pure []
    | some directory =>
        Category.all.mapM fun category => do
          return (category, ← lookUpList directory category)
  let input ←
    match invocation.order, state with
    | some (.run _ _), .text _ => do
        pure (← (← IO.getStdin).readToEnd)
    | _, _ => pure ""
  return {
    environment := environment
    file := fun _ => state
    directory := fun _ category => (lists.lookup category).getD (.error .noSuchFile)
    input := input.toList
    encodes := fun point => !Text.CodePoints.isSurrogate point }

/-- The surroundings of a session with some arguments. -/
def surroundings (arguments : List String) : IO World := do
  let environment ← readEnvironment
  look environment ((Invocation.read arguments).toOption.getD ⟨{}, none⟩)

/-- Print a report and give the exit code. -/
def Report.publish (report : Report) : IO UInt32 := do
  IO.print report.output.visible
  (← IO.getStdout).flush
  IO.eprint report.messages
  match report.conclusion with
  | .code code => return UInt32.ofNat code
  | .failure failure => do
      IO.eprintln failure.message
      return 1

end Playhouse.CommandLine

/-- Run the program. -/
def main (arguments : List String) : IO UInt32 := do
  let world ← Playhouse.CommandLine.surroundings arguments
  match Playhouse.CommandLine.session world Playhouse.CommandLine.endlessPatience arguments with
  | some report => report.publish
  | none => return 1
