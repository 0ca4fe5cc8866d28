import Std.Time.DateTime.Timestamp
import CoverAudit.CommandLine.Run
import CoverAudit.Report.Moment
import CoverAudit.Symbol.KnownClass

/-!
# The program

Takes the files that a command line is about as they are, runs the command line on them, and puts
what the run has done back into the world. All decisions are made by `CommandLine.run`.
-/

namespace CoverAudit.Program

/-- The environment variable that gives source roots. -/
def sourceRootsVariable : String := "COVERS_CHECK_SOURCE_ROOTS"

/-- Files and directories by their places. -/
abbrev Nodes := List (FileTree.Place × FileTree.Node)

/-- What is at a path and below it. A file that can not be read is left out. -/
def nodesAt (path : String) : IO Nodes := do
  let here ← IO.currentDir
  let top := here / path
  let skipped := if (Path.ofString path).isAbsolute then 0 else here.toString.length + 1
  let entries ← if ← top.isDir then top.walkDir else pure #[top]
  let mut nodes : Nodes := []
  for entry in entries do
    let place := Path.ofString (String.ofList (entry.toString.toList.drop skipped))
    if ← entry.isDir then nodes := (place, .directory) :: nodes
    else
      try
        nodes := (place, .file (← IO.FS.readBinFile entry)) :: nodes
      catch _ => pure ()
  return nodes

/-- What is at those paths that do not start at the current directory. -/
def nodesOutside (paths : List String) : IO Nodes := do
  let outside := paths.filter fun path => (Path.ofString path).isAbsolute
  return (← outside.mapM nodesAt).flatten

/-- The surroundings of a run. There is no interpreter to ask, so classes outside of the project are
known by a table. -/
def surroundings (tree : FileTree) (sourceRoots : Option String) (clock : String) :
    CommandLine.Surroundings where
  tree
  readSettings := Yaml.load
  parse := Source.parse
  inspect := KnownClass.hasMember?
  sourceRoots
  clock

/-- The files that a command line is about: those of the current directory, and those that the
command line or the settings name elsewhere. -/
def filesFor (arguments : List String) (sourceRoots : Option String) : IO FileTree := do
  let current ← nodesAt "."
  match CommandLine.parse arguments with
  | .ok (.check options paths) =>
    let named ← nodesOutside (options.config.toList ++ options.sources ++ paths)
    let tree : FileTree := { nodes := current ++ named }
    match CommandLine.settingsOf (surroundings tree sourceRoots "") options with
    | .ok settings =>
      let configured ← nodesOutside (settings.sourceRoots ++ settings.testPaths)
      return { nodes := current ++ named ++ configured }
    | .error _ => return tree
  | _ => return { nodes := current }

/-- The present moment. -/
def clock : IO String := do
  let now ← Std.Time.Timestamp.now
  return Moment.text (now.toNanosecondsSinceUnixEpoch.val.toNat / 1000)

/-- What a failure leaves on the screen. -/
def failureText : Settings.Failure → String
  | .mistake mistake => mistake.message
  | .file path error => error.message path
  | .value fault => fault.message

end CoverAudit.Program

/-- Runs the command line. -/
def main (arguments : List String) : IO UInt32 := do
  let sourceRoots ← IO.getEnv CoverAudit.Program.sourceRootsVariable
  let tree ← CoverAudit.Program.filesFor arguments sourceRoots
  let clock ← CoverAudit.Program.clock
  let surroundings := CoverAudit.Program.surroundings tree sourceRoots clock
  let run := CoverAudit.CommandLine.run surroundings arguments
  match run.written with
  | some (path, text) => IO.FS.writeFile path text
  | none => pure ()
  IO.print run.output
  IO.eprint run.messages
  match run.failure with
  | some failure => IO.eprintln (CoverAudit.Program.failureText failure)
  | none => pure ()
  return run.status.toUInt32
