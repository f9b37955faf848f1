import SexprQuery.Command.Run

/-!
# The program

The part of the file system that a command can look at is read into a file tree,
the command is run on that, and the files that it has changed are written back,
each under another name first and then put in its place.
-/

namespace SexprQuery.Command

/-- The names of files and directories that a request looks at. -/
def Request.reads : Request → List String
  | .search _ paths _ => paths
  | .apply rules paths _ _ => rules :: paths
  | .parse _ => []
  | .help => []
  | .version => []

/-- The data files below a directory, with their places from there on. -/
partial def filesOnDisk (directory : String) : IO (List (Place × ByteArray)) := do
  let entries ← (← IO.FS.realPath directory).readDir
  let found ← entries.toList.mapM fun entry => do
    match (← entry.path.symlinkMetadata).type with
    | .dir =>
      let found ← filesOnDisk entry.path.toString
      return found.map fun below => (entry.fileName :: below.1, below.2)
    | .file =>
      if isDataName entry.fileName then
        return [([entry.fileName], ← IO.FS.readBinFile entry.path)]
      else return []
    | _ => return []
  return found.flatten

/-- Read what a name leads to into a file tree; a name that leads nowhere adds nothing. -/
def readIn (t : FileTree) (name : String) : IO FileTree := do
  let place := t.place name
  try
    if ← (← IO.FS.realPath name).isDir then
      let found ← filesOnDisk name
      return found.foldl (fun t below => t.put (place ++ below.1) below.2) (t.addDirectory place)
    else return t.put place (← IO.FS.readBinFile name)
  catch
    | .noFileOrDirectory .. => return t
    | .inappropriateType .. => return t
    | fault => throw fault

/-- Put a content in the place of a file on disk. -/
def writeBack (place : Place) (content : ByteArray) : IO Unit := do
  let name := "/" ++ "/".intercalate place
  IO.FS.writeBinFile (name ++ ".new") content
  IO.FS.rename (name ++ ".new") name

/-- Run a command on the files on disk. -/
def runOnDisk (arguments : List String) : IO UInt32 := do
  let home ← IO.currentDir
  let names := ((readArguments arguments).map Request.reads).getD []
  let tree ← names.foldlM readIn (FileTree.empty ((namePieces home.toString).filter (· != "")))
  let report := run arguments tree
  for (place, content) in report.tree.files do
    unless tree.file? place == some content do writeBack place content
  IO.print report.out
  IO.eprint report.err
  return UInt32.ofNat report.code

end SexprQuery.Command

/-- The program. -/
def main (arguments : List String) : IO UInt32 := SexprQuery.Command.runOnDisk arguments
