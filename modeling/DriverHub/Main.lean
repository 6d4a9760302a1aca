import DriverHub.Command.Run

/-! The program: fetches the files that a command looks at, and prints what it tells. -/

namespace DriverHub.Program

/-- Takes a file or directory of the system into the tree. What cannot be read is left out. -/
def fetch (tree : FileTree) (path : String) : IO FileTree := do
  try
    if ← (← IO.FS.realPath path).isDir then return tree.makeDirectory path
    return tree.place path (← IO.FS.readFile path)
  catch _ => return tree

/-- Takes in configuration files with all that they import. -/
partial def fetchConfig (tree : FileTree) : List String → IO FileTree
  | [] => return tree
  | path :: rest => do
    if (tree.read path).isOk then fetchConfig tree rest
    else
      let tree ← fetch tree path
      fetchConfig tree (Config.importsAt tree path ++ rest)

def start : IO FileTree := do
  let names := FileTree.names (← IO.currentDir).toString
  return { home := names.filter (· ≠ "") }

def run (args : List String) : IO UInt32 := do
  match Command.Request.ofArguments? args with
  | none =>
    IO.eprintln (String.intercalate "\n" Command.usage)
    return 2
  | some .help =>
    IO.println (String.intercalate "\n" Command.usage)
    return 0
  | some (.run line) =>
    let tree ← fetchConfig (← start) line.configFiles
    let tree ← (line.furtherFiles tree).foldlM fetch tree
    let outcome := line.run tree
    outcome.output.forM IO.println
    IO.eprint outcome.errors
    return outcome.code.toUInt32

end DriverHub.Program

def main (args : List String) : IO UInt32 := DriverHub.Program.run args
