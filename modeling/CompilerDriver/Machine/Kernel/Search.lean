import CompilerDriver.Machine.Kernel.Files

/-!
Where the file is that a name stands for. A name without slashes is looked for in the directories of
a search path.
-/

namespace CompilerDriver.Machine.Kernel.Search

def usualPath : Bytes :=
  Bytes.ofText "/usr/local/sbin:/usr/local/bin:/usr/sbin:/usr/bin:/sbin:/bin"

def check (tree : FileTree) (path : Bytes) : Except OsError Unit :=
  match tree.look ⟨path⟩ with
  | .error error => .error error
  | .ok (_, .file _ true) => .ok ()
  | .ok _ => .error .denied

def below (directory name : Bytes) : Bytes :=
  if directory.isEmpty then name
  else if directory.getLast? = some Path.slash then directory ++ name
  else directory ++ Path.slash :: name

/-- Searches directories for a name. Whatever is in the way lets the search go on, and unless it
only means that nothing is there, it is the error at the end. -/
def search (tree : FileTree) (name : Bytes) (last : OsError) :
    List Bytes → Except OsError Bytes
  | [] => .error last
  | directory :: rest =>
      let path := below directory name
      match check tree path with
      | .ok _ => .ok path
      | .error error =>
          let isAbsent := error = .noEntry || error = .notDirectory
          search tree name (if isAbsent then last else error) rest

def find (tree : FileTree) (list name : Bytes) : Except OsError Bytes :=
  if name.isEmpty then .error .noEntry
  else if name.contains Path.slash then (check tree name).map fun _ => name
  else search tree name .noEntry (Path.splitAt 0x3A list)

end CompilerDriver.Machine.Kernel.Search
