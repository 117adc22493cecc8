import BargeIn.Failure

/-!
# A folder of files

A folder holds files and folders under names.  A path leads downwards from the root, name by name:
`.` stays where it is, `..` goes back by one, and whatever more names follow on must be a folder.
A path that ends in a slash, in `.` or in `..` can only mean a folder.

`look` gives a file's content, `place` puts a file into a folder that is there, `makeFolders` makes
a folder together with those that it lies in, and `write` is both.  A change that meets a fault half
way keeps what it has made, so a changed folder comes with the fault, if there is one.
`node?_put_self` and `node?_put_of_ne` say what stands where after a change.
-/

namespace BargeIn

/-- What stands under a path. -/
inductive Node where
  | file (content : ByteArray)
  | folder

/-- The nodes below the root, by the names that lead to them. -/
structure Folder where
  nodes : List (List String × Node)

namespace Folder

/-! ## Paths -/

def maxNameSize : Nat := 255

def maxPathSize : Nat := 4095

/-- What stands before, between and behind the slashes of a path. -/
def pieces (path : String) : List String := (path.toList.splitOn '/').map String.ofList

def names (path : String) : List String := (pieces path).filter (· ≠ "")

/-- Refuses a path that cannot lead anywhere. -/
def checkPath (path : String) : Except FileFault Unit :=
  if '\x00' ∈ path.toList then .error .zeroInPath
  else if maxPathSize < path.utf8ByteSize then .error .nameTooLong
  else if path = "" then .error .notFound
  else .ok ()

def endsInSlash (path : String) : Bool := path.toList.getLast? == some '/'

/-- The names that lead to the folder of a path's last name, and that name; no last name if the
path ends in `.` or `..` or has none, so that all its names lead to the folder it means. -/
def aim (path : String) : List String × Option String :=
  match (names path).getLast? with
  | none => ([], none)
  | some last =>
    if last = "." ∨ last = ".." then (names path, none) else ((names path).dropLast, some last)

/-- `pieces` without empty ones and dots at the end. -/
def trimPieces (ps : List String) : List String :=
  (ps.reverse.dropWhile fun p => p = "" ∨ p = ".").reverse

/-- The path of the folder that a path lies in; empty if that is where paths begin. -/
def parent (path : String) : String :=
  "/".intercalate (trimPieces (trimPieces (pieces path)).dropLast)

/-! ## Nodes -/

def empty : Folder := ⟨[]⟩

def node? (f : Folder) (cs : List String) : Option Node :=
  (f.nodes.find? fun n => n.1 == cs).map Prod.snd

def put (f : Folder) (cs : List String) (n : Node) : Folder :=
  ⟨(cs, n) :: f.nodes.filter fun m => m.1 != cs⟩

/-- The node of a name in the folder `above`. -/
def entry (f : Folder) (above : List String) (name : String) : Except FileFault Node :=
  if maxNameSize < name.utf8ByteSize then .error .nameTooLong
  else
    match f.node? (above ++ [name]) with
    | none => .error .notFound
    | some n => .ok n

/-- Goes from the folder `above` through folders; gives the names that lead to the last. -/
def walk (f : Folder) (above : List String) : List String → Except FileFault (List String)
  | [] => .ok above
  | c :: rest =>
    if c = "." then f.walk above rest
    else if c = ".." then f.walk above.dropLast rest
    else
      match f.entry above c with
      | .error fault => .error fault
      | .ok (.file _) => .error .notADirectory
      | .ok .folder => f.walk (above ++ [c]) rest

/-! ## Reading and writing -/

def look (f : Folder) (path : String) : Except FileFault ByteArray := do
  checkPath path
  let above ← f.walk [] (aim path).1
  match (aim path).2 with
  | none => .error .isADirectory
  | some name =>
    match ← f.entry above name with
    | .folder => .error .isADirectory
    | .file content => if endsInSlash path then .error .notADirectory else .ok content

/-- Replaces or adds a file in a folder that is there. -/
def place (f : Folder) (path : String) (content : ByteArray) : Except FileFault Folder := do
  checkPath path
  let above ← f.walk [] (aim path).1
  match (aim path).2 with
  | none => .error .isADirectory
  | some name =>
    if endsInSlash path then .error .isADirectory
    else
      match f.entry above name with
      | .ok .folder => .error .isADirectory
      | .ok (.file _) => .ok (f.put (above ++ [name]) (.file content))
      | .error .notFound => .ok (f.put (above ++ [name]) (.file content))
      | .error fault => .error fault

def onlyDots (cs : List String) : Bool := cs ≠ [] && cs.all (· = ".")

/-- Goes from the folder `above` through folders and makes those that are missing.

From the first missing one on, when `made` holds, they are made one after the other, so a file in
the way exists already where a folder is to be made; before, and in front of dots, it is only no
folder.  Dots do not make what they stand in. -/
def makeFoldersFrom (f : Folder) (above : List String) (made : Bool) :
    List String → Folder × Option FileFault
  | [] => (f, none)
  | c :: rest =>
    if c = "." then f.makeFoldersFrom above made rest
    else if c = ".." then f.makeFoldersFrom above.dropLast made rest
    else
      match f.entry above c with
      | .error .notFound =>
        if onlyDots rest then (f, some .notFound)
        else makeFoldersFrom (f.put (above ++ [c]) .folder) (above ++ [c]) true rest
      | .error fault => (f, some fault)
      | .ok .folder => f.makeFoldersFrom (above ++ [c]) made rest
      | .ok (.file _) =>
        (f, some (if rest = [] ∨ made ∧ ¬onlyDots rest then .alreadyExists else .notADirectory))

/-- Makes a folder and those that it lies in, where there are none yet.  What was made before a
fault stays. -/
def makeFolders (f : Folder) (path : String) : Folder × Option FileFault :=
  if path = "" then (f, none)
  else
    match checkPath path with
    | .error fault => (f, some fault)
    | .ok () => f.makeFoldersFrom [] false (names path)

/-- Replaces or adds a file, in a folder that is made if need be.  Folders that were made before a
fault stay. -/
def write (f : Folder) (path : String) (content : ByteArray) : Folder × Option FileFault :=
  match f.makeFolders (parent path) with
  | (f, some fault) => (f, some fault)
  | (f, none) =>
    match f.place path content with
    | .ok f => (f, none)
    | .error fault => (f, some fault)

/-! ## Lemmas -/

@[simp] theorem node?_put_self (f : Folder) (cs : List String) (n : Node) :
    (f.put cs n).node? cs = some n := by
  simp [node?, put]

theorem node?_put_of_ne (f : Folder) {cs ds : List String} (n : Node) (h : ds ≠ cs) :
    (f.put cs n).node? ds = f.node? ds := by
  have h' : cs ≠ ds := Ne.symm h
  simp only [node?, put, List.find?_cons, beq_eq_false_iff_ne.2 h', List.find?_filter]
  congr 2
  funext m
  by_cases e : m.1 = ds <;> simp [e, h]

end Folder

end BargeIn
