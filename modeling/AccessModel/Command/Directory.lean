import AccessModel.Standard

/-!
# A directory in memory

A directory holds texts by their paths and is the place in which a run is made; `Directory.host`
is the host that sees it, together with a standard input. A path goes through the directories
above its files; `.` stays, and `..` goes back.
-/

namespace AccessModel.Command

/-- Texts by the parts of their paths. -/
structure Directory where
  files : List (List String × String)

namespace Directory

/-- What a path leads to. -/
inductive Place
  | directory (parts : List String)
  | file (parts : List String) (text : String)
  /-- A name in a directory that does not have it. -/
  | vacant (parts : List String)
  | lost (trouble : Trouble)

/-- Whether there is a directory. -/
def hasDirectory (d : Directory) (parts : List String) : Bool :=
  parts.isEmpty || d.files.any fun f => parts.isPrefixOf f.1 && parts.length < f.1.length

/-- What there is at some parts. -/
def place (d : Directory) (parts : List String) : Place :=
  match d.files.lookup parts with
  | some text => .file parts text
  | none => if d.hasDirectory parts then .directory parts else .vacant parts

/-- One part on from a place. -/
def enter (d : Directory) (p : Place) (part : String) : Place :=
  match p with
  | .directory parts =>
    if part = "" ∨ part = "." then .directory parts
    else if part = ".." then
      if parts.isEmpty then .lost .absent else .directory parts.dropLast
    else d.place (parts ++ [part])
  | .file .. => .lost .notDirectory
  | .vacant _ => .lost .absent
  | .lost t => .lost t

/-- The parts of a path. -/
def parts (path : String) : List String := (Text.cutAll ['/'] path.toList).map String.ofList

/-- What a path leads to; only paths within the directory lead anywhere. -/
def find (d : Directory) (path : String) : Place :=
  if path.isEmpty ∨ path.toList.head? = some '/' then .lost .absent
  else (parts path).foldl d.enter (.directory [])

/-- What there is at a path. -/
def state (d : Directory) (path : String) : Settings.FileState :=
  match d.find path with
  | .file _ text => .file text
  | .directory _ => .directory
  | .vacant _ | .lost _ => .absent

/-- The text at a path. -/
def read (d : Directory) (path : String) : Except Trouble String :=
  match d.find path with
  | .file _ text => .ok text
  | .directory _ => .error .isDirectory
  | .vacant _ => .error .absent
  | .lost t => .error t

/-- The directory with a text put at the end of a path. -/
def put (d : Directory) (parts : List String) (text : String) : Directory :=
  ⟨(parts, text) :: d.files.filter (·.1 ≠ parts)⟩

/-- Writes a text to a path, which makes the file if its directory is there. -/
def write (d : Directory) (path text : String) : Except Trouble Directory :=
  match d.find path with
  | .file parts _ => .ok (d.put parts text)
  | .vacant parts => .ok (d.put parts text)
  | .directory _ => .error .isDirectory
  | .lost t =>
    if path.toList.getLast? = some '/' ∧ t = .absent then .error .isDirectory else .error t

/-- A host that sees a directory and a standard input. -/
def host (input : ByteArray) : Host (StateM Directory) where
  state path := return (← get).state path
  read path := return ((← get).read path).map String.toUTF8
  readInput := return .ok input
  write path text := do
    match (← get).write path text with
    | .ok d =>
      set d
      return .ok ()
    | .error t => return .error t

end Directory

end AccessModel.Command
