import AccessModel.Settings.Error

/-!
# Reports

What a run of the command leaves behind: an exit code, the text on standard output and the lines on
standard error. A failure is shown with its causes (`failureText`), each indented, and numbered when
there are several.
-/

namespace AccessModel.Command

/-- The outcome of a run. -/
structure Report where
  exit : Nat
  output : String
  errors : List String
  deriving DecidableEq

/-- Why a file cannot be read or written. -/
inductive Trouble
  | absent
  | notDirectory
  | isDirectory
  | notText
  | other (text : String)
  deriving DecidableEq

/-- The wording of a trouble with a file. -/
def Trouble.message : Trouble → String
  | absent => "No such file or directory (os error 2)"
  | notDirectory => "Not a directory (os error 20)"
  | isDirectory => "Is a directory (os error 21)"
  | notText => "stream did not contain valid UTF-8"
  | other text => text

/-- Why a run failed: what it was about, and the causes, from the nearest to the last. -/
structure Failure where
  message : String
  causes : List String
  deriving DecidableEq

/-- A text with its first line after `start` and the others after as many blanks. -/
def indented (start : String) (s : String) : String :=
  start ++ ("\n" ++ String.ofList (List.replicate start.length ' ')).intercalate (s.splitOn "\n")

/-- A cause with its number. -/
def numbered (n : Nat) (s : String) : String :=
  let digits := toString n
  indented (String.ofList (List.replicate (5 - digits.length) ' ') ++ digits ++ ": ") s

/-- A failure with its causes. -/
def failureText (f : Failure) : String :=
  "Error: " ++ f.message ++
    match f.causes with
    | [] => ""
    | [c] => "\n\nCaused by:\n" ++ indented "    " c
    | cs => "\n\nCaused by:\n" ++ "\n".intercalate (cs.zipIdx.map fun (c, n) => numbered n c)

end AccessModel.Command
