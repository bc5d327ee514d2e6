import AccessModel.Settings.Basic

/-!
# Settings from a document

Settings are read section by section off a tree. How the parts of a tree are found is up to its
format (`Decoder`); what they are called, of what type they are and what counts where one is missing
is said here (`Decoder.settings`). The defaults stand twice: those of a section count if the section
is missing, those of a setting if the setting is missing in its section.

`ofText` reads the settings of a text.
-/

namespace AccessModel.Settings

/-- How the parts of a tree are read in a format. -/
structure Decoder (m : Type → Type) (N : Type) where
  /-- The parts under the names of the fields of a record, in the order of the names, with none for
  a field that is missing. The record comes with the name of its type. -/
  record : String → List String → N → m (List (Option N))
  bool : N → m Bool
  text : N → m String

/-- The part of a record that stands at a place. -/
def partAt {N : Type} (parts : List (Option N)) (i : Nat) : Option N := (parts[i]?).join

namespace Decoder

variable {m : Type → Type} [Monad m] {N α : Type} (D : Decoder m N)

/-- What is read of a part, or what counts if the part is missing. -/
def orElse (read : N → m α) (default : α) : Option N → m α
  | none => pure default
  | some n => read n

/-- A section with one setting, which is a truth value and holds if it is missing. -/
def flag (kind name : String) (n : N) : m Bool := do
  let parts ← D.record kind [name] n
  orElse D.bool true (partAt parts 0)

/-- The compiler section. -/
def compiler (n : N) : m CompilerSettings :=
  return { strict := ← D.flag "CompilerSettings" "strict" n }

/-- The output section. -/
def output (n : N) : m OutputSettings :=
  return { pretty := ← D.flag "OutputSettings" "pretty" n }

/-- The logging section. -/
def logging (n : N) : m LoggingSettings := do
  let parts ← D.record "LoggingSettings" ["level", "json"] n
  let level ← orElse D.text "warn" (partAt parts 0)
  let json ← orElse D.bool false (partAt parts 1)
  return { level, json }

/-- All settings. -/
def settings (n : N) : m Settings := do
  let parts ← D.record "CompilerConfig" ["compiler", "output", "logging"] n
  let compiler ← orElse D.compiler {} (partAt parts 0)
  let output ← orElse D.output {} (partAt parts 1)
  let logging ← orElse D.logging {} (partAt parts 2)
  return { compiler, output, logging }

end Decoder

/-- A reader of texts in a format, such as JSON. -/
structure Reader (N : Type) where
  /-- The tree of a text. -/
  read : String → Option N
  decoder : Decoder Option N

/-- The settings of a text. -/
def ofText {N : Type} (R : Reader N) (text : String) : Option Settings :=
  (R.read text).bind R.decoder.settings

end AccessModel.Settings
