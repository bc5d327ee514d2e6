/-!
# YAML tokens

The parts that a YAML text is made of. Blocks have no brackets of their own: their starts and ends
come from the indentation of the lines.
-/

namespace AccessModel.Standard.Yaml

/-- A part of a YAML text. -/
inductive Token
  /-- A directive that gives a handle for tags its meaning, or any other directive. -/
  | directive (handle : Option (String × String))
  | documentStart
  | documentEnd
  | blockSequenceStart
  | blockMappingStart
  | blockEnd
  | flowSequenceStart
  | flowSequenceEnd
  | flowMappingStart
  | flowMappingEnd
  | blockEntry
  | flowEntry
  | key
  | value
  | anchor (name : String)
  | reference (name : String)
  | tag (handle suffix : String)
  /-- A scalar, in quotes or as a block unless it is plain. -/
  | scalar (plain : Bool) (text : String)
  deriving DecidableEq, Inhabited

end AccessModel.Standard.Yaml
