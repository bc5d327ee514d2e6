/-!
# Modes

In strict mode every name is checked, and an expression has to be made of the forms of the
language. In lenient mode whatever is left over is taken for a name.
-/

namespace AccessModel

/-- How a text is checked while it is read. -/
inductive Mode
  | strict
  | lenient
  deriving DecidableEq, Inhabited

/-- The mode that a switch stands for. -/
def Mode.ofBool : Bool → Mode
  | true => .strict
  | false => .lenient

end AccessModel
