import FailureIntake.Yaml.Layout
import FailureIntake.Yaml.Node

/-! YAML documents. -/
namespace FailureIntake.Yaml

/-- The first document of a text. -/
structure Document where
  /-- The root node; a text of no documents has none. -/
  root : Option Node
  /-- The text goes wrong before the document ends. -/
  broken : Bool := false
  /-- Something other than the end of the stream comes after the document. -/
  followed : Bool := false
deriving Repr

namespace Document

/-- Puts the first document together. -/
def assemble (a : Assembly) : List Event → Document
  | [] => { root := some a.breakOff, broken := true }
  | e :: rest =>
    match e.kind with
    | .streamEnd => { root := a.root }
    | .documentStart => assemble a rest
    | .documentEnd =>
      { root := a.root, followed := !(rest.head?.any (·.kind == .streamEnd)) }
    | _ =>
      match a.step? e with
      | some a => assemble a rest
      | none => { root := some a.breakOff, broken := true }

/-- The first document of a text. -/
def ofText (text : List Char) : Document :=
  assemble {} (Event.ofTokens (Token.ofText text))

end Document

end FailureIntake.Yaml
