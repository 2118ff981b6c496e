import FailureIntake.Yaml.Document
import FailureIntake.Yaml.Scalar.Value

/-! Reading typed values from documents. A document is read in the order of its text and the first
thing wrong is reported, be it a value that does not fit or the end of what could be read. -/
namespace FailureIntake.Yaml

inductive Refusal where
  | unknownField (name : String) (known : List String)
  | duplicateField (name : String)
  | wrongType (found expected : String)
  | wrongValue (found expected : String)
deriving DecidableEq, Repr

namespace Refusal

def expectedNames (known : List String) : String :=
  let names := known.map fun n => "`" ++ n ++ "`"
  match names with
  | [a] => "expected " ++ a
  | [a, b] => "expected " ++ a ++ " or " ++ b
  | names => "expected one of " ++ String.intercalate ", " names

def message : Refusal → String
  | unknownField name known => "unknown field `" ++ name ++ "`, " ++ expectedNames known
  | duplicateField name => "duplicate field `" ++ name ++ "`"
  | wrongType found expected => "invalid type: " ++ found ++ ", expected " ++ expected
  | wrongValue found expected => "invalid value: " ++ found ++ ", expected " ++ expected

end Refusal

/-- Why a text is no value of the expected kind. -/
inductive ReadError where
  /-- The text is no YAML. -/
  | malformed
  | severalDocuments
  /-- The field whose value is refused, named from the root on, and where it is. -/
  | refused (path : List String) (mark : Mark) (reason : Refusal)
deriving DecidableEq, Repr

namespace ReadError

/-- The place of an error, counted from 1. The beginning of the text goes without saying. -/
def placeText (m : Mark) : String :=
  if m.line = 0 ∧ m.column = 0 then ""
  else " at line " ++ toString (m.line + 1) ++ " column " ++ toString (m.column + 1)

def message : ReadError → String
  | malformed => "<yaml syntax error>"
  | severalDocuments => "deserializing from YAML containing more than one document is not supported"
  | refused path mark reason =>
    (if path.isEmpty then "" else String.intercalate "." path ++ ": ") ++ reason.message ++
      placeText mark

end ReadError

def coreTag (name : String) : List Char :=
  ("tag:yaml.org,2002:" ++ name).toList

namespace Node

/-- Refuses a scalar: a tag of the core schema that its text does not fit is named before the type.
Plain scalars without a tag or with a local one stand for their value, all others for a text. -/
def refuseScalar (info : NodeInfo) (style : ScalarStyle) (text : List Char) (expected : String) :
    Refusal :=
  let typed (v : ScalarValue) : Refusal := .wrongType v.describe expected
  let unfit (wanted : String) : Refusal := .wrongValue (ScalarValue.string text).describe wanted
  match info.tag with
  | none => typed (if style = .plain then .ofPlain text else .string text)
  | some tag =>
    if tag = coreTag "bool" then
      ((ScalarValue.bool? text).map fun b => typed (.bool b)).getD (unfit "a boolean")
    else if tag = coreTag "int" then
      ((ScalarValue.integer? text).map fun n => typed (.integer n)).getD (unfit "an integer")
    else if tag = coreTag "float" then
      ((ScalarValue.float? text).map fun x => typed (.float x)).getD (unfit "a float")
    else if tag = coreTag "null" then
      if ScalarValue.isNullWord text then typed .null else unfit "null"
    else if tag.head? = some '!' ∧ style = .plain then typed (.ofPlain text)
    else typed (.string text)

/-- The error for a node where something else is expected. -/
def refuse (path : List String) (expected : String) : Node → ReadError
  | .scalar info style text => .refused path info.mark (refuseScalar info style text expected)
  | .sequence info _ => .refused path info.mark (.wrongType "sequence" expected)
  | .mapping info _ => .refused path info.mark (.wrongType "map" expected)
  | .alias _ _ => .malformed
  | .missing => .malformed

/-- The text of a scalar that may stand for a value of the core tag: a plain one with any tag, and
a literal one with this tag. -/
def typedText? (tag : String) : Node → Option (List Char)
  | .scalar _ .plain text => some text
  | .scalar info .literal text => if info.tag = some (coreTag tag) then some text else none
  | _ => none

end Node

namespace Document

/-- The node that an alias stands for, and any other node itself. -/
def target (d : Document) : Node → Node
  | .alias _ n => (d.root.bind (·.anchored? n)).getD .missing
  | v => v

def readBool (d : Document) (path : List String) (v : Node) : Except ReadError Bool :=
  let v := d.target v
  match (v.typedText? "bool").bind ScalarValue.bool? with
  | some b => .ok b
  | none => .error (v.refuse path "a boolean")

/-- A count of at most 64 bits. -/
def readWord (d : Document) (path : List String) (v : Node) : Except ReadError UInt64 :=
  let v := d.target v
  match (v.typedText? "int").bind ScalarValue.word? with
  | some n => .ok n
  | none => .error (v.refuse path "usize")

/-- Whether a node stands for nothing. A text that contradicts the tag of null is an error of the
mapping at `path` and `mark`. -/
def readsAsNull (d : Document) (path : List String) (mark : Mark) (v : Node) :
    Except ReadError Bool :=
  match d.target v with
  | .scalar info .plain text =>
    match info.tag with
    | none => .ok (text.isEmpty || ScalarValue.isNullWord text)
    | some tag =>
      if tag = coreTag "null" then
        if ScalarValue.isNullWord text then .ok true
        else .error (.refused path mark (.wrongValue (ScalarValue.string text).describe "null"))
      else .ok false
  | _ => .ok false

/-- The text of a key and where it is. -/
def readKey (d : Document) (path : List String) (k : Node) : Except ReadError (String × Mark) :=
  match d.target k with
  | .scalar info _ text => .ok (String.ofList text, info.mark)
  | k => .error (k.refuse path "field identifier")

/-- The part of a path that a key adds. Only a key that is written out has a name. -/
def pathPart : Node → String
  | .scalar _ _ text => String.ofList text
  | _ => "?"

/-- The fields of a mapping: what they are called, which of them a draft has, and how the value of
one is added to it, given the paths and marks of the mapping. -/
structure Fields (κ δ : Type) where
  names : List (String × κ)
  has : δ → κ → Bool
  read : (mapping : List String × Mark) → (path : List String) → κ → Node → δ → Except ReadError δ

/-- Reads entries in order. -/
def readEntries {κ δ : Type} (d : Document) (fields : Fields κ δ) (path : List String)
    (mark : Mark) : List (Node × Node) → δ → Except ReadError δ
  | [], draft => .ok draft
  | (k, v) :: rest, draft => do
    let (name, keyMark) ← d.readKey path k
    match fields.names.lookup name with
    | none => throw (.refused path keyMark (.unknownField name (fields.names.map Prod.fst)))
    | some key =>
      if fields.has draft key then throw (.refused path mark (.duplicateField name))
      let draft ← fields.read (path, mark) (path ++ [pathPart k]) key v draft
      readEntries d fields path mark rest draft

/-- Reads a mapping. An empty plain scalar counts as a mapping without entries. -/
def readMapping {κ δ : Type} (d : Document) (fields : Fields κ δ) (path : List String)
    (expected : String) (v : Node) (draft : δ) : Except ReadError δ :=
  match d.target v with
  | .mapping info entries => d.readEntries fields path info.mark entries draft
  | .scalar _ .plain [] => .ok draft
  | v => .error (v.refuse path expected)

/-- Reads the root, which may be absent, and refuses what comes after the document. -/
def read {α : Type} (d : Document) (absent : α) (root : Node → Except ReadError α) :
    Except ReadError α := do
  let a ← match d.root with
    | none => pure absent
    | some v => root v
  if d.broken then throw .malformed
  if d.followed then throw .severalDocuments
  pure a

end Document

end FailureIntake.Yaml
