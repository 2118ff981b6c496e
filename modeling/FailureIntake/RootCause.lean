import FailureIntake.Text.Alphanumeric

/-! The deepest cause of an error, as a type name and a text. -/
namespace FailureIntake

/-- An error below another one, known only by the texts it shows. -/
structure SourceError where
  display : String
  inspected : String
deriving DecidableEq, Repr

/-- An error whose type is known, and the chain of its sources, outermost first. -/
structure ErrorChain where
  typeName : String
  display : String
  sources : List SourceError
deriving DecidableEq, Repr

/-- Type name and text of the error that a failure comes from. -/
structure RootCause where
  typeName : String
  message : String
deriving DecidableEq, Repr

namespace RootCause

/-- The characters before the first `::`. -/
def beforePathSeparator : List Char → List Char
  | ':' :: ':' :: _ => []
  | c :: r => c :: beforePathSeparator r
  | [] => []

/-- What follows the last `::`, or all of it if there is none. -/
def afterLastPathSeparator (path : List Char) : List Char :=
  (beforePathSeparator path.reverse).reverse

/-- What follows the last `::` in front of the first `<` of a type name. -/
def simpleTypeName (full : List Char) : List Char :=
  afterLastPathSeparator (full.takeWhile (· ≠ '<'))

/-- The letters, digits and underscores that an inspected error begins with, or `Error`. -/
def inspectedTypeName (inspected : List Char) : List Char :=
  match inspected.takeWhile fun c => Text.isAlphanumeric c || c == '_' with
  | [] => "Error".toList
  | name => name

/-- The last source names the root. An error without sources is its own root. -/
def ofChain (e : ErrorChain) : RootCause :=
  match e.sources.getLast? with
  | none => ⟨String.ofList (simpleTypeName e.typeName.toList), e.display⟩
  | some s => ⟨String.ofList (inspectedTypeName s.inspected.toList), s.display⟩

def describe (c : RootCause) : String :=
  c.typeName ++ ": " ++ c.message

end RootCause

end FailureIntake
