import FailureIntake.Text.Utf8

/-! Environment variables. -/
namespace FailureIntake.Config

structure Environment where
  octets? : String → Option Text.Utf8.Octets

/-- The text of a variable. One that is not UTF-8 counts as not set. -/
def Environment.text? (env : Environment) (name : String) : Option String :=
  (env.octets? name).bind Text.Utf8.decode?

end FailureIntake.Config
