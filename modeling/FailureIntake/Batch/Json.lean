import FailureIntake.Batch
import FailureIntake.Failure.Json

/-! The JSON form of a batch. -/
namespace FailureIntake.Batch

/-- A batch is written as an object with its failures in order. -/
def toJson (b : Batch) : Json.Value :=
  .ofMembers [("failures", .array (b.failures.map Failure.toJson) true)]

def jsonText (b : Batch) : String :=
  String.ofList b.toJson.text

end FailureIntake.Batch
