/-!
# Errors

Every way in which composing, rendering or running statements goes wrong.
-/
namespace SqlBatch

inductive Error
  /-- A clause lacks a part that it needs. -/
  | missingElement (clause element : String)
  | operatorArity (operator expected : String) (found : Nat)
  | unsupportedFeature (dialect feature : String)
  /-- A clause has a part that cannot stand in it. -/
  | invalidElement (clause reason : String)
  /-- Two combined texts bind one placeholder to different values. -/
  | parameterCollision (name : String)
  /-- A plain value was wanted where another kind of expression stood. -/
  | parameterMisuse (found : String)
  | resultCountMismatch (expected actual : Nat)
  | batchCompleted
  | batchExecuting
  | cancelled
  | column (name reason : String)
  | processor (message : String)
  | executor (message : String)
  deriving DecidableEq

namespace Error

def message : Error → String
  | missingElement clause element => clause ++ ": missing " ++ element
  | operatorArity operator expected found =>
    "operator `" ++ operator ++ "` expects " ++ expected ++ " operands, found " ++ toString found
  | unsupportedFeature dialect feature =>
    "dialect `" ++ dialect ++ "` does not support " ++ feature
  | invalidElement clause reason => clause ++ ": " ++ reason
  | parameterCollision name =>
    "parameter `" ++ name ++ "` is bound to different values in combined statements"
  | parameterMisuse found => "expected a plain value but found " ++ found
  | resultCountMismatch expected actual =>
    "executor returned " ++ toString actual ++ " result sets for " ++ toString expected ++
      " queued statements"
  | batchCompleted => "deferred batch has already executed"
  | batchExecuting => "deferred batch is executing"
  | cancelled => "deferred batch was cancelled before results were delivered"
  | column name reason => "column `" ++ name ++ "`: " ++ reason
  | processor message => "result processor failed: " ++ message
  | executor message => "executor error: " ++ message

/-- Structural errors lie in the statement itself, before anything is run. -/
def isStructural : Error → Bool
  | missingElement .. | operatorArity .. | unsupportedFeature .. | invalidElement ..
  | parameterCollision .. => true
  | _ => false

end Error
end SqlBatch
