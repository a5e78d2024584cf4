import QueryFrame.Json.Failure

/-!
# Errors of the data source

Every failure of a request, with the data it is about, its wording, and whether the request
itself is to blame.
-/

namespace QueryFrame

instance (priority := 1100) decidableEqExcept {ε α : Type} [DecidableEq ε] [DecidableEq α] :
    DecidableEq (Except ε α)
  | .ok a, .ok b => decidable_of_iff (a = b) ⟨congrArg _, Except.ok.inj⟩
  | .error e, .error f => decidable_of_iff (e = f) ⟨congrArg _, Except.error.inj⟩
  | .ok _, .error _ => isFalse nofun
  | .error _, .ok _ => isFalse nofun

/-- Why a request fails. -/
inductive QueryError where
  | unsupportedType (typeName : String)
  | shapeMismatch (expected received : String)
  | duplicateConverter (name : String)
  | decimalOutOfRange (number : String)
  | macroArity (name : String) (expected received : Nat)
  | emptyFallback
  | unknownMacro (name : String)
  | unterminatedMacro (name : String)
  | invalidSettings (reason : String)
  | invalidJson (failure : Json.Failure)
  | connectionFailed (reason : String)
  | connectionTimedOut
  | queryFailed (reason : String)
  | queryTimedOut
  | columnNotFound (name : String)
  | columnCountMismatch (expected actual : Nat)
  deriving DecidableEq, Repr

namespace QueryError

def message : QueryError → String
  | .unsupportedType typeName => "Unsupported column type: " ++ typeName
  | .shapeMismatch expected received =>
    "Scanned value has shape " ++ received ++ ", expected " ++ expected
  | .duplicateConverter name => "Converter declared twice: " ++ name
  | .decimalOutOfRange number =>
    "Decimal " ++ number ++ " cannot be represented as a 64-bit float"
  | .macroArity name expected received =>
    "Macro " ++ name ++ ": expected " ++ toString expected ++ " argument(s), received " ++
      toString received
  | .emptyFallback => "Fallback should contain at least one character"
  | .unknownMacro name => "Unknown macro: $__" ++ name
  | .unterminatedMacro name => "Missing closing parenthesis for macro: $__" ++ name
  | .invalidSettings reason => "Invalid settings: " ++ reason
  | .invalidJson failure => "Could not parse json: " ++ failure.message
  | .connectionFailed reason => "Connection failed: " ++ reason
  | .connectionTimedOut => "Connection timed out"
  | .queryFailed reason => "Query failed: " ++ reason
  | .queryTimedOut => "Query timed out"
  | .columnNotFound name => "Column not found: " ++ name
  | .columnCountMismatch expected actual =>
    "Expected " ++ toString expected ++ " column(s) per row, got " ++ toString actual

/-- Whether the request itself is to blame, and not the database. -/
def isBadRequest : QueryError → Bool
  | .macroArity .. | .emptyFallback | .unknownMacro _ | .unterminatedMacro _
  | .invalidSettings _ | .invalidJson _ => true
  | _ => false

end QueryError

end QueryFrame
