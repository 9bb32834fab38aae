import RestConnector.Text.Case
import RestConnector.Text.Integer
import RestConnector.Text.Quoted

/-!
# Settings

The settings of the tool come from environment variables. A variable that is not set leaves its
default; the two numbers must be readable as integers, and the first one that is not is reported.
-/

namespace RestConnector

open RestConnector.Text

/-- The settings of the network and of the output. -/
structure Settings where
  /-- Seconds to wait for an answer. -/
  timeout : Int := 30
  verifyTls : Bool := false
  /-- How many endpoints are sampled at most. -/
  maxSamples : Int := 10
  userAgent : String := "connector-generator/1.0.0"
  outputDirectory : String := "./generated"
  logLevel : String := "WARNING"
deriving DecidableEq, Repr

/-- A variable that should hold an integer and does not. -/
structure SettingsFault where
  text : String
  fault : IntegerFault
deriving DecidableEq, Repr

namespace SettingsFault

/-- The greatest length to which a refused text is quoted. -/
def quotedLength : Nat := 200

/-- What is said about a variable that holds no integer. -/
def message (problem : SettingsFault) : String :=
  match problem.fault with
  | .malformed =>
    "invalid literal for int() with base 10: " ++ onChars (·.take quotedLength) (quoted problem.text)
  | .tooLong digits =>
    "Exceeds the limit (" ++ toString decimalLimit ++
      " digits) for integer string conversion: value has " ++ toString digits ++
      " digits; use sys.set_int_max_str_digits() to increase the limit"

end SettingsFault

namespace Settings

/-- The words that switch a setting on, in any letter case. -/
def affirmations : List String := ["1", "true", "yes", "on"]

/-- The integer that a variable holds. -/
def integerVariable (environment : List (String × String)) (name : String) (default : Int) :
    Except SettingsFault Int :=
  match environment.lookup name with
  | none => .ok default
  | some text => (readInteger .decimal text.toList).mapError fun fault => { text, fault }

/-- The settings that an environment asks for. -/
def ofEnvironment (environment : List (String × String)) : Except SettingsFault Settings := do
  let timeout ← integerVariable environment "CONNECTOR_GEN_TIMEOUT" 30
  let verify := (environment.lookup "CONNECTOR_GEN_VERIFY_SSL").getD "false"
  let maxSamples ← integerVariable environment "CONNECTOR_GEN_MAX_SAMPLES" 10
  let userAgent := environment.lookup "CONNECTOR_GEN_USER_AGENT"
  let outputDirectory := environment.lookup "CONNECTOR_GEN_OUTPUT_DIR"
  let logLevel := environment.lookup "LOG_LEVEL"
  return {
    timeout
    verifyTls := lower verify ∈ affirmations
    maxSamples
    userAgent := userAgent.getD "connector-generator/1.0.0"
    outputDirectory := outputDirectory.getD "./generated"
    logLevel := logLevel.getD "WARNING" }

end Settings

end RestConnector
