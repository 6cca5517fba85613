import ResourceClient.Config.Basic
import ResourceClient.Text.Numeral

/-! # Configuration from the environment

    The variables of the environment that begin with `COGNITE` and an
    underscore configure a client.  The project has to be set, all else has
    a default.  A variable that should hold a number and does not is an
    error, and of several such errors the first in the order of the code is
    reported, before the configuration as a whole is checked. -/

namespace ResourceClient

/-- The variables of an environment. -/
structure Environment where
  /-- Names with values. -/
  bindings : List (String × String)

namespace Environment

/-- The value of a variable. -/
def get? (env : Environment) (name : String) : Option String := env.bindings.lookup name

/-- A variable that should hold a number. -/
def notANumber (name value : String) : Error :=
  .validation (name ++ " must be a number") (some name) (some value)

/-- The number that a variable holds, of `limit` at most; blanks around it do not count. -/
def number? (env : Environment) (name : String) (limit : Nat) : Result (Option Nat) :=
  match env.get? name with
  | none => .ok none
  | some value =>
    match Text.numeral? limit (Text.trim value) with
    | some n => .ok (some n)
    | none => .error (notANumber name value)

/-- Whether the value of a variable switches something on. -/
def switchesOn (value : String) : Bool := ["1", "true", "yes"].contains value.toLower

/-- The configuration that an environment describes. -/
def config (env : Environment) : Result ClientConfig := do
  let some project := env.get? "COGNITE_PROJECT"
    | .error (.configuration "COGNITE_PROJECT is not set")
  let base ← ClientConfig.new ((env.get? "COGNITE_BASE_URL").getD Product.baseUrl) project
  let maxWorkers ← env.number? "COGNITE_MAX_WORKERS" Text.maxWord64
  let timeout ← env.number? "COGNITE_TIMEOUT" Text.maxWord64
  let retries ← env.number? "COGNITE_MAX_RETRIES" Text.maxWord32
  let backoff ← env.number? "COGNITE_MAX_RETRY_BACKOFF" Text.maxWord64
  let config := { base with
    apiKey := env.get? "COGNITE_API_KEY"
    token := env.get? "COGNITE_TOKEN"
    clientName := (env.get? "COGNITE_CLIENT_NAME").getD base.clientName
    maxWorkers := maxWorkers.getD base.maxWorkers
    timeout := (timeout.map (· * 1000)).getD base.timeout
    retry := { base.retry with
      total := (retries.map UInt32.ofNat).getD base.retry.total
      maxBackoff := (backoff.map (· * 1000)).getD base.retry.maxBackoff }
    disableGzip := ((env.get? "COGNITE_DISABLE_GZIP").map switchesOn).getD base.disableGzip }
  config.validate
  return config

end Environment

end ResourceClient
