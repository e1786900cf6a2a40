import Fulfilment.Text.Quoted

/-!
A setting that could not be read: its name, the text it had, and why the text was refused; and
the ways reading all settings can fail.
-/

namespace Fulfilment

/-- A refused setting. -/
structure ConfigError where
  key : String
  value : String
  reason : String
  deriving DecidableEq, Repr

def ConfigError.message (e : ConfigError) : String :=
  "invalid value for " ++ e.key ++ ": " ++ Text.quoted e.value ++ " (" ++ e.reason ++ ")"

/-- Why settings could not be made: a refused setting, or a count of webhook retries so large
that adding the first delivery to it overflows 32 bits, which stops the program. -/
inductive SettingsError where
  | invalid (e : ConfigError)
  | retriesOverflow
  deriving DecidableEq, Repr

def SettingsError.message : SettingsError → String
  | .invalid e => e.message
  | .retriesOverflow => "attempt to add with overflow"

end Fulfilment
