import IdentityForm.Role
import IdentityForm.Text.Digits
import IdentityForm.Text.White

/-! # Settings

Durations and limits of a session, with the variables of the environment that change them.
-/

namespace IdentityForm

/-- All durations are in milliseconds. -/
structure Settings where
  /-- How long an accepted password is remembered. -/
  rememberFor : Nat
  /-- How often the password settings are asked for while an email waits for confirmation. -/
  shortPoll : Nat
  /-- How long the form stays open after it was submitted. -/
  closeDelay : Nat
  scanLimit : Nat
  renditionLimit : Nat
  /-- How often the countdown to a voice call is shown anew. -/
  callTick : Nat
  deriving DecidableEq, Repr

namespace Settings

def standard : Settings := ⟨1800000, 3000, 2000, 20, 20, 1000⟩

/-- A number that a 64-bit word holds, perhaps among white space and behind a plus sign. -/
def number? (s : String) : Option Nat := do
  let n ← Text.signedNatural? (Text.trim s).toList
  if n < UInt64.size then return n else none

/-- The settings in an environment. A text that is no number changes nothing, and neither does an
interval of zero. -/
def ofEnvironment (env : String → Option String) : Settings :=
  let number (name : String) : Option Nat := (env name).bind number?
  let positive (name : String) : Option Nat := (number name).filter (0 < ·)
  { rememberFor := ((number "PASSPORT_REMEMBER_PASSWORD_SECS").map (1000 * ·)).getD
      standard.rememberFor
    shortPoll := (positive "PASSPORT_SHORT_POLL_MS").getD standard.shortPoll
    closeDelay := (number "PASSPORT_CLOSE_DELAY_MS").getD standard.closeDelay
    scanLimit := (number "PASSPORT_SCANS_LIMIT").getD standard.scanLimit
    renditionLimit := (number "PASSPORT_TRANSLATIONS_LIMIT").getD standard.renditionLimit
    callTick := (positive "PASSPORT_CALL_TICK_MS").getD standard.callTick }

/-- How many files of a role an entry may have; a special role needs no limit. -/
def limit? (s : Settings) : Role → Option Nat
  | .scan => some s.scanLimit
  | .rendition => some s.renditionLimit
  | _ => none

end Settings

end IdentityForm
