import HeaderRelay.Settings.Basic
import HeaderRelay.Settings.Format
import HeaderRelay.Text.Hex
import HeaderRelay.Text.Quoted
import HeaderRelay.Url.Basic

set_option autoImplicit false

namespace HeaderRelay.Settings

inductive Defect
  /-- The file is missing or no text. -/
  | unreadable (path : String)
  /-- The file is not in its format, or does not hold settings. -/
  | unparsable (format : Format) (path : String)
  /-- The file cannot be written. -/
  | unwritable (path : String)
  /-- The value of a setting is of the wrong kind. -/
  | invalid (setting value : String)
  /-- A setting is zero. -/
  | zero (setting : String)
  deriving DecidableEq, Repr

def Format.word : Format → String
  | .yaml => "YAML"
  | .json => "JSON"

def Defect.message : Defect → String
  | .unreadable path => "Failed to read config file " ++ Quoted.text path
  | .unparsable format path => "Failed to parse " ++ format.word ++ " config " ++ Quoted.text path
  | .unwritable path => "Failed to write config file " ++ Quoted.text path
  | .invalid setting value => "Invalid " ++ setting ++ ": " ++ value
  | .zero setting => setting ++ " must be greater than zero"

/-- The settings that are URLs, in the order in which they are checked. -/
def urls (s : Settings) : List (String × String) :=
  [("primary-rpc-url", s.chain.primaryUrl), ("archival-rpc-url", s.chain.archivalUrl),
    ("eth-rpc-url", s.ledger.url), ("nats-url", s.bus.url), ("epoch-prover-url", s.prover.url)]

def addressLength : Nat := 20

def address (s : Settings) : Except Defect Bytes :=
  let digits := (Hex.dropMark s.ledger.address).toList.filter (!Hex.isFiller ·)
  match Hex.decodeText (String.ofList digits) with
  | .ok bytes =>
      if bytes.length = addressLength then .ok bytes
      else .error (.invalid "ledger-address" s.ledger.address)
  | .error _ => .error (.invalid "ledger-address" s.ledger.address)

def check (s : Settings) : Except Defect Unit := do
  match s.urls.find? fun named => (Url.ofString? named.2).isNone with
  | some (setting, value) => throw (.invalid setting value)
  | none => pure ()
  if s.chain.epochLength = 0 then throw (.zero "epoch-length")
  if s.chain.maxDrift = 0 then throw (.zero "max-boundary-drift")
  let _ ← s.address

end HeaderRelay.Settings
