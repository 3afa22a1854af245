import HeaderRelay.Fault
import HeaderRelay.Text.Base58
import HeaderRelay.Text.Hex

set_option autoImplicit false

namespace HeaderRelay.Ledger

def hashSize : Nat := 32

def hashBytes (hash : String) : Except Fault Bytes :=
  match Base58.decode hash with
  | .error defect =>
      .error ⟨.parse, "Invalid base58 hash " ++ hash ++ ": " ++ defect.message⟩
  | .ok bytes =>
      if bytes.length = hashSize then .ok bytes
      else
        .error ⟨.parse, "Hash " ++ hash ++ " decodes to " ++ toString bytes.length ++
          " bytes, expected 32"⟩

def hashText (bytes : Bytes) : String := Base58.encode bytes

/-- The bytes of a proof or its public output; one leading `0x` is dropped. -/
def payloadBytes (field payload : String) : Except Fault Bytes :=
  match Hex.decodeText (Hex.dropMark payload) with
  | .ok bytes => .ok bytes
  | .error defect => .error ⟨.parse, "Invalid hex in " ++ field ++ ": " ++ defect.message⟩

end HeaderRelay.Ledger
