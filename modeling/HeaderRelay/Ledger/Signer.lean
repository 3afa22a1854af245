import HeaderRelay.Ledger.Contract
import HeaderRelay.Text.Blank
import HeaderRelay.Url.Basic

set_option autoImplicit false

namespace HeaderRelay.Ledger

def dropMarks : List Char → List Char
  | '0' :: 'x' :: rest => dropMarks rest
  | cs => cs

/-- Why there is nobody to sign transactions. -/
inductive SignerDefect
  /-- The file with the key is missing or no text. -/
  | keyUnreadable (path : String)
  /-- The file does not hold a key. -/
  | keyMalformed (path : String)
  /-- The node is not at a URL. -/
  | urlInvalid (url : String)
  /-- The node is on another chain than prescribed. -/
  | otherChain (expected reported : Nat)
  /-- The node does not answer, or the key cannot sign. -/
  | refused
  deriving DecidableEq, Repr

def SignerDefect.message : SignerDefect → String
  | .keyUnreadable path => "Failed to read ledger key from " ++ path
  | .keyMalformed path => "Ledger key at " ++ path ++ " is not a 32 byte hex string"
  | .urlInvalid url => "Invalid eth rpc url " ++ url
  | .otherChain expected reported =>
      "Eth chain id mismatch: expected " ++ toString expected ++ ", node reports " ++
        toString reported
  | .refused => "*"

/-- The key in a file at a path: 64 hexadecimal digits among blanks. -/
def readKey (path : String) (content : Option Bytes) : Except SignerDefect String :=
  match content.bind Utf8.decode? with
  | none => .error (.keyUnreadable path)
  | some text =>
      let key := String.ofList (dropMarks (Blank.trim text).toList)
      if key.toList.length = 64 ∧ Hex.isHexText key = true then .ok key
      else .error (.keyMalformed path)

/-- The order of the group of keys. -/
def keyOrder : Nat :=
  0xFFFFFFFFFFFFFFFFFFFFFFFFFFFFFFFEBAAEDCE6AF48A03BBFD25E8CD0364141

/-- Whether a text is a key, behind up to two marks: 32 bytes that stand for a number from 1 up to
the order. -/
def isKey (key : String) : Bool :=
  match Hex.decodeText (Hex.dropAnyMark (Hex.dropAnyMark key)) with
  | .ok bytes =>
      bytes.length == 32 && 0 < Abi.number bytes && Abi.number bytes < keyOrder
  | .error _ => false

abbrev Signing (α : Type) := ExceptT SignerDefect (Program contractNode) α

/-- The chain that transactions are signed for, after the node and the key were checked. -/
def signer (key : String) (expected : Option Nat) : Signing Nat := do
  let chainId : Option Nat ← ExceptT.lift (Program.query (I := contractNode) .chainId)
  let some id := chainId | throw .refused
  match expected with
  | some expected => if id ≠ expected then throw (.otherChain expected id)
  | none => pure ()
  if isKey key then return id else throw .refused

/-- The chain that transactions are signed for by way of the node at a URL. -/
def connect (url key : String) (expected : Option Nat) : Signing Nat :=
  if (Url.ofString? url).isNone then throw (.urlInvalid url) else signer key expected

end HeaderRelay.Ledger
