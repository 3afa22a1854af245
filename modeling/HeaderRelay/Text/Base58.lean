import HeaderRelay.Number.Radix
import HeaderRelay.Text.Quoted
import HeaderRelay.Text.Utf8

set_option autoImplicit false

namespace HeaderRelay.Base58

/-- The digits in order of value. -/
def alphabet : List Char :=
  "123456789ABCDEFGHJKLMNPQRSTUVWXYZabcdefghijkmnopqrstuvwxyz".toList

/-- Why a text is no base 58 numeral. -/
inductive Defect
  /-- An ASCII character outside the alphabet. -/
  | invalid (c : Char) (position : Nat)
  /-- A character outside ASCII. -/
  | foreign (position : Nat)
  deriving DecidableEq, Repr

def Defect.message : Defect → String
  | .invalid c position =>
      "provided string contained invalid character " ++ Quoted.char c ++ " at byte " ++
        toString position
  | .foreign position =>
      "provided string contained non-ascii character starting at byte " ++ toString position

def digit? (c : Char) : Option Nat := alphabet.findIdx? (· == c)

/-- The values of the characters, the first of which stands at byte `position`. -/
def values (position : Nat) : List Char → Except Defect (List Nat)
  | [] => .ok []
  | c :: rest =>
      if 127 < c.toNat then .error (.foreign position)
      else
        match digit? c with
        | none => .error (.invalid c position)
        | some d => (values (position + 1) rest).map (d :: ·)

/-- The bytes that digits stand for: a zero byte for each leading zero digit, then the number
in base 256. -/
def bytesOf (ds : List Nat) : Bytes :=
  (ds.takeWhile (· == 0)).map (fun _ => 0) ++
    (Radix.digits 256 (Radix.value 58 ds.reverse)).reverse.map UInt8.ofNat

def decode (s : String) : Except Defect Bytes := (values 0 s.toList).map bytesOf

/-- The digits of bytes: a zero digit for each leading zero byte, then the number in
base 58. -/
def digitsOf (bytes : Bytes) : List Nat :=
  (bytes.takeWhile (· == 0)).map (fun _ => 0) ++
    (Radix.digits 58 (Radix.value 256 (bytes.reverse.map UInt8.toNat))).reverse

def encode (bytes : Bytes) : String :=
  String.ofList ((digitsOf bytes).map fun d => alphabet.getD d '1')

end HeaderRelay.Base58
