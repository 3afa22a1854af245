import HeaderRelay.Text.Quoted
import HeaderRelay.Text.Utf8

set_option autoImplicit false

namespace HeaderRelay.Hex

/-- Why a text is no sequence of hexadecimal pairs. -/
inductive Defect
  /-- The number of digits is odd. -/
  | odd
  /-- The byte at a position is no digit. -/
  | invalid (byte : UInt8) (position : Nat)
  deriving DecidableEq, Repr

/-- The wording of a defect; the byte at fault is shown as the character of its number. -/
def Defect.message : Defect → String
  | .odd => "Odd number of digits"
  | .invalid byte position =>
      "Invalid character " ++ Quoted.char (Char.ofNat byte.toNat) ++ " at position " ++
        toString position

def digit? (b : UInt8) : Option Nat :=
  let n := b.toNat
  if 48 ≤ n ∧ n ≤ 57 then some (n - 48)
  else if 97 ≤ n ∧ n ≤ 102 then some (n - 87)
  else if 65 ≤ n ∧ n ≤ 70 then some (n - 55)
  else none

/-- Reads pairs, the first of which stands at `position`. -/
def pairs (position : Nat) : Bytes → Except Defect Bytes
  | [] => .ok []
  | [_] => .error .odd
  | a :: b :: rest =>
      match digit? a with
      | none => .error (.invalid a position)
      | some high =>
          match digit? b with
          | none => .error (.invalid b (position + 1))
          | some low => (pairs (position + 2) rest).map (UInt8.ofNat (high * 16 + low) :: ·)

/-- Reads hexadecimal digits. An odd count is reported before any foreign character. -/
def decode (digits : Bytes) : Except Defect Bytes :=
  if digits.length % 2 = 1 then .error .odd else pairs 0 digits

def digitChar (n : Nat) : Char := if n < 10 then Char.ofNat (48 + n) else Char.ofNat (87 + n)

/-- Two digits a byte, lower case. -/
def encodeChars (bytes : Bytes) : List Char :=
  bytes.flatMap fun b => [digitChar (b.toNat / 16), digitChar (b.toNat % 16)]

def encode (bytes : Bytes) : String := String.ofList (encodeChars bytes)

def dropMark (s : String) : String :=
  match s.toList with
  | '0' :: 'x' :: rest => String.ofList rest
  | _ => s

def dropAnyMark (s : String) : String :=
  match s.toList with
  | '0' :: 'X' :: rest => String.ofList rest
  | _ => dropMark s

/-- Characters that some readers pass over between digits. -/
def isFiller (c : Char) : Bool := c == ' ' || c == '\r' || c == '\n' || c == '\t'

def decodeText (s : String) : Except Defect Bytes := decode (Utf8.encode s)

def isHexText (s : String) : Bool := (Utf8.encode s).all fun b => (digit? b).isSome

end HeaderRelay.Hex
