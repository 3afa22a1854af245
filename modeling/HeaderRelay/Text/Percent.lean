import HeaderRelay.Text.Hex

set_option autoImplicit false

namespace HeaderRelay.Percent

/-- The sign before two digits. -/
def sign : UInt8 := 0x25

/-- The bytes that a text with percent signs stands for. -/
def decode : Bytes → Bytes
  | [] => []
  | b :: rest =>
      if b = sign then
        match rest with
        | x :: y :: after =>
            match Hex.digit? x, Hex.digit? y with
            | some high, some low => UInt8.ofNat (high * 16 + low) :: decode after
            | _, _ => b :: decode (x :: y :: after)
        | short => b :: decode short
      else b :: decode rest

def digitChar (n : Nat) : Char := (Hex.digitChar n).toUpper

/-- A text with those of its bytes behind percent signs that a class holds; it has to hold those
that are not plain. -/
def encode (needs : UInt8 → Bool) (bytes : Bytes) : List Char :=
  bytes.flatMap fun b =>
    if needs b then ['%', digitChar (b.toNat / 16), digitChar (b.toNat % 16)]
    else [Char.ofNat b.toNat]

end HeaderRelay.Percent
