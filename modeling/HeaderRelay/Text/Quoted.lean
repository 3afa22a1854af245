import HeaderRelay.Unicode.Hidden

set_option autoImplicit false

namespace HeaderRelay.Quoted

/-- A character as it stands between two `quote` marks. -/
def escape (quote c : Char) : List Char :=
  if c = quote ∨ c = '\\' then ['\\', c]
  else if c = '\t' then ['\\', 't']
  else if c = '\r' then ['\\', 'r']
  else if c = '\n' then ['\\', 'n']
  else if c.toNat = 0 then ['\\', '0']
  else if Unicode.isHidden c then
    '\\' :: 'u' :: '\x7b' :: (Nat.toDigits 16 c.toNat ++ ['\x7d'])
  else [c]

def char (c : Char) : String := String.ofList ('\'' :: (escape '\'' c ++ ['\'']))

def text (s : String) : String :=
  String.ofList ('"' :: (s.toList.flatMap (escape '"') ++ ['"']))

end HeaderRelay.Quoted
