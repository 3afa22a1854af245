import HeaderRelay.Number.Radix
import HeaderRelay.Text.Utf8

set_option autoImplicit false

namespace HeaderRelay.Ledger.Abi

def wordSize : Nat := 32

/-- A number as a word, its most significant byte first. -/
def wordFrom : Nat → Nat → Bytes
  | 0, _ => []
  | count + 1, n => wordFrom count (n / 256) ++ [UInt8.ofNat (n % 256)]

def word (n : Nat) : Bytes := wordFrom wordSize n

/-- The number of bytes, the most significant first. -/
def number (bytes : Bytes) : Nat := bytes.foldl (fun n b => n * 256 + b.toNat) 0

/-- The length of a byte string filled up to whole words. -/
def paddedSize (n : Nat) : Nat := (n + 31) / 32 * 32

/-- A byte string: its length, then its bytes filled up with zeros. -/
def dynamic (bytes : Bytes) : Bytes :=
  word bytes.length ++ bytes ++ List.replicate (paddedSize bytes.length - bytes.length) 0

/-- One byte string as the only argument. -/
def oneString (bytes : Bytes) : Bytes := word wordSize ++ dynamic bytes

/-- Two byte strings as the arguments: the offset of each, then the strings. -/
def twoStrings (a b : Bytes) : Bytes :=
  word (2 * wordSize) ++ word (2 * wordSize + (dynamic a).length) ++ dynamic a ++ dynamic b

def wordAt? (data : Bytes) (index : Nat) : Option Bytes :=
  let bytes := (data.drop (wordSize * index)).take wordSize
  if bytes.length = wordSize then some bytes else none

def number? (data : Bytes) : Option Nat := (wordAt? data 0).map number

def pair? (data : Bytes) : Option (Bytes × Bytes) :=
  match wordAt? data 0, wordAt? data 1 with
  | some a, some b => some (a, b)
  | _, _ => none

/-- A returned truth value: only the last byte of its word may differ from zero, and only one
stands for true. -/
def bool? (data : Bytes) : Option Bool :=
  match wordAt? data 0 with
  | none => none
  | some bytes =>
      if (bytes.take 31).all (· == 0) then some ((bytes.drop 31).head? == some 1) else none

theorem length_wordFrom (count n : Nat) : (wordFrom count n).length = count := by
  induction count generalizing n with
  | zero => rfl
  | succ count ih => simp [wordFrom, ih]

theorem length_word (n : Nat) : (word n).length = 32 := length_wordFrom wordSize n

end HeaderRelay.Ledger.Abi
