import HeaderRelay.Unicode.Marks

set_option autoImplicit false

namespace HeaderRelay.Unicode

/-- With which neighbours a character joins. -/
inductive Joining
  | never
  | before
  | after
  | both
  /-- It makes its neighbours join. -/
  | causing
  /-- It is passed over. -/
  | transparent
  deriving DecidableEq, Repr

/-- The runs of characters that join, by the first letters of right, left, dual and causing. -/
def joiningTable : List String :=
  ["1568 1d 1 4r 1d 1r 1d 1r 5d 4r 13d 1c 7d 1r 23d 14 3d 3r 5 15d 18r 38d 1r 2d 9r 1d 1r 1d 1r 2d",
    "2r 1 9r 16 2r 10 3d 2 1d 16 2r 3d 5r 4d 1r 9d 1r 1d 1r 1d 1r 2d 31r 11d 3r 15d 2r 4d 1r 1d 2r",
    "3d 2r 6d 74 42d 6 4c 66 1r 5d 2r 1d 1r 10d 1r 1d 8r 2 1d 1 4d 1 1r 1d 26r 3c 1d 2 5d 1r 27d 3r",
    "1 1r 2d 2r 6d 1r 15d 3902 1d 2 6c 16 96d 7 41d 1885 3c 34864 50d 1l 25165 5d 1r 1 1r 1 2r 2 1l",
    "5r 4d 1l 5d 1r 3d 1r 2 7r 4d 1r 144 1d 1r 1d 3r 3d 1r 2d 1r 1d 2r 1d 8r 16 4r 2d 337 1l 33d 1r",
    "13d 402 1r 2d 1 10d 96 3d 1r 17d 12 3d 1r 27 4d 2r 16d 42 1d 1 2d 3r 1 1d 2r 2d 1r 2d 1 1d 2r",
    "1d 4 1r 1d 21l 55618 41d 5t 988848"]

/-- Reads a word of the table; an empty one stands for a character that never joins. -/
def Joining.ofWord : List Char → Joining
  | ['r'] => .before
  | ['l'] => .after
  | ['d'] => .both
  | ['c'] => .causing
  | ['t'] => .transparent
  | _ => .never

/-- The runs of characters that join among those that may stand in a domain and are no marks; what
is barred there goes with the run before it. -/
def joiningRuns : List (Run Joining) := Run.ofLines Joining.ofWord joiningTable

def joining (c : Char) : Joining :=
  match mark? c with
  | some m => if m.isTransparent then .transparent else .never
  | none =>
      match Run.find? joiningRuns c.toNat with
      | some (j, _) => j
      | none => .never

/-- Whether a character joins with the one after it. -/
def Joining.isOpenAfter (j : Joining) : Bool := j == .after || j == .both

/-- Whether a character joins with the one before it. -/
def Joining.isOpenBefore (j : Joining) : Bool := j == .before || j == .both

end HeaderRelay.Unicode
