import HeaderRelay.Unicode.Marks

set_option autoImplicit false

namespace HeaderRelay.Unicode

/-- The directions of characters, and of characters without one of their own. -/
inductive Direction
  | leftToRight
  | rightToLeft
  | arabicNumber
  | europeanNumber
  | neutral
  /-- That of the character before. -/
  | inherited
  deriving DecidableEq, Repr

/-- The runs of directions, of which `n` is neutral. -/
def directionTable : List String :=
  ["48n 10e 39n 26l 100n 24l 1n 449l 2n 7l 14n 2l 28n 1l 130n 4l 2n 127l 2n 402l 52n 72r 2n 1r 2n",
    "1r 1n 1r 13n 69r 10a 1n 2a 113r 7n 4r 5n 2r 10e 252r 4n 266r 238l 2n 7l 1n 245l 8n 250l 18n",
    "115l 7n 448l 1n 250l 6n 1104l 16n 96l 1n 666l 5n 315l 1n 20l 32n 304l 6n 152l 34n 1548l 322n",
    "60l 428n 69l 26n 1l 790n 1l 339n 256l 816n 181l 7n 13l 7n 256l 517n 3l 25n 15l 1n 6l 4n 2l 4n",
    "95l 1n 90l 1n 196l 48n 7120l 64n 22160l 64n 317l 3n 99l 14n 127l 35n 101l 1n 159l 8n 8l 8n 52l",
    "14n 744l 86n 20466l 17r 688n 394r 3n 257l 1n 62l 77n 3l 64n 273l 31e 1280l 287r 1n 537r 7n",
    "496r 26a 36r 1n 241r 32a 80r 48n 259r 79l 20n 1530l 32n 2389l 42n 20451l 1n 23581l 848n 665l",
    "215n 64l 96n 3999l 465n 816l 1776r 608n 29l 3n 61l 57n 122l 3488n 983040l"]

def Direction.ofWord : List Char → Direction
  | ['l'] => .leftToRight
  | ['r'] => .rightToLeft
  | ['a'] => .arabicNumber
  | ['e'] => .europeanNumber
  | _ => .neutral

/-- The runs of directions among the characters that may stand in a domain and are no marks; what
is barred there goes with the run before it. -/
def directionRuns : List (Run Direction) := Run.ofLines Direction.ofWord directionTable

def direction (c : Char) : Direction :=
  match mark? c with
  | some m => if m.followsDirection then .inherited else .leftToRight
  | none =>
      match Run.find? directionRuns c.toNat with
      | some (d, _) => d
      | none => .neutral

end HeaderRelay.Unicode
