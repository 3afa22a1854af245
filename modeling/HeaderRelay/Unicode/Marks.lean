import HeaderRelay.Unicode.Runs

set_option autoImplicit false

namespace HeaderRelay.Unicode

structure Mark where
  /-- Its class. -/
  combining : Nat
  /-- Whether it takes the direction of the character before it. -/
  followsDirection : Bool
  /-- Whether characters join over it. -/
  isTransparent : Bool
  deriving DecidableEq, Repr

/-- The runs of marks: `m` for those that take room of no kind, `s` for those that do, `t` for those
that only let characters join; the class stands behind. -/
def markTable : List String :=
  ["768 21m230 1m232 4m220 1m232 1m216 5m220 2m202 4m220 2m202 11m220 5m1 4m220 10m230 3m220 3m230",
    "3m220 3m230 4m220 1m230 1m232 2m220 1m230 1m233 2m234 1m233 2m234 1m233 14m230 274 5m230 3m",
    "262 1m220 4m230 1m220 3m230 1m222 1m220 6m230 6m220 2m230 1m220 2m230 1m222 1m228 1m230 1m10",
    "1m11 1m12 1m13 1m14 1m15 1m16 1m17 1m18 2m19 1m20 1m21 1m22 1 1m23 1 1m24 1m25 1 1m230 1m220 1",
    "9m18 64 8m230 1m30 1m31 1m32 48 1m27 1m28 1m29 1m30 1m31 1m32 1m33 1m34 2m230 2m220 5m230",
    "1m220 2m230 1m220 16 1m35 101 8m230 1 4m230 1m220 1m230 2 2m230 1 1m220 2m230 1m220 35 1m36 30",
    "1m230 1m220 2m230 1m220 2m230 3m220 1m230 2m220 1m230 1m220 3m230 1m220 1m230 1m220 1m230",
    "1m220 1m230 1m220 4m230 89 11m 58 7m230 1m220 1m230 9 1m220 24 4m230 1 9m230 1 3m230 1 7m230",
    "41 5m220 57 2m230 3m220 4m230 42 5m230 5m220 15m230 1m220 2m230 1m220 2m230 1m220 3m230 3m220",
    "1m27 1m28 1m29 3m230 1m220 2m230 2m220 5m230 3m 1s 54 1m 1s 1m7 1 3s 8m 4s 1m9 2s 1 1m230",
    "1m220 2m230 11m 2 2m 29 1m 3s 55 1m7 1 3s 6m 6s 1m9 9 9s 2 4m 24 3m230 2m 2s 55 2m7 3s 12m 4m9",
    "11m 20 2m 3 1m 11 2m 2s 55 1m7 1 3s 8m 4s 3m9 18 4m 20 8m 3s 55 1m7 1 1s 1m 1s 6m 6s 8m9 2m 8s",
    "3 4m 28 1m 59 2s 1m 12s 3m9 7 15s 26 1m 3s 1m 55 1m7 1 3m 5s 7m 8m9 1m84 2m91 10 4m 27 1m 2s",
    "56 1m7 1 1s 1t 6s 1t 5s 1m 8m9 7s 6 4m 13 13s 2m 2s 55 2m9 1 3s 5m 7s 1m9 9 1s 10 4m 27 1m 3s",
    "69 5m9 3s 6m 14s 12 2s 61 1m 2 4m 2m103 5m9 8 1m 4m107 3m 98 1m 2 4m 2m118 1m9 2m 11 4m122 4m",
    "72 2m220 27 1m220 1 1m220 1 1m216 4 2s 49 1m129 2m130 6m132 4m130 1m 1s 2m130 2m230 1m9 1",
    "2m230 5 49m 8 1m220 100 2s 4m 1s 5m 1m7 1s 2m9 2s 2m 23 2s 2m 4 3m 1 3s 2 7s 3 4m 13 1m 2s 2m",
    "6s 1m220 1 1s 10 3s 1m 703 3m230 946 2m 1m9 10s9 19 2m 1s9 29 14m 18 14m 54 1s 7m 8s 1m 2s 9m",
    "1m9 1m 9 3m230 165 2m 34 1m228 118 3m 4s 2m 9s 1m 6s 1m222 1m230 5m220 215 1m230 1m220 2s 3m",
    "55 1s 1m 1s 8m 1m9 1s 1m 2s 8m 6s 2m 10m230 1m220 48 5m230 6m220 2m230 1m220 1m 2m220 2m230",
    "2m220 5m230 1m220 18m230 3m220 6m230 1m220 4m230 21m234 4m 1s 47 1m7 1s 5m 1s 1m 5s 1m 1s 1s9",
    "38 1m230 1m220 7m230 12 2m 1s 30 1s 4m 2s 2m 1s9 1m9 2m 56 1m7 1s 2m 3s 1m 1s 3m 10s9 40 8s 8m",
    "2s 1m 4m7 149 3m230 1 1m1 5m220 2m230 4m220 1m230 1s 7m1 4 1m220 6 1m230 2 1s 2m230 198 2m230",
    "1m220 7m230 1m220 2m230 1m234 1m214 1m220 1m202 37m230 1m232 2m228 1m220 1m218 1m230 1m233",
    "1m220 1m230 2m220 719 2m230 2m1 4m230 3m1 2m230 4m 1m230 3m 2m1 1m230 1m220 1m230 2m1 4m220",
    "20m230 3051 4m230 140 1m9 96 32m230 554 1m218 1m228 1m232 1m222 2s224 105 4m8 30162 1m230 3m 1",
    "10m230 32 2m230 80 2m230 272 1m 3 1m9 4 1m 23 2s 2m 1s 4 4m9 80 2s 50 16s 1m9 9m 18 18m230 13",
    "1m 38 5m 3m220 25 11m 1s 12s9 33 3m 1s 47 1m7 2s 4m 2s 2m 2s 1s9 36 1m 67 6m 2s 2m 2s 11m 3 1m",
    "8 1m 3s 43 1s 1m 1s 50 1m230 1 2m230 1m220 2 2m230 5 2m230 1 1m230 41 1s 2m 2s 5 1s 11m9 226",
    "2s 1m 2s 1m 2s 1 1s 3m9 20270 148m26 622 7m230 7m220 23m230 952 131m220 96 1m220 149 10m230",
    "1665 12m 1m220 1m 1m230 40 1m230 1m1 5m220 1m9 165 1m230 5m220 569 12m230 57 5m230 317 2m230",
    "77 2m220 1m 3m220 70 2m220 3m230 1m220 1m230 4m220 49 1m230 1m220 1m230 1m220 122 1s 1m 1s 53",
    "14m 1m9 41 1m9 2 2m 10 1m9 2m 1s 45 3s 4m 2s 1m9 1m7 7 14m 48 3m230 36 5m 1s 6m 3m9 15 2s 44",
    "1m7 12 2m 1s 48 3s 9m 1s 1s9 8 1m 1m7 2m 1 1s 1m 92 3s 3m 2s 1m 1s9 1m7 1m 6 1m 2 63m 95 1m 3s",
    "6m 1m7 6m9 16 2m 3s 54 2m7 1 2s 1m 12s 3s9 7 6s 5 4s 26m230 56 3s 7m 12s 1m9 1s9 1m9 1 1m 14",
    "31m 53 3s 8m 2s 1m9 2m 1s 1m7 23 1m230 81 3s 6m 1s 1m 4s 2m 1s 1m9 1m7 235 3s 6m 4s 2m 1s 1m9",
    "1m7 27 36m 48 3s 8m 2s 1m 1s 1m9 1m 106 1m 1s 1m 2s 6m 1s9 1m7 101 1m 1s 1m 2s 4m 1s 4m 5m9",
    "252 3s 9m 1s 1m9 1m7 245 11s 2m 1s9 1m9 1 1s 1 1s 1m7 141 3s 8m 4s 1m9 3 28s 1 6m 2t 2m 40 1m",
    "1m9 4m 1s 1 4m 8 9m9 1 6m 2s 3m 46 13m 1s 1m 1m9 198 1m 1s 3m 1s 1m 89s 111 1s 14m 1s 1t9 82",
    "23m 1s 7m 1s 2m 1s 75m 49 17m 1m7 1m 2m9 1 9m 58 6s 3m 2s 1m 1s 1m9 347 2m 2s 9 2m 1 1s 48 2s",
    "8m 2s 1m 1s9 1m9 23 86m 5264 1m 6 25m 11454 12m 3s 2m 1m9 2496 5m1 59 7m230 1048 1m 1 62s 4m",
    "81 12m 2s6 19627 1m 1m1 4705 80m 533 2s216 3m1 3 1s226 13s216 8m220 2 5m230 2m220 30 4m230 148",
    "3m230 1979 55m 4 50m 8 1m 14 1m 22 1125m 256 256m230 48 7m230 375 18m230 44 4m230 508 2m232",
    "1m220 1m230 254 1m230 1m220 243 1m230 2 1m230 7 2m230 5 9m230 466 82m220 34 6m230 1m7 988853"]

/-- Reads a word of the table; an empty one stands for no mark. -/
def Mark.ofWord? : List Char → Option Mark
  | 'm' :: ds => some ⟨Decimal.value ds, true, true⟩
  | 's' :: ds => some ⟨Decimal.value ds, false, false⟩
  | 't' :: ds => some ⟨Decimal.value ds, false, true⟩
  | _ => none

/-- The runs of marks among the characters that may stand in a domain; what is barred there goes
with the run before it. -/
def markRuns : List (Run (Option Mark)) := Run.ofLines Mark.ofWord? markTable

def mark? (c : Char) : Option Mark :=
  if c.toNat < 0x80 then none else (Run.find? markRuns c.toNat).bind (·.1)

/-- The class of a character; zero for what is no mark. -/
def combiningClass (c : Char) : Nat :=
  match mark? c with
  | some m => m.combining
  | none => 0

/-- The class of the marks that silence a vowel. -/
def viramaClass : Nat := 9

end HeaderRelay.Unicode
