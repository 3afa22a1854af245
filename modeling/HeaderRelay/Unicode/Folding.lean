import HeaderRelay.Unicode.Composition

set_option autoImplicit false

namespace HeaderRelay.Unicode

/-- What holds of the characters of a run. -/
inductive Fold
  /-- They stand for themselves. -/
  | same
  | barred
  | nothing
  /-- The first of two neighbours stands for the second, in turn. -/
  | turns
  /-- They stand for those that are so much further on. -/
  | up (distance : Nat)
  /-- They stand for those that are so much further back. -/
  | down (distance : Nat)
  /-- Each stands for these characters. -/
  | text (cs : List Char)
  deriving DecidableEq, Repr

/-- The runs: `v` for the same, `x` for barred, `i` for nothing, `p` for turns, `u` and `d` for a
distance up and down, and an equals sign before the numbers of characters. -/
def foldTable : List String :=
  ["65v 26u32 37v 32x 1=20 7v 1=20+308 1v 1=61 2v 1i 1v 1=20+304 2v 2d128 1=20+301 1=3bc 2v",
    "1=20+327 1=31 1=6f 1v 1=31+2044+34 1=31+2044+32 1=33+2044+34 1v 23u32 1v 7u32 33v 48p 1=69+307",
    "1v 2=69+6a 4p 1v 6p 2=6c+b7 8p 1=2bc+6e 46p 1=ff 6p 1=73 1v 1=253 4p 1=254 1u1 1v 2u205 1u1 2v",
    "1u79 1=259 1=25b 1u1 1v 1=260 1=263 1v 1=269 1=268 1u1 3v 1=26f 1=272 1v 1=275 6p 1=280 1u1 1v",
    "1=283 2v 1u1 1v 1=288 1u1 1v 2u217 4p 1=292 1u1 3v 1u1 7v 3=64+17e 3=6c+6a 3=6e+6a 16p 1v 18p",
    "1v 3=64+7a 1u1 1v 1d97 1d56 40p 1=19e 1v 18p 6v 1=2c65 1u1 1v 1=19a 1=2c66 2v 1u1 1v 1=180",
    "1u69 1u71 10p 96v 1=68 1d75 1=6a 1=72 1d59 1d58 1d53 1=77 1=79 31v 1=20+306 1=20+307 1=20+30a",
    "1=20+328 1=20+303 1=20+30b 2v 1=263 1=6c 1=73 1=78 1d79 91v 2d64 1v 1d48 1=308+301 1=3b9 9v 1i",
    "32v 4p 1=2b9 1v 1u1 1v 2x 1=20+3b9 3v 1=3b 1=3f3 4x 1=20+301 1=20+308+301 1u38 1=b7 3u37 1x",
    "1u64 1x 2u63 1v 17u32 1x 9u32 35v 1u8 1d30 1d25 1d13 1d6 1d9 1d15 1d22 1v 24p 1d54 1d48 1d47",
    "1v 1d60 1d64 1v 1u1 1v 1d54 1u1 2v 3d130 16u80 32u32 48v 34p 8v 54p 1u15 14p 1v 96p 1x 38u48",
    "2x 46v 1=565+582 3v 2x 3v 1x 55v 8x 27v 4x 6v 17x 22v 1x 88v 1=627+674 1=648+674 1=6c7+674",
    "1=64a+674 100v 1x 48v 2x 59v 2x 101v 14x 59v 2x 49v 2x 15v 1x 28v 2x 1v 1x 11v 5x 32v 7x 75v",
    "1x 117v 1=915+93c 1=916+93c 1=917+93c 1=91c+93c 1=921+93c 1=922+93c 1=92b+93c 1=92f+93c 36v 1x",
    "8v 2x 2v 2x 22v 1x 7v 1x 1v 3x 4v 2x 9v 2x 2v 2x 4v 8x 1v 4x 1=9a1+9bc 1=9a2+9bc 1x 1=9af+9bc",
    "4v 2x 25v 2x 3v 1x 6v 4x 2v 2x 22v 1x 7v 1x 1v 1=a32+a3c 1x 1v 1=a38+a3c 1x 2v 2x 1v 1x 5v 4x",
    "2v 2x 3v 3x 1v 7x 1=a16+a3c 1=a17+a3c 1=a1c+a3c 1v 1x 1=a2b+a3c 7x 17v 10x 3v 1x 9v 1x 3v 1x",
    "22v 1x 7v 1x 2v 1x 5v 2x 10v 1x 3v 1x 3v 2x 1v 15x 4v 2x 12v 7x 7v 1x 3v 1x 8v 2x 2v 2x 22v 1x",
    "7v 1x 2v 1x 5v 2x 9v 2x 2v 2x 3v 7x 3v 4x 1=b21+b3c 1=b22+b3c 1x 5v 2x 18v 10x 2v 1x 6v 3x 3v",
    "1x 4v 3x 2v 1x 1v 1x 2v 3x 2v 3x 3v 3x 12v 4x 5v 3x 3v 1x 4v 2x 1v 6x 1v 14x 21v 5x 13v 1x 3v",
    "1x 23v 1x 16v 2x 9v 1x 3v 1x 4v 7x 2v 1x 3v 1x 2v 2x 4v 2x 10v 7x 22v 1x 3v 1x 23v 1x 10v 1x",
    "5v 2x 9v 1x 3v 1x 4v 7x 2v 5x 3v 1x 4v 2x 10v 1x 3v 12x 13v 1x 3v 1x 51v 1x 3v 1x 6v 4x 16v 2x",
    "26v 1x 3v 1x 18v 3x 24v 1x 9v 1x 1v 2x 7v 3x 1v 4x 6v 1x 1v 1x 8v 6x 10v 2x 3v 12x 50v",
    "1=e4d+e32 7v 4x 29v 37x 2v 1x 1v 1x 5v 1x 24v 1x 1v 1x 12v 1=ecd+eb2 10v 2x 5v 1x 1v 1x 7v 1x",
    "10v 2x 1=eab+e99 1=eab+ea1 2v 32x 12v 1d1 54v 1=f42+fb7 4v 1x 4v 1=f4c+fb7 4v 1=f51+fb7 4v",
    "1=f56+fb7 4v 1=f5b+fb7 12v 1=f40+fb5 3v 4x 2v 1=f71+f72 1v 1=f71+f74 1=fb2+f80 1=fb2+f71+f80",
    "1=fb3+f80 1=fb3+f71+f80 7v 1=f71+f80 17v 1=f92+fb7 4v 1x 4v 1=f9c+fb7 4v 1=fa1+fb7 4v",
    "1=fa6+fb7 4v 1=fab+fb7 12v 1=f90+fb5 3v 1x 15v 1x 13v 37x 160v 38u7264 1x 1=2d27 5x 1=2d2d 2x",
    "44v 1d32 98v 2i 232v 1x 4v 2x 7v 1x 1v 1x 4v 2x 41v 1x 4v 2x 33v 1x 4v 2x 7v 1x 1v 1x 4v 2x",
    "15v 1x 57v 1x 4v 2x 67v 2x 32v 3x 26v 6x 86v 2x 6d8 2x 640v 1x 28v 3x 89v 7x 22v 9x 24v 9x 20v",
    "12x 13v 1x 3v 1x 2v 12x 52v 2i 40v 2x 10v 6x 10v 6x 11v 5i 10v 6x 89v 7x 43v 5x 70v 10x 31v 1x",
    "12v 4x 12v 4x 1v 3x 42v 2x 5v 11x 44v 4x 26v 6x 11v 3x 62v 2x 65v 1x 29v 2x 11v 6x 10v 6x 14v",
    "2x 46v 2x 12v 20x 77v 1x 166v 8x 60v 3x 15v 3x 51v 1=432 1=434 1=43e 2d6210 1=442 1=44a 1=463",
    "1=a64b 1u1 1v 5x 43d3008 2x 3d3008 8v 8x 43v 5x 44v 1=61 1=e6 1=62 1v 2d7372 1=1dd 8d7372 1v",
    "1=6f 1=223 1=70 1=72 2d7372 1=77 1=61 2d6900 1d68 1=62 2d7396 1=259 2d6896 1=67 1v 1=6b 1=6d",
    "1=14b 1=6f 1=254 2d62 1=70 2d7395 1d60 1=26f 1=76 1d55 3d6571 2d6554 1=69 1=72 2d7407 2d6580",
    "1=3c1 2d6563 13v 1=43d 34v 1=252 1=63 1=255 1=f0 1=25c 1=66 1=25f 1=261 1=265 3d6972 1d44",
    "1=29d 1=26d 1d37 1=29f 1=271 1=270 4d6972 1=278 2d6961 1=1ab 2d6957 1d156 2d6958 1=7a 3d6956",
    "1=3b8 64v 150p 4v 1=61+2be 1d58 2v 1=df 1v 96p 8v 8d8 6v 2x 6d8 2x 8v 8d8 8v 8d8 6v 2x 6d8 2x",
    "8v 1x 1d8 1x 1d8 1x 1d8 1x 1d8 8v 8d8 1v 1=3ac 1v 1=3ad 1v 1=3ae 1v 1=3af 1v 1=3cc 1v 1=3cd 1v",
    "1=3ce 2x 1=1f00+3b9 1=1f01+3b9 1=1f02+3b9 1=1f03+3b9 1=1f04+3b9 1=1f05+3b9 1=1f06+3b9",
    "1=1f07+3b9 1=1f00+3b9 1=1f01+3b9 1=1f02+3b9 1=1f03+3b9 1=1f04+3b9 1=1f05+3b9 1=1f06+3b9",
    "1=1f07+3b9 1=1f20+3b9 1=1f21+3b9 1=1f22+3b9 1=1f23+3b9 1=1f24+3b9 1=1f25+3b9 1=1f26+3b9",
    "1=1f27+3b9 1=1f20+3b9 1=1f21+3b9 1=1f22+3b9 1=1f23+3b9 1=1f24+3b9 1=1f25+3b9 1=1f26+3b9",
    "1=1f27+3b9 1=1f60+3b9 1=1f61+3b9 1=1f62+3b9 1=1f63+3b9 1=1f64+3b9 1=1f65+3b9 1=1f66+3b9",
    "1=1f67+3b9 1=1f60+3b9 1=1f61+3b9 1=1f62+3b9 1=1f63+3b9 1=1f64+3b9 1=1f65+3b9 1=1f66+3b9",
    "1=1f67+3b9 2v 1=1f70+3b9 1=3b1+3b9 1=3ac+3b9 1x 1v 1=1fb6+3b9 2d8 1d74 1=3ac 1=3b1+3b9",
    "1=20+313 1=3b9 1=20+313 1=20+342 1=20+308+342 1=1f74+3b9 1=3b7+3b9 1=3ae+3b9 1x 1v 1=1fc6+3b9",
    "1d86 1=3ad 1d86 1=3ae 1=3b7+3b9 1=20+313+300 1=20+313+301 1=20+313+342 3v 1=390 2x 2v 2d8",
    "1d100 1=3af 1x 1=20+314+300 1=20+314+301 1=20+314+342 3v 1=3b0 4v 2d8 1d112 1=3cd 1d7",
    "1=20+308+300 1=20+308+301 1=60 2x 1=1f7c+3b9 1=3c9+3b9 1=3ce+3b9 1x 1v 1=1ff6+3b9 1d128 1=3cc",
    "1d126 1=3ce 1=3c9+3b9 1=20+301 1=20+314 1x 1=20 1=20 1=20 1=20 1=20 1=20 1=20 1=20 1=20 1=20",
    "1=20 1i 2v 2x 1v 1d1 5v 1=20+333 12v 3x 1v 7x 1=20 3v 1=2032+2032 1=2032+2032+2032 1v",
    "1=2035+2035 1=2035+2035+2035 4v 1=21+21 1v 1=20+305 8v 1=3f+3f 1=3f+21 1=21+3f 13v",
    "1=2032+2032+2032+2032 7v 1=20 5i 5x 6i 1=30 1=69 2x 6d8256 1=2b 1u407 1=3d 2d8277 1=6e 10d8272",
    "1=2b 1u391 1=3d 2d8293 1x 1=61 1=65 1=6f 1=78 1=259 1=68 4d8235 1=70 2d8232 3x 8v 1=72+73 25v",
    "14x 33v 15x 1=61+2f+63 1=61+2f+73 1=63 1=b0+63 1v 1=63+2f+6f 1=63+2f+75 1=25b 1v 1=b0+66",
    "2d8355 1=68 1=68 1=68 1=127 1=69 1=69 1=6c 1=6c 1v 1=6e 1=6e+6f 2v 3d8361 1=72 1=72 2v 1=73+6d",
    "1=74+65+6c 1=74+6d 1v 1=7a 1v 1=3c9 1v 1=7a 1v 1=6b 1=e5 2d8394 1v 1=65 2d8395 1u28 1=6d 1=6f",
    "4d7013 1=69 1v 1=66+61+78 1=3c0 1=3b3 1=3b3 1=3c0 1u209 4v 1=64 2d8418 2d8415 6v 1=31+2044+37",
    "1=31+2044+39 1=31+2044+31+30 1=31+2044+33 1=32+2044+33 1=31+2044+35 1=32+2044+35 1=33+2044+35",
    "1=34+2044+35 1=31+2044+36 1=35+2044+36 1=31+2044+38 1=33+2044+38 1=35+2044+38 1=37+2044+38",
    "1=31+2044 1=69 1=69+69 1=69+69+69 1=69+76 1=76 1=76+69 1=76+69+69 1=76+69+69+69 1=69+78 1=78",
    "1=78+69 1=78+69+69 1=6c 2d8458 1=6d 1=69 1=69+69 1=69+69+69 1=69+76 1=76 1=76+69 1=76+69+69",
    "1=76+69+69+69 1=69+78 1=78 1=78+69 1=78+69+69 1=6c 2d8474 1=6d 3v 1u1 5v 1=30+2044+33 2v 4x",
    "156v 1=222b+222b 1=222b+222b+222b 1v 1=222e+222e 1=222e+222e+222e 248v 2u3295 255v 22x 11v 21x",
    "9d9263 1=31+30 1=31+31 1=31+32 1=31+33 1=31+34 1=31+35 1=31+36 1=31+37 1=31+38 1=31+39 1=32+30",
    "1=28+31+29 1=28+32+29 1=28+33+29 1=28+34+29 1=28+35+29 1=28+36+29 1=28+37+29 1=28+38+29",
    "1=28+39+29 1=28+31+30+29 1=28+31+31+29 1=28+31+32+29 1=28+31+33+29 1=28+31+34+29 1=28+31+35+29",
    "1=28+31+36+29 1=28+31+37+29 1=28+31+38+29 1=28+31+39+29 1=28+32+30+29 20x 1=28+61+29",
    "1=28+62+29 1=28+63+29 1=28+64+29 1=28+65+29 1=28+66+29 1=28+67+29 1=28+68+29 1=28+69+29",
    "1=28+6a+29 1=28+6b+29 1=28+6c+29 1=28+6d+29 1=28+6e+29 1=28+6f+29 1=28+70+29 1=28+71+29",
    "1=28+72+29 1=28+73+29 1=28+74+29 1=28+75+29 1=28+76+29 1=28+77+29 1=28+78+29 1=28+79+29",
    "1=28+7a+29 26d9301 26d9327 1=30 1313v 1=222b+222b+222b+222b 103v 1=3a+3a+3d 1=3d+3d 1=3d+3d+3d",
    "101v 1=2add+338 151v 2x 138v 48u48 48v 1u1 1v 1=26b 1=1d7d 1=27d 2v 6p 1=251 1=271 1=250 1=252",
    "1v 1u1 2v 1u1 6v 1=6a 1=76 2d10815 100p 7v 4p 3v 1u1 1v 5x 45v 1x 1v 5x 1v 2x 56v 7x 1d14 1v",
    "14x 24v 9x 7v 1x 7v 1x 7v 1x 7v 1x 7v 1x 7v 1x 7v 1x 7v 1x 126v 34x 26v 1x 4v 1=6bcd 83v",
    "1=9f9f 12x 1=4e00 1=4e28 1=4e36 1=4e3f 1=4e59 1=4e85 1=4e8c 1=4ea0 1=4eba 1=513f 1=5165 1=516b",
    "1=5182 1=5196 1=51ab 1=51e0 1=51f5 1=5200 1=529b 1=52f9 1=5315 1=531a 1=5338 1=5341 1=535c",
    "1=5369 1=5382 1=53b6 1=53c8 1=53e3 1=56d7 1=571f 1=58eb 1=5902 1=590a 1=5915 1=5927 1=5973",
    "1=5b50 1=5b80 1=5bf8 1=5c0f 1=5c22 1=5c38 1=5c6e 1=5c71 1=5ddb 1=5de5 1=5df1 1=5dfe 1=5e72",
    "1=5e7a 1=5e7f 1=5ef4 1=5efe 1=5f0b 1=5f13 1=5f50 1=5f61 1=5f73 1=5fc3 1=6208 1=6236 1=624b",
    "1=652f 1=6534 1=6587 1=6597 1=65a4 1=65b9 1=65e0 1=65e5 1=66f0 1=6708 1=6728 1=6b20 1=6b62",
    "1=6b79 1=6bb3 1=6bcb 1=6bd4 1=6bdb 1=6c0f 1=6c14 1=6c34 1=706b 1=722a 1=7236 1=723b 1=723f",
    "1=7247 1=7259 1=725b 1=72ac 1=7384 1=7389 1=74dc 1=74e6 1=7518 1=751f 1=7528 1=7530 1=758b",
    "1=7592 1=7676 1=767d 1=76ae 1=76bf 1=76ee 1=77db 1=77e2 1=77f3 1=793a 1=79b8 1=79be 1=7a74",
    "1=7acb 1=7af9 1=7c73 1=7cf8 1=7f36 1=7f51 1=7f8a 1=7fbd 1=8001 1=800c 1=8012 1=8033 1=807f",
    "1=8089 1=81e3 1=81ea 1=81f3 1=81fc 1=820c 1=821b 1=821f 1=826e 1=8272 1=8278 1=864d 1=866b",
    "1=8840 1=884c 1=8863 1=897e 1=898b 1=89d2 1=8a00 1=8c37 1=8c46 1=8c55 1=8c78 1=8c9d 1=8d64",
    "1=8d70 1=8db3 1=8eab 1=8eca 1=8f9b 1=8fb0 1=8fb5 1=9091 1=9149 1=91c6 1=91cc 1=91d1 1=9577",
    "1=9580 1=961c 1=96b6 1=96b9 1=96e8 1=9751 1=975e 1=9762 1=9769 1=97cb 1=97ed 1=97f3 1=9801",
    "1=98a8 1=98db 1=98df 1=9996 1=9999 1=99ac 1=9aa8 1=9ad8 1=9adf 1=9b25 1=9b2f 1=9b32 1=9b3c",
    "1=9b5a 1=9ce5 1=9e75 1=9e7f 1=9ea5 1=9ebb 1=9ec3 1=9ecd 1=9ed1 1=9ef9 1=9efd 1=9f0e 1=9f13",
    "1=9f20 1=9f3b 1=9f4a 1=9f52 1=9f8d 1=9f9c 1=9fa0 42x 1=20 1v 1=2e 51v 1d36 1v 1=5341 2u8971 5v",
    "1x 86v 2x 2v 1=20+3099 1=20+309a 2v 1=3088+308a 95v 1=30b3+30c8 5x 43v 1x 2d8241 1=11aa 1=1102",
    "2d8073 3d8244 6d8074 1=111a 3d8251 1=1121 10d8252 21d8174 1i 2d8273 2d8096 1=11cc 1=11ce",
    "1=11d3 1=11d7 1=11d9 1=111c 1=11dd 1=11df 2d8276 1=1120 2d8274 1=1127 1=1129 5d8269 1=1132",
    "1=1136 1=1140 1=1147 1=114c 2d8081 3d8237 2d8195 1=1188 2d8185 1=1194 1=119e 1=11a1 1x 2v",
    "1=4e00 1=4e8c 1=4e09 1=56db 1=4e0a 1=4e2d 1=4e0b 1=7532 1=4e59 1=4e19 1=4e01 1=5929 1=5730",
    "1=4eba 70v 10x 16v 1=28+1100+29 1=28+1102+29 1=28+1103+29 1=28+1105+29 1=28+1106+29",
    "1=28+1107+29 1=28+1109+29 1=28+110b+29 1=28+110c+29 1=28+110e+29 1=28+110f+29 1=28+1110+29",
    "1=28+1111+29 1=28+1112+29 1=28+ac00+29 1=28+b098+29 1=28+b2e4+29 1=28+b77c+29 1=28+b9c8+29",
    "1=28+bc14+29 1=28+c0ac+29 1=28+c544+29 1=28+c790+29 1=28+cc28+29 1=28+ce74+29 1=28+d0c0+29",
    "1=28+d30c+29 1=28+d558+29 1=28+c8fc+29 1=28+c624+c804+29 1=28+c624+d6c4+29 1x 1=28+4e00+29",
    "1=28+4e8c+29 1=28+4e09+29 1=28+56db+29 1=28+4e94+29 1=28+516d+29 1=28+4e03+29 1=28+516b+29",
    "1=28+4e5d+29 1=28+5341+29 1=28+6708+29 1=28+706b+29 1=28+6c34+29 1=28+6728+29 1=28+91d1+29",
    "1=28+571f+29 1=28+65e5+29 1=28+682a+29 1=28+6709+29 1=28+793e+29 1=28+540d+29 1=28+7279+29",
    "1=28+8ca1+29 1=28+795d+29 1=28+52b4+29 1=28+4ee3+29 1=28+547c+29 1=28+5b66+29 1=28+76e3+29",
    "1=28+4f01+29 1=28+8cc7+29 1=28+5354+29 1=28+796d+29 1=28+4f11+29 1=28+81ea+29 1=28+81f3+29",
    "1=554f 1=5e7c 1=6587 1=7b8f 8v 1=70+74+65 1=32+31 1=32+32 1=32+33 1=32+34 1=32+35 1=32+36",
    "1=32+37 1=32+38 1=32+39 1=33+30 1=33+31 1=33+32 1=33+33 1=33+34 1=33+35 1=1100 2d8543 3d8542",
    "1=1109 2d8540 5d8539 1=ac00 1=b098 1=b2e4 1=b77c 1=b9c8 1=bc14 1=c0ac 1=c544 1=c790 1=cc28",
    "1=ce74 1=d0c0 1=d30c 1=d558 1=cc38+ace0 1=c8fc+c758 1=c6b0 1v 1=4e00 1=4e8c 1=4e09 1=56db",
    "1=4e94 1=516d 1=4e03 1=516b 1=4e5d 1=5341 1=6708 1=706b 1=6c34 1=6728 1=91d1 1=571f 1=65e5",
    "1=682a 1=6709 1=793e 1=540d 1=7279 1=8ca1 1=795d 1=52b4 1=79d8 1=7537 1=5973 1=9069 1=512a",
    "1=5370 1=6ce8 1=9805 1=4f11 1=5199 1=6b63 1=4e0a 1=4e2d 1=4e0b 1=5de6 1=53f3 1=533b 1=5b97",
    "1=5b66 1=76e3 1=4f01 1=8cc7 1=5354 1=591c 1=33+36 1=33+37 1=33+38 1=33+39 1=34+30 1=34+31",
    "1=34+32 1=34+33 1=34+34 1=34+35 1=34+36 1=34+37 1=34+38 1=34+39 1=35+30 1=31+6708 1=32+6708",
    "1=33+6708 1=34+6708 1=35+6708 1=36+6708 1=37+6708 1=38+6708 1=39+6708 1=31+30+6708",
    "1=31+31+6708 1=31+32+6708 1=68+67 1=65+72+67 1=65+76 1=6c+74+64 1d558 1d557 1d556 1d555 2d554",
    "1d553 1d552 1d551 1d550 1d549 1d548 1d547 1d546 1d545 1d544 1d543 1d541 1d540 1d539 6d538",
    "1d536 1d534 1d532 1d530 5d528 1d527 1d526 6d525 4d524 1=4ee4+548c 1=30a2+30d1+30fc+30c8",
    "1=30a2+30eb+30d5+30a1 1=30a2+30f3+30da+30a2 1=30a2+30fc+30eb 1=30a4+30cb+30f3+30b0",
    "1=30a4+30f3+30c1 1=30a6+30a9+30f3 1=30a8+30b9+30af+30fc+30c9 1=30a8+30fc+30ab+30fc",
    "1=30aa+30f3+30b9 1=30aa+30fc+30e0 1=30ab+30a4+30ea 1=30ab+30e9+30c3+30c8 1=30ab+30ed+30ea+30fc",
    "1=30ac+30ed+30f3 1=30ac+30f3+30de 1=30ae+30ac 1=30ae+30cb+30fc 1=30ad+30e5+30ea+30fc",
    "1=30ae+30eb+30c0+30fc 1=30ad+30ed 1=30ad+30ed+30b0+30e9+30e0 1=30ad+30ed+30e1+30fc+30c8+30eb",
    "1=30ad+30ed+30ef+30c3+30c8 1=30b0+30e9+30e0 1=30b0+30e9+30e0+30c8+30f3",
    "1=30af+30eb+30bc+30a4+30ed 1=30af+30ed+30fc+30cd 1=30b1+30fc+30b9 1=30b3+30eb+30ca",
    "1=30b3+30fc+30dd 1=30b5+30a4+30af+30eb 1=30b5+30f3+30c1+30fc+30e0 1=30b7+30ea+30f3+30b0",
    "1=30bb+30f3+30c1 1=30bb+30f3+30c8 1=30c0+30fc+30b9 1=30c7+30b7 1=30c9+30eb 1=30c8+30f3",
    "1=30ca+30ce 1=30ce+30c3+30c8 1=30cf+30a4+30c4 1=30d1+30fc+30bb+30f3+30c8 1=30d1+30fc+30c4",
    "1=30d0+30fc+30ec+30eb 1=30d4+30a2+30b9+30c8+30eb 1=30d4+30af+30eb 1=30d4+30b3 1=30d3+30eb",
    "1=30d5+30a1+30e9+30c3+30c9 1=30d5+30a3+30fc+30c8 1=30d6+30c3+30b7+30a7+30eb 1=30d5+30e9+30f3",
    "1=30d8+30af+30bf+30fc+30eb 1=30da+30bd 1=30da+30cb+30d2 1=30d8+30eb+30c4 1=30da+30f3+30b9",
    "1=30da+30fc+30b8 1=30d9+30fc+30bf 1=30dd+30a4+30f3+30c8 1=30dc+30eb+30c8 1=30db+30f3",
    "1=30dd+30f3+30c9 1=30db+30fc+30eb 1=30db+30fc+30f3 1=30de+30a4+30af+30ed 1=30de+30a4+30eb",
    "1=30de+30c3+30cf 1=30de+30eb+30af 1=30de+30f3+30b7+30e7+30f3 1=30df+30af+30ed+30f3 1=30df+30ea",
    "1=30df+30ea+30d0+30fc+30eb 1=30e1+30ac 1=30e1+30ac+30c8+30f3 1=30e1+30fc+30c8+30eb",
    "1=30e4+30fc+30c9 1=30e4+30fc+30eb 1=30e6+30a2+30f3 1=30ea+30c3+30c8+30eb 1=30ea+30e9",
    "1=30eb+30d4+30fc 1=30eb+30fc+30d6+30eb 1=30ec+30e0 1=30ec+30f3+30c8+30b2+30f3 1=30ef+30c3+30c8",
    "1=30+70b9 1=31+70b9 1=32+70b9 1=33+70b9 1=34+70b9 1=35+70b9 1=36+70b9 1=37+70b9 1=38+70b9",
    "1=39+70b9 1=31+30+70b9 1=31+31+70b9 1=31+32+70b9 1=31+33+70b9 1=31+34+70b9 1=31+35+70b9",
    "1=31+36+70b9 1=31+37+70b9 1=31+38+70b9 1=31+39+70b9 1=32+30+70b9 1=32+31+70b9 1=32+32+70b9",
    "1=32+33+70b9 1=32+34+70b9 1=68+70+61 1=64+61 1=61+75 1=62+61+72 1=6f+76 1=70+63 1=64+6d",
    "1=64+6d+32 1=64+6d+33 1=69+75 1=5e73+6210 1=662d+548c 1=5927+6b63 1=660e+6cbb",
    "1=682a+5f0f+4f1a+793e 1=70+61 1=6e+61 1=3bc+61 1=6d+61 1=6b+61 1=6b+62 1=6d+62 1=67+62",
    "1=63+61+6c 1=6b+63+61+6c 1=70+66 1=6e+66 1=3bc+66 1=3bc+67 1=6d+67 1=6b+67 1=68+7a 1=6b+68+7a",
    "1=6d+68+7a 1=67+68+7a 1=74+68+7a 1=3bc+6c 1=6d+6c 1=64+6c 1=6b+6c 1=66+6d 1=6e+6d 1=3bc+6d",
    "1=6d+6d 1=63+6d 1=6b+6d 1=6d+6d+32 1=63+6d+32 1=6d+32 1=6b+6d+32 1=6d+6d+33 1=63+6d+33 1=6d+33",
    "1=6b+6d+33 1=6d+2215+73 1=6d+2215+73+32 1=70+61 1=6b+70+61 1=6d+70+61 1=67+70+61 1=72+61+64",
    "1=72+61+64+2215+73 1=72+61+64+2215+73+32 1=70+73 1=6e+73 1=3bc+73 1=6d+73 1=70+76 1=6e+76",
    "1=3bc+76 1=6d+76 1=6b+76 1=6d+76 1=70+77 1=6e+77 1=3bc+77 1=6d+77 1=6b+77 1=6d+77 1=6b+3c9",
    "1=6d+3c9 1x 1=62+71 1=63+63 1=63+64 1=63+2215+6b+67 1x 1=64+62 1=67+79 1=68+61 1=68+70 1=69+6e",
    "1=6b+6b 1=6b+6d 1=6b+74 1=6c+6d 1=6c+6e 1=6c+6f+67 1=6c+78 1=6d+62 1=6d+69+6c 1=6d+6f+6c",
    "1=70+68 1x 1=70+70+6d 1=70+72 1=73+72 1=73+76 1=77+62 1=76+2215+6d 1=61+2215+6d 1=31+65e5",
    "1=32+65e5 1=33+65e5 1=34+65e5 1=35+65e5 1=36+65e5 1=37+65e5 1=38+65e5 1=39+65e5 1=31+30+65e5",
    "1=31+31+65e5 1=31+32+65e5 1=31+33+65e5 1=31+34+65e5 1=31+35+65e5 1=31+36+65e5 1=31+37+65e5",
    "1=31+38+65e5 1=31+39+65e5 1=32+30+65e5 1=32+31+65e5 1=32+32+65e5 1=32+33+65e5 1=32+34+65e5",
    "1=32+35+65e5 1=32+36+65e5 1=32+37+65e5 1=32+38+65e5 1=32+39+65e5 1=33+30+65e5 1=33+31+65e5",
    "1=67+61+6c 28813v 3x 55v 9x 348v 20x 46p 18v 28p 1=44a 1=44c 90v 8x 34v 14p 2v 62p 1d1 8v 4p",
    "1=1d79 10p 3v 1u1 1v 1=265 2v 4p 2v 20p 1=266 1=25c 1=261 1=26c 1=26a 1v 1=29e 1=287 1=29d",
    "1u928 16p 1d48 1=282 1=1d8e 4p 1=264 16p 1=19b 20x 1=73 1=63 1=66 1=71 1u1 2v 1=127 1=153 51v",
    "3x 10v 6x 56v 8x 70v 8x 12v 6x 116v 11x 30v 3x 78v 1x 11v 4x 33v 1x 55v 9x 14v 2x 10v 2x 103v",
    "24x 28v 10x 6v 2x 6v 2x 6v 9x 7v 1x 7v 1x 44v 1=a727 1d38 1=26b 1d13 9v 1=28d 2v 4x 80d38864",
    "46v 2x 10v 6x 11172v 12x 23v 4x 49v 8452x 1=8c48 1=66f4 1=8eca 1=8cc8 1=6ed1 1=4e32 1=53e5",
    "1=9f9c 1=9f9c 1=5951 1=91d1 1=5587 1=5948 1=61f6 1=7669 1=7f85 1=863f 1=87ba 1=88f8 1=908f",
    "1=6a02 1=6d1b 1=70d9 1=73de 1=843d 1=916a 1=99f1 1=4e82 1=5375 1=6b04 1=721b 1=862d 1=9e1e",
    "1=5d50 1=6feb 1=85cd 1=8964 1=62c9 1=81d8 1=881f 1=5eca 1=6717 1=6d6a 1=72fc 1=90ce 1=4f86",
    "1=51b7 1=52de 1=64c4 1=6ad3 1=7210 1=76e7 1=8001 1=8606 1=865c 1=8def 1=9732 1=9b6f 1=9dfa",
    "1=788c 1=797f 1=7da0 1=83c9 1=9304 1=9e7f 1=8ad6 1=58df 1=5f04 1=7c60 1=807e 1=7262 1=78ca",
    "1=8cc2 1=96f7 1=58d8 1=5c62 1=6a13 1=6dda 1=6f0f 1=7d2f 1=7e37 1=964b 1=52d2 1=808b 1=51dc",
    "1=51cc 1=7a1c 1=7dbe 1=83f1 1=9675 1=8b80 1=62cf 1=6a02 1=8afe 1=4e39 1=5be7 1=6012 1=7387",
    "1=7570 1=5317 1=78fb 1=4fbf 1=5fa9 1=4e0d 1=6ccc 1=6578 1=7d22 1=53c3 1=585e 1=7701 1=8449",
    "1=8aaa 1=6bba 1=8fb0 1=6c88 1=62fe 1=82e5 1=63a0 1=7565 1=4eae 1=5169 1=51c9 1=6881 1=7ce7",
    "1=826f 1=8ad2 1=91cf 1=52f5 1=5442 1=5973 1=5eec 1=65c5 1=6ffe 1=792a 1=95ad 1=9a6a 1=9e97",
    "1=9ece 1=529b 1=66c6 1=6b77 1=8f62 1=5e74 1=6190 1=6200 1=649a 1=6f23 1=7149 1=7489 1=79ca",
    "1=7df4 1=806f 1=8f26 1=84ee 1=9023 1=934a 1=5217 1=52a3 1=54bd 1=70c8 1=88c2 1=8aaa 1=5ec9",
    "1=5ff5 1=637b 1=6bae 1=7c3e 1=7375 1=4ee4 1=56f9 1=5be7 1=5dba 1=601c 1=73b2 1=7469 1=7f9a",
    "1=8046 1=9234 1=96f6 1=9748 1=9818 1=4f8b 1=79ae 1=91b4 1=96b8 1=60e1 1=4e86 1=50da 1=5bee",
    "1=5c3f 1=6599 1=6a02 1=71ce 1=7642 1=84fc 1=907c 1=9f8d 1=6688 1=962e 1=5289 1=677b 1=67f3",
    "1=6d41 1=6e9c 1=7409 1=7559 1=786b 1=7d10 1=985e 1=516d 1=622e 1=9678 1=502b 1=5d19 1=6dea",
    "1=8f2a 1=5f8b 1=6144 1=6817 1=7387 1=9686 1=5229 1=540f 1=5c65 1=6613 1=674e 1=68a8 1=6ce5",
    "1=7406 1=75e2 1=7f79 1=88cf 1=88e1 1=91cc 1=96e2 1=533f 1=6eba 1=541d 1=71d0 1=7498 1=85fa",
    "1=96a3 1=9c57 1=9e9f 1=6797 1=6dcb 1=81e8 1=7acb 1=7b20 1=7c92 1=72c0 1=7099 1=8b58 1=4ec0",
    "1=8336 1=523a 1=5207 1=5ea6 1=62d3 1=7cd6 1=5b85 1=6d1e 1=66b4 1=8f3b 1=884c 1=964d 1=898b",
    "1=5ed3 1=5140 1=55c0 2v 1=585a 1v 1=6674 2v 1=51de 1=732a 1=76ca 1=793c 1=795e 1=7965 1=798f",
    "1=9756 1=7cbe 1=7fbd 1v 1=8612 1v 1=8af8 2v 1=9038 1=90fd 3v 1=98ef 1=98fc 1=9928 1=9db4",
    "1=90de 1=96b7 1=4fae 1=50e7 1=514d 1=52c9 1=52e4 1=5351 1=559d 1=5606 1=5668 1=5840 1=58a8",
    "1=5c64 1=5c6e 1=6094 1=6168 1=618e 1=61f2 1=654f 1=65e2 1=6691 1=6885 1=6d77 1=6e1a 1=6f22",
    "1=716e 1=722b 1=7422 1=7891 1=793e 1=7949 1=7948 1=7950 1=7956 1=795d 2d32965 1=7a40 1=7a81",
    "1=7bc0 1=7df4 1=7e09 1=7e41 1=7f72 1=8005 1=81ed 1=8279 1=8279 1=8457 1=8910 1=8996 1=8b01",
    "1=8b39 1=8cd3 1=8d08 1=8fb6 1=9038 1=96e3 1=97ff 1=983b 1=6075 1=242ee 1=8218 2x 1=4e26 1=51b5",
    "1=5168 1=4f80 1=5145 1=5180 1=52c7 1=52fa 1=559d 1=5555 1=5599 1=55e2 1=585a 1=58b3 1=5944",
    "1=5954 1=5a62 1=5b28 1=5ed2 1=5ed9 1=5f69 1=5fad 1=60d8 1=614e 1=6108 1=618e 1=6160 1=61f2",
    "1=6234 1=63c4 1=641c 1=6452 1=6556 1=6674 1=6717 1=671b 1=6756 1=6b79 1=6bba 1=6d41 1=6edb",
    "1=6ecb 1=6f22 1=701e 1=716e 1=77a7 1=7235 1=72af 1=732a 1=7471 1=7506 1=753b 1=761d 1=761f",
    "1=76ca 1=76db 1=76f4 1=774a 1=7740 1=78cc 1=7ab1 1=7bc0 1=7c7b 1=7d5b 1=7df4 1=7f3e 1=8005",
    "1=8352 1=83ef 1=8779 1=8941 1=8986 1=8996 1=8abf 1=8af8 1=8acb 1=8b01 1=8afe 1=8aed 1=8b39",
    "1=8b8a 1=8d08 1=8f38 1=9072 1=9199 1=9276 1=967c 1=96e3 1=9756 1=97db 1=97ff 1=980b 1=983b",
    "1=9b12 1=9f9c 1=2284a 1=22844 1=233d5 1=3b9d 1=4018 1=4039 1=25249 1=25cd0 1=27ed3 1=9f43",
    "1=9f8e 38x 1=66+66 1=66+69 1=66+6c 1=66+66+69 1=66+66+6c 2=73+74 12x 1=574+576 1=574+565",
    "1=574+56b 1=57e+576 1=574+56d 5x 1=5d9+5b4 1v 1=5f2+5b7 1=5e2 1=5d0 2d62799 3d62793 1=5e8",
    "1=5ea 1=2b 1=5e9+5c1 1=5e9+5c2 1=5e9+5bc+5c1 1=5e9+5bc+5c2 1=5d0+5b7 1=5d0+5b8 1=5d0+5bc",
    "1=5d1+5bc 1=5d2+5bc 1=5d3+5bc 1=5d4+5bc 1=5d5+5bc 1=5d6+5bc 1x 1=5d8+5bc 1=5d9+5bc 1=5da+5bc",
    "1=5db+5bc 1=5dc+5bc 1x 1=5de+5bc 1x 1=5e0+5bc 1=5e1+5bc 1x 1=5e3+5bc 1=5e4+5bc 1x 1=5e6+5bc",
    "1=5e7+5bc 1=5e8+5bc 1=5e9+5bc 1=5ea+5bc 1=5d5+5b9 1=5d1+5bf 1=5db+5bf 1=5e4+5bf 1=5d0+5dc",
    "1=671 1=671 1=67b 1=67b 1=67b 1=67b 1=67e 1=67e 1=67e 1=67e 1=680 1=680 1=680 1=680 1=67a",
    "1=67a 1=67a 1=67a 1=67f 1=67f 1=67f 1=67f 1=679 1=679 1=679 1=679 1=6a4 1=6a4 1=6a4 1=6a4",
    "1=6a6 1=6a6 1=6a6 1=6a6 1=684 1=684 1=684 1=684 1=683 1=683 1=683 1=683 1=686 1=686 1=686",
    "2d62711 1=687 1=687 1=687 1=68d 1=68d 1=68c 1=68c 1=68e 1=68e 1=688 1=688 1=698 1=698 1=691",
    "1=691 1=6a9 1=6a9 1=6a9 1=6a9 1=6af 1=6af 1=6af 1=6af 1=6b3 1=6b3 1=6b3 1=6b3 1=6b1 1=6b1",
    "1=6b1 1=6b1 1=6ba 2d62693 1=6bb 1=6bb 1=6bb 1=6c0 2d62693 1=6c1 1=6c1 1=6c1 1=6be 1=6be 1=6be",
    "1=6be 1=6d2 2d62685 1=6d3 33v 1=6ad 1=6ad 1=6ad 1=6ad 1=6c7 1=6c7 1=6c6 1=6c6 1=6c8 1=6c8",
    "1=6c7+674 1=6cb 1=6cb 1=6c5 1=6c5 1=6c9 1=6c9 1=6d0 1=6d0 1=6d0 1=6d0 1=649 1=649 2=626+627",
    "2=626+6d5 2=626+648 2=626+6c7 2=626+6c6 2=626+6c8 3=626+6d0 3=626+649 1=6cc 1=6cc 1=6cc 1=6cc",
    "1=626+62c 1=626+62d 1=626+645 1=626+649 1=626+64a 1=628+62c 1=628+62d 1=628+62e 1=628+645",
    "1=628+649 1=628+64a 1=62a+62c 1=62a+62d 1=62a+62e 1=62a+645 1=62a+649 1=62a+64a 1=62b+62c",
    "1=62b+645 1=62b+649 1=62b+64a 1=62c+62d 1=62c+645 1=62d+62c 1=62d+645 1=62e+62c 1=62e+62d",
    "1=62e+645 1=633+62c 1=633+62d 1=633+62e 1=633+645 1=635+62d 1=635+645 1=636+62c 1=636+62d",
    "1=636+62e 1=636+645 1=637+62d 1=637+645 1=638+645 1=639+62c 1=639+645 1=63a+62c 1=63a+645",
    "1=641+62c 1=641+62d 1=641+62e 1=641+645 1=641+649 1=641+64a 1=642+62d 1=642+645 1=642+649",
    "1=642+64a 1=643+627 1=643+62c 1=643+62d 1=643+62e 1=643+644 1=643+645 1=643+649 1=643+64a",
    "1=644+62c 1=644+62d 1=644+62e 1=644+645 1=644+649 1=644+64a 1=645+62c 1=645+62d 1=645+62e",
    "1=645+645 1=645+649 1=645+64a 1=646+62c 1=646+62d 1=646+62e 1=646+645 1=646+649 1=646+64a",
    "1=647+62c 1=647+645 1=647+649 1=647+64a 1=64a+62c 1=64a+62d 1=64a+62e 1=64a+645 1=64a+649",
    "1=64a+64a 1=630+670 1=631+670 1=649+670 1=20+64c+651 1=20+64d+651 1=20+64e+651 1=20+64f+651",
    "1=20+650+651 1=20+651+670 1=626+631 1=626+632 1=626+645 1=626+646 1=626+649 1=626+64a",
    "1=628+631 1=628+632 1=628+645 1=628+646 1=628+649 1=628+64a 1=62a+631 1=62a+632 1=62a+645",
    "1=62a+646 1=62a+649 1=62a+64a 1=62b+631 1=62b+632 1=62b+645 1=62b+646 1=62b+649 1=62b+64a",
    "1=641+649 1=641+64a 1=642+649 1=642+64a 1=643+627 1=643+644 1=643+645 1=643+649 1=643+64a",
    "1=644+645 1=644+649 1=644+64a 1=645+627 1=645+645 1=646+631 1=646+632 1=646+645 1=646+646",
    "1=646+649 1=646+64a 1=649+670 1=64a+631 1=64a+632 1=64a+645 1=64a+646 1=64a+649 1=64a+64a",
    "1=626+62c 1=626+62d 1=626+62e 1=626+645 1=626+647 1=628+62c 1=628+62d 1=628+62e 1=628+645",
    "1=628+647 1=62a+62c 1=62a+62d 1=62a+62e 1=62a+645 1=62a+647 1=62b+645 1=62c+62d 1=62c+645",
    "1=62d+62c 1=62d+645 1=62e+62c 1=62e+645 1=633+62c 1=633+62d 1=633+62e 1=633+645 1=635+62d",
    "1=635+62e 1=635+645 1=636+62c 1=636+62d 1=636+62e 1=636+645 1=637+62d 1=638+645 1=639+62c",
    "1=639+645 1=63a+62c 1=63a+645 1=641+62c 1=641+62d 1=641+62e 1=641+645 1=642+62d 1=642+645",
    "1=643+62c 1=643+62d 1=643+62e 1=643+644 1=643+645 1=644+62c 1=644+62d 1=644+62e 1=644+645",
    "1=644+647 1=645+62c 1=645+62d 1=645+62e 1=645+645 1=646+62c 1=646+62d 1=646+62e 1=646+645",
    "1=646+647 1=647+62c 1=647+645 1=647+670 1=64a+62c 1=64a+62d 1=64a+62e 1=64a+645 1=64a+647",
    "1=626+645 1=626+647 1=628+645 1=628+647 1=62a+645 1=62a+647 1=62b+645 1=62b+647 1=633+645",
    "1=633+647 1=634+645 1=634+647 1=643+644 1=643+645 1=644+645 1=646+645 1=646+647 1=64a+645",
    "1=64a+647 1=640+64e+651 1=640+64f+651 1=640+650+651 1=637+649 1=637+64a 1=639+649 1=639+64a",
    "1=63a+649 1=63a+64a 1=633+649 1=633+64a 1=634+649 1=634+64a 1=62d+649 1=62d+64a 1=62c+649",
    "1=62c+64a 1=62e+649 1=62e+64a 1=635+649 1=635+64a 1=636+649 1=636+64a 1=634+62c 1=634+62d",
    "1=634+62e 1=634+645 1=634+631 1=633+631 1=635+631 1=636+631 1=637+649 1=637+64a 1=639+649",
    "1=639+64a 1=63a+649 1=63a+64a 1=633+649 1=633+64a 1=634+649 1=634+64a 1=62d+649 1=62d+64a",
    "1=62c+649 1=62c+64a 1=62e+649 1=62e+64a 1=635+649 1=635+64a 1=636+649 1=636+64a 1=634+62c",
    "1=634+62d 1=634+62e 1=634+645 1=634+631 1=633+631 1=635+631 1=636+631 1=634+62c 1=634+62d",
    "1=634+62e 1=634+645 1=633+647 1=634+647 1=637+645 1=633+62c 1=633+62d 1=633+62e 1=634+62c",
    "1=634+62d 1=634+62e 1=637+645 1=638+645 2=627+64b 18v 1=62a+62c+645 2=62a+62d+62c",
    "1=62a+62d+645 1=62a+62e+645 1=62a+645+62c 1=62a+645+62d 1=62a+645+62e 2=62c+645+62d",
    "1=62d+645+64a 1=62d+645+649 1=633+62d+62c 1=633+62c+62d 1=633+62c+649 2=633+645+62d",
    "1=633+645+62c 2=633+645+645 2=635+62d+62d 1=635+645+645 2=634+62d+645 1=634+62c+64a",
    "2=634+645+62e 2=634+645+645 1=636+62d+649 2=636+62e+645 2=637+645+62d 1=637+645+645",
    "1=637+645+64a 1=639+62c+645 2=639+645+645 1=639+645+649 1=63a+645+645 1=63a+645+64a",
    "1=63a+645+649 2=641+62e+645 1=642+645+62d 1=642+645+645 1=644+62d+645 1=644+62d+64a",
    "1=644+62d+649 2=644+62c+62c 2=644+62e+645 2=644+645+62d 1=645+62d+62c 1=645+62d+645",
    "1=645+62d+64a 1=645+62c+62d 1=645+62c+645 1=645+62e+62c 1=645+62e+645 2v 1=645+62c+62e",
    "1=647+645+62c 1=647+645+645 1=646+62d+645 1=646+62d+649 2=646+62c+645 1=646+62c+649",
    "1=646+645+64a 1=646+645+649 2=64a+645+645 1=628+62e+64a 1=62a+62c+64a 1=62a+62c+649",
    "1=62a+62e+64a 1=62a+62e+649 1=62a+645+64a 1=62a+645+649 1=62c+645+64a 1=62c+62d+649",
    "1=62c+645+649 1=633+62e+649 1=635+62d+64a 1=634+62d+64a 1=636+62d+64a 1=644+62c+64a",
    "1=644+645+64a 1=64a+62d+64a 1=64a+62c+64a 1=64a+645+64a 1=645+645+64a 1=642+645+64a",
    "1=646+62d+64a 1=642+645+62d 1=644+62d+645 1=639+645+64a 1=643+645+64a 1=646+62c+62d",
    "1=645+62e+64a 1=644+62c+645 1=643+645+645 1=644+62c+645 1=646+62c+62d 1=62c+62d+64a",
    "1=62d+62c+64a 1=645+62c+64a 1=641+645+64a 1=628+62d+64a 1=643+645+645 1=639+62c+645",
    "1=635+645+645 1=633+62e+64a 1=646+62c+64a 8v 32x 1=635+644+6d2 1=642+644+6d2 1=627+644+644+647",
    "1=627+643+628+631 1=645+62d+645+62f 1=635+644+639+645 1=631+633+648+644 1=639+644+64a+647",
    "1=648+633+644+645 1=635+644+649",
    "1=635+644+649+20+627+644+644+647+20+639+644+64a+647+20+648+633+644+645",
    "1=62c+644+20+62c+644+627+644+647 1=631+6cc+627+644 3v 16i 1=2c 1=3001 1x 2d64985 1=21 1=3f",
    "2d52737 7x 16v 1x 1=2014 1=2013 1=5f 1=5f 2d65037 1=7b 1=7d 2d52773 2d52779 2d52787 2d52791",
    "4d52789 2v 1=5b 1=5d 4=20+305 1=5f 1=5f 1=5f 1=2c 1=3001 2x 1=3b 1=3a 1=3f 1=21 1=2014 2d65073",
    "1=7b 1=7d 2d52809 1=23 1=26 2d65079 1=2d 1=3c 1=3e 1=3d 1x 1=5c 2d65093 1=40 4x 1=20+64b",
    "1=640+64b 1=20+64c 1v 1=20+64d 1x 1=20+64e 1=640+64e 1=20+64f 1=640+64f 1=20+650 1=640+650",
    "1=20+651 1=640+651 1=20+652 1=640+652 2d63583 2d63584 2d63585 2d63586 2d63587 1=626 1=626",
    "2d63590 2d63591 1=628 1=628 2d63594 2d63595 1=62a 1=62a 2d63598 1=62b 1=62b 2d63601 1=62c",
    "1=62c 2d63604 1=62d 1=62d 2d63607 1=62e 1=62e 2d63610 2d63611 2d63612 2d63613 2d63614 1=633",
    "1=633 2d63617 1=634 1=634 2d63620 1=635 1=635 2d63623 1=636 1=636 2d63626 1=637 1=637 2d63629",
    "1=638 1=638 2d63632 1=639 1=639 2d63635 1=63a 1=63a 1=63a 1=641 1=641 1=641 2d63635 1=642",
    "1=642 2d63638 1=643 1=643 2d63641 1=644 1=644 2d63644 1=645 1=645 2d63647 1=646 1=646 2d63650",
    "1=647 1=647 2d63653 2d63654 2d63655 1=64a 1=64a 1=64a 2=644+622 2=644+623 2=644+625 2=644+627",
    "2x 1i 1x 32d65248 26d65216 36d65248 2d54746 1=2e 2d53078 1=3001 1=30fb 1=30f2 1=30a1 1=30a3",
    "1=30a5 1=30a7 1=30a9 1=30e3 1=30e5 1=30e7 1=30c3 1=30fc 1=30a2 1=30a4 1=30a6 1=30a8 2d52939",
    "1=30ad 1=30af 1=30b1 1=30b3 1=30b5 1=30b7 1=30b9 1=30bb 1=30bd 1=30bf 1=30c1 1=30c4 1=30c6",
    "1=30c8 6d52923 1=30d2 1=30d5 1=30d8 1=30db 5d52913 1=30e4 1=30e6 6d52910 1=30ef 1=30f3 2d52997",
    "1i 2d61089 1=11aa 1=1102 2d60921 3d61092 6d60922 1=111a 3d61099 1=1121 10d61100 3x 6d61025 2x",
    "6d61027 2x 6d61029 2x 3d61031 3x 2d65342 1=ac 1=20+304 1=a6 1=a5 1=20a9 1x 1=2502 4d56921",
    "1=25a0 1=25cb 17x 12v 1x 26v 1x 19v 1x 2v 1x 15v 2x 14v 34x 123v 5x 3v 4x 45v 3x 88v 1x 13v 3x",
    "1v 47x 46v 130x 29v 3x 49v 15x 28v 4x 36v 9x 30v 5x 43v 5x 30v 1x 37v 4x 14v 42x 40u40 118v 2x",
    "10v 6x 36u40 4x 36v 4x 40v 8x 52v 11x 1v 11u39 1x 15u39 1x 7u39 1x 2u39 1x 11v 1x 15v 1x 7v 1x",
    "2v 3x 52v 12x 311v 9x 22v 10x 8v 24x 1v 2d66737 1=e6 1=299 1=253 1x 1=2a3 1=ab66 1=2a5 1=2a4",
    "2d66869 1=1d91 1=258 1=25e 1=2a9 1=264 1=262 1=260 1=29b 1=127 1=29c 1=267 1=284 2d66799 1=26c",
    "1=1df04 1=a78e 1=26e 1=1df05 1=28e 1=1df06 1=f8 2d66861 1=71 1=27a 1=1df08 2d66859 1=280 1=2a8",
    "1=2a6 1=ab67 1=2a7 1=288 1=2c71 1x 1=28f 2d66834 1=298 3d67062 1=1df0a 1=1df1e 69x 6v 2x 1v 1x",
    "44v 1x 2v 3x 1v 2x 23v 1x 72v 8x 9v 48x 19v 1x 2v 5x 33v 3x 27v 5x 27v 38x 56v 4x 20v 2x 50v",
    "1x 2v 5x 8v 1x 3v 1x 29v 2x 3v 4x 10v 7x 9v 7x 64v 32x 39v 4x 12v 9x 54v 3x 29v 2x 27v 5x 26v",
    "7x 4v 12x 7v 80x 73v 55x 51u64 13x 51v 7x 46v 8x 10v 6x 16v 22u32 3x 29v 8x 2v 208x 31v 1x 42v",
    "1x 3v 2x 2v 16x 6v 8x 9v 33x 46v 8x 42v 22x 26v 38x 28v 20x 23v 9x 78v 4x 36v 9x 62v 1x 5v 13x",
    "25v 7x 10v 6x 53v 1x 18v 8x 39v 9x 96v 1x 20v 11x 18v 1x 47v 62x 7v 1x 1v 1x 4v 1x 15v 1x 11v",
    "6x 59v 5x 10v 6x 4v 1x 8v 2x 2v 2x 22v 1x 7v 1x 2v 1x 5v 1x 10v 2x 2v 2x 3v 2x 1v 6x 1v 5x 7v",
    "2x 7v 3x 5v 11x 10v 1x 1v 2x 1v 1x 38v 1x 10v 1x 1v 2x 1v 1x 4v 1x 10v 1x 2v 8x 2v 29x 92v 1x",
    "5v 30x 72v 8x 10v 166x 54v 2x 38v 34x 69v 11x 10v 6x 13v 19x 58v 6x 10v 6x 20v 28x 27v 2x 15v",
    "4x 23v 185x 60v 100x 32u32 51v 12x 8v 2x 1v 2x 8v 1x 2v 1x 30v 1x 2v 2x 12v 9x 10v 70x 8v 2x",
    "46v 2x 11v 27x 72v 8x 83v 13x 73v 7x 10v 86x 8v 88x 34v 14x 10v 6x 9v 1x 45v 1x 14v 10x 29v 3x",
    "32v 2x 22v 1x 14v 73x 7v 1x 2v 1x 44v 3x 1v 1x 2v 1x 9v 8x 10v 6x 6v 1x 2v 1x 37v 1x 2v 1x 6v",
    "7x 10v 6x 44v 4x 10v 246x 25v 7x 17v 1x 41v 3x 29v 85x 1v 15x 50v 13x 923v 102x 111v 1x 5v 11x",
    "196v 2636x 99v 13x 1072v 16x 22v 10x 3995v 5x 583v 6841x 58v 1734x 569v 7x 31v 1x 10v 4x 81v",
    "1x 10v 6x 30v 2x 6v 10x 70v 10x 10v 1x 7v 1x 21v 5x 19v 432x 58v 198x 32u32 59v 5x 25u27 2x",
    "25v 44x 75v 4x 57v 7x 17v 64x 5v 11x 7v 9x 7382v 41x 32v 97x 115v 8701x 4v 1x 7v 1x 2v 1x 291v",
    "15x 1v 29x 3v 2x 1v 14x 4v 8x 396v 2308x 107v 5x 13v 3x 9v 7x 10v 2x 4v 4i 3932x 214v",
    "26d117877 10d117952 3v 3x 436v 6x 23v 15x 17v 15x 46v 2x 23v 9x 116v 60x 246v 10x 39v 2x 53v",
    "1=1d157+1d165 1=1d158+1d165 1=1d158+1d165+1d16e 1=1d158+1d165+1d16f 1=1d158+1d165+1d170",
    "1=1d158+1d165+1d171 1=1d158+1d165+1d172 14v 8i 64v 1=1d1b9+1d165 1=1d1ba+1d165",
    "1=1d1b9+1d165+1d16e 1=1d1ba+1d165+1d16e 1=1d1b9+1d165+1d16f 1=1d1ba+1d165+1d16f 42v 21x 70v",
    "122x 20v 12x 20v 12x 87v 9x 25v 135x 26d119711 26d119737 26d119763 7d119789 1x 18d119789",
    "26d119815 26d119841 1=61 1x 2d119867 2x 1=67 2x 2d119867 2x 4d119867 1x 8d119867 4d119893 1x",
    "1=66 1x 7d119893 1x 11d119893 26d119919 26d119945 2d119971 1x 4d119971 2x 8d119971 1x 7d119971",
    "1x 26d119997 2d120023 1x 4d120023 1x 5d120023 1x 1=6f 3x 7d120023 1x 26d120049 26d120075",
    "26d120101 26d120127 26d120153 26d120179 26d120205 26d120231 26d120257 26d120283 26d120309",
    "26d120335 26d120361 1=131 1=237 2x 17d119543 1=3b8 7d119543 1=2207 17d119569 1=3c3 7d119569",
    "1=2202 1=3b5 1=3b8 1=3ba 1=3c6 1=3c1 1=3c0 17d119601 1=3b8 7d119601 1=2207 17d119627 1=3c3",
    "7d119627 1=2202 1=3b5 1=3b8 1=3ba 1=3c6 1=3c1 1=3c0 17d119659 1=3b8 7d119659 1=2207 17d119685",
    "1=3c3 7d119685 1=2202 1=3b5 1=3b8 1=3ba 1=3c6 1=3c1 1=3c0 17d119717 1=3b8 7d119717 1=2207",
    "17d119743 1=3c3 7d119743 1=2202 1=3b5 1=3b8 1=3ba 1=3c6 1=3c1 1=3c0 17d119775 1=3b8 7d119775",
    "1=2207 17d119801 1=3c3 7d119801 1=2202 1=3b5 1=3b8 1=3ba 1=3c6 1=3c1 1=3c0 1=3dd 1=3dd 2x",
    "10d120734 10d120744 10d120754 10d120764 10d120774 652v 15x 5v 1x 15v 1104x 31v 6x 6v 213x 7v",
    "1x 17v 2x 7v 1x 2v 1x 5v 5x 9d121856 3d121855 11d121854 1=44b 2d121851 1=a689 1=4d9 1=456",
    "1=458 1=4e9 1=4af 1=4cf 9d121889 2d121888 2d121886 1=441 6d121884 2d121883 1=491 1=456 1=455",
    "1=45f 1=4ab 1=a651 1=4b1 33x 1v 112x 45v 3x 14v 2x 10v 4x 2v 320x 31v 17x 58v 5x 1v 464x 42v",
    "214x 43v 4x 1v 192x 31v 1x 22v 8x 2v 224x 7v 1x 4v 1x 2v 1x 15v 1x 197v 2x 16v 41x 34u34 42v",
    "4x 10v 4x 2v 785x 68v 76x 61v 194x 2d124889 1=62c 1=62f 1x 1=648 1=632 1=62d 1=637 1=64a",
    "4d124871 1=633 1=639 1=641 1=635 1=642 1=631 1=634 2d124907 1=62e 1=630 1=636 1=638 1=63a",
    "1=66e 1=6ba 1=6a1 1=66f 1x 1=628 1=62c 1x 1=647 2x 1=62d 1x 1=64a 4d124903 1=633 1=639 1=641",
    "1=635 1=642 1x 1=634 2d124939 1=62e 1x 1=636 1x 1=63a 6x 1=62c 4x 1=62d 1x 1=64a 1x 1=644 1x",
    "1=646 1=633 1=639 1x 1=635 1=642 1x 1=634 2x 1=62e 1x 1=636 1x 1=63a 1x 1=6ba 1x 1=66f 1x",
    "1=628 1=62c 1x 1=647 2x 1=62d 1=637 1=64a 1=643 1x 2d124967 1=633 1=639 1=641 1=635 1=642 1x",
    "1=634 2d125003 1=62e 1x 1=636 1=638 1=63a 1=66e 1x 1=6a1 1x 2d125017 1=62c 1=62f 2d124989",
    "1=632 1=62d 1=637 1=64a 1x 3d124999 1=633 1=639 1=641 1=635 1=642 1=631 1=634 2d125035 1=62e",
    "1=630 1=636 1=638 1=63a 5x 1=628 1=62c 1=62f 1x 1=648 1=632 1=62d 1=637 1=64a 1x 3d125031",
    "1=633 1=639 1=641 1=635 1=642 1=631 1=634 2d125067 1=62e 1=630 1=636 1=638 1=63a 52x 2v 270x",
    "44v 4x 100v 12x 15v 2x 15v 1x 15v 1x 37v 11x 1=30+2c 1=31+2c 1=32+2c 1=33+2c 1=34+2c 1=35+2c",
    "1=36+2c 1=37+2c 1=38+2c 1=39+2c 5v 1=28+61+29 1=28+62+29 1=28+63+29 1=28+64+29 1=28+65+29",
    "1=28+66+29 1=28+67+29 1=28+68+29 1=28+69+29 1=28+6a+29 1=28+6b+29 1=28+6c+29 1=28+6d+29",
    "1=28+6e+29 1=28+6f+29 1=28+70+29 1=28+71+29 1=28+72+29 1=28+73+29 1=28+74+29 1=28+75+29",
    "1=28+76+29 1=28+77+29 1=28+78+29 1=28+79+29 1=28+7a+29 1=3014+73+3015 1=63 1=72 1=63+64",
    "1=77+7a 1v 26d127183 1=68+76 1=6d+76 1=73+64 1=73+73 1=70+70+76 1=77+63 26v 1=6d+63 1=6d+64",
    "1=6d+72 35v 1=64+6a 29v 56x 26v 1=307b+304b 1=30b3+30b3 1=30b5 13x 1=624b 1=5b57 1=53cc 1=30c7",
    "1=4e8c 1=591a 1=89e3 1=5929 1=4ea4 1=6620 1=7121 1=6599 1=524d 1=5f8c 1=518d 1=65b0 1=521d",
    "1=7d42 1=751f 1=8ca9 1=58f0 1=5439 1=6f14 1=6295 1=6355 1=4e00 1=4e09 1=904a 1=5de6 1=4e2d",
    "1=53f3 1=6307 1=8d70 1=6253 1=7981 1=7a7a 1=5408 1=6e80 1=6709 1=6708 1=7533 1=5272 1=55b6",
    "1=914d 4x 1=3014+672c+3015 1=3014+4e09+3015 1=3014+4e8c+3015 1=3014+5b89+3015 1=3014+70b9+3015",
    "1=3014+6253+3015 1=3014+76d7+3015 1=3014+52dd+3015 1=3014+6557+3015 7x 1=5f97 1=53ef 14x 6v",
    "154x 985v 3x 17v 3x 13v 3x 218v 6x 12v 4x 1v 15x 12v 4x 56v 8x 10v 6x 40v 8x 30v 2x 12v 4x 2v",
    "14x 9v 39x 344v 8x 14v 2x 13v 3x 11v 3x 57v 1x 1v 4x 16v 2x 12v 4x 10v 7x 147v 1x 92v",
    "10d129984 1v 1029x 42720v 32x 4382v 2x 5774v 2x 7473v 15x 622v 2466x 1=4e3d 1=4e38 1=4e41",
    "1=20122 1=4f60 1=4fae 1=4fbb 1=5002 1=507a 1=5099 1=50e7 1=50cf 1=349e 1=2063a 1=514d 1=5154",
    "1=5164 1=5177 1=2051c 1=34b9 1=5167 1=518d 1=2054b 1=5197 1=51a4 1=4ecc 1=51ac 1=51b5 1=291df",
    "1=51f5 1=5203 1=34df 1=523b 1=5246 1=5272 1=5277 1=3515 1=52c7 1=52c9 1=52e4 1=52fa 2d173348",
    "1=5317 1=5349 1=5351 1=535a 1=5373 1=537d 1=537f 1=537f 1=537f 1=20a2c 1=7070 1=53ca 1=53df",
    "1=20b63 1=53eb 1=53f1 1=5406 1=549e 1=5438 1=5448 1=5468 1=54a2 1=54f6 1=5510 1=5553 1=5563",
    "1=5584 1=5584 1=5599 1=55ab 1=55b3 1=55c2 1=5716 1=5606 1=5717 1=5651 1=5674 1=5207 1=58ee",
    "1=57ce 1=57f4 1=580d 1=578b 1=5832 1=5831 1=58ac 1=214e4 1=58f2 1=58f7 1=5906 1=591a 1=5922",
    "1=5962 1=216a8 1=216ea 1=59ec 1=5a1b 1=5a27 1=59d8 1=5a66 1=36ee 1=36fc 1=5b08 1=5b3e 1=5b3e",
    "1=219c8 1=5bc3 1=5bd8 1=5be7 1=5bf3 1=21b18 1=5bff 1=5c06 1=5f53 1=5c22 1=3781 1=5c60 1=5c6e",
    "1=5cc0 1=5c8d 1=21de4 1=5d43 1=21de6 1=5d6e 1=5d6b 1=5d7c 2d170656 1=382f 1=5dfd 1=5e28 1=5e3d",
    "1=5e69 1=3862 1=22183 1=387c 1=5eb0 1=5eb3 1=5eb6 1=5eca 1=2a392 1=5efe 1=22331 1=22331 1=8201",
    "1=5f22 1=5f22 1=38c7 1=232b8 1=261da 1=5f62 1=5f6b 1=38e3 1=5f9a 1=5fcd 1=5fd7 1=5ff9 1=6081",
    "1=393a 1=391c 1=6094 1=226d4 1=60c7 1=6148 1=614c 1=614e 1=614c 1=617a 1=618e 1=61b2 1=61a4",
    "1=61af 1=61de 1=61f2 1=61f6 1=6210 1=621b 1=625d 1=62b1 1=62d4 1=6350 1=22b0c 1=633d 1=62fc",
    "1=6368 1=6383 1=63e4 1=22bf1 1=6422 1=63c5 1=63a9 1=3a2e 1=6469 1=647e 1=649d 1=6477 1=3a6c",
    "1=654f 1=656c 1=2300a 1=65e3 1=66f8 1=6649 1=3b19 1=6691 1=3b08 1=3ae4 1=5192 1=5195 1=6700",
    "1=669c 1=80ad 1=43d9 1=6717 1=671b 1=6721 1=675e 1=6753 1=233c3 1=3b49 1=67fa 1=6785 1=6852",
    "1=6885 1=2346d 1=688e 1=681f 1=6914 1=3b9d 1=6942 1=69a3 1=69ea 1=6aa8 1=236a3 1=6adb 1=3c18",
    "1=6b21 1=238a7 1=6b54 1=3c4e 1=6b72 1=6b9f 2d167227 1=23a8d 1=21d0b 1=23afa 1=6c4e 1=23cbc",
    "1=6cbf 1=6ccd 1=6c67 1=6d16 1=6d3e 1=6d77 1=6d41 1=6d69 1=6d78 1=6d85 1=23d1e 1=6d34 1=6e2f",
    "1=6e6e 1=3d33 1=6ecb 1=6ec7 1=23ed1 1=6df9 1=6f6e 1=23f5e 1=23f8e 1=6fc6 1=7039 1=701e 1=701b",
    "1=3d96 1=704a 1=707d 1=7077 1=70ad 1=20525 1=7145 1=24263 1=719c 1=243ab 1=7228 1=7235 1=7250",
    "1=24608 1=7280 1=7295 1=24735 1=24814 1=737a 1=738b 1=3eac 1=73a5 1=3eb8 1=3eb8 1=7447 1=745c",
    "1=7471 1=7485 1=74ca 1=3f1b 1=7524 1=24c36 1=753e 1=24c92 1=7570 1=2219f 1=7610 1=24fa1",
    "1=24fb8 1=25044 1=3ffc 1=4008 1=76f4 1=250f3 1=250f2 1=25119 1=25133 2d164391 1=771f 1=774a",
    "1=4039 1=778b 1=4046 1=4096 1=2541d 1=784e 1=788c 1=78cc 1=40e3 1=25626 1=7956 1=2569a 1=256c5",
    "1=798f 1=79eb 1=412f 1=7a40 1=7a4a 1=7a4f 1=2597c 1=25aa7 1=25aa7 1=7aee 1=4202 1=25bab 1=7bc6",
    "1=7bc9 1=4227 1=25c80 1=7cd2 1=42a0 1=7ce8 1=7ce3 1=7d00 1=25f86 1=7d63 1=4301 1=7dc7 1=7e02",
    "1=7e45 1=4334 1=26228 1=26247 1=4359 1=262d9 1=7f7a 1=2633e 1=7f95 1=7ffa 1=8005 1=264da",
    "1=26523 1=8060 1=265a8 1=8070 1=2335f 1=43d5 1=80b2 1=8103 1=440b 1=813e 1=5ab5 1=267a7",
    "1=267b5 1=23393 1=2339c 1=8201 1=8204 1=8f9e 1=446b 1=8291 1=828b 1=829d 1=52b3 1=82b1 1=82b3",
    "1=82bd 1=82e6 1=26b3c 1=82e5 1=831d 1=8363 1=83ad 1=8323 1=83bd 1=83e7 1=8457 1=8353 1=83ca",
    "1=83cc 1=83dc 1=26c36 1=26d6b 1=26cd5 1=452b 1=84f1 1=84f3 1=8516 1=273ca 1=8564 1=26f2c",
    "1=455d 1=4561 1=26fb1 1=270d2 1=456b 1=8650 1=865c 1=8667 1=8669 1=86a9 1=8688 1=870e 1=86e2",
    "1=8779 1=8728 1=876b 1=8786 1=45d7 1=87e1 1=8801 1=45f9 1=8860 1=8863 1=27667 1=88d7 1=88de",
    "1=4635 1=88fa 1=34bb 1=278ae 1=27966 1=46be 1=46c7 1=8aa0 1=8aed 1=8b8a 1=8c55 1=27ca8 1=8cab",
    "1=8cc1 1=8d1b 1=8d77 1=27f2f 1=20804 1=8dcb 1=8dbc 1=8df0 1=208de 1=8ed4 1=8f38 1=285d2",
    "1=285ed 1=9094 1=90f1 1=9111 1=2872e 1=911b 1=9238 2d157457 1=927c 1=93f9 1=9415 1=28bfa",
    "1=958b 1=4995 1=95b7 1=28d77 1=49e6 1=96c3 1=5db2 1=9723 1=29145 1=2921a 1=4a6e 1=4a76 1=97e0",
    "1=2940a 1=4ab2 1=29496 1=980b 1=980b 1=9829 1=295b6 1=98e2 1=4b33 1=9929 1=99a7 1=99c2 1=99fe",
    "1=4bce 1=29b30 1=9b12 1=9c40 1=9cfd 1=4cce 1=4ced 1=9d67 1=2a0ce 1=4cf8 1=2a105 1=2a20e",
    "1=2a291 1=9ebb 1=4d56 1=9ef9 1=9efe 1=9f05 1=9f0f 1=9f16 1=9f3b 1=2a600 1506x 4939v 5x 8490v",
    "707718x 240i 196112x"]

def Fold.ofWord : List Char → Fold
  | ['v'] => .same
  | ['i'] => .nothing
  | ['p'] => .turns
  | 'u' :: ds => .up (Decimal.value ds)
  | 'd' :: ds => .down (Decimal.value ds)
  | '=' :: cs => .text ((cs.splitOn '+').map charOfHex)
  | _ => .barred

def foldRuns : List (Run Fold) := Run.ofLines Fold.ofWord foldTable

/-- What a character stands for that has so many characters of its run before it. -/
def Fold.apply? (c : Char) (before : Nat) : Fold → Option (List Char)
  | .same => some [c]
  | .barred => none
  | .nothing => some []
  | .turns => some [if before % 2 = 0 then Char.ofNat (c.toNat + 1) else c]
  | .up distance => some [Char.ofNat (c.toNat + distance)]
  | .down distance => some [Char.ofNat (c.toNat - distance)]
  | .text cs => some cs

def fold? (c : Char) : Option (List Char) :=
  if c.toNat < 0x80 then some [c.toLower]
  else
    match Run.find? foldRuns c.toNat with
    | some (f, before) => f.apply? c before
    | none => none

def foldText? : List Char → Option (List Char)
  | [] => some []
  | c :: cs =>
      match fold? c, foldText? cs with
      | some ds, some rest => some (ds ++ rest)
      | _, _ => none

end HeaderRelay.Unicode
