/-
The binary properties of characters.

* `Property.named` — the properties with their names.  The characters of a
  property are those of some general categories, but for the runs given with
  it, where it is the other way round.
* `Property.ofName` — the characters of the property with a name.
-/
import AgentWorkflow.Text.Unicode.Category

namespace AgentWorkflow.Text.Unicode

/-- A property: its names in lower case and without separators, the categories
that have it but for the runs. -/
structure Property where
  names : List String
  categories : List Category
  runs : List String

namespace Property

def named : List Property := [
  ⟨["asciihexdigit", "ahex"], [],
    ["1c 9 7 5 q 5"]⟩,
  ⟨["alphabetic", "alpha"], [.lu, .ll, .lt, .lm, .lo, .mc, .nl],
    ["n9 0 t c g0 d 1 0 1 1 1 1 1 0 20 a 1c c 1 6 g 0 2t 6 4 3 2 1 4 0 z 0 u f 2u a 2t 1",
     "3 8 1 2 1 3 2y 0 1o b 3 6 6 i 1j 0 6 7 c 2 a 1 t 0 1r 3 t 1 t 1 1q 1 4 1 2 1 4 0 u",
     "1 3 0 b 1 1q 4 1 1 p 1 m 2 4 0 1p 0 1 3 h 0 b 1 u 0 1p 0 1r 0 3 0 1l 2 5 2 1 2 8 1",
     "b 1 t 0 1p 0 6 0 5 0 l 1 s 1 1r 3 t 1 t 0 28 2 1 0 2i 0 2 6 i 0 2r 0 2 5 1 1 g 0",
     "34 1 1d d 1 3 9 a 1 z 34 3 1 4 6 1 p 1 4 2 g 3 d 0 2 1 6 0 f 0 19w 1 1 0 s 2 t 1 u",
     "1 1v 6 8 0 5a 1 y 0 3a 2 4 1 9 0 6c 1 2 0 1m 0 1 6 3 0 2 7 6 1 22 1 b 2 1d 3 1e 4",
     "1 0 5 0 1 0 1n 1 w 3 2 2 1 1 1m 1 3 0 1 4 1k 7 2 0 4q 0 l 0 63 x 1c1 1f 1rq v fi 1",
     "nd0 7 y 1 9u 0 8 0 p 1 4e 0 1l 0 12 4 s a 1 0 18 2 1f 3 2 1 2 0 10 0 1v 5 2 1 2 1",
     "c 0 8 0 1b 0 1f 0 1 2 2 1 5 0 19 1 6v 0 2 0 3 0 fn5 0 1nb 4 1ae 2 1 1 5 3 lw 3 1t",
     "0 8x 1 25 2 78 0 1i d 19 1 b 1 1d 3 b 0 1p 2 10 4 1 5 25 1 1g 8 1 0 e 0 2n 2 2 1 1",
     "0 6 0 2 0 4d 0 3 5 n 1 1q 0 c 0 31 5 e 0 2w 7 3 1 32 5 1 0 4 1 6p 3 6 1 u 1 2d 7 2",
     "0 2 0 2y 0 1 0 2 6 2u 0 1 0 2 3 1 3 78 8 77 2 46 3 2 1 11 9 16 3 2 3 i 5 2 2 1a c",
     "5l 0 1 2 1 0 5l 6 1 5 2c l 2 6 1 1 1 1 3e 5 3 0 1 1 1 2 1 0 3 0 20 1 3 0 9p 1 b 1",
     "1g 4 5 1 d0c b 3 1 2sg 0 1r 3 f7v 0 43q 1 6 5 2vh 6 1 g 2 6 1 1 1 4 2s 0 18z 0 2 0",
     "7 1 5 0 gh 0 1k8 p 6 p 6 p"]⟩,
  ⟨["bidicontrol", "bidic"], [],
    ["17g 0 54h 1 q 4 1j 3"]⟩,
  ⟨["bidimirrored", "bidim"], [.ps, .pe, .pi, .pf],
    ["1o 0 1 0 6ah 7 80 0 5c 3 3 5 3 0 3 1 3 3 1 3 1 0 1 0 4 8 5 0 1 h 5 3 9 1 1 0 1 7 1",
     "v 2 3 5 0 9 1 2 i 5 1 9 4 2 1 4 n 2 f w 1 wu 0 2 1 3 1 1 2 5 3 5 2 3 3 c5 5 1 d 8",
     "0 7 5 3 0 4 4 1 1 6 0 4 0 1 2 2 1 a 5 g i 1 3 2 0 1 0 2 0 1 3 5 1 6 2 o 1 b 1 4 3",
     "1 1 2 1 4 16 2 7 1 13 5 0 1 0 3 4 5 2 4 0 3 4 1 0 74 0 g3 0 d6 2 14im 1 5z 1 s f 2",
     "1 r 1 52 0 1 0 16m4 0 1l 0 1l 0 1l 0 1l 0"]⟩,
  ⟨["caseignorable", "ci"], [.lm, .mn, .me, .sk, .cf],
    ["13 0 6 0 b 0 3g 0 jz 0 d3 0 44 0 55v 1 a 0 2 0 17u3 0 1q 0 2 0 4x 0 6 0 b 0"]⟩,
  ⟨["cased"], [.lu, .ll, .lt, .lm],
    ["4q 0 f 0 e6 6 6 b q 0 1 0 2e 0 1a 0 dg 0 6e 0 4k 1 7h 1 4 0 v 0 9 0 3 0 4g 0 4n 0",
     "yc 0 3j 0 1sg 0 2z 0 gz 0 cw 5 yq v mu 1f 1ol 0 5b 0 d1 0 17 4 5 0 2p 1 2l 2 lxy 0",
     "yq 5 7i 0 36 0 47 8 2w 0 g6 0 m 0 3t 0 30 0 l 1 gor 0 19 1 1k1 1 157 0 w 0 9h 0",
     "2z7 0 fae 3 e4 2 14 1 fa c 1s 1 1 0 e 1 cn0 3 1 6 1 1 9q0 6 q5 0 er 0 gb 0 1k4 p 6",
     "p 6 p"]⟩,
  ⟨["changeswhencasefolded", "cwcf"], [.lu, .lt],
    ["51 0 15 0 2x 0 1h 0 cl 0 3g 0 d 6 p 1 3 0 b5 0 2s8 2d 2 5 1oi 8 ep 1 6c 7 8 7 8 7",
     "a 2 2 0 a 2 2 0 16 2 2 0 7e 0 4 0 3 2 2 2 2 0 3 4 6 0 3 0 3 1 2 1 1 0 a 1 5 0 q f",
     "na p qlc 27 fnk 6 c 4 16ug p q p q p q 0 1 1 2 0 2 1 2 3 1 7 q p q 1 1 3 2 7 1 6 r",
     "1 1 3 1 4 1 0 3 6 r p q p q p q p q p q p u o x o x o x o x o x 0"]⟩,
  ⟨["changeswhencasemapped", "cwcm"], [.lu, .ll, .lt],
    ["8o 0 2c 0 s 1 e 0 3 0 2q 0 i 5 r 0 2 0 1 0 2 2 2 0 4 0 5 1 1 0 2 1 1 6 1 1 1 0 2 2",
     "6 4 1 0 2 6 2 g 45 0 3w 2 13 0 9v 0 13 0 4mv 17 1r c 2 2 1 f 1 b 75 1 1 0 gy 0 4 0",
     "2 9 1 0 3 4 6 0 3 0 3 1 1 2 1 1 4 0 2 3 5 4 m v mu 1f 1hj 0 2 0 2 4 2w 0 o5n 1 1r",
     "7 l 0 6 0 p 0 22 0 mt y 1 6 5 8 1ml3 2c 1 1y 1 1 2 0 2 1 2 3 1 b 1 0 1 6 1 1s 1 3",
     "2 7 1 6 1 r 1 3 1 4 1 0 3 6 1 9f 2 o 1 o 1 u 1 o 1 u 1 o 1 u 1 o 1 u 1 o 1 7 1f8 9",
     "1 j 6 5"]⟩,
  ⟨["changeswhenlowercased", "cwl"], [.lu, .lt],
    ["r6 2 5rh 0 4 0 3 2 2 2 2 0 3 4 6 0 3 0 3 1 2 1 1 0 a 1 5 0 q f na p 2d68 p q p q p",
     "q 0 1 1 2 0 2 1 2 3 1 7 q p q 1 1 3 2 7 1 6 r 1 1 3 1 4 1 0 3 6 r p q p q p q p q",
     "p q p u o x o x o x o x o x 0"]⟩,
  ⟨["changeswhennfkccasefolded", "cwkcf"], [.lu, .lt, .lm, .pc, .zs, .cf],
    ["w 0 1q 0 20 0 1 0 4 0 2 3 2 2 1 2 w 0 2b 0 c 0 8 0 1h 0 1y 0 2 0 2 0 12 0 5h 8 4 b",
     "6 5 e 0 1 0 29 1 1 2 9 0 1a 0 5 1 1 0 1m 0 d 1 3 1 p 2 2 0 9v 0 19 0 3c 5 1m 0 1g",
     "3 2s 0 7 1 14 0 6c 1 4 0 v 0 9 0 3 0 2v 1 1j 0 o 0 39 7 h 0 2y 1 1 0 2b 0 2 0 y 2",
     "2 0 71 1 k5 0 i 0 30 0 i 0 l 1 1a 0 1i 0 9 0 4 0 4 0 4 0 c 0 9 0 1 4 7 0 h 0 9 0 4",
     "0 4 0 4 0 c 0 bp 1 fz 2d 2 5 hu 0 8j 1 x 0 1f 2 1 0 1f 0 gz 0 cw 5 2 8 4m 0 b 0 i",
     "0 97 1 5x 0 1 0 1 0 1 0 1 0 1 0 1 0 2 7 8 7 8 7 a 2 2 0 5 7 2 0 5 2 3 0 9 2 3 0 9",
     "2 2 2 2 0 5 1 i 0 5 0 c 2 c 1 1 1 4 0 1 2 6 2 a 0 2 0 d 0 a 0 3 a 1 e p 0 2f 1 1 0",
     "1 1 2 1 3 1 3 0 2 0 9 2 c 0 4 5 1 2 2 0 5 3 6 1b 9 0 4i 1 1 1 6w 1 8l 3u 10h 0 2v",
     "2 2t 0 nm 0 33 0 2b 0 c 5x 1b 0 17 5 1 3 2n 4 2k 3 1d 2l 3 d 2o u 1 13 8 1a 1 an",
     "lcl 0 yq 5 7i 0 36 0 47 8 2w 0 g6 0 m 0 3t 0 30 0 l 1 3f 27 f9c 7h 2 0 1 0 2 9 1 0",
     "1 0 2 1 3 1v 2 2x 12 6 c 4 5 0 1 n 1 4 1 0 1 1 1 1 1 2z x a2 i 1r 2 1h 14 c 3 p m",
     "2 2 f 2 5 3 2 1 i 1 3 4 2 1 0 1 3q 4 v q 3 1 1b 1 18 2 u 3 5 2 5 2 5 2 2 3 6 1 6 1",
     "b 1hg 0 159 0 w 0 9h 0 dz 0 f 0 2kr 0 4eu f av4 3 e4 2 14 1 fa c 1s 1 1 0 e 1 cn0",
     "3 1 6 1 1 5p3 z v8 6 2e 5 gp p q 6 1 h q p q 3 1 0 1 6 1 a q p q p q p q p q p q p",
     "q p q p q r r w p w p w p w p w 1 0 2 1d 1tj 6 q5 0 er 0 gb 0 xg 3 1 q 1 1 1 0 2 0",
     "1 9 1 3 1 0 1 0 6 0 4 0 1 0 1 0 1 2 1 1 1 0 2 0 1 0 1 0 1 0 1 0 1 1 1 0 2 3 1 6 1",
     "3 1 3 1 0 1 9 1 g 5 2 1 4 1 g g4 a 5 u 1 v q 2 z 0 33 2 d 17 4 8 7 1 1we 9 1ds6 f1",
     "fheq 0 1 t 2o 327"]⟩,
  ⟨["changeswhentitlecased", "cwt"], [.ll],
    ["8o 0 2c 0 s 1 e 0 3 0 5 0 2 0 2 0 12 0 1b 0 i 5 r 0 2 0 1 0 2 2 2 0 4 0 5 1 1 0 2",
     "1 1 6 1 1 1 0 2 2 6 4 1 0 2 6 2 g 45 0 52 0 9v 0 13 0 287 16 2 2 2dc 17 1r c 2 2 1",
     "f 1 b 75 1 1 0 h6 0 3 1 3 0 r 0 4 0 4 0 2 1 8 3 12 f nk p 1hj 0 2 0 2 4 2w 0 o5n 1",
     "1r 7 l 0 6 0 p 0 22 0 mt y 1 6 5 8 1mlt p q 6 1 h q p q 3 1 0 1 6 1 a q p q p q p",
     "q p q p q p q p q p q r s o 1 5 q o 1 5 q o 1 5 q o 1 5 q o 1 5 1 0 1f8 9 1 j 6 5"]⟩,
  ⟨["changeswhenuppercased", "cwu"], [.ll, .lt],
    ["8o 0 2c 0 s 1 e 0 3 0 2q 0 i 5 r 0 2 0 1 0 2 2 2 0 4 0 5 1 1 0 2 1 1 6 1 1 1 0 2 2",
     "6 4 1 0 2 6 2 g 45 0 52 0 9v 0 13 0 4mv 17 1r c 2 2 1 f 1 b 75 1 1 0 h6 0 3 1 3 0",
     "r 0 4 0 4 0 2 1 8 3 12 f nk p 1hj 0 2 0 2 4 2w 0 o5n 1 1r 7 l 0 6 0 p 0 22 0 mt y",
     "1 6 5 8 1mlt p q 6 1 h q p q 3 1 0 1 6 1 a q p q p q p q p q p q p q p q p q r s o",
     "1 5 q o 1 5 q o 1 5 q o 1 5 q o 1 5 1 0 1f8 9 1 j 6 5"]⟩,
  ⟨["dash"], [.pd],
    ["6dv 0 13 0 f 0 au 0"]⟩,
  ⟨["defaultignorablecodepoint", "di"], [],
    ["4t 0 ip 0 jw 0 282 1 18z 1 2d 4 1kr 4 q 4 1d f 3ck 0 14ez f 6n 0 4g 0 27 8 119j 3",
     "43z 7 h405 35r"]⟩,
  ⟨["deprecated", "dep"], [],
    ["95 0 10p 0 1s3 0 1 0 1m1 1 1qd 5 jd 1 jh06 0"]⟩,
  ⟨["diacritic", "dia"], [.lm, .sk],
    ["53 0 g8 26 1 7 5 5 80 4 7d 18 1 0 1 1 1 1 1 0 3c 0 a 7 4 1 3q 1 9 2 1v q 2j a 1m 8",
     "6 0 t 2 9 0 3 0 2n 0 f 7 16 8 g r 1p 0 g 0 3 3 2v 0 g 0 32 0 g 0 32 0 g 0 1b 2 1o",
     "0 g 0 7 0 3b 0 32 0 g 0 32 0 g 0 31 1 g 0 3g 0 33 0 b 6 1 0 2z 0 b 0 1 4 23 1 r 0",
     "1 0 1 0 4 1 1u 2 1 1 1q 0 34 0 1 1 14 1 4 4 p 6 1 0 a 1 2o 0 gw 2 qc 1 u 0 44 a 3",
     "0 5 0 2t 0 6t 2 84 0 k 7 2 0 13 0 8 e 2 a 3 e 2 b 20 0 f 0 12 8 1i 1 1m 0 b 1 1u 1",
     "48 o 4 0 6 0 2 2 3i 0 1y 0 4 b 11 a hd 0 d 0 g c 2cf 1 35 2 3h 0 id 0 10 5 1 4 5 0",
     "2l 1 2 1 2m 1 lxy 0 yq 5 7i 0 2q 0 c 1 36 1 3i 0 3l 2 h 0 11 0 47 0 r h 1l 3 10 0",
     "2n 0 c 0 e 0 l 1 3t 0 a 2 1t 3 q 0 l 1 1 0 6t 1 fn4 0 43 g gt f xc 0 1g7 2 4 0 4l",
     "1 fv 5 1t 4 1 0 9h 0 1g 0 2 2 1y a 1d 3 5c 0 15 0 20 1 3c 1 1q 0 24 0 9 2 2w 1 4y",
     "1 28 1 g 0 o 6 3 4 2h 2 1 1 d 1 2n 0 3 0 3f 1 6z 1 3i 0 3a 1 37 0 7h 1 76 1 4 0 4c",
     "0 2b 0 i 0 29 0 bp 0 76 0 1 1 29 0 bt 1 n 0 44s e 8ux 0 1xc 4 1n 6 9 3 e4 2 gc 3",
     "25 1 1 0 c 3 irw 19 2 m f4 2 3 5 8 7 2 6 u 3 32a d a8 0 1p 3 e3 0 76 1 7j 0 cw 6",
     "31 2 1 3 23z 4"]⟩,
  ⟨["emoji"], [],
    ["z 0 6 0 5 9 33 0 4 0 68d 0 c 0 60 0 m 0 2i 5 f 1 a7 1 c 0 4m 0 p a 4 2 5j 0 6f 1 a",
     "0 9 0 1m 3 1 4 9 0 2 0 2 1 2 0 4 0 2 0 1 1 2 0 3 0 3 1 8 2 5 0 1 0 5 b b 1 2 0 1 1",
     "1 0 i 0 2 1 i 5 1 0 1 1 3 1 5 0 2 1 4 1 b 1 5 1 2 0 5 1 1 0 1 1 k 1 5 5 1 3 2 0 4",
     "0 2 0 2 5 1 0 2 0 1 0 1 0 6 0 3 0 6 0 a 1 f 0 2 0 4 0 1 0 4 2 1 0 b 1 1c 2 9 0 e 0",
     "e 0 ac 1 cv 2 j 1 1f 0 4 0 yi 0 c 0 gp 0 1 0 2fze 0 5m 0 4g 1 c 1 e 0 2 9 23 p 1 1",
     "n 0 k 0 2 8 l 1 4u x 2 33 2 1 1 2 2 2a 2 2 1 7a 1 1q b 5 1 n 7 1 2 7 c 0 2 3 2 0 4",
     "1 d 1 2 0 8 1 9 0 5 2 c 2 8 2 2 0 1 0 4 0 6 0 3 0 6 2d 1c 1x 5 7 2 3 3 9 3 0 1 1 3",
     "0 2 9 6b b 4 0 7v 1a 1 9 1 54 34 c 3 a 3 1k 1 0 4 f 2 b 4 9"]⟩,
  ⟨["emojicomponent", "ecomp"], [],
    ["z 0 6 0 5 9 6ab 0 5x 0 17or 0 1c5y p e3 4 14g 3 gw30 2n"]⟩,
  ⟨["emojimodifier", "emod"], [],
    ["2qrf 4"]⟩,
  ⟨["emojimodifierbase", "ebase"], [],
    ["7j1 0 63 0 g 3 2iyf 0 1o 2 2 0 2 2 39 1 2 a l i 3 0 4 2 1 2 7 0 1 0 o 0 5l 1 4 0 l",
     "0 4 1 4u 2 3 4 2b 0 g 2 9 0 b 0 fz 0 2 0 8 7 6 0 9 9 2 2 1k 0 1p 1 1 1 1 0 h 2 1 c",
     "6d 2 16 8"]⟩,
  ⟨["emojipresentation", "epres"], [],
    ["6xm 1 5p 3 3 0 2 0 eh 1 l 1 1e b 17 0 j 0 d 0 8 1 h 1 5 1 8 0 5 0 l 0 7 1 1 0 4 0",
     "2 0 7 0 4 1 s 0 z 0 1 0 4 2 1 0 1p 2 o 0 e 0 nv 1 1f 0 4 0 2hf2 0 5m 0 5a 0 2 9 23",
     "p 1 0 o 0 k 0 2 4 1 2 l 1 4u w c 8 1 1x 1 l c 16 4 4 c g 3 0 3 1y 1 0 1 56 2 1q d",
     "3 1 n i 0 q 1 d 0 2e 2c 1c 1x 6 0 3 2 2 3 3 3 b 1 7 8 6b b 4 0 7v 1a 1 9 1 54 34 c",
     "3 a 3 1k 1 0 4 f 2 b 4 9"]⟩,
  ⟨["extendedpictographic", "extpict"], [],
    ["4p 0 4 0 68d 0 c 0 60 0 m 0 2i 5 f 1 a7 1 c 0 4m 0 p a 4 2 5j 0 6f 1 a 0 9 0 1m 3",
     "1 4 9 0 2 0 2 1 2 0 4 0 2 0 1 1 2 0 3 0 3 1 8 2 5 0 1 0 5 b b 1 2 0 1 1 1 0 i 0 2",
     "1 i 5 1 0 1 1 3 1 5 0 2 1 4 1 b 1 5 1 2 0 5 1 1 0 1 1 k 1 5 5 1 3 2 0 4 0 2 0 2 5",
     "1 0 2 0 1 0 1 0 6 0 3 0 6 0 a 1 f 0 2 0 4 0 1 0 4 2 1 0 b 1 1c 2 9 0 e 0 e 0 ac 1",
     "cv 2 j 1 1f 0 4 0 yi 0 c 0 gp 0 1 0 2fze 0 13 3 2s b f 1 f 0 e 1 11 9 34 1 c 1 e 0",
     "2 9 j 1j r e a 0 k 0 2 8 1 3 9 m 6 57 2 33 2 1 1 2 2 2a 2 2 1 3 5 71 1 1q b 5 1 n",
     "7 1 2 7 c 0 2 3 2 0 4 1 d 1 2 0 8 1 9 0 5 2 c 2 8 2 2 0 1 0 4 0 6 0 3 0 6 2d 1c 1x",
     "5 7 2 g 3 0 1 5 2 c 62 11 c 3 1k 7 a 5 14 7 u 1 c 3 2 d 9 12 c 1a 1 9 1 54 2g 7 e",
     "41 74 sd"]⟩,
  ⟨["extender", "ext"], [],
    ["53 0 ew 1 oe 0 c9 0 hi 0 3t 0 2h 0 kw 0 3j 0 1tv 0 1k 0 gz 0 b2 0 1w 0 3ux 0 17 4",
     "2v 1 2l 2 lxy 0 16e 0 qq 0 m 0 3t 0 30 0 l 1 gor 0 1lc 1 157 0 r 0 4 0 xz 0 85 0",
     "38 1 du 2 y7 0 n4 0 fag 1 ws 1 1 0 e 1 mdk 1 xd 0 no 2"]⟩,
  ⟨["graphemebase", "grbase"], [.lu, .ll, .lt, .lm, .lo, .mc, .nd, .nl, .no, .pc, .pd, .ps, .pe,
    .pi, .pf, .po, .sm, .sc, .sk, .so, .zs],
    ["1xa 0 o 0 9y 0 o 0 2u 0 o 0 6g 0 1 0 4 1 1 1 9 1 2v 0 o 0 3b 0 f 0 1th 0 u 0 sg 0",
     "5 0 1 0 5 1 2t 0 1z 1 3zu 1 nxf 0 30 0 gyl 1 3kw 0 38 0 7c 0 e 0 9 0 2o 0 9 0 2 0",
     "1 2 5 0 68 0 c 0 6p 0 7a 0 hl 0 c 0 16r 0 fxq 1 j8z 1 6 5"]⟩,
  ⟨["graphemeextend", "grext"], [.mn, .me, .cf],
    ["4t 0 11u 5 m 0 5c 0 1d 0 ao 1 28 0 63 0 o 0 9y 0 o 0 2u 0 o 0 6g 0 1 0 4 1 1 1 9 1",
     "2v 0 o 0 3b 0 f 0 1th 0 u 0 61 0 me 0 5 0 1 0 5 1 2t 0 1z 1 t3 0 1 2 q 4 1d 4 1 9",
     "33y 1 nxf 0 30 0 gu6 0 4e 1 2h 2 3b5 0 f 0 6q 0 38 0 7c 0 e 0 9 0 2o 0 9 0 2 0 1 2",
     "5 0 68 0 c 0 6p 0 7a 0 hl 0 c 0 16r 0 44u f bsg 1 f5a 3 43l 1 6 d h406 0"]⟩,
  ⟨["hexdigit", "hex"], [],
    ["1c 9 7 5 q 5 1eax 9 7 5 q 5"]⟩,
  ⟨["idsbinaryoperator", "idsb"], [],
    ["9gw 1 2 9 dt 0"]⟩,
  ⟨["idstrinaryoperator", "idst"], [],
    ["9gy 1"]⟩,
  ⟨["idcontinue", "idc"], [.lu, .ll, .lt, .lm, .lo, .mn, .mc, .nd, .nl, .pc],
    ["53 0 jz 0 34x 8 19k 0 181 1 7e 0 l 0 2kg 0 h7 1 2m 0 14rt 0"]⟩,
  ⟨["idstart", "ids"], [.lu, .ll, .lt, .lm, .lo, .nl],
    ["4ud 1 1ox 0 l 0 2kg 0 h7 1"]⟩,
  ⟨["ideographic", "ideo"], [],
    ["9hi 1 p 8 e 2 qt 533 1s g73 hkw a5 2 2x n4a 0 d 4 9 5p1 15 v 2p 36 70d az f7o wyn",
     "w 3dp 2 4gd 2 5rk f h9 1wi f1 15u 3t6 5 6jt"]⟩,
  ⟨["joincontrol", "joinc"], [],
    ["6bw 1"]⟩,
  ⟨["logicalorderexception", "loe"], [],
    ["2tc 4 3f 4 25s 2 2 0 smy 1 2 0 1 1"]⟩,
  ⟨["lowercase", "lower"], [.ll, .lm],
    ["4q 0 f 0 e6 6 6 b q 0 1 0 2e 0 1a 0 dg 0 6e 0 4k 1 7h 1 4 0 v 0 9 0 3 0 4g 0 4n 0",
     "yc 0 3j 0 1sg 0 2z 0 gz 0 cw 5 z6 f nk p 1ol 0 5b 0 d1 0 17 4 5 0 2p 1 2l 2 lxy 0",
     "yq 5 7i 0 36 0 47 8 2w 0 g6 0 m 0 3t 0 30 0 l 1 gor 0 19 1 1k1 1 157 0 w 0 9h 0",
     "2z7 0 fae 3 e4 2 14 1 fa c 1s 1 1 0 e 1 cn0 3 1 6 1 1 9q0 6 q5 0 er 0 gb 0"]⟩,
  ⟨["math"], [.sm],
    ["2m 0 oh 2 2 0 q 1 2 1 5k0 0 r 2 b 0 w 3 o 1 e 1 1t c 4 0 3 1 4 4 i 0 4 0 2 9 1 0 3",
     "4 6 0 3 1 2 1 1 2 1 5 3 3 5 4 23 4 2 3 1 1 1 1 1 0 1 4 2 1 4 1 4 h 2 1 1 0 1 6 1 0",
     "6 1 82 3 4o 1 1 0 o 0 h 0 cd 1 c 8 5 4 5 1 2 1 3 4 e 0 1 0 2 5 o 1 1l 0 1 0 t 3 9",
     "1 9i 1 v 9 b7 l 1r 3 w 1 15yb 0 1 0 4 0 5v 0 1 0 160x 2c 1 1y 1 1 2 0 2 1 2 3 1 b",
     "1 0 1 6 1 1s 1 3 2 7 1 6 1 r 1 3 1 4 1 0 3 6 1 9f 2 o 1 o 1 u 1 o 1 u 1 o 1 u 1 o",
     "1 u 1 o 1 7 2 1d 4cg 3 1 q 1 1 1 0 2 0 1 9 1 3 1 0 1 0 6 0 4 0 1 0 1 0 1 2 1 1 1 0",
     "2 0 1 0 1 0 1 0 1 0 1 1 1 0 2 3 1 6 1 3 1 3 1 0 1 9 1 g 5 2 1 4 1 g"]⟩,
  ⟨["noncharactercodepoint", "nchar"], [],
    ["1e4w v em 1 1eke 1 1eke 1 1eke 1 1eke 1 1eke 1 1eke 1 1eke 1 1eke 1 1eke 1 1eke 1",
     "1eke 1 1eke 1 1eke 1 1eke 1 1eke 1 1eke 1"]⟩,
  ⟨["patternsyntax", "patsyn"], [],
    ["x e a 6 q 3 1 0 q 3 y 6 1 0 1 1 1 0 1 1 4 0 4 0 3 0 n 0 v 0 654 n 8 e 2 i 1 9 8h",
     "jz 4g hh u vf e8 3j ap 2 4 o f 0 14i5 1 79 1"]⟩,
  ⟨["patternwhitespace", "patws"], [.zl, .zp],
    ["9 4 i 0 2s 0 688 1"]⟩,
  ⟨["quotationmark", "qmark"], [],
    ["y 0 4 0 3n 0 f 0 670 7 p 1 2rr 0 cp 3 d 2 14pt 3 59 0 4 0 2i 1"]⟩,
  ⟨["radical"], [],
    ["96o p 1 2g c 5x"]⟩,
  ⟨["regionalindicator", "ri"], [],
    ["2qcm p"]⟩,
  ⟨["sentenceterminal", "sterm"], [],
    ["x 0 c 0 g 0 11l 0 43 2 50 0 17 2 6u 0 1p 0 1 0 3 1 85 1 1d0 1 ly 0 4 1 lh 0 5i 1",
     "4d 1 19 0 5 0 8q 1 9u 3 4i 1 a 1 2 1 t 2 57 1 1t 1 pw 0 n 1 9 2 2i7 2 8i 0 d 0 m 1",
     "bx 0 n3w 0 7i 1 6b 0 3 0 am 1 2e 1 2n 0 48 1 43 2 40 1 6x 0 g86 0 2 1 1n 0 3 1 4p",
     "0 c 0 g 0 1t 0 25w 1 zh 4 18 3 59 1 39 3 3j 2 3l 1 6 0 g 1 2g 1 1 1 30 0 8a 1 39 1",
     "ad 1 5 e 2x 1 6x 2 ed 0 1 0 6z 1 2f 1 bo 1 j8 1 22 1 euh 1 3p 0 1t 1 b 0 fd 1 88 0",
     "feu 0 5wo 0"]⟩,
  ⟨["softdotted", "sd"], [],
    ["2x 1 5g 0 7t 0 u 0 1g 0 k 0 8w 0 2q 0 1 0 4y1 0 1f 0 d 0 3 0 3o 0 4d 0 bp 0 5y 1",
     "27m 0 2bol 1 1e 1 1e 1 1e 1 1e 1 1e 1 1e 1 1e 1 1e 1 1e 1 1e 1 1e 1 1e 1 1om 0 8h",
     "1 q 0"]⟩,
  ⟨["terminalpunctuation", "term"], [],
    ["x 0 a 0 1 0 b 1 3 0 n2 0 8 0 e9 0 1l 0 20 0 e 0 1 2 50 0 17 a 1 0 6j 1 1i 5 1 7 v",
     "0 79 1 z8 1 4s 0 4 5 8n 1 lx 7 lh 0 3g 2 1z 1 4d 2 3 0 13 3 2 1 8q 1 9u 3 4i 1 a 1",
     "1 2 t 2 57 4 1q 1 pw 0 n 1 9 2 2i7 2 8i 0 d 0 4 0 a 0 1 1 3 1 bw 1 n3v 1 7h 2 6b 4",
     "am 1 2e 1 2n 0 47 2 43 2 3j 0 g 1 6x 0 g86 0 2 1 1l 2 1 3 4p 0 a 0 1 0 b 1 3 0 1t",
     "0 2 0 u2 0 1c 0 w6 0 5j 0 8m 1 48 5 1w 5 2h 3 qg 4 18 3 59 6 34 3 3j 2 3l 1 6 0 g",
     "1 2g 4 30 0 8a 1 39 2 c 1 9y 3 3 e 2x 1 6x 2 ed 0 1 0 6z 1 2f 1 4 1 bi 2 19 0 hx 1",
     "22 1 10r 4 dtl 1 3p 0 1t 2 a 0 fd 1 87 1 feu 0 5wn 3"]⟩,
  ⟨["unifiedideograph", "uideo"], [],
    ["a9s 533 1s g73 hse 1 1 0 1 1 a 0 1 0 1 1 2 2 1fpy wyn w 3dp 2 4gd 2 5rk f h9 3he",
     "3t6 5 6jt"]⟩,
  ⟨["uppercase", "upper"], [.lu],
    ["6lc f na p 2ixs p 6 p 6 p"]⟩,
  ⟨["variationselector", "vs"], [],
    ["4qz 2 1 0 19f4 f i9yo 6n"]⟩,
  ⟨["whitespace", "wspace", "space"], [.zs, .zl, .zp],
    ["9 4 3b 0"]⟩,
  ⟨["xidcontinue", "xidc"], [.lu, .ll, .lt, .lm, .lo, .mn, .mc, .nd, .nl, .pc],
    ["53 0 jm 0 c 0 34x 8 19k 0 181 1 7e 0 l 0 2kg 0 jv 0 146a 5 ba 1 38 0 1 0 1 0 1 0 1",
     "0 1 0 1 0 1 0 6e 0"]⟩,
  ⟨["xidstart", "xids"], [.lu, .ll, .lt, .lm, .lo, .nl],
    ["oq 0 248 0 3j 0 1xt 1 1ox 0 l 0 2kg 0 14q6 5 ba 1 38 0 1 0 1 0 1 0 1 0 1 0 1 0 1 0",
     "7z 1"]⟩]

def chars (p : Property) : CharSet :=
  CharSet.symmDiff (Category.charsOf p.categories) (CharSet.ofRuns p.runs)

/-- The characters of the property with the given name. -/
def ofName (name : String) : Option CharSet :=
  (named.find? fun p => p.names.contains name).map chars

/-- The characters of a property that is listed above. -/
def charsNamed (name : String) : CharSet := (ofName name).getD []

end Property

end AgentWorkflow.Text.Unicode
