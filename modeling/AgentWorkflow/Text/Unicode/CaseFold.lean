/-
Simple case folding.

* `CaseFold.pairs` — runs of characters that differ in case alone: the first of
  the lower half, the distance to its partner, the step, and the length.
* `CaseFold.families` — the families of three and more.
* `CaseFold.close` — a set of characters with all that differ from its members
  in case alone.
-/
import AgentWorkflow.Text.CharSet

namespace AgentWorkflow.Text.Unicode.CaseFold

/-- A run of pairs. -/
structure PairRun where
  first : Nat
  distance : Nat
  step : Nat
  count : Nat

/-- Reads the numbers of the runs, four at a time. -/
def pairRuns : List Nat → List PairRun
  | a :: b :: c :: d :: rest => ⟨a, b, c, d⟩ :: pairRuns rest
  | _ => []

def pairs : List PairRun := pairRuns (CharSet.numbers
    ["1t w 1 a 24 w 2 8 25 w 2 3 2d w 2 3 5c w 2 g 5d w 2 2 5j w 2 8 61 w 2 3 67 5vj 1 1",
     "73 3d 1 1 74 1 2 o 8i 1 2 3 8p 1 2 8 96 1 2 n ah 1 2 3 ao 5f 1 1 ap 5u 1 1 aq 1 2",
     "2 au 5q 1 1 av 1 1 1 ax 5p 1 2 az 1 1 1 b2 27 1 1 b3 5m 1 1 b4 5n 1 1 b5 1 1 1 b7",
     "5p 1 1 b8 5r 1 1 b9 2p 1 1 ba 5v 1 1 bb 5t 1 1 bc 1 1 1 be 4j 1 1 bf wu9 1 1 bg 5v",
     "1 1 bh 5x 1 1 bi 3m 1 1 bj 5y 1 1 bk 1 2 3 bq 62 1 1 br 1 1 1 bt 62 1 1 bw 1 1 1",
     "by 62 1 1 bz 1 1 1 c1 61 1 2 c3 1 2 2 c7 63 1 1 c8 1 1 1 cc 1 1 1 cf 1k 1 1 ct 1 2",
     "8 da 1 2 9 dw 1 1 1 e0 1 2 k f6 1 2 9 fu 8bv 1 1 fv 1 1 1 fy 8bs 1 1 fz 8cf 1 2 g1",
     "1 1 1 g4 1x 1 1 g5 1z 1 1 g6 1 2 5 gg 8bj 1 1 gh 8bg 1 1 gi 8bi 1 1 gs wnj 1 1 gx",
     "wnf 1 1 h0 wo7 1 1 h1 wmg 1 1 h2 wn8 1 1 h6 wn8 1 1 h7 8af 1 1 h8 wn5 1 1 hd 8al 1",
     "1 hp 89z 1 1 hu wn7 1 1 hz wmi 1 1 il wlx 1 1 im wlu 1 1 og 1 2 2 om 1 1 1 or 3m 1",
     "3 ov 38 1 1 p2 12 1 1 p4 11 1 3 p8 1s 1 1 pa 1r 1 2 pd w 2 2 pg w 2 2 pj w 1 1 pn",
     "w 2 3 pq w 1 1 pw w 1 2 pz w 1 2 q2 w 1 2 r3 8 1 1 rc 1 2 c s2 7 1 1 s7 1 1 1 sa 1",
     "1 1 sg 28 1 g sw w 1 2 sz w 2 7 t2 w 2 4 tc w 1 1 tf w 1 7 tn w 1 5 v4 1 1 1 v8 1",
     "2 f wa 1 2 r xs f 1 1 xt 1 2 7 y8 1 2 1c 10x 1c 1 12 3a8 5ls 1 12 3bb 5ls 1 1 3bh",
     "5ls 1 1 3bk 2bk 1 17 3ct 2bk 1 3 3vk tzk 1 28 3xs 8 1 6 5mx 1 1 1 5tl r9g 1 1 5tp",
     "2xy 1 1 5u6 raw 1 1 5xc 1 2 1c 602 1 2 q 61s 1 2 1c 64g 8 1 8 64w 8 1 6 65c 8 1 8",
     "65s 8 1 8 668 8 1 6 66p 8 2 4 674 8 1 8 67k 22 1 2 67m 2e 1 4 67q 2s 1 2 67s 3k 1",
     "2 67u 34 1 2 67w 3i 1 2 680 8 1 8 68g 8 1 8 68w 8 1 8 69c 8 1 2 69f 9 1 1 69v 9 1",
     "1 6a8 8 1 2 6ao 8 1 2 6at 7 1 1 6b7 9 1 1 6k2 s 1 1 6lc g 1 g 6mb 1 1 1 792 q 1 q",
     "8ow 1c 1 1c 8rk 1 1 1 8rr 1 2 3 8s2 1 1 1 8s5 1 1 1 8sg 1 2 1e 8vf 1 2 2 8vm 1 1 1",
     "wu8 1 2 5 wuk 1 2 h ww0 1 2 e x0i 1 2 7 x0y 1 2 v x2x 1 2 2 x32 1 2 5 x3f 1 1 1",
     "x3k 1 2 2 x3o 1c 1 1 x3q 1 2 a x4j ps 1 1 x4k 1 2 8 x53 1 2 2 x58 1 2 8 x6d 1 1 1",
     "1ee9 w 1 q 1fcw 14 1 14 1fhs 14 1 10 1fn4 13 2 j 1fn5 13 2 5 1fnh 13 2 7 1fnx 13 2",
     "3 1fo5 13 1 1 1h1c 1s 1 1f 1h74 w 1 m 1jfk w 1 w 20cg w 1 w 20f4 r 1 p 2olc y 1 y"])

/-- The families of three and more. -/
def families : List (List Nat) := [
  [0x4b, 0x6b, 0x212a],
  [0x53, 0x73, 0x17f],
  [0xb5, 0x39c, 0x3bc],
  [0xc5, 0xe5, 0x212b],
  [0x1c4, 0x1c5, 0x1c6],
  [0x1c7, 0x1c8, 0x1c9],
  [0x1ca, 0x1cb, 0x1cc],
  [0x1f1, 0x1f2, 0x1f3],
  [0x345, 0x399, 0x3b9, 0x1fbe],
  [0x392, 0x3b2, 0x3d0],
  [0x395, 0x3b5, 0x3f5],
  [0x398, 0x3b8, 0x3d1, 0x3f4],
  [0x39a, 0x3ba, 0x3f0],
  [0x3a0, 0x3c0, 0x3d6],
  [0x3a1, 0x3c1, 0x3f1],
  [0x3a3, 0x3c2, 0x3c3],
  [0x3a6, 0x3c6, 0x3d5],
  [0x3a9, 0x3c9, 0x2126],
  [0x412, 0x432, 0x1c80],
  [0x414, 0x434, 0x1c81],
  [0x41e, 0x43e, 0x1c82],
  [0x421, 0x441, 0x1c83],
  [0x422, 0x442, 0x1c84, 0x1c85],
  [0x42a, 0x44a, 0x1c86],
  [0x462, 0x463, 0x1c87],
  [0x1c88, 0xa64a, 0xa64b],
  [0x1e60, 0x1e61, 0x1e9b]]

/-- Whether a set has a character at all in a span. -/
def meets (s : CharSet) (low high : Nat) : Bool :=
  s.any fun r => r.1 ≤ high && low ≤ r.2

/-- The partners that a run of pairs adds to a set. -/
def partners (s : CharSet) (r : PairRun) : List (Nat × Nat) :=
  let last := r.first + r.step * (r.count - 1)
  if !meets s r.first last && !meets s (r.first + r.distance) (last + r.distance) then []
  else
    (List.range r.count).flatMap fun i =>
      let low := r.first + i * r.step
      let high := low + r.distance
      (if CharSet.has s low then [(high, high)] else []) ++
        (if CharSet.has s high then [(low, low)] else [])

/-- A set with every character that differs from a member in case alone. -/
def close (s : CharSet) : CharSet :=
  CharSet.ofRanges (s ++ pairs.flatMap (partners s) ++
    (families.filter fun f => f.any (CharSet.has s)).flatMap fun f => f.map fun n => (n, n))

end AgentWorkflow.Text.Unicode.CaseFold
