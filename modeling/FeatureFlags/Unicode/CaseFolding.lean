/-
# Characters that differ in case only

Characters with the same simple case folding form an orbit, such as `k`, `K` and
the Kelvin sign. Only orbits of two or more characters are stored. Each row gives
the distance of its first code point from the first one of the row before, and
then the distances inside the orbit, in base 36.

Key definitions:
* `Unicode.orbits`: the orbits, by ascending first member.
* `Unicode.orbitOf`: the characters that fold like a given one.
-/
import FeatureFlags.Unicode.Inversion

namespace FeatureFlags
namespace Unicode

/-- The orbits of a table text, the first row counted from `start`. -/
def readOrbits : Nat → List (List Nat) → List (List Nat)
  | _, [] => []
  | _, [] :: rows => readOrbits 0 rows
  | start, (d :: inner) :: rows =>
    ((start + d) :: Borders.sums (start + d) inner) :: readOrbits (start + d) rows

/-- The code points of every orbit. -/
def orbits : List (List Nat) :=
  readOrbits 0 ((cut (· = ',') orbitTable.toList).map Borders.numbers)
where
  /-- The distances that make up the orbits. -/
  orbitTable : String :=
  "1t w,1 w,1 w,1 w,1 w,1 w,1 w,1 w,1 w,1 w,1 w 6gv,1 w,1 w,1 w,1 w,1 w,1 w,1 w,1 w 7g,1 w,1 w,
   1 w,1 w,1 w,1 w,1 w,2j kn w,b w,1 w,1 w,1 w,1 w,1 w 6di,1 w,1 w,1 w,1 w,1 w,1 w,1 w,1 w,1 w,
   1 w,1 w,1 w,1 w,1 w,1 w,1 w,1 w,2 w,1 w,1 w,1 w,1 w,1 w,1 w,1 5vj,w 3d,1 1,2 1,2 1,2 1,2 1,
   2 1,2 1,2 1,2 1,2 1,2 1,2 1,2 1,2 1,2 1,2 1,2 1,2 1,2 1,2 1,2 1,2 1,2 1,2 1,4 1,2 1,2 1,3 1,
   2 1,2 1,2 1,2 1,2 1,2 1,2 1,3 1,2 1,2 1,2 1,2 1,2 1,2 1,2 1,2 1,2 1,2 1,2 1,2 1,2 1,2 1,2 1,
   2 1,2 1,2 1,2 1,2 1,2 1,2 1,3 1,2 1,2 1,3 5f,1 5u,1 1,2 1,2 5q,1 1,2 5p,1 5p,1 1,3 27,1 5m,
   1 5n,1 1,2 5p,1 5r,1 2p,1 5v,1 5t,1 1,2 4j,2 5v,1 5x,1 3m,1 5y,1 1,2 1,2 1,2 62,1 1,2 62,3 1,
   2 62,1 1,2 61,1 61,1 1,2 1,2 63,1 1,4 1,3 1k,5 1 1,3 1 1,3 1 1,3 1,2 1,2 1,2 1,2 1,2 1,2 1,
   2 1,3 1,2 1,2 1,2 1,2 1,2 1,2 1,2 1,2 1,3 1 1,3 1,4 1,2 1,2 1,2 1,2 1,2 1,2 1,2 1,2 1,2 1,
   2 1,2 1,2 1,2 1,2 1,2 1,2 1,2 1,2 1,2 1,4 1,2 1,2 1,2 1,2 1,2 1,2 1,2 1,2 1,8 8bv,1 1,3 8bs,
   1 8cf,1 8cf,1 1,3 1x,1 1z,1 1,2 1,2 1,2 1,2 1,2 8bj,1 8bg,1 8bi,a wnj,5 wnf,4 wmg,1 wn8,
   4 wn8,1 8af,1 wn5,5 8al,c 89z,5 wn7,5 wmi,m wlx,1 wlu,4n 2c w 5j9,17 1,2 1,4 1,5 3m,1 3m,
   1 3m,2 38,7 12,2 11,1 11,1 11,2 1s,2 1r,1 1r,2 w,1 w u,1 w,1 w,1 w 1s,1 w,1 w,1 w p z,2 w 1i,
   1 w,2 w,1 w,1 w,1 w m,1 w 1c,2 v 1,1 w,1 w,1 w f,1 w,1 w,1 w 5st,1 w,1 w,10 8,9 1,2 1,2 1,
   2 1,2 1,2 1,2 1,2 1,2 1,2 1,2 1,2 1,4 7,5 1,3 1,6 28,1 28,1 28,1 28,1 28,1 28,1 28,1 28,1 28,
   1 28,1 28,1 28,1 28,1 28,1 28,1 28,1 w,1 w,1 w 4su,1 w,1 w 4st,1 w,1 w,1 w,1 w,1 w,1 w,1 w,
   1 w,1 w,1 w 4sk,1 w,1 w,1 w 4si,1 w 4si 1,1 w,1 w,1 w,1 w,1 w,1 w,1 w,1 w 4sc,1 w,1 w,1 w,
   1 w,1 w,1d 1,2 1 4ro,2 1,2 1,2 1,2 1,2 1,2 1,2 1,2 1,2 1,2 1,2 1,2 1,2 1,2 1,2 1,a 1,2 1,2 1,
   2 1,2 1,2 1,2 1,2 1,2 1,2 1,2 1,2 1,2 1,2 1,2 1,2 1,2 1,2 1,2 1,2 1,2 1,2 1,2 1,2 1,2 1,2 1,
   2 1,2 f,1 1,2 1,2 1,2 1,2 1,2 1,2 1,3 1,2 1,2 1,2 1,2 1,2 1,2 1,2 1,2 1,2 1,2 1,2 1,2 1,2 1,
   2 1,2 1,2 1,2 1,2 1,2 1,2 1,2 1,2 1,2 1,2 1,2 1,2 1,2 1,2 1,2 1,2 1,2 1,2 1,2 1,2 1,2 1,2 1,
   2 1,2 1,2 1,2 1,2 1,2 1,2 1,2 1,2 1,2 1,2 1,3 1c,1 1c,1 1c,1 1c,1 1c,1 1c,1 1c,1 1c,1 1c,
   1 1c,1 1c,1 1c,1 1c,1 1c,1 1c,1 1c,1 1c,1 1c,1 1c,1 1c,1 1c,1 1c,1 1c,1 1c,1 1c,1 1c,1 1c,
   1 1c,1 1c,1 1c,1 1c,1 1c,1 1c,1 1c,1 1c,1 1c,1 1c,1 1c,28a 5ls,1 5ls,1 5ls,1 5ls,1 5ls,1 5ls,
   1 5ls,1 5ls,1 5ls,1 5ls,1 5ls,1 5ls,1 5ls,1 5ls,1 5ls,1 5ls,1 5ls,1 5ls,1 5ls,1 5ls,1 5ls,
   1 5ls,1 5ls,1 5ls,1 5ls,1 5ls,1 5ls,1 5ls,1 5ls,1 5ls,1 5ls,1 5ls,1 5ls,1 5ls,1 5ls,1 5ls,
   1 5ls,1 5ls,2 5ls,6 5ls,3 2bk,1 2bk,1 2bk,1 2bk,1 2bk,1 2bk,1 2bk,1 2bk,1 2bk,1 2bk,1 2bk,
   1 2bk,1 2bk,1 2bk,1 2bk,1 2bk,1 2bk,1 2bk,1 2bk,1 2bk,1 2bk,1 2bk,1 2bk,1 2bk,1 2bk,1 2bk,
   1 2bk,1 2bk,1 2bk,1 2bk,1 2bk,1 2bk,1 2bk,1 2bk,1 2bk,1 2bk,1 2bk,1 2bk,1 2bk,1 2bk,1 2bk,
   1 2bk,1 2bk,3 2bk,1 2bk,1 2bk,ip tzk,1 tzk,1 tzk,1 tzk,1 tzk,1 tzk,1 tzk,1 tzk,1 tzk,1 tzk,
   1 tzk,1 tzk,1 tzk,1 tzk,1 tzk,1 tzk,1 tzk,1 tzk,1 tzk,1 tzk,1 tzk,1 tzk,1 tzk,1 tzk,1 tzk,
   1 tzk,1 tzk,1 tzk,1 tzk,1 tzk,1 tzk,1 tzk,1 tzk,1 tzk,1 tzk,1 tzk,1 tzk,1 tzk,1 tzk,1 tzk,
   1 tzk,1 tzk,1 tzk,1 tzk,1 tzk,1 tzk,1 tzk,1 tzk,1 tzk,1 tzk,1 tzk,1 tzk,1 tzk,1 tzk,1 tzk,
   1 tzk,1 tzk,1 tzk,1 tzk,1 tzk,1 tzk,1 tzk,1 tzk,1 tzk,1 tzk,1 tzk,1 tzk,1 tzk,1 tzk,1 tzk,
   1 tzk,1 tzk,1 tzk,1 tzk,1 tzk,1 tzk,1 tzk,1 tzk,1 tzk,1 tzk,1 8,1 8,1 8,1 8,1 8,1 8,
   1oz r7m 1,6p r9g,4 2xy,h raw,36 1,2 1,2 1,2 1,2 1,2 1,2 1,2 1,2 1,2 1,2 1,2 1,2 1,2 1,2 1,
   2 1,2 1,2 1,2 1,2 1,2 1,2 1,2 1,2 1,2 1,2 1,2 1,2 1,2 1,2 1,2 1,2 1,2 1,2 1,2 1,2 1,2 1,2 1,
   2 1,2 1,2 1,2 1,2 1,2 1,2 1,2 1,2 1,2 1,2 1 1m,2 1,2 1,2 1,2 1,2 1,2 1,2 1,2 1,2 1,2 1,2 1,
   2 1,2 1,2 1,2 1,2 1,2 1,2 1,2 1,2 1,2 1,2 1,2 1,2 1,2 1,2 1,c 1,2 1,2 1,2 1,2 1,2 1,2 1,2 1,
   2 1,2 1,2 1,2 1,2 1,2 1,2 1,2 1,2 1,2 1,2 1,2 1,2 1,2 1,2 1,2 1,2 1,2 1,2 1,2 1,2 1,2 1,2 1,
   2 1,2 1,2 1,2 1,2 1,2 1,2 1,2 1,2 1,2 1,2 1,2 1,2 1,2 1,2 1,2 1,2 1,2 8,1 8,1 8,1 8,1 8,1 8,
   1 8,1 8,9 8,1 8,1 8,1 8,1 8,1 8,b 8,1 8,1 8,1 8,1 8,1 8,1 8,1 8,9 8,1 8,1 8,1 8,1 8,1 8,1 8,
   1 8,9 8,1 8,1 8,1 8,1 8,1 8,c 8,2 8,2 8,2 8,9 8,1 8,1 8,1 8,1 8,1 8,1 8,1 8,9 22,1 22,1 2e,
   1 2e,1 2e,1 2e,1 2s,1 2s,1 3k,1 3k,1 34,1 34,1 3i,1 3i,3 8,1 8,1 8,1 8,1 8,1 8,1 8,1 8,9 8,
   1 8,1 8,1 8,1 8,1 8,1 8,1 8,9 8,1 8,1 8,1 8,1 8,1 8,1 8,1 8,9 8,1 8,2 9,g 9,d 8,1 8,f 8,1 8,
   4 7,e 9,8v s,1a g,1 g,1 g,1 g,1 g,1 g,1 g,1 g,1 g,1 g,1 g,1 g,1 g,1 g,1 g,1 g,k 1,mr q,1 q,
   1 q,1 q,1 q,1 q,1 q,1 q,1 q,1 q,1 q,1 q,1 q,1 q,1 q,1 q,1 q,1 q,1 q,1 q,1 q,1 q,1 q,1 q,1 q,
   1 q,1f5 1c,1 1c,1 1c,1 1c,1 1c,1 1c,1 1c,1 1c,1 1c,1 1c,1 1c,1 1c,1 1c,1 1c,1 1c,1 1c,1 1c,
   1 1c,1 1c,1 1c,1 1c,1 1c,1 1c,1 1c,1 1c,1 1c,1 1c,1 1c,1 1c,1 1c,1 1c,1 1c,1 1c,1 1c,1 1c,
   1 1c,1 1c,1 1c,1 1c,1 1c,1 1c,1 1c,1 1c,1 1c,1 1c,1 1c,1 1c,1 1c,1d 1,7 1,2 1,2 1,7 1,3 1,
   b 1,2 1,2 1,2 1,2 1,2 1,2 1,2 1,2 1,2 1,2 1,2 1,2 1,2 1,2 1,2 1,2 1,2 1,2 1,2 1,2 1,2 1,2 1,
   2 1,2 1,2 1,2 1,2 1,2 1,2 1,2 1,2 1,2 1,2 1,2 1,2 1,2 1,2 1,2 1,2 1,2 1,2 1,2 1,2 1,2 1,2 1,
   2 1,2 1,2 1,2 1,9 1,2 1,5 1,nym 1,2 1,2 1,2 1,2 1,4 1,2 1,2 1,2 1,2 1,2 1,2 1,2 1,2 1,2 1,
   2 1,2 1,2 1,2 1,2 1,2 1,2 1,k 1,2 1,2 1,2 1,2 1,2 1,2 1,2 1,2 1,2 1,2 1,2 1,2 1,2 1,3s 1,2 1,
   2 1,2 1,2 1,2 1,2 1,4 1,2 1,2 1,2 1,2 1,2 1,2 1,2 1,2 1,2 1,2 1,2 1,2 1,2 1,2 1,2 1,2 1,2 1,
   2 1,2 1,2 1,2 1,2 1,2 1,2 1,2 1,2 1,2 1,2 1,2 1,2 1,b 1,2 1,3 1,2 1,2 1,2 1,2 1,5 1,5 1,2 1,
   2 1c,2 1,2 1,2 1,2 1,2 1,2 1,2 1,2 1,2 1,2 1,b ps,1 1,2 1,2 1,2 1,2 1,2 1,2 1,2 1,5 1,2 1,
   7 1,6 1,2 1,t 1,h7w w,1 w,1 w,1 w,1 w,1 w,1 w,1 w,1 w,1 w,1 w,1 w,1 w,1 w,1 w,1 w,1 w,1 w,
   1 w,1 w,1 w,1 w,1 w,1 w,1 w,1 w,xy 14,1 14,1 14,1 14,1 14,1 14,1 14,1 14,1 14,1 14,1 14,1 14,
   1 14,1 14,1 14,1 14,1 14,1 14,1 14,1 14,1 14,1 14,1 14,1 14,1 14,1 14,1 14,1 14,1 14,1 14,
   1 14,1 14,1 14,1 14,1 14,1 14,1 14,1 14,1 14,1 14,3t 14,1 14,1 14,1 14,1 14,1 14,1 14,1 14,
   1 14,1 14,1 14,1 14,1 14,1 14,1 14,1 14,1 14,1 14,1 14,1 14,1 14,1 14,1 14,1 14,1 14,1 14,
   1 14,1 14,1 14,1 14,1 14,1 14,1 14,1 14,1 14,1 14,4d 13,1 13,1 13,1 13,1 13,1 13,1 13,1 13,
   1 13,1 13,1 13,2 13,1 13,1 13,1 13,1 13,1 13,1 13,1 13,1 13,1 13,1 13,1 13,1 13,1 13,1 13,
   2 13,1 13,1 13,1 13,1 13,1 13,1 13,2 13,1 13,1d7 1s,1 1s,1 1s,1 1s,1 1s,1 1s,1 1s,1 1s,1 1s,
   1 1s,1 1s,1 1s,1 1s,1 1s,1 1s,1 1s,1 1s,1 1s,1 1s,1 1s,1 1s,1 1s,1 1s,1 1s,1 1s,1 1s,1 1s,
   1 1s,1 1s,1 1s,1 1s,1 1s,1 1s,1 1s,1 1s,1 1s,1 1s,1 1s,1 1s,1 1s,1 1s,1 1s,1 1s,1 1s,1 1s,
   1 1s,1 1s,1 1s,1 1s,1 1s,1 1s,2cu w,1 w,1 w,1 w,1 w,1 w,1 w,1 w,1 w,1 w,1 w,1 w,1 w,1 w,1 w,
   1 w,1 w,1 w,1 w,1 w,1 w,1 w,1 w,1 w,1 w,1 w,1 w,1 w,1 w,1 w,1 w,1 w,gw1 w,1 w,1 w,1 w,1 w,
   1 w,1 w,1 w,1 w,1 w,1 w,1 w,1 w,1 w,1 w,1 w,1 w,1 w,1 w,1 w,1 w,1 w,1 w,1 w,1 w,1 w,1 w,1 w,
   1 w,1 w,1 w,1 w,o81 y,1 y,1 y,1 y,1 y,1 y,1 y,1 y,1 y,1 y,1 y,1 y,1 y,1 y,1 y,1 y,1 y,1 y,
   1 y,1 y,1 y,1 y,1 y,1 y,1 y,1 y,1 y,1 y,1 y,1 y,1 y,1 y,1 y,1 y"

/-- The code points that fold like a given one, itself included. -/
def orbitOf (code : Nat) : List Nat :=
  (orbits.find? fun orbit => orbit.contains code).getD [code]

end Unicode
end FeatureFlags
