import KeyspaceLink.Text.Table

/-! Characters without a form of their own: controls, formats, separators other than the
space, marks that extend the character before, and what is unassigned or private. -/

namespace KeyspaceLink

def formlessRuns : List (Nat × Nat) := Table.runs
  "0 w 2n y c 1 gi 34 8 2 6 4 7 1 1 1 k 1 68 7 4m 1 12 2 1e 2 3 1a 1 1 1 2 1 2 1 9 r 4 6 h a b 1
   1 1a l g 1 2t 8 1 6 2 2 1 4 w 2 1 1 u t 2h b 1 e 17 9 7 3 o 4 1 9 1 3 1 7 f 1 p 5 1 1 b 5 w g
   16 1l 1j 1 1 1 4 8 4 1 3 7 a 2 t 1 2 1 8 2 2 2 m 1 7 1 1 3 4 3 1 1 2 6 2 2 2 1 1 d 2 1 3 4 o
   5 1 1 6 4 2 2 m 1 7 1 2 1 2 1 2 4 3 o 4 1 1 7 a 2 3 1 1 c 1 1 9 1 3 1 m 1 7 1 2 1 5 3 4 8 1 1
   2 3 1 f 2 4 c 7 1 8 2 1 8 2 2 2 m 1 7 1 2 1 5 3 1 2 1 6 2 2 2 f 2 1 3 4 i b 1 1 6 3 3 1 4 3 2
   1 1 1 2 3 2 3 3 3 c 5 1 1 2 3 3 1 3 3 1 l l 6 3 1 8 1 3 1 n 1 g 3 1 3 4 j 3 1 2 2 2 4 a 7 a 1
   b 1 3 1 n 1 a 1 5 3 2 2 1 1 2 n 3 1 2 4 a 1 3 e b 1 3 1 15 2 1 1 2 5 3 1 3 1 2 4 3 1 a 4 q 2
   2 1 i 3 o 1 9 1 1 2 7 9 2 6 7 7 a 2 3 c 1c 1 2 b 8 8 d 11 2 1 1 1 5 1 o 1 1 1 a 1 2 9 1 2 5 1
   1 9 a 2 4 w o 2 r 1 1 1 1 1 e 1 10 i 1 5 1 2 5 1d 8 1 6 1 d 11 19 4 1 6 1 2 2 2 p 2 4 3 g 4 d
   1 2 2 6 1 f 1 14 1 1 5 1 2 ah 1 4 2 7 1 1 1 4 2 15 1 4 2 x 1 4 2 7 1 1 1 4 2 f 1 1l 1 4 2 1v
   5 t 3 q 6 2e 2 6 2 hs 1 s 3 2h 7 i d j 3 2 9 i e d 1 3 f 1g 2 1 7 8 1 2 b 9 3 a 6 a 6 b 5 a 6
   2h 7 5 2 y 1 1 5 1y a v 4 4 2 3 4 2 1 6 7 1 3 16 2 5 b 18 4 q 6 b 3 1l 2 2 3 1k 1 1 9 1 1 2 8
   6 d a 6 a 6 e 2e 1c a 4 3 8 1 t 9 c 2 w 4 2 6 1k 1 1 2 3 1 1 d 1c 8 2 5 f 3 1q 5 17 2 b b 1 d
   1 7 4 1 6 1 3 2 1 5 5c 1s 7q 2 6 2 12 2 6 2 8 1 1 1 1 1 1 1 v 2 1h 1 f 1 e 2 6 1 j 2 3 1 9 h
   o 8 1b h 2 2 r 1 d 3 y 1q 3w 4 ii m b l 1ec 2 ah 3 2 5 19 1 1 5 1 2 1k 7 2 f n 9 7 1 7 1 7 1
   7 1 7 1 7 1 7 1 7 x 2m y q 1 2h c 5y q g 1 15 6 g 1 2e 4 2t 5 17 1 2m 1 2e 9 1c 1 mlp 3 1j 9
   9o k 1b 4 1 a w 2 28 2 6 8 65 k h 1 3 1 4 1 p 2 5 4 a 6 1k 8 1w a c o d 1 12 8 p b 1 c u 6 1c
   1 2 4 2 2 2 1 d 1 b 4 7 1 p 1 15 6 2 2 2 b 3 1 8 1 1 2 a 2 w 1 1f 1 1 3 2 2 5 2 1 1 1 o h 2 8
   b 6 2 6 2 6 9 7 1 7 1 1o 4 39 1 2 1 4 3 a 6 8mc c n 4 1d 6is a6 2 2y 12 7 c 5 5 1 1 o 1 5 1 1
   1 2 1 2 1 i2 w g g a m z 1 j 1 4 4 5 1 3r 4 5a 3 6 2 6 2 6 2 3 3 7 1 7 d 2 2 c 1 q 1 j 1 2 1
   f 2 e y 3f 5 3 4 19 3 2g 1 d 3 1 1b 19 3n t 3 1d g r 4 10 9 u 5 12 a u 1 11 4 e 16 4e 2 a 6
   10 4 10 4 14 8 1g b c 1 f 1 7 1 2 1 b 1 f 1 7 1 2 3 1g c 8n 9 m a 8 o 6 1 16 1 9 1x 6 2 1 1
   18 1 2 3 1 2 n 1 20 8 9 1c j 1 2 5 x 3 r 5 r 12 1k 4 k 2 1b f 4 1 3 1 t a 9 7 9 7 1s w 11 6 c
   9 1i 3 t 2 r 5 q 7 4 c 7 28 21 1j 1f d 1f 7 16 c a 6 12 8 o 8 2 5s v 1 16 3 1 2 2 g 6 8 9 13
   14 8 m b 9 m i 4 4 12 s k n 9 1 1 1i f 7 4 u 1 2 2 1 c 1d 4 2 2 2 1 4 e p 7 a 9 10 5 1 9 i 8
   z 1 3 b 1g 9 1 1 8 4 2 1 g 1 k b i 1 s 3 2 4 6 1 2 1r 7 1 1 1 4 1 f 1 b 6 1b 1 3 d a 8 2 1 8
   2 2 2 m 1 7 1 2 1 5 3 1 1 1 1 4 2 2 2 2 3 1 c 7 s a 1 1 2 1 1 12 1 1 1 2 f 1 1 2 3 1 1 3 1 2
   13 1k 8 2 3 1 1 l 1 1 1 3 u 1c 1 2 6 1 1 2 1 1 2 1 2 4 8 a 4m 1b 1 2 6 4 2 1 2 r 10 1f 8 2 1
   1 2 4 b a 6 d j 17 1 1 1 2 8 2 6 a 6 k s r 3 1 1 2 4 1 9 n 55 1b 9 1 2 1 2s 2b c 8 2 1 2 8 1
   2 1 o 1 5 1 2 6 4 1 3 9 a 1y 8 2 16 8 4 1 4 r 1 a 14 6 2 4 8 9 1 6 2 3 1a d 1 2 9 d 21 7 a 2f
   1 3 1 1 1 2g y e a 6 9 1 12 e 1 1 6 a t 3 w p 1 7 1 2 1 23 7 1 2 1 12 l 1 9 a 6 6 1 2 1 11 4
   2 1 1 1 1 7 a 6 18 4 a 6u j 2 4 9 f 1 10 8 2 3 n 2e 1 f 1e d pn 2u 33 1 5 b 5g 218 2r d ts h
   6 p 32z 5 g7 5a1 u c 3 3 a 1c6 ft 7 v 1 a 4 29 1 a 6 u 7 1 a 1c 7 f a a 1 7 1 l 5 j c0 1m 5i
   2j 5 p 2 p 18 23 5 1k b d 1s 4 e 5 9 5p2 15 w 2p 37 6pp 4 1 7 1 2 1 83 f 1 t 3 2 1 e 4 8 b0
   1s4 2z 5 d 3 9 7 a 2 1 2 1 31c 71 3 c4 6 n f h 2n 38 1o 6u a 13 2 1o 5 3 m 2 7 u 4 1p l 1u 3
   1 3e k c k c 2f 9 p 3r 2d 1 1z 1 2 2 1 2 2 2 4 1 c 1 1 1 7 1 1t 1 4 2 8 1 7 1 s 1 4 1 5 1 1 3
   7 1 9g 2 84 2 fm 1j 4 1e 8 1 e 1 7 vo v 6 6 79 1q 42 19 a 7 2 a 4 2 8w u i 18 4 a 5 1 cw s 4
   a 5y u 2 b 4 1 5c v 1 3 1 2 1 7 2 5 9 2 68 7 1 4 1 2 1 f 1 5h 2 9 1c 1w 7 1 4 a 4 2 lt 1w 24
   1p 5e 4 1 r 1 2 1 1 2 1 1 a 1 4 1 1 1 1 6 1 4 1 1 1 1 1 1 3 1 2 1 1 2 1 1 1 1 1 1 1 1 1 1 2 1
   1 2 4 1 7 1 4 1 4 1 1 1 a 1 h 5 3 1 5 1 h 1g 2 7i 18 4 2s c f 2 f 1 f 1 11 a 4u 1k t d 18 4 9
   7 2 e 6 4a rd 3 h 3 d 3 62 6 c 4 1 f c 4 1k 8 a 6 14 8 u 2 c 4 2 e 9 13 9k 8 e 2 d 3 b 3 1l 1
   1 4 g 2 c 4 a 7 43 1 2v sl wyo w 3dq 2 4ge 2 5rl f ha 1wi f2 15u 3t7 5 6ju jdl2"

def isFormless (c : Char) : Bool := Table.inRuns formlessRuns c

end KeyspaceLink
