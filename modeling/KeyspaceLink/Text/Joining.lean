import KeyspaceLink.Text.Table

/-! Letters that join in writing, as those of Arabic do. The tables are made for the
characters of names of hosts and may take in others that lie between them. -/

namespace KeyspaceLink.Joining

/-- Letters that join to both sides. -/
def dualRuns : List (Nat × Nat) := Table.runs
  "17k 1 5 1 1 1 1 5 4 d 1 7 1 2 z 2 9 f i 12 1 2 9 1 1 1 1 2 14 3 2 1 i 3 5 4 1 9 1 1 1 1 1 2 v
   b 3 f 2 4 1 1 2 3 2 6 22 x 2e 5 2 1 1 a 1 1 a 1 1 4 2 1 t 1 2 5 1 1 g a 5 2 2 6 1 f 30e 1 o
   2h e y 1 1 sd1 1e jf2 5 e 4 1 5 1 3 a 4 41 1 1 1 3 3 1 2 1 1 2 1 s 2 9e x 1 1 bj 2 1 2 2w 3 1
   h c 3 s 4 2 c 1a 1 1 2 4 1 2 2 1 2 1 1 2 1 5 1 16xj y"

/-- Letters that join only to the one after them. -/
def onwardRuns : List (Nat × Nat) := Table.runs
  "x9u 1 jfe 1 9 1 fc 1 ju 1"

/-- Letters that join only to the one before them. -/
def backwardRuns : List (Nat × Nat) := Table.runs
  "17m 4 1 1 1 1 5 4 l 1 14 3 k i 12 1 2 9 1 1 1 1 2 2 1 1 o 2 w 1 4 5 4 1 9 1 1 1 1 1 2 1 t 1 b
   3 f 2 4 1 1 2 3 2 5i 1 5 2 1 1 a 1 1 3 e 1 1 q b 1 r 3 1 1 2 2 6 1 1eyz 1 1 1 1 2 3 5 a 1 3 1
   2 1 a 1 41 1 1 3 3 1 2 1 1 2 1 1 n 4 ad 1 bj 1 34 1 w 1 v 2 1q 3 2 2 2 1 4 2 5 1"

/-- What letters join across. -/
def transparentRuns : List (Nat × Nat) := Table.runs
  "lc 34 7n 7 7b 19 1 1 1 2 1 2 1 1 20 b 1c l g 1 2t 7 2 6 2 2 1 4 z 1 u r 2j b 1m 9 9 1 o 4 1 9
   1 3 1 5 17 3 1n 9 16 1l 1j 1 1 1 4 8 4 1 3 7 a 2 t 1 1m 1 4 4 8 1 k 2 q 5 1l 1 4 h u 2 3 1 b
   2 1l 1 4 8 4 1 k 2 m 8 1m 1 2 1 1 4 8 a b 2 u 1 1p 1 c 1 1e 1 3 1 1j 1 1 3 5 h b 2 t 1 1m 1 2
   1 6 1 5 2 k 2 s 2 1l 2 4 4 8 1 k 2 t 1 20 1 7 5 2i 1 2 7 c 8 2q 1 2 9 b 7 21 2 r 1 1 1 1 1 1j
   e 1 5 1 2 5 1c 9 1 2u 4 1 6 1 2 2 2 p 2 4 3 g 4 d 1 2 2 6 1 f 1 jj 3 qa 3 t 2 u 2 u 2 1v 7 8
   1 2 b 9 1 4n 2 y 1 3a 3 4 2 9 1 6 3 63 2 2 1 1m 1 1 9 1 1 2 8 6 d 1c 2c 1c 1 1 5 1 1 5 1 14 9
   c 2 w 4 2 2 1 3 1k 1 1 2 3 1 1 3 1m 8 2 2 48 3 1 d 1 7 4 1 6 1 3 2 5i 1s k0 x 2da 3 3x 1 2o w
   fe 4 2z 2 n9w 4 1 a w 2 28 2 7k 1 3 1 4 1 p 2 5 1 47 2 q i d 1 12 8 p b 1a 3 1c 1 2 4 2 2 13
   1 1v 6 2 2 2 2 c 1 8 1 1b 1 1f 1 1 3 2 2 5 2 1 1 16 2 8 1 6m 1 2 1 4 1 fn4 1 ld g r1 1 6a 1
   45 5 1ae f 14 8 4l 2 fx 4 1t 5 8t 2 25 6 1y b 1d 4 3f 1 1i f 15 1 2 2 a 3 1d 4 2 2 7 1 1p 3
   10 5 1 8 1q 1 c 2 1g 9 a 4 2 1 2n 3 2 1 1 2 6 1 2 1 4d 1 3 8 l 2 1l 2 3 1 11 f 1y 6 d 1 1 1 1
   1 e 2 2d 8 2 3 1 1 n 1 2c 6 1 1 4 2 1 2 6m 4 6 2 1 2 r 2 2d 8 2 1 1 2 2y 1 1 1 2 6 1 1 2t 1 1
   1 2 4 1 5 77 9 1 2 74 2 1 1 4 1 40 8 4 1 w a 14 6 2 4 8 1 9 6 2 3 1a d 1 2 5i 1 1 3 1 1 5l e
   1 1 2a m 2 7 1 2 1 2 3e l 1 1 20 2 3 1 1 1 9n 2 b 2 1g 5 5 1 1 1 n 1 44l 1 6 f 8ug c 3 3 1xc
   5 1n 7 t4 1 1r 4 29 1 f5k 2 3mp 1z f4 3 h 8 2 7 u 4 44 3 1iz 1j 4 1e 8 1 e 1 m l 11s 40 4g 7
   af 1 1p 4 e4 4 72 2 6r 1 2 1 7 2 5 1 d6 7 31 8"

def joinsOnward (c : Char) : Bool := Table.inRuns dualRuns c || Table.inRuns onwardRuns c

def joinsBackward (c : Char) : Bool := Table.inRuns dualRuns c || Table.inRuns backwardRuns c

def isTransparent (c : Char) : Bool := Table.inRuns transparentRuns c

end KeyspaceLink.Joining
