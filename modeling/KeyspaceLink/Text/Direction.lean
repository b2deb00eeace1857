import KeyspaceLink.Text.Table

/-! In which direction characters are written. The tables are made for the characters of
names of hosts and may take in others that lie between them. -/

namespace KeyspaceLink

inductive Direction
  | leftToRight
  | rightToLeft
  | arabicNumber
  | europeanNumber
  /-- Written as its neighbours are. -/
  | neutral
  /-- A mark takes the direction of the character that it stands on. -/
  | mark
deriving DecidableEq, Repr

namespace Direction

def rightToLeftRuns : List (Nat × Nat) := Table.runs
  "14u 1 1 1 2 1 2 1 9 11 j 1 2 1 1 1 d 1c y 3 1 2t f 2 7 2 a n 1 u t 2h b 1m 9 2 4 1 3 o 4 1 9
   1 3 1 7 15 5 1e g 16 1bv7 1 1 4k j4 1 1vw 7w 4 69 f 12 a 4l 6 23 a dg 12 6 v x 6o 16 3 r 1k
   1y b 1d 4 35 16o9 5s 2a y 7 s3"

def arabicNumberRuns : List (Nat × Nat) := Table.runs
  "19c a 1 2 1fwj q 7q v"

def europeanNumberRuns : List (Nat × Nat) := Table.runs
  "1c a 1bq a 1drb r"

def neutralRuns : List (Nat × Nat) := Table.runs
  "0 1c a 13 q 2l v 1 ch 2 7 e 2 s 1 h 38 2 8 a 32 1 b7 6 3a 2 1 2 1 1 1 2 2i 1 37 1 a 1 7g 4 e0
   2 7 1 6t 1 75 8 3h 7 cg 1 6y 4 uq a 2u 1 ii 2 8u 1 k r 8l 6 48 y 167 1 s 52 1u 22 1o bw 1x q
   1 ly 1 9f 74 lc 6d 6 e 7 74 ed 3 p f 1 6 1 5 3 2o 1 2i 1 5g 12 5i2 1s h3k 1j 92 3 2r 1 a 2 3k
   y 2u 1 4f 4 c 2 1m 4 ky 2 fvb fx 1x 2 je 1 1q 25 3 h 1ha 1 ex 7 fi 1 9t 9 ah k 16i d 1uw t
   fsg 1 i71 kx l4 2h 3 1 56 2f 33c 1 2cw g0 1p 3 1p 1 4y 1wb"

def markRuns : List (Nat × Nat) := Table.runs
  "lc 34 7n 7 7b 19 1 1 1 2 1 2 1 1 20 b 1c l g 1 2t 7 2 6 2 2 1 4 z 1 u r 2j b 1m 9 9 1 o 4 1 9
   1 3 1 5 17 3 1n 9 16 1l 1j 1 1 1 4 8 4 1 3 7 a 2 t 1 1m 1 4 4 8 1 k 2 q 5 1l 1 4 h u 2 3 1 b
   2 1l 1 4 8 4 1 k 2 m 8 1m 1 2 1 1 4 8 a b 2 u 1 1p 1 c 1 1e 1 3 1 1j 1 1 3 5 h b 2 t 1 1m 1 f
   2 k 2 s 2 1l 2 4 4 8 1 k 2 t 1 20 1 7 5 2i 1 2 7 c 8 2q 1 2 9 b 7 21 2 r 1 1 1 1 1 1j e 1 5 1
   2 5 1c 9 1 2u 4 1 6 1 2 2 2 p 2 4 3 g 4 d 1 2 2 6 1 f 1 jj 3 qa 3 t 2 u 2 u 2 1v 7 8 1 2 b 9
   1 4n 2 y 1 3a 3 4 2 9 1 6 3 63 2 2 1 1m 1 1 9 1 1 2 8 6 d 1c 2c 1c 1 1 5 1 1 5 1 14 9 c 2 w 4
   2 2 1 3 1k 1 1 2 3 1 1 3 1m 8 2 2 48 3 1 d 1 7 4 1 6 1 3 2 5i 1s k0 x 2da 3 3x 1 2o w fe 4 2z
   2 n9w 4 1 a w 2 28 2 7k 1 3 1 4 1 p 2 5 1 47 2 q i d 1 12 8 p b 1a 3 1c 1 2 4 2 2 13 1 1v 6 2
   2 2 2 c 1 8 1 1b 1 1f 1 1 3 2 2 5 2 1 1 16 2 8 1 6m 1 2 1 4 1 fn4 1 ld g r1 1 6a 1 45 5 1ae f
   14 8 4l 2 fx 4 1t 5 8t 2 25 6 1y b 1d 4 3f 1 1i f 15 1 2 2 a 3 1d 4 2 2 7 1 1p 3 10 5 1 8 1q
   1 c 2 1g 9 a 4 2 1 2n 3 2 1 1 2 6 1 2 1 4d 1 3 8 l 2 1l 2 3 1 11 f 1y 6 d 1 1 1 1 1 e 2 2d 8
   2 3 1 1 n 1 2c 6 1 1 4 2 1 2 6m 4 6 2 1 2 r 2 2d 8 2 1 1 2 2y 1 1 1 2 6 1 1 2t 3 2 4 1 5 77 9
   1 2 74 2 1 1 4 1 40 8 4 1 w 6 2 2 14 6 2 4 8 1 9 6 2 3 1a d 1 2 5i 1 1 3 1 1 5l e 2c m 2 7 1
   2 1 2 3e l 1 1 20 2 3 1 1 1 9n 2 b 2 1g 5 5 1 1 1 n 1 44l 1 6 f 8ug c 3 3 1xc 5 1n 7 t4 1 1r
   4 29 1 f5k 2 3mp 1z f4 3 h 8 2 7 u 4 44 3 1iz 1j 4 1e 8 1 e 1 m l 11s 40 4g 7 af 1 1p 4 e4 4
   72 2 6r 1 2 1 7 2 5 1 d6 7 31 7"

def of (c : Char) : Direction :=
  if Table.inRuns rightToLeftRuns c then rightToLeft
  else if Table.inRuns arabicNumberRuns c then arabicNumber
  else if Table.inRuns europeanNumberRuns c then europeanNumber
  else if Table.inRuns neutralRuns c then neutral
  else if Table.inRuns markRuns c then mark
  else leftToRight

end Direction

end KeyspaceLink
