import KeyspaceLink.Text.Table

/-! Characters in names of hosts. Some may not stand there, some are left out, and some
stand for others: capitals for small letters, and what differs in form alone for the plain form. -/

namespace KeyspaceLink.HostCharacter

def barredRuns : List (Nat × Nat) := Table.runs
  "3k w k8 2 6 4 7 1 1 1 k 1 b1 1 12 2 1e 2 3 1 1j 8 r 4 6 h m 1 5c 1 1c 2 1n 2 2t e 1n 2 1d 2 f
   1 s 2 1 1 b 5 w 7 23 1 4h 1 8 2 2 2 m 1 7 1 1 3 4 2 9 2 2 2 4 8 1 4 2 1 5 2 p 2 3 1 6 4 2 2 m
   1 7 1 2 1 2 1 2 2 1 1 5 4 2 2 3 3 1 7 4 1 1 7 h a 3 1 9 1 3 1 m 1 7 1 2 1 5 2 a 1 3 1 3 2 1 f
   4 2 c 7 7 1 3 1 8 2 2 2 m 1 7 1 2 1 5 2 9 2 2 2 3 7 3 4 2 1 5 2 i a 2 1 6 3 3 1 4 3 2 1 1 1 2
   3 2 3 3 3 c 4 5 3 3 1 4 2 1 6 1 e l 5 d 1 3 1 n 1 g 2 9 1 3 1 4 7 2 1 3 1 2 2 4 2 a 7 m 1 3 1
   n 1 a 1 5 2 9 1 3 1 4 7 2 5 3 1 4 2 a 1 3 c d 1 3 1 1f 1 3 1 6 4 g 2 q 1 3 1 i 3 o 1 9 1 1 2
   7 3 1 4 6 1 1 1 8 6 a 2 3 c 1m 4 t 11 2 1 1 1 5 1 o 1 1 1 n 2 5 1 1 1 7 1 a 2 4 w 20 1 10 4
   13 1 10 1 f 1 d 11 5i 1 1 5 1 2 ah 1 4 2 7 1 1 1 4 2 15 1 4 2 x 1 4 2 7 1 1 1 4 2 f 1 1l 1 4
   2 1v 2 w 3 q 6 2e 2 6 2 hs 1 s 3 2h 7 m 9 o 9 k c d 1 3 1 2 c 2m 2 a 6 a 6 q 6 2h 7 17 5 1y a
   v 1 c 4 c 4 1 3 16 2 5 b 18 4 q 6 b 3 1q 2 1t 1 t 2 b 6 a 6 e 2 1a 2 c k 25 1 4m 8 1o 3 f 3
   1q 5 17 2 b 8 17 5 eu 2 6 2 12 2 6 2 8 1 1 1 1 1 1 1 v 2 1h 1 f 1 e 2 6 1 j 2 3 1 9 1 e 2 k 3
   1 7 1i 5 8 2 r 1 d 3 y e x f 3w 4 ii m b l 14 k 1co 2 am 5 19 1 1 5 1 2 1k 7 2 e o 9 7 1 7 1
   7 1 7 1 7 1 7 1 7 1 7 1 3i y q 1 2h c 5y 16 1s 1 2e 2 2v 5 17 1 2m 1 2e a 1b 1 bm 1 4 1 g 1
   m9g 3 1j 9 9o k 54 8 65 k 1o 3 a 6 1k 8 1y 8 c 6 38 b u 3 26 1 b 4 x 1 1j 9 e 2 a 2 2v o s a
   6 2 6 2 6 9 7 1 7 1 1o 4 3i 2 a 6 8mc c n 4 1d 6is a6 2 2y 12 7 c 5 5 q 1 5 1 1 1 2 1 2 1 i2
   w y 1 6 7 g 1 x 2 j 1 4 4 5 1 3r 2 1 1 5a 3 6 2 6 2 6 2 3 3 7 1 7 h c 1 q 1 j 1 2 1 f 2 e y
   3f 5 3 4 19 3 2g 1 d 3 1 1b 1a 3m t 3 1d f s 4 10 9 u 5 17 5 u 1 11 4 e 16 4e 2 a 6 10 4 10 4
   14 8 1g b c 1 f 1 7 1 2 1 b 1 f 1 7 1 2 3 1g c 8n 9 m a 8 o 6 1 16 1 9 1x 6 2 1 1 18 1 2 3 1
   2 n 1 20 8 9 1c j 1 2 5 x 3 r 5 r 12 1k 4 k 2 1e 1 2 5 8 1 3 1 t 2 3 4 a 7 9 7 1s w 13 4 c 9
   1i 3 t 2 r 5 q 7 4 c 7 28 21 1j 1f d 1f 7 1a 8 a 6 12 3 t 8 2 5s v 1 16 1 3 2 2 g 6 8 9 x 1a
   8 16 m q 12 s k n 9 26 4 10 9 1q 1 5 d p 7 a 6 1h 1 i 8 13 9 2o 1 k b i 1 1b 1q 7 1 1 1 4 1 f
   1 b 6 1n 5 a 6 4 1 8 2 2 2 m 1 7 1 2 1 5 1 a 2 2 2 3 2 1 6 1 5 7 2 7 3 5 b a 1 1 2 1 1 12 1 a
   1 1 2 1 1 4 1 a 1 2 8 2 t 2k 1 5 u 20 8 a 4m 1i 2 12 y 1x b a 6 d j 1m 6 a 6 k s r 2 f 4 n 55
   1o 2s 2b c 8 2 1 2 8 1 2 1 u 1 2 2 c 9 a 1y 8 2 1a 2 b r 20 8 2b d 21 7 a 2e 8 2g y e a 6 9 1
   19 1 e a t 3 w 2 m 1 e 21 7 1 2 1 18 3 1 1 2 1 9 8 a 6 6 1 2 1 11 1 2 1 6 7 a 6 18 4 a 6u p 7
   h 1 15 3 t 2d 1 f 1e d pn 2u 33 1 5 b 5g 218 2r d ts g m a 32z 5 g7 5a1 1m 1c6 ft 7 v 1 a 4
   29 1 a 6 u 2 6 a 1y a a 1 7 1 l 5 j c0 1m 5i 2j 5 p 2 p 18 23 4 1l 7 h 1s 5 b 7 9 5p2 15 w 2p
   37 6pp 4 1 7 1 2 1 83 f 1 t 3 2 1 e 4 8 b0 1s4 2z 5 d 3 9 7 a 2 8 318 71 3 c4 6 n f h f 1a 2
   n 9 38 1o 6u a 13 2 5e l 1y 3e k c k c 2f 9 p 3r 2d 1 1z 1 2 2 1 2 2 2 4 1 c 1 1 1 7 1 1t 1 4
   2 8 1 7 1 s 1 4 1 5 1 1 3 7 1 9g 2 84 2 ji f 5 1 f uo v 6 6 5x 7 1 h 2 7 1 2 1 5 5 1q x 1 34
   19 3 e 2 a 4 2 8w v h 1m 5 1 cw 16 5y 17 4 1 5c v 1 m 8 2 68 7 1 4 1 2 1 f 1 5h 2 g 15 24 4 a
   4 2 lt 1w 24 1p 5e 4 1 r 1 2 1 1 2 1 1 a 1 4 1 1 1 1 6 1 4 1 1 1 1 1 1 3 1 2 1 1 2 1 1 1 1 1
   1 1 1 1 1 2 1 1 2 4 1 7 1 4 1 4 1 1 1 a 1 h 5 3 1 5 1 h 1g 2 7i 18 4 2s c f 2 f 1 f 1 11 b 4t
   1k t d 18 4 9 7 2 e 6 4a rd 3 h 3 d 3 62 6 c 4 1 f c 4 1k 8 a 6 14 8 u 2 c 4 2 e 9 13 9k 8 e
   2 d 3 b 3 1l 1 1 4 g 2 c 4 a 7 43 1 2v sl wyo w 3dq 2 4ge 2 5rl f ha 1wi f2 15u 3t7 5 6ju
   f62u 6o 47bk"

def silentRuns : List (Nat × Nat) := Table.runs
  "4t 1 ip 1 2rz 2 18z 2 2d 5 1kr 1 2c 5 5 6 3ck 1 14ez g 6n 1 4g 1 11bz 4 43z 8 h479 6o"

/-- Characters at even distances that stand for as many in a row or at those distances. -/
structure Shift where
  first : Nat
  count : Nat
  step : Nat
  /-- What the first of them stands for. -/
  target : Nat
deriving DecidableEq, Repr

def Shift.move? (s : Shift) (c : Char) : Option Char :=
  let distance := c.toNat - s.first
  if s.first ≤ c.toNat && distance < s.count * s.step && distance % s.step == 0 then
    some (Char.ofNat (s.target + distance))
  else none

def shiftsOf : List Nat → List Shift
  | first :: count :: step :: target :: rest => ⟨first, count, step, target⟩ :: shiftsOf rest
  | _ => []

def shifts : List Shift := shiftsOf (Table.numbers
  "4y 2 1 1e 5c n 1 68 60 7 1 6w 74 o 2 75 8k 2 2 8l 8p 3 2 8q 8x 4 2 8y 96 n 2 97 ah 3 2 ai aq
   2 2 ar ax 2 1 gm bk 3 2 bl c1 2 1 i2 c3 2 2 c4 ct 8 2 cu da 9 2 db e0 k 2 e1 f6 9 2 f7 g6 5 2
   g7 j4 2 2 2w og 2 2 oh p4 3 1 q5 pa 2 1 r1 pd h 1 q9 pv 9 1 qr rc c 2 rd sd 3 1 or sg g 1 uo
   sw w 1 ts v4 h 2 v5 wa r 2 wb xt 7 2 xu y8 1c 2 y9 10x 12 1 129 3a8 12 1 8w0 3y0 6 1 3xs 5mr
   2 1 u9 5n4 17 1 3bk 5od 3 1 3ct 5ri 2 2 2q 5rl 5 2 2t 5ro 4 2 2w 5s0 2 1 38 5s4 2 1 gg 5s8 2
   1 2s 5sb 2 1 gr 5sg 2 2 31 5sk 2 1 5qu 5sn 2 1 38 5st 3 1 qa 5sw 2 1 qu 5t0 2 1 39 5t2 2 1 qa
   5t5 2 1 qu 5us 3 1 h4 5v2 4 1 he 5v7 2 1 hu 5va 2 1 i1 5vd 2 1 i3 5vg 3 1 i8 5xc 23 2 5xd 61s
   1c 2 61t 64o 8 1 64g 654 6 1 64w 65k 8 1 65c 660 8 1 65s 66g 6 1 668 66x 4 2 66p 67c 8 1 674
   69k 2 1 69c 6a0 2 2 67m 6ag 2 1 6a8 6aw 2 1 6ao 6bd 2 2 r0 6es 6 1 1g 6f1 2 1 14 6f4 a 1 1c
   6fh 2 1 14 6fq 4 1 2z 6fv 2 1 37 6iy 2 1 2v 6j7 2 2 30 6jd 3 1 34 6jw 2 1 2q 6k0 2 1 2t 6k5 4
   1 15c 6km 2 1 2s 6ko 2 1 2x 6lp 2 1 2r 6m5 2 1 2r 76o 9 1 1d 792 q 1 2p 79s q 1 2p 8ow 1c 1
   8q8 8rr 3 2 8rs 8se 2 1 fz 8sg 1e 2 8sh 8vf 2 2 8vg 9ix 2 1 gg4 9pt 2 1 3cw 9pv 2 2 3hm 9pz 3
   1 3cz 9q2 6 1 3hs 9q9 3 1 3d2 9qd a 1 3d5 9qn l 1 3fl 9r9 2 1 3dg 9rb 2 1 3if 9rl 2 1 3dp 9ro
   2 1 3du 9rs 5 1 3e3 9s2 2 1 3jl 9s4 3 1 3fb 9s7 2 1 3gk 9sa 2 1 3gx 9y9 2 1 3cy 9yb 3 1 3d1
   9yf 2 1 3d7 9yh 5 1 3da a1g 2 1 9m2 a1w 6 1 9my a26 5 1 9ni a2d 6 1 9ns a2j 4 1 9nz wu8 n 2
   wu9 ww0 e 2 ww1 x0i 7 2 x0j x0y v 2 x0z x2x 2 2 x2y x32 5 2 x33 x3k 2 2 x3l x3q a 2 x3r x4k 8
   2 x4l x53 2 2 x54 x58 8 2 x59 xv4 28 1 3vk 1dlu 2 1 15f 1dlw 3 1 15n 1dnc 2 2 1a6 1dnd 2 2
   1a6 1dnw 2 2 1b8 1dnx 2 2 1b8 1dod 2 1 1ae 1dok 2 2 1ak 1dol 2 2 1ak 1dpb 2 1 1bu 1dph 2 1
   1c0 1dpr 2 1 1ci 1dqx 2 2 1c6 1dqy 2 2 1c6 1e6r 2 1 1m 1e6v 2 1 9hy 1e7p 2 1 14 1e7t 2 1 9hw
   1e7v 2 1 9hs 1e7x 2 1 9hm 1e7z 2 1 9hk 1e81 4 1 9ho 1e8p 2 1 14 1e8t 2 1 9hw 1e8x 2 1 16 1e95
   2 1 10 1e9s 2 1 17l 1e9u 2 1 17m 1e9w 2 1 17n 1e9y 2 1 17o 1ea0 2 1 17p 1ea4 2 1 17q 1ea6 2 1
   17r 1eaa 2 1 17s 1eac 2 1 17t 1eag 2 1 17u 1eak 2 1 17v 1eao 2 1 17w 1eas 2 1 17x 1eaw 2 1
   17y 1eay 2 1 17z 1eb0 2 1 180 1eb2 2 1 181 1eb4 2 1 182 1eb8 2 1 183 1ebc 2 1 184 1ebg 2 1
   185 1ebk 2 1 186 1ebo 2 1 187 1ebs 2 1 188 1ebw 2 1 189 1ec4 2 1 18h 1ec8 2 1 18i 1ecc 2 1
   18j 1ecg 2 1 18k 1eck 2 1 18l 1eco 2 1 18m 1ecs 2 1 18n 1ecu 2 1 18o 1ecw 2 1 18p 1edd w 1 x
   1ee9 q 1 2p 1eez 10 1 2j 1efz 2 1 879 1eg2 2 1 9ho 1egl 2 1 9m2 1eh1 6 1 9my 1ehb 5 1 9ni
   1ehi 6 1 9ns 1ehq 2 1 9ll 1eht 2 1 3cw 1ehv 2 2 3hm 1ehz 3 1 3cz 1ei2 6 1 3hs 1ei9 3 1 3d2
   1eid a 1 3d5 1eiq 6 1 3fl 1eiy 6 1 3fr 1ej6 6 1 3fx 1eje 3 1 3g3 1ejk 2 1 4i 1ejt 4 1 6mo
   1fcw 14 1 1fe0 1fhs 10 1 1fiw 1fn4 j 2 1fo7 1fn5 5 2 1fo8 1fnh 7 2 1fok 1fnx 3 2 1fp0 1g1t 2
   1 k0 1g1z 2 2 ir 1g23 2 1 gm 1g2h 2 1 iy 1g2r 2 1 hi 1g2w 2 1 hp 1g37 2 1 ip 1g3a 3 1 cg 1h1c
   1f 1 1h34 1h74 m 1 1h80 1jfk w 1 1jgg 20cg w 1 20dc 20f4 p 1 20fv 2j12 q 1 2p 2j1s a 1 1c
   2kg0 q 1 2p 2kgq q 1 2p 2khg q 1 2p 2ki6 d 2 2p 2ki7 3 2 2q 2kif 9 2 2y 2kiw q 1 2p 2kjm q 1
   2p 2kkc 2 2 2p 2kkl 2 1 2y 2kkp 4 1 32 2kku 8 1 37 2kl2 4 1 2p 2kl7 b 2 2u 2kla 3 2 2x 2kli 5
   2 35 2kls q 1 2p 2kmi q 1 2p 2kn8 2 1 2p 2knb 4 1 2s 2knh 8 1 2y 2knq 7 1 37 2kny q 1 2p 2koo
   2 1 2p 2kor 4 1 2s 2kow 5 1 2x 2kp6 7 1 37 2kpe q 1 2p 2kq4 q 1 2p 2kqu q 1 2p 2krk q 1 2p
   2ksa q 1 2p 2kt0 q 1 2p 2ktq q 1 2p 2kug q 1 2p 2kv6 q 1 2p 2kvw q 1 2p 2kwm q 1 2p 2kxc q 1
   2p 2ky2 q 1 2p 2kyw h 1 q9 2kze 7 1 qr 2kzm h 1 q9 2l04 7 1 qr 2l0i h 1 q9 2l10 7 1 qr 2l18 h
   1 q9 2l1q 7 1 qr 2l24 h 1 q9 2l2m 7 1 qr 2l2u h 1 q9 2l3c 7 1 qr 2l3q h 1 q9 2l48 7 1 qr 2l4g
   h 1 q9 2l4y 7 1 qr 2l5c h 1 q9 2l5u 7 1 qr 2l62 h 1 q9 2l6k 7 1 qr 2l72 a 1 1c 2l7c a 1 1c
   2l7m a 1 1c 2l7w a 1 1c 2l86 a 1 1c 2muo 9 1 ts 2mux 3 1 u2 2mv0 b 1 u6 2mvc 2 1 ul 2mvl 9 1
   ts 2mvu 2 1 u2 2mvw 2 1 u6 2mvz 6 1 ub 2mw5 2 1 ui 2olc y 1 2oma 2pkw 2 1 17r 2pl6 4 1 18j
   2plh 2 1 17u 2pm2 4 1 18j 2pmd 2 1 17u 2pmz 2 2 18k 2pnu 2 2 18j 2po5 2 1 17u 2pog 2 1 17r
   2pok 2 1 18n 2por 3 1 18k 2pp1 2 1 17u 2ppn 3 1 18k 2ppx 2 1 17u 2q7k q 1 2p 2sc0 a 1 1c")

def replacements : List (Nat × List Char) := Table.entries
  "+4g w +7 w.lk +1 2p +4 w.lg +4 w.ld qk +2 w.mf 1d 33 +1 1d.6dg.1g 1d.6dg.1e 1f.6dg.1g +35
   2x.lj +1 2x.2y 2x.2y +b 30.53 30.53 +8 jg.32 +1a 73 +6 37 +1 gj +4 gk aw +3 b0 +2 d9 gp gr b6
   +1 gw gz +1 h5 h4 bd +3 hb he +1 hh +6 hs bs +1 hv +2 bx +1 i0 c0 +7 ia c9 +3 cd +7 2s.am
   2s.am 2s.am 30.2y 30.2y 30.2y 32.2y 32.2y 32.2y +10 2s.3e 2s.3e 2s.3e dx +1 b9 cf +14 bi +p
   8rp fw +1 be 8rq +2 g2 +1 ao i1 i4 +2z h2 +1 36 hl hn ht 3b 3d +v w.li w.lj w.lm w.mg w.lf
   w.ln +2 gz 30 37 3c id +2o qh +1c on +3 w.qh +4 s3 +4 w.ld w.lk.ld q4 +5 r0 +1u rb qa qg qt
   r1 qz qu qo +p qi qp qr +1 qg qd +1 s8 +1 qr sb +5h y7 +5i 12d.136 +6l 17r.19w 18o.19w
   1c7.19w 18q.19w +1iy 2tp.2sy +3j 2x9.2wi +14 2wb.2vt 2wb.2w1 +1a 2yz +2y 33m.31t.328 +1
   33n.31t.328 +99 8x3 +5 8x9 +1a 3bw +29v tu tw u6 +2 ua ui v7 wuj 5my +4i 2p 6e +4 d9 +9 33 f7
   34 36 +2 3b 2p +2 5qa 2q +2 gp +2 2v +1 2z +1 97 +1 gk +2 34 +2 5r1 hb 3a 5r9 +5 2x 36 +4 qp
   +f u5 +y gi 2r gl 6o gs 2u gv gx h1 +3 5tn il h9 5tx in hd hc +4 hk +2 bv +2 5r0 +2 3e +3 qg
   +62 2p.ji 601 +2 67 +69 64g.qh 64h.qh 64i.qh 64j.qh 64k.qh 64l.qh 64m.qh 64n.qh 64g.qh 64h.qh
   64i.qh 64j.qh 64k.qh 64l.qh 64m.qh 64n.qh 65c.qh 65d.qh 65e.qh 65f.qh 65g.qh 65h.qh 65i.qh
   65j.qh 65c.qh 65d.qh 65e.qh 65f.qh 65g.qh 65h.qh 65i.qh 65j.qh 674.qh 675.qh 676.qh 677.qh
   678.qh 679.qh 67a.qh 67b.qh 674.qh 675.qh 676.qh 677.qh 678.qh 679.qh 67a.qh 67b.qh +2 67k.qh
   q9.qh q4.qh +2 69i.qh +2 67k q4 q9.qh w.lv +1 w.lv w.n6 w.lk.n6 67o.qh qf.qh q6.qh +2 69y.qh
   +1 q5 +1 q6 qf.qh w.lv.lc w.lv.ld w.lv.n6 +a 67q q7 +1 w.lw.lc w.lw.ld w.lw.n6 +a 67u r1 6at
   w.lk.lc w.lk.ld +3 67w.qh qx.qh r2.qh +2 6ba.qh 67s +1 67w +1 qx.qh w.ld w.lw +1 w w w w w w
   w w w w w +6 6c0 +5 w.mr +n w +3 6cy.6cy 6cy.6cy.6cy +1 6d1.6d1 6d1.6d1.6d1 +4 x.x +1 w.lh +8
   1r.1r 1r.x x.1r +d 6cy.6cy.6cy.6cy +7 w +g 1c 2x +8 17 6qa 1p +2 32 +a 17 6qa 1p +3 2p 2t 33
   3c gp 2w +4 34 +d 36.37 +2f 2p.1b.2r 2p.1b.37 2r 4w.2r +1 2r.1b.33 2r.1b.39 gr +1 4w.2u +2 2w
   2w 2w 87 2x 2x 30 +3 32.33 +5 36 36 +2 37.31 38.2t.30 38.31 +1 3e +1 qx +1 3e +1 2z 6d +3 2t
   +2 6ku 31 33 +4 2x +1 2u.2p.3c qo qb qb qo 6q9 +4 2s +a 1d.6dg.1j 1d.6dg.1l 1d.6dg.1d.1c
   1d.6dg.1f 1e.6dg.1f 1d.6dg.1h 1e.6dg.1h 1f.6dg.1h 1g.6dg.1h 1d.6dg.1i 1h.6dg.1i 1d.6dg.1k
   1f.6dg.1k 1h.6dg.1k 1j.6dg.1k 1d.6dg 2x 2x.2x 2x.2x.2x 2x.3a 3a 3a.2x 3a.2x.2x 3a.2x.2x.2x
   2x.3c 3c 3c.2x 3c.2x.2x 30 +2 31 2x 2x.2x 2x.2x.2x 2x.3a 3a 3a.2x 3a.2x.2x 3a.2x.2x.2x 2x.3c
   3c 3c.2x 3c.2x.2x 30 +2 31 +3 6mc +5 1c.6dg.1f +4i 6qz.6qz 6qz.6qz.6qz +1 6r2.6r2 6r2.6r2.6r2
   +fs 1d.1c 1d.1d 1d.1e 1d.1f 1d.1g 1d.1h 1d.1i 1d.1j 1d.1k 1d.1l 1e.1c 14.1d.15 14.1e.15
   14.1f.15 14.1g.15 14.1h.15 14.1i.15 14.1j.15 14.1k.15 14.1l.15 14.1d.1c.15 14.1d.1d.15
   14.1d.1e.15 14.1d.1f.15 14.1d.1g.15 14.1d.1h.15 14.1d.1i.15 14.1d.1j.15 14.1d.1k.15
   14.1d.1l.15 14.1e.1c.15 +k 14.2p.15 14.2q.15 14.2r.15 14.2s.15 14.2t.15 14.2u.15 14.2v.15
   14.2w.15 14.2x.15 14.2y.15 14.2z.15 14.30.15 14.31.15 14.32.15 14.33.15 14.34.15 14.35.15
   14.36.15 14.37.15 14.38.15 14.39.15 14.3a.15 14.3b.15 14.3c.15 14.3d.15 14.3e.15 +1g 1c +10h
   6qz.6qz.6qz.6qz +2v 1m.1m.1p 1p.1p 1p.1p.1p +dl 8rl +1 h7 5tp hp +8 gh hd gg gi +1 8s3 +2 8s6
   +6 2y 3a +38 8vn +3g 8yp +8f lal +2b vj3 +c feo ffs fg6 fgf fh5 fid fik fj4 fju g1r g2t g2z
   g3m g46 g4r g68 g6t g74 gbf ge1 get gey gfs gg1 ggs gh5 ghu gja gjs gkj h5j h7j hkb hky hl6
   hlh hlz ho3 i1c i2o i60 i6n i76 i7s i9a i9d ijf ijp ik1 ike inm inu inz ir8 iri irv is3 its
   iu9 iur iwz jd4 jee jez jzj jzo k1z k2f k2s k3d k4g k4l kc0 kco kdk l5s l7m l89 l9v laj las
   laz lcf lck ldg m7f mju mk6 mkb mkf mkn ml5 ml7 mng mtg mtl n30 n3a n4o n4v n54 n5c n7v n82
   nee nel nfy ngf nhq nob noi noz ny2 o1k o1q o6s o97 oah okz ooo p4m p5d p6y p8d pa9 pak paq
   pbn pdr pe1 pnn pnu po3 poc pos pp7 ppb pri prm prs qj1 qjv qww qx8 qxv r5q r63 r82 r9c rp3
   rpi rpx rqw rrx rxg rxs rzn s6j s7e sd7 sds sdx sk1 sp5 ssm sss ssx tiv tj4 tng trq trt tt4
   tw1 twe twi twp tzf u0d u0j u0x u5k u6z u73 uc6 uc9 ucs ujs ul4 ulb un9 unj unm unw uoq uzp
   vat vb3 vc5 vcr vcz vd9 vdd veh vel vf2 vf7 vfk vgb vgq vgy vil vj0 vj4 +16 w +1 1a +1f 9hu
   +1 gg1 +2q w.9ll w.9lm +2 9l4.9l6 +2n 9mb.9mw +1g 3cy +1 3hp +9 3dm +3 3dt +10 3ik 3im 3ir
   3iv 3ix 3do 3j1 3j3 +2 3ds +2 3dz 3e1 +5 3ea 3ee 3eo 3ev 3f0 +7 3go +2 3h0 3ha 3hd +3 feo fik
   fex h5n fey ffx fez n5e fh5 ffd fep hm1 h80 fju +2o 14.3cw.15 14.3cy.15 14.3cz.15 14.3d1.15
   14.3d2.15 14.3d3.15 14.3d5.15 14.3d7.15 14.3d8.15 14.3da.15 14.3db.15 14.3dc.15 14.3dd.15
   14.3de.15 14.xz4.15 14.yvs.15 14.zc4.15 14.108s.15 14.10p4.15 14.115g.15 14.1224.15
   14.12ys.15 14.13f4.15 14.14bs.15 14.14s4.15 14.158g.15 14.15os.15 14.1654.15 14.13p8.15
   14.1350.13ic.15 14.1350.16f8.15 +1 14.feo.15 14.fik.15 14.fex.15 14.h5n.15 14.fis.15
   14.g31.15 14.fer.15 14.g2z.15 14.fh9.15 14.gg1.15 14.kco.15 14.m7f.15 14.ldg.15 14.kdk.15
   14.ssx.15 14.h7j.15 14.k4l.15 14.kkq.15 14.kcp.15 14.ny6.15 14.glp.15 14.mm1.15 14.rs1.15
   14.nz1.15 14.gc4.15 14.fkz.15 14.gos.15 14.i1y.15 14.nhf.15 14.flt.15 14.rt3.15 14.ggk.15
   14.nzh.15 14.fm9.15 14.pnu.15 14.po3.15 gun inw k1z oen +8 34.38.2t 1e.1d 1e.1e 1e.1f 1e.1g
   1e.1h 1e.1i 1e.1j 1e.1k 1e.1l 1f.1c 1f.1d 1f.1e 1f.1f 1f.1g 1f.1h 3cw +5 3d5 +7 xz4 yvs zc4
   108s 10p4 115g 1224 12ys 13f4 14bs 14s4 158g 15os 1654 14c8.y5c 13p8.13dk 138w +1 feo fik fex
   h5n fis g31 fer g2z fh9 gg1 kco m7f ldg kdk ssx h7j k4l kkq kcp ny6 glp mm1 rs1 nz1 gc4 o2g
   n5j ho3 six g16 ghc lig u11 fm9 g49 l7n fey ffx fez ijq gkz gfv i3b i1y nhf flt rt3 ggk hlo
   1f.1i 1f.1j 1f.1k 1f.1l 1g.1c 1g.1d 1g.1e 1g.1f 1g.1g 1g.1h 1g.1i 1g.1j 1g.1k 1g.1l 1h.1c
   1d.kco 1e.kco 1f.kco 1g.kco 1h.kco 1i.kco 1j.kco 1k.kco 1l.kco 1d.1c.kco 1d.1d.kco 1d.1e.kco
   2w.2v 2t.36.2v 2t.3a 30.38.2s 9lu 9lw 9ly 9m0 +2 9m5 9m7 9m9 9mb 9md 9mf 9mh 9mj 9ml 9mn 9mp
   9ms 9mu 9mw +6 9n6 9n9 9nc 9nf +5 9no 9nq +a fl0.gp8 9lu.9n5.9oc.9mw 9lu.9nv.9n9.9lt
   9lu.9o3.9ne.9lu 9lu.9oc.9nv 9lw.9mz.9o3.9m8 9lw.9o3.9mp 9ly.9m1.9o3 9m0.9mh.9m7.9oc.9mx
   9m0.9oc.9m3.9oc 9m2.9o3.9mh 9m2.9oc.9nk 9m3.9lw.9nu 9m3.9nt.9mr.9mw 9m3.9nx.9nu.9oc
   9m4.9nx.9o3 9m4.9o3.9ni 9m6.9m4 9m6.9mz.9oc 9m5.9np.9nu.9oc 9m6.9nv.9mo.9oc 9m5.9nx
   9m5.9nx.9m8.9nt.9nk 9m5.9nx.9nl.9oc.9mw.9nv 9m5.9nx.9nz.9mr.9mw 9m8.9nt.9nk
   9m8.9nt.9nk.9mw.9o3 9m7.9nv.9mk.9lw.9nx 9m7.9nx.9oc.9n1 9m9.9oc.9mh 9mb.9nv.9my 9mb.9oc.9nh
   9md.9lw.9m7.9nv 9md.9o3.9mp.9oc.9nk 9mf.9nu.9o3.9m8 9mj.9o3.9mp 9mj.9o3.9mw 9mo.9oc.9mh
   9mv.9mf 9mx.9nv 9mw.9o3 9my.9n2 9n2.9mr.9mw 9n3.9lw.9ms 9n5.9oc.9mj.9o3.9mw 9n5.9oc.9ms
   9n4.9oc.9nw.9nv 9n8.9lu.9mh.9mw.9nv 9n8.9m7.9nv 9n8.9mb 9n7.9nv 9n9.9lt.9nt.9mr.9mx
   9n9.9lv.9oc.9mw 9na.9mr.9mf.9lz.9nv 9n9.9nt.9o3 9nc.9m7.9mn.9oc.9nv 9ne.9ml 9ne.9mz.9n6
   9nc.9nv.9ms 9ne.9o3.9mh 9ne.9oc.9mg 9nd.9oc.9mn 9nh.9lw.9o3.9mw 9ng.9nv.9mw 9nf.9o3
   9nh.9o3.9mx 9nf.9oc.9nv 9nf.9oc.9o3 9ni.9lw.9m7.9nx 9ni.9lw.9nv 9ni.9mr.9n3 9ni.9nv.9m7
   9ni.9o3.9mf.9nr.9o3 9nj.9m7.9nx.9o3 9nj.9nu 9nj.9nu.9n4.9oc.9nv 9nl.9m4 9nl.9m4.9mw.9o3
   9nl.9oc.9mw.9nv 9no.9oc.9mx 9no.9oc.9nv 9nq.9lu.9o3 9nu.9mr.9mw.9nv 9nu.9nt 9nv.9n8.9oc
   9nv.9oc.9na.9nv 9nw.9nk 9nw.9o3.9mw.9ma.9o3 9nz.9mr.9mw 1c.m9l 1d.m9l 1e.m9l 1f.m9l 1g.m9l
   1h.m9l 1i.m9l 1j.m9l 1k.m9l 1l.m9l 1d.1c.m9l 1d.1d.m9l 1d.1e.m9l 1d.1f.m9l 1d.1g.m9l
   1d.1h.m9l 1d.1i.m9l 1d.1j.m9l 1d.1k.m9l 1d.1l.m9l 1e.1c.m9l 1e.1d.m9l 1e.1e.m9l 1e.1f.m9l
   1e.1g.m9l 2w.34.2p 2s.2p 2p.39 2q.2p.36 33.3a 34.2r 2s.31 2s.31.1e 2s.31.1f 2x.39 inn.jdc
   k6l.gp8 hlz.l7n k5q.lh7 kkq.irz.fmi.ny6 34.2p 32.2p qk.2p 31.2p 2z.2p 2z.2q 31.2q 2v.2q
   2r.2p.30 2z.2r.2p.30 34.2u 32.2u qk.2u qk.2v 31.2v 2z.2v 2w.3e 2z.2w.3e 31.2w.3e 2v.2w.3e
   38.2w.3e qk.30 31.30 2s.30 2z.30 2u.31 32.31 qk.31 31.31 2r.31 2z.31 31.31.1e 2r.31.1e 31.1e
   2z.31.1e 31.31.1f 2r.31.1f 31.1f 2z.31.1f 31.6qd.37 31.6qd.37.1e 34.2p 2z.34.2p 31.34.2p
   2v.34.2p 36.2p.2s 36.2p.2s.6qd.37 36.2p.2s.6qd.37.1e 34.37 32.37 qk.37 31.37 34.3a 32.3a
   qk.3a 31.3a 2z.3a 31.3a 34.3b 32.3b qk.3b 31.3b 2z.3b 31.3b 2z.qx 31.qx +1 2q.35 2r.2r 2r.2s
   2r.6qd.2z.2v +1 2s.2q 2v.3d 2w.2p 2w.34 2x.32 2z.2z 2z.31 2z.38 30.31 30.32 30.33.2v 30.3c
   31.2q 31.2x.30 31.33.30 34.2w +1 34.34.31 34.36 37.36 37.3a 3b.2q 3a.6qd.31 2p.6qd.31 1d.k4l
   1e.k4l 1f.k4l 1g.k4l 1h.k4l 1i.k4l 1j.k4l 1k.k4l 1l.k4l 1d.1c.k4l 1d.1d.k4l 1d.1e.k4l
   1d.1f.k4l 1d.1g.k4l 1d.1h.k4l 1d.1i.k4l 1d.1j.k4l 1d.1k.k4l 1d.1l.k4l 1e.1c.k4l 1e.1d.k4l
   1e.1e.k4l 1e.1f.k4l 1e.1g.k4l 1e.1h.k4l 1e.1i.k4l 1e.1j.k4l 1e.1k.k4l 1e.1l.k4l 1f.1c.k4l
   1f.1d.k4l 2v.2p.30 +mn0 ui uk +5u x2n +c 5tl +d x3g +1 h1 +s h2 gs gx h8 h6 +1 im hz il xub
   +g x3o hu 5u6 +4 h0 +g bf +k 37 2r 2u 35 x6e +2 87 9f +o2 x0n xtj h7 xua +9 i5 +fpy 2u.2u
   2u.2x 2u.30 2u.2u.2x 2u.2u.30 37.38 37.38 +c 12s.12u 12s.12d 12s.12j 132.12u 12s.12l +8 15u
   15c +5 160 162 17 +11 15c.15o 19t 19t 1a3 1a3 1a3 1a3 1a6 1a6 +4 1a8 1a8 1a2 1a2 1a2 1a2 1a7
   1a7 1a7 1a7 1a1 1a1 1a1 1a1 1b8 1b8 +4 1ba 1ba 1ac 1ac 1ac 1ac 1ab 1ab 1ab 1ab 1ae 1ae 1ae +2
   1af 1af 1af 1al 1al +4 1ag 1ag 1aw 1aw 1ap 1ap 1bd 1bd 1bd 1bd 1bj 1bj 1bj 1bj 1bn 1bn 1bn
   1bn 1bl 1bl 1bl 1bl 1bu +2 1bv 1bv 1bv 1c0 +2 1c1 1c1 1c1 1by 1by 1by 1by 1ci +2 1cj +x 1bh
   1bh 1bh 1bh 1c7 1c7 +4 1c7.19w 1cb 1cb 1c5 1c5 1c9 1c9 1cg 1cg 1cg 1cg 18p 18p 17q.17r
   17q.17r 17q.1cl 17q.1cl 17q.18o 17q.18o 17q.1c7 17q.1c7 17q.1c6 17q.1c6 17q.1c8 17q.1c8
   17q.1cg 17q.1cg 17q.1cg 17q.18p 17q.18p 17q.18p 1cc 1cc 1cc 1cc 17q.17w 17q.17x 17q.18l
   17q.18p 17q.18q 17s.17w 17s.17x 17s.17y 17s.18l 17s.18p 17s.18q 17u.17w 17u.17x 17u.17y
   17u.18l 17u.18p 17u.18q 17v.17w 17v.18l 17v.18p 17v.18q 17w.17x 17w.18l 17x.17w 17x.18l
   17y.17w 17y.17x 17y.18l 183.17w 183.17x 183.17y 183.18l 185.17x 185.18l 186.17w 186.17x
   186.17y 186.18l 187.17x 187.18l 188.18l 189.17w 189.18l 18a.17w 18a.18l 18h.17w 18h.17x
   18h.17y 18h.18l 18h.18p 18h.18q 18i.17x 18i.18l 18i.18p 18i.18q 18j.17r 18j.17w 18j.17x
   18j.17y 18j.18k 18j.18l 18j.18p 18j.18q 18k.17w 18k.17x 18k.17y 18k.18l 18k.18p 18k.18q
   18l.17w 18l.17x 18l.17y 18l.18l 18l.18p 18l.18q 18m.17w 18m.17x 18m.17y 18m.18l 18m.18p
   18m.18q 18n.17w 18n.18l 18n.18p 18n.18q 18q.17w 18q.17x 18q.17y 18q.18l 18q.18p 18q.18q
   180.19s 181.19s 18p.19s w.18s.18x w.18t.18x w.18u.18x w.18v.18x w.18w.18x w.18x.19s 17q.181
   17q.182 17q.18l 17q.18m 17q.18p 17q.18q 17s.181 17s.182 17s.18l 17s.18m 17s.18p 17s.18q
   17u.181 17u.182 17u.18l 17u.18m 17u.18p 17u.18q 17v.181 17v.182 17v.18l 17v.18m 17v.18p
   17v.18q 18h.18p 18h.18q 18i.18p 18i.18q 18j.17r 18j.18k 18j.18l 18j.18p 18j.18q 18k.18l
   18k.18p 18k.18q 18l.17r 18l.18l 18m.181 18m.182 18m.18l 18m.18m 18m.18p 18m.18q 18p.19s
   18q.181 18q.182 18q.18l 18q.18m 18q.18p 18q.18q 17q.17w 17q.17x 17q.17y 17q.18l 17q.18n
   17s.17w 17s.17x 17s.17y 17s.18l 17s.18n 17u.17w 17u.17x 17u.17y 17u.18l 17u.18n 17v.18l
   17w.17x 17w.18l 17x.17w 17x.18l 17y.17w 17y.18l 183.17w 183.17x 183.17y 183.18l 185.17x
   185.17y 185.18l 186.17w 186.17x 186.17y 186.18l 187.17x 188.18l 189.17w 189.18l 18a.17w
   18a.18l 18h.17w 18h.17x 18h.17y 18h.18l 18i.17x 18i.18l 18j.17w 18j.17x 18j.17y 18j.18k
   18j.18l 18k.17w 18k.17x 18k.17y 18k.18l 18k.18n 18l.17w 18l.17x 18l.17y 18l.18l 18m.17w
   18m.17x 18m.17y 18m.18l 18m.18n 18n.17w 18n.18l 18n.19s 18q.17w 18q.17x 18q.17y 18q.18l
   18q.18n 17q.18l 17q.18n 17s.18l 17s.18n 17u.18l 17u.18n 17v.18l 17v.18n 183.18l 183.18n
   184.18l 184.18n 18j.18k 18j.18l 18k.18l 18m.18l 18m.18n 18q.18l 18q.18n 18g.18u.18x
   18g.18v.18x 18g.18w.18x 187.18p 187.18q 189.18p 189.18q 18a.18p 18a.18q 183.18p 183.18q
   184.18p 184.18q 17x.18p 17x.18q 17w.18p 17w.18q 17y.18p 17y.18q 185.18p 185.18q 186.18p
   186.18q 184.17w 184.17x 184.17y 184.18l 184.181 183.181 185.181 186.181 187.18p 187.18q
   189.18p 189.18q 18a.18p 18a.18q 183.18p 183.18q 184.18p 184.18q 17x.18p 17x.18q 17w.18p
   17w.18q 17y.18p 17y.18q 185.18p 185.18q 186.18p 186.18q 184.17w 184.17x 184.17y 184.18l
   184.181 183.181 185.181 186.181 184.17w 184.17x 184.17y 184.18l 183.18n 184.18n 187.18l
   183.17w 183.17x 183.17y 184.17w 184.17x 184.17y 187.18l 188.18l 17r.18r 17r.18r +i
   17u.17w.18l 17u.17x.17w 17u.17x.17w 17u.17x.18l 17u.17y.18l 17u.18l.17w 17u.18l.17x
   17u.18l.17y 17w.18l.17x 17w.18l.17x 17x.18l.18q 17x.18l.18p 183.17x.17w 183.17w.17x
   183.17w.18p 183.18l.17x 183.18l.17x 183.18l.17w 183.18l.18l 183.18l.18l 185.17x.17x
   185.17x.17x 185.18l.18l 184.17x.18l 184.17x.18l 184.17w.18q 184.18l.17y 184.18l.17y
   184.18l.18l 184.18l.18l 186.17x.18p 186.17y.18l 186.17y.18l 187.18l.17x 187.18l.17x
   187.18l.18l 187.18l.18q 189.17w.18l 189.18l.18l 189.18l.18l 189.18l.18p 18a.18l.18l
   18a.18l.18q 18a.18l.18p 18h.17y.18l 18h.17y.18l 18i.18l.17x 18i.18l.18l 18k.17x.18l
   18k.17x.18q 18k.17x.18p 18k.17w.17w 18k.17w.17w 18k.17y.18l 18k.17y.18l 18k.18l.17x
   18k.18l.17x 18l.17x.17w 18l.17x.18l 18l.17x.18q 18l.17w.17x 18l.17w.18l 18l.17y.17w
   18l.17y.18l +2 18l.17w.17y 18n.18l.17w 18n.18l.18l 18m.17x.18l 18m.17x.18p 18m.17w.18l
   18m.17w.18l 18m.17w.18p 18m.18l.18q 18m.18l.18p 18q.18l.18l 18q.18l.18l 17s.17y.18q
   17u.17w.18q 17u.17w.18p 17u.17y.18q 17u.17y.18p 17u.18l.18q 17u.18l.18p 17w.18l.18q
   17w.17x.18p 17w.18l.18p 183.17y.18p 185.17x.18q 184.17x.18q 186.17x.18q 18k.17w.18q
   18k.18l.18q 18q.17x.18q 18q.17w.18q 18q.18l.18q 18l.18l.18q 18i.18l.18q 18m.17x.18q
   18i.18l.17x 18k.17x.18l 189.18l.18q 18j.18l.18q 18m.17w.17x 18l.17y.18q 18k.17w.18l
   18j.18l.18l 18k.17w.18l 18m.17w.17x 17w.17x.18q 17x.17w.18q 18l.17w.18q 18h.18l.18q
   17s.17x.18q 18j.18l.18l 189.17w.18l 185.18l.18l 183.17y.18q 18m.17w.18q +14 185.18k.1ci
   18i.18k.1ci 17r.18k.18k.18n 17r.18j.17s.181 18l.17x.18l.17z 185.18k.189.18l 181.183.18o.18k
   189.18k.18q.18n 18o.183.18k.18l 185.18k.18p
   185.18k.18p.w.17r.18k.18k.18n.w.189.18k.18q.18n.w.18o.183.18k.18l
   17w.18k.w.17w.18k.17r.18k.18n 181.1cc.17r.18k +j 18 9hd +3 x 1r +q 6c4 6c3 2n 2n +2 3f 3h +e
   2j 2l w.lh w.lh w.lh w.lh 2n 2n 2n 18 9hd +2 1n 1m 1r x 6c4 +2 3f 3h +2 z 12 +2 19 1o 1q 1p
   +1 2k +2 1s +4 w.18r 18g.18r w.18s +1 w.18t +1 w.18u 18g.18u w.18v 18g.18v w.18w 18g.18w
   w.18x 18g.18x w.18y 18g.18y +a 17q 17q +4 17s 17s +4 17u 17u +2 17v 17v +2 17w 17w +2 17x 17x
   +2 17y 17y +a 183 183 +2 184 184 +2 185 185 +2 186 186 +2 187 187 +2 188 188 +2 189 189 +2
   18a 18a 18a 18h 18h 18h +2 18i 18i +2 18j 18j +2 18k 18k +2 18l 18l +2 18m 18m +2 18n 18n +6
   18q 18q 18q 18k.17m 18k.17m 18k.17n 18k.17n 18k.17p 18k.17p 18k.17r 18k.17r +2s 1a +2 9hd 9ob
   9o2 9lt 9lv 9lx 9lz 9m1 9nn 9np 9nr 9mr 9oc 9lu 9lw 9ly 9m0 +2 9m5 9m7 9m9 9mb 9md 9mf 9mh
   9mj 9ml 9mn 9mp 9ms 9mu 9mw +6 9n6 9n9 9nc 9nf +5 9no 9nq +6 9nz 9o3 +6 3cy +1 3hp +9 3dm +3
   3dt +19 4s w.lg 4m 4l 6g9 +1 7b6 +4 7fk 7gr +146 1fp8 +dp 6e ih gj +2 xuu +1 is +2 5u9 go gu
   ix h0 gy gw ij 87 ik h3 hw +2 h8 2mmc x3i ha 2mmd i6 2mme 6w +2 35 hm 2mmg +2 hs iw iu xuv iv
   i0 8s1 +1 i7 +2 ig +3 2mmi 2mn2 +14h0 2s +2 2v +4j 33 +9p 8h fr +j qg +7 6pz +h qr +7 6pu qd
   qg qi qu qp qo +h qg +7 6pz +h qr +7 6pu qd qg qi qu qp qo +h qg +7 6pz +h qr +7 6pu qd qg qi
   qu qp qo +h qg +7 6pz +h qr +7 6pu qd qg qi qu qp qo +h qg +7 6pz +h qr +7 6pu qd qg qi qu qp
   qo rh rh +1ob uj +2 ww9 yh uu uw yx xb y7 +d u9 +8 wh uu ut v3 x7 wup xd +2ok 17w 17z +1 18o
   182 17x 187 18q +4 183 189 18h 185 18i 181 184 +2 17y 180 186 188 18a 19q 1bu 1b5 19r +1 17s
   17w +1 18n +2 17x +1 18q +4 183 189 18h 185 18i +1 184 +2 17y +1 186 +1 18a +6 17w +4 17x +1
   18q +4 183 189 +1 185 18i +1 184 +2 17y +1 186 +1 18a +1 1bu +1 19r +1 17s 17w +1 18n +2 17x
   187 18q +3 18m 183 189 18h 185 18i +1 184 +2 17y +1 186 188 18a 19q +1 1b5 +3 17w 17z +2 182
   17x 187 18q +4 183 189 18h 185 18i 181 184 +2 17y 180 186 188 18a +5 17s 17w 17z +1 18o 182
   17x 187 18q +4 183 189 18h 185 18i 181 184 +2 17y 180 186 188 18a +g5 1c.18 1d.18 1e.18 1f.18
   1g.18 1h.18 1i.18 1j.18 1k.18 1l.18 +5 14.2p.15 14.2q.15 14.2r.15 14.2s.15 14.2t.15 14.2u.15
   14.2v.15 14.2w.15 14.2x.15 14.2y.15 14.2z.15 14.30.15 14.31.15 14.32.15 14.33.15 14.34.15
   14.35.15 14.36.15 14.37.15 14.38.15 14.39.15 14.3a.15 14.3b.15 14.3c.15 14.3d.15 14.3e.15
   9hw.37.9hx 2r 36 2r.2s 3b.3e +r 2w.3a 31.3a 37.2s 37.37 34.34.3a 3b.2r +q 31.2r 31.2s 31.36
   +z 2s.2y +33 9kr.9jf 9mb.9mb 9md +d jez i1j gjw 9mv fik hlm r8j hm1 fj8 k68 mch k2h g99 ivg
   g3x k34 g7x oqq n4v rs9 hkg gmx lxw jh1 jmd feo fex si2 ijq ffx gkz jk7 rxs jf7 o01 o6y glk
   lts kcp kco n5f gaa gxi sp9 +4 9hw.kdo.9hx 9hw.fex.9hx 9hw.fik.9hx 9hw.i2x.9hx 9hw.m9l.9hx
   9hw.jf7.9hx 9hw.nh3.9hx 9hw.gd9.9hx 9hw.k0n.9hx +7 ivr gkv"

/-- What stands for a character in the name of a host, if it may stand there. -/
def read? (c : Char) : Option (List Char) :=
  if c.toNat < 128 then some [c.toLower]
  else if Table.inRuns barredRuns c then none
  else if Table.inRuns silentRuns c then some []
  else match shifts.findSome? (Shift.move? · c) with
    | some d => some [d]
    | none => some ((Table.entry? replacements c).getD [c])

end KeyspaceLink.HostCharacter
