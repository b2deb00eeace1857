import KeyspaceLink.Text.Table

/-! Characters that stand for others in a row, and so are equal to them. -/

namespace KeyspaceLink

/-- Characters that a text in normal form has in place of their parts. -/
def composites : List (Nat × List Char) := Table.entries
  "+5c 1t.lc 1t.ld 1t.le 1t.lf 1t.lk 1t.lm +1 1v.mf 1x.lc 1x.ld 1x.le 1x.lk 21.lc 21.ld 21.le
   21.lk +1 26.lf 27.lc 27.ld 27.le 27.lf 27.lk +2 2d.lc 2d.ld 2d.le 2d.lk 2h.ld +2 2p.lc 2p.ld
   2p.le 2p.lf 2p.lk 2p.lm +1 2r.mf 2t.lc 2t.ld 2t.le 2t.lk 2x.lc 2x.ld 2x.le 2x.lk +1 32.lf
   33.lc 33.ld 33.le 33.lf 33.lk +2 39.lc 39.ld 39.le 39.lk 3d.ld +1 3d.lk 1t.lg 2p.lg 1t.li
   2p.li 1t.mg 2p.mg 1v.ld 2r.ld 1v.le 2r.le 1v.lj 2r.lj 1v.lo 2r.lo 1w.lo 2s.lo +2 1x.lg 2t.lg
   1x.li 2t.li 1x.lj 2t.lj 1x.mg 2t.mg 1x.lo 2t.lo 1z.le 2v.le 1z.li 2v.li 1z.lj 2v.lj 1z.mf
   2v.mf 20.le 2w.le +2 21.lf 2x.lf 21.lg 2x.lg 21.li 2x.li 21.mg 2x.mg 21.lj +3 22.le 2y.le
   23.mf 2z.mf +1 24.ld 30.ld 24.mf 30.mf 24.lo 30.lo +4 26.ld 32.ld 26.mf 32.mf 26.lo 32.lo +3
   27.lg 33.lg 27.li 33.li 27.ln 33.ln +2 2a.ld 36.ld 2a.mf 36.mf 2a.lo 36.lo 2b.ld 37.ld 2b.le
   37.le 2b.mf 37.mf 2b.lo 37.lo 2c.mf 38.mf 2c.lo 38.lo +2 2d.lf 39.lf 2d.lg 39.lg 2d.li 39.li
   2d.lm 39.lm 2d.ln 39.ln 2d.mg 39.mg 2f.le 3b.le 2h.le 3d.le 2h.lk 2i.ld 3e.ld 2i.lj 3e.lj
   2i.lo 3e.lo +x 27.m3 33.m3 +d 2d.m3 39.m3 +s 1t.lo 2p.lo 21.lo 2x.lo 27.lo 33.lo 2d.lo 39.lo
   2d.lk.lg 39.lk.lg 2d.lk.ld 39.lk.ld 2d.lk.lo 39.lk.lo 2d.lk.lc 39.lk.lc +1 1t.lk.lg 2p.lk.lg
   1t.lj.lg 2p.lj.lg 5i.lg 6e.lg +2 1z.lo 2v.lo 23.lo 2z.lo 27.mg 33.mg 27.mg.lg 33.mg.lg c7.lo
   ia.lo 2y.lo +3 1z.ld 2v.ld +2 26.lc 32.lc 1t.lm.ld 2p.lm.ld 5i.ld 6e.ld 60.ld 6w.ld 1t.lr
   2p.lr 1t.lt 2p.lt 1x.lr 2t.lr 1x.lt 2t.lt 21.lr 2x.lr 21.lt 2x.lt 27.lr 33.lr 27.lt 33.lt
   2a.lr 36.lr 2a.lt 36.lt 2d.lr 39.lr 2d.lt 39.lt 2b.me 37.me 2c.me 38.me +2 20.lo 2w.lo +6
   1t.lj 2p.lj 1x.mf 2t.mf 27.lk.lg 33.lk.lg 27.lf.lg 33.lf.lg 27.lj 33.lj 27.lj.lg 33.lj.lg
   2h.lg 3d.lg +9d 4o.ld pd.ld +1 ph.ld pj.ld pl.ld +1 pr.ld +1 px.ld q1.ld qh.lk.ld +p pl.lk
   px.lk q9.ld qd.ld qf.ld qh.ld qt.lk.ld +p qh.lk qt.lk qn.ld qt.ld qx.ld +4 r6.ld r6.lk +17
   t1.lc t1.lk +1 sz.ld +3 sm.lk +4 t6.ld t4.lc tf.li +a t4.li +v u0.li +m tx.lc tx.lk +1 tv.ld
   +3 uu.lk +4 u2.ld u0.lc ub.li +n vo.lr vp.lr +21 t2.li ty.li +d sw.li ts.li sw.lk ts.lk +2
   t1.li tx.li +2 yg.lk yh.lk t2.lk ty.lk t3.lk tz.lk +2 t4.lg u0.lg t4.lk u0.lk ta.lk u6.lk +2
   yw.lk yx.lk tp.lk ul.lk tf.lg ub.lg tf.lk ub.lk tf.ln ub.ln tj.lk uf.lk +2 tn.lk uj.lk +88
   17r.18z 17r.190 18o.190 17r.191 18q.190 +49 1cl.190 +1 1c1.190 +g 1ci.190 +gl 1t4.1to +7
   1tc.1to +2 1tf.1to +46 1xj.1xa 1xj.1xz +aj 287.28m +2 287.27y 287.28n +1z 2aa.2c7 +1h 2bq.2bi
   2br.2bi 2bq.2c7 +3f 2fa.2fq +3b 2in.2j9 +6 2iu.2j9 2iu.2ja +1 2iu.2iq 2iu.2iq.2j9 +3i 2me.2m6
   2mf.2m6 2me.2mv +3x 2qh.2q2 +1 2qh.2q7 2qh.2q7.2q2 2qh.2qn +g7 36t.372 +25b 5c5.5dh +1
   5c7.5dh +1 5c9.5dh +1 5cb.5dh +1 5cd.5dh +3 5ch.5dh +14 5dm.5dh +1 5do.5dh +2 5dq.5dh 5dr.5dh
   +1 5du.5dh +jg 1t.md 2p.md 1u.lj 2q.lj 1u.mb 2q.mb 1u.mp 2q.mp 1v.mf.ld 2r.mf.ld 1w.lj 2s.lj
   1w.mb 2s.mb 1w.mp 2s.mp 1w.mf 2s.mf 1w.ml 2s.ml 1x.lg.lc 2t.lg.lc 1x.lg.ld 2t.lg.ld 1x.ml
   2t.ml 1x.mo 2t.mo 1x.mf.li 2t.mf.li 1y.lj 2u.lj 1z.lg 2v.lg 20.lj 2w.lj 20.mb 2w.mb 20.lk
   2w.lk 20.mf 2w.mf 20.mm 2w.mm 21.mo 2x.mo 21.lk.ld 2x.lk.ld 23.ld 2z.ld 23.mb 2z.mb 23.mp
   2z.mp 24.mb 30.mb 24.mb.lg 30.mb.lg 24.mp 30.mp 24.ml 30.ml 25.ld 31.ld 25.lj 31.lj 25.mb
   31.mb 26.lj 32.lj 26.mb 32.mb 26.mp 32.mp 26.ml 32.ml 27.lf.ld 33.lf.ld 27.lf.lk 33.lf.lk
   27.lg.lc 33.lg.lc 27.lg.ld 33.lg.ld 28.ld 34.ld 28.lj 34.lj 2a.lj 36.lj 2a.mb 36.mb 2a.mb.lg
   36.mb.lg 2a.mp 36.mp 2b.lj 37.lj 2b.mb 37.mb 2b.ld.lj 37.ld.lj 2b.lo.lj 37.lo.lj 2b.mb.lj
   37.mb.lj 2c.lj 38.lj 2c.mb 38.mb 2c.mp 38.mp 2c.ml 38.ml 2d.mc 39.mc 2d.mo 39.mo 2d.ml 39.ml
   2d.lf.ld 39.lf.ld 2d.lg.lk 39.lg.lk 2e.lf 3a.lf 2e.mb 3a.mb 2f.lc 3b.lc 2f.ld 3b.ld 2f.lk
   3b.lk 2f.lj 3b.lj 2f.mb 3b.mb 2g.lj 3c.lj 2g.lk 3c.lk 2h.lj 3d.lj 2i.le 3e.le 2i.mb 3e.mb
   2i.mp 3e.mp 2w.mp 38.lk 3b.lm 3d.lm +1 an.lj +4 1t.mb 2p.mb 1t.ll 2p.ll 1t.le.ld 2p.le.ld
   1t.le.lc 2p.le.lc 1t.le.ll 2p.le.ll 1t.le.lf 2p.le.lf 1t.mb.le 2p.mb.le 1t.li.ld 2p.li.ld
   1t.li.lc 2p.li.lc 1t.li.ll 2p.li.ll 1t.li.lf 2p.li.lf 1t.mb.li 2p.mb.li 1x.mb 2t.mb 1x.ll
   2t.ll 1x.lf 2t.lf 1x.le.ld 2t.le.ld 1x.le.lc 2t.le.lc 1x.le.ll 2t.le.ll 1x.le.lf 2t.le.lf
   1x.mb.le 2t.mb.le 21.ll 2x.ll 21.mb 2x.mb 27.mb 33.mb 27.ll 33.ll 27.le.ld 33.le.ld 27.le.lc
   33.le.lc 27.le.ll 33.le.ll 27.le.lf 33.le.lf 27.mb.le 33.mb.le 27.m3.ld 33.m3.ld 27.m3.lc
   33.m3.lc 27.m3.ll 33.m3.ll 27.m3.lf 33.m3.lf 27.m3.mb 33.m3.mb 2d.mb 39.mb 2d.ll 39.ll
   2d.m3.ld 39.m3.ld 2d.m3.lc 39.m3.lc 2d.m3.ll 39.m3.ll 2d.m3.lf 39.m3.lf 2d.m3.mb 39.m3.mb
   2h.lc 3d.lc 2h.mb 3d.mb 2h.ll 3d.ll 2h.lf 3d.lf +6 q9.lv q9.lw q9.lv.lc q9.lw.lc q9.lv.ld
   q9.lw.ld q9.lv.n6 q9.lw.n6 pd.lv pd.lw pd.lv.lc pd.lw.lc pd.lv.ld pd.lw.ld pd.lv.n6 pd.lw.n6
   qd.lv qd.lw qd.lv.lc qd.lw.lc qd.lv.ld qd.lw.ld +2 ph.lv ph.lw ph.lv.lc ph.lw.lc ph.lv.ld
   ph.lw.ld +2 qf.lv qf.lw qf.lv.lc qf.lw.lc qf.lv.ld qf.lw.ld qf.lv.n6 qf.lw.n6 pj.lv pj.lw
   pj.lv.lc pj.lw.lc pj.lv.ld pj.lw.ld pj.lv.n6 pj.lw.n6 qh.lv qh.lw qh.lv.lc qh.lw.lc qh.lv.ld
   qh.lw.ld qh.lv.n6 qh.lw.n6 pl.lv pl.lw pl.lv.lc pl.lw.lc pl.lv.ld pl.lw.ld pl.lv.n6 pl.lw.n6
   qn.lv qn.lw qn.lv.lc qn.lw.lc qn.lv.ld qn.lw.ld +2 pr.lv pr.lw pr.lv.lc pr.lw.lc pr.lv.ld
   pr.lw.ld +2 qt.lv qt.lw qt.lv.lc qt.lw.lc qt.lv.ld qt.lw.ld qt.lv.n6 qt.lw.n6 +1 px.lw +1
   px.lw.lc +1 px.lw.ld +1 px.lw.n6 qx.lv qx.lw qx.lv.lc qx.lw.lc qx.lv.ld qx.lw.ld qx.lv.n6
   qx.lw.n6 q1.lv q1.lw q1.lv.lc q1.lw.lc q1.lv.ld q1.lw.ld q1.lv.n6 q1.lw.n6 q9.lc +1 qd.lc +1
   qf.lc +1 qh.lc +1 qn.lc +1 qt.lc +1 qx.lc +3 q9.lv.n9 q9.lw.n9 q9.lv.lc.n9 q9.lw.lc.n9
   q9.lv.ld.n9 q9.lw.ld.n9 q9.lv.n6.n9 q9.lw.n6.n9 pd.lv.n9 pd.lw.n9 pd.lv.lc.n9 pd.lw.lc.n9
   pd.lv.ld.n9 pd.lw.ld.n9 pd.lv.n6.n9 pd.lw.n6.n9 qf.lv.n9 qf.lw.n9 qf.lv.lc.n9 qf.lw.lc.n9
   qf.lv.ld.n9 qf.lw.ld.n9 qf.lv.n6.n9 qf.lw.n6.n9 pj.lv.n9 pj.lw.n9 pj.lv.lc.n9 pj.lw.lc.n9
   pj.lv.ld.n9 pj.lw.ld.n9 pj.lv.n6.n9 pj.lw.n6.n9 qx.lv.n9 qx.lw.n9 qx.lv.lc.n9 qx.lw.lc.n9
   qx.lv.ld.n9 qx.lw.ld.n9 qx.lv.n6.n9 qx.lw.n6.n9 q1.lv.n9 q1.lw.n9 q1.lv.lc.n9 q1.lw.lc.n9
   q1.lv.ld.n9 q1.lw.ld.n9 q1.lv.n6.n9 q1.lw.n6.n9 q9.li q9.lg q9.lc.n9 q9.n9 q9.ld.n9 +1 q9.n6
   q9.n6.n9 pd.li pd.lg pd.lc +1 pd.n9 +4 4o.n6 qf.lc.n9 qf.n9 qf.ld.n9 +1 qf.n6 qf.n6.n9 ph.lc
   +1 pj.lc +1 pj.n9 69r.lc 69r.ld 69r.n6 qh.li qh.lg qh.lk.lc +3 qh.n6 qh.lk.n6 pl.li pl.lg
   pl.lc +2 6bi.lc 6bi.ld 6bi.n6 qt.li qt.lg qt.lk.lc +1 qp.lv qp.lw qt.n6 qt.lk.n6 px.li px.lg
   px.lc +1 pt.lw 4o.lc +4 qx.lc.n9 qx.n9 qx.ld.n9 +1 qx.n6 qx.n6.n9 pr.lc +1 q1.lc +1 q1.n9 +bh
   6mo.mw 6mq.mw +i 6ms.mw +u 6og.mw 6ok.mw 6oi.mw +1g 6pv.mw +4 6q0.mw +2 6q3.mw +n 6qr.mw +1
   6qt.mw +q 6rg.mw +2 6rn.mw +2 6rp.mw +1 6rs.mw +m 1p.mw +1 6sh.mw +a 6rx.mw 1o.mw 1q.mw
   6sk.mw 6sl.mw +2 6sy.mw 6sz.mw +2 6t2.mw 6t3.mw +6 6t6.mw 6t7.mw +2 6te.mw 6tf.mw +2 6ti.mw
   6tj.mw +y 6ua.mw 6ug.mw 6uh.mw 6uj.mw +1c 6t8.mw 6t9.mw 6tt.mw 6tu.mw +6 6uq.mw 6ur.mw 6us.mw
   6ut.mw +2n2 9jf.9ll +1 9jh.9ll +1 9jj.9ll +1 9jl.9ll +1 9jn.9ll +1 9jp.9ll +1 9jr.9ll +1
   9jt.9ll +1 9jv.9ll +1 9jx.9ll +1 9jz.9ll +1 9k1.9ll +2 9k4.9ll +1 9k6.9ll +1 9k8.9ll +6
   9kf.9ll 9kf.9lm +1 9ki.9ll 9ki.9lm +1 9kl.9ll 9kl.9lm +1 9ko.9ll 9ko.9lm +1 9kr.9ll 9kr.9lm
   +m 9ja.9ll +9 9lp.9ll +d 9m3.9ll +1 9m5.9ll +1 9m7.9ll +1 9m9.9ll +1 9mb.9ll +1 9md.9ll +1
   9mf.9ll +1 9mh.9ll +1 9mj.9ll +1 9ml.9ll +1 9mn.9ll +1 9mp.9ll +2 9ms.9ll +1 9mu.9ll +1
   9mw.9ll +6 9n3.9ll 9n3.9lm +1 9n6.9ll 9n6.9lm +1 9n9.9ll 9n9.9lm +1 9nc.9ll 9nc.9lm +1
   9nf.9ll 9nf.9lm +m 9ly.9ll +2 9nz.9ll 9o0.9ll 9o1.9ll 9o2.9ll +3 9od.9ll +1616 1fpu.lj +q
   1fq2.lj +245 1huh.1hve +1 1huj.1hve +e 1hut.1hve +3m 1hyp.1hyf 1hyq.1hyf +ez 1idj.1ida
   1idj.1idz +1i 1if6.1ih5 +1 1if8.1igr +8 1iff.1igy +2 1ifk.1ih5 +1f 1igy.1igy +1 1igy.1igo
   1igy.1ih5 +6q 1int.1inu 1int.1ink +1 1int.1inx +6z 1iuw.1iun 1iux.1iun +os 1jjp.1jjk +e7c
   1xr2.1xr2 1xr2.1xrd 1xr2.1xr3 1xrd.1xr3 1xr2.1xr4 1xr2.1xr2.1xr3 1xr2.1xrd.1xr3
   1xr2.1xr2.1xr4 +2f3 206f.206f 206b.206f 206b.206f.206f"

/-- Characters that a text in normal form does not have. -/
def variants : List (Nat × List Char) := Table.entries
  "+n4 lc ld +1 lv lk.ld +1b jd +9 1n +8 53 +15c 1sl.1to 1sm.1to 1sn.1to 1ss.1to 1sx.1to 1sy.1to
   1t7.1to 1tb.1to +3g 1wh.1x8 1wi.1x8 +1 1wv.1x8 +2b 20i.20s +2 20o.20s +y 1zq.20s 1zr.20s
   1zw.20s +2 20b.20s +71 275.27w 276.27w +rp 30i.33r +9 30s.33r +4 30x.33r +4 312.33r +4
   317.33r +c 30g.33p +9 31t.31u +1 31t.31w 33m.328 +1 33n.328 +8 31t.328 +h 32q.33r +9 330.33r
   +4 335.33r +4 33a.33r +4 33f.33r +c 32o.33p +33r q9.ld +1 qd.ld +1 qf.ld +1 qh.ld +1 qn.ld +1
   qt.ld +1 qx.ld +1p pd.ld +2 qh +a ph.ld +1 pj.ld +7 qh.lk.ld +7 pl.ld +7 qt.lk.ld +7 px.ld +2
   4o.ld 2o +9 pr.ld +1 q1.ld +1 50 +2 6bm 6bn +84 q1 +3 23 1t.lm +e5 9hk 9hl +1ip 8gt.mw +14pv
   rpk kc4 s7e rt4 lw1 fg2 gkl vj0 vj0 hn5 ssx gw7 hmw jcm ne1 p6t qin qt6 r20 sjz kxu ljv mah
   mvy q4d sq2 uep fia ghh l50 mjf qi5 v8e ifk m3v qfh r50 jih pnc qvz iq2 kd3 lm2 mpo slq fpi
   g53 gda jwk l3n mj4 nhj pa9 qh2 qjg s1b tv6 upb v7e nt8 nzz otc q15 t1g vb3 rfa hjz iro okg
   pdq mle nuy rsy ttj hjs i8y kyb lp6 lxr oq7 oxj tor gcy pe3 g64 g5o o4c ou6 q29 tpx rk0 jin
   kxu rge fg9 i5j iz6 mtj n74 gev nwb fr3 iw9 ff1 lho k1k opu gjn hge ni9 q4p re2 la2 sds lfs
   jjy put jog n6t fji g2x g5l kn5 oo7 prj rf6 ssv gdx gn6 ho3 ir0 k3p m4e nxm tkd ui2 vbr vda
   gbf kau l87 sbm ino j9s jcw jve lyb mdl n0p o22 ovo pdb s9y q9a sgz t3e g7r gbn gql ma0 r0i
   re2 iq1 iyd jnf l9q oji mt1 fl0 h6h i5j iii izg muq mzt p7e pc6 svo tti tvs u1k fpn o1a ss4
   trs j4x fie fyy i5q i7z k2h kxu mha ncy q9o sjg vil k94 tny gax kfv kj7 lkx luk mx5 n6h nsb
   opc u3i g31 je6 tq0 fu3 ie1 lpm sa2 ivf j7o kk7 mtj tqe g89 glr i91 k5v kem ko8 lid mx2 naa
   p6h r0v r1d sss tsy gfz lve gm5 mhc n14 qgq tr7 uvr vbz kgn lor pns o97 obk olu mo0 m8p riw
   fk0 px2 g8q g7b ip2 jir onq i2t ljy kac saj qx8 tot r63 iqb g1s gxs +2 hga +1 k8k +2 g66 mqy
   ngq ny4 nz2 nz9 o0f tw6 on2 p8d +1 qhe +1 rg8 +2 shk sn1 +3 u7j u7w u94 v5g sm6 trr fqm fzb
   g25 gcp gdg ggh gwt gzq h2g hfk hig i90 i9a j2s j8o j9q jci k0f k4i k9d kn9 lmf lqy lya mem
   mjv mxu ntd ny6 nyh nyg nyo nyu nz1 o0d o0e o5c o75 og0 ovo ow9 oxt p6a pad pnx prt prt q53
   r2o r6e rgh ri1 rtf ruw sdy shk tsz u0v u2j j1x 36cu pp4 +2 ffq g51 g2w fpc g1x g3k gcn ge2
   gwt gut gwp gyq hga hir hms hn8 huq i08 iqa iqh iuh iwd j4o j7y j60 j9q j8g jci jec jpg jrw
   jte k0m k8k kd3 kd7 keu l89 la2 lkx lwb lvv lya m5a mem nmv mk5 mnj mqy n01 n46 n5n nbx nbz
   ngq nh7 nhw nka nk0 nv0 o8h og0 ol7 orf ovo p4u pad pxu q27 qrd r41 r5y r6e ren rg8 rez rgh
   rge rfx ri1 rka ruw sag sj6 srd sxi tq4 tsz tw6 tzv u0v u17 u2j umq vj0 313e 3138 33dh brx
   cns cop 39e1 3bgw 3i6r vgj vim +1v 15l.14k +1 16a.14n +a 161.14x 161.14y 161.14s.14x
   161.14s.14y 15c.14n 15c.14o 15c.14s 15d.14s 15e.14s 15f.14s 15g.14s 15h.14s 15i.14s +1
   15k.14s 15l.14s 15m.14s 15n.14s 15o.14s +1 15q.14s +1 15s.14s 15t.14s +1 15v.14s 15w.14s +1
   15y.14s 15z.14s 160.14s 161.14s 162.14s 15h.14p 15d.14v 15n.14v 15w.14v +16a7 2jx3.2jxh
   2jx4.2jxh 2jx4.2jxh.2jxq 2jx4.2jxh.2jxr 2jx4.2jxh.2jxs 2jx4.2jxh.2jxt 2jx4.2jxh.2jxu +2e
   2jzt.2jxh 2jzu.2jxh 2jzt.2jxh.2jxq 2jzu.2jxh.2jxq 2jzt.2jxh.2jxr 2jzu.2jxh.2jxr +1m4f fgd fg8
   fgh 2tcy fog fqm fqz fsy fwa fx5 fzb fyn ae6 2ud6 g25 g2c g2s g3b 2u58 aex g2v g3x 2u6j g47
   g4k fkc g4s g51 3ly7 g6t g77 afz g8r g92 gaa gaf ahh gcn gcp gdg ge2 ged gee gev gg9 ggh ggq
   ghf ghp ghr ghr ghr 2v58 m7k gju gkf 2vdv gkr gkx gli gpq gmw gnc go8 gpu gs6 gsw gur gv7 gw4
   gw4 gwp gx7 gxf gxu h7a gzq h7b h1t h2s g7b hke hce hdg he5 haj hf6 hf5 hik 2x9g hki hkn hl2
   hlm hlu hnm 2xm0 2xnu hrg hsr ht3 hqw huu aum av0 hzc i0u i0u 2y88 i4j i54 i5j i5v 2yhk i67
   i6e itv i76 ayp i8w i9a ibk ia5 2z1g if7 2z1i ige igb igs ijl ijm b3j ikd ilk im5 ind b4y
   2zr7 b5o ipc ipf ipi iq2 3pg2 iri 3035 3035 poh isi isi b7r 335k 3cgq iua iuj b8j ivu ix9 ixj
   iyh j29 bay ba4 j2s 30t0 j47 j7s j7w j7y j7w j96 j9q jaq jac jan jby jci jcm jdc jdn jfh jht
   jis jm8 31n0 jlp jjw jmw jnn jqc 31td js2 jph jop bhq ju1 jum jvh juf bjg k0f k18 32mi k4j
   kc8 k7d bo9 k9d bns bms g42 g45 kcg k9o pf1 deh kd3 kd7 kdd kf2 ker 33cz bpl kje kg5 klu kn9
   33hp kni kkf kr8 brx ksi kv7 kx6 l2g 33xf l3v bvc l5t 34br l78 bwu l82 l9b la2 la3 34p9 2yvf
   34sa le6 354s lhb lhp lev ljq lku lmf lkx lm1 lmg lmt 357i lkk lrj lta c37 lvv lvr 35jl lq1
   m0e 35ni 35ou m2u m61 m5a m57 c5y m6i m7x m7r m99 2u5h mdh 368z mfw 36i3 mjs mk5 mkw 36yw mm8
   mmt 3779 37dg mt6 mtn cdo mud ce0 ce0 myv mzg n01 n0l n2i cgr n50 386u n5q 389e n74 2zrz nbk
   38v5 38vs 38zo cn0 cnc nhw 394j 394i 395l 396b nj2 nj3 nj3 nka cop nm3 cp2 cra 39r1 nri nt8
   nv0 ctf 3a5i nyu 3a8q 3a9x o0f o2z cvj o5c o5m o5r 3at8 3b1j 3b1j oa6 d1e 3b8r og6 og9 d2f
   3beo onm d5s oo8 oo3 oow 3c06 orn d8h ouf ow2 oxx d9w 3ciw 3cjr dax 3cnt p6i 3cqm p79 pa2 pad
   3d22 3d43 pcw 3d7s pdc 33a7 ded pf6 phf dfv pj2 hx1 3dlz 3dmd 33bn 33bw poh pok sda dij psh
   psb pst gc3 ptd ptf ptp puu 3ebg put pwd pyb q0d pwj q0t q1z q53 pxv q16 q18 q1o 3eie 3eqz
   3emt dnv q9d q9f qae 3g0a qck 3f3g dp9 dpd 3f75 3ff6 dpn qj4 qjg qjr qjt qll qko qoe qn6 qrd
   qp4 qqz qrq dsn qu9 qv5 dtl qxs qxv 3giv r13 r1a dv9 r22 aez 3gz2 3h46 dz2 dzb rds rfx rka
   rpx 3hrc rsb rsx rvf rxz 3i9b 2upw s0b rzw s1c 2uvy s7o sag 3jki 3jl9 sk4 smp snl 3ju6 snv
   svs t07 t08 sxo t89 t91 3ksa tjf ej9 tkn 3l2v eli ts3 iia tur 3ltx 3lzu epa epi u00 3mdm er6
   3mhi u17 u17 u21 3mpi u76 eur u95 ucn ude uf2 ez2 3nsg umq uv4 v0d f66 f71 v3b 3owe f7c 3oxx
   3p5a 3p8x vcr f9y veh vem vet vf3 vfa vgb 3pxc"

end KeyspaceLink
