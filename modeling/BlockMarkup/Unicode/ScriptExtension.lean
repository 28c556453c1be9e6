import BlockMarkup.Unicode.CharSet

/-!
# Script extensions

The characters that each script uses, for the scripts that share characters with others. For the
others these are the characters of `Script.table`.
-/

namespace BlockMarkup.Unicode.ScriptExtension

/-- The names of each script and its characters, in the compact form of `CharSet.decode`. -/
def table : List (List String × String) := [
   (["Adlm", "Adlam"], "17j w 55a 2r5 2fge.23 4.9 4.1"),
   (["Aghb", "Caucasian_Albanian"], "lg 18 18 1exd.1f b"),
   (["Arab", "Arabic"], 
    "16o.4 1.5y 1.x 28.1b 6o.x 5.22 1.s 4lr 2r5 14i6.hr w.f 34.4 1.3q rn.r 290.u 1v.5 8.8 x.5
    181s.3 1.q 1.1 1 2 1.9 1.3 1 1 6 4 1 1 1.2 1.1 1 2 1 1 1 1 1.1 1 2.3 1.6 1.3 1.3 1 1.9 1.g
    5.2 1.4 1.g 1g.1"),
   (["Armn", "Armenian"], "lk fc.11 2.1d 2.2 1chv.4"),
   (["Avst", "Avestan"], "53 8zc.1 17m6.1h 3.6"),
   (["Beng", "Bengali"], 
    "jg 1as.1 h.1 q.3 1.7 2.1 2.l 1.6 1 3.3 2.8 2.1 2.3 8 4.1 1.4 2.o 3pt 1 2.1 1 8 8 2 4 2.2
    rnd"),
   (["Bopo", "Bopomofo"], "jr 1.2 d g.1 8wl.2 4.9 1.c a.3 2 6 5f 9.16 34.v 14ed.1 7u.4"),
   (["Bugi", "Buginese"], "54w.r 2.1 sdr"),
   (["Buhd", "Buhid"], "4l1.1 9.j"),
   (["Cakm", "Chakma"], "1ye.9 18w.9 1epi.1g 1.h"),
   (["Cari", "Carian"], "53 68y 2 2qb 15ym.1c"),
   (["Cher", "Cherokee"], "lc.2 1 6.1 m.1 b.1 38u.2d 2.5 twy.27"),
   (["Copt", "Coptic", "Qaac"], "53 g8 3.1 1 30.1 30.d 80g.37 5.6 7r 1614.r"),
   (["Cpmn", "Cypro_Minoan"], "1erk.1 972.2q"),
   (["Cprt", "Cypriot"], "1erk.2 4.18 3.8 1c0.5 2 1.17 1.1 3 2"),
   (["Cyrl", "Cyrillic"], 
    "jg 1v.2 1 1 1 2 5 6m.8f 4ls.a 4g 24 3j 353.v 1v np8.2n ham.1 18n4.1p x"),
   (["Deva", "Devanagari"], "jg 18j.2a 2.16 3tc.12 1.1 s6 qpr.9 4m.v mio.9"),
   (["Dogr", "Dogra"], "1us.b vcw.9 m2u.1n"),
   (["Dupl", "Duployan"], "53 gf.1 1 o.1 8if 26kj.2y 5.c 3.8 7.9 2.7"),
   (["Elba", "Elbasan"], "53 gd 1eyi.13"),
   (["Ethi", "Ethiopic"], 
    "lq 2y9.20 1.3 2.6 1 1.3 2.14 1.3 2.w 1.3 2.6 1 1.3 2.e 1.1k 1.3 2.1u 2.v 3.p 546.m 9.6 1.6
    1.6 1.6 1.6 1.6 1.6 1.6 opu.5 2.5 2.5 9.6 1.6 1qk1.6 1.3 1.1 1.e"),
   (["Gara", "Garay"], "170 e 3 1fz4.11 3.s 8.1"),
   (["Geor", "Georgian"], "53 y9 26u.11 1 5 2.1b 2a8.16 2.2 pm 2hx.11 1 5 77"),
   (["Glag", "Glagolitic"], "53 gb 1 am 2 75 29d 31a 2at.2n df nqj 1pxs.6 1.g 2.6 1.1 1.4"),
   (["Gong", "Gunjala_Gondi"], "53 1po.1 1iii.5 1.1 1.10 1.1 1.5 7.9"),
   (["Gonm", "Masaram_Gondi"], "1us.1 1ifu.6 1.1 1.17 3 1.1 1.8 8.9"),
   (["Goth", "Gothic"], "53 gc.1 2 14 1eke.q"),
   (["Gran", "Grantha"], 
    "1u9.1 h.1 hs.d 3bw 1.1 u.2 3.1 s6 1btb.3 1.7 2.1 2.l 1.6 1.1 1.4 1.9 2.1 2.2 2 6 5.6 2.6
    3.4 2fv.1 1"),
   (["Grek", "Greek"], 
    "53 g8.1 2 1 1 a 1a 2 16.7 2.3 1 4 1 1.2 1 1.j 1.1q e.f 4yu.4 1e.4 4.4 2c.2 8u.l 2.5 2.11
    2.5 2.7 1 1 1 1.u 2.1g 1.e 1.d 2.5 1.i 2.2 1.8 2m 5k rb2 gyi.26 h 155r.1x"),
   (["Gujr", "Gujarati"], 
    "1u9.1 h.1 7v.2 1.8 1.2 1.l 1.6 1.1 1.4 2.9 1.2 1.2 2 f.3 2.b 7.6 v1s.9"),
   (["Gukh", "Gurung_Khema"], "1ut 1vve.1l"),
   (["Guru", "Gurmukhi"], 
    "1u9.1 h.1 4b.2 1.5 4.1 2.l 1.6 1.1 1.1 1.1 2 1.4 4.1 2.2 3 7.3 1 7.g v5l.9"),
   (["Hang", "Hangul"], 
    "3cw.73 5xd.2 4.9 1.c e.2 6 5f 1h.2l 35.u 1t.u nhd.s hv.8mb c.m 4.1c 7k9.1 7u.4 1m.u 3.5
    2.5 2.5 2.2"),
   (["Hani", "Han"], 
    "53 91k.p 1.2g c.5x q.f 1.2 1.c 1.c 1.c 2 6.8 57 44.f w.11 9 1c.13 1k.1c f.b 1f 2g.o a.4
    2o.u 1.533 1s.g73 1ds.7 g6w.a5 2.2x ob.1 7u.4 m7w.1 c.6 jmx.h 63i.1 2pa.wyn w.3dp 2.4gd
    2.5rk f.h9 1wi.f1 15u.3t6 5.6jt"),
   (["Hano", "Hanunoo"], "4kg.m"),
   (["Hebr", "Hebrew"], "lj.1 i0.1i 8.q 4.5 1cfc.p 1.4 1 1.1 1.1 1.9"),
   (["Hira", "Hiragana"], 
    "9hd.2 4.9 1.c g.5 1 4.1 3.2d 2.7 2i.1 14js.1 7u.4 a 19.1 yu9.7y i t.2 crx"),
   (["Hung", "Old_Hungarian"], "6e2 2 2qb f 17we.1e d.1e 7.5"),
   (["Java", "Javanese"], "xhc.25 1.a 4.1"),
   (["Kali", "Kayah_Li"], "xds.1b"),
   (["Kana", "Katakana"], 
    "lh t 8v1.2 4.9 1.c g.5 1 4.1 2j.3 3.2n 6o.f 5s.1a 1.2f 1431.1 7u.1q yts.3 1.6 1.1 1 7z.2
    1e e.3"),
   (["Khoj", "Khojki"], "25i.9 v28.9 kw6.h 1.1a"),
   (["Knda", "Kannada"], 
    "1u9.1 h.1 m2.c 1.2 1.m 1.9 1.4 2.8 1.2 1.3 7.1 5.2 1.3 2.9 1.2 34s 1.1 6 n 1 ri3.5"),
   (["Kthi", "Kaithi"], "1uu.9 79d o3i.9 kli.1u a"),
   (["Latn", "Latin"], 
    "1t.p 6.p 1b c 2 5.m 1.u 1.cg 3 a 1.2 1 9 1 6.4 r.e 1.1 1 f.2 7.1 1.1 12 5 4.c 7p.1 y2.1
    1ig 2dg.11 6.1c 5.3 5.c 1.1x 1l 7.73 8f 1t d g.c 2b 1l.1 6 r h.14 253.v bb nvs.7 q.2t 3.29
    k.e 8e e9.16 1.8 1.3 fpy.6 t6.p 6.p 1lx.5 1.15 1.8 16it.u 6.5"),
   (["Limb", "Limbu"], "1ut 32y.u 1.b 4.b 4 3.b"),
   (["Lina", "Linear_A"], "1err.18 y4.8m 9.l a.7"),
   (["Linb", "Linear_B"], "1ekg.b 1.p 1.i 1.1 1.e 2.d y.3e 5.2 4.18 3.8"),
   (["Lisu", "Lisu"], "jg g 8xo.1 n2c.1b o8g"),
   (["Lyci", "Lycian"], "6e2 18o5.s"),
   (["Lydi", "Lydian"], "53 8zd 178u.p 5"),
   (["Mahj", "Mahajani"], "53 1po.b vcw.9 kra.12"),
   (["Mand", "Mandaic"], "18g e7.r 2"),
   (["Mani", "Manichaean"], "18g 1fgf.12 4.b"),
   (["Mero", "Meroitic_Hieroglyphs"], "6e5 1a1u.v"),
   (["Mlym", "Malayalam"], "1u9.1 h.1 pm.c 1.2 1.1e 1.2 1.5 4.f 2.p 316 n ri5.2"),
   (["Modi", "Modi"], "x80.9 lom.1w b.9"),
   (["Mong", "Mongolian"], "4qo.p 6.2g 7.16 1hg 34h.1 5.3 19hw.c"),
   (["Mult", "Multani"], "21y.9 1g5s.6 1 1.3 1.e 1.a"),
   (["Mymr", "Myanmar"], "35s.4f u4u 4x.u 2p.v le8.j"),
   (["Nand", "Nandinagari"], "1u9 i.1 ow.9 35l 8 7 rhx.5 mei.7 2.19 2.a"),
   (["Newa", "Newa"], "1u9.1 3uq 1.1 9 6 1 1 1csy.2j 1.4"),
   (["Nkoo", "Nko"], "170 e 3 bk.1m 2.2 1cfy.1"),
   (["Onao", "Ol_Onal"], "1us.1 2m3u.16 4"),
   (["Orkh", "Old_Turkic"], "6e2 2qd 17tb.20"),
   (["Orya", "Oriya"], 
    "1u9.1 h.1 bf.2 1.7 2.1 2.l 1.6 1.1 1.4 2.8 2.1 2.2 7.2 4.1 1.4 2.h 3fm n"),
   (["Osge", "Osage"], "ld 2 6 24 1etz.z 4.z"),
   (["Ougr", "Old_Uyghur"], "18g 1fht vx.p"),
   (["Perm", "Old_Permic"], "53 g8 5.2 a a7 1ebw.16"),
   (["Phag", "Phags_Pa"], "4qq.1 1 1m1 34i nr1.1j"),
   (["Phlp", "Psalter_Pahlavi"], "18g 1flr.h 7.3 c.6"),
   (["Rohg", "Hanifi_Rohingya"], "170 e 3 w 43 1fsb.13 8.9"),
   (["Runr", "Runic"], "4gw.2g"),
   (["Samr", "Samaritan"], "1kw.19 2.e 7hu"),
   (["Shaw", "Shavian"], "53 1fa0.1b"),
   (["Shrd", "Sharada"], "1u9 3ut 1 2.1 2 9 2 ria.5 2 ksn.2n 1vk.7"),
   (["Sind", "Khudawadi"], "1us.1 vd6.9 l12.1m 5.9"),
   (["Sinh", "Sinhala"], "1us.1 t7.2 1.h 3.n 1.8 1 2.6 3 4.5 1 1.7 6.9 2.2 2yl 1cdq.j"),
   (["Sogd", "Sogdian"], "18g 1gbz.15"),
   (["Sunu", "Sunuwar"], "lc.1 1 9 2 s 3 1jf2.x e.9"),
   (["Sylo", "Syloti_Nagri"], "1us.1 3k.9 v80.18"),
   (["Syrc", "Syriac"], "lf.1 2.1 1 o.2 7.1 1.1 ka e.1 2 w a.a q 3z.d 1.1n 2.2 7k.a 499 1"),
   (["Tagb", "Tagbanwa"], "4l1.1 15.c 1.2 1.1"),
   (["Takr", "Takri"], "1us.1 vd6.9 ls6.1l 6.9"),
   (["Tale", "Tai_Le"], "lc.1 5.1 3 2lv.9 1s6.t 2.4"),
   (["Taml", "Tamil"], 
    "1u9.1 h.1 f0.1 1.5 3.2 1.3 3.1 1 1.1 3.1 3.2 3.b 4.4 3.2 1.3 2 6 e.k 3bz ro8 ky5 1 1j.1
    2gz.1d d"),
   (["Tang", "Tangut"], "9gw.f dr 1qsw v.5bz e8.u 2p.36"),
   (["Telu", "Telugu"], 
    "1u9.1 h.1 ii.c 1.2 1.m 1.f 2.8 1.2 1.3 7.1 1.2 1.1 2.3 2.9 7.8 385.1 1 1 n"),
   (["Tfng", "Tifinagh"], "le 1 1.3 p 8b0.1j 7.1 e"),
   (["Tglg", "Tagalog"], "4jk.l 9 l.1"),
   (["Thaa", "Thaana"], "170 e.1 2 1s.9 7q.1d 1cn4 a"),
   (["Thai", "Thai"], "jg q 17 19 24v.1l 5.r"),
   (["Tibt", "Tibetan"], "2yo.1z 1.z 4.12 1.z 1.e 1.6 4.1 6ct.3"),
   (["Tirh", "Tirhuta"], "1u9.1 h.1 3u7 c f ri5.9 ldy.1z 8.9"),
   (["Todr", "Todhri"], "ld 2 2 9 1 22 1f1d.1f"),
   (["Toto", "Toto"], "jg 2ms3.u"),
   (["Tutg", "Tulu_Tigalari"], "2jq.9 35u 1 ri3.5 57 l1q.9 1 2 1.11 1.9 1 2 1.3 1.9 1.1 8.1"),
   (["Yezi", "Yezidi"], "170 e 3 1s.9 1g5y.15 1.2 2.1"),
   (["Yiii", "Yi"], "9hd.1 5.9 2.7 67 lxg.wc 3.1i hwa.4"),
   (["Zinh", "Inherited", "Qaai"], 
    "lr 2 1.e 3.6 2 2.f 1.1 1.h 1.4 1.3 168.1 3ff.19 2.b k6.1h 1 1.4 ek.1 5e.v 17o0.f g.d r3
    14hu.19 2.m f4.2 h.7 2.6 u.3 h45u.6n"),
   (["Zyyy", "Common"], 
    "0.1s q.5 q.1a 1.b 1.1 1.4 n v ch.2 1.9 1 3 1.8 1 1.5 5.4 2.j 3i 6 1 hp 5z ec 124 b9.3
    36v.b 2.w 1.u 1.9 1.1 1.6 1.a 3.a 1.e h.x 1q.11 1.2 2.5 1.q 1.g 15.2 4.ih m.a l.pr 74.hf
    2.3t e8.m 1.n 2.9 1.3 1 1.p bm 3 d d l ep.n v 1d.e c.3 4h.9 5.2n v 534.1r hl4.p 2u.2 r4
    e.1 gbo.9 m.k 2.b 1.i 1.3 43 1.v q.5 q.5 3j.6 1.6 a.4 b6.c 1f.18 13wj.70 3.c3 6.m f.g
    2n.37 1o.6t a.12 2.1p 3.g 8.1 7.t 4.1o 5x.j c.j c.2e r.6 3r.2c 1.1y 1.1 2 2.1 2.3 1.b 1
    1.6 1.1s 1.3 2.7 1.6 1.r 1.3 1.4 1 3.6 1.9f 2.83 2.1d 41d.1v 24.1o jm.17 4.2r c.e 2.e 1.e
    1.10 a.4t 1k.p 1.1 d.17 4.8 n.5 4a.rc 3.g 3.c 3.61 6.b 4 f.b 4.1j 8.9 6.13 8.t 2.b 4.1 e.8
    13.9j 8.d 2.c 3.a 3.1k 1 4.f 2.b 4.9 7.42 1.2u gvly u.2n")]

end BlockMarkup.Unicode.ScriptExtension
