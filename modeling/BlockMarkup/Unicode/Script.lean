import BlockMarkup.Unicode.CharSet

/-!
# Scripts

The characters of each script.
-/

namespace BlockMarkup.Unicode.Script

/-- The names of each script and its characters, in the compact form of `CharSet.decode`. -/
def table : List (List String × String) := [
   (["Adlm", "Adlam"], "2olc.23 4.9 4.1"),
   (["Aghb", "Caucasian_Albanian"], "1flc.1f b"),
   (["Ahom", "Ahom"], "1j40.q 2.e 4.m"),
   (["Arab", "Arabic"], 
    "16o.4 1.5 1.d 1.2 1.v 1.9 b.p 1.2z 1.x 28.1b 6o.x 5.22 1.s 1bv4.dp 2.3z w.f 34.4 1.3q
    31f.u 1v.5 8.8 x.5 181s.3 1.q 1.1 1 2 1.9 1.3 1 1 6 4 1 1 1.2 1.1 1 2 1 1 1 1 1.1 1 2.3
    1.6 1.3 1.3 1 1.9 1.g 5.2 1.4 1.g 1g.1"),
   (["Armi", "Imperial_Aramaic"], "1g74.l 1.8"),
   (["Armn", "Armenian"], "10x.11 2.1d 2.2 1chv.4"),
   (["Avst", "Avestan"], "1gqo.1h 3.6"),
   (["Bali", "Balinese"], "5c0.24 1.1d"),
   (["Bamu", "Bamum"], "www.2f 124o.fs"),
   (["Bass", "Bassa_Vah"], "1zo0.t 2.5"),
   (["Batk", "Batak"], "5hc.1f 8.3"),
   (["Beng", "Bengali"], "1vk.3 1.7 2.1 2.l 1.6 1 3.3 2.8 2.1 2.3 8 4.1 1.4 2.o"),
   (["Berf", "Beria_Erfe"], "20f4.o 2.o"),
   (["Bhks", "Bhaiksuki"], "1k3k.8 1.18 1.d a.s"),
   (["Bopo", "Bopomofo"], "kq.1 93t.16 34.v"),
   (["Brah", "Brahmi"], "1hq8.25 4.z 9"),
   (["Brai", "Braille"], "7wg.73"),
   (["Bugi", "Buginese"], "54w.r 2.1"),
   (["Buhd", "Buhid"], "4lc.j"),
   (["Cakm", "Chakma"], "1hxc.1g 1.h"),
   (["Cans", "Canadian_Aboriginal"], "3y8.hr fk.1x 1ewq.f"),
   (["Cari", "Carian"], "1f34.1c"),
   (["Cham", "Cham"], "xkw.1i 9.d 2.9 2.3"),
   (["Cher", "Cherokee"], "3vk.2d 2.5 twy.27"),
   (["Chrs", "Chorasmian"], "1ho0.r"),
   (["Copt", "Coptic", "Qaac"], "rm.d 80g.37 5.6"),
   (["Cpmn", "Cypro_Minoan"], "1nyo.2q"),
   (["Cprt", "Cypriot"], "1g5c.5 2 1.17 1.1 3 2"),
   (["Cyrl", "Cyrillic"], "sg.3o 2.4o 4ls.a 4g 24 38n.v nr4.2n ham.1 18n4.1p x"),
   (["Deva", "Devanagari"], "1s0.28 4.e 2.p vhc.v mio.9"),
   (["Diak", "Dives_Akuru"], "1ji8.6 2 2.7 1.1 1.t 1.1 2.b 9.9"),
   (["Dogr", "Dogra"], "1jb4.1n"),
   (["Dsrt", "Deseret"], "1fcw.27"),
   (["Dupl", "Duployan"], "2fpc.2y 5.c 3.8 7.9 2.3"),
   (["Egyp", "Egyptian_Hieroglyphs"], "1o1s.ut a.32y"),
   (["Elba", "Elbasan"], "1fk0.13"),
   (["Elym", "Elymaic"], "1hpc.m"),
   (["Ethi", "Ethiopic"], 
    "3k0.20 1.3 2.6 1 1.3 2.14 1.3 2.w 1.3 2.6 1 1.3 2.e 1.1k 1.3 2.1u 2.v 3.p 546.m 9.6 1.6
    1.6 1.6 1.6 1.6 1.6 1.6 opu.5 2.5 2.5 9.6 1.6 1qk1.6 1.3 1.1 1.e"),
   (["Gara", "Garay"], "1h6o.11 3.s 8.1"),
   (["Geor", "Georgian"], "3a8.11 1 5 2.16 1.3 2a8.16 2.2 37k.11 1 5"),
   (["Glag", "Glagolitic"], "8ow.2n 2e1s.6 1.g 2.6 1.1 1.4"),
   (["Gong", "Gunjala_Gondi"], "1kdc.5 1.1 1.10 1.1 1.5 7.9"),
   (["Gonm", "Masaram_Gondi"], "1kao.6 1.1 1.17 3 1.1 1.8 8.9"),
   (["Goth", "Gothic"], "1f74.q"),
   (["Gran", "Grantha"], "1ibk.3 1.7 2.1 2.l 1.6 1.1 1.4 2.8 2.1 2.2 2 6 5.6 2.6 3.4"),
   (["Grek", "Greek"], 
    "og.3 1.2 2.3 1 4 1 1.2 1 1.j 1.1q e.f 4yu.4 1e.4 4.4 2c 8w.l 2.5 2.11 2.5 2.7 1 1 1 1.u
    2.1g 1.e 1.d 2.5 1.i 2.2 1.8 87 rb2 gyi.26 h 155r.1x"),
   (["Gujr", "Gujarati"], "22p.2 1.8 1.2 1.l 1.6 1.1 1.4 2.9 1.2 1.2 2 f.3 2.b 7.6"),
   (["Gukh", "Gurung_Khema"], "1xq8.1l"),
   (["Guru", "Gurmukhi"], "1z5.2 1.5 4.1 2.l 1.6 1.1 1.1 1.1 2 1.4 4.1 2.2 3 7.3 1 7.g"),
   (["Hang", "Hangul"], 
    "3cw.73 5ym.1 75.2l 35.u 1t.u nhd.s hv.8mb c.m 4.1c 7tw.u 3.5 2.5 2.5 2.2"),
   (["Hani", "Han"], 
    "96o.p 1.2g c.5x 1b 1 p.8 e.3 qs.533 1s.g73 hkw.a5 2.2x n48.1 c.6 sg9.wyn w.3dp 2.4gd 2.5rk
    f.h9 1wi.f1 15u.3t6 5.6jt"),
   (["Hano", "Hanunoo"], "4kg.k"),
   (["Hatr", "Hatran"], "1gbk.i 1.1 5.4"),
   (["Hebr", "Hebrew"], "13l.1i 8.q 4.5 1cfc.p 1.4 1 1.1 1.1 1.9"),
   (["Hira", "Hiragana"], "9j5.2d 6.2 23q9.7y i t.2 crx"),
   (["Hluw", "Anatolian_Hieroglyphs"], "1s00.g6"),
   (["Hmng", "Pahawh_Hmong"], "1zpc.1x a.9 1.6 1.k 5.i"),
   (["Hmnp", "Nyiakeng_Puachue_Hmong"], "2n0g.18 3.d 2.9 4.1"),
   (["Hung", "Old_Hungarian"], "1h1c.1e d.1e 7.5"),
   (["Ital", "Old_Italic"], "1f5s.z 9.2"),
   (["Java", "Javanese"], "xhc.25 2.9 4.1"),
   (["Kali", "Kayah_Li"], "xds.19 1"),
   (["Kana", "Katakana"], "9lt.2h 2.2 6o.f 5s.1a 1.2f 14b2.9 1.18 ytu.3 1.6 1.1 1 7z.2 1e e.3"),
   (["Kawi", "Kawi"], "1kow.g 1.14 3.s"),
   (["Khar", "Kharoshthi"], "1gjk.3 1.1 5.7 1.2 1.s 2.2 4.9 7.8"),
   (["Khmr", "Khmer"], "4n4.2l 2.9 6.9 di.v"),
   (["Khoj", "Khojki"], "1i4g.h 1.1a"),
   (["Kits", "Khitan_Small_Script"], "20o4 5cr.d1 15"),
   (["Knda", "Kannada"], "2gw.c 1.2 1.m 1.9 1.4 2.8 1.2 1.3 7.1 5.2 1.3 2.9 1.2"),
   (["Krai", "Kirat_Rai"], "205c.1l"),
   (["Kthi", "Kaithi"], "1hts.1u a"),
   (["Lana", "Tai_Tham"], "55s.1q 1.s 2.a 6.9 6.d"),
   (["Laoo", "Lao"], "2v5.1 1 1.4 1.n 1 1.m 2.4 1 1.6 1.9 2.3"),
   (["Latn", "Latin"], 
    "1t.p 6.p 1b f 5.m 1.u 1.cg 13.4 55n.11 6.1c 5.3 5.c 1.1x 1t.73 a9 d g.c 3x.1 6 r h.14
    253.v o82.2t 3.29 k.e mo.16 1.8 1.3 fpy.6 t6.p 6.p 1lx.5 1.15 1.8 16it.u 6.5"),
   (["Lepc", "Lepcha"], "5j4.1j 3.e 3.2"),
   (["Limb", "Limbu"], "4xs.u 1.b 4.b 4 3.b"),
   (["Lina", "Linear_A"], "1fr4.8m 9.l a.7"),
   (["Linb", "Linear_B"], "1ekg.b 1.p 1.i 1.1 1.e 2.d y.3e"),
   (["Lisu", "Lisu"], "wk0.1b o8g"),
   (["Lyci", "Lycian"], "1f28.s"),
   (["Lydi", "Lydian"], "1gdc.p 5"),
   (["Mahj", "Mahajani"], "1hzk.12"),
   (["Maka", "Makasar"], "1ko0.o"),
   (["Mand", "Mandaic"], "1mo.r 2"),
   (["Mani", "Manichaean"], "1gow.12 4.b"),
   (["Marc", "Marchen"], "1k6o.v 2.l 1.d"),
   (["Medf", "Medefaidrin"], "20cg.2i"),
   (["Mend", "Mende_Kikakui"], "2oe8.5g 2.f"),
   (["Merc", "Meroitic_Cursive"], "1ggw.n 4.j 2.19"),
   (["Mero", "Meroitic_Hieroglyphs"], "1gg0.v"),
   (["Mlym", "Malayalam"], "2kg.c 1.2 1.1e 1.2 1.5 4.f 2.p"),
   (["Modi", "Modi"], "1iww.1w b.9"),
   (["Mong", "Mongolian"], "4qo.1 2 1.j 6.2g 7.16 1e45.c"),
   (["Mroo", "Mro"], "1zk0.u 1.9 4.1"),
   (["Mtei", "Meetei_Mayek"], "xr4.m 5l.19 2.9"),
   (["Mult", "Multani"], "1i80.6 1 1.3 1.e 1.a"),
   (["Mymr", "Myanmar"], "35s.4f u9s.u 2p.v le8.j"),
   (["Nagm", "Nag_Mundari"], "2nrk.15"),
   (["Nand", "Nandinagari"], "1jmo.7 2.19 2.a"),
   (["Narb", "Old_North_Arabian"], "1gn4.v"),
   (["Nbat", "Nabataean"], "1g8w.u 8.8"),
   (["Newa", "Newa"], "1iio.2j 1.4"),
   (["Nkoo", "Nko"], "1j4.1m 2.2"),
   (["Nshu", "Nushu"], "20o1 cy6.az"),
   (["Ogam", "Ogham"], "4g0.s"),
   (["Olck", "Ol_Chiki"], "5lc.1b"),
   (["Onao", "Ol_Onal"], "2nyo.16 4"),
   (["Orkh", "Old_Turkic"], "1gxs.20"),
   (["Orya", "Oriya"], "269.2 1.7 2.1 2.l 1.6 1.1 1.4 2.8 2.1 2.2 7.2 4.1 1.4 2.h"),
   (["Osge", "Osage"], "1fhs.z 4.z"),
   (["Osma", "Osmanya"], "1fgg.t 2.9"),
   (["Ougr", "Old_Uyghur"], "1hm8.p"),
   (["Palm", "Palmyrene"], "1g80.v"),
   (["Pauc", "Pau_Cin_Hau"], "1juo.1k"),
   (["Perm", "Old_Permic"], "1f80.16"),
   (["Phag", "Phags_Pa"], "x8g.1j"),
   (["Phli", "Inscriptional_Pahlavi"], "1gtc.i 5.7"),
   (["Phlp", "Psalter_Pahlavi"], "1gu8.h 7.3 c.6"),
   (["Phnx", "Phoenician"], "1gcg.r 3"),
   (["Plrd", "Miao"], "20hs.22 4.1k 7.g"),
   (["Prti", "Inscriptional_Parthian"], "1gsg.l 2.7"),
   (["Rjng", "Rejang"], "xf4.z b"),
   (["Rohg", "Hanifi_Rohingya"], "1h4w.13 8.9"),
   (["Runr", "Runic"], "4gw.22 3.a"),
   (["Samr", "Samaritan"], "1kw.19 2.e"),
   (["Sarb", "Old_South_Arabian"], "1gm8.v"),
   (["Saur", "Saurashtra"], "xa8.1x 8.b"),
   (["Sgnw", "SignWriting"], "2l8g.i3 f.4 1.e"),
   (["Shaw", "Shavian"], "1ff4.1b"),
   (["Shrd", "Sharada"], "1i0w.2n 1vk.7"),
   (["Sidd", "Siddham"], "1itc.1h 2.11"),
   (["Sidt", "Sidetic"], "1ge8.p"),
   (["Sind", "Khudawadi"], "1i9c.1m 5.9"),
   (["Sinh", "Sinhala"], "2o1.2 1.h 3.n 1.8 1 2.6 3 4.5 1 1.7 6.9 2.2 1fcc.j"),
   (["Sogd", "Sogdian"], "1hkg.15"),
   (["Sogo", "Old_Sogdian"], "1hj4.13"),
   (["Sora", "Sora_Sompeng"], "1hw0.o 7.9"),
   (["Soyo", "Soyombo"], "1jrk.2a"),
   (["Sund", "Sundanese"], "5fk.1r 74.7"),
   (["Sunu", "Sunuwar"], "1k1s.x e.9"),
   (["Sylo", "Syloti_Nagri"], "x6o.18"),
   (["Syrc", "Syriac"], "1ds.d 1.1n 2.2 7k.a"),
   (["Tagb", "Tagbanwa"], "4m8.c 1.2 1.1"),
   (["Takr", "Takri"], "1j0g.1l 6.9"),
   (["Tale", "Tai_Le"], "500.t 2.4"),
   (["Talu", "New_Tai_Lue"], "51c.17 4.p 6.a 3.1"),
   (["Taml", "Tamil"], "29u.1 1.5 3.2 1.3 3.1 1 1.1 3.1 3.2 3.b 4.4 3.2 1.3 2 6 e.k 1ih1.1d d"),
   (["Tang", "Tangut"], "20o0 v.5bz e8.u 2p.36"),
   (["Tavt", "Tai_Viet"], "xog.1u o.4"),
   (["Tayo", "Tai_Yo"], "2o5c.u 1.l 8.1"),
   (["Telu", "Telugu"], "2dc.c 1.2 1.m 1.f 2.8 1.2 1.3 7.1 1.2 1.1 2.3 2.9 7.8"),
   (["Tfng", "Tifinagh"], "8xc.1j 7.1 e"),
   (["Tglg", "Tagalog"], "4jk.l 9"),
   (["Thaa", "Thaana"], "1hc.1d"),
   (["Thai", "Thai"], "2rl.1l 5.r"),
   (["Tibt", "Tibetan"], "2yo.1z 1.z 4.12 1.z 1.e 1.6 4.1"),
   (["Tirh", "Tirhuta"], "1im8.1z 8.9"),
   (["Tnsa", "Tangsa"], "1zlc.26 1.9"),
   (["Todr", "Todhri"], "1fpc.1f"),
   (["Tols", "Tolong_Siki"], "1kfk.17 4.9"),
   (["Toto", "Toto"], "2nbk.u"),
   (["Tutg", "Tulu_Tigalari"], "1if4.9 1 2 1.11 1.9 1 2 1.3 1.9 1.1 8.1"),
   (["Ugar", "Ugaritic"], "1f9c.t 1"),
   (["Vaii", "Vai"], "wlc.8b"),
   (["Vith", "Vithkuqi"], "1fn4.a 1.e 1.6 1.1 1.a 1.e 1.6 1.1"),
   (["Wara", "Warang_Citi"], "1jfk.2a c"),
   (["Wcho", "Wancho"], "2ncw.1l 5"),
   (["Xpeo", "Old_Persian"], "1fa8.z 4.d"),
   (["Xsux", "Cuneiform"], "1kw0.pl 2u.32 1.4 b.5f"),
   (["Yezi", "Yezidi"], "1hfk.15 1.2 2.1"),
   (["Yiii", "Yi"], "vls.wc 3.1i"),
   (["Zanb", "Zanabazar_Square"], "1jpc.1z"),
   (["Zinh", "Inherited", "Qaai"], 
    "lc.33 7p.1 ck.a q kg.3 3ff.19 2.b dg.2 1.c 1.6 4 6 3.1 5i.1r ek.1 5e.w 309.3 2z.1 14kl.f
    g.d r3 6a 38a 1138.19 2.m f4.2 h.7 2.6 u.3 h45u.6n"),
   (["Zyyy", "Common"], 
    "0.1s q.5 q.1a 1.e 1.4 n v ch.12 5.4 2.j 38 9 6 1 hp 6 e 3 w 4c ec 3l.1 yh b9.3 82 167.2
    1z.1 5n.1 1 y5 d 7.3 1.5 1.2 2 lh.b 2.2e 1.a 3.a 1.e h.x 1q.11 1.2 2.5 1.q 1.g 15.2 4.ih
    m.a l.pr 74.hf 2.3t e8.2l b6.k 1 1.o f.7 4.3 2j.1 3 2i.1 43.f w.11 9 1c.1r v.28 1b 2g.4n
    534.1r hkw.x 2u.2 4l.9 6s 4g az e.1 g5u.1 5s.9 m.y 1.i 1.3 43 1.v q.5 q.a a 19.1 1s.6 1.6
    a.4 76.2 4.18 3.8 28.c 1f.18 6c.q 10o4.3 318.70 3.c3 6.m f.g 2n.37 1o.6t a.12 2.1p 3.g 8.1
    7.t 4.1o 5x.j c.j c.2e 9.o 3r.2c 1.1y 1.1 2 2.1 2.3 1.b 1 1.6 1.1s 1.3 2.7 1.6 1.r 1.3 1.4
    1 3.6 1.9f 2.83 2.1d 41d.1v 24.1o jm.17 4.2r c.e 2.e 1.e 1.10 a.4t 1k.p 1.1 d.17 4.8 7.1
    e.5 4a.rc 3.g 3.c 3.61 6.b 4 f.b 4.1j 8.9 6.13 8.t 2.b 4.1 e.8 13.9j 8.d 2.c 3.a 3.1k 1
    4.f 2.b 4.9 7.42 1.2u gvly u.2n")]

end BlockMarkup.Unicode.Script
