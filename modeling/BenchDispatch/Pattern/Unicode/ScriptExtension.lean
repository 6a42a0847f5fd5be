import BenchDispatch.Pattern.CharSet

/-!
# Script extensions

For each Unicode 15.0 script, the code points whose script extensions include it
(a superset of the script itself: shared marks and punctuation are listed with
every script that uses them).
-/

set_option autoImplicit false

namespace BenchDispatch.Unicode

/-- Each script: its name, its normalised aliases and the range table of its extension. -/
def scriptExtensionTable : List (String × List String × String) := [
  ("Adlm", ["adlm", "adlam"],
    "17j w 2ncv.23 4.9 4.1"),
  ("Aghb", ["aghb", "caucasianalbanian"],
    "1flc.1f b"),
  ("Ahom", ["ahom"],
    "1j40.q 2.e 4.m"),
  ("Arab", ["arab", "arabic"],
    "16o.4 1.5y 1.x 28.1b 6o.u 1.1 6.21 1.s 1bv4.36 g.cc 2.1h 7 w.f 34.4 1.3q rn.r 290.u 3i.2" ++
    " 181s.3 1.q 1.1 1 2 1.9 1.3 1 1 6 4 1 1 1.2 1.1 1 2 1 1 1 1 1.1 1 2.3 1.6 1.3 1.3 1 1.9" ++
    " 1.g 5.2 1.4 1.g 1g.1"),
  ("Armi", ["armi", "imperialaramaic"],
    "1g74.l 1.8"),
  ("Armn", ["armn", "armenian"],
    "10x.11 2.1d 2.2 1chv.4"),
  ("Avst", ["avst", "avestan"],
    "1gqo.1h 3.6"),
  ("Bali", ["bali", "balinese"],
    "5c0.24 3.1a"),
  ("Bamu", ["bamu", "bamum"],
    "www.2f 124o.fs"),
  ("Bass", ["bass", "bassavah"],
    "1zo0.t 2.5"),
  ("Batk", ["batk", "batak"],
    "5hc.1f 8.3"),
  ("Beng", ["beng", "bengali"],
    "1u9.1 h.1 q.3 1.7 2.1 2.l 1.6 1 3.3 2.8 2.1 2.3 8 4.1 1.4 2.o 3pt 1 2.1 1 8 8 2 4 2.2 rnd"),
  ("Bhks", ["bhks", "bhaiksuki"],
    "1k3k.8 1.18 1.d a.s"),
  ("Bopo", ["bopo", "bopomofo"],
    "kq.1 8wl.2 4.9 1.c a.3 2 6 5f 9.16 34.v 14ed.1 7u.4"),
  ("Brah", ["brah", "brahmi"],
    "1hq8.25 4.z 9"),
  ("Brai", ["brai", "braille"],
    "7wg.73"),
  ("Bugi", ["bugi", "buginese"],
    "54w.r 2.1 sdr"),
  ("Buhd", ["buhd", "buhid"],
    "4l1.1 9.j"),
  ("Cakm", ["cakm", "chakma"],
    "1ye.9 18w.9 1epi.1g 1.h"),
  ("Cans", ["cans", "canadianaboriginal"],
    "3y8.hr fk.1x 1ewq.f"),
  ("Cari", ["cari", "carian"],
    "1f34.1c"),
  ("Cham", ["cham"],
    "xkw.1i 9.d 2.9 2.3"),
  ("Cher", ["cher", "cherokee"],
    "3vk.2d 2.5 twy.27"),
  ("Chrs", ["chrs", "chorasmian"],
    "1ho0.r"),
  ("Copt", ["copt", "coptic", "qaac"],
    "rm.d 80g.37 5.6 168w.r"),
  ("Cpmn", ["cpmn", "cyprominoan"],
    "1erk.1 972.2q"),
  ("Cprt", ["cprt", "cypriot"],
    "1erk.2 4.18 3.8 1c0.5 2 1.17 1.1 3 2"),
  ("Cyrl", ["cyrl", "cyrillic"],
    "sg.8f 4ls.8 4i 24 3j 353.v 1v np8.2n ham.1 18n4.1p x"),
  ("Deva", ["deva", "devanagari"],
    "1s0.2a 2.16 3tc.12 1.1 s6 qpr.9 4m.v mio.9"),
  ("Diak", ["diak", "divesakuru"],
    "1ji8.6 2 2.7 1.1 1.t 1.1 2.b 9.9"),
  ("Dogr", ["dogr", "dogra"],
    "1us.b vcw.9 m2u.1n"),
  ("Dsrt", ["dsrt", "deseret"],
    "1fcw.27"),
  ("Dupl", ["dupl", "duployan"],
    "2fpc.2y 5.c 3.8 7.9 2.7"),
  ("Egyp", ["egyp", "egyptianhieroglyphs"],
    "1o1s.ut"),
  ("Elba", ["elba", "elbasan"],
    "1fk0.13"),
  ("Elym", ["elym", "elymaic"],
    "1hpc.m"),
  ("Ethi", ["ethi", "ethiopic"],
    "3k0.20 1.3 2.6 1 1.3 2.14 1.3 2.w 1.3 2.6 1 1.3 2.e 1.1k 1.3 2.1u 2.v 3.p 546.m 9.6 1.6" ++
    " 1.6 1.6 1.6 1.6 1.6 1.6 opu.5 2.5 2.5 9.6 1.6 1qk1.6 1.3 1.1 1.e"),
  ("Geor", ["geor", "georgian"],
    "3a8.11 1 5 2.1b 2a8.16 2.2 37k.11 1 5"),
  ("Glag", ["glag", "glagolitic"],
    "w4 2 7so.2n df nqj 1pxs.6 1.g 2.6 1.1 1.4"),
  ("Gong", ["gong", "gunjalagondi"],
    "1us.1 1iii.5 1.1 1.10 1.1 1.5 7.9"),
  ("Gonm", ["gonm", "masaramgondi"],
    "1us.1 1ifu.6 1.1 1.17 3 1.1 1.8 8.9"),
  ("Goth", ["goth", "gothic"],
    "1f74.q"),
  ("Gran", ["gran", "grantha"],
    "1u9.1 h.1 hs.d 3bw 1.1 u.2 3.1 s6 1btb.3 1.7 2.1 2.l 1.6 1.1 1.4 1.9 2.1 2.2 2 6 5.6 2.6" ++
    " 3.4 2fv.1 1"),
  ("Grek", ["grek", "greek"],
    "n6 2 16.3 1.2 2.3 1 4 1 1.2 1 1.j 1.1q e.f 4yu.4 1e.4 4.4 2c.2 8u.l 2.5 2.11 2.5 2.7 1 1 1" ++
    " 1.u 2.1g 1.e 1.d 2.5 1.i 2.2 1.8 87 rb2 gyi.26 h 155r.1x"),
  ("Gujr", ["gujr", "gujarati"],
    "1u9.1 h.1 7v.2 1.8 1.2 1.l 1.6 1.1 1.4 2.9 1.2 1.2 2 f.3 2.b 7.6 v1s.9"),
  ("Guru", ["guru", "gurmukhi"],
    "1u9.1 h.1 4b.2 1.5 4.1 2.l 1.6 1.1 1.1 1.1 2 1.4 4.1 2.2 3 7.3 1 7.g v5l.9"),
  ("Hang", ["hang", "hangul"],
    "3cw.73 5xd.2 4.9 1.c e.2 6 5f 1h.2l 35.u 1t.u nhd.s hv.8mb c.m 4.1c 7k9.1 7u.4 1m.u 3.5" ++
    " 2.5 2.5 2.2"),
  ("Hani", ["hani", "han"],
    "96o.p 1.2g c.5x 17.2 1.c 1.c 1.c 2 6.8 57 44.f w.z 1o.13 1k.1c f.b 1f 2g.o a.4 2o.u 1.533" ++
    " 1s.g73 1ds.7 g6w.a5 2.2x ob.1 7u.4 m7w.1 c.1 jn2.h 63i.1 2pa.wyn w.37d 6.65 2.4g1 e.5rk" ++
    " 2e7.f1 15u.3t6 5.38f"),
  ("Hano", ["hano", "hanunoo"],
    "4kg.m"),
  ("Hatr", ["hatr", "hatran"],
    "1gbk.i 1.1 5.4"),
  ("Hebr", ["hebr", "hebrew"],
    "13l.1i 8.q 4.5 1cfc.p 1.4 1 1.1 1.1 1.9"),
  ("Hira", ["hira", "hiragana"],
    "9hd.2 4.9 1.c g.5 1 4.1 3.2d 2.7 2i.1 14js.1 7u.4 a 19.1 yu9.7y i t.2 crx"),
  ("Hluw", ["hluw", "anatolianhieroglyphs"],
    "1s00.g6"),
  ("Hmng", ["hmng", "pahawhhmong"],
    "1zpc.1x a.9 1.6 1.k 5.i"),
  ("Hmnp", ["hmnp", "nyiakengpuachuehmong"],
    "2n0g.18 3.d 2.9 4.1"),
  ("Hung", ["hung", "oldhungarian"],
    "1h1c.1e d.1e 7.5"),
  ("Ital", ["ital", "olditalic"],
    "1f5s.z 9.2"),
  ("Java", ["java", "javanese"],
    "xhc.25 1.a 4.1"),
  ("Kali", ["kali", "kayahli"],
    "xds.1b"),
  ("Kana", ["kana", "katakana"],
    "9hd.2 4.9 1.c g.5 1 4.1 2j.3 3.2n 6o.f 5s.1a 1.2f 1431.1 7u.1q yts.3 1.6 1.1 1 7z.2 1e e.3"),
  ("Kawi", ["kawi"],
    "1kow.g 1.14 3.r"),
  ("Khar", ["khar", "kharoshthi"],
    "1gjk.3 1.1 5.7 1.2 1.s 2.2 4.9 7.8"),
  ("Khmr", ["khmr", "khmer"],
    "4n4.2l 2.9 6.9 di.v"),
  ("Khoj", ["khoj", "khojki"],
    "25i.9 v28.9 kw6.h 1.1a"),
  ("Kits", ["kits", "khitansmallscript"],
    "20o4 5cr.d1"),
  ("Knda", ["knda", "kannada"],
    "1u9.1 h.1 m2.c 1.2 1.m 1.9 1.4 2.8 1.2 1.3 7.1 6.1 1.3 2.9 1.2 34s 1 7 n 1 ri3.5"),
  ("Kthi", ["kthi", "kaithi"],
    "1uu.9 vcw.9 kli.1u a"),
  ("Lana", ["lana", "taitham"],
    "55s.1q 1.s 2.a 6.9 6.d"),
  ("Laoo", ["laoo", "lao"],
    "2v5.1 1 1.4 1.n 1 1.m 2.4 1 1.6 1.9 2.3"),
  ("Latn", ["latn", "latin"],
    "1t.p 6.p 1b f 5.m 1.u 1.cg 13.4 3i.c 7p.1 y2.1 1ig 2dg.11 6.1c 5.3 5.c 1.1x 1t.73 8f 1t d" ++
    " g.c 2b 1l.1 6 r h.14 253.v o74.7 q.2t 3.1r 5.1 1 1.4 o.d 8e e9.16 1.8 1.3 fpy.6 t6.p 6.p" ++
    " 1lx.5 1.15 1.8 16it.u 6.5"),
  ("Lepc", ["lepc", "lepcha"],
    "5j4.1j 3.e 3.2"),
  ("Limb", ["limb", "limbu"],
    "1ut 32y.u 1.b 4.b 4 3.b"),
  ("Lina", ["lina", "lineara"],
    "1err.18 y4.8m 9.l a.7"),
  ("Linb", ["linb", "linearb"],
    "1ekg.b 1.p 1.i 1.1 1.e 2.d y.3e 5.2 4.18 3.8"),
  ("Lisu", ["lisu"],
    "wk0.1b o8g"),
  ("Lyci", ["lyci", "lycian"],
    "1f28.s"),
  ("Lydi", ["lydi", "lydian"],
    "1gdc.p 5"),
  ("Mahj", ["mahj", "mahajani"],
    "1us.b vcw.9 kra.12"),
  ("Maka", ["maka", "makasar"],
    "1ko0.o"),
  ("Mand", ["mand", "mandaic"],
    "18g e7.r 2"),
  ("Mani", ["mani", "manichaean"],
    "18g 1fgf.12 4.b"),
  ("Marc", ["marc", "marchen"],
    "1k6o.v 2.l 1.d"),
  ("Medf", ["medf", "medefaidrin"],
    "20cg.2i"),
  ("Mend", ["mend", "mendekikakui"],
    "2oe8.5g 2.f"),
  ("Merc", ["merc", "meroiticcursive"],
    "1ggw.n 4.j 2.19"),
  ("Mero", ["mero", "meroitichieroglyphs"],
    "1gg0.v"),
  ("Mlym", ["mlym", "malayalam"],
    "1u9.1 h.1 pm.c 1.2 1.1e 1.2 1.5 4.f 2.p 316 rit.2"),
  ("Modi", ["modi"],
    "x80.9 lom.1w b.9"),
  ("Mong", ["mong", "mongolian"],
    "4qo.p 6.2g 7.16 1hg 1cmo.c"),
  ("Mroo", ["mroo", "mro"],
    "1zk0.u 1.9 4.1"),
  ("Mtei", ["mtei", "meeteimayek"],
    "xr4.m 5l.19 2.9"),
  ("Mult", ["mult", "multani"],
    "21y.9 1g5s.6 1 1.3 1.e 1.a"),
  ("Mymr", ["mymr", "myanmar"],
    "35s.4f u4u 4x.u 2p.v"),
  ("Nagm", ["nagm", "nagmundari"],
    "2nrk.15"),
  ("Nand", ["nand", "nandinagari"],
    "1us.1 ow.9 35l 8 7 rhx.5 mei.7 2.19 2.a"),
  ("Narb", ["narb", "oldnortharabian"],
    "1gn4.v"),
  ("Nbat", ["nbat", "nabataean"],
    "1g8w.u 8.8"),
  ("Newa", ["newa"],
    "1iio.2j 1.4"),
  ("Nkoo", ["nkoo", "nko"],
    "170 e 3 bk.1m 2.2 1cfy.1"),
  ("Nshu", ["nshu", "nushu"],
    "20o1 cy6.az"),
  ("Ogam", ["ogam", "ogham"],
    "4g0.s"),
  ("Olck", ["olck", "olchiki"],
    "5lc.1b"),
  ("Orkh", ["orkh", "oldturkic"],
    "1gxs.20"),
  ("Orya", ["orya", "oriya"],
    "1u9.1 h.1 bf.2 1.7 2.1 2.l 1.6 1.1 1.4 2.8 2.1 2.2 7.2 4.1 1.4 2.h 3fm n"),
  ("Osge", ["osge", "osage"],
    "1fhs.z 4.z"),
  ("Osma", ["osma", "osmanya"],
    "1fgg.t 2.9"),
  ("Ougr", ["ougr", "olduyghur"],
    "18g 1fht vx.p"),
  ("Palm", ["palm", "palmyrene"],
    "1g80.v"),
  ("Pauc", ["pauc", "paucinhau"],
    "1juo.1k"),
  ("Perm", ["perm", "oldpermic"],
    "w3 1ebw.16"),
  ("Phag", ["phag", "phagspa"],
    "4qq.1 1 shm.1j"),
  ("Phli", ["phli", "inscriptionalpahlavi"],
    "1gtc.i 5.7"),
  ("Phlp", ["phlp", "psalterpahlavi"],
    "18g 1flr.h 7.3 c.6"),
  ("Phnx", ["phnx", "phoenician"],
    "1gcg.r 3"),
  ("Plrd", ["plrd", "miao"],
    "20hs.22 4.1k 7.g"),
  ("Prti", ["prti", "inscriptionalparthian"],
    "1gsg.l 2.7"),
  ("Rjng", ["rjng", "rejang"],
    "xf4.z b"),
  ("Rohg", ["rohg", "hanifirohingya"],
    "170 e 3 w 43 1fsb.13 8.9"),
  ("Runr", ["runr", "runic"],
    "4gw.22 3.a"),
  ("Samr", ["samr", "samaritan"],
    "1kw.19 2.e"),
  ("Sarb", ["sarb", "oldsoutharabian"],
    "1gm8.v"),
  ("Saur", ["saur", "saurashtra"],
    "xa8.1x 8.b"),
  ("Sgnw", ["sgnw", "signwriting"],
    "2l8g.i3 f.4 1.e"),
  ("Shaw", ["shaw", "shavian"],
    "1ff4.1b"),
  ("Shrd", ["shrd", "sharada"],
    "1u9 3ut 1 2.1 2 1cbj.2n"),
  ("Sidd", ["sidd", "siddham"],
    "1itc.1h 2.11"),
  ("Sind", ["sind", "khudawadi"],
    "1us.1 vd6.9 l12.1m 5.9"),
  ("Sinh", ["sinh", "sinhala"],
    "1us.1 t7.2 1.h 3.n 1.8 1 2.6 3 4.5 1 1.7 6.9 2.2 1fcc.j"),
  ("Sogd", ["sogd", "sogdian"],
    "18g 1gbz.15"),
  ("Sogo", ["sogo", "oldsogdian"],
    "1hj4.13"),
  ("Sora", ["sora", "sorasompeng"],
    "1hw0.o 7.9"),
  ("Soyo", ["soyo", "soyombo"],
    "1jrk.2a"),
  ("Sund", ["sund", "sundanese"],
    "5fk.1r 74.7"),
  ("Sylo", ["sylo", "sylotinagri"],
    "1us.1 3k.9 v80.18"),
  ("Syrc", ["syrc", "syriac"],
    "170 e.1 2 w a.a q 3z.d 1.1n 2.2 7k.a 499 1"),
  ("Tagb", ["tagb", "tagbanwa"],
    "4l1.1 15.c 1.2 1.1"),
  ("Takr", ["takr", "takri"],
    "1us.1 vd6.9 ls6.1l 6.9"),
  ("Tale", ["tale", "taile"],
    "37k.9 1s6.t 2.4"),
  ("Talu", ["talu", "newtailue"],
    "51c.17 4.p 6.a 3.1"),
  ("Taml", ["taml", "tamil"],
    "1u9.1 h.1 f0.1 1.5 3.2 1.3 3.1 1 1.1 3.1 3.2 3.b 4.4 3.2 1.3 2 6 e.k 3bz ro8 ky5 1 1j.1" ++
    " 2gz.1d d"),
  ("Tang", ["tang", "tangut"],
    "20o0 v.4qf 8.lb e8.8"),
  ("Tavt", ["tavt", "taiviet"],
    "xog.1u o.4"),
  ("Telu", ["telu", "telugu"],
    "1u9.1 h.1 ii.c 1.2 1.m 1.f 2.8 1.2 1.3 7.1 1.2 2 2.3 2.9 7.8 38a n"),
  ("Tfng", ["tfng", "tifinagh"],
    "8xc.1j 7.1 e"),
  ("Tglg", ["tglg", "tagalog"],
    "4jk.l 9 l.1"),
  ("Thaa", ["thaa", "thaana"],
    "170 e.1 2 1s.9 7q.1d 1cn4 a"),
  ("Thai", ["thai"],
    "2rl.1l 5.r"),
  ("Tibt", ["tibt", "tibetan"],
    "2yo.1z 1.z 4.12 1.z 1.e 1.6 4.1"),
  ("Tirh", ["tirh", "tirhuta"],
    "1u9.1 h.1 3v0 ri5.9 ldy.1z 8.9"),
  ("Tnsa", ["tnsa", "tangsa"],
    "1zlc.26 1.9"),
  ("Toto", ["toto"],
    "2nbk.u"),
  ("Ugar", ["ugar", "ugaritic"],
    "1f9c.t 1"),
  ("Vaii", ["vaii", "vai"],
    "wlc.8b"),
  ("Vith", ["vith", "vithkuqi"],
    "1fn4.a 1.e 1.6 1.1 1.a 1.e 1.6 1.1"),
  ("Wara", ["wara", "warangciti"],
    "1jfk.2a c"),
  ("Wcho", ["wcho", "wancho"],
    "2ncw.1l 5"),
  ("Xpeo", ["xpeo", "oldpersian"],
    "1fa8.z 4.d"),
  ("Xsux", ["xsux", "cuneiform"],
    "1kw0.pl 2u.32 1.4 b.5f"),
  ("Yezi", ["yezi", "yezidi"],
    "170 e 3 1s.9 1g5y.15 1.2 2.1"),
  ("Yiii", ["yiii", "yi"],
    "9hd.1 5.9 2.7 67 lxg.wc 3.1i hwa.4"),
  ("Zanb", ["zanb", "zanabazarsquare"],
    "1jpc.1z"),
  ("Zinh", ["zinh", "inherited", "qaai"],
    "lc.1t 1.1 1.s 168.1 3ff.u kz.1h 1 1.4 ek.1 5e.v 17o0.f g.d r3 14hu.19 2.m f4.2 h.7 2.6 u.3" ++
    " h45u.6n"),
  ("Zyyy", ["zyyy", "common"],
    "0.1s q.5 q.1a 1.e 1.4 n v ch.12 5.4 2.j 38 9 6 1 hp 5z ec 124 b9.3 1ea.2 1si.b 2.w 1.1g" ++
    " 1.a 3.a 1.e h.w 1r.11 1.2 2.5 1.q 1.g 15.2 4.ie p.a l.pr 74.hf 2.v 1.2w e8.1u 1.p b6.b 4" ++
    " 3 d d l ep.n v 1d.e c.3 4h.9 5.2n v 534.1r hl4.p 2u.2 r4 e.1 gbo.9 m.k 2.b 1.i 1.3 43 1.v" ++
    " q.5 q.5 3j.6 1.6 a.4 b6.c 1f.18 14k3.37 1o.6t a.12 2.1p 3.g 8.1 7.t 4.1o 5x.j c.j c.2e" ++
    " r.6 3r.2c 1.1y 1.1 2 2.1 2.3 1.b 1 1.6 1.1s 1.3 2.7 1.6 1.r 1.3 1.4 1 3.6 1.9f 2.83 2.1d" ++
    " 41d.1v 24.1o jm.17 4.2r c.e 2.e 1.e 1.10 a.4t 1k.p 1.1 d.17 4.8 n.5 4a.rb 4.g 3.c 3.3a" ++
    " 4.2m 6.b 4 f.b 4.1j 8.9 6.13 8.t 2.1 26.9f c.d 2.c 3.8 7.19 1.6 8.d 4.8 7.8 7.42 1.1i" ++
    " 11.9 gvlz u.2n"),
  ("Zzzz", ["zzzz", "unknown"],
    "oo.1 6.3 7 1 k b1 12.1 1e.1 3 1j.7 r.3 6.a 7i 1o.1 2t.d 1n.1 1d.1 f s.1 1 b.4 v 2.5 6k 8.1" ++
    " 2.1 m 7 1.2 4.1 9.1 2.1 4.7 1.3 2 5.1 p.1 3 6.3 2.1 m 7 2 2 2.1 1 5.3 2.1 3.2 1.6 4 1.6" ++
    " h.9 3 9 3 m 7 2 5.1 a 3 3.1 1.e 4.1 c.6 7 3 8.1 2.1 m 7 2 5.1 9.1 2.1 3.6 3.3 2 5.1 i.9 2" ++
    " 6.2 3 4.2 2 1 2.2 2.2 3.2 c.3 5.2 3 4.1 1.5 1.d l.4 d 3 n g.1 9 3 4.6 2 3.1 1.1 4.1 a.6 m" ++
    " 3 n a 5.1 9 3 4.6 2.5 2 4.1 a 3.b d 3 1f 3 6.3 g.1 q 3 i.2 o 9 1.1 7.2 1.3 6 1 8.5 a.1" ++
    " 3.b 1m.3 t.10 2 1 5 o 1 n.1 5 1 7 a.1 4.v 20 10.3 13 10 f d.10 5i 1.4 1.1 ah 4.1 7 1 4.1" ++
    " 15 4.1 x 4.1 7 1 4.1 f 1l 4.1 1v.1 w.2 q.5 2e.1 6.1 il.2 2h.6 m.8 o.8 k.b d 3 2.b 2m.1" ++
    " a.5 a.5 q.5 2h.6 17.4 1y.9 v c.3 c.3 1.2 16.1 5.a 18.3 q.5 b.2 1q.1 1t t.1 b.5 a.5 e.1" ++
    " v.1c 25.2 1b 38.7 1o.2 f.2 1o.6 17.1 b.7 17.4 eu.1 6.1 12.1 6.1 8 1 1 1 v.1 1h f e.1 6" ++
    " j.1 3 9 2t c.1 r d.2 x.e x.e 3w.3 if.o b.k 1ec.1 w 9p.4 19 1.4 1.1 1k.6 2.d o.8 7 7 7 7 7" ++
    " 7 7 7 3i.x q 2h.b 5y.p c.3 1s 2e.1 2v.4 17 2m 2c.b 1b mlp.2 1j.8 9o.j 54.7 5n.4 2 1 5.n" ++
    " 1n.2 a.5 1k.7 1y.7 c.5 38.a u.2 26 b.3 x 1j.8 e.1 a.1 2v.n s.9 6.1 6.1 6.8 7 7 1o.3 3i.1" ++
    " a.5 8mc.b n.3 1d.3 1kw.4xr a6.1 2y.11 7.b 5.4 q 5 1 2 2 3h.f cd.1 1i.6 1.v 16.5 1f j 4.3" ++
    " 5 3r.1 1 5a.2 6.1 6.1 6.1 3.2 7 7.9 5.1 c q j 2 f.1 e.x 3f.4 3.3 19.2 2g d.2 1.1a 1a.3l" ++
    " t.2 1d.e s.3 10.8 u.4 17.4 u 11.3 e.15 4e.1 a.5 10.3 10.3 14.7 1g.a c f 7 2 b f 7 2.1u" ++
    " 8n.8 m.9 8.n 6 16 9.1w 6.1 1 18 2.2 1.1 n 20.7 9.1b j 2.4 x.2 r.4 1.1r 1k.3 k.1 1e 2.4 8" ++
    " 3 t.1 3.3 a.6 9.6 1s.v 13.3 c.8 1i.2 t.1 r.4 q.6 4.b 7.27 21.1i 1f.c 1f.6 1a.7 a.85 v 16" ++
    " 3.1 2.22 17.7 16.l q.11 s.j n.8 26.3 10.8 1w.9 1.1 p.6 a.5 1h i.7 13.8 2o k.a i 1b.1p 7 1" ++
    " 4 f b.5 1n.4 a.5 4 8.1 2.1 m 7 2 5 a.1 2.1 3.1 1.5 1.4 7.1 7.2 5.3u 2k 5.t 20.7 a.4l 1i.1" ++
    " 12.x 1x.a a.5 d.i 1m.5 a.1h r.1 f.3 n.54 1o.2r 2b.b 8.1 1.1 8 2 u 2.1 c.8 a.1x 8.1 1a.1" ++
    " b.q 20.7 2b.c 21.6 a.6t 9 19 e.9 t.2 w.1 m e.20 7 2 18.2 1 2 9.7 a.5 6 2 11 2 6.6 a.8l" ++
    " p.6 h 15.2 s.2d 1.e 1e.c pn.2t 33 5.a 5g.217 2r.c uu.33d g7.6ns ft.6 v a.3 29 a.5 u.1 6.9" ++
    " 1y.9 a 7 l.4 j.j3 2j.2s 23.3 1l.6 h.1r 5.a 2.d 4qg.7 ye.15 9.6w6 4 7 2 83.e 1.s 3.1 1.d" ++
    " 4.7 b0.1s3 2z.4 d.2 9.6 a.1 8.3mj 1a.1 n.8 38.1n 6u.9 13.1 5e.k 1y.3d k.b k.b 2f.8 p.3q" ++
    " 2d 1z 2.1 1.1 2.1 4 c 1 7 1t 4.1 8 7 s 4 5 1.2 7 9g.1 84.1 ji.e 5 f.un v.5 6.5w 7 h.1 7 2" ++
    " 5.4 1q.w 1.33 19.2 e.1 a.3 2.8v v.g 1m.4 1.cv 16.kl 7 4 2 f 5h.1 g.14 24.3 a.3 2.ls 1w.23" ++
    " 1p.5d 4 r 2 1.1 1 a 4 1 1.5 1.3 1 1 1 3 2 1.1 1 1 1 1 1 2 1.1 4 7 4 4 1 a h.4 3 5 h.1f" ++
    " 2.7h 18.3 2s.b f.1 f f 11.9 4u.1j t.c 18.3 9.6 2.d 6.49 rc.3 h.2 d.2 3b.3 2n.5 c.3 1.e" ++
    " c.3 1k.7 a.5 14.7 u.1 2.25 9g.b e.1 d.2 9.6 1a 7.7 e.3 9.6 9.6 43 1j.10 a.sl wyo.v 37e.5" ++
    " 66.1 4g2.d 5rl.2e6 f2.15t 3t7.4 38g.f974 1.t 2o.3j 6o.47bj")]

/-- The characters whose script extensions include a canonical script name. -/
def scriptExtensionSet (name : String) : CharSet :=
  match scriptExtensionTable.find? (fun (n, _, _) => n == name) with
  | some (_, _, table) => CharSet.ofRanges (decodeRanges table)
  | none => CharSet.empty

end BenchDispatch.Unicode
