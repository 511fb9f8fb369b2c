import GoScan.Unicode.CategoryRuns

/-!
General categories of the characters from U+A8F8, and the whole table.
-/

namespace GoScan.Unicode

open Category Run

def runsFromA8F8 : List Run :=
  [all 0xA8F8 po, all 0xA8FB lo, all 0xA8FC po, all 0xA8FD lo, all 0xA8FF mn, all 0xA900 nd,
   all 0xA90A lo, all 0xA926 mn, all 0xA92E po, all 0xA930 lo, all 0xA947 mn, all 0xA952 mc,
   all 0xA954 cn, all 0xA95F po, all 0xA960 lo, all 0xA97D cn, all 0xA980 mn, all 0xA983 mc,
   all 0xA984 lo, all 0xA9B3 mn, all 0xA9B4 mc, all 0xA9B6 mn, all 0xA9BA mc, all 0xA9BC mn,
   all 0xA9BE mc, all 0xA9C1 po, all 0xA9CE cn, all 0xA9CF lm, all 0xA9D0 nd, all 0xA9DA cn,
   all 0xA9DE po, all 0xA9E0 lo, all 0xA9E5 mn, all 0xA9E6 lm, all 0xA9E7 lo, all 0xA9F0 nd,
   all 0xA9FA lo, all 0xA9FF cn, all 0xAA00 lo, all 0xAA29 mn, all 0xAA2F mc, all 0xAA31 mn,
   all 0xAA33 mc, all 0xAA35 mn, all 0xAA37 cn, all 0xAA40 lo, all 0xAA43 mn, all 0xAA44 lo,
   all 0xAA4C mn, all 0xAA4D mc, all 0xAA4E cn, all 0xAA50 nd, all 0xAA5A cn, all 0xAA5C po,
   all 0xAA60 lo, all 0xAA70 lm, all 0xAA71 lo, all 0xAA77 so, all 0xAA7A lo, all 0xAA7B mc,
   all 0xAA7C mn, all 0xAA7D mc, all 0xAA7E lo, all 0xAAB0 mn, all 0xAAB1 lo, all 0xAAB2 mn,
   all 0xAAB5 lo, all 0xAAB7 mn, all 0xAAB9 lo, all 0xAABE mn, all 0xAAC0 lo, all 0xAAC1 mn,
   all 0xAAC2 lo, all 0xAAC3 cn, all 0xAADB lo, all 0xAADD lm, all 0xAADE po, all 0xAAE0 lo,
   all 0xAAEB mc, all 0xAAEC mn, all 0xAAEE mc, all 0xAAF0 po, all 0xAAF2 lo, all 0xAAF3 lm,
   all 0xAAF5 mc, all 0xAAF6 mn, all 0xAAF7 cn, all 0xAB01 lo, all 0xAB07 cn, all 0xAB09 lo,
   all 0xAB0F cn, all 0xAB11 lo, all 0xAB17 cn, all 0xAB20 lo, all 0xAB27 cn, all 0xAB28 lo]

def runsFromAB2F : List Run :=
  [all 0xAB2F cn, all 0xAB30 ll, all 0xAB5B sk, all 0xAB5C lm, all 0xAB60 ll, all 0xAB69 lm,
   all 0xAB6A sk, all 0xAB6C cn, all 0xAB70 ll, all 0xABC0 lo, all 0xABE3 mc, all 0xABE5 mn,
   all 0xABE6 mc, all 0xABE8 mn, all 0xABE9 mc, all 0xABEB po, all 0xABEC mc, all 0xABED mn,
   all 0xABEE cn, all 0xABF0 nd, all 0xABFA cn, all 0xAC00 lo, all 0xD7A4 cn, all 0xD7B0 lo,
   all 0xD7C7 cn, all 0xD7CB lo, all 0xD7FC cn, all 0xD800 cs, all 0xE000 co, all 0xF900 lo,
   all 0xFA6E cn, all 0xFA70 lo, all 0xFADA cn, all 0xFB00 ll, all 0xFB07 cn, all 0xFB13 ll,
   all 0xFB18 cn, all 0xFB1D lo, all 0xFB1E mn, all 0xFB1F lo, all 0xFB29 sm, all 0xFB2A lo,
   all 0xFB37 cn, all 0xFB38 lo, all 0xFB3D cn, all 0xFB3E lo, all 0xFB3F cn, all 0xFB40 lo,
   all 0xFB42 cn, all 0xFB43 lo, all 0xFB45 cn, all 0xFB46 lo, all 0xFBB2 sk, all 0xFBC3 cn,
   all 0xFBD3 lo, all 0xFD3E pe, all 0xFD3F ps, all 0xFD40 so, all 0xFD50 lo, all 0xFD90 cn,
   all 0xFD92 lo, all 0xFDC8 cn, all 0xFDCF so, all 0xFDD0 cn, all 0xFDF0 lo, all 0xFDFC sc,
   all 0xFDFD so, all 0xFE00 mn, all 0xFE10 po, all 0xFE17 ps, all 0xFE18 pe, all 0xFE19 po,
   all 0xFE1A cn, all 0xFE20 mn, all 0xFE30 po, all 0xFE31 pd, all 0xFE33 pc,
   alternating 0xFE35 ps pe, all 0xFE45 po, all 0xFE47 ps, all 0xFE48 pe, all 0xFE49 po,
   all 0xFE4D pc, all 0xFE50 po, all 0xFE53 cn, all 0xFE54 po, all 0xFE58 pd,
   alternating 0xFE59 ps pe, all 0xFE5F po, all 0xFE62 sm, all 0xFE63 pd, all 0xFE64 sm,
   all 0xFE67 cn, all 0xFE68 po, all 0xFE69 sc, all 0xFE6A po]

def runsFromFE6C : List Run :=
  [all 0xFE6C cn, all 0xFE70 lo, all 0xFE75 cn, all 0xFE76 lo, all 0xFEFD cn, all 0xFEFF cf,
   all 0xFF00 cn, all 0xFF01 po, all 0xFF04 sc, all 0xFF05 po, all 0xFF08 ps, all 0xFF09 pe,
   all 0xFF0A po, all 0xFF0B sm, all 0xFF0C po, all 0xFF0D pd, all 0xFF0E po, all 0xFF10 nd,
   all 0xFF1A po, all 0xFF1C sm, all 0xFF1F po, all 0xFF21 lu, all 0xFF3B ps, all 0xFF3C po,
   all 0xFF3D pe, all 0xFF3E sk, all 0xFF3F pc, all 0xFF40 sk, all 0xFF41 ll, all 0xFF5B ps,
   all 0xFF5C sm, all 0xFF5D pe, all 0xFF5E sm, all 0xFF5F ps, all 0xFF60 pe, all 0xFF61 po,
   all 0xFF62 ps, all 0xFF63 pe, all 0xFF64 po, all 0xFF66 lo, all 0xFF70 lm, all 0xFF71 lo,
   all 0xFF9E lm, all 0xFFA0 lo, all 0xFFBF cn, all 0xFFC2 lo, all 0xFFC8 cn, all 0xFFCA lo,
   all 0xFFD0 cn, all 0xFFD2 lo, all 0xFFD8 cn, all 0xFFDA lo, all 0xFFDD cn, all 0xFFE0 sc,
   all 0xFFE2 sm, all 0xFFE3 sk, all 0xFFE4 so, all 0xFFE5 sc, all 0xFFE7 cn, all 0xFFE8 so,
   all 0xFFE9 sm, all 0xFFED so, all 0xFFEF cn, all 0xFFF9 cf, all 0xFFFC so, all 0xFFFE cn,
   all 0x10000 lo, all 0x1000C cn, all 0x1000D lo, all 0x10027 cn, all 0x10028 lo, all 0x1003B cn,
   all 0x1003C lo, all 0x1003E cn, all 0x1003F lo, all 0x1004E cn, all 0x10050 lo, all 0x1005E cn,
   all 0x10080 lo, all 0x100FB cn, all 0x10100 po, all 0x10103 cn, all 0x10107 no, all 0x10134 cn,
   all 0x10137 so, all 0x10140 nl, all 0x10175 no, all 0x10179 so, all 0x1018A no, all 0x1018C so,
   all 0x1018F cn, all 0x10190 so, all 0x1019D cn, all 0x101A0 so, all 0x101A1 cn, all 0x101D0 so]

def runsFrom101FD : List Run :=
  [all 0x101FD mn, all 0x101FE cn, all 0x10280 lo, all 0x1029D cn, all 0x102A0 lo, all 0x102D1 cn,
   all 0x102E0 mn, all 0x102E1 no, all 0x102FC cn, all 0x10300 lo, all 0x10320 no, all 0x10324 cn,
   all 0x1032D lo, all 0x10341 nl, all 0x10342 lo, all 0x1034A nl, all 0x1034B cn, all 0x10350 lo,
   all 0x10376 mn, all 0x1037B cn, all 0x10380 lo, all 0x1039E cn, all 0x1039F po, all 0x103A0 lo,
   all 0x103C4 cn, all 0x103C8 lo, all 0x103D0 po, all 0x103D1 nl, all 0x103D6 cn, all 0x10400 lu,
   all 0x10428 ll, all 0x10450 lo, all 0x1049E cn, all 0x104A0 nd, all 0x104AA cn, all 0x104B0 lu,
   all 0x104D4 cn, all 0x104D8 ll, all 0x104FC cn, all 0x10500 lo, all 0x10528 cn, all 0x10530 lo,
   all 0x10564 cn, all 0x1056F po, all 0x10570 lu, all 0x1057B cn, all 0x1057C lu, all 0x1058B cn,
   all 0x1058C lu, all 0x10593 cn, all 0x10594 lu, all 0x10596 cn, all 0x10597 ll, all 0x105A2 cn,
   all 0x105A3 ll, all 0x105B2 cn, all 0x105B3 ll, all 0x105BA cn, all 0x105BB ll, all 0x105BD cn,
   all 0x105C0 lo, all 0x105F4 cn, all 0x10600 lo, all 0x10737 cn, all 0x10740 lo, all 0x10756 cn,
   all 0x10760 lo, all 0x10768 cn, all 0x10780 lm, all 0x10786 cn, all 0x10787 lm, all 0x107B1 cn,
   all 0x107B2 lm, all 0x107BB cn, all 0x10800 lo, all 0x10806 cn, all 0x10808 lo, all 0x10809 cn,
   all 0x1080A lo, all 0x10836 cn, all 0x10837 lo, all 0x10839 cn, all 0x1083C lo, all 0x1083D cn,
   all 0x1083F lo, all 0x10856 cn, all 0x10857 po, all 0x10858 no, all 0x10860 lo, all 0x10877 so,
   all 0x10879 no, all 0x10880 lo, all 0x1089F cn, all 0x108A7 no, all 0x108B0 cn, all 0x108E0 lo]

def runsFrom108F3 : List Run :=
  [all 0x108F3 cn, all 0x108F4 lo, all 0x108F6 cn, all 0x108FB no, all 0x10900 lo, all 0x10916 no,
   all 0x1091C cn, all 0x1091F po, all 0x10920 lo, all 0x1093A cn, all 0x1093F po, all 0x10940 cn,
   all 0x10980 lo, all 0x109B8 cn, all 0x109BC no, all 0x109BE lo, all 0x109C0 no, all 0x109D0 cn,
   all 0x109D2 no, all 0x10A00 lo, all 0x10A01 mn, all 0x10A04 cn, all 0x10A05 mn, all 0x10A07 cn,
   all 0x10A0C mn, all 0x10A10 lo, all 0x10A14 cn, all 0x10A15 lo, all 0x10A18 cn, all 0x10A19 lo,
   all 0x10A36 cn, all 0x10A38 mn, all 0x10A3B cn, all 0x10A3F mn, all 0x10A40 no, all 0x10A49 cn,
   all 0x10A50 po, all 0x10A59 cn, all 0x10A60 lo, all 0x10A7D no, all 0x10A7F po, all 0x10A80 lo,
   all 0x10A9D no, all 0x10AA0 cn, all 0x10AC0 lo, all 0x10AC8 so, all 0x10AC9 lo, all 0x10AE5 mn,
   all 0x10AE7 cn, all 0x10AEB no, all 0x10AF0 po, all 0x10AF7 cn, all 0x10B00 lo, all 0x10B36 cn,
   all 0x10B39 po, all 0x10B40 lo, all 0x10B56 cn, all 0x10B58 no, all 0x10B60 lo, all 0x10B73 cn,
   all 0x10B78 no, all 0x10B80 lo, all 0x10B92 cn, all 0x10B99 po, all 0x10B9D cn, all 0x10BA9 no,
   all 0x10BB0 cn, all 0x10C00 lo, all 0x10C49 cn, all 0x10C80 lu, all 0x10CB3 cn, all 0x10CC0 ll,
   all 0x10CF3 cn, all 0x10CFA no, all 0x10D00 lo, all 0x10D24 mn, all 0x10D28 cn, all 0x10D30 nd,
   all 0x10D3A cn, all 0x10D40 nd, all 0x10D4A lo, all 0x10D4E lm, all 0x10D4F lo, all 0x10D50 lu,
   all 0x10D66 cn, all 0x10D69 mn, all 0x10D6E pd, all 0x10D6F lm, all 0x10D70 ll, all 0x10D86 cn,
   all 0x10D8E sm, all 0x10D90 cn, all 0x10E60 no, all 0x10E7F cn, all 0x10E80 lo, all 0x10EAA cn]

def runsFrom10EAB : List Run :=
  [all 0x10EAB mn, all 0x10EAD pd, all 0x10EAE cn, all 0x10EB0 lo, all 0x10EB2 cn, all 0x10EC2 lo,
   all 0x10EC5 cn, all 0x10EFC mn, all 0x10F00 lo, all 0x10F1D no, all 0x10F27 lo, all 0x10F28 cn,
   all 0x10F30 lo, all 0x10F46 mn, all 0x10F51 no, all 0x10F55 po, all 0x10F5A cn, all 0x10F70 lo,
   all 0x10F82 mn, all 0x10F86 po, all 0x10F8A cn, all 0x10FB0 lo, all 0x10FC5 no, all 0x10FCC cn,
   all 0x10FE0 lo, all 0x10FF7 cn, all 0x11000 mc, all 0x11001 mn, all 0x11002 mc, all 0x11003 lo,
   all 0x11038 mn, all 0x11047 po, all 0x1104E cn, all 0x11052 no, all 0x11066 nd, all 0x11070 mn,
   all 0x11071 lo, all 0x11073 mn, all 0x11075 lo, all 0x11076 cn, all 0x1107F mn, all 0x11082 mc,
   all 0x11083 lo, all 0x110B0 mc, all 0x110B3 mn, all 0x110B7 mc, all 0x110B9 mn, all 0x110BB po,
   all 0x110BD cf, all 0x110BE po, all 0x110C2 mn, all 0x110C3 cn, all 0x110CD cf, all 0x110CE cn,
   all 0x110D0 lo, all 0x110E9 cn, all 0x110F0 nd, all 0x110FA cn, all 0x11100 mn, all 0x11103 lo,
   all 0x11127 mn, all 0x1112C mc, all 0x1112D mn, all 0x11135 cn, all 0x11136 nd, all 0x11140 po,
   all 0x11144 lo, all 0x11145 mc, all 0x11147 lo, all 0x11148 cn, all 0x11150 lo, all 0x11173 mn,
   all 0x11174 po, all 0x11176 lo, all 0x11177 cn, all 0x11180 mn, all 0x11182 mc, all 0x11183 lo,
   all 0x111B3 mc, all 0x111B6 mn, all 0x111BF mc, all 0x111C1 lo, all 0x111C5 po, all 0x111C9 mn,
   all 0x111CD po, all 0x111CE mc, all 0x111CF mn, all 0x111D0 nd, all 0x111DA lo, all 0x111DB po,
   all 0x111DC lo, all 0x111DD po, all 0x111E0 cn, all 0x111E1 no, all 0x111F5 cn, all 0x11200 lo]

def runsFrom11212 : List Run :=
  [all 0x11212 cn, all 0x11213 lo, all 0x1122C mc, all 0x1122F mn, all 0x11232 mc, all 0x11234 mn,
   all 0x11235 mc, all 0x11236 mn, all 0x11238 po, all 0x1123E mn, all 0x1123F lo, all 0x11241 mn,
   all 0x11242 cn, all 0x11280 lo, all 0x11287 cn, all 0x11288 lo, all 0x11289 cn, all 0x1128A lo,
   all 0x1128E cn, all 0x1128F lo, all 0x1129E cn, all 0x1129F lo, all 0x112A9 po, all 0x112AA cn,
   all 0x112B0 lo, all 0x112DF mn, all 0x112E0 mc, all 0x112E3 mn, all 0x112EB cn, all 0x112F0 nd,
   all 0x112FA cn, all 0x11300 mn, all 0x11302 mc, all 0x11304 cn, all 0x11305 lo, all 0x1130D cn,
   all 0x1130F lo, all 0x11311 cn, all 0x11313 lo, all 0x11329 cn, all 0x1132A lo, all 0x11331 cn,
   all 0x11332 lo, all 0x11334 cn, all 0x11335 lo, all 0x1133A cn, all 0x1133B mn, all 0x1133D lo,
   all 0x1133E mc, all 0x11340 mn, all 0x11341 mc, all 0x11345 cn, all 0x11347 mc, all 0x11349 cn,
   all 0x1134B mc, all 0x1134E cn, all 0x11350 lo, all 0x11351 cn, all 0x11357 mc, all 0x11358 cn,
   all 0x1135D lo, all 0x11362 mc, all 0x11364 cn, all 0x11366 mn, all 0x1136D cn, all 0x11370 mn,
   all 0x11375 cn, all 0x11380 lo, all 0x1138A cn, all 0x1138B lo, all 0x1138C cn, all 0x1138E lo,
   all 0x1138F cn, all 0x11390 lo, all 0x113B6 cn, all 0x113B7 lo, all 0x113B8 mc, all 0x113BB mn,
   all 0x113C1 cn, all 0x113C2 mc, all 0x113C3 cn, all 0x113C5 mc, all 0x113C6 cn, all 0x113C7 mc,
   all 0x113CB cn, all 0x113CC mc, all 0x113CE mn, all 0x113CF mc, alternating 0x113D0 mn lo,
   all 0x113D4 po, all 0x113D6 cn, all 0x113D7 po, all 0x113D9 cn, all 0x113E1 mn, all 0x113E3 cn,
   all 0x11400 lo]

def runsFrom11435 : List Run :=
  [all 0x11435 mc, all 0x11438 mn, all 0x11440 mc, all 0x11442 mn, all 0x11445 mc, all 0x11446 mn,
   all 0x11447 lo, all 0x1144B po, all 0x11450 nd, all 0x1145A po, all 0x1145C cn, all 0x1145D po,
   all 0x1145E mn, all 0x1145F lo, all 0x11462 cn, all 0x11480 lo, all 0x114B0 mc, all 0x114B3 mn,
   all 0x114B9 mc, all 0x114BA mn, all 0x114BB mc, all 0x114BF mn, all 0x114C1 mc, all 0x114C2 mn,
   all 0x114C4 lo, all 0x114C6 po, all 0x114C7 lo, all 0x114C8 cn, all 0x114D0 nd, all 0x114DA cn,
   all 0x11580 lo, all 0x115AF mc, all 0x115B2 mn, all 0x115B6 cn, all 0x115B8 mc, all 0x115BC mn,
   all 0x115BE mc, all 0x115BF mn, all 0x115C1 po, all 0x115D8 lo, all 0x115DC mn, all 0x115DE cn,
   all 0x11600 lo, all 0x11630 mc, all 0x11633 mn, all 0x1163B mc, all 0x1163D mn, all 0x1163E mc,
   all 0x1163F mn, all 0x11641 po, all 0x11644 lo, all 0x11645 cn, all 0x11650 nd, all 0x1165A cn,
   all 0x11660 po, all 0x1166D cn, all 0x11680 lo, all 0x116AB mn, all 0x116AC mc, all 0x116AD mn,
   all 0x116AE mc, all 0x116B0 mn, all 0x116B6 mc, all 0x116B7 mn, all 0x116B8 lo, all 0x116B9 po,
   all 0x116BA cn, all 0x116C0 nd, all 0x116CA cn, all 0x116D0 nd, all 0x116E4 cn, all 0x11700 lo,
   all 0x1171B cn, all 0x1171D mn, all 0x1171E mc, all 0x1171F mn, all 0x11720 mc, all 0x11722 mn,
   all 0x11726 mc, all 0x11727 mn, all 0x1172C cn, all 0x11730 nd, all 0x1173A no, all 0x1173C po,
   all 0x1173F so, all 0x11740 lo, all 0x11747 cn, all 0x11800 lo, all 0x1182C mc, all 0x1182F mn,
   all 0x11838 mc, all 0x11839 mn, all 0x1183B po, all 0x1183C cn, all 0x118A0 lu, all 0x118C0 ll]

def runsFrom118E0 : List Run :=
  [all 0x118E0 nd, all 0x118EA no, all 0x118F3 cn, all 0x118FF lo, all 0x11907 cn, all 0x11909 lo,
   all 0x1190A cn, all 0x1190C lo, all 0x11914 cn, all 0x11915 lo, all 0x11917 cn, all 0x11918 lo,
   all 0x11930 mc, all 0x11936 cn, all 0x11937 mc, all 0x11939 cn, all 0x1193B mn, all 0x1193D mc,
   all 0x1193E mn, alternating 0x1193F lo mc, all 0x11943 mn, all 0x11944 po, all 0x11947 cn,
   all 0x11950 nd, all 0x1195A cn, all 0x119A0 lo, all 0x119A8 cn, all 0x119AA lo, all 0x119D1 mc,
   all 0x119D4 mn, all 0x119D8 cn, all 0x119DA mn, all 0x119DC mc, all 0x119E0 mn, all 0x119E1 lo,
   all 0x119E2 po, all 0x119E3 lo, all 0x119E4 mc, all 0x119E5 cn, all 0x11A00 lo, all 0x11A01 mn,
   all 0x11A0B lo, all 0x11A33 mn, all 0x11A39 mc, all 0x11A3A lo, all 0x11A3B mn, all 0x11A3F po,
   all 0x11A47 mn, all 0x11A48 cn, all 0x11A50 lo, all 0x11A51 mn, all 0x11A57 mc, all 0x11A59 mn,
   all 0x11A5C lo, all 0x11A8A mn, all 0x11A97 mc, all 0x11A98 mn, all 0x11A9A po, all 0x11A9D lo,
   all 0x11A9E po, all 0x11AA3 cn, all 0x11AB0 lo, all 0x11AF9 cn, all 0x11B00 po, all 0x11B0A cn,
   all 0x11BC0 lo, all 0x11BE1 po, all 0x11BE2 cn, all 0x11BF0 nd, all 0x11BFA cn, all 0x11C00 lo,
   all 0x11C09 cn, all 0x11C0A lo, all 0x11C2F mc, all 0x11C30 mn, all 0x11C37 cn, all 0x11C38 mn,
   all 0x11C3E mc, all 0x11C3F mn, all 0x11C40 lo, all 0x11C41 po, all 0x11C46 cn, all 0x11C50 nd,
   all 0x11C5A no, all 0x11C6D cn, all 0x11C70 po, all 0x11C72 lo, all 0x11C90 cn, all 0x11C92 mn,
   all 0x11CA8 cn, all 0x11CA9 mc, all 0x11CAA mn, all 0x11CB1 mc, all 0x11CB2 mn, all 0x11CB4 mc,
   all 0x11CB5 mn]

def runsFrom11CB7 : List Run :=
  [all 0x11CB7 cn, all 0x11D00 lo, all 0x11D07 cn, all 0x11D08 lo, all 0x11D0A cn, all 0x11D0B lo,
   all 0x11D31 mn, all 0x11D37 cn, all 0x11D3A mn, all 0x11D3B cn, all 0x11D3C mn, all 0x11D3E cn,
   all 0x11D3F mn, all 0x11D46 lo, all 0x11D47 mn, all 0x11D48 cn, all 0x11D50 nd, all 0x11D5A cn,
   all 0x11D60 lo, all 0x11D66 cn, all 0x11D67 lo, all 0x11D69 cn, all 0x11D6A lo, all 0x11D8A mc,
   all 0x11D8F cn, all 0x11D90 mn, all 0x11D92 cn, all 0x11D93 mc, all 0x11D95 mn, all 0x11D96 mc,
   all 0x11D97 mn, all 0x11D98 lo, all 0x11D99 cn, all 0x11DA0 nd, all 0x11DAA cn, all 0x11EE0 lo,
   all 0x11EF3 mn, all 0x11EF5 mc, all 0x11EF7 po, all 0x11EF9 cn, all 0x11F00 mn, all 0x11F02 lo,
   all 0x11F03 mc, all 0x11F04 lo, all 0x11F11 cn, all 0x11F12 lo, all 0x11F34 mc, all 0x11F36 mn,
   all 0x11F3B cn, all 0x11F3E mc, all 0x11F40 mn, all 0x11F41 mc, all 0x11F42 mn, all 0x11F43 po,
   all 0x11F50 nd, all 0x11F5A mn, all 0x11F5B cn, all 0x11FB0 lo, all 0x11FB1 cn, all 0x11FC0 no,
   all 0x11FD5 so, all 0x11FDD sc, all 0x11FE1 so, all 0x11FF2 cn, all 0x11FFF po, all 0x12000 lo,
   all 0x1239A cn, all 0x12400 nl, all 0x1246F cn, all 0x12470 po, all 0x12475 cn, all 0x12480 lo,
   all 0x12544 cn, all 0x12F90 lo, all 0x12FF1 po, all 0x12FF3 cn, all 0x13000 lo, all 0x13430 cf,
   all 0x13440 mn, all 0x13441 lo, all 0x13447 mn, all 0x13456 cn, all 0x13460 lo, all 0x143FB cn,
   all 0x14400 lo, all 0x14647 cn, all 0x16100 lo, all 0x1611E mn, all 0x1612A mc, all 0x1612D mn,
   all 0x16130 nd, all 0x1613A cn, all 0x16800 lo, all 0x16A39 cn, all 0x16A40 lo, all 0x16A5F cn]

def runsFrom16A60 : List Run :=
  [all 0x16A60 nd, all 0x16A6A cn, all 0x16A6E po, all 0x16A70 lo, all 0x16ABF cn, all 0x16AC0 nd,
   all 0x16ACA cn, all 0x16AD0 lo, all 0x16AEE cn, all 0x16AF0 mn, all 0x16AF5 po, all 0x16AF6 cn,
   all 0x16B00 lo, all 0x16B30 mn, all 0x16B37 po, all 0x16B3C so, all 0x16B40 lm, all 0x16B44 po,
   all 0x16B45 so, all 0x16B46 cn, all 0x16B50 nd, all 0x16B5A cn, all 0x16B5B no, all 0x16B62 cn,
   all 0x16B63 lo, all 0x16B78 cn, all 0x16B7D lo, all 0x16B90 cn, all 0x16D40 lm, all 0x16D43 lo,
   all 0x16D6B lm, all 0x16D6D po, all 0x16D70 nd, all 0x16D7A cn, all 0x16E40 lu, all 0x16E60 ll,
   all 0x16E80 no, all 0x16E97 po, all 0x16E9B cn, all 0x16F00 lo, all 0x16F4B cn, all 0x16F4F mn,
   all 0x16F50 lo, all 0x16F51 mc, all 0x16F88 cn, all 0x16F8F mn, all 0x16F93 lm, all 0x16FA0 cn,
   all 0x16FE0 lm, all 0x16FE2 po, all 0x16FE3 lm, all 0x16FE4 mn, all 0x16FE5 cn, all 0x16FF0 mc,
   all 0x16FF2 cn, all 0x17000 lo, all 0x187F8 cn, all 0x18800 lo, all 0x18CD6 cn, all 0x18CFF lo,
   all 0x18D09 cn, all 0x1AFF0 lm, all 0x1AFF4 cn, all 0x1AFF5 lm, all 0x1AFFC cn, all 0x1AFFD lm,
   all 0x1AFFF cn, all 0x1B000 lo, all 0x1B123 cn, all 0x1B132 lo, all 0x1B133 cn, all 0x1B150 lo,
   all 0x1B153 cn, all 0x1B155 lo, all 0x1B156 cn, all 0x1B164 lo, all 0x1B168 cn, all 0x1B170 lo,
   all 0x1B2FC cn, all 0x1BC00 lo, all 0x1BC6B cn, all 0x1BC70 lo, all 0x1BC7D cn, all 0x1BC80 lo,
   all 0x1BC89 cn, all 0x1BC90 lo, all 0x1BC9A cn, all 0x1BC9C so, all 0x1BC9D mn, all 0x1BC9F po,
   all 0x1BCA0 cf, all 0x1BCA4 cn, all 0x1CC00 so, all 0x1CCF0 nd, all 0x1CCFA cn, all 0x1CD00 so]

def runsFrom1CEB4 : List Run :=
  [all 0x1CEB4 cn, all 0x1CF00 mn, all 0x1CF2E cn, all 0x1CF30 mn, all 0x1CF47 cn, all 0x1CF50 so,
   all 0x1CFC4 cn, all 0x1D000 so, all 0x1D0F6 cn, all 0x1D100 so, all 0x1D127 cn, all 0x1D129 so,
   all 0x1D165 mc, all 0x1D167 mn, all 0x1D16A so, all 0x1D16D mc, all 0x1D173 cf, all 0x1D17B mn,
   all 0x1D183 so, all 0x1D185 mn, all 0x1D18C so, all 0x1D1AA mn, all 0x1D1AE so, all 0x1D1EB cn,
   all 0x1D200 so, all 0x1D242 mn, all 0x1D245 so, all 0x1D246 cn, all 0x1D2C0 no, all 0x1D2D4 cn,
   all 0x1D2E0 no, all 0x1D2F4 cn, all 0x1D300 so, all 0x1D357 cn, all 0x1D360 no, all 0x1D379 cn,
   all 0x1D400 lu, all 0x1D41A ll, all 0x1D434 lu, all 0x1D44E ll, all 0x1D455 cn, all 0x1D456 ll,
   all 0x1D468 lu, all 0x1D482 ll, all 0x1D49C lu, all 0x1D49D cn, all 0x1D49E lu, all 0x1D4A0 cn,
   all 0x1D4A2 lu, all 0x1D4A3 cn, all 0x1D4A5 lu, all 0x1D4A7 cn, all 0x1D4A9 lu, all 0x1D4AD cn,
   all 0x1D4AE lu, all 0x1D4B6 ll, all 0x1D4BA cn, all 0x1D4BB ll, all 0x1D4BC cn, all 0x1D4BD ll,
   all 0x1D4C4 cn, all 0x1D4C5 ll, all 0x1D4D0 lu, all 0x1D4EA ll, all 0x1D504 lu, all 0x1D506 cn,
   all 0x1D507 lu, all 0x1D50B cn, all 0x1D50D lu, all 0x1D515 cn, all 0x1D516 lu, all 0x1D51D cn,
   all 0x1D51E ll, all 0x1D538 lu, all 0x1D53A cn, all 0x1D53B lu, all 0x1D53F cn, all 0x1D540 lu,
   all 0x1D545 cn, all 0x1D546 lu, all 0x1D547 cn, all 0x1D54A lu, all 0x1D551 cn, all 0x1D552 ll,
   all 0x1D56C lu, all 0x1D586 ll, all 0x1D5A0 lu, all 0x1D5BA ll, all 0x1D5D4 lu, all 0x1D5EE ll,
   all 0x1D608 lu, all 0x1D622 ll, all 0x1D63C lu, all 0x1D656 ll, all 0x1D670 lu, all 0x1D68A ll]

def runsFrom1D6A6 : List Run :=
  [all 0x1D6A6 cn, all 0x1D6A8 lu, all 0x1D6C1 sm, all 0x1D6C2 ll, all 0x1D6DB sm, all 0x1D6DC ll,
   all 0x1D6E2 lu, all 0x1D6FB sm, all 0x1D6FC ll, all 0x1D715 sm, all 0x1D716 ll, all 0x1D71C lu,
   all 0x1D735 sm, all 0x1D736 ll, all 0x1D74F sm, all 0x1D750 ll, all 0x1D756 lu, all 0x1D76F sm,
   all 0x1D770 ll, all 0x1D789 sm, all 0x1D78A ll, all 0x1D790 lu, all 0x1D7A9 sm, all 0x1D7AA ll,
   all 0x1D7C3 sm, all 0x1D7C4 ll, all 0x1D7CA lu, all 0x1D7CB ll, all 0x1D7CC cn, all 0x1D7CE nd,
   all 0x1D800 so, all 0x1DA00 mn, all 0x1DA37 so, all 0x1DA3B mn, all 0x1DA6D so, all 0x1DA75 mn,
   all 0x1DA76 so, all 0x1DA84 mn, all 0x1DA85 so, all 0x1DA87 po, all 0x1DA8C cn, all 0x1DA9B mn,
   all 0x1DAA0 cn, all 0x1DAA1 mn, all 0x1DAB0 cn, all 0x1DF00 ll, all 0x1DF0A lo, all 0x1DF0B ll,
   all 0x1DF1F cn, all 0x1DF25 ll, all 0x1DF2B cn, all 0x1E000 mn, all 0x1E007 cn, all 0x1E008 mn,
   all 0x1E019 cn, all 0x1E01B mn, all 0x1E022 cn, all 0x1E023 mn, all 0x1E025 cn, all 0x1E026 mn,
   all 0x1E02B cn, all 0x1E030 lm, all 0x1E06E cn, all 0x1E08F mn, all 0x1E090 cn, all 0x1E100 lo,
   all 0x1E12D cn, all 0x1E130 mn, all 0x1E137 lm, all 0x1E13E cn, all 0x1E140 nd, all 0x1E14A cn,
   all 0x1E14E lo, all 0x1E14F so, all 0x1E150 cn, all 0x1E290 lo, all 0x1E2AE mn, all 0x1E2AF cn,
   all 0x1E2C0 lo, all 0x1E2EC mn, all 0x1E2F0 nd, all 0x1E2FA cn, all 0x1E2FF sc, all 0x1E300 cn,
   all 0x1E4D0 lo, all 0x1E4EB lm, all 0x1E4EC mn, all 0x1E4F0 nd, all 0x1E4FA cn, all 0x1E5D0 lo,
   all 0x1E5EE mn, all 0x1E5F0 lo, all 0x1E5F1 nd, all 0x1E5FB cn, all 0x1E5FF po, all 0x1E600 cn]

def runsFrom1E7E0 : List Run :=
  [all 0x1E7E0 lo, all 0x1E7E7 cn, all 0x1E7E8 lo, all 0x1E7EC cn, all 0x1E7ED lo, all 0x1E7EF cn,
   all 0x1E7F0 lo, all 0x1E7FF cn, all 0x1E800 lo, all 0x1E8C5 cn, all 0x1E8C7 no, all 0x1E8D0 mn,
   all 0x1E8D7 cn, all 0x1E900 lu, all 0x1E922 ll, all 0x1E944 mn, all 0x1E94B lm, all 0x1E94C cn,
   all 0x1E950 nd, all 0x1E95A cn, all 0x1E95E po, all 0x1E960 cn, all 0x1EC71 no, all 0x1ECAC so,
   all 0x1ECAD no, all 0x1ECB0 sc, all 0x1ECB1 no, all 0x1ECB5 cn, all 0x1ED01 no, all 0x1ED2E so,
   all 0x1ED2F no, all 0x1ED3E cn, all 0x1EE00 lo, all 0x1EE04 cn, all 0x1EE05 lo, all 0x1EE20 cn,
   all 0x1EE21 lo, all 0x1EE23 cn, all 0x1EE24 lo, all 0x1EE25 cn, all 0x1EE27 lo, all 0x1EE28 cn,
   all 0x1EE29 lo, all 0x1EE33 cn, all 0x1EE34 lo, alternating 0x1EE38 cn lo, all 0x1EE3C cn,
   all 0x1EE42 lo, all 0x1EE43 cn, alternating 0x1EE47 lo cn, all 0x1EE4D lo, all 0x1EE50 cn,
   all 0x1EE51 lo, all 0x1EE53 cn, all 0x1EE54 lo, all 0x1EE55 cn, alternating 0x1EE57 lo cn,
   all 0x1EE61 lo, all 0x1EE63 cn, all 0x1EE64 lo, all 0x1EE65 cn, all 0x1EE67 lo, all 0x1EE6B cn,
   all 0x1EE6C lo, all 0x1EE73 cn, all 0x1EE74 lo, all 0x1EE78 cn, all 0x1EE79 lo, all 0x1EE7D cn,
   all 0x1EE7E lo, all 0x1EE7F cn, all 0x1EE80 lo, all 0x1EE8A cn, all 0x1EE8B lo, all 0x1EE9C cn,
   all 0x1EEA1 lo, all 0x1EEA4 cn, all 0x1EEA5 lo, all 0x1EEAA cn, all 0x1EEAB lo, all 0x1EEBC cn,
   all 0x1EEF0 sm, all 0x1EEF2 cn, all 0x1F000 so, all 0x1F02C cn, all 0x1F030 so, all 0x1F094 cn,
   all 0x1F0A0 so, all 0x1F0AF cn, all 0x1F0B1 so, all 0x1F0C0 cn, all 0x1F0C1 so, all 0x1F0D0 cn,
   all 0x1F0D1 so, all 0x1F0F6 cn, all 0x1F100 no]

def runsFrom1F10D : List Run :=
  [all 0x1F10D so, all 0x1F1AE cn, all 0x1F1E6 so, all 0x1F203 cn, all 0x1F210 so, all 0x1F23C cn,
   all 0x1F240 so, all 0x1F249 cn, all 0x1F250 so, all 0x1F252 cn, all 0x1F260 so, all 0x1F266 cn,
   all 0x1F300 so, all 0x1F3FB sk, all 0x1F400 so, all 0x1F6D8 cn, all 0x1F6DC so, all 0x1F6ED cn,
   all 0x1F6F0 so, all 0x1F6FD cn, all 0x1F700 so, all 0x1F777 cn, all 0x1F77B so, all 0x1F7DA cn,
   all 0x1F7E0 so, all 0x1F7EC cn, all 0x1F7F0 so, all 0x1F7F1 cn, all 0x1F800 so, all 0x1F80C cn,
   all 0x1F810 so, all 0x1F848 cn, all 0x1F850 so, all 0x1F85A cn, all 0x1F860 so, all 0x1F888 cn,
   all 0x1F890 so, all 0x1F8AE cn, all 0x1F8B0 so, all 0x1F8BC cn, all 0x1F8C0 so, all 0x1F8C2 cn,
   all 0x1F900 so, all 0x1FA54 cn, all 0x1FA60 so, all 0x1FA6E cn, all 0x1FA70 so, all 0x1FA7D cn,
   all 0x1FA80 so, all 0x1FA8A cn, all 0x1FA8F so, all 0x1FAC7 cn, all 0x1FACE so, all 0x1FADD cn,
   all 0x1FADF so, all 0x1FAEA cn, all 0x1FAF0 so, all 0x1FAF9 cn, all 0x1FB00 so, all 0x1FB93 cn,
   all 0x1FB94 so, all 0x1FBF0 nd, all 0x1FBFA cn, all 0x20000 lo, all 0x2A6E0 cn, all 0x2A700 lo,
   all 0x2B73A cn, all 0x2B740 lo, all 0x2B81E cn, all 0x2B820 lo, all 0x2CEA2 cn, all 0x2CEB0 lo,
   all 0x2EBE1 cn, all 0x2EBF0 lo, all 0x2EE5E cn, all 0x2F800 lo, all 0x2FA1E cn, all 0x30000 lo,
   all 0x3134B cn, all 0x31350 lo, all 0x323B0 cn, all 0xE0001 cf, all 0xE0002 cn, all 0xE0020 cf,
   all 0xE0080 cn, all 0xE0100 mn, all 0xE01F0 cn, all 0xF0000 co, all 0xFFFFE cn, all 0x100000 co,
   all 0x10FFFE cn]

/-- The runs of all characters, in order, cut into pages that name their first character. -/
def categoryPages : List (Nat × List Run) :=
  [(0x0, runsFrom0000), (0x1B5, runsFrom01B5), (0x4CE, runsFrom04CE), (0x840, runsFrom0840),
   (0xA37, runsFrom0A37), (0xB64, runsFrom0B64), (0xCBE, runsFrom0CBE), (0xE86, runsFrom0E86),
   (0x10C8, runsFrom10C8), (0x17DD, runsFrom17DD), (0x1B42, runsFrom1B42), (0x1F60, runsFrom1F60),
   (0x20E5, runsFrom20E5), (0x27C0, runsFrom27C0), (0x2E1E, runsFrom2E1E), (0xA4FE, runsFromA4FE),
   (0xA8F8, runsFromA8F8), (0xAB2F, runsFromAB2F), (0xFE6C, runsFromFE6C),
   (0x101FD, runsFrom101FD), (0x108F3, runsFrom108F3), (0x10EAB, runsFrom10EAB),
   (0x11212, runsFrom11212), (0x11435, runsFrom11435), (0x118E0, runsFrom118E0),
   (0x11CB7, runsFrom11CB7), (0x16A60, runsFrom16A60), (0x1CEB4, runsFrom1CEB4),
   (0x1D6A6, runsFrom1D6A6), (0x1E7E0, runsFrom1E7E0), (0x1F10D, runsFrom1F10D)]

end GoScan.Unicode
