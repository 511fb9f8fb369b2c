import GoScan.Unicode.Category

/-!
General categories of the characters from U+0000, as runs.
-/

namespace GoScan.Unicode

open Category Run

def runsFrom0000 : List Run :=
  [all 0x0 cc, all 0x20 zs, all 0x21 po, all 0x24 sc, all 0x25 po, all 0x28 ps, all 0x29 pe,
   all 0x2A po, all 0x2B sm, all 0x2C po, all 0x2D pd, all 0x2E po, all 0x30 nd, all 0x3A po,
   all 0x3C sm, all 0x3F po, all 0x41 lu, all 0x5B ps, all 0x5C po, all 0x5D pe, all 0x5E sk,
   all 0x5F pc, all 0x60 sk, all 0x61 ll, all 0x7B ps, all 0x7C sm, all 0x7D pe, all 0x7E sm,
   all 0x7F cc, all 0xA0 zs, all 0xA1 po, all 0xA2 sc, all 0xA6 so, all 0xA7 po, all 0xA8 sk,
   all 0xA9 so, all 0xAA lo, all 0xAB pi, all 0xAC sm, all 0xAD cf, all 0xAE so, all 0xAF sk,
   all 0xB0 so, all 0xB1 sm, all 0xB2 no, all 0xB4 sk, all 0xB5 ll, all 0xB6 po, all 0xB8 sk,
   all 0xB9 no, all 0xBA lo, all 0xBB pf, all 0xBC no, all 0xBF po, all 0xC0 lu, all 0xD7 sm,
   all 0xD8 lu, all 0xDF ll, all 0xF7 sm, all 0xF8 ll, alternating 0x100 lu ll, all 0x137 ll,
   alternating 0x139 lu ll, all 0x148 ll, alternating 0x14A lu ll, all 0x178 lu,
   alternating 0x17A ll lu, all 0x17E ll, all 0x181 lu, all 0x183 ll, all 0x184 lu, all 0x185 ll,
   all 0x186 lu, all 0x188 ll, all 0x189 lu, all 0x18C ll, all 0x18E lu, all 0x192 ll,
   all 0x193 lu, all 0x195 ll, all 0x196 lu, all 0x199 ll, all 0x19C lu, all 0x19E ll,
   all 0x19F lu, alternating 0x1A1 ll lu, all 0x1A6 lu, all 0x1A8 ll, all 0x1A9 lu, all 0x1AA ll,
   all 0x1AC lu, all 0x1AD ll, all 0x1AE lu, all 0x1B0 ll, all 0x1B1 lu, all 0x1B4 ll]

def runsFrom01B5 : List Run :=
  [all 0x1B5 lu, all 0x1B6 ll, all 0x1B7 lu, all 0x1B9 ll, all 0x1BB lo, all 0x1BC lu,
   all 0x1BD ll, all 0x1C0 lo, all 0x1C4 lu, all 0x1C5 lt, all 0x1C6 ll, all 0x1C7 lu,
   all 0x1C8 lt, all 0x1C9 ll, all 0x1CA lu, all 0x1CB lt, alternating 0x1CC ll lu, all 0x1DC ll,
   alternating 0x1DE lu ll, all 0x1EF ll, all 0x1F1 lu, all 0x1F2 lt, all 0x1F3 ll, all 0x1F4 lu,
   all 0x1F5 ll, all 0x1F6 lu, alternating 0x1F9 ll lu, all 0x233 ll, all 0x23A lu, all 0x23C ll,
   all 0x23D lu, all 0x23F ll, all 0x241 lu, all 0x242 ll, all 0x243 lu, alternating 0x247 ll lu,
   all 0x24F ll, all 0x294 lo, all 0x295 ll, all 0x2B0 lm, all 0x2C2 sk, all 0x2C6 lm,
   all 0x2D2 sk, all 0x2E0 lm, all 0x2E5 sk, all 0x2EC lm, all 0x2ED sk, all 0x2EE lm,
   all 0x2EF sk, all 0x300 mn, alternating 0x370 lu ll, all 0x374 lm, all 0x375 sk, all 0x376 lu,
   all 0x377 ll, all 0x378 cn, all 0x37A lm, all 0x37B ll, all 0x37E po, all 0x37F lu,
   all 0x380 cn, all 0x384 sk, all 0x386 lu, all 0x387 po, all 0x388 lu, all 0x38B cn,
   all 0x38C lu, all 0x38D cn, all 0x38E lu, all 0x390 ll, all 0x391 lu, all 0x3A2 cn,
   all 0x3A3 lu, all 0x3AC ll, all 0x3CF lu, all 0x3D0 ll, all 0x3D2 lu, all 0x3D5 ll,
   alternating 0x3D8 lu ll, all 0x3EF ll, all 0x3F4 lu, all 0x3F5 ll, all 0x3F6 sm, all 0x3F7 lu,
   all 0x3F8 ll, all 0x3F9 lu, all 0x3FB ll, all 0x3FD lu, all 0x430 ll, alternating 0x460 lu ll,
   all 0x482 so, all 0x483 mn, all 0x488 me, alternating 0x48A lu ll, all 0x4C0 lu,
   alternating 0x4C2 ll lu]

def runsFrom04CE : List Run :=
  [all 0x4CE ll, alternating 0x4D0 lu ll, all 0x530 cn, all 0x531 lu, all 0x557 cn, all 0x559 lm,
   all 0x55A po, all 0x560 ll, all 0x589 po, all 0x58A pd, all 0x58B cn, all 0x58D so,
   all 0x58F sc, all 0x590 cn, all 0x591 mn, all 0x5BE pd, all 0x5BF mn, all 0x5C0 po,
   all 0x5C1 mn, all 0x5C3 po, all 0x5C4 mn, all 0x5C6 po, all 0x5C7 mn, all 0x5C8 cn,
   all 0x5D0 lo, all 0x5EB cn, all 0x5EF lo, all 0x5F3 po, all 0x5F5 cn, all 0x600 cf,
   all 0x606 sm, all 0x609 po, all 0x60B sc, all 0x60C po, all 0x60E so, all 0x610 mn,
   all 0x61B po, all 0x61C cf, all 0x61D po, all 0x620 lo, all 0x640 lm, all 0x641 lo,
   all 0x64B mn, all 0x660 nd, all 0x66A po, all 0x66E lo, all 0x670 mn, all 0x671 lo,
   all 0x6D4 po, all 0x6D5 lo, all 0x6D6 mn, all 0x6DD cf, all 0x6DE so, all 0x6DF mn,
   all 0x6E5 lm, all 0x6E7 mn, all 0x6E9 so, all 0x6EA mn, all 0x6EE lo, all 0x6F0 nd,
   all 0x6FA lo, all 0x6FD so, all 0x6FF lo, all 0x700 po, all 0x70E cn, all 0x70F cf,
   all 0x710 lo, all 0x711 mn, all 0x712 lo, all 0x730 mn, all 0x74B cn, all 0x74D lo,
   all 0x7A6 mn, all 0x7B1 lo, all 0x7B2 cn, all 0x7C0 nd, all 0x7CA lo, all 0x7EB mn,
   all 0x7F4 lm, all 0x7F6 so, all 0x7F7 po, all 0x7FA lm, all 0x7FB cn, all 0x7FD mn,
   all 0x7FE sc, all 0x800 lo, all 0x816 mn, all 0x81A lm, all 0x81B mn, all 0x824 lm,
   all 0x825 mn, all 0x828 lm, all 0x829 mn, all 0x82E cn, all 0x830 po, all 0x83F cn]

def runsFrom0840 : List Run :=
  [all 0x840 lo, all 0x859 mn, all 0x85C cn, all 0x85E po, all 0x85F cn, all 0x860 lo,
   all 0x86B cn, all 0x870 lo, all 0x888 sk, all 0x889 lo, all 0x88F cn, all 0x890 cf,
   all 0x892 cn, all 0x897 mn, all 0x8A0 lo, all 0x8C9 lm, all 0x8CA mn, all 0x8E2 cf,
   all 0x8E3 mn, all 0x903 mc, all 0x904 lo, all 0x93A mn, all 0x93B mc, all 0x93C mn,
   all 0x93D lo, all 0x93E mc, all 0x941 mn, all 0x949 mc, all 0x94D mn, all 0x94E mc,
   all 0x950 lo, all 0x951 mn, all 0x958 lo, all 0x962 mn, all 0x964 po, all 0x966 nd,
   all 0x970 po, all 0x971 lm, all 0x972 lo, all 0x981 mn, all 0x982 mc, all 0x984 cn,
   all 0x985 lo, all 0x98D cn, all 0x98F lo, all 0x991 cn, all 0x993 lo, all 0x9A9 cn,
   all 0x9AA lo, all 0x9B1 cn, all 0x9B2 lo, all 0x9B3 cn, all 0x9B6 lo, all 0x9BA cn,
   all 0x9BC mn, all 0x9BD lo, all 0x9BE mc, all 0x9C1 mn, all 0x9C5 cn, all 0x9C7 mc,
   all 0x9C9 cn, all 0x9CB mc, all 0x9CD mn, all 0x9CE lo, all 0x9CF cn, all 0x9D7 mc,
   all 0x9D8 cn, all 0x9DC lo, all 0x9DE cn, all 0x9DF lo, all 0x9E2 mn, all 0x9E4 cn,
   all 0x9E6 nd, all 0x9F0 lo, all 0x9F2 sc, all 0x9F4 no, all 0x9FA so, all 0x9FB sc,
   all 0x9FC lo, all 0x9FD po, all 0x9FE mn, all 0x9FF cn, all 0xA01 mn, all 0xA03 mc,
   all 0xA04 cn, all 0xA05 lo, all 0xA0B cn, all 0xA0F lo, all 0xA11 cn, all 0xA13 lo,
   all 0xA29 cn, all 0xA2A lo, all 0xA31 cn, all 0xA32 lo, all 0xA34 cn, all 0xA35 lo]

def runsFrom0A37 : List Run :=
  [all 0xA37 cn, all 0xA38 lo, all 0xA3A cn, all 0xA3C mn, all 0xA3D cn, all 0xA3E mc,
   all 0xA41 mn, all 0xA43 cn, all 0xA47 mn, all 0xA49 cn, all 0xA4B mn, all 0xA4E cn,
   all 0xA51 mn, all 0xA52 cn, all 0xA59 lo, all 0xA5D cn, all 0xA5E lo, all 0xA5F cn,
   all 0xA66 nd, all 0xA70 mn, all 0xA72 lo, all 0xA75 mn, all 0xA76 po, all 0xA77 cn,
   all 0xA81 mn, all 0xA83 mc, all 0xA84 cn, all 0xA85 lo, all 0xA8E cn, all 0xA8F lo,
   all 0xA92 cn, all 0xA93 lo, all 0xAA9 cn, all 0xAAA lo, all 0xAB1 cn, all 0xAB2 lo,
   all 0xAB4 cn, all 0xAB5 lo, all 0xABA cn, all 0xABC mn, all 0xABD lo, all 0xABE mc,
   all 0xAC1 mn, all 0xAC6 cn, all 0xAC7 mn, all 0xAC9 mc, all 0xACA cn, all 0xACB mc,
   all 0xACD mn, all 0xACE cn, all 0xAD0 lo, all 0xAD1 cn, all 0xAE0 lo, all 0xAE2 mn,
   all 0xAE4 cn, all 0xAE6 nd, all 0xAF0 po, all 0xAF1 sc, all 0xAF2 cn, all 0xAF9 lo,
   all 0xAFA mn, all 0xB00 cn, all 0xB01 mn, all 0xB02 mc, all 0xB04 cn, all 0xB05 lo,
   all 0xB0D cn, all 0xB0F lo, all 0xB11 cn, all 0xB13 lo, all 0xB29 cn, all 0xB2A lo,
   all 0xB31 cn, all 0xB32 lo, all 0xB34 cn, all 0xB35 lo, all 0xB3A cn, all 0xB3C mn,
   all 0xB3D lo, all 0xB3E mc, all 0xB3F mn, all 0xB40 mc, all 0xB41 mn, all 0xB45 cn,
   all 0xB47 mc, all 0xB49 cn, all 0xB4B mc, all 0xB4D mn, all 0xB4E cn, all 0xB55 mn,
   all 0xB57 mc, all 0xB58 cn, all 0xB5C lo, all 0xB5E cn, all 0xB5F lo, all 0xB62 mn]

def runsFrom0B64 : List Run :=
  [all 0xB64 cn, all 0xB66 nd, all 0xB70 so, all 0xB71 lo, all 0xB72 no, all 0xB78 cn,
   all 0xB82 mn, all 0xB83 lo, all 0xB84 cn, all 0xB85 lo, all 0xB8B cn, all 0xB8E lo,
   all 0xB91 cn, all 0xB92 lo, all 0xB96 cn, all 0xB99 lo, all 0xB9B cn, all 0xB9C lo,
   all 0xB9D cn, all 0xB9E lo, all 0xBA0 cn, all 0xBA3 lo, all 0xBA5 cn, all 0xBA8 lo,
   all 0xBAB cn, all 0xBAE lo, all 0xBBA cn, all 0xBBE mc, all 0xBC0 mn, all 0xBC1 mc,
   all 0xBC3 cn, all 0xBC6 mc, all 0xBC9 cn, all 0xBCA mc, all 0xBCD mn, all 0xBCE cn,
   all 0xBD0 lo, all 0xBD1 cn, all 0xBD7 mc, all 0xBD8 cn, all 0xBE6 nd, all 0xBF0 no,
   all 0xBF3 so, all 0xBF9 sc, all 0xBFA so, all 0xBFB cn, all 0xC00 mn, all 0xC01 mc,
   all 0xC04 mn, all 0xC05 lo, all 0xC0D cn, all 0xC0E lo, all 0xC11 cn, all 0xC12 lo,
   all 0xC29 cn, all 0xC2A lo, all 0xC3A cn, all 0xC3C mn, all 0xC3D lo, all 0xC3E mn,
   all 0xC41 mc, all 0xC45 cn, all 0xC46 mn, all 0xC49 cn, all 0xC4A mn, all 0xC4E cn,
   all 0xC55 mn, all 0xC57 cn, all 0xC58 lo, all 0xC5B cn, all 0xC5D lo, all 0xC5E cn,
   all 0xC60 lo, all 0xC62 mn, all 0xC64 cn, all 0xC66 nd, all 0xC70 cn, all 0xC77 po,
   all 0xC78 no, all 0xC7F so, all 0xC80 lo, all 0xC81 mn, all 0xC82 mc, all 0xC84 po,
   all 0xC85 lo, all 0xC8D cn, all 0xC8E lo, all 0xC91 cn, all 0xC92 lo, all 0xCA9 cn,
   all 0xCAA lo, all 0xCB4 cn, all 0xCB5 lo, all 0xCBA cn, all 0xCBC mn, all 0xCBD lo]

def runsFrom0CBE : List Run :=
  [all 0xCBE mc, all 0xCBF mn, all 0xCC0 mc, all 0xCC5 cn, all 0xCC6 mn, all 0xCC7 mc,
   all 0xCC9 cn, all 0xCCA mc, all 0xCCC mn, all 0xCCE cn, all 0xCD5 mc, all 0xCD7 cn,
   all 0xCDD lo, all 0xCDF cn, all 0xCE0 lo, all 0xCE2 mn, all 0xCE4 cn, all 0xCE6 nd,
   all 0xCF0 cn, all 0xCF1 lo, all 0xCF3 mc, all 0xCF4 cn, all 0xD00 mn, all 0xD02 mc,
   all 0xD04 lo, all 0xD0D cn, all 0xD0E lo, all 0xD11 cn, all 0xD12 lo, all 0xD3B mn,
   all 0xD3D lo, all 0xD3E mc, all 0xD41 mn, all 0xD45 cn, all 0xD46 mc, all 0xD49 cn,
   all 0xD4A mc, all 0xD4D mn, all 0xD4E lo, all 0xD4F so, all 0xD50 cn, all 0xD54 lo,
   all 0xD57 mc, all 0xD58 no, all 0xD5F lo, all 0xD62 mn, all 0xD64 cn, all 0xD66 nd,
   all 0xD70 no, all 0xD79 so, all 0xD7A lo, all 0xD80 cn, all 0xD81 mn, all 0xD82 mc,
   all 0xD84 cn, all 0xD85 lo, all 0xD97 cn, all 0xD9A lo, all 0xDB2 cn, all 0xDB3 lo,
   all 0xDBC cn, all 0xDBD lo, all 0xDBE cn, all 0xDC0 lo, all 0xDC7 cn, all 0xDCA mn,
   all 0xDCB cn, all 0xDCF mc, all 0xDD2 mn, all 0xDD5 cn, all 0xDD6 mn, all 0xDD7 cn,
   all 0xDD8 mc, all 0xDE0 cn, all 0xDE6 nd, all 0xDF0 cn, all 0xDF2 mc, all 0xDF4 po,
   all 0xDF5 cn, all 0xE01 lo, all 0xE31 mn, all 0xE32 lo, all 0xE34 mn, all 0xE3B cn,
   all 0xE3F sc, all 0xE40 lo, all 0xE46 lm, all 0xE47 mn, all 0xE4F po, all 0xE50 nd,
   all 0xE5A po, all 0xE5C cn, all 0xE81 lo, all 0xE83 cn, all 0xE84 lo, all 0xE85 cn]

def runsFrom0E86 : List Run :=
  [all 0xE86 lo, all 0xE8B cn, all 0xE8C lo, all 0xEA4 cn, all 0xEA5 lo, all 0xEA6 cn,
   all 0xEA7 lo, all 0xEB1 mn, all 0xEB2 lo, all 0xEB4 mn, all 0xEBD lo, all 0xEBE cn,
   all 0xEC0 lo, all 0xEC5 cn, all 0xEC6 lm, all 0xEC7 cn, all 0xEC8 mn, all 0xECF cn,
   all 0xED0 nd, all 0xEDA cn, all 0xEDC lo, all 0xEE0 cn, all 0xF00 lo, all 0xF01 so,
   all 0xF04 po, all 0xF13 so, all 0xF14 po, all 0xF15 so, all 0xF18 mn, all 0xF1A so,
   all 0xF20 nd, all 0xF2A no, alternating 0xF34 so mn, alternating 0xF3A ps pe, all 0xF3E mc,
   all 0xF40 lo, all 0xF48 cn, all 0xF49 lo, all 0xF6D cn, all 0xF71 mn, all 0xF7F mc,
   all 0xF80 mn, all 0xF85 po, all 0xF86 mn, all 0xF88 lo, all 0xF8D mn, all 0xF98 cn,
   all 0xF99 mn, all 0xFBD cn, all 0xFBE so, all 0xFC6 mn, all 0xFC7 so, all 0xFCD cn,
   all 0xFCE so, all 0xFD0 po, all 0xFD5 so, all 0xFD9 po, all 0xFDB cn, all 0x1000 lo,
   all 0x102B mc, all 0x102D mn, all 0x1031 mc, all 0x1032 mn, all 0x1038 mc, all 0x1039 mn,
   all 0x103B mc, all 0x103D mn, all 0x103F lo, all 0x1040 nd, all 0x104A po, all 0x1050 lo,
   all 0x1056 mc, all 0x1058 mn, all 0x105A lo, all 0x105E mn, all 0x1061 lo, all 0x1062 mc,
   all 0x1065 lo, all 0x1067 mc, all 0x106E lo, all 0x1071 mn, all 0x1075 lo, all 0x1082 mn,
   all 0x1083 mc, all 0x1085 mn, all 0x1087 mc, all 0x108D mn, all 0x108E lo, all 0x108F mc,
   all 0x1090 nd, all 0x109A mc, all 0x109D mn, all 0x109E so, all 0x10A0 lu, all 0x10C6 cn,
   all 0x10C7 lu]

def runsFrom10C8 : List Run :=
  [all 0x10C8 cn, all 0x10CD lu, all 0x10CE cn, all 0x10D0 ll, all 0x10FB po, all 0x10FC lm,
   all 0x10FD ll, all 0x1100 lo, all 0x1249 cn, all 0x124A lo, all 0x124E cn, all 0x1250 lo,
   all 0x1257 cn, all 0x1258 lo, all 0x1259 cn, all 0x125A lo, all 0x125E cn, all 0x1260 lo,
   all 0x1289 cn, all 0x128A lo, all 0x128E cn, all 0x1290 lo, all 0x12B1 cn, all 0x12B2 lo,
   all 0x12B6 cn, all 0x12B8 lo, all 0x12BF cn, all 0x12C0 lo, all 0x12C1 cn, all 0x12C2 lo,
   all 0x12C6 cn, all 0x12C8 lo, all 0x12D7 cn, all 0x12D8 lo, all 0x1311 cn, all 0x1312 lo,
   all 0x1316 cn, all 0x1318 lo, all 0x135B cn, all 0x135D mn, all 0x1360 po, all 0x1369 no,
   all 0x137D cn, all 0x1380 lo, all 0x1390 so, all 0x139A cn, all 0x13A0 lu, all 0x13F6 cn,
   all 0x13F8 ll, all 0x13FE cn, all 0x1400 pd, all 0x1401 lo, all 0x166D so, all 0x166E po,
   all 0x166F lo, all 0x1680 zs, all 0x1681 lo, all 0x169B ps, all 0x169C pe, all 0x169D cn,
   all 0x16A0 lo, all 0x16EB po, all 0x16EE nl, all 0x16F1 lo, all 0x16F9 cn, all 0x1700 lo,
   all 0x1712 mn, all 0x1715 mc, all 0x1716 cn, all 0x171F lo, all 0x1732 mn, all 0x1734 mc,
   all 0x1735 po, all 0x1737 cn, all 0x1740 lo, all 0x1752 mn, all 0x1754 cn, all 0x1760 lo,
   all 0x176D cn, all 0x176E lo, all 0x1771 cn, all 0x1772 mn, all 0x1774 cn, all 0x1780 lo,
   all 0x17B4 mn, all 0x17B6 mc, all 0x17B7 mn, all 0x17BE mc, all 0x17C6 mn, all 0x17C7 mc,
   all 0x17C9 mn, all 0x17D4 po, all 0x17D7 lm, all 0x17D8 po, all 0x17DB sc, all 0x17DC lo]

def runsFrom17DD : List Run :=
  [all 0x17DD mn, all 0x17DE cn, all 0x17E0 nd, all 0x17EA cn, all 0x17F0 no, all 0x17FA cn,
   all 0x1800 po, all 0x1806 pd, all 0x1807 po, all 0x180B mn, all 0x180E cf, all 0x180F mn,
   all 0x1810 nd, all 0x181A cn, all 0x1820 lo, all 0x1843 lm, all 0x1844 lo, all 0x1879 cn,
   all 0x1880 lo, all 0x1885 mn, all 0x1887 lo, all 0x18A9 mn, all 0x18AA lo, all 0x18AB cn,
   all 0x18B0 lo, all 0x18F6 cn, all 0x1900 lo, all 0x191F cn, all 0x1920 mn, all 0x1923 mc,
   all 0x1927 mn, all 0x1929 mc, all 0x192C cn, all 0x1930 mc, all 0x1932 mn, all 0x1933 mc,
   all 0x1939 mn, all 0x193C cn, all 0x1940 so, all 0x1941 cn, all 0x1944 po, all 0x1946 nd,
   all 0x1950 lo, all 0x196E cn, all 0x1970 lo, all 0x1975 cn, all 0x1980 lo, all 0x19AC cn,
   all 0x19B0 lo, all 0x19CA cn, all 0x19D0 nd, all 0x19DA no, all 0x19DB cn, all 0x19DE so,
   all 0x1A00 lo, all 0x1A17 mn, all 0x1A19 mc, all 0x1A1B mn, all 0x1A1C cn, all 0x1A1E po,
   all 0x1A20 lo, all 0x1A55 mc, all 0x1A56 mn, all 0x1A57 mc, all 0x1A58 mn, all 0x1A5F cn,
   all 0x1A60 mn, all 0x1A61 mc, all 0x1A62 mn, all 0x1A63 mc, all 0x1A65 mn, all 0x1A6D mc,
   all 0x1A73 mn, all 0x1A7D cn, all 0x1A7F mn, all 0x1A80 nd, all 0x1A8A cn, all 0x1A90 nd,
   all 0x1A9A cn, all 0x1AA0 po, all 0x1AA7 lm, all 0x1AA8 po, all 0x1AAE cn, all 0x1AB0 mn,
   all 0x1ABE me, all 0x1ABF mn, all 0x1ACF cn, all 0x1B00 mn, all 0x1B04 mc, all 0x1B05 lo,
   all 0x1B34 mn, all 0x1B35 mc, all 0x1B36 mn, all 0x1B3B mc, all 0x1B3C mn, all 0x1B3D mc]

def runsFrom1B42 : List Run :=
  [all 0x1B42 mn, all 0x1B43 mc, all 0x1B45 lo, all 0x1B4D cn, all 0x1B4E po, all 0x1B50 nd,
   all 0x1B5A po, all 0x1B61 so, all 0x1B6B mn, all 0x1B74 so, all 0x1B7D po, all 0x1B80 mn,
   all 0x1B82 mc, all 0x1B83 lo, all 0x1BA1 mc, all 0x1BA2 mn, all 0x1BA6 mc, all 0x1BA8 mn,
   all 0x1BAA mc, all 0x1BAB mn, all 0x1BAE lo, all 0x1BB0 nd, all 0x1BBA lo, all 0x1BE6 mn,
   all 0x1BE7 mc, all 0x1BE8 mn, all 0x1BEA mc, all 0x1BED mn, all 0x1BEE mc, all 0x1BEF mn,
   all 0x1BF2 mc, all 0x1BF4 cn, all 0x1BFC po, all 0x1C00 lo, all 0x1C24 mc, all 0x1C2C mn,
   all 0x1C34 mc, all 0x1C36 mn, all 0x1C38 cn, all 0x1C3B po, all 0x1C40 nd, all 0x1C4A cn,
   all 0x1C4D lo, all 0x1C50 nd, all 0x1C5A lo, all 0x1C78 lm, all 0x1C7E po, all 0x1C80 ll,
   all 0x1C89 lu, all 0x1C8A ll, all 0x1C8B cn, all 0x1C90 lu, all 0x1CBB cn, all 0x1CBD lu,
   all 0x1CC0 po, all 0x1CC8 cn, all 0x1CD0 mn, all 0x1CD3 po, all 0x1CD4 mn, all 0x1CE1 mc,
   all 0x1CE2 mn, all 0x1CE9 lo, all 0x1CED mn, all 0x1CEE lo, all 0x1CF4 mn, all 0x1CF5 lo,
   all 0x1CF7 mc, all 0x1CF8 mn, all 0x1CFA lo, all 0x1CFB cn, all 0x1D00 ll, all 0x1D2C lm,
   all 0x1D6B ll, all 0x1D78 lm, all 0x1D79 ll, all 0x1D9B lm, all 0x1DC0 mn,
   alternating 0x1E00 lu ll, all 0x1E95 ll, alternating 0x1E9E lu ll, all 0x1EFF ll, all 0x1F08 lu,
   all 0x1F10 ll, all 0x1F16 cn, all 0x1F18 lu, all 0x1F1E cn, all 0x1F20 ll, all 0x1F28 lu,
   all 0x1F30 ll, all 0x1F38 lu, all 0x1F40 ll, all 0x1F46 cn, all 0x1F48 lu, all 0x1F4E cn,
   all 0x1F50 ll, alternating 0x1F58 cn lu]

def runsFrom1F60 : List Run :=
  [all 0x1F60 ll, all 0x1F68 lu, all 0x1F70 ll, all 0x1F7E cn, all 0x1F80 ll, all 0x1F88 lt,
   all 0x1F90 ll, all 0x1F98 lt, all 0x1FA0 ll, all 0x1FA8 lt, all 0x1FB0 ll, all 0x1FB5 cn,
   all 0x1FB6 ll, all 0x1FB8 lu, all 0x1FBC lt, all 0x1FBD sk, all 0x1FBE ll, all 0x1FBF sk,
   all 0x1FC2 ll, all 0x1FC5 cn, all 0x1FC6 ll, all 0x1FC8 lu, all 0x1FCC lt, all 0x1FCD sk,
   all 0x1FD0 ll, all 0x1FD4 cn, all 0x1FD6 ll, all 0x1FD8 lu, all 0x1FDC cn, all 0x1FDD sk,
   all 0x1FE0 ll, all 0x1FE8 lu, all 0x1FED sk, all 0x1FF0 cn, all 0x1FF2 ll, all 0x1FF5 cn,
   all 0x1FF6 ll, all 0x1FF8 lu, all 0x1FFC lt, all 0x1FFD sk, all 0x1FFF cn, all 0x2000 zs,
   all 0x200B cf, all 0x2010 pd, all 0x2016 po, all 0x2018 pi, all 0x2019 pf, all 0x201A ps,
   all 0x201B pi, all 0x201D pf, all 0x201E ps, all 0x201F pi, all 0x2020 po, all 0x2028 zl,
   all 0x2029 zp, all 0x202A cf, all 0x202F zs, all 0x2030 po, all 0x2039 pi, all 0x203A pf,
   all 0x203B po, all 0x203F pc, all 0x2041 po, all 0x2044 sm, all 0x2045 ps, all 0x2046 pe,
   all 0x2047 po, all 0x2052 sm, all 0x2053 po, all 0x2054 pc, all 0x2055 po, all 0x205F zs,
   all 0x2060 cf, all 0x2065 cn, all 0x2066 cf, all 0x2070 no, all 0x2071 lm, all 0x2072 cn,
   all 0x2074 no, all 0x207A sm, all 0x207D ps, all 0x207E pe, all 0x207F lm, all 0x2080 no,
   all 0x208A sm, all 0x208D ps, all 0x208E pe, all 0x208F cn, all 0x2090 lm, all 0x209D cn,
   all 0x20A0 sc, all 0x20C1 cn, all 0x20D0 mn, all 0x20DD me, all 0x20E1 mn, all 0x20E2 me]

def runsFrom20E5 : List Run :=
  [all 0x20E5 mn, all 0x20F1 cn, all 0x2100 so, all 0x2102 lu, all 0x2103 so, all 0x2107 lu,
   all 0x2108 so, all 0x210A ll, all 0x210B lu, all 0x210E ll, all 0x2110 lu, all 0x2113 ll,
   all 0x2114 so, all 0x2115 lu, all 0x2116 so, all 0x2118 sm, all 0x2119 lu, all 0x211E so,
   alternating 0x2124 lu so, all 0x212A lu, all 0x212E so, all 0x212F ll, all 0x2130 lu,
   all 0x2134 ll, all 0x2135 lo, all 0x2139 ll, all 0x213A so, all 0x213C ll, all 0x213E lu,
   all 0x2140 sm, all 0x2145 lu, all 0x2146 ll, all 0x214A so, all 0x214B sm, all 0x214C so,
   all 0x214E ll, all 0x214F so, all 0x2150 no, all 0x2160 nl, all 0x2183 lu, all 0x2184 ll,
   all 0x2185 nl, all 0x2189 no, all 0x218A so, all 0x218C cn, all 0x2190 sm, all 0x2195 so,
   all 0x219A sm, all 0x219C so, all 0x21A0 sm, all 0x21A1 so, all 0x21A3 sm, all 0x21A4 so,
   all 0x21A6 sm, all 0x21A7 so, all 0x21AE sm, all 0x21AF so, all 0x21CE sm, all 0x21D0 so,
   all 0x21D2 sm, all 0x21D3 so, all 0x21D4 sm, all 0x21D5 so, all 0x21F4 sm, all 0x2300 so,
   alternating 0x2308 ps pe, all 0x230C so, all 0x2320 sm, all 0x2322 so, all 0x2329 ps,
   all 0x232A pe, all 0x232B so, all 0x237C sm, all 0x237D so, all 0x239B sm, all 0x23B4 so,
   all 0x23DC sm, all 0x23E2 so, all 0x242A cn, all 0x2440 so, all 0x244B cn, all 0x2460 no,
   all 0x249C so, all 0x24EA no, all 0x2500 so, all 0x25B7 sm, all 0x25B8 so, all 0x25C1 sm,
   all 0x25C2 so, all 0x25F8 sm, all 0x2600 so, all 0x266F sm, all 0x2670 so,
   alternating 0x2768 ps pe, all 0x2776 no, all 0x2794 so]

def runsFrom27C0 : List Run :=
  [all 0x27C0 sm, all 0x27C5 ps, all 0x27C6 pe, all 0x27C7 sm, alternating 0x27E6 ps pe,
   all 0x27F0 sm, all 0x2800 so, all 0x2900 sm, alternating 0x2983 ps pe, all 0x2999 sm,
   alternating 0x29D8 ps pe, all 0x29DC sm, all 0x29FC ps, all 0x29FD pe, all 0x29FE sm,
   all 0x2B00 so, all 0x2B30 sm, all 0x2B45 so, all 0x2B47 sm, all 0x2B4D so, all 0x2B74 cn,
   all 0x2B76 so, all 0x2B96 cn, all 0x2B97 so, all 0x2C00 lu, all 0x2C30 ll, all 0x2C60 lu,
   all 0x2C61 ll, all 0x2C62 lu, all 0x2C65 ll, alternating 0x2C67 lu ll, all 0x2C6D lu,
   all 0x2C71 ll, all 0x2C72 lu, all 0x2C73 ll, all 0x2C75 lu, all 0x2C76 ll, all 0x2C7C lm,
   all 0x2C7E lu, alternating 0x2C81 ll lu, all 0x2CE3 ll, all 0x2CE5 so, alternating 0x2CEB lu ll,
   all 0x2CEF mn, all 0x2CF2 lu, all 0x2CF3 ll, all 0x2CF4 cn, all 0x2CF9 po, all 0x2CFD no,
   all 0x2CFE po, all 0x2D00 ll, all 0x2D26 cn, all 0x2D27 ll, all 0x2D28 cn, all 0x2D2D ll,
   all 0x2D2E cn, all 0x2D30 lo, all 0x2D68 cn, all 0x2D6F lm, all 0x2D70 po, all 0x2D71 cn,
   all 0x2D7F mn, all 0x2D80 lo, all 0x2D97 cn, all 0x2DA0 lo, all 0x2DA7 cn, all 0x2DA8 lo,
   all 0x2DAF cn, all 0x2DB0 lo, all 0x2DB7 cn, all 0x2DB8 lo, all 0x2DBF cn, all 0x2DC0 lo,
   all 0x2DC7 cn, all 0x2DC8 lo, all 0x2DCF cn, all 0x2DD0 lo, all 0x2DD7 cn, all 0x2DD8 lo,
   all 0x2DDF cn, all 0x2DE0 mn, all 0x2E00 po, alternating 0x2E02 pi pf, all 0x2E06 po,
   all 0x2E09 pi, all 0x2E0A pf, all 0x2E0B po, all 0x2E0C pi, all 0x2E0D pf, all 0x2E0E po,
   all 0x2E17 pd, all 0x2E18 po, all 0x2E1A pd, all 0x2E1B po, all 0x2E1C pi, all 0x2E1D pf]

def runsFrom2E1E : List Run :=
  [all 0x2E1E po, all 0x2E20 pi, all 0x2E21 pf, alternating 0x2E22 ps pe, all 0x2E2A po,
   all 0x2E2F lm, all 0x2E30 po, all 0x2E3A pd, all 0x2E3C po, all 0x2E40 pd, all 0x2E41 po,
   all 0x2E42 ps, all 0x2E43 po, all 0x2E50 so, all 0x2E52 po, alternating 0x2E55 ps pe,
   all 0x2E5D pd, all 0x2E5E cn, all 0x2E80 so, all 0x2E9A cn, all 0x2E9B so, all 0x2EF4 cn,
   all 0x2F00 so, all 0x2FD6 cn, all 0x2FF0 so, all 0x3000 zs, all 0x3001 po, all 0x3004 so,
   all 0x3005 lm, all 0x3006 lo, all 0x3007 nl, alternating 0x3008 ps pe, all 0x3012 so,
   alternating 0x3014 ps pe, all 0x301C pd, all 0x301D ps, all 0x301E pe, all 0x3020 so,
   all 0x3021 nl, all 0x302A mn, all 0x302E mc, all 0x3030 pd, all 0x3031 lm, all 0x3036 so,
   all 0x3038 nl, all 0x303B lm, all 0x303C lo, all 0x303D po, all 0x303E so, all 0x3040 cn,
   all 0x3041 lo, all 0x3097 cn, all 0x3099 mn, all 0x309B sk, all 0x309D lm, all 0x309F lo,
   all 0x30A0 pd, all 0x30A1 lo, all 0x30FB po, all 0x30FC lm, all 0x30FF lo, all 0x3100 cn,
   all 0x3105 lo, all 0x3130 cn, all 0x3131 lo, all 0x318F cn, all 0x3190 so, all 0x3192 no,
   all 0x3196 so, all 0x31A0 lo, all 0x31C0 so, all 0x31E6 cn, all 0x31EF so, all 0x31F0 lo,
   all 0x3200 so, all 0x321F cn, all 0x3220 no, all 0x322A so, all 0x3248 no, all 0x3250 so,
   all 0x3251 no, all 0x3260 so, all 0x3280 no, all 0x328A so, all 0x32B1 no, all 0x32C0 so,
   all 0x3400 lo, all 0x4DC0 so, all 0x4E00 lo, all 0xA015 lm, all 0xA016 lo, all 0xA48D cn,
   all 0xA490 so, all 0xA4C7 cn, all 0xA4D0 lo, all 0xA4F8 lm]

def runsFromA4FE : List Run :=
  [all 0xA4FE po, all 0xA500 lo, all 0xA60C lm, all 0xA60D po, all 0xA610 lo, all 0xA620 nd,
   all 0xA62A lo, all 0xA62C cn, alternating 0xA640 lu ll, all 0xA66E lo, all 0xA66F mn,
   all 0xA670 me, all 0xA673 po, all 0xA674 mn, all 0xA67E po, all 0xA67F lm,
   alternating 0xA680 lu ll, all 0xA69C lm, all 0xA69E mn, all 0xA6A0 lo, all 0xA6E6 nl,
   all 0xA6F0 mn, all 0xA6F2 po, all 0xA6F8 cn, all 0xA700 sk, all 0xA717 lm, all 0xA720 sk,
   alternating 0xA722 lu ll, all 0xA72F ll, alternating 0xA732 lu ll, all 0xA770 lm, all 0xA771 ll,
   alternating 0xA779 lu ll, all 0xA77D lu, alternating 0xA77F ll lu, all 0xA788 lm, all 0xA789 sk,
   alternating 0xA78B lu ll, all 0xA78F lo, all 0xA790 lu, all 0xA791 ll, all 0xA792 lu,
   all 0xA793 ll, alternating 0xA796 lu ll, all 0xA7AA lu, all 0xA7AF ll, all 0xA7B0 lu,
   alternating 0xA7B5 ll lu, all 0xA7C4 lu, all 0xA7C8 ll, all 0xA7C9 lu, all 0xA7CA ll,
   all 0xA7CB lu, all 0xA7CD ll, all 0xA7CE cn, all 0xA7D0 lu, alternating 0xA7D1 ll cn,
   alternating 0xA7D6 lu ll, all 0xA7DD cn, all 0xA7F2 lm, all 0xA7F5 lu, all 0xA7F6 ll,
   all 0xA7F7 lo, all 0xA7F8 lm, all 0xA7FA ll, all 0xA7FB lo, all 0xA802 mn, all 0xA803 lo,
   all 0xA806 mn, all 0xA807 lo, all 0xA80B mn, all 0xA80C lo, all 0xA823 mc, all 0xA825 mn,
   all 0xA827 mc, all 0xA828 so, all 0xA82C mn, all 0xA82D cn, all 0xA830 no, all 0xA836 so,
   all 0xA838 sc, all 0xA839 so, all 0xA83A cn, all 0xA840 lo, all 0xA874 po, all 0xA878 cn,
   all 0xA880 mc, all 0xA882 lo, all 0xA8B4 mc, all 0xA8C4 mn, all 0xA8C6 cn, all 0xA8CE po,
   all 0xA8D0 nd, all 0xA8DA cn, all 0xA8E0 mn, all 0xA8F2 lo]

end GoScan.Unicode
