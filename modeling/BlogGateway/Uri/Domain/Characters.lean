/-
What becomes of each character of a domain.

Some characters may not stand in a domain at all, some are dropped, some stand for others and
the rest are themselves.  Of those that stand for others only the ones that bring in ASCII
characters matter here, since only those can make a number, a forbidden character or an
encoded label.  The ranges are those of Unicode 15.1.
-/
import BlogGateway.Text.Ranges

namespace BlogGateway.Uri

/-- Closed ranges of the characters that no domain may hold. -/
def forbiddenRanges : Array (Nat × Nat) := #[
   (0x80, 0x9F), (0x378, 0x379), (0x380, 0x383), (0x38B, 0x38B), (0x38D, 0x38D), (0x3A2, 0x3A2),
   (0x4C0, 0x4C0), (0x530, 0x530), (0x557, 0x558), (0x58B, 0x58C), (0x590, 0x590), (0x5C8, 0x5CF),
   (0x5EB, 0x5EE), (0x5F5, 0x605), (0x61C, 0x61C), (0x6DD, 0x6DD), (0x70E, 0x70F), (0x74B, 0x74C),
   (0x7B2, 0x7BF), (0x7FB, 0x7FC), (0x82E, 0x82F), (0x83F, 0x83F), (0x85C, 0x85D), (0x85F, 0x85F),
   (0x86B, 0x86F), (0x88F, 0x897), (0x8E2, 0x8E2), (0x984, 0x984), (0x98D, 0x98E), (0x991, 0x992),
   (0x9A9, 0x9A9), (0x9B1, 0x9B1), (0x9B3, 0x9B5), (0x9BA, 0x9BB), (0x9C5, 0x9C6), (0x9C9, 0x9CA),
   (0x9CF, 0x9D6), (0x9D8, 0x9DB), (0x9DE, 0x9DE), (0x9E4, 0x9E5), (0x9FF, 0xA00), (0xA04, 0xA04),
   (0xA0B, 0xA0E), (0xA11, 0xA12), (0xA29, 0xA29), (0xA31, 0xA31), (0xA34, 0xA34), (0xA37, 0xA37),
   (0xA3A, 0xA3B), (0xA3D, 0xA3D), (0xA43, 0xA46), (0xA49, 0xA4A), (0xA4E, 0xA50), (0xA52, 0xA58),
   (0xA5D, 0xA5D), (0xA5F, 0xA65), (0xA77, 0xA80), (0xA84, 0xA84), (0xA8E, 0xA8E), (0xA92, 0xA92),
   (0xAA9, 0xAA9), (0xAB1, 0xAB1), (0xAB4, 0xAB4), (0xABA, 0xABB), (0xAC6, 0xAC6), (0xACA, 0xACA),
   (0xACE, 0xACF), (0xAD1, 0xADF), (0xAE4, 0xAE5), (0xAF2, 0xAF8), (0xB00, 0xB00), (0xB04, 0xB04),
   (0xB0D, 0xB0E), (0xB11, 0xB12), (0xB29, 0xB29), (0xB31, 0xB31), (0xB34, 0xB34), (0xB3A, 0xB3B),
   (0xB45, 0xB46), (0xB49, 0xB4A), (0xB4E, 0xB54), (0xB58, 0xB5B), (0xB5E, 0xB5E), (0xB64, 0xB65),
   (0xB78, 0xB81), (0xB84, 0xB84), (0xB8B, 0xB8D), (0xB91, 0xB91), (0xB96, 0xB98), (0xB9B, 0xB9B),
   (0xB9D, 0xB9D), (0xBA0, 0xBA2), (0xBA5, 0xBA7), (0xBAB, 0xBAD), (0xBBA, 0xBBD), (0xBC3, 0xBC5),
   (0xBC9, 0xBC9), (0xBCE, 0xBCF), (0xBD1, 0xBD6), (0xBD8, 0xBE5), (0xBFB, 0xBFF), (0xC0D, 0xC0D),
   (0xC11, 0xC11), (0xC29, 0xC29), (0xC3A, 0xC3B), (0xC45, 0xC45), (0xC49, 0xC49), (0xC4E, 0xC54),
   (0xC57, 0xC57), (0xC5B, 0xC5C), (0xC5E, 0xC5F), (0xC64, 0xC65), (0xC70, 0xC76), (0xC8D, 0xC8D),
   (0xC91, 0xC91), (0xCA9, 0xCA9), (0xCB4, 0xCB4), (0xCBA, 0xCBB), (0xCC5, 0xCC5), (0xCC9, 0xCC9),
   (0xCCE, 0xCD4), (0xCD7, 0xCDC), (0xCDF, 0xCDF), (0xCE4, 0xCE5), (0xCF0, 0xCF0), (0xCF4, 0xCFF),
   (0xD0D, 0xD0D), (0xD11, 0xD11), (0xD45, 0xD45), (0xD49, 0xD49), (0xD50, 0xD53), (0xD64, 0xD65),
   (0xD80, 0xD80), (0xD84, 0xD84), (0xD97, 0xD99), (0xDB2, 0xDB2), (0xDBC, 0xDBC), (0xDBE, 0xDBF),
   (0xDC7, 0xDC9), (0xDCB, 0xDCE), (0xDD5, 0xDD5), (0xDD7, 0xDD7), (0xDE0, 0xDE5), (0xDF0, 0xDF1),
   (0xDF5, 0xE00), (0xE3B, 0xE3E), (0xE5C, 0xE80), (0xE83, 0xE83), (0xE85, 0xE85), (0xE8B, 0xE8B),
   (0xEA4, 0xEA4), (0xEA6, 0xEA6), (0xEBE, 0xEBF), (0xEC5, 0xEC5), (0xEC7, 0xEC7), (0xECF, 0xECF),
   (0xEDA, 0xEDB), (0xEE0, 0xEFF), (0xF48, 0xF48), (0xF6D, 0xF70), (0xF98, 0xF98), (0xFBD, 0xFBD),
   (0xFCD, 0xFCD), (0xFDB, 0xFFF), (0x10A0, 0x10C6), (0x10C8, 0x10CC), (0x10CE, 0x10CF),
   (0x115F, 0x1160), (0x1249, 0x1249), (0x124E, 0x124F), (0x1257, 0x1257), (0x1259, 0x1259),
   (0x125E, 0x125F), (0x1289, 0x1289), (0x128E, 0x128F), (0x12B1, 0x12B1), (0x12B6, 0x12B7),
   (0x12BF, 0x12BF), (0x12C1, 0x12C1), (0x12C6, 0x12C7), (0x12D7, 0x12D7), (0x1311, 0x1311),
   (0x1316, 0x1317), (0x135B, 0x135C), (0x137D, 0x137F), (0x139A, 0x139F), (0x13F6, 0x13F7),
   (0x13FE, 0x13FF), (0x1680, 0x1680), (0x169D, 0x169F), (0x16F9, 0x16FF), (0x1716, 0x171E),
   (0x1737, 0x173F), (0x1754, 0x175F), (0x176D, 0x176D), (0x1771, 0x1771), (0x1774, 0x177F),
   (0x17B4, 0x17B5), (0x17DE, 0x17DF), (0x17EA, 0x17EF), (0x17FA, 0x17FF), (0x1806, 0x1806),
   (0x180E, 0x180E), (0x181A, 0x181F), (0x1879, 0x187F), (0x18AB, 0x18AF), (0x18F6, 0x18FF),
   (0x191F, 0x191F), (0x192C, 0x192F), (0x193C, 0x193F), (0x1941, 0x1943), (0x196E, 0x196F),
   (0x1975, 0x197F), (0x19AC, 0x19AF), (0x19CA, 0x19CF), (0x19DB, 0x19DD), (0x1A1C, 0x1A1D),
   (0x1A5F, 0x1A5F), (0x1A7D, 0x1A7E), (0x1A8A, 0x1A8F), (0x1A9A, 0x1A9F), (0x1AAE, 0x1AAF),
   (0x1ACF, 0x1AFF), (0x1B4D, 0x1B4F), (0x1B7F, 0x1B7F), (0x1BF4, 0x1BFB), (0x1C38, 0x1C3A),
   (0x1C4A, 0x1C4C), (0x1C89, 0x1C8F), (0x1CBB, 0x1CBC), (0x1CC8, 0x1CCF), (0x1CFB, 0x1CFF),
   (0x1F16, 0x1F17), (0x1F1E, 0x1F1F), (0x1F46, 0x1F47), (0x1F4E, 0x1F4F), (0x1F58, 0x1F58),
   (0x1F5A, 0x1F5A), (0x1F5C, 0x1F5C), (0x1F5E, 0x1F5E), (0x1F7E, 0x1F7F), (0x1FB5, 0x1FB5),
   (0x1FC5, 0x1FC5), (0x1FD4, 0x1FD5), (0x1FDC, 0x1FDC), (0x1FF0, 0x1FF1), (0x1FF5, 0x1FF5),
   (0x1FFF, 0x1FFF), (0x200E, 0x200F), (0x2024, 0x2026), (0x2028, 0x202E), (0x2061, 0x2063),
   (0x2065, 0x206F), (0x2072, 0x2073), (0x208F, 0x208F), (0x209D, 0x209F), (0x20C1, 0x20CF),
   (0x20F1, 0x20FF), (0x2132, 0x2132), (0x2183, 0x2183), (0x218C, 0x218F), (0x2427, 0x243F),
   (0x244B, 0x245F), (0x2488, 0x249B), (0x2B74, 0x2B75), (0x2B96, 0x2B96), (0x2CF4, 0x2CF8),
   (0x2D26, 0x2D26), (0x2D28, 0x2D2C), (0x2D2E, 0x2D2F), (0x2D68, 0x2D6E), (0x2D71, 0x2D7E),
   (0x2D97, 0x2D9F), (0x2DA7, 0x2DA7), (0x2DAF, 0x2DAF), (0x2DB7, 0x2DB7), (0x2DBF, 0x2DBF),
   (0x2DC7, 0x2DC7), (0x2DCF, 0x2DCF), (0x2DD7, 0x2DD7), (0x2DDF, 0x2DDF), (0x2E5E, 0x2E7F),
   (0x2E9A, 0x2E9A), (0x2EF4, 0x2EFF), (0x2FD6, 0x2FFF), (0x3040, 0x3040), (0x3097, 0x3098),
   (0x3100, 0x3104), (0x3130, 0x3130), (0x3164, 0x3164), (0x318F, 0x318F), (0x31E4, 0x31EF),
   (0x321F, 0x321F), (0x33C2, 0x33C2), (0x33C7, 0x33C7), (0x33D8, 0x33D8), (0xA48D, 0xA48F),
   (0xA4C7, 0xA4CF), (0xA62C, 0xA63F), (0xA6F8, 0xA6FF), (0xA7CB, 0xA7CF), (0xA7D2, 0xA7D2),
   (0xA7D4, 0xA7D4), (0xA7DA, 0xA7F1), (0xA82D, 0xA82F), (0xA83A, 0xA83F), (0xA878, 0xA87F),
   (0xA8C6, 0xA8CD), (0xA8DA, 0xA8DF), (0xA954, 0xA95E), (0xA97D, 0xA97F), (0xA9CE, 0xA9CE),
   (0xA9DA, 0xA9DD), (0xA9FF, 0xA9FF), (0xAA37, 0xAA3F), (0xAA4E, 0xAA4F), (0xAA5A, 0xAA5B),
   (0xAAC3, 0xAADA), (0xAAF7, 0xAB00), (0xAB07, 0xAB08), (0xAB0F, 0xAB10), (0xAB17, 0xAB1F),
   (0xAB27, 0xAB27), (0xAB2F, 0xAB2F), (0xAB6C, 0xAB6F), (0xABEE, 0xABEF), (0xABFA, 0xABFF),
   (0xD7A4, 0xD7AF), (0xD7C7, 0xD7CA), (0xD7FC, 0xF8FF), (0xFA6E, 0xFA6F), (0xFADA, 0xFAFF),
   (0xFB07, 0xFB12), (0xFB18, 0xFB1C), (0xFB37, 0xFB37), (0xFB3D, 0xFB3D), (0xFB3F, 0xFB3F),
   (0xFB42, 0xFB42), (0xFB45, 0xFB45), (0xFBC3, 0xFBD2), (0xFD90, 0xFD91), (0xFDC8, 0xFDCE),
   (0xFDD0, 0xFDEF), (0xFE12, 0xFE12), (0xFE19, 0xFE1F), (0xFE30, 0xFE30), (0xFE52, 0xFE53),
   (0xFE67, 0xFE67), (0xFE6C, 0xFE6F), (0xFE75, 0xFE75), (0xFEFD, 0xFEFE), (0xFF00, 0xFF00),
   (0xFFA0, 0xFFA0), (0xFFBF, 0xFFC1), (0xFFC8, 0xFFC9), (0xFFD0, 0xFFD1), (0xFFD8, 0xFFD9),
   (0xFFDD, 0xFFDF), (0xFFE7, 0xFFE7), (0xFFEF, 0xFFFF), (0x1000C, 0x1000C), (0x10027, 0x10027),
   (0x1003B, 0x1003B), (0x1003E, 0x1003E), (0x1004E, 0x1004F), (0x1005E, 0x1007F),
   (0x100FB, 0x100FF), (0x10103, 0x10106), (0x10134, 0x10136), (0x1018F, 0x1018F),
   (0x1019D, 0x1019F), (0x101A1, 0x101CF), (0x101FE, 0x1027F), (0x1029D, 0x1029F),
   (0x102D1, 0x102DF), (0x102FC, 0x102FF), (0x10324, 0x1032C), (0x1034B, 0x1034F),
   (0x1037B, 0x1037F), (0x1039E, 0x1039E), (0x103C4, 0x103C7), (0x103D6, 0x103FF),
   (0x1049E, 0x1049F), (0x104AA, 0x104AF), (0x104D4, 0x104D7), (0x104FC, 0x104FF),
   (0x10528, 0x1052F), (0x10564, 0x1056E), (0x1057B, 0x1057B), (0x1058B, 0x1058B),
   (0x10593, 0x10593), (0x10596, 0x10596), (0x105A2, 0x105A2), (0x105B2, 0x105B2),
   (0x105BA, 0x105BA), (0x105BD, 0x105FF), (0x10737, 0x1073F), (0x10756, 0x1075F),
   (0x10768, 0x1077F), (0x10786, 0x10786), (0x107B1, 0x107B1), (0x107BB, 0x107FF),
   (0x10806, 0x10807), (0x10809, 0x10809), (0x10836, 0x10836), (0x10839, 0x1083B),
   (0x1083D, 0x1083E), (0x10856, 0x10856), (0x1089F, 0x108A6), (0x108B0, 0x108DF),
   (0x108F3, 0x108F3), (0x108F6, 0x108FA), (0x1091C, 0x1091E), (0x1093A, 0x1093E),
   (0x10940, 0x1097F), (0x109B8, 0x109BB), (0x109D0, 0x109D1), (0x10A04, 0x10A04),
   (0x10A07, 0x10A0B), (0x10A14, 0x10A14), (0x10A18, 0x10A18), (0x10A36, 0x10A37),
   (0x10A3B, 0x10A3E), (0x10A49, 0x10A4F), (0x10A59, 0x10A5F), (0x10AA0, 0x10ABF),
   (0x10AE7, 0x10AEA), (0x10AF7, 0x10AFF), (0x10B36, 0x10B38), (0x10B56, 0x10B57),
   (0x10B73, 0x10B77), (0x10B92, 0x10B98), (0x10B9D, 0x10BA8), (0x10BB0, 0x10BFF),
   (0x10C49, 0x10C7F), (0x10CB3, 0x10CBF), (0x10CF3, 0x10CF9), (0x10D28, 0x10D2F),
   (0x10D3A, 0x10E5F), (0x10E7F, 0x10E7F), (0x10EAA, 0x10EAA), (0x10EAE, 0x10EAF),
   (0x10EB2, 0x10EFC), (0x10F28, 0x10F2F), (0x10F5A, 0x10F6F), (0x10F8A, 0x10FAF),
   (0x10FCC, 0x10FDF), (0x10FF7, 0x10FFF), (0x1104E, 0x11051), (0x11076, 0x1107E),
   (0x110BD, 0x110BD), (0x110C3, 0x110CF), (0x110E9, 0x110EF), (0x110FA, 0x110FF),
   (0x11135, 0x11135), (0x11148, 0x1114F), (0x11177, 0x1117F), (0x111E0, 0x111E0),
   (0x111F5, 0x111FF), (0x11212, 0x11212), (0x11242, 0x1127F), (0x11287, 0x11287),
   (0x11289, 0x11289), (0x1128E, 0x1128E), (0x1129E, 0x1129E), (0x112AA, 0x112AF),
   (0x112EB, 0x112EF), (0x112FA, 0x112FF), (0x11304, 0x11304), (0x1130D, 0x1130E),
   (0x11311, 0x11312), (0x11329, 0x11329), (0x11331, 0x11331), (0x11334, 0x11334),
   (0x1133A, 0x1133A), (0x11345, 0x11346), (0x11349, 0x1134A), (0x1134E, 0x1134F),
   (0x11351, 0x11356), (0x11358, 0x1135C), (0x11364, 0x11365), (0x1136D, 0x1136F),
   (0x11375, 0x113FF), (0x1145C, 0x1145C), (0x11462, 0x1147F), (0x114C8, 0x114CF),
   (0x114DA, 0x1157F), (0x115B6, 0x115B7), (0x115DE, 0x115FF), (0x11645, 0x1164F),
   (0x1165A, 0x1165F), (0x1166D, 0x1167F), (0x116BA, 0x116BF), (0x116CA, 0x116FF),
   (0x1171B, 0x1171C), (0x1172C, 0x1172F), (0x11747, 0x117FF), (0x1183C, 0x1189F),
   (0x118F3, 0x118FE), (0x11907, 0x11908), (0x1190A, 0x1190B), (0x11914, 0x11914),
   (0x11917, 0x11917), (0x11936, 0x11936), (0x11939, 0x1193A), (0x11947, 0x1194F),
   (0x1195A, 0x1199F), (0x119A8, 0x119A9), (0x119D8, 0x119D9), (0x119E5, 0x119FF),
   (0x11A48, 0x11A4F), (0x11AA3, 0x11AAF), (0x11AF9, 0x11AFF), (0x11B0A, 0x11BFF),
   (0x11C09, 0x11C09), (0x11C37, 0x11C37), (0x11C46, 0x11C4F), (0x11C6D, 0x11C6F),
   (0x11C90, 0x11C91), (0x11CA8, 0x11CA8), (0x11CB7, 0x11CFF), (0x11D07, 0x11D07),
   (0x11D0A, 0x11D0A), (0x11D37, 0x11D39), (0x11D3B, 0x11D3B), (0x11D3E, 0x11D3E),
   (0x11D48, 0x11D4F), (0x11D5A, 0x11D5F), (0x11D66, 0x11D66), (0x11D69, 0x11D69),
   (0x11D8F, 0x11D8F), (0x11D92, 0x11D92), (0x11D99, 0x11D9F), (0x11DAA, 0x11EDF),
   (0x11EF9, 0x11EFF), (0x11F11, 0x11F11), (0x11F3B, 0x11F3D), (0x11F5A, 0x11FAF),
   (0x11FB1, 0x11FBF), (0x11FF2, 0x11FFE), (0x1239A, 0x123FF), (0x1246F, 0x1246F),
   (0x12475, 0x1247F), (0x12544, 0x12F8F), (0x12FF3, 0x12FFF), (0x13430, 0x1343F),
   (0x13456, 0x143FF), (0x14647, 0x167FF), (0x16A39, 0x16A3F), (0x16A5F, 0x16A5F),
   (0x16A6A, 0x16A6D), (0x16ABF, 0x16ABF), (0x16ACA, 0x16ACF), (0x16AEE, 0x16AEF),
   (0x16AF6, 0x16AFF), (0x16B46, 0x16B4F), (0x16B5A, 0x16B5A), (0x16B62, 0x16B62),
   (0x16B78, 0x16B7C), (0x16B90, 0x16E3F), (0x16E9B, 0x16EFF), (0x16F4B, 0x16F4E),
   (0x16F88, 0x16F8E), (0x16FA0, 0x16FDF), (0x16FE5, 0x16FEF), (0x16FF2, 0x16FFF),
   (0x187F8, 0x187FF), (0x18CD6, 0x18CFF), (0x18D09, 0x1AFEF), (0x1AFF4, 0x1AFF4),
   (0x1AFFC, 0x1AFFC), (0x1AFFF, 0x1AFFF), (0x1B123, 0x1B131), (0x1B133, 0x1B14F),
   (0x1B153, 0x1B154), (0x1B156, 0x1B163), (0x1B168, 0x1B16F), (0x1B2FC, 0x1BBFF),
   (0x1BC6B, 0x1BC6F), (0x1BC7D, 0x1BC7F), (0x1BC89, 0x1BC8F), (0x1BC9A, 0x1BC9B),
   (0x1BCA4, 0x1CEFF), (0x1CF2E, 0x1CF2F), (0x1CF47, 0x1CF4F), (0x1CFC4, 0x1CFFF),
   (0x1D0F6, 0x1D0FF), (0x1D127, 0x1D128), (0x1D173, 0x1D17A), (0x1D1EB, 0x1D1FF),
   (0x1D246, 0x1D2BF), (0x1D2D4, 0x1D2DF), (0x1D2F4, 0x1D2FF), (0x1D357, 0x1D35F),
   (0x1D379, 0x1D3FF), (0x1D455, 0x1D455), (0x1D49D, 0x1D49D), (0x1D4A0, 0x1D4A1),
   (0x1D4A3, 0x1D4A4), (0x1D4A7, 0x1D4A8), (0x1D4AD, 0x1D4AD), (0x1D4BA, 0x1D4BA),
   (0x1D4BC, 0x1D4BC), (0x1D4C4, 0x1D4C4), (0x1D506, 0x1D506), (0x1D50B, 0x1D50C),
   (0x1D515, 0x1D515), (0x1D51D, 0x1D51D), (0x1D53A, 0x1D53A), (0x1D53F, 0x1D53F),
   (0x1D545, 0x1D545), (0x1D547, 0x1D549), (0x1D551, 0x1D551), (0x1D6A6, 0x1D6A7),
   (0x1D7CC, 0x1D7CD), (0x1DA8C, 0x1DA9A), (0x1DAA0, 0x1DAA0), (0x1DAB0, 0x1DEFF),
   (0x1DF1F, 0x1DF24), (0x1DF2B, 0x1DFFF), (0x1E007, 0x1E007), (0x1E019, 0x1E01A),
   (0x1E022, 0x1E022), (0x1E025, 0x1E025), (0x1E02B, 0x1E02F), (0x1E06E, 0x1E08E),
   (0x1E090, 0x1E0FF), (0x1E12D, 0x1E12F), (0x1E13E, 0x1E13F), (0x1E14A, 0x1E14D),
   (0x1E150, 0x1E28F), (0x1E2AF, 0x1E2BF), (0x1E2FA, 0x1E2FE), (0x1E300, 0x1E4CF),
   (0x1E4FA, 0x1E7DF), (0x1E7E7, 0x1E7E7), (0x1E7EC, 0x1E7EC), (0x1E7EF, 0x1E7EF),
   (0x1E7FF, 0x1E7FF), (0x1E8C5, 0x1E8C6), (0x1E8D7, 0x1E8FF), (0x1E94C, 0x1E94F),
   (0x1E95A, 0x1E95D), (0x1E960, 0x1EC70), (0x1ECB5, 0x1ED00), (0x1ED3E, 0x1EDFF),
   (0x1EE04, 0x1EE04), (0x1EE20, 0x1EE20), (0x1EE23, 0x1EE23), (0x1EE25, 0x1EE26),
   (0x1EE28, 0x1EE28), (0x1EE33, 0x1EE33), (0x1EE38, 0x1EE38), (0x1EE3A, 0x1EE3A),
   (0x1EE3C, 0x1EE41), (0x1EE43, 0x1EE46), (0x1EE48, 0x1EE48), (0x1EE4A, 0x1EE4A),
   (0x1EE4C, 0x1EE4C), (0x1EE50, 0x1EE50), (0x1EE53, 0x1EE53), (0x1EE55, 0x1EE56),
   (0x1EE58, 0x1EE58), (0x1EE5A, 0x1EE5A), (0x1EE5C, 0x1EE5C), (0x1EE5E, 0x1EE5E),
   (0x1EE60, 0x1EE60), (0x1EE63, 0x1EE63), (0x1EE65, 0x1EE66), (0x1EE6B, 0x1EE6B),
   (0x1EE73, 0x1EE73), (0x1EE78, 0x1EE78), (0x1EE7D, 0x1EE7D), (0x1EE7F, 0x1EE7F),
   (0x1EE8A, 0x1EE8A), (0x1EE9C, 0x1EEA0), (0x1EEA4, 0x1EEA4), (0x1EEAA, 0x1EEAA),
   (0x1EEBC, 0x1EEEF), (0x1EEF2, 0x1EFFF), (0x1F02C, 0x1F02F), (0x1F094, 0x1F09F),
   (0x1F0AF, 0x1F0B0), (0x1F0C0, 0x1F0C0), (0x1F0D0, 0x1F0D0), (0x1F0F6, 0x1F100),
   (0x1F1AE, 0x1F1E5), (0x1F203, 0x1F20F), (0x1F23C, 0x1F23F), (0x1F249, 0x1F24F),
   (0x1F252, 0x1F25F), (0x1F266, 0x1F2FF), (0x1F6D8, 0x1F6DB), (0x1F6ED, 0x1F6EF),
   (0x1F6FD, 0x1F6FF), (0x1F777, 0x1F77A), (0x1F7DA, 0x1F7DF), (0x1F7EC, 0x1F7EF),
   (0x1F7F1, 0x1F7FF), (0x1F80C, 0x1F80F), (0x1F848, 0x1F84F), (0x1F85A, 0x1F85F),
   (0x1F888, 0x1F88F), (0x1F8AE, 0x1F8AF), (0x1F8B2, 0x1F8FF), (0x1FA54, 0x1FA5F),
   (0x1FA6E, 0x1FA6F), (0x1FA7D, 0x1FA7F), (0x1FA89, 0x1FA8F), (0x1FABE, 0x1FABE),
   (0x1FAC6, 0x1FACD), (0x1FADC, 0x1FADF), (0x1FAE9, 0x1FAEF), (0x1FAF9, 0x1FAFF),
   (0x1FB93, 0x1FB93), (0x1FBCB, 0x1FBEF), (0x1FBFA, 0x1FFFF), (0x2A6E0, 0x2A6FF),
   (0x2B73A, 0x2B73F), (0x2B81E, 0x2B81F), (0x2CEA2, 0x2CEAF), (0x2EBE1, 0x2EBEF),
   (0x2EE5E, 0x2F7FF), (0x2F868, 0x2F868), (0x2F874, 0x2F874), (0x2F91F, 0x2F91F),
   (0x2F95F, 0x2F95F), (0x2F9BF, 0x2F9BF), (0x2FA1E, 0x2FFFF), (0x3134B, 0x3134F),
   (0x323B0, 0xE00FF), (0xE01F0, 0x10FFFF)]

/-- Closed ranges of the characters that are dropped. -/
def droppedRanges : Array (Nat × Nat) := #[
   (0xAD, 0xAD), (0x34F, 0x34F), (0x180B, 0x180D), (0x180F, 0x180F), (0x200B, 0x200B),
   (0x2060, 0x2060), (0x2064, 0x2064), (0xFE00, 0xFE0F), (0xFEFF, 0xFEFF), (0x1BCA0, 0x1BCA3),
   (0xE0100, 0xE01EF)]

/-- Characters at equal distances: the first, the last and the distance. -/
structure Spread where
  first : Nat
  last : Nat
  step : Nat
  deriving Repr

/-- The characters that stand for others or are dropped. -/
def changedSpreads : Array Spread := #[
   ⟨0x41, 0x5A, 1⟩, ⟨0xA0, 0xA0, 1⟩, ⟨0xA8, 0xA8, 1⟩, ⟨0xAA, 0xAA, 1⟩, ⟨0xAD, 0xAD, 1⟩,
   ⟨0xAF, 0xAF, 1⟩, ⟨0xB2, 0xB5, 1⟩, ⟨0xB8, 0xDE, 2⟩, ⟨0xB9, 0xBA, 1⟩, ⟨0xBD, 0xBE, 1⟩,
   ⟨0xC1, 0xD6, 1⟩, ⟨0xD9, 0xDE, 1⟩, ⟨0x100, 0x136, 2⟩, ⟨0x133, 0x134, 1⟩, ⟨0x139, 0x149, 2⟩,
   ⟨0x140, 0x141, 1⟩, ⟨0x14A, 0x178, 2⟩, ⟨0x179, 0x181, 2⟩, ⟨0x182, 0x186, 2⟩, ⟨0x187, 0x18B, 2⟩,
   ⟨0x18A, 0x18B, 1⟩, ⟨0x18E, 0x191, 1⟩, ⟨0x193, 0x194, 1⟩, ⟨0x196, 0x198, 1⟩, ⟨0x19C, 0x19D, 1⟩,
   ⟨0x19F, 0x1A0, 1⟩, ⟨0x1A2, 0x1A6, 2⟩, ⟨0x1A7, 0x1A7, 1⟩, ⟨0x1A9, 0x1A9, 1⟩, ⟨0x1AC, 0x1AC, 1⟩,
   ⟨0x1AE, 0x1AF, 1⟩, ⟨0x1B1, 0x1B7, 2⟩, ⟨0x1B2, 0x1B3, 1⟩, ⟨0x1B8, 0x1B8, 1⟩, ⟨0x1BC, 0x1BC, 1⟩,
   ⟨0x1C4, 0x1CD, 1⟩, ⟨0x1CF, 0x1DB, 2⟩, ⟨0x1DE, 0x1EE, 2⟩, ⟨0x1F1, 0x1F4, 1⟩, ⟨0x1F6, 0x232, 2⟩,
   ⟨0x1F7, 0x1F8, 1⟩, ⟨0x23A, 0x23B, 1⟩, ⟨0x23D, 0x23E, 1⟩, ⟨0x241, 0x245, 2⟩, ⟨0x244, 0x24E, 2⟩,
   ⟨0x2B0, 0x2B8, 1⟩, ⟨0x2D8, 0x2DD, 1⟩, ⟨0x2E0, 0x2E4, 1⟩, ⟨0x340, 0x341, 1⟩, ⟨0x343, 0x345, 1⟩,
   ⟨0x34F, 0x34F, 1⟩, ⟨0x370, 0x376, 2⟩, ⟨0x37A, 0x37A, 1⟩, ⟨0x37E, 0x38F, 1⟩, ⟨0x391, 0x3AB, 1⟩,
   ⟨0x3CF, 0x3D6, 1⟩, ⟨0x3D8, 0x3F4, 2⟩, ⟨0x3F1, 0x3F2, 1⟩, ⟨0x3F5, 0x3F9, 2⟩, ⟨0x3FA, 0x3FA, 1⟩,
   ⟨0x3FD, 0x42F, 1⟩, ⟨0x460, 0x480, 2⟩, ⟨0x48A, 0x4BE, 2⟩, ⟨0x4C1, 0x4CD, 2⟩, ⟨0x4D0, 0x52E, 2⟩,
   ⟨0x531, 0x556, 1⟩, ⟨0x587, 0x587, 1⟩, ⟨0x675, 0x678, 1⟩, ⟨0x958, 0x95F, 1⟩, ⟨0x9DC, 0x9DF, 1⟩,
   ⟨0xA33, 0xA33, 1⟩, ⟨0xA36, 0xA36, 1⟩, ⟨0xA59, 0xA5B, 1⟩, ⟨0xA5E, 0xA5E, 1⟩, ⟨0xB5C, 0xB5D, 1⟩,
   ⟨0xE33, 0xE33, 1⟩, ⟨0xEB3, 0xEB3, 1⟩, ⟨0xEDC, 0xEDD, 1⟩, ⟨0xF0C, 0xF0C, 1⟩, ⟨0xF43, 0xF43, 1⟩,
   ⟨0xF4D, 0xF4D, 1⟩, ⟨0xF52, 0xF52, 1⟩, ⟨0xF57, 0xF57, 1⟩, ⟨0xF5C, 0xF5C, 1⟩, ⟨0xF69, 0xF69, 1⟩,
   ⟨0xF73, 0xF79, 2⟩, ⟨0xF76, 0xF79, 1⟩, ⟨0xF81, 0xF81, 1⟩, ⟨0xF93, 0xF93, 1⟩, ⟨0xF9D, 0xF9D, 1⟩,
   ⟨0xFA2, 0xFA2, 1⟩, ⟨0xFA7, 0xFA7, 1⟩, ⟨0xFAC, 0xFAC, 1⟩, ⟨0xFB9, 0xFB9, 1⟩,
   ⟨0x10C7, 0x10CD, 1⟩, ⟨0x10FC, 0x10FC, 1⟩, ⟨0x13F8, 0x13FD, 1⟩, ⟨0x180B, 0x180F, 1⟩,
   ⟨0x1C80, 0x1CBF, 1⟩, ⟨0x1D2C, 0x1D4C, 2⟩, ⟨0x1D2D, 0x1D2E, 1⟩, ⟨0x1D31, 0x1D3A, 1⟩,
   ⟨0x1D3D, 0x1D69, 2⟩, ⟨0x1D50, 0x1D6A, 1⟩, ⟨0x1D78, 0x1D78, 1⟩, ⟨0x1D9B, 0x1DBF, 1⟩,
   ⟨0x1E00, 0x1E94, 2⟩, ⟨0x1E9A, 0x1E9B, 1⟩, ⟨0x1E9E, 0x1EFE, 2⟩, ⟨0x1F08, 0x1F0F, 1⟩,
   ⟨0x1F18, 0x1F1D, 1⟩, ⟨0x1F28, 0x1F2F, 1⟩, ⟨0x1F38, 0x1F3F, 1⟩, ⟨0x1F48, 0x1F4D, 1⟩,
   ⟨0x1F59, 0x1F5F, 1⟩, ⟨0x1F68, 0x1F6F, 1⟩, ⟨0x1F71, 0x1F7D, 2⟩, ⟨0x1F80, 0x1FAF, 1⟩,
   ⟨0x1FB2, 0x1FB4, 1⟩, ⟨0x1FB7, 0x1FC4, 1⟩, ⟨0x1FC7, 0x1FCF, 1⟩, ⟨0x1FD3, 0x1FD3, 1⟩,
   ⟨0x1FD8, 0x1FDF, 1⟩, ⟨0x1FE3, 0x1FE3, 1⟩, ⟨0x1FE8, 0x1FF4, 1⟩, ⟨0x1FF7, 0x200B, 1⟩,
   ⟨0x2011, 0x2011, 1⟩, ⟨0x2017, 0x2017, 1⟩, ⟨0x202F, 0x202F, 1⟩, ⟨0x2033, 0x2034, 1⟩,
   ⟨0x2036, 0x2037, 1⟩, ⟨0x203C, 0x203C, 1⟩, ⟨0x203E, 0x203E, 1⟩, ⟨0x2047, 0x2049, 1⟩,
   ⟨0x2057, 0x2057, 1⟩, ⟨0x205F, 0x209C, 1⟩, ⟨0x20A8, 0x20A8, 1⟩, ⟨0x2100, 0x2103, 1⟩,
   ⟨0x2105, 0x2115, 2⟩, ⟨0x2106, 0x2107, 1⟩, ⟨0x210A, 0x2113, 1⟩, ⟨0x2116, 0x2116, 1⟩,
   ⟨0x2119, 0x211D, 1⟩, ⟨0x2120, 0x212C, 2⟩, ⟨0x2121, 0x2122, 1⟩, ⟨0x212B, 0x213F, 2⟩,
   ⟨0x2130, 0x2139, 1⟩, ⟨0x213C, 0x2140, 1⟩, ⟨0x2145, 0x2149, 1⟩, ⟨0x2150, 0x217F, 1⟩,
   ⟨0x2189, 0x2189, 1⟩, ⟨0x222C, 0x222D, 1⟩, ⟨0x222F, 0x2230, 1⟩, ⟨0x2329, 0x232A, 1⟩,
   ⟨0x2460, 0x24EA, 1⟩, ⟨0x2A0C, 0x2A0C, 1⟩, ⟨0x2A74, 0x2A76, 1⟩, ⟨0x2ADC, 0x2ADC, 1⟩,
   ⟨0x2C00, 0x2C2F, 1⟩, ⟨0x2C60, 0x2C64, 2⟩, ⟨0x2C63, 0x2C64, 1⟩, ⟨0x2C67, 0x2C6F, 2⟩,
   ⟨0x2C6E, 0x2C70, 1⟩, ⟨0x2C72, 0x2C72, 1⟩, ⟨0x2C75, 0x2C75, 1⟩, ⟨0x2C7C, 0x2CE2, 2⟩,
   ⟨0x2C7D, 0x2C80, 1⟩, ⟨0x2CEB, 0x2CEB, 1⟩, ⟨0x2CED, 0x2CED, 1⟩, ⟨0x2CF2, 0x2CF2, 1⟩,
   ⟨0x2D6F, 0x2D6F, 1⟩, ⟨0x2E9F, 0x2E9F, 1⟩, ⟨0x2EF3, 0x3000, 1⟩, ⟨0x3002, 0x3002, 1⟩,
   ⟨0x3036, 0x303A, 2⟩, ⟨0x3039, 0x303A, 1⟩, ⟨0x309B, 0x309C, 1⟩, ⟨0x309F, 0x309F, 1⟩,
   ⟨0x30FF, 0x30FF, 1⟩, ⟨0x3131, 0x318E, 1⟩, ⟨0x3192, 0x319F, 1⟩, ⟨0x3200, 0x3247, 1⟩,
   ⟨0x3250, 0x33C0, 2⟩, ⟨0x3251, 0x327E, 1⟩, ⟨0x3281, 0x33FF, 1⟩, ⟨0xA640, 0xA66C, 2⟩,
   ⟨0xA680, 0xA69C, 2⟩, ⟨0xA69D, 0xA69D, 1⟩, ⟨0xA722, 0xA72E, 2⟩, ⟨0xA732, 0xA770, 2⟩,
   ⟨0xA779, 0xA77D, 2⟩, ⟨0xA77E, 0xA786, 2⟩, ⟨0xA78B, 0xA78B, 1⟩, ⟨0xA78D, 0xA78D, 1⟩,
   ⟨0xA790, 0xA790, 1⟩, ⟨0xA792, 0xA792, 1⟩, ⟨0xA796, 0xA7C6, 2⟩, ⟨0xA7AB, 0xA7AE, 1⟩,
   ⟨0xA7B1, 0xA7B4, 1⟩, ⟨0xA7C5, 0xA7C7, 1⟩, ⟨0xA7C9, 0xA7C9, 1⟩, ⟨0xA7D0, 0xA7D0, 1⟩,
   ⟨0xA7D6, 0xA7D6, 1⟩, ⟨0xA7D8, 0xA7D8, 1⟩, ⟨0xA7F2, 0xA7F5, 1⟩, ⟨0xA7F8, 0xA7F9, 1⟩,
   ⟨0xAB5C, 0xAB5F, 1⟩, ⟨0xAB69, 0xAB69, 1⟩, ⟨0xAB70, 0xABBF, 1⟩, ⟨0xF900, 0xFA0D, 1⟩,
   ⟨0xFA10, 0xFA10, 1⟩, ⟨0xFA12, 0xFA12, 1⟩, ⟨0xFA15, 0xFA1E, 1⟩, ⟨0xFA20, 0xFA20, 1⟩,
   ⟨0xFA22, 0xFA22, 1⟩, ⟨0xFA25, 0xFA26, 1⟩, ⟨0xFA2A, 0xFB1D, 1⟩, ⟨0xFB1F, 0xFBB1, 1⟩,
   ⟨0xFBD3, 0xFD3D, 1⟩, ⟨0xFD50, 0xFDC7, 1⟩, ⟨0xFDF0, 0xFDFC, 1⟩, ⟨0xFE00, 0xFE18, 1⟩,
   ⟨0xFE31, 0xFE44, 1⟩, ⟨0xFE47, 0xFE72, 1⟩, ⟨0xFE74, 0xFFEE, 1⟩, ⟨0x10400, 0x10427, 1⟩,
   ⟨0x104B0, 0x104D3, 1⟩, ⟨0x10570, 0x10595, 1⟩, ⟨0x10781, 0x107BA, 1⟩, ⟨0x10C80, 0x10CB2, 1⟩,
   ⟨0x118A0, 0x118BF, 1⟩, ⟨0x16E40, 0x16E5F, 1⟩, ⟨0x1BCA0, 0x1BCA3, 1⟩, ⟨0x1D15E, 0x1D164, 1⟩,
   ⟨0x1D1BB, 0x1D1C0, 1⟩, ⟨0x1D400, 0x1D7FF, 1⟩, ⟨0x1E030, 0x1E06D, 1⟩, ⟨0x1E900, 0x1E921, 1⟩,
   ⟨0x1EE00, 0x1EEBB, 1⟩, ⟨0x1F101, 0x1F10A, 1⟩, ⟨0x1F110, 0x1F14E, 2⟩, ⟨0x1F111, 0x1F12E, 1⟩,
   ⟨0x1F131, 0x1F14F, 1⟩, ⟨0x1F16A, 0x1F16C, 1⟩, ⟨0x1F190, 0x1F190, 1⟩, ⟨0x1F200, 0x1F251, 1⟩,
   ⟨0x1FBF0, 0x1FBF9, 1⟩, ⟨0x2F800, 0x2FA1D, 1⟩, ⟨0xE0100, 0xE01EF, 1⟩]

/-- Runs of characters that stand for neighbouring ASCII characters: the first, the last, and
what the first stands for. -/
def plainRuns : Array (Nat × Nat × Nat) := #[
   (0x41, 0x5A, 0x61), (0xA0, 0xA0, 0x20), (0xAA, 0xAA, 0x61), (0xB2, 0xB3, 0x32),
   (0xB9, 0xB9, 0x31), (0xBA, 0xBA, 0x6F), (0x17F, 0x17F, 0x73), (0x2B0, 0x2B0, 0x68),
   (0x2B2, 0x2B2, 0x6A), (0x2B3, 0x2B3, 0x72), (0x2B7, 0x2B7, 0x77), (0x2B8, 0x2B8, 0x79),
   (0x2E1, 0x2E1, 0x6C), (0x2E2, 0x2E2, 0x73), (0x2E3, 0x2E3, 0x78), (0x37E, 0x37E, 0x3B),
   (0x1D2C, 0x1D2C, 0x61), (0x1D2E, 0x1D2E, 0x62), (0x1D30, 0x1D31, 0x64), (0x1D33, 0x1D3A, 0x67),
   (0x1D3C, 0x1D3C, 0x6F), (0x1D3E, 0x1D3E, 0x70), (0x1D3F, 0x1D3F, 0x72), (0x1D40, 0x1D41, 0x74),
   (0x1D42, 0x1D42, 0x77), (0x1D43, 0x1D43, 0x61), (0x1D47, 0x1D47, 0x62), (0x1D48, 0x1D49, 0x64),
   (0x1D4D, 0x1D4D, 0x67), (0x1D4F, 0x1D4F, 0x6B), (0x1D50, 0x1D50, 0x6D), (0x1D52, 0x1D52, 0x6F),
   (0x1D56, 0x1D56, 0x70), (0x1D57, 0x1D58, 0x74), (0x1D5B, 0x1D5B, 0x76), (0x1D62, 0x1D62, 0x69),
   (0x1D63, 0x1D63, 0x72), (0x1D64, 0x1D65, 0x75), (0x1D9C, 0x1D9C, 0x63), (0x1DA0, 0x1DA0, 0x66),
   (0x1DBB, 0x1DBB, 0x7A), (0x1FEF, 0x1FEF, 0x60), (0x2000, 0x2000, 0x20), (0x2001, 0x2001, 0x20),
   (0x2002, 0x2002, 0x20), (0x2003, 0x2003, 0x20), (0x2004, 0x2004, 0x20), (0x2005, 0x2005, 0x20),
   (0x2006, 0x2006, 0x20), (0x2007, 0x2007, 0x20), (0x2008, 0x2008, 0x20), (0x2009, 0x2009, 0x20),
   (0x200A, 0x200A, 0x20), (0x202F, 0x202F, 0x20), (0x205F, 0x205F, 0x20), (0x2070, 0x2070, 0x30),
   (0x2071, 0x2071, 0x69), (0x2074, 0x2079, 0x34), (0x207A, 0x207A, 0x2B), (0x207C, 0x207C, 0x3D),
   (0x207D, 0x207E, 0x28), (0x207F, 0x207F, 0x6E), (0x2080, 0x2089, 0x30), (0x208A, 0x208A, 0x2B),
   (0x208C, 0x208C, 0x3D), (0x208D, 0x208E, 0x28), (0x2090, 0x2090, 0x61), (0x2091, 0x2091, 0x65),
   (0x2092, 0x2092, 0x6F), (0x2093, 0x2093, 0x78), (0x2095, 0x2095, 0x68), (0x2096, 0x2099, 0x6B),
   (0x209A, 0x209A, 0x70), (0x209B, 0x209C, 0x73), (0x2102, 0x2102, 0x63), (0x210A, 0x210B, 0x67),
   (0x210C, 0x210C, 0x68), (0x210D, 0x210D, 0x68), (0x210E, 0x210E, 0x68), (0x2110, 0x2110, 0x69),
   (0x2111, 0x2111, 0x69), (0x2112, 0x2112, 0x6C), (0x2113, 0x2113, 0x6C), (0x2115, 0x2115, 0x6E),
   (0x2119, 0x211B, 0x70), (0x211C, 0x211C, 0x72), (0x211D, 0x211D, 0x72), (0x2124, 0x2124, 0x7A),
   (0x2128, 0x2128, 0x7A), (0x212A, 0x212A, 0x6B), (0x212C, 0x212D, 0x62), (0x212F, 0x212F, 0x65),
   (0x2130, 0x2131, 0x65), (0x2133, 0x2133, 0x6D), (0x2134, 0x2134, 0x6F), (0x2139, 0x2139, 0x69),
   (0x2145, 0x2145, 0x64), (0x2146, 0x2147, 0x64), (0x2148, 0x2149, 0x69), (0x2160, 0x2160, 0x69),
   (0x2164, 0x2164, 0x76), (0x2169, 0x2169, 0x78), (0x216C, 0x216C, 0x6C), (0x216D, 0x216E, 0x63),
   (0x216F, 0x216F, 0x6D), (0x2170, 0x2170, 0x69), (0x2174, 0x2174, 0x76), (0x2179, 0x2179, 0x78),
   (0x217C, 0x217C, 0x6C), (0x217D, 0x217E, 0x63), (0x217F, 0x217F, 0x6D), (0x2460, 0x2468, 0x31),
   (0x24B6, 0x24CF, 0x61), (0x24D0, 0x24E9, 0x61), (0x24EA, 0x24EA, 0x30), (0x2C7C, 0x2C7C, 0x6A),
   (0x2C7D, 0x2C7D, 0x76), (0x3000, 0x3000, 0x20), (0x3002, 0x3002, 0x2E), (0xA7F2, 0xA7F2, 0x63),
   (0xA7F3, 0xA7F3, 0x66), (0xA7F4, 0xA7F4, 0x71), (0xFB29, 0xFB29, 0x2B), (0xFE10, 0xFE10, 0x2C),
   (0xFE13, 0xFE14, 0x3A), (0xFE15, 0xFE15, 0x21), (0xFE16, 0xFE16, 0x3F), (0xFE33, 0xFE33, 0x5F),
   (0xFE34, 0xFE34, 0x5F), (0xFE35, 0xFE36, 0x28), (0xFE37, 0xFE37, 0x7B), (0xFE38, 0xFE38, 0x7D),
   (0xFE47, 0xFE47, 0x5B), (0xFE48, 0xFE48, 0x5D), (0xFE4D, 0xFE4D, 0x5F), (0xFE4E, 0xFE4E, 0x5F),
   (0xFE4F, 0xFE4F, 0x5F), (0xFE50, 0xFE50, 0x2C), (0xFE54, 0xFE54, 0x3B), (0xFE55, 0xFE55, 0x3A),
   (0xFE56, 0xFE56, 0x3F), (0xFE57, 0xFE57, 0x21), (0xFE59, 0xFE5A, 0x28), (0xFE5B, 0xFE5B, 0x7B),
   (0xFE5C, 0xFE5C, 0x7D), (0xFE5F, 0xFE5F, 0x23), (0xFE60, 0xFE60, 0x26), (0xFE61, 0xFE62, 0x2A),
   (0xFE63, 0xFE63, 0x2D), (0xFE64, 0xFE64, 0x3C), (0xFE65, 0xFE65, 0x3E), (0xFE66, 0xFE66, 0x3D),
   (0xFE68, 0xFE68, 0x5C), (0xFE69, 0xFE6A, 0x24), (0xFE6B, 0xFE6B, 0x40), (0xFF01, 0xFF20, 0x21),
   (0xFF21, 0xFF3A, 0x61), (0xFF3B, 0xFF5E, 0x5B), (0xFF61, 0xFF61, 0x2E),
   (0x107A5, 0x107A5, 0x71), (0x1D400, 0x1D419, 0x61), (0x1D41A, 0x1D433, 0x61),
   (0x1D434, 0x1D44D, 0x61), (0x1D44E, 0x1D454, 0x61), (0x1D456, 0x1D467, 0x69),
   (0x1D468, 0x1D481, 0x61), (0x1D482, 0x1D49B, 0x61), (0x1D49C, 0x1D49C, 0x61),
   (0x1D49E, 0x1D49F, 0x63), (0x1D4A2, 0x1D4A2, 0x67), (0x1D4A5, 0x1D4A6, 0x6A),
   (0x1D4A9, 0x1D4AC, 0x6E), (0x1D4AE, 0x1D4B5, 0x73), (0x1D4B6, 0x1D4B9, 0x61),
   (0x1D4BB, 0x1D4BB, 0x66), (0x1D4BD, 0x1D4C3, 0x68), (0x1D4C5, 0x1D4CF, 0x70),
   (0x1D4D0, 0x1D4E9, 0x61), (0x1D4EA, 0x1D503, 0x61), (0x1D504, 0x1D505, 0x61),
   (0x1D507, 0x1D50A, 0x64), (0x1D50D, 0x1D514, 0x6A), (0x1D516, 0x1D51C, 0x73),
   (0x1D51E, 0x1D537, 0x61), (0x1D538, 0x1D539, 0x61), (0x1D53B, 0x1D53E, 0x64),
   (0x1D540, 0x1D544, 0x69), (0x1D546, 0x1D546, 0x6F), (0x1D54A, 0x1D550, 0x73),
   (0x1D552, 0x1D56B, 0x61), (0x1D56C, 0x1D585, 0x61), (0x1D586, 0x1D59F, 0x61),
   (0x1D5A0, 0x1D5B9, 0x61), (0x1D5BA, 0x1D5D3, 0x61), (0x1D5D4, 0x1D5ED, 0x61),
   (0x1D5EE, 0x1D607, 0x61), (0x1D608, 0x1D621, 0x61), (0x1D622, 0x1D63B, 0x61),
   (0x1D63C, 0x1D655, 0x61), (0x1D656, 0x1D66F, 0x61), (0x1D670, 0x1D689, 0x61),
   (0x1D68A, 0x1D6A3, 0x61), (0x1D7CE, 0x1D7D7, 0x30), (0x1D7D8, 0x1D7E1, 0x30),
   (0x1D7E2, 0x1D7EB, 0x30), (0x1D7EC, 0x1D7F5, 0x30), (0x1D7F6, 0x1D7FF, 0x30),
   (0x1F12B, 0x1F12B, 0x63), (0x1F12C, 0x1F12C, 0x72), (0x1F130, 0x1F149, 0x61),
   (0x1FBF0, 0x1FBF9, 0x30)]

/-- Characters that stand for several characters, of which some are ASCII. -/
def plainTexts : Array (Nat × String) := #[
   (0xA8, " \u0308"), (0xAF, " \u0304"), (0xB4, " \u0301"), (0xB8, " \u0327"), (0xBC, "1\u20444"),
   (0xBD, "1\u20442"), (0xBE, "3\u20444"), (0x130, "i\u0307"), (0x132, "ij"), (0x133, "ij"),
   (0x13F, "l\u00b7"), (0x140, "l\u00b7"), (0x149, "\u02bcn"), (0x1C4, "d\u017e"),
   (0x1C5, "d\u017e"), (0x1C6, "d\u017e"), (0x1C7, "lj"), (0x1C8, "lj"), (0x1C9, "lj"),
   (0x1CA, "nj"), (0x1CB, "nj"), (0x1CC, "nj"), (0x1F1, "dz"), (0x1F2, "dz"), (0x1F3, "dz"),
   (0x2D8, " \u0306"), (0x2D9, " \u0307"), (0x2DA, " \u030a"), (0x2DB, " \u0328"),
   (0x2DC, " \u0303"), (0x2DD, " \u030b"), (0x37A, " \u03b9"), (0x384, " \u0301"),
   (0x385, " \u0308\u0301"), (0x1E9A, "a\u02be"), (0x1FBD, " \u0313"), (0x1FBF, " \u0313"),
   (0x1FC0, " \u0342"), (0x1FC1, " \u0308\u0342"), (0x1FCD, " \u0313\u0300"),
   (0x1FCE, " \u0313\u0301"), (0x1FCF, " \u0313\u0342"), (0x1FDD, " \u0314\u0300"),
   (0x1FDE, " \u0314\u0301"), (0x1FDF, " \u0314\u0342"), (0x1FED, " \u0308\u0300"),
   (0x1FEE, " \u0308\u0301"), (0x1FFD, " \u0301"), (0x1FFE, " \u0314"), (0x2017, " \u0333"),
   (0x203C, "!!"), (0x203E, " \u0305"), (0x2047, "??"), (0x2048, "?!"), (0x2049, "!?"),
   (0x20A8, "rs"), (0x2100, "a/c"), (0x2101, "a/s"), (0x2103, "\u00b0c"), (0x2105, "c/o"),
   (0x2106, "c/u"), (0x2109, "\u00b0f"), (0x2116, "no"), (0x2120, "sm"), (0x2121, "tel"),
   (0x2122, "tm"), (0x213B, "fax"), (0x2150, "1\u20447"), (0x2151, "1\u20449"),
   (0x2152, "1\u204410"), (0x2153, "1\u20443"), (0x2154, "2\u20443"), (0x2155, "1\u20445"),
   (0x2156, "2\u20445"), (0x2157, "3\u20445"), (0x2158, "4\u20445"), (0x2159, "1\u20446"),
   (0x215A, "5\u20446"), (0x215B, "1\u20448"), (0x215C, "3\u20448"), (0x215D, "5\u20448"),
   (0x215E, "7\u20448"), (0x215F, "1\u2044"), (0x2161, "ii"), (0x2162, "iii"), (0x2163, "iv"),
   (0x2165, "vi"), (0x2166, "vii"), (0x2167, "viii"), (0x2168, "ix"), (0x216A, "xi"),
   (0x216B, "xii"), (0x2171, "ii"), (0x2172, "iii"), (0x2173, "iv"), (0x2175, "vi"),
   (0x2176, "vii"), (0x2177, "viii"), (0x2178, "ix"), (0x217A, "xi"), (0x217B, "xii"),
   (0x2189, "0\u20443"), (0x2469, "10"), (0x246A, "11"), (0x246B, "12"), (0x246C, "13"),
   (0x246D, "14"), (0x246E, "15"), (0x246F, "16"), (0x2470, "17"), (0x2471, "18"), (0x2472, "19"),
   (0x2473, "20"), (0x2474, "(1)"), (0x2475, "(2)"), (0x2476, "(3)"), (0x2477, "(4)"),
   (0x2478, "(5)"), (0x2479, "(6)"), (0x247A, "(7)"), (0x247B, "(8)"), (0x247C, "(9)"),
   (0x247D, "(10)"), (0x247E, "(11)"), (0x247F, "(12)"), (0x2480, "(13)"), (0x2481, "(14)"),
   (0x2482, "(15)"), (0x2483, "(16)"), (0x2484, "(17)"), (0x2485, "(18)"), (0x2486, "(19)"),
   (0x2487, "(20)"), (0x249C, "(a)"), (0x249D, "(b)"), (0x249E, "(c)"), (0x249F, "(d)"),
   (0x24A0, "(e)"), (0x24A1, "(f)"), (0x24A2, "(g)"), (0x24A3, "(h)"), (0x24A4, "(i)"),
   (0x24A5, "(j)"), (0x24A6, "(k)"), (0x24A7, "(l)"), (0x24A8, "(m)"), (0x24A9, "(n)"),
   (0x24AA, "(o)"), (0x24AB, "(p)"), (0x24AC, "(q)"), (0x24AD, "(r)"), (0x24AE, "(s)"),
   (0x24AF, "(t)"), (0x24B0, "(u)"), (0x24B1, "(v)"), (0x24B2, "(w)"), (0x24B3, "(x)"),
   (0x24B4, "(y)"), (0x24B5, "(z)"), (0x2A74, "::="), (0x2A75, "=="), (0x2A76, "==="),
   (0x309B, " \u3099"), (0x309C, " \u309a"), (0x3200, "(\u1100)"), (0x3201, "(\u1102)"),
   (0x3202, "(\u1103)"), (0x3203, "(\u1105)"), (0x3204, "(\u1106)"), (0x3205, "(\u1107)"),
   (0x3206, "(\u1109)"), (0x3207, "(\u110b)"), (0x3208, "(\u110c)"), (0x3209, "(\u110e)"),
   (0x320A, "(\u110f)"), (0x320B, "(\u1110)"), (0x320C, "(\u1111)"), (0x320D, "(\u1112)"),
   (0x320E, "(\uac00)"), (0x320F, "(\ub098)"), (0x3210, "(\ub2e4)"), (0x3211, "(\ub77c)"),
   (0x3212, "(\ub9c8)"), (0x3213, "(\ubc14)"), (0x3214, "(\uc0ac)"), (0x3215, "(\uc544)"),
   (0x3216, "(\uc790)"), (0x3217, "(\ucc28)"), (0x3218, "(\uce74)"), (0x3219, "(\ud0c0)"),
   (0x321A, "(\ud30c)"), (0x321B, "(\ud558)"), (0x321C, "(\uc8fc)"), (0x321D, "(\uc624\uc804)"),
   (0x321E, "(\uc624\ud6c4)"), (0x3220, "(\u4e00)"), (0x3221, "(\u4e8c)"), (0x3222, "(\u4e09)"),
   (0x3223, "(\u56db)"), (0x3224, "(\u4e94)"), (0x3225, "(\u516d)"), (0x3226, "(\u4e03)"),
   (0x3227, "(\u516b)"), (0x3228, "(\u4e5d)"), (0x3229, "(\u5341)"), (0x322A, "(\u6708)"),
   (0x322B, "(\u706b)"), (0x322C, "(\u6c34)"), (0x322D, "(\u6728)"), (0x322E, "(\u91d1)"),
   (0x322F, "(\u571f)"), (0x3230, "(\u65e5)"), (0x3231, "(\u682a)"), (0x3232, "(\u6709)"),
   (0x3233, "(\u793e)"), (0x3234, "(\u540d)"), (0x3235, "(\u7279)"), (0x3236, "(\u8ca1)"),
   (0x3237, "(\u795d)"), (0x3238, "(\u52b4)"), (0x3239, "(\u4ee3)"), (0x323A, "(\u547c)"),
   (0x323B, "(\u5b66)"), (0x323C, "(\u76e3)"), (0x323D, "(\u4f01)"), (0x323E, "(\u8cc7)"),
   (0x323F, "(\u5354)"), (0x3240, "(\u796d)"), (0x3241, "(\u4f11)"), (0x3242, "(\u81ea)"),
   (0x3243, "(\u81f3)"), (0x3250, "pte"), (0x3251, "21"), (0x3252, "22"), (0x3253, "23"),
   (0x3254, "24"), (0x3255, "25"), (0x3256, "26"), (0x3257, "27"), (0x3258, "28"), (0x3259, "29"),
   (0x325A, "30"), (0x325B, "31"), (0x325C, "32"), (0x325D, "33"), (0x325E, "34"), (0x325F, "35"),
   (0x32B1, "36"), (0x32B2, "37"), (0x32B3, "38"), (0x32B4, "39"), (0x32B5, "40"), (0x32B6, "41"),
   (0x32B7, "42"), (0x32B8, "43"), (0x32B9, "44"), (0x32BA, "45"), (0x32BB, "46"), (0x32BC, "47"),
   (0x32BD, "48"), (0x32BE, "49"), (0x32BF, "50"), (0x32C0, "1\u6708"), (0x32C1, "2\u6708"),
   (0x32C2, "3\u6708"), (0x32C3, "4\u6708"), (0x32C4, "5\u6708"), (0x32C5, "6\u6708"),
   (0x32C6, "7\u6708"), (0x32C7, "8\u6708"), (0x32C8, "9\u6708"), (0x32C9, "10\u6708"),
   (0x32CA, "11\u6708"), (0x32CB, "12\u6708"), (0x32CC, "hg"), (0x32CD, "erg"), (0x32CE, "ev"),
   (0x32CF, "ltd"), (0x3358, "0\u70b9"), (0x3359, "1\u70b9"), (0x335A, "2\u70b9"),
   (0x335B, "3\u70b9"), (0x335C, "4\u70b9"), (0x335D, "5\u70b9"), (0x335E, "6\u70b9"),
   (0x335F, "7\u70b9"), (0x3360, "8\u70b9"), (0x3361, "9\u70b9"), (0x3362, "10\u70b9"),
   (0x3363, "11\u70b9"), (0x3364, "12\u70b9"), (0x3365, "13\u70b9"), (0x3366, "14\u70b9"),
   (0x3367, "15\u70b9"), (0x3368, "16\u70b9"), (0x3369, "17\u70b9"), (0x336A, "18\u70b9"),
   (0x336B, "19\u70b9"), (0x336C, "20\u70b9"), (0x336D, "21\u70b9"), (0x336E, "22\u70b9"),
   (0x336F, "23\u70b9"), (0x3370, "24\u70b9"), (0x3371, "hpa"), (0x3372, "da"), (0x3373, "au"),
   (0x3374, "bar"), (0x3375, "ov"), (0x3376, "pc"), (0x3377, "dm"), (0x3378, "dm2"),
   (0x3379, "dm3"), (0x337A, "iu"), (0x3380, "pa"), (0x3381, "na"), (0x3382, "\u03bca"),
   (0x3383, "ma"), (0x3384, "ka"), (0x3385, "kb"), (0x3386, "mb"), (0x3387, "gb"),
   (0x3388, "cal"), (0x3389, "kcal"), (0x338A, "pf"), (0x338B, "nf"), (0x338C, "\u03bcf"),
   (0x338D, "\u03bcg"), (0x338E, "mg"), (0x338F, "kg"), (0x3390, "hz"), (0x3391, "khz"),
   (0x3392, "mhz"), (0x3393, "ghz"), (0x3394, "thz"), (0x3395, "\u03bcl"), (0x3396, "ml"),
   (0x3397, "dl"), (0x3398, "kl"), (0x3399, "fm"), (0x339A, "nm"), (0x339B, "\u03bcm"),
   (0x339C, "mm"), (0x339D, "cm"), (0x339E, "km"), (0x339F, "mm2"), (0x33A0, "cm2"),
   (0x33A1, "m2"), (0x33A2, "km2"), (0x33A3, "mm3"), (0x33A4, "cm3"), (0x33A5, "m3"),
   (0x33A6, "km3"), (0x33A7, "m\u2215s"), (0x33A8, "m\u2215s2"), (0x33A9, "pa"), (0x33AA, "kpa"),
   (0x33AB, "mpa"), (0x33AC, "gpa"), (0x33AD, "rad"), (0x33AE, "rad\u2215s"),
   (0x33AF, "rad\u2215s2"), (0x33B0, "ps"), (0x33B1, "ns"), (0x33B2, "\u03bcs"), (0x33B3, "ms"),
   (0x33B4, "pv"), (0x33B5, "nv"), (0x33B6, "\u03bcv"), (0x33B7, "mv"), (0x33B8, "kv"),
   (0x33B9, "mv"), (0x33BA, "pw"), (0x33BB, "nw"), (0x33BC, "\u03bcw"), (0x33BD, "mw"),
   (0x33BE, "kw"), (0x33BF, "mw"), (0x33C0, "k\u03c9"), (0x33C1, "m\u03c9"), (0x33C3, "bq"),
   (0x33C4, "cc"), (0x33C5, "cd"), (0x33C6, "c\u2215kg"), (0x33C8, "db"), (0x33C9, "gy"),
   (0x33CA, "ha"), (0x33CB, "hp"), (0x33CC, "in"), (0x33CD, "kk"), (0x33CE, "km"), (0x33CF, "kt"),
   (0x33D0, "lm"), (0x33D1, "ln"), (0x33D2, "log"), (0x33D3, "lx"), (0x33D4, "mb"),
   (0x33D5, "mil"), (0x33D6, "mol"), (0x33D7, "ph"), (0x33D9, "ppm"), (0x33DA, "pr"),
   (0x33DB, "sr"), (0x33DC, "sv"), (0x33DD, "wb"), (0x33DE, "v\u2215m"), (0x33DF, "a\u2215m"),
   (0x33E0, "1\u65e5"), (0x33E1, "2\u65e5"), (0x33E2, "3\u65e5"), (0x33E3, "4\u65e5"),
   (0x33E4, "5\u65e5"), (0x33E5, "6\u65e5"), (0x33E6, "7\u65e5"), (0x33E7, "8\u65e5"),
   (0x33E8, "9\u65e5"), (0x33E9, "10\u65e5"), (0x33EA, "11\u65e5"), (0x33EB, "12\u65e5"),
   (0x33EC, "13\u65e5"), (0x33ED, "14\u65e5"), (0x33EE, "15\u65e5"), (0x33EF, "16\u65e5"),
   (0x33F0, "17\u65e5"), (0x33F1, "18\u65e5"), (0x33F2, "19\u65e5"), (0x33F3, "20\u65e5"),
   (0x33F4, "21\u65e5"), (0x33F5, "22\u65e5"), (0x33F6, "23\u65e5"), (0x33F7, "24\u65e5"),
   (0x33F8, "25\u65e5"), (0x33F9, "26\u65e5"), (0x33FA, "27\u65e5"), (0x33FB, "28\u65e5"),
   (0x33FC, "29\u65e5"), (0x33FD, "30\u65e5"), (0x33FE, "31\u65e5"), (0x33FF, "gal"),
   (0xFB00, "ff"), (0xFB01, "fi"), (0xFB02, "fl"), (0xFB03, "ffi"), (0xFB04, "ffl"),
   (0xFB05, "st"), (0xFB06, "st"), (0xFC5E, " \u064c\u0651"), (0xFC5F, " \u064d\u0651"),
   (0xFC60, " \u064e\u0651"), (0xFC61, " \u064f\u0651"), (0xFC62, " \u0650\u0651"),
   (0xFC63, " \u0651\u0670"),
   (0xFDFA, "\u0635\u0644\u0649 \u0627\u0644\u0644\u0647 \u0639\u0644\u064a\u0647 \u0648\u0633\u0644\u0645"),
   (0xFDFB, "\u062c\u0644 \u062c\u0644\u0627\u0644\u0647"), (0xFE49, " \u0305"),
   (0xFE4A, " \u0305"), (0xFE4B, " \u0305"), (0xFE4C, " \u0305"), (0xFE70, " \u064b"),
   (0xFE72, " \u064c"), (0xFE74, " \u064d"), (0xFE76, " \u064e"), (0xFE78, " \u064f"),
   (0xFE7A, " \u0650"), (0xFE7C, " \u0651"), (0xFE7E, " \u0652"), (0xFFE3, " \u0304"),
   (0x1F101, "0,"), (0x1F102, "1,"), (0x1F103, "2,"), (0x1F104, "3,"), (0x1F105, "4,"),
   (0x1F106, "5,"), (0x1F107, "6,"), (0x1F108, "7,"), (0x1F109, "8,"), (0x1F10A, "9,"),
   (0x1F110, "(a)"), (0x1F111, "(b)"), (0x1F112, "(c)"), (0x1F113, "(d)"), (0x1F114, "(e)"),
   (0x1F115, "(f)"), (0x1F116, "(g)"), (0x1F117, "(h)"), (0x1F118, "(i)"), (0x1F119, "(j)"),
   (0x1F11A, "(k)"), (0x1F11B, "(l)"), (0x1F11C, "(m)"), (0x1F11D, "(n)"), (0x1F11E, "(o)"),
   (0x1F11F, "(p)"), (0x1F120, "(q)"), (0x1F121, "(r)"), (0x1F122, "(s)"), (0x1F123, "(t)"),
   (0x1F124, "(u)"), (0x1F125, "(v)"), (0x1F126, "(w)"), (0x1F127, "(x)"), (0x1F128, "(y)"),
   (0x1F129, "(z)"), (0x1F12A, "\u3014s\u3015"), (0x1F12D, "cd"), (0x1F12E, "wz"),
   (0x1F14A, "hv"), (0x1F14B, "mv"), (0x1F14C, "sd"), (0x1F14D, "ss"), (0x1F14E, "ppv"),
   (0x1F14F, "wc"), (0x1F16A, "mc"), (0x1F16B, "md"), (0x1F16C, "mr"), (0x1F190, "dj")]

/-- Whether no domain may hold a character. -/
def isForbidden (c : Char) : Bool := Text.inRanges forbiddenRanges c

/-- Whether a character is dropped from domains. -/
def isDropped (c : Char) : Bool := Text.inRanges droppedRanges c

/-- Whether a character stands for others or is dropped, so that it is not in its final form. -/
def isChanged (c : Char) : Bool :=
  changedSpreads.any fun spread =>
    spread.first ≤ c.toNat && c.toNat ≤ spread.last && (c.toNat - spread.first) % spread.step = 0

/-- The characters that a character stands for; one that stands only for characters beyond
ASCII is left as it is. -/
def plainForm (c : Char) : List Char :=
  match plainRuns.find? fun run => run.1 ≤ c.toNat && c.toNat ≤ run.2.1 with
  | some run => [Char.ofNat (c.toNat - run.1 + run.2.2)]
  | none => match plainTexts.find? fun entry => entry.1 = c.toNat with
    | some entry => entry.2.toList
    | none => if isDropped c then [] else [c]

end BlogGateway.Uri
