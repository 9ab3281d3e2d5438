/-!
# Tables of foldings

What single characters outside ASCII stand for in a domain name. A character that is in
none of the tables stands for itself.
-/

namespace RespClient.Domain

/-- Characters that no name may hold, and code points without a character. -/
def refused : List (Nat × Nat) :=
  [(0x80, 0x9F), (0x378, 0x379), (0x380, 0x383), (0x38B, 0x38B), (0x38D, 0x38D), (0x3A2, 0x3A2),
   (0x530, 0x530), (0x557, 0x557), (0x58B, 0x58C), (0x590, 0x590), (0x5C8, 0x5CF), (0x5EB, 0x5EE),
   (0x5F5, 0x605), (0x61C, 0x61C), (0x6DD, 0x6DD), (0x70E, 0x70F), (0x74B, 0x74C), (0x7B2, 0x7BF),
   (0x7FB, 0x7FC), (0x82E, 0x82F), (0x83F, 0x83F), (0x85C, 0x85D), (0x85F, 0x85F), (0x86B, 0x86F),
   (0x890, 0x896), (0x8E2, 0x8E2), (0x984, 0x984), (0x98D, 0x98E), (0x991, 0x992), (0x9A9, 0x9A9),
   (0x9B1, 0x9B1), (0x9B3, 0x9B5), (0x9BA, 0x9BB), (0x9C5, 0x9C6), (0x9C9, 0x9CA), (0x9CF, 0x9D6),
   (0x9D8, 0x9DB), (0x9DE, 0x9DE), (0x9E4, 0x9E5), (0x9FF, 0xA00), (0xA04, 0xA04), (0xA0B, 0xA0E),
   (0xA11, 0xA12), (0xA29, 0xA29), (0xA31, 0xA31), (0xA34, 0xA34), (0xA37, 0xA37), (0xA3A, 0xA3B),
   (0xA3D, 0xA3D), (0xA43, 0xA46), (0xA49, 0xA4A), (0xA4E, 0xA50), (0xA52, 0xA58), (0xA5D, 0xA5D),
   (0xA5F, 0xA65), (0xA77, 0xA80), (0xA84, 0xA84), (0xA8E, 0xA8E), (0xA92, 0xA92), (0xAA9, 0xAA9),
   (0xAB1, 0xAB1), (0xAB4, 0xAB4), (0xABA, 0xABB), (0xAC6, 0xAC6), (0xACA, 0xACA), (0xACE, 0xACF),
   (0xAD1, 0xADF), (0xAE4, 0xAE5), (0xAF2, 0xAF8), (0xB00, 0xB00), (0xB04, 0xB04), (0xB0D, 0xB0E),
   (0xB11, 0xB12), (0xB29, 0xB29), (0xB31, 0xB31), (0xB34, 0xB34), (0xB3A, 0xB3B), (0xB45, 0xB46),
   (0xB49, 0xB4A), (0xB4E, 0xB54), (0xB58, 0xB5B), (0xB5E, 0xB5E), (0xB64, 0xB65), (0xB78, 0xB81),
   (0xB84, 0xB84), (0xB8B, 0xB8D), (0xB91, 0xB91), (0xB96, 0xB98), (0xB9B, 0xB9B), (0xB9D, 0xB9D),
   (0xBA0, 0xBA2), (0xBA5, 0xBA7), (0xBAB, 0xBAD), (0xBBA, 0xBBD), (0xBC3, 0xBC5), (0xBC9, 0xBC9),
   (0xBCE, 0xBCF), (0xBD1, 0xBD6), (0xBD8, 0xBE5), (0xBFB, 0xBFF), (0xC0D, 0xC0D), (0xC11, 0xC11),
   (0xC29, 0xC29), (0xC3A, 0xC3B), (0xC45, 0xC45), (0xC49, 0xC49), (0xC4E, 0xC54), (0xC57, 0xC57),
   (0xC5B, 0xC5B), (0xC5E, 0xC5F), (0xC64, 0xC65), (0xC70, 0xC76), (0xC8D, 0xC8D), (0xC91, 0xC91),
   (0xCA9, 0xCA9), (0xCB4, 0xCB4), (0xCBA, 0xCBB), (0xCC5, 0xCC5), (0xCC9, 0xCC9), (0xCCE, 0xCD4),
   (0xCD7, 0xCDB), (0xCDF, 0xCDF), (0xCE4, 0xCE5), (0xCF0, 0xCF0), (0xCF4, 0xCFF), (0xD0D, 0xD0D),
   (0xD11, 0xD11), (0xD45, 0xD45), (0xD49, 0xD49), (0xD50, 0xD53), (0xD64, 0xD65), (0xD80, 0xD80),
   (0xD84, 0xD84), (0xD97, 0xD99), (0xDB2, 0xDB2), (0xDBC, 0xDBC), (0xDBE, 0xDBF), (0xDC7, 0xDC9),
   (0xDCB, 0xDCE), (0xDD5, 0xDD5), (0xDD7, 0xDD7), (0xDE0, 0xDE5), (0xDF0, 0xDF1), (0xDF5, 0xE00),
   (0xE3B, 0xE3E), (0xE5C, 0xE80), (0xE83, 0xE83), (0xE85, 0xE85), (0xE8B, 0xE8B), (0xEA4, 0xEA4),
   (0xEA6, 0xEA6), (0xEBE, 0xEBF), (0xEC5, 0xEC5), (0xEC7, 0xEC7), (0xECF, 0xECF), (0xEDA, 0xEDB),
   (0xEE0, 0xEFF), (0xF48, 0xF48), (0xF6D, 0xF70), (0xF98, 0xF98), (0xFBD, 0xFBD), (0xFCD, 0xFCD),
   (0xFDB, 0xFFF), (0x10C6, 0x10C6), (0x10C8, 0x10CC), (0x10CE, 0x10CF), (0x1249, 0x1249),
   (0x124E, 0x124F), (0x1257, 0x1257), (0x1259, 0x1259), (0x125E, 0x125F), (0x1289, 0x1289),
   (0x128E, 0x128F), (0x12B1, 0x12B1), (0x12B6, 0x12B7), (0x12BF, 0x12BF), (0x12C1, 0x12C1),
   (0x12C6, 0x12C7), (0x12D7, 0x12D7), (0x1311, 0x1311), (0x1316, 0x1317), (0x135B, 0x135C),
   (0x137D, 0x137F), (0x139A, 0x139F), (0x13F6, 0x13F7), (0x13FE, 0x13FF), (0x1680, 0x1680),
   (0x169D, 0x169F), (0x16F9, 0x16FF), (0x1716, 0x171E), (0x1737, 0x173F), (0x1754, 0x175F),
   (0x176D, 0x176D), (0x1771, 0x1771), (0x1774, 0x177F), (0x17DE, 0x17DF), (0x17EA, 0x17EF),
   (0x17FA, 0x17FF), (0x181A, 0x181F), (0x1879, 0x187F), (0x18AB, 0x18AF), (0x18F6, 0x18FF),
   (0x191F, 0x191F), (0x192C, 0x192F), (0x193C, 0x193F), (0x1941, 0x1943), (0x196E, 0x196F),
   (0x1975, 0x197F), (0x19AC, 0x19AF), (0x19CA, 0x19CF), (0x19DB, 0x19DD), (0x1A1C, 0x1A1D),
   (0x1A5F, 0x1A5F), (0x1A7D, 0x1A7E), (0x1A8A, 0x1A8F), (0x1A9A, 0x1A9F), (0x1AAE, 0x1AAF),
   (0x1AEC, 0x1AFF), (0x1B4D, 0x1B4D), (0x1BF4, 0x1BFB), (0x1C38, 0x1C3A), (0x1C4A, 0x1C4C),
   (0x1C8B, 0x1C8F), (0x1CBB, 0x1CBC), (0x1CC8, 0x1CCF), (0x1CFB, 0x1CFF), (0x1F16, 0x1F17),
   (0x1F1E, 0x1F1F), (0x1F46, 0x1F47), (0x1F4E, 0x1F4F), (0x1F58, 0x1F58), (0x1F5A, 0x1F5A),
   (0x1F5C, 0x1F5C), (0x1F5E, 0x1F5E), (0x1F7E, 0x1F7F), (0x1FB5, 0x1FB5), (0x1FC5, 0x1FC5),
   (0x1FD4, 0x1FD5), (0x1FDC, 0x1FDC), (0x1FF0, 0x1FF1), (0x1FF5, 0x1FF5), (0x1FFF, 0x1FFF),
   (0x200E, 0x200F), (0x2024, 0x2026), (0x2028, 0x202E), (0x2065, 0x2069), (0x2072, 0x2073),
   (0x208F, 0x208F), (0x20C5, 0x20CF), (0x20F1, 0x20FF), (0x218C, 0x218F), (0x242A, 0x243F),
   (0x244B, 0x245F), (0x2488, 0x249B), (0x2B74, 0x2B75), (0x2CF4, 0x2CF8), (0x2D26, 0x2D26),
   (0x2D28, 0x2D2C), (0x2D2E, 0x2D2F), (0x2D68, 0x2D6E), (0x2D71, 0x2D7E), (0x2D97, 0x2D9F),
   (0x2DA7, 0x2DA7), (0x2DAF, 0x2DAF), (0x2DB7, 0x2DB7), (0x2DBF, 0x2DBF), (0x2DC7, 0x2DC7),
   (0x2DCF, 0x2DCF), (0x2DD7, 0x2DD7), (0x2DDF, 0x2DDF), (0x2E5E, 0x2E7F), (0x2E9A, 0x2E9A),
   (0x2EF4, 0x2EFF), (0x2FD6, 0x2FFF), (0x3040, 0x3040), (0x3097, 0x3098), (0x3100, 0x3104),
   (0x3130, 0x3130), (0x318F, 0x318F), (0x31E6, 0x31EF), (0x321F, 0x321F), (0x33C2, 0x33C2),
   (0x33C7, 0x33C7), (0x33D8, 0x33D8), (0xA48D, 0xA48F), (0xA4C7, 0xA4CF), (0xA62C, 0xA63F),
   (0xA6F8, 0xA6FF), (0xA7DF, 0xA7F0), (0xA82D, 0xA82F), (0xA83A, 0xA83F), (0xA878, 0xA87F),
   (0xA8C6, 0xA8CD), (0xA8DA, 0xA8DF), (0xA954, 0xA95E), (0xA97D, 0xA97F), (0xA9CE, 0xA9CE),
   (0xA9DA, 0xA9DD), (0xA9FF, 0xA9FF), (0xAA37, 0xAA3F), (0xAA4E, 0xAA4F), (0xAA5A, 0xAA5B),
   (0xAAC3, 0xAADA), (0xAAF7, 0xAB00), (0xAB07, 0xAB08), (0xAB0F, 0xAB10), (0xAB17, 0xAB1F),
   (0xAB27, 0xAB27), (0xAB2F, 0xAB2F), (0xAB6C, 0xAB6F), (0xABEE, 0xABEF), (0xABFA, 0xABFF),
   (0xD7A4, 0xD7AF), (0xD7C7, 0xD7CA), (0xD7FC, 0xF8FF), (0xFA6E, 0xFA6F), (0xFADA, 0xFAFF),
   (0xFB07, 0xFB12), (0xFB18, 0xFB1C), (0xFB37, 0xFB37), (0xFB3D, 0xFB3D), (0xFB3F, 0xFB3F),
   (0xFB42, 0xFB42), (0xFB45, 0xFB45), (0xFDD0, 0xFDEF), (0xFE12, 0xFE12), (0xFE19, 0xFE1F),
   (0xFE30, 0xFE30), (0xFE52, 0xFE53), (0xFE67, 0xFE67), (0xFE6C, 0xFE6F), (0xFE75, 0xFE75),
   (0xFEFD, 0xFEFE), (0xFF00, 0xFF00), (0xFFBF, 0xFFC1), (0xFFC8, 0xFFC9), (0xFFD0, 0xFFD1),
   (0xFFD8, 0xFFD9), (0xFFDD, 0xFFDF), (0xFFE7, 0xFFE7), (0xFFEF, 0xFFFF), (0x1000C, 0x1000C),
   (0x10027, 0x10027), (0x1003B, 0x1003B), (0x1003E, 0x1003E), (0x1004E, 0x1004F),
   (0x1005E, 0x1007F), (0x100FB, 0x100FF), (0x10103, 0x10106), (0x10134, 0x10136),
   (0x1018F, 0x1018F), (0x1019D, 0x1019F), (0x101A1, 0x101CF), (0x101FE, 0x1027F),
   (0x1029D, 0x1029F), (0x102D1, 0x102DF), (0x102FC, 0x102FF), (0x10324, 0x1032C),
   (0x1034B, 0x1034F), (0x1037B, 0x1037F), (0x1039E, 0x1039E), (0x103C4, 0x103C7),
   (0x103D6, 0x103FF), (0x1049E, 0x1049F), (0x104AA, 0x104AF), (0x104D4, 0x104D7),
   (0x104FC, 0x104FF), (0x10528, 0x1052F), (0x10564, 0x1056E), (0x1057B, 0x1057B),
   (0x1058B, 0x1058B), (0x10593, 0x10593), (0x10596, 0x10596), (0x105A2, 0x105A2),
   (0x105B2, 0x105B2), (0x105BA, 0x105BA), (0x105BD, 0x105BF), (0x105F4, 0x105FF),
   (0x10737, 0x1073F), (0x10756, 0x1075F), (0x10768, 0x1077F), (0x10786, 0x10786),
   (0x107B1, 0x107B1), (0x107BB, 0x107FF), (0x10806, 0x10807), (0x10809, 0x10809),
   (0x10836, 0x10836), (0x10839, 0x1083B), (0x1083D, 0x1083E), (0x10856, 0x10856),
   (0x1089F, 0x108A6), (0x108B0, 0x108DF), (0x108F3, 0x108F3), (0x108F6, 0x108FA),
   (0x1091C, 0x1091E), (0x1093A, 0x1093E), (0x1095A, 0x1097F), (0x109B8, 0x109BB),
   (0x109D0, 0x109D1), (0x10A04, 0x10A04), (0x10A07, 0x10A0B), (0x10A14, 0x10A14),
   (0x10A18, 0x10A18), (0x10A36, 0x10A37), (0x10A3B, 0x10A3E), (0x10A49, 0x10A4F),
   (0x10A59, 0x10A5F), (0x10AA0, 0x10ABF), (0x10AE7, 0x10AEA), (0x10AF7, 0x10AFF),
   (0x10B36, 0x10B38), (0x10B56, 0x10B57), (0x10B73, 0x10B77), (0x10B92, 0x10B98),
   (0x10B9D, 0x10BA8), (0x10BB0, 0x10BFF), (0x10C49, 0x10C7F), (0x10CB3, 0x10CBF),
   (0x10CF3, 0x10CF9), (0x10D28, 0x10D2F), (0x10D3A, 0x10D3F), (0x10D66, 0x10D68),
   (0x10D86, 0x10D8D), (0x10D90, 0x10E5F), (0x10E7F, 0x10E7F), (0x10EAA, 0x10EAA),
   (0x10EAE, 0x10EAF), (0x10EB2, 0x10EC1), (0x10EC8, 0x10ECF), (0x10EDA, 0x10EF9),
   (0x10F28, 0x10F2F), (0x10F5A, 0x10F6F), (0x10F8A, 0x10FAF), (0x10FCC, 0x10FDF),
   (0x10FF7, 0x10FFF), (0x1104E, 0x11051), (0x11076, 0x1107E), (0x110BD, 0x110BD),
   (0x110C3, 0x110CF), (0x110E9, 0x110EF), (0x110FA, 0x110FF), (0x11135, 0x11135),
   (0x11148, 0x1114F), (0x11177, 0x1117F), (0x111E0, 0x111E0), (0x111F5, 0x111FF),
   (0x11212, 0x11212), (0x11242, 0x1127F), (0x11287, 0x11287), (0x11289, 0x11289),
   (0x1128E, 0x1128E), (0x1129E, 0x1129E), (0x112AA, 0x112AF), (0x112EB, 0x112EF),
   (0x112FA, 0x112FF), (0x11304, 0x11304), (0x1130D, 0x1130E), (0x11311, 0x11312),
   (0x11329, 0x11329), (0x11331, 0x11331), (0x11334, 0x11334), (0x1133A, 0x1133A),
   (0x11345, 0x11346), (0x11349, 0x1134A), (0x1134E, 0x1134F), (0x11351, 0x11356),
   (0x11358, 0x1135C), (0x11364, 0x11365), (0x1136D, 0x1136F), (0x11375, 0x1137F),
   (0x1138A, 0x1138A), (0x1138C, 0x1138D), (0x1138F, 0x1138F), (0x113B6, 0x113B6),
   (0x113C1, 0x113C1), (0x113C3, 0x113C4), (0x113C6, 0x113C6), (0x113CB, 0x113CB),
   (0x113D6, 0x113D6), (0x113D9, 0x113E0), (0x113E3, 0x113FF), (0x1145C, 0x1145C),
   (0x11462, 0x1147F), (0x114C8, 0x114CF), (0x114DA, 0x1157F), (0x115B6, 0x115B7),
   (0x115DE, 0x115FF), (0x11645, 0x1164F), (0x1165A, 0x1165F), (0x1166D, 0x1167F),
   (0x116BA, 0x116BF), (0x116CA, 0x116CF), (0x116E4, 0x116FF), (0x1171B, 0x1171C),
   (0x1172C, 0x1172F), (0x11747, 0x117FF), (0x1183C, 0x1189F), (0x118F3, 0x118FE),
   (0x11907, 0x11908), (0x1190A, 0x1190B), (0x11914, 0x11914), (0x11917, 0x11917),
   (0x11936, 0x11936), (0x11939, 0x1193A), (0x11947, 0x1194F), (0x1195A, 0x1199F),
   (0x119A8, 0x119A9), (0x119D8, 0x119D9), (0x119E5, 0x119FF), (0x11A48, 0x11A4F),
   (0x11AA3, 0x11AAF), (0x11AF9, 0x11AFF), (0x11B0A, 0x11B5F), (0x11B68, 0x11BBF),
   (0x11BE2, 0x11BEF), (0x11BFA, 0x11BFF), (0x11C09, 0x11C09), (0x11C37, 0x11C37),
   (0x11C46, 0x11C4F), (0x11C6D, 0x11C6F), (0x11C90, 0x11C91), (0x11CA8, 0x11CA8),
   (0x11CB7, 0x11CFF), (0x11D07, 0x11D07), (0x11D0A, 0x11D0A), (0x11D37, 0x11D39),
   (0x11D3B, 0x11D3B), (0x11D3E, 0x11D3E), (0x11D48, 0x11D4F), (0x11D5A, 0x11D5F),
   (0x11D66, 0x11D66), (0x11D69, 0x11D69), (0x11D8F, 0x11D8F), (0x11D92, 0x11D92),
   (0x11D99, 0x11D9F), (0x11DAA, 0x11DAF), (0x11DDC, 0x11DDF), (0x11DEA, 0x11DEF),
   (0x11E00, 0x11EDF), (0x11EF9, 0x11EFF), (0x11F11, 0x11F11), (0x11F3B, 0x11F3D),
   (0x11F5B, 0x11FAF), (0x11FB1, 0x11FBF), (0x11FF2, 0x11FFE), (0x1239A, 0x123FF),
   (0x1246F, 0x1246F), (0x12475, 0x1247F), (0x12544, 0x1254F), (0x12687, 0x12F8F),
   (0x12FF3, 0x12FFF), (0x13430, 0x1343F), (0x13456, 0x1345F), (0x143FB, 0x143FF),
   (0x14647, 0x160FF), (0x1613A, 0x167FF), (0x16A39, 0x16A3F), (0x16A5F, 0x16A5F),
   (0x16A6A, 0x16A6D), (0x16ABF, 0x16ABF), (0x16ACA, 0x16ACF), (0x16AEE, 0x16AEF),
   (0x16AF6, 0x16AFF), (0x16B46, 0x16B4F), (0x16B5A, 0x16B5A), (0x16B62, 0x16B62),
   (0x16B78, 0x16B7C), (0x16B90, 0x16D3F), (0x16D7A, 0x16D7F), (0x16D9E, 0x16D9F),
   (0x16DAA, 0x16E3F), (0x16E9B, 0x16E9F), (0x16EB9, 0x16EBA), (0x16ED4, 0x16EFF),
   (0x16F4B, 0x16F4E), (0x16F88, 0x16F8E), (0x16FA0, 0x16FDF), (0x16FE5, 0x16FEF),
   (0x16FF7, 0x16FFF), (0x18CD6, 0x18CFE), (0x18D1F, 0x18D7F), (0x18DF3, 0x18DFF),
   (0x19192, 0x1919F), (0x191D3, 0x1AFEF), (0x1AFF4, 0x1AFF4), (0x1AFFC, 0x1AFFC),
   (0x1AFFF, 0x1AFFF), (0x1B123, 0x1B131), (0x1B133, 0x1B14F), (0x1B153, 0x1B154),
   (0x1B156, 0x1B163), (0x1B168, 0x1B16F), (0x1B2FC, 0x1BBFF), (0x1BC6B, 0x1BC6F),
   (0x1BC7D, 0x1BC7F), (0x1BC89, 0x1BC8F), (0x1BC9A, 0x1BC9B), (0x1BCA4, 0x1CBFF),
   (0x1CCFD, 0x1CCFF), (0x1CEB4, 0x1CEB9), (0x1CED1, 0x1CEDF), (0x1CEF1, 0x1CEFF),
   (0x1CF2E, 0x1CF2F), (0x1CF47, 0x1CF4F), (0x1CFC4, 0x1CFFF), (0x1D0F6, 0x1D0FF),
   (0x1D127, 0x1D128), (0x1D1EB, 0x1D1FF), (0x1D246, 0x1D24F), (0x1D28B, 0x1D2BF),
   (0x1D2D4, 0x1D2DF), (0x1D2F4, 0x1D2FF), (0x1D357, 0x1D35F), (0x1D379, 0x1D3FF),
   (0x1D455, 0x1D455), (0x1D49D, 0x1D49D), (0x1D4A0, 0x1D4A1), (0x1D4A3, 0x1D4A4),
   (0x1D4A7, 0x1D4A8), (0x1D4AD, 0x1D4AD), (0x1D4BA, 0x1D4BA), (0x1D4BC, 0x1D4BC),
   (0x1D4C4, 0x1D4C4), (0x1D506, 0x1D506), (0x1D50B, 0x1D50C), (0x1D515, 0x1D515),
   (0x1D51D, 0x1D51D), (0x1D53A, 0x1D53A), (0x1D53F, 0x1D53F), (0x1D545, 0x1D545),
   (0x1D547, 0x1D549), (0x1D551, 0x1D551), (0x1D6A6, 0x1D6A7), (0x1D7CC, 0x1D7CD),
   (0x1DA8C, 0x1DA9A), (0x1DAA0, 0x1DAA0), (0x1DAB0, 0x1DEFF), (0x1DF1F, 0x1DF24),
   (0x1DF2B, 0x1DFFF), (0x1E007, 0x1E007), (0x1E019, 0x1E01A), (0x1E022, 0x1E022),
   (0x1E025, 0x1E025), (0x1E02B, 0x1E02F), (0x1E06E, 0x1E08E), (0x1E090, 0x1E0FF),
   (0x1E12D, 0x1E12F), (0x1E13E, 0x1E13F), (0x1E14A, 0x1E14D), (0x1E150, 0x1E28F),
   (0x1E2AF, 0x1E2BF), (0x1E2FA, 0x1E2FE), (0x1E300, 0x1E4CF), (0x1E4FA, 0x1E5CF),
   (0x1E5FB, 0x1E5FE), (0x1E600, 0x1E6BF), (0x1E6DF, 0x1E6DF), (0x1E6F6, 0x1E6FD),
   (0x1E700, 0x1E7DF), (0x1E7E7, 0x1E7E7), (0x1E7EC, 0x1E7EC), (0x1E7EF, 0x1E7EF),
   (0x1E7FF, 0x1E7FF), (0x1E8C5, 0x1E8C6), (0x1E8D7, 0x1E8FF), (0x1E94C, 0x1E94F),
   (0x1E95A, 0x1E95D), (0x1E960, 0x1EC70), (0x1ECB5, 0x1ED00), (0x1ED3E, 0x1EDFF),
   (0x1EE04, 0x1EE04), (0x1EE20, 0x1EE20), (0x1EE23, 0x1EE23), (0x1EE25, 0x1EE26),
   (0x1EE28, 0x1EE28), (0x1EE33, 0x1EE33), (0x1EE38, 0x1EE38), (0x1EE3A, 0x1EE3A),
   (0x1EE3C, 0x1EE41), (0x1EE43, 0x1EE46), (0x1EE48, 0x1EE48), (0x1EE4A, 0x1EE4A),
   (0x1EE4C, 0x1EE4C), (0x1EE50, 0x1EE50), (0x1EE53, 0x1EE53), (0x1EE55, 0x1EE56),
   (0x1EE58, 0x1EE58), (0x1EE5A, 0x1EE5A), (0x1EE5C, 0x1EE5C), (0x1EE5E, 0x1EE5E),
   (0x1EE60, 0x1EE60), (0x1EE63, 0x1EE63), (0x1EE65, 0x1EE66), (0x1EE6B, 0x1EE6B),
   (0x1EE73, 0x1EE73), (0x1EE78, 0x1EE78), (0x1EE7D, 0x1EE7D), (0x1EE7F, 0x1EE7F),
   (0x1EE8A, 0x1EE8A), (0x1EE9C, 0x1EEA0), (0x1EEA4, 0x1EEA4), (0x1EEAA, 0x1EEAA),
   (0x1EEBC, 0x1EEEF), (0x1EEF2, 0x1EFFF), (0x1F02C, 0x1F02F), (0x1F094, 0x1F09F),
   (0x1F0AF, 0x1F0B0), (0x1F0C0, 0x1F0C0), (0x1F0D0, 0x1F0D0), (0x1F0F6, 0x1F100),
   (0x1F1AE, 0x1F1E5), (0x1F203, 0x1F20F), (0x1F23C, 0x1F23F), (0x1F249, 0x1F24F),
   (0x1F252, 0x1F25F), (0x1F266, 0x1F2FF), (0x1F6DA, 0x1F6DB), (0x1F6ED, 0x1F6EF),
   (0x1F6FD, 0x1F6FF), (0x1F7DA, 0x1F7DF), (0x1F7EC, 0x1F7EF), (0x1F7F1, 0x1F7FF),
   (0x1F80C, 0x1F80F), (0x1F848, 0x1F84F), (0x1F85A, 0x1F85F), (0x1F888, 0x1F88F),
   (0x1F8AE, 0x1F8AF), (0x1F8BC, 0x1F8BF), (0x1F8C2, 0x1F8CF), (0x1F8D9, 0x1F8FF),
   (0x1FA58, 0x1FA5F), (0x1FA6E, 0x1FA6F), (0x1FA7D, 0x1FA7F), (0x1FAC7, 0x1FAC7),
   (0x1FAC9, 0x1FACB), (0x1FADE, 0x1FADE), (0x1FAEC, 0x1FAEE), (0x1FAFB, 0x1FAFF),
   (0x1FB93, 0x1FB93), (0x1FBFB, 0x1FFFF), (0x2A6E0, 0x2A6FF), (0x2B81E, 0x2B81F),
   (0x2CEAE, 0x2CEAF), (0x2EBE1, 0x2EBEF), (0x2EE5E, 0x2F7FF), (0x2FA1E, 0x2FFFF),
   (0x3134B, 0x3134F), (0x3347A, 0x3CFFF), (0x3FC40, 0xE00FF), (0xE01F0, 0x10FFFF)]

/-- Characters that are left out of a name. -/
def ignored : List (Nat × Nat) :=
  [(0xAD, 0xAD), (0x34F, 0x34F), (0x115F, 0x1160), (0x17B4, 0x17B5), (0x180B, 0x180F),
   (0x200B, 0x200B), (0x2060, 0x2064), (0x206A, 0x206F), (0x3164, 0x3164), (0xFE00, 0xFE0F),
   (0xFEFF, 0xFEFF), (0xFFA0, 0xFFA0), (0x1BCA0, 0x1BCA3), (0x1D173, 0x1D17A), (0xE0100, 0xE01EF)]

/-- Variants of ideographs. Each stands for one ideograph of its own. -/
def ideographs : List (Nat × Nat) :=
  [(0x2E9F, 0x2E9F), (0x2EF3, 0x2FD5), (0x3038, 0x303A), (0xF900, 0xFA0D), (0xFA10, 0xFA10),
   (0xFA12, 0xFA12), (0xFA15, 0xFA1E), (0xFA20, 0xFA20), (0xFA22, 0xFA22), (0xFA25, 0xFA26),
   (0xFA2A, 0xFAD9), (0x2F800, 0x2FA1D)]

/-- A row of characters from `first` to `last` in steps. The first stands for `target`,
and each of the others for the character `rise` behind that of the one before it. -/
structure Row where
  first : Nat
  last : Nat
  step : Nat
  target : Nat
  rise : Nat

/-- Rows of characters that stand for one character each. -/
def rows : List Row :=
  [⟨0xB2, 0xB3, 1, 0x32, 1⟩, ⟨0xC0, 0xD6, 1, 0xE0, 1⟩, ⟨0xD8, 0xDE, 1, 0xF8, 1⟩,
   ⟨0x100, 0x12E, 2, 0x101, 2⟩, ⟨0x134, 0x136, 2, 0x135, 2⟩, ⟨0x139, 0x13D, 2, 0x13A, 2⟩,
   ⟨0x141, 0x147, 2, 0x142, 2⟩, ⟨0x14A, 0x176, 2, 0x14B, 2⟩, ⟨0x179, 0x17D, 2, 0x17A, 2⟩,
   ⟨0x182, 0x184, 2, 0x183, 2⟩, ⟨0x186, 0x189, 3, 0x254, 2⟩, ⟨0x18F, 0x190, 1, 0x259, 2⟩,
   ⟨0x1A0, 0x1A4, 2, 0x1A1, 2⟩, ⟨0x1AE, 0x1B1, 3, 0x288, 2⟩, ⟨0x1B3, 0x1B5, 2, 0x1B4, 2⟩,
   ⟨0x1CD, 0x1DB, 2, 0x1CE, 2⟩, ⟨0x1DE, 0x1EE, 2, 0x1DF, 2⟩, ⟨0x1F8, 0x21E, 2, 0x1F9, 2⟩,
   ⟨0x222, 0x232, 2, 0x223, 2⟩, ⟨0x23A, 0x23E, 4, 0x2C65, 1⟩, ⟨0x246, 0x24E, 2, 0x247, 2⟩,
   ⟨0x2B0, 0x2B2, 2, 0x68, 2⟩, ⟨0x2B4, 0x2B5, 1, 0x279, 2⟩, ⟨0x2B7, 0x2B8, 1, 0x77, 2⟩,
   ⟨0x340, 0x341, 1, 0x300, 1⟩, ⟨0x370, 0x372, 2, 0x371, 2⟩, ⟨0x386, 0x388, 2, 0x3AC, 1⟩,
   ⟨0x389, 0x38A, 1, 0x3AE, 1⟩, ⟨0x38C, 0x38E, 2, 0x3CC, 1⟩, ⟨0x391, 0x3A1, 1, 0x3B1, 1⟩,
   ⟨0x3A3, 0x3AB, 1, 0x3C3, 1⟩, ⟨0x3D2, 0x3D5, 3, 0x3C5, 1⟩, ⟨0x3D8, 0x3EE, 2, 0x3D9, 2⟩,
   ⟨0x3F1, 0x3F2, 1, 0x3C1, 2⟩, ⟨0x3FD, 0x3FF, 1, 0x37B, 1⟩, ⟨0x400, 0x40F, 1, 0x450, 1⟩,
   ⟨0x410, 0x42F, 1, 0x430, 1⟩, ⟨0x460, 0x480, 2, 0x461, 2⟩, ⟨0x48A, 0x4BE, 2, 0x48B, 2⟩,
   ⟨0x4C1, 0x4CD, 2, 0x4C2, 2⟩, ⟨0x4D0, 0x52E, 2, 0x4D1, 2⟩, ⟨0x531, 0x556, 1, 0x561, 1⟩,
   ⟨0x10A0, 0x10C5, 1, 0x2D00, 1⟩, ⟨0x13F8, 0x13FD, 1, 0x13F0, 1⟩, ⟨0x1C80, 0x1C81, 1, 0x432, 2⟩,
   ⟨0x1C83, 0x1C84, 1, 0x441, 1⟩, ⟨0x1C90, 0x1CBA, 1, 0x10D0, 1⟩, ⟨0x1CBD, 0x1CBF, 1, 0x10FD, 1⟩,
   ⟨0x1D2C, 0x1D2E, 2, 0x61, 1⟩, ⟨0x1D30, 0x1D31, 1, 0x64, 1⟩, ⟨0x1D33, 0x1D3A, 1, 0x67, 1⟩,
   ⟨0x1D3C, 0x1D3E, 2, 0x6F, 1⟩, ⟨0x1D3F, 0x1D40, 1, 0x72, 2⟩, ⟨0x1D41, 0x1D42, 1, 0x75, 2⟩,
   ⟨0x1D43, 0x1D47, 4, 0x61, 1⟩, ⟨0x1D44, 0x1D45, 1, 0x250, 1⟩, ⟨0x1D48, 0x1D49, 1, 0x64, 1⟩,
   ⟨0x1D4A, 0x1D4B, 1, 0x259, 2⟩, ⟨0x1D4F, 0x1D50, 1, 0x6B, 2⟩, ⟨0x1D52, 0x1D56, 4, 0x6F, 1⟩,
   ⟨0x1D54, 0x1D55, 1, 0x1D16, 1⟩, ⟨0x1D57, 0x1D58, 1, 0x74, 1⟩, ⟨0x1D5D, 0x1D5F, 1, 0x3B2, 1⟩,
   ⟨0x1D60, 0x1D61, 1, 0x3C6, 1⟩, ⟨0x1D64, 0x1D65, 1, 0x75, 1⟩, ⟨0x1D66, 0x1D67, 1, 0x3B2, 1⟩,
   ⟨0x1D69, 0x1D6A, 1, 0x3C6, 1⟩, ⟨0x1DA1, 0x1DA2, 1, 0x25F, 2⟩, ⟨0x1DA4, 0x1DA6, 1, 0x268, 1⟩,
   ⟨0x1DA8, 0x1DAB, 3, 0x29D, 2⟩, ⟨0x1DAC, 0x1DAE, 2, 0x271, 1⟩, ⟨0x1DAF, 0x1DB1, 1, 0x273, 1⟩,
   ⟨0x1DB3, 0x1DB4, 1, 0x282, 1⟩, ⟨0x1DB6, 0x1DB7, 1, 0x289, 1⟩, ⟨0x1DB9, 0x1DBA, 1, 0x28B, 1⟩,
   ⟨0x1DBC, 0x1DBE, 1, 0x290, 1⟩, ⟨0x1E00, 0x1E94, 2, 0x1E01, 2⟩, ⟨0x1EA0, 0x1EFE, 2, 0x1EA1, 2⟩,
   ⟨0x1F08, 0x1F0F, 1, 0x1F00, 1⟩, ⟨0x1F18, 0x1F1D, 1, 0x1F10, 1⟩, ⟨0x1F28, 0x1F2F, 1, 0x1F20, 1⟩,
   ⟨0x1F38, 0x1F3F, 1, 0x1F30, 1⟩, ⟨0x1F48, 0x1F4D, 1, 0x1F40, 1⟩, ⟨0x1F59, 0x1F5F, 2, 0x1F51, 2⟩,
   ⟨0x1F68, 0x1F6F, 1, 0x1F60, 1⟩, ⟨0x1F71, 0x1F77, 2, 0x3AC, 1⟩, ⟨0x1F79, 0x1F7D, 2, 0x3CC, 1⟩,
   ⟨0x1FB8, 0x1FB9, 1, 0x1FB0, 1⟩, ⟨0x1FC8, 0x1FCA, 2, 0x1F72, 2⟩, ⟨0x1FC9, 0x1FCB, 2, 0x3AD, 1⟩,
   ⟨0x1FD8, 0x1FD9, 1, 0x1FD0, 1⟩, ⟨0x1FE8, 0x1FE9, 1, 0x1FE0, 1⟩, ⟨0x1FF9, 0x1FFB, 2, 0x3CC, 2⟩,
   ⟨0x2000, 0x200A, 1, 0x20, 0⟩, ⟨0x2074, 0x2079, 1, 0x34, 1⟩, ⟨0x207D, 0x207E, 1, 0x28, 1⟩,
   ⟨0x2080, 0x2089, 1, 0x30, 1⟩, ⟨0x208D, 0x208E, 1, 0x28, 1⟩, ⟨0x2096, 0x2099, 1, 0x6B, 1⟩,
   ⟨0x209B, 0x209C, 1, 0x73, 1⟩, ⟨0x210A, 0x2110, 3, 0x67, 1⟩, ⟨0x210B, 0x210C, 1, 0x68, 0⟩,
   ⟨0x210E, 0x2111, 3, 0x68, 1⟩, ⟨0x2112, 0x2113, 1, 0x6C, 0⟩, ⟨0x2115, 0x211D, 4, 0x6E, 2⟩,
   ⟨0x211A, 0x211B, 1, 0x71, 1⟩, ⟨0x2124, 0x2128, 4, 0x7A, 0⟩, ⟨0x212C, 0x212D, 1, 0x62, 1⟩,
   ⟨0x212F, 0x2130, 1, 0x65, 0⟩, ⟨0x2133, 0x2134, 1, 0x6D, 2⟩, ⟨0x2135, 0x2138, 1, 0x5D0, 1⟩,
   ⟨0x213C, 0x213F, 3, 0x3C0, 0⟩, ⟨0x213D, 0x213E, 1, 0x3B3, 0⟩, ⟨0x2145, 0x2146, 1, 0x64, 0⟩,
   ⟨0x2148, 0x2149, 1, 0x69, 1⟩, ⟨0x216C, 0x216F, 3, 0x6C, 1⟩, ⟨0x216D, 0x216E, 1, 0x63, 1⟩,
   ⟨0x217C, 0x217F, 3, 0x6C, 1⟩, ⟨0x217D, 0x217E, 1, 0x63, 1⟩, ⟨0x2329, 0x232A, 1, 0x3008, 1⟩,
   ⟨0x2460, 0x2468, 1, 0x31, 1⟩, ⟨0x24B6, 0x24CF, 1, 0x61, 1⟩, ⟨0x24D0, 0x24E9, 1, 0x61, 1⟩,
   ⟨0x2C00, 0x2C2F, 1, 0x2C30, 1⟩, ⟨0x2C67, 0x2C6B, 2, 0x2C68, 2⟩, ⟨0x2C6D, 0x2C70, 3, 0x251, 1⟩,
   ⟨0x2C7E, 0x2C7F, 1, 0x23F, 1⟩, ⟨0x2C80, 0x2CE2, 2, 0x2C81, 2⟩, ⟨0x2CEB, 0x2CED, 2, 0x2CEC, 2⟩,
   ⟨0x3131, 0x3132, 1, 0x1100, 1⟩, ⟨0x3133, 0x3135, 2, 0x11AA, 2⟩, ⟨0x3134, 0x3137, 3, 0x1102, 1⟩,
   ⟨0x3138, 0x3139, 1, 0x1104, 1⟩, ⟨0x313A, 0x313F, 1, 0x11B0, 1⟩, ⟨0x3141, 0x3143, 1, 0x1106, 1⟩,
   ⟨0x3145, 0x314E, 1, 0x1109, 1⟩, ⟨0x314F, 0x3163, 1, 0x1161, 1⟩, ⟨0x3165, 0x3166, 1, 0x1114, 1⟩,
   ⟨0x3167, 0x3168, 1, 0x11C7, 1⟩, ⟨0x3169, 0x316A, 1, 0x11CC, 2⟩, ⟨0x316C, 0x316D, 1, 0x11D7, 2⟩,
   ⟨0x316E, 0x3171, 3, 0x111C, 1⟩, ⟨0x316F, 0x3170, 1, 0x11DD, 2⟩, ⟨0x3172, 0x3174, 1, 0x111E, 2⟩,
   ⟨0x3176, 0x3178, 1, 0x1127, 2⟩, ⟨0x3179, 0x317C, 1, 0x112C, 1⟩, ⟨0x3182, 0x3183, 1, 0x11F1, 1⟩,
   ⟨0x3184, 0x3186, 1, 0x1157, 1⟩, ⟨0x3187, 0x3188, 1, 0x1184, 1⟩, ⟨0x318A, 0x318B, 1, 0x1191, 1⟩,
   ⟨0x3194, 0x3198, 2, 0x4E09, 1⟩, ⟨0x3260, 0x3261, 1, 0x1100, 2⟩, ⟨0x3262, 0x3263, 1, 0x1103, 2⟩,
   ⟨0x3264, 0x3265, 1, 0x1106, 1⟩, ⟨0x3266, 0x3267, 1, 0x1109, 2⟩, ⟨0x3268, 0x3269, 1, 0x110C, 2⟩,
   ⟨0x326A, 0x326D, 1, 0x110F, 1⟩, ⟨0x32A4, 0x32A6, 2, 0x4E0A, 1⟩, ⟨0x32D0, 0x32D4, 1, 0x30A2, 2⟩,
   ⟨0x32D5, 0x32E0, 1, 0x30AB, 2⟩, ⟨0x32E1, 0x32E4, 1, 0x30C4, 2⟩, ⟨0x32E5, 0x32E9, 1, 0x30CB, 1⟩,
   ⟨0x32EE, 0x32F2, 1, 0x30DE, 1⟩, ⟨0x32F3, 0x32F5, 1, 0x30E4, 2⟩, ⟨0x32F6, 0x32FA, 1, 0x30E9, 1⟩,
   ⟨0x32FB, 0x32FE, 1, 0x30EF, 1⟩, ⟨0xA640, 0xA66C, 2, 0xA641, 2⟩, ⟨0xA680, 0xA69A, 2, 0xA681, 2⟩,
   ⟨0xA69C, 0xA69D, 1, 0x44A, 2⟩, ⟨0xA722, 0xA72E, 2, 0xA723, 2⟩, ⟨0xA732, 0xA76E, 2, 0xA733, 2⟩,
   ⟨0xA779, 0xA77B, 2, 0xA77A, 2⟩, ⟨0xA77E, 0xA786, 2, 0xA77F, 2⟩, ⟨0xA790, 0xA792, 2, 0xA791, 2⟩,
   ⟨0xA796, 0xA7A8, 2, 0xA797, 2⟩, ⟨0xA7B4, 0xA7C2, 2, 0xA7B5, 2⟩, ⟨0xA7C7, 0xA7C9, 2, 0xA7C8, 2⟩,
   ⟨0xA7CC, 0xA7DA, 2, 0xA7CD, 2⟩, ⟨0xAB70, 0xABBF, 1, 0x13A0, 1⟩, ⟨0xFB22, 0xFB23, 1, 0x5D3, 1⟩,
   ⟨0xFB24, 0xFB26, 1, 0x5DB, 1⟩, ⟨0xFB27, 0xFB28, 1, 0x5E8, 2⟩, ⟨0xFB50, 0xFB51, 1, 0x671, 0⟩,
   ⟨0xFB52, 0xFB55, 1, 0x67B, 0⟩, ⟨0xFB56, 0xFB59, 1, 0x67E, 0⟩, ⟨0xFB5A, 0xFB5D, 1, 0x680, 0⟩,
   ⟨0xFB5E, 0xFB61, 1, 0x67A, 0⟩, ⟨0xFB62, 0xFB65, 1, 0x67F, 0⟩, ⟨0xFB66, 0xFB69, 1, 0x679, 0⟩,
   ⟨0xFB6A, 0xFB6D, 1, 0x6A4, 0⟩, ⟨0xFB6E, 0xFB71, 1, 0x6A6, 0⟩, ⟨0xFB72, 0xFB75, 1, 0x684, 0⟩,
   ⟨0xFB76, 0xFB79, 1, 0x683, 0⟩, ⟨0xFB7A, 0xFB7D, 1, 0x686, 0⟩, ⟨0xFB7E, 0xFB81, 1, 0x687, 0⟩,
   ⟨0xFB82, 0xFB83, 1, 0x68D, 0⟩, ⟨0xFB84, 0xFB85, 1, 0x68C, 0⟩, ⟨0xFB86, 0xFB87, 1, 0x68E, 0⟩,
   ⟨0xFB88, 0xFB89, 1, 0x688, 0⟩, ⟨0xFB8A, 0xFB8B, 1, 0x698, 0⟩, ⟨0xFB8C, 0xFB8D, 1, 0x691, 0⟩,
   ⟨0xFB8E, 0xFB91, 1, 0x6A9, 0⟩, ⟨0xFB92, 0xFB95, 1, 0x6AF, 0⟩, ⟨0xFB96, 0xFB99, 1, 0x6B3, 0⟩,
   ⟨0xFB9A, 0xFB9D, 1, 0x6B1, 0⟩, ⟨0xFB9E, 0xFB9F, 1, 0x6BA, 0⟩, ⟨0xFBA0, 0xFBA3, 1, 0x6BB, 0⟩,
   ⟨0xFBA4, 0xFBA5, 1, 0x6C0, 0⟩, ⟨0xFBA6, 0xFBA9, 1, 0x6C1, 0⟩, ⟨0xFBAA, 0xFBAD, 1, 0x6BE, 0⟩,
   ⟨0xFBAE, 0xFBAF, 1, 0x6D2, 0⟩, ⟨0xFBB0, 0xFBB1, 1, 0x6D3, 0⟩, ⟨0xFBD3, 0xFBD6, 1, 0x6AD, 0⟩,
   ⟨0xFBD7, 0xFBD8, 1, 0x6C7, 0⟩, ⟨0xFBD9, 0xFBDA, 1, 0x6C6, 0⟩, ⟨0xFBDB, 0xFBDC, 1, 0x6C8, 0⟩,
   ⟨0xFBDE, 0xFBDF, 1, 0x6CB, 0⟩, ⟨0xFBE0, 0xFBE1, 1, 0x6C5, 0⟩, ⟨0xFBE2, 0xFBE3, 1, 0x6C9, 0⟩,
   ⟨0xFBE4, 0xFBE7, 1, 0x6D0, 0⟩, ⟨0xFBE8, 0xFBE9, 1, 0x649, 0⟩, ⟨0xFBFC, 0xFBFF, 1, 0x6CC, 0⟩,
   ⟨0xFE13, 0xFE14, 1, 0x3A, 1⟩, ⟨0xFE17, 0xFE18, 1, 0x3016, 1⟩, ⟨0xFE33, 0xFE34, 1, 0x5F, 0⟩,
   ⟨0xFE35, 0xFE36, 1, 0x28, 1⟩, ⟨0xFE37, 0xFE38, 1, 0x7B, 2⟩, ⟨0xFE39, 0xFE3A, 1, 0x3014, 1⟩,
   ⟨0xFE3B, 0xFE3C, 1, 0x3010, 1⟩, ⟨0xFE3D, 0xFE3E, 1, 0x300A, 1⟩, ⟨0xFE3F, 0xFE40, 1, 0x3008, 1⟩,
   ⟨0xFE41, 0xFE44, 1, 0x300C, 1⟩, ⟨0xFE47, 0xFE48, 1, 0x5B, 2⟩, ⟨0xFE4D, 0xFE4F, 1, 0x5F, 0⟩,
   ⟨0xFE59, 0xFE5A, 1, 0x28, 1⟩, ⟨0xFE5B, 0xFE5C, 1, 0x7B, 2⟩, ⟨0xFE5D, 0xFE5E, 1, 0x3014, 1⟩,
   ⟨0xFE61, 0xFE62, 1, 0x2A, 1⟩, ⟨0xFE64, 0xFE65, 1, 0x3C, 2⟩, ⟨0xFE69, 0xFE6A, 1, 0x24, 1⟩,
   ⟨0xFE80, 0xFE8A, 2, 0x621, 1⟩, ⟨0xFE81, 0xFE89, 2, 0x622, 1⟩, ⟨0xFE8B, 0xFE9D, 3, 0x626, 1⟩,
   ⟨0xFE8C, 0xFE8D, 1, 0x626, 1⟩, ⟨0xFE8F, 0xFE90, 1, 0x628, 0⟩, ⟨0xFE92, 0xFE93, 1, 0x628, 1⟩,
   ⟨0xFE95, 0xFE96, 1, 0x62A, 0⟩, ⟨0xFE98, 0xFEA8, 4, 0x62A, 1⟩, ⟨0xFE99, 0xFE9B, 2, 0x62B, 0⟩,
   ⟨0xFE9E, 0xFEAA, 4, 0x62C, 1⟩, ⟨0xFE9F, 0xFEA7, 4, 0x62C, 1⟩, ⟨0xFEA1, 0xFEA9, 4, 0x62D, 1⟩,
   ⟨0xFEAB, 0xFEB1, 2, 0x630, 1⟩, ⟨0xFEAC, 0xFEB2, 2, 0x630, 1⟩, ⟨0xFEB3, 0xFECF, 4, 0x633, 1⟩,
   ⟨0xFEB4, 0xFED0, 4, 0x633, 1⟩, ⟨0xFEB5, 0xFECD, 4, 0x634, 1⟩, ⟨0xFEB6, 0xFECE, 4, 0x634, 1⟩,
   ⟨0xFED1, 0xFEED, 4, 0x641, 1⟩, ⟨0xFED2, 0xFEEE, 4, 0x641, 1⟩, ⟨0xFED3, 0xFEEB, 4, 0x641, 1⟩,
   ⟨0xFED4, 0xFEEC, 4, 0x641, 1⟩, ⟨0xFEEF, 0xFEF0, 1, 0x649, 0⟩, ⟨0xFEF1, 0xFEF4, 1, 0x64A, 0⟩,
   ⟨0xFF01, 0xFF20, 1, 0x21, 1⟩, ⟨0xFF21, 0xFF3A, 1, 0x61, 1⟩, ⟨0xFF3B, 0xFF5E, 1, 0x5B, 1⟩,
   ⟨0xFF5F, 0xFF60, 1, 0x2985, 1⟩, ⟨0xFF62, 0xFF63, 1, 0x300C, 1⟩, ⟨0xFF67, 0xFF6B, 1, 0x30A1, 2⟩,
   ⟨0xFF6C, 0xFF6E, 1, 0x30E3, 2⟩, ⟨0xFF71, 0xFF75, 1, 0x30A2, 2⟩, ⟨0xFF76, 0xFF81, 1, 0x30AB, 2⟩,
   ⟨0xFF82, 0xFF85, 1, 0x30C4, 2⟩, ⟨0xFF86, 0xFF8A, 1, 0x30CB, 1⟩, ⟨0xFF8F, 0xFF93, 1, 0x30DE, 1⟩,
   ⟨0xFF94, 0xFF96, 1, 0x30E4, 2⟩, ⟨0xFF97, 0xFF9B, 1, 0x30E9, 1⟩, ⟨0xFF9E, 0xFF9F, 1, 0x3099, 1⟩,
   ⟨0xFFA1, 0xFFA2, 1, 0x1100, 1⟩, ⟨0xFFA3, 0xFFA5, 2, 0x11AA, 2⟩, ⟨0xFFA4, 0xFFA7, 3, 0x1102, 1⟩,
   ⟨0xFFA8, 0xFFA9, 1, 0x1104, 1⟩, ⟨0xFFAA, 0xFFAF, 1, 0x11B0, 1⟩, ⟨0xFFB1, 0xFFB3, 1, 0x1106, 1⟩,
   ⟨0xFFB5, 0xFFBE, 1, 0x1109, 1⟩, ⟨0xFFC2, 0xFFC7, 1, 0x1161, 1⟩, ⟨0xFFCA, 0xFFCF, 1, 0x1167, 1⟩,
   ⟨0xFFD2, 0xFFD7, 1, 0x116D, 1⟩, ⟨0xFFDA, 0xFFDC, 1, 0x1173, 1⟩, ⟨0xFFE0, 0xFFE1, 1, 0xA2, 1⟩,
   ⟨0xFFE9, 0xFFEC, 1, 0x2190, 1⟩, ⟨0x10400, 0x10427, 1, 0x10428, 1⟩,
   ⟨0x104B0, 0x104D3, 1, 0x104D8, 1⟩, ⟨0x10570, 0x10594, 2, 0x10597, 2⟩,
   ⟨0x10571, 0x10579, 2, 0x10598, 2⟩, ⟨0x1057D, 0x10589, 2, 0x105A4, 2⟩,
   ⟨0x1058D, 0x10591, 2, 0x105B4, 2⟩, ⟨0x10781, 0x10782, 1, 0x2D0, 1⟩,
   ⟨0x10787, 0x10789, 2, 0x2A3, 2⟩, ⟨0x1078B, 0x1078C, 1, 0x256, 1⟩,
   ⟨0x1078F, 0x10793, 4, 0x25E, 2⟩, ⟨0x10794, 0x10796, 2, 0x29B, 1⟩,
   ⟨0x10799, 0x1079A, 1, 0x2AA, 1⟩, ⟨0x1079B, 0x1079E, 3, 0x26C, 2⟩,
   ⟨0x1079C, 0x1079F, 3, 0x1DF04, 1⟩, ⟨0x107A3, 0x107A4, 1, 0x276, 1⟩,
   ⟨0x107A8, 0x107A9, 1, 0x27D, 1⟩, ⟨0x107AC, 0x107AE, 2, 0x2A6, 1⟩,
   ⟨0x107B3, 0x107B4, 1, 0x2A1, 1⟩, ⟨0x107B6, 0x107B8, 1, 0x1C0, 1⟩,
   ⟨0x10C80, 0x10CB2, 1, 0x10CC0, 1⟩, ⟨0x10D50, 0x10D65, 1, 0x10D70, 1⟩,
   ⟨0x118A0, 0x118BF, 1, 0x118C0, 1⟩, ⟨0x16E40, 0x16E5F, 1, 0x16E60, 1⟩,
   ⟨0x16EA0, 0x16EB8, 1, 0x16EBB, 1⟩, ⟨0x1CCD6, 0x1CCEF, 1, 0x61, 1⟩,
   ⟨0x1CCF0, 0x1CCF9, 1, 0x30, 1⟩, ⟨0x1D400, 0x1D419, 1, 0x61, 1⟩, ⟨0x1D41A, 0x1D433, 1, 0x61, 1⟩,
   ⟨0x1D434, 0x1D44D, 1, 0x61, 1⟩, ⟨0x1D44E, 0x1D466, 2, 0x61, 2⟩, ⟨0x1D44F, 0x1D453, 2, 0x62, 2⟩,
   ⟨0x1D457, 0x1D467, 2, 0x6A, 2⟩, ⟨0x1D468, 0x1D481, 1, 0x61, 1⟩, ⟨0x1D482, 0x1D49B, 1, 0x61, 1⟩,
   ⟨0x1D49C, 0x1D49E, 2, 0x61, 2⟩, ⟨0x1D4A5, 0x1D4A6, 1, 0x6A, 1⟩, ⟨0x1D4A9, 0x1D4AC, 1, 0x6E, 1⟩,
   ⟨0x1D4AE, 0x1D4B5, 1, 0x73, 1⟩, ⟨0x1D4B6, 0x1D4B9, 1, 0x61, 1⟩, ⟨0x1D4BB, 0x1D4CF, 2, 0x66, 2⟩,
   ⟨0x1D4BE, 0x1D4C2, 2, 0x69, 2⟩, ⟨0x1D4C6, 0x1D4CE, 2, 0x71, 2⟩, ⟨0x1D4D0, 0x1D4E9, 1, 0x61, 1⟩,
   ⟨0x1D4EA, 0x1D503, 1, 0x61, 1⟩, ⟨0x1D504, 0x1D505, 1, 0x61, 1⟩, ⟨0x1D507, 0x1D50A, 1, 0x64, 1⟩,
   ⟨0x1D50D, 0x1D514, 1, 0x6A, 1⟩, ⟨0x1D516, 0x1D51C, 1, 0x73, 1⟩, ⟨0x1D51E, 0x1D537, 1, 0x61, 1⟩,
   ⟨0x1D538, 0x1D539, 1, 0x61, 1⟩, ⟨0x1D53B, 0x1D53E, 1, 0x64, 1⟩, ⟨0x1D540, 0x1D544, 1, 0x69, 1⟩,
   ⟨0x1D54A, 0x1D550, 1, 0x73, 1⟩, ⟨0x1D552, 0x1D56B, 1, 0x61, 1⟩, ⟨0x1D56C, 0x1D585, 1, 0x61, 1⟩,
   ⟨0x1D586, 0x1D59F, 1, 0x61, 1⟩, ⟨0x1D5A0, 0x1D5B9, 1, 0x61, 1⟩, ⟨0x1D5BA, 0x1D5D3, 1, 0x61, 1⟩,
   ⟨0x1D5D4, 0x1D5ED, 1, 0x61, 1⟩, ⟨0x1D5EE, 0x1D607, 1, 0x61, 1⟩, ⟨0x1D608, 0x1D621, 1, 0x61, 1⟩,
   ⟨0x1D622, 0x1D63B, 1, 0x61, 1⟩, ⟨0x1D63C, 0x1D655, 1, 0x61, 1⟩, ⟨0x1D656, 0x1D66F, 1, 0x61, 1⟩,
   ⟨0x1D670, 0x1D689, 1, 0x61, 1⟩, ⟨0x1D68A, 0x1D6A3, 1, 0x61, 1⟩,
   ⟨0x1D6A8, 0x1D6B8, 1, 0x3B1, 1⟩, ⟨0x1D6BA, 0x1D6C0, 1, 0x3C3, 1⟩,
   ⟨0x1D6C2, 0x1D6D2, 1, 0x3B1, 1⟩, ⟨0x1D6D3, 0x1D6D4, 1, 0x3C3, 0⟩,
   ⟨0x1D6D5, 0x1D6DA, 1, 0x3C4, 1⟩, ⟨0x1D6DD, 0x1D6DE, 1, 0x3B8, 2⟩,
   ⟨0x1D6E2, 0x1D6F2, 1, 0x3B1, 1⟩, ⟨0x1D6F4, 0x1D6FA, 1, 0x3C3, 1⟩,
   ⟨0x1D6FC, 0x1D70C, 1, 0x3B1, 1⟩, ⟨0x1D70D, 0x1D70E, 1, 0x3C3, 0⟩,
   ⟨0x1D70F, 0x1D714, 1, 0x3C4, 1⟩, ⟨0x1D717, 0x1D718, 1, 0x3B8, 2⟩,
   ⟨0x1D71C, 0x1D72C, 1, 0x3B1, 1⟩, ⟨0x1D72E, 0x1D734, 1, 0x3C3, 1⟩,
   ⟨0x1D736, 0x1D746, 1, 0x3B1, 1⟩, ⟨0x1D747, 0x1D748, 1, 0x3C3, 0⟩,
   ⟨0x1D749, 0x1D74E, 1, 0x3C4, 1⟩, ⟨0x1D751, 0x1D752, 1, 0x3B8, 2⟩,
   ⟨0x1D756, 0x1D766, 1, 0x3B1, 1⟩, ⟨0x1D768, 0x1D76E, 1, 0x3C3, 1⟩,
   ⟨0x1D770, 0x1D780, 1, 0x3B1, 1⟩, ⟨0x1D781, 0x1D782, 1, 0x3C3, 0⟩,
   ⟨0x1D783, 0x1D788, 1, 0x3C4, 1⟩, ⟨0x1D78B, 0x1D78C, 1, 0x3B8, 2⟩,
   ⟨0x1D790, 0x1D7A0, 1, 0x3B1, 1⟩, ⟨0x1D7A2, 0x1D7A8, 1, 0x3C3, 1⟩,
   ⟨0x1D7AA, 0x1D7BA, 1, 0x3B1, 1⟩, ⟨0x1D7BB, 0x1D7BC, 1, 0x3C3, 0⟩,
   ⟨0x1D7BD, 0x1D7C2, 1, 0x3C4, 1⟩, ⟨0x1D7C5, 0x1D7C6, 1, 0x3B8, 2⟩,
   ⟨0x1D7CA, 0x1D7CB, 1, 0x3DD, 0⟩, ⟨0x1D7CE, 0x1D7D7, 1, 0x30, 1⟩,
   ⟨0x1D7D8, 0x1D7E1, 1, 0x30, 1⟩, ⟨0x1D7E2, 0x1D7EB, 1, 0x30, 1⟩, ⟨0x1D7EC, 0x1D7F5, 1, 0x30, 1⟩,
   ⟨0x1D7F6, 0x1D7FF, 1, 0x30, 1⟩, ⟨0x1E030, 0x1E038, 1, 0x430, 1⟩,
   ⟨0x1E039, 0x1E03B, 1, 0x43A, 1⟩, ⟨0x1E03C, 0x1E046, 1, 0x43E, 1⟩,
   ⟨0x1E047, 0x1E048, 1, 0x44B, 2⟩, ⟨0x1E04C, 0x1E04D, 1, 0x456, 2⟩,
   ⟨0x1E051, 0x1E059, 1, 0x430, 1⟩, ⟨0x1E05A, 0x1E05B, 1, 0x43A, 1⟩,
   ⟨0x1E05C, 0x1E05D, 1, 0x43E, 1⟩, ⟨0x1E05E, 0x1E05F, 1, 0x441, 2⟩,
   ⟨0x1E060, 0x1E064, 1, 0x444, 1⟩, ⟨0x1E065, 0x1E066, 1, 0x44A, 1⟩,
   ⟨0x1E900, 0x1E921, 1, 0x1E922, 1⟩, ⟨0x1EE00, 0x1EE01, 1, 0x627, 1⟩,
   ⟨0x1EE05, 0x1EE09, 4, 0x648, 2⟩, ⟨0x1EE0A, 0x1EE0D, 1, 0x643, 1⟩,
   ⟨0x1EE0E, 0x1EE11, 3, 0x633, 2⟩, ⟨0x1EE10, 0x1EE12, 2, 0x641, 1⟩,
   ⟨0x1EE15, 0x1EE16, 1, 0x62A, 1⟩, ⟨0x1EE17, 0x1EE18, 1, 0x62E, 2⟩,
   ⟨0x1EE19, 0x1EE1B, 1, 0x636, 2⟩, ⟨0x1EE1C, 0x1EE1F, 3, 0x66E, 1⟩,
   ⟨0x1EE2A, 0x1EE2D, 1, 0x643, 1⟩, ⟨0x1EE2E, 0x1EE31, 3, 0x633, 2⟩,
   ⟨0x1EE30, 0x1EE32, 2, 0x641, 1⟩, ⟨0x1EE35, 0x1EE36, 1, 0x62A, 1⟩,
   ⟨0x1EE4B, 0x1EE4D, 2, 0x644, 2⟩, ⟨0x1EE4E, 0x1EE51, 3, 0x633, 2⟩,
   ⟨0x1EE6A, 0x1EE6C, 2, 0x643, 2⟩, ⟨0x1EE6E, 0x1EE71, 3, 0x633, 2⟩,
   ⟨0x1EE70, 0x1EE72, 2, 0x641, 1⟩, ⟨0x1EE75, 0x1EE76, 1, 0x62A, 1⟩,
   ⟨0x1EE79, 0x1EE7B, 1, 0x636, 2⟩, ⟨0x1EE80, 0x1EE81, 1, 0x627, 1⟩,
   ⟨0x1EE84, 0x1EE85, 1, 0x647, 1⟩, ⟨0x1EE8B, 0x1EE8D, 1, 0x644, 1⟩,
   ⟨0x1EE8E, 0x1EE91, 3, 0x633, 2⟩, ⟨0x1EE90, 0x1EE92, 2, 0x641, 1⟩,
   ⟨0x1EE95, 0x1EE96, 1, 0x62A, 1⟩, ⟨0x1EE97, 0x1EE98, 1, 0x62E, 2⟩,
   ⟨0x1EE99, 0x1EE9B, 1, 0x636, 2⟩, ⟨0x1EEA5, 0x1EEA9, 4, 0x648, 2⟩,
   ⟨0x1EEAB, 0x1EEAD, 1, 0x644, 1⟩, ⟨0x1EEAE, 0x1EEB1, 3, 0x633, 2⟩,
   ⟨0x1EEB0, 0x1EEB2, 2, 0x641, 1⟩, ⟨0x1EEB5, 0x1EEB6, 1, 0x62A, 1⟩,
   ⟨0x1EEB7, 0x1EEB8, 1, 0x62E, 2⟩, ⟨0x1EEB9, 0x1EEBB, 1, 0x636, 2⟩,
   ⟨0x1F130, 0x1F149, 1, 0x61, 1⟩, ⟨0x1FBF0, 0x1FBF9, 1, 0x30, 1⟩]

/-- Further characters that stand for one character each. -/
def singles : List (Nat × Nat) :=
  [(0xA0, 0x20), (0xAA, 0x61), (0xB5, 0x3BC), (0xB9, 0x31), (0xBA, 0x6F), (0x178, 0xFF),
   (0x17F, 0x73), (0x181, 0x253), (0x187, 0x188), (0x18A, 0x257), (0x18B, 0x18C), (0x18E, 0x1DD),
   (0x191, 0x192), (0x193, 0x260), (0x194, 0x263), (0x196, 0x269), (0x197, 0x268), (0x198, 0x199),
   (0x19C, 0x26F), (0x19D, 0x272), (0x19F, 0x275), (0x1A6, 0x280), (0x1A7, 0x1A8), (0x1A9, 0x283),
   (0x1AC, 0x1AD), (0x1AF, 0x1B0), (0x1B2, 0x28B), (0x1B7, 0x292), (0x1B8, 0x1B9), (0x1BC, 0x1BD),
   (0x1F4, 0x1F5), (0x1F6, 0x195), (0x1F7, 0x1BF), (0x220, 0x19E), (0x23B, 0x23C), (0x23D, 0x19A),
   (0x241, 0x242), (0x243, 0x180), (0x244, 0x289), (0x245, 0x28C), (0x2B1, 0x266), (0x2B3, 0x72),
   (0x2B6, 0x281), (0x2E0, 0x263), (0x2E1, 0x6C), (0x2E2, 0x73), (0x2E3, 0x78), (0x2E4, 0x295),
   (0x343, 0x313), (0x345, 0x3B9), (0x374, 0x2B9), (0x376, 0x377), (0x37E, 0x3B), (0x37F, 0x3F3),
   (0x387, 0xB7), (0x38F, 0x3CE), (0x3CF, 0x3D7), (0x3D0, 0x3B2), (0x3D1, 0x3B8), (0x3D3, 0x3CD),
   (0x3D4, 0x3CB), (0x3D6, 0x3C0), (0x3F0, 0x3BA), (0x3F4, 0x3B8), (0x3F5, 0x3B5), (0x3F7, 0x3F8),
   (0x3F9, 0x3C3), (0x3FA, 0x3FB), (0x4C0, 0x4CF), (0xF0C, 0xF0B), (0x10C7, 0x2D27),
   (0x10CD, 0x2D2D), (0x10FC, 0x10DC), (0x1C82, 0x43E), (0x1C85, 0x442), (0x1C86, 0x44A),
   (0x1C87, 0x463), (0x1C88, 0xA64B), (0x1C89, 0x1C8A), (0x1D2D, 0xE6), (0x1D32, 0x1DD),
   (0x1D3D, 0x223), (0x1D46, 0x1D02), (0x1D4C, 0x25C), (0x1D4D, 0x67), (0x1D51, 0x14B),
   (0x1D53, 0x254), (0x1D59, 0x1D1D), (0x1D5A, 0x26F), (0x1D5B, 0x76), (0x1D5C, 0x1D25),
   (0x1D62, 0x69), (0x1D63, 0x72), (0x1D68, 0x3C1), (0x1D78, 0x43D), (0x1D9B, 0x252),
   (0x1D9C, 0x63), (0x1D9D, 0x255), (0x1D9E, 0xF0), (0x1D9F, 0x25C), (0x1DA0, 0x66),
   (0x1DA3, 0x265), (0x1DA7, 0x1D7B), (0x1DA9, 0x26D), (0x1DAA, 0x1D85), (0x1DAD, 0x270),
   (0x1DB2, 0x278), (0x1DB5, 0x1AB), (0x1DB8, 0x1D1C), (0x1DBB, 0x7A), (0x1DBF, 0x3B8),
   (0x1E9B, 0x1E61), (0x1E9E, 0xDF), (0x1FBA, 0x1F70), (0x1FBB, 0x3AC), (0x1FBE, 0x3B9),
   (0x1FD3, 0x390), (0x1FDA, 0x1F76), (0x1FDB, 0x3AF), (0x1FE3, 0x3B0), (0x1FEA, 0x1F7A),
   (0x1FEB, 0x3CD), (0x1FEC, 0x1FE5), (0x1FEF, 0x60), (0x1FF8, 0x1F78), (0x1FFA, 0x1F7C),
   (0x2011, 0x2010), (0x202F, 0x20), (0x205F, 0x20), (0x2070, 0x30), (0x2071, 0x69),
   (0x207A, 0x2B), (0x207B, 0x2212), (0x207C, 0x3D), (0x207F, 0x6E), (0x208A, 0x2B),
   (0x208B, 0x2212), (0x208C, 0x3D), (0x2090, 0x61), (0x2091, 0x65), (0x2092, 0x6F),
   (0x2093, 0x78), (0x2094, 0x259), (0x2095, 0x68), (0x209A, 0x70), (0x209D, 0x77),
   (0x209E, 0x79), (0x209F, 0x7A), (0x2102, 0x63), (0x2107, 0x25B), (0x210F, 0x127),
   (0x211C, 0x72), (0x2126, 0x3C9), (0x212A, 0x6B), (0x212B, 0xE5), (0x2131, 0x66),
   (0x2132, 0x214E), (0x2139, 0x69), (0x2140, 0x2211), (0x2147, 0x65), (0x2160, 0x69),
   (0x2164, 0x76), (0x2169, 0x78), (0x2170, 0x69), (0x2174, 0x76), (0x2179, 0x78),
   (0x2183, 0x2184), (0x24EA, 0x30), (0x2C60, 0x2C61), (0x2C62, 0x26B), (0x2C63, 0x1D7D),
   (0x2C64, 0x27D), (0x2C6E, 0x271), (0x2C6F, 0x250), (0x2C72, 0x2C73), (0x2C75, 0x2C76),
   (0x2C7C, 0x6A), (0x2C7D, 0x76), (0x2CF2, 0x2CF3), (0x2D6F, 0x2D61), (0x3000, 0x20),
   (0x3002, 0x2E), (0x3036, 0x3012), (0x3136, 0x11AD), (0x3140, 0x111A), (0x3144, 0x1121),
   (0x316B, 0x11D3), (0x3175, 0x1123), (0x317D, 0x1132), (0x317E, 0x1136), (0x317F, 0x1140),
   (0x3180, 0x1147), (0x3181, 0x114C), (0x3189, 0x1188), (0x318C, 0x1194), (0x318D, 0x119E),
   (0x318E, 0x11A1), (0x3192, 0x4E00), (0x3193, 0x4E8C), (0x3195, 0x56DB), (0x3197, 0x4E2D),
   (0x3199, 0x7532), (0x319A, 0x4E59), (0x319B, 0x4E19), (0x319C, 0x4E01), (0x319D, 0x5929),
   (0x319E, 0x5730), (0x319F, 0x4EBA), (0x3244, 0x554F), (0x3245, 0x5E7C), (0x3246, 0x6587),
   (0x3247, 0x7B8F), (0x326E, 0xAC00), (0x326F, 0xB098), (0x3270, 0xB2E4), (0x3271, 0xB77C),
   (0x3272, 0xB9C8), (0x3273, 0xBC14), (0x3274, 0xC0AC), (0x3275, 0xC544), (0x3276, 0xC790),
   (0x3277, 0xCC28), (0x3278, 0xCE74), (0x3279, 0xD0C0), (0x327A, 0xD30C), (0x327B, 0xD558),
   (0x327E, 0xC6B0), (0x3280, 0x4E00), (0x3281, 0x4E8C), (0x3282, 0x4E09), (0x3283, 0x56DB),
   (0x3284, 0x4E94), (0x3285, 0x516D), (0x3286, 0x4E03), (0x3287, 0x516B), (0x3288, 0x4E5D),
   (0x3289, 0x5341), (0x328A, 0x6708), (0x328B, 0x706B), (0x328C, 0x6C34), (0x328D, 0x6728),
   (0x328E, 0x91D1), (0x328F, 0x571F), (0x3290, 0x65E5), (0x3291, 0x682A), (0x3292, 0x6709),
   (0x3293, 0x793E), (0x3294, 0x540D), (0x3295, 0x7279), (0x3296, 0x8CA1), (0x3297, 0x795D),
   (0x3298, 0x52B4), (0x3299, 0x79D8), (0x329A, 0x7537), (0x329B, 0x5973), (0x329C, 0x9069),
   (0x329D, 0x512A), (0x329E, 0x5370), (0x329F, 0x6CE8), (0x32A0, 0x9805), (0x32A1, 0x4F11),
   (0x32A2, 0x5199), (0x32A3, 0x6B63), (0x32A5, 0x4E2D), (0x32A7, 0x5DE6), (0x32A8, 0x53F3),
   (0x32A9, 0x533B), (0x32AA, 0x5B97), (0x32AB, 0x5B66), (0x32AC, 0x76E3), (0x32AD, 0x4F01),
   (0x32AE, 0x8CC7), (0x32AF, 0x5354), (0x32B0, 0x591C), (0x32EA, 0x30D2), (0x32EB, 0x30D5),
   (0x32EC, 0x30D8), (0x32ED, 0x30DB), (0xA770, 0xA76F), (0xA77D, 0x1D79), (0xA78B, 0xA78C),
   (0xA78D, 0x265), (0xA7AA, 0x266), (0xA7AB, 0x25C), (0xA7AC, 0x261), (0xA7AD, 0x26C),
   (0xA7AE, 0x26A), (0xA7B0, 0x29E), (0xA7B1, 0x287), (0xA7B2, 0x29D), (0xA7B3, 0xAB53),
   (0xA7C4, 0xA794), (0xA7C5, 0x282), (0xA7C6, 0x1D8E), (0xA7CB, 0x264), (0xA7DC, 0x19B),
   (0xA7F1, 0x73), (0xA7F2, 0x63), (0xA7F3, 0x66), (0xA7F4, 0x71), (0xA7F5, 0xA7F6),
   (0xA7F8, 0x127), (0xA7F9, 0x153), (0xAB5C, 0xA727), (0xAB5D, 0xAB37), (0xAB5E, 0x26B),
   (0xAB5F, 0xAB52), (0xAB69, 0x28D), (0xFB20, 0x5E2), (0xFB21, 0x5D0), (0xFB29, 0x2B),
   (0xFE10, 0x2C), (0xFE11, 0x3001), (0xFE15, 0x21), (0xFE16, 0x3F), (0xFE31, 0x2014),
   (0xFE32, 0x2013), (0xFE50, 0x2C), (0xFE51, 0x3001), (0xFE54, 0x3B), (0xFE55, 0x3A),
   (0xFE56, 0x3F), (0xFE57, 0x21), (0xFE58, 0x2014), (0xFE5F, 0x23), (0xFE60, 0x26),
   (0xFE63, 0x2D), (0xFE66, 0x3D), (0xFE68, 0x5C), (0xFE6B, 0x40), (0xFF61, 0x2E),
   (0xFF64, 0x3001), (0xFF65, 0x30FB), (0xFF66, 0x30F2), (0xFF6F, 0x30C3), (0xFF70, 0x30FC),
   (0xFF8B, 0x30D2), (0xFF8C, 0x30D5), (0xFF8D, 0x30D8), (0xFF8E, 0x30DB), (0xFF9C, 0x30EF),
   (0xFF9D, 0x30F3), (0xFFA6, 0x11AD), (0xFFB0, 0x111A), (0xFFB4, 0x1121), (0xFFE2, 0xAC),
   (0xFFE4, 0xA6), (0xFFE5, 0xA5), (0xFFE6, 0x20A9), (0xFFE8, 0x2502), (0xFFED, 0x25A0),
   (0xFFEE, 0x25CB), (0x10595, 0x105BC), (0x10783, 0xE6), (0x10784, 0x299), (0x10785, 0x253),
   (0x10788, 0xAB66), (0x1078A, 0x2A4), (0x1078D, 0x1D91), (0x1078E, 0x258), (0x10790, 0x2A9),
   (0x10791, 0x264), (0x10792, 0x262), (0x10795, 0x127), (0x10797, 0x267), (0x10798, 0x284),
   (0x1079D, 0xA78E), (0x107A0, 0x28E), (0x107A1, 0x1DF06), (0x107A2, 0xF8), (0x107A5, 0x71),
   (0x107A6, 0x27A), (0x107A7, 0x1DF08), (0x107AA, 0x280), (0x107AB, 0x2A8), (0x107AD, 0xAB67),
   (0x107AF, 0x288), (0x107B0, 0x2C71), (0x107B2, 0x28F), (0x107B5, 0x298), (0x107B9, 0x1DF0A),
   (0x107BA, 0x1DF1E), (0x1D49F, 0x64), (0x1D4A2, 0x67), (0x1D546, 0x6F), (0x1D6A4, 0x131),
   (0x1D6A5, 0x237), (0x1D6B9, 0x3B8), (0x1D6C1, 0x2207), (0x1D6DB, 0x2202), (0x1D6DC, 0x3B5),
   (0x1D6DF, 0x3C6), (0x1D6E0, 0x3C1), (0x1D6E1, 0x3C0), (0x1D6F3, 0x3B8), (0x1D6FB, 0x2207),
   (0x1D715, 0x2202), (0x1D716, 0x3B5), (0x1D719, 0x3C6), (0x1D71A, 0x3C1), (0x1D71B, 0x3C0),
   (0x1D72D, 0x3B8), (0x1D735, 0x2207), (0x1D74F, 0x2202), (0x1D750, 0x3B5), (0x1D753, 0x3C6),
   (0x1D754, 0x3C1), (0x1D755, 0x3C0), (0x1D767, 0x3B8), (0x1D76F, 0x2207), (0x1D789, 0x2202),
   (0x1D78A, 0x3B5), (0x1D78D, 0x3C6), (0x1D78E, 0x3C1), (0x1D78F, 0x3C0), (0x1D7A1, 0x3B8),
   (0x1D7A9, 0x2207), (0x1D7C3, 0x2202), (0x1D7C4, 0x3B5), (0x1D7C7, 0x3C6), (0x1D7C8, 0x3C1),
   (0x1D7C9, 0x3C0), (0x1E049, 0x44E), (0x1E04A, 0xA689), (0x1E04B, 0x4D9), (0x1E04E, 0x4E9),
   (0x1E04F, 0x4AF), (0x1E050, 0x4CF), (0x1E067, 0x491), (0x1E068, 0x456), (0x1E069, 0x455),
   (0x1E06A, 0x45F), (0x1E06B, 0x4AB), (0x1E06C, 0xA651), (0x1E06D, 0x4B1), (0x1EE02, 0x62C),
   (0x1EE03, 0x62F), (0x1EE06, 0x632), (0x1EE07, 0x62D), (0x1EE08, 0x637), (0x1EE0F, 0x639),
   (0x1EE13, 0x631), (0x1EE14, 0x634), (0x1EE1D, 0x6BA), (0x1EE1E, 0x6A1), (0x1EE21, 0x628),
   (0x1EE22, 0x62C), (0x1EE24, 0x647), (0x1EE27, 0x62D), (0x1EE29, 0x64A), (0x1EE2F, 0x639),
   (0x1EE34, 0x634), (0x1EE37, 0x62E), (0x1EE39, 0x636), (0x1EE3B, 0x63A), (0x1EE42, 0x62C),
   (0x1EE47, 0x62D), (0x1EE49, 0x64A), (0x1EE4F, 0x639), (0x1EE52, 0x642), (0x1EE54, 0x634),
   (0x1EE57, 0x62E), (0x1EE59, 0x636), (0x1EE5B, 0x63A), (0x1EE5D, 0x6BA), (0x1EE5F, 0x66F),
   (0x1EE61, 0x628), (0x1EE62, 0x62C), (0x1EE64, 0x647), (0x1EE67, 0x62D), (0x1EE68, 0x637),
   (0x1EE69, 0x64A), (0x1EE6D, 0x646), (0x1EE6F, 0x639), (0x1EE74, 0x634), (0x1EE77, 0x62E),
   (0x1EE7C, 0x66E), (0x1EE7E, 0x6A1), (0x1EE82, 0x62C), (0x1EE83, 0x62F), (0x1EE86, 0x632),
   (0x1EE87, 0x62D), (0x1EE88, 0x637), (0x1EE89, 0x64A), (0x1EE8F, 0x639), (0x1EE93, 0x631),
   (0x1EE94, 0x634), (0x1EEA1, 0x628), (0x1EEA2, 0x62C), (0x1EEA3, 0x62F), (0x1EEA6, 0x632),
   (0x1EEA7, 0x62D), (0x1EEA8, 0x637), (0x1EEAF, 0x639), (0x1EEB3, 0x631), (0x1EEB4, 0x634),
   (0x1F12B, 0x63), (0x1F12C, 0x72), (0x1F202, 0x30B5), (0x1F210, 0x624B), (0x1F211, 0x5B57),
   (0x1F212, 0x53CC), (0x1F213, 0x30C7), (0x1F214, 0x4E8C), (0x1F215, 0x591A), (0x1F216, 0x89E3),
   (0x1F217, 0x5929), (0x1F218, 0x4EA4), (0x1F219, 0x6620), (0x1F21A, 0x7121), (0x1F21B, 0x6599),
   (0x1F21C, 0x524D), (0x1F21D, 0x5F8C), (0x1F21E, 0x518D), (0x1F21F, 0x65B0), (0x1F220, 0x521D),
   (0x1F221, 0x7D42), (0x1F222, 0x751F), (0x1F223, 0x8CA9), (0x1F224, 0x58F0), (0x1F225, 0x5439),
   (0x1F226, 0x6F14), (0x1F227, 0x6295), (0x1F228, 0x6355), (0x1F229, 0x4E00), (0x1F22A, 0x4E09),
   (0x1F22B, 0x904A), (0x1F22C, 0x5DE6), (0x1F22D, 0x4E2D), (0x1F22E, 0x53F3), (0x1F22F, 0x6307),
   (0x1F230, 0x8D70), (0x1F231, 0x6253), (0x1F232, 0x7981), (0x1F233, 0x7A7A), (0x1F234, 0x5408),
   (0x1F235, 0x6E80), (0x1F236, 0x6709), (0x1F237, 0x6708), (0x1F238, 0x7533), (0x1F239, 0x5272),
   (0x1F23A, 0x55B6), (0x1F23B, 0x914D), (0x1F250, 0x5F97), (0x1F251, 0x53EF)]

end RespClient.Domain
