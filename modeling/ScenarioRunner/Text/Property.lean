import ScenarioRunner.Text.Category

/-!
# Properties of characters

Most yes-or-no properties of characters are those of some general categories
with a few exceptions.  The tables give the categories and the exceptions.

The names of a property are its short and its long one, without capitals and
joiners.  The tables are ordered by the long names.
-/

namespace ScenarioRunner.Text

/-- A property that a character has or has not. -/
structure Property where
  names : List String
  categories : List Category := []
  /-- The characters of other categories that have the property. -/
  added : CodeRanges := []
  /-- The characters of the categories that do not have the property. -/
  removed : CodeRanges := []
  deriving DecidableEq, Repr

namespace Property

/-- Those with names from `A` to `C`. -/
def fromAToC : List Property :=
  [{ names := ["ahex", "asciihexdigit"]
     added :=
       [(0x0030, 0x0039), (0x0041, 0x0046), (0x0061, 0x0066)] },
   { names := ["alpha", "alphabetic"]
     categories :=
       [.uppercaseLetter, .lowercaseLetter, .titlecaseLetter,
        .modifierLetter, .otherLetter, .letterNumber]
     added :=
       [(0x0345, 0x0345), (0x05B0, 0x05BD), (0x05BF, 0x05BF),
        (0x05C1, 0x05C2), (0x05C4, 0x05C5), (0x05C7, 0x05C7),
        (0x0610, 0x061A), (0x064B, 0x0657), (0x0659, 0x065F),
        (0x0670, 0x0670), (0x06D6, 0x06DC), (0x06E1, 0x06E4),
        (0x06E7, 0x06E8), (0x06ED, 0x06ED), (0x0711, 0x0711),
        (0x0730, 0x073F), (0x07A6, 0x07B0), (0x0816, 0x0817),
        (0x081B, 0x0823), (0x0825, 0x0827), (0x0829, 0x082C),
        (0x08D4, 0x08DF), (0x08E3, 0x08E9), (0x08F0, 0x0903),
        (0x093A, 0x093B), (0x093E, 0x094C), (0x094E, 0x094F),
        (0x0955, 0x0957), (0x0962, 0x0963), (0x0981, 0x0983),
        (0x09BE, 0x09C4), (0x09C7, 0x09C8), (0x09CB, 0x09CC),
        (0x09D7, 0x09D7), (0x09E2, 0x09E3), (0x0A01, 0x0A03),
        (0x0A3E, 0x0A42), (0x0A47, 0x0A48), (0x0A4B, 0x0A4C),
        (0x0A51, 0x0A51), (0x0A70, 0x0A71), (0x0A75, 0x0A75),
        (0x0A81, 0x0A83), (0x0ABE, 0x0AC5), (0x0AC7, 0x0AC9),
        (0x0ACB, 0x0ACC), (0x0AE2, 0x0AE3), (0x0AFA, 0x0AFC),
        (0x0B01, 0x0B03), (0x0B3E, 0x0B44), (0x0B47, 0x0B48),
        (0x0B4B, 0x0B4C), (0x0B56, 0x0B57), (0x0B62, 0x0B63),
        (0x0B82, 0x0B82), (0x0BBE, 0x0BC2), (0x0BC6, 0x0BC8),
        (0x0BCA, 0x0BCC), (0x0BD7, 0x0BD7), (0x0C00, 0x0C04),
        (0x0C3E, 0x0C44), (0x0C46, 0x0C48), (0x0C4A, 0x0C4C),
        (0x0C55, 0x0C56), (0x0C62, 0x0C63), (0x0C81, 0x0C83),
        (0x0CBE, 0x0CC4), (0x0CC6, 0x0CC8), (0x0CCA, 0x0CCC),
        (0x0CD5, 0x0CD6), (0x0CE2, 0x0CE3), (0x0CF3, 0x0CF3),
        (0x0D00, 0x0D03), (0x0D3E, 0x0D44), (0x0D46, 0x0D48),
        (0x0D4A, 0x0D4C), (0x0D57, 0x0D57), (0x0D62, 0x0D63),
        (0x0D81, 0x0D83), (0x0DCF, 0x0DD4), (0x0DD6, 0x0DD6),
        (0x0DD8, 0x0DDF), (0x0DF2, 0x0DF3), (0x0E31, 0x0E31),
        (0x0E34, 0x0E3A), (0x0E4D, 0x0E4D), (0x0EB1, 0x0EB1),
        (0x0EB4, 0x0EB9), (0x0EBB, 0x0EBC), (0x0ECD, 0x0ECD),
        (0x0F71, 0x0F83), (0x0F8D, 0x0F97), (0x0F99, 0x0FBC),
        (0x102B, 0x1036), (0x1038, 0x1038), (0x103B, 0x103E),
        (0x1056, 0x1059), (0x105E, 0x1060), (0x1062, 0x1064),
        (0x1067, 0x106D), (0x1071, 0x1074), (0x1082, 0x108D),
        (0x108F, 0x108F), (0x109A, 0x109D), (0x1712, 0x1713),
        (0x1732, 0x1733), (0x1752, 0x1753), (0x1772, 0x1773),
        (0x17B6, 0x17C8), (0x1885, 0x1886), (0x18A9, 0x18A9),
        (0x1920, 0x192B), (0x1930, 0x1938), (0x1A17, 0x1A1B),
        (0x1A55, 0x1A5E), (0x1A61, 0x1A74), (0x1ABF, 0x1AC0),
        (0x1ACC, 0x1ACE), (0x1B00, 0x1B04), (0x1B35, 0x1B43),
        (0x1B80, 0x1B82), (0x1BA1, 0x1BA9), (0x1BAC, 0x1BAD),
        (0x1BE7, 0x1BF1), (0x1C24, 0x1C36), (0x1DE7, 0x1DF4),
        (0x24B6, 0x24E9), (0x2DE0, 0x2DFF), (0xA674, 0xA67B),
        (0xA69E, 0xA69F), (0xA802, 0xA802), (0xA80B, 0xA80B),
        (0xA823, 0xA827), (0xA880, 0xA881), (0xA8B4, 0xA8C3),
        (0xA8C5, 0xA8C5), (0xA8FF, 0xA8FF), (0xA926, 0xA92A),
        (0xA947, 0xA952), (0xA980, 0xA983), (0xA9B4, 0xA9BF),
        (0xA9E5, 0xA9E5), (0xAA29, 0xAA36), (0xAA43, 0xAA43),
        (0xAA4C, 0xAA4D), (0xAA7B, 0xAA7D), (0xAAB0, 0xAAB0),
        (0xAAB2, 0xAAB4), (0xAAB7, 0xAAB8), (0xAABE, 0xAABE),
        (0xAAEB, 0xAAEF), (0xAAF5, 0xAAF5), (0xABE3, 0xABEA),
        (0xFB1E, 0xFB1E), (0x10376, 0x1037A), (0x10A01, 0x10A03),
        (0x10A05, 0x10A06), (0x10A0C, 0x10A0F), (0x10D24, 0x10D27),
        (0x10EAB, 0x10EAC), (0x11000, 0x11002), (0x11038, 0x11045),
        (0x11073, 0x11074), (0x11080, 0x11082), (0x110B0, 0x110B8),
        (0x110C2, 0x110C2), (0x11100, 0x11102), (0x11127, 0x11132),
        (0x11145, 0x11146), (0x11180, 0x11182), (0x111B3, 0x111BF),
        (0x111CE, 0x111CF), (0x1122C, 0x11234), (0x11237, 0x11237),
        (0x1123E, 0x1123E), (0x11241, 0x11241), (0x112DF, 0x112E8),
        (0x11300, 0x11303), (0x1133E, 0x11344), (0x11347, 0x11348),
        (0x1134B, 0x1134C), (0x11357, 0x11357), (0x11362, 0x11363),
        (0x11435, 0x11441), (0x11443, 0x11445), (0x114B0, 0x114C1),
        (0x115AF, 0x115B5), (0x115B8, 0x115BE), (0x115DC, 0x115DD),
        (0x11630, 0x1163E), (0x11640, 0x11640), (0x116AB, 0x116B5),
        (0x1171D, 0x1172A), (0x1182C, 0x11838), (0x11930, 0x11935),
        (0x11937, 0x11938), (0x1193B, 0x1193C), (0x11940, 0x11940),
        (0x11942, 0x11942), (0x119D1, 0x119D7), (0x119DA, 0x119DF),
        (0x119E4, 0x119E4), (0x11A01, 0x11A0A), (0x11A35, 0x11A39),
        (0x11A3B, 0x11A3E), (0x11A51, 0x11A5B), (0x11A8A, 0x11A97),
        (0x11C2F, 0x11C36), (0x11C38, 0x11C3E), (0x11C92, 0x11CA7),
        (0x11CA9, 0x11CB6), (0x11D31, 0x11D36), (0x11D3A, 0x11D3A),
        (0x11D3C, 0x11D3D), (0x11D3F, 0x11D41), (0x11D43, 0x11D43),
        (0x11D47, 0x11D47), (0x11D8A, 0x11D8E), (0x11D90, 0x11D91),
        (0x11D93, 0x11D96), (0x11EF3, 0x11EF6), (0x11F00, 0x11F01),
        (0x11F03, 0x11F03), (0x11F34, 0x11F3A), (0x11F3E, 0x11F40),
        (0x16F4F, 0x16F4F), (0x16F51, 0x16F87), (0x16F8F, 0x16F92),
        (0x16FF0, 0x16FF1), (0x1BC9E, 0x1BC9E), (0x1E000, 0x1E006),
        (0x1E008, 0x1E018), (0x1E01B, 0x1E021), (0x1E023, 0x1E024),
        (0x1E026, 0x1E02A), (0x1E08F, 0x1E08F), (0x1E947, 0x1E947),
        (0x1F130, 0x1F149), (0x1F150, 0x1F169), (0x1F170, 0x1F189)] },
   { names := ["bidic", "bidicontrol"]
     added :=
       [(0x061C, 0x061C), (0x200E, 0x200F), (0x202A, 0x202E),
        (0x2066, 0x2069)] },
   { names := ["ci", "caseignorable"]
     categories :=
       [.modifierLetter, .nonspacingMark, .enclosingMark, .modifierSymbol,
        .format]
     added :=
       [(0x0027, 0x0027), (0x002E, 0x002E), (0x003A, 0x003A),
        (0x00B7, 0x00B7), (0x0387, 0x0387), (0x055F, 0x055F),
        (0x05F4, 0x05F4), (0x2018, 0x2019), (0x2024, 0x2024),
        (0x2027, 0x2027), (0xFE13, 0xFE13), (0xFE52, 0xFE52),
        (0xFE55, 0xFE55), (0xFF07, 0xFF07), (0xFF0E, 0xFF0E),
        (0xFF1A, 0xFF1A)] },
   { names := ["cased"]
     categories :=
       [.uppercaseLetter, .lowercaseLetter, .titlecaseLetter]
     added :=
       [(0x00AA, 0x00AA), (0x00BA, 0x00BA), (0x02B0, 0x02B8),
        (0x02C0, 0x02C1), (0x02E0, 0x02E4), (0x0345, 0x0345),
        (0x037A, 0x037A), (0x10FC, 0x10FC), (0x1D2C, 0x1D6A),
        (0x1D78, 0x1D78), (0x1D9B, 0x1DBF), (0x2071, 0x2071),
        (0x207F, 0x207F), (0x2090, 0x209C), (0x2160, 0x217F),
        (0x24B6, 0x24E9), (0x2C7C, 0x2C7D), (0xA69C, 0xA69D),
        (0xA770, 0xA770), (0xA7F2, 0xA7F4), (0xA7F8, 0xA7F9),
        (0xAB5C, 0xAB5F), (0xAB69, 0xAB69), (0x10780, 0x10780),
        (0x10783, 0x10785), (0x10787, 0x107B0), (0x107B2, 0x107BA),
        (0x1E030, 0x1E06D), (0x1F130, 0x1F149), (0x1F150, 0x1F169),
        (0x1F170, 0x1F189)] },
   { names := ["cwcf", "changeswhencasefolded"]
     categories :=
       [.uppercaseLetter, .titlecaseLetter]
     added :=
       [(0x00B5, 0x00B5), (0x00DF, 0x00DF), (0x0149, 0x0149),
        (0x017F, 0x017F), (0x0345, 0x0345), (0x03C2, 0x03C2),
        (0x03D0, 0x03D1), (0x03D5, 0x03D6), (0x03F0, 0x03F1),
        (0x03F5, 0x03F5), (0x0587, 0x0587), (0x13F8, 0x13FD),
        (0x1C80, 0x1C88), (0x1E9A, 0x1E9B), (0x1F80, 0x1F87),
        (0x1F90, 0x1F97), (0x1FA0, 0x1FA7), (0x1FB2, 0x1FB4),
        (0x1FB7, 0x1FB7), (0x1FC2, 0x1FC4), (0x1FC7, 0x1FC7),
        (0x1FF2, 0x1FF4), (0x1FF7, 0x1FF7), (0x2160, 0x216F),
        (0x24B6, 0x24CF), (0xAB70, 0xABBF), (0xFB00, 0xFB06),
        (0xFB13, 0xFB17)]
     removed :=
       [(0x03D2, 0x03D4), (0x13A0, 0x13F5), (0x2102, 0x2102),
        (0x2107, 0x2107), (0x210B, 0x210D), (0x2110, 0x2112),
        (0x2115, 0x2115), (0x2119, 0x211D), (0x2124, 0x2124),
        (0x2128, 0x2128), (0x212C, 0x212D), (0x2130, 0x2131),
        (0x2133, 0x2133), (0x213E, 0x213F), (0x2145, 0x2145),
        (0x1D400, 0x1D419), (0x1D434, 0x1D44D), (0x1D468, 0x1D481),
        (0x1D49C, 0x1D49C), (0x1D49E, 0x1D49F), (0x1D4A2, 0x1D4A2),
        (0x1D4A5, 0x1D4A6), (0x1D4A9, 0x1D4AC), (0x1D4AE, 0x1D4B5),
        (0x1D4D0, 0x1D4E9), (0x1D504, 0x1D505), (0x1D507, 0x1D50A),
        (0x1D50D, 0x1D514), (0x1D516, 0x1D51C), (0x1D538, 0x1D539),
        (0x1D53B, 0x1D53E), (0x1D540, 0x1D544), (0x1D546, 0x1D546),
        (0x1D54A, 0x1D550), (0x1D56C, 0x1D585), (0x1D5A0, 0x1D5B9),
        (0x1D5D4, 0x1D5ED), (0x1D608, 0x1D621), (0x1D63C, 0x1D655),
        (0x1D670, 0x1D689), (0x1D6A8, 0x1D6C0), (0x1D6E2, 0x1D6FA),
        (0x1D71C, 0x1D734), (0x1D756, 0x1D76E), (0x1D790, 0x1D7A8),
        (0x1D7CA, 0x1D7CA)] },
   { names := ["cwcm", "changeswhencasemapped"]
     categories :=
       [.uppercaseLetter, .lowercaseLetter, .titlecaseLetter]
     added :=
       [(0x0345, 0x0345), (0x2160, 0x217F), (0x24B6, 0x24E9)]
     removed :=
       [(0x0138, 0x0138), (0x018D, 0x018D), (0x019B, 0x019B),
        (0x01AA, 0x01AB), (0x01BA, 0x01BA), (0x01BE, 0x01BE),
        (0x0221, 0x0221), (0x0234, 0x0239), (0x0255, 0x0255),
        (0x0258, 0x0258), (0x025A, 0x025A), (0x025D, 0x025F),
        (0x0262, 0x0262), (0x0264, 0x0264), (0x0267, 0x0267),
        (0x026D, 0x026E), (0x0270, 0x0270), (0x0273, 0x0274),
        (0x0276, 0x027C), (0x027E, 0x027F), (0x0281, 0x0281),
        (0x0284, 0x0286), (0x028D, 0x0291), (0x0293, 0x0293),
        (0x0295, 0x029C), (0x029F, 0x02AF), (0x03D2, 0x03D4),
        (0x03FC, 0x03FC), (0x0560, 0x0560), (0x0588, 0x0588),
        (0x1D00, 0x1D2B), (0x1D6B, 0x1D77), (0x1D7A, 0x1D7C),
        (0x1D7E, 0x1D8D), (0x1D8F, 0x1D9A), (0x1E9C, 0x1E9D),
        (0x1E9F, 0x1E9F), (0x2102, 0x2102), (0x2107, 0x2107),
        (0x210A, 0x2113), (0x2115, 0x2115), (0x2119, 0x211D),
        (0x2124, 0x2124), (0x2128, 0x2128), (0x212C, 0x212D),
        (0x212F, 0x2131), (0x2133, 0x2134), (0x2139, 0x2139),
        (0x213C, 0x213F), (0x2145, 0x2149), (0x2C71, 0x2C71),
        (0x2C74, 0x2C74), (0x2C77, 0x2C7B), (0x2CE4, 0x2CE4),
        (0xA730, 0xA731), (0xA771, 0xA778), (0xA78E, 0xA78E),
        (0xA795, 0xA795), (0xA7AF, 0xA7AF), (0xA7D3, 0xA7D3),
        (0xA7D5, 0xA7D5), (0xA7FA, 0xA7FA), (0xAB30, 0xAB52),
        (0xAB54, 0xAB5A), (0xAB60, 0xAB68), (0x1D400, 0x1D454),
        (0x1D456, 0x1D49C), (0x1D49E, 0x1D49F), (0x1D4A2, 0x1D4A2),
        (0x1D4A5, 0x1D4A6), (0x1D4A9, 0x1D4AC), (0x1D4AE, 0x1D4B9),
        (0x1D4BB, 0x1D4BB), (0x1D4BD, 0x1D4C3), (0x1D4C5, 0x1D505),
        (0x1D507, 0x1D50A), (0x1D50D, 0x1D514), (0x1D516, 0x1D51C),
        (0x1D51E, 0x1D539), (0x1D53B, 0x1D53E), (0x1D540, 0x1D544),
        (0x1D546, 0x1D546), (0x1D54A, 0x1D550), (0x1D552, 0x1D6A5),
        (0x1D6A8, 0x1D6C0), (0x1D6C2, 0x1D6DA), (0x1D6DC, 0x1D6FA),
        (0x1D6FC, 0x1D714), (0x1D716, 0x1D734), (0x1D736, 0x1D74E),
        (0x1D750, 0x1D76E), (0x1D770, 0x1D788), (0x1D78A, 0x1D7A8),
        (0x1D7AA, 0x1D7C2), (0x1D7C4, 0x1D7CB), (0x1DF00, 0x1DF09),
        (0x1DF0B, 0x1DF1E), (0x1DF25, 0x1DF2A)] },
   { names := ["cwl", "changeswhenlowercased"]
     categories :=
       [.uppercaseLetter, .titlecaseLetter]
     added :=
       [(0x2160, 0x216F), (0x24B6, 0x24CF)]
     removed :=
       [(0x03D2, 0x03D4), (0x2102, 0x2102), (0x2107, 0x2107),
        (0x210B, 0x210D), (0x2110, 0x2112), (0x2115, 0x2115),
        (0x2119, 0x211D), (0x2124, 0x2124), (0x2128, 0x2128),
        (0x212C, 0x212D), (0x2130, 0x2131), (0x2133, 0x2133),
        (0x213E, 0x213F), (0x2145, 0x2145), (0x1D400, 0x1D419),
        (0x1D434, 0x1D44D), (0x1D468, 0x1D481), (0x1D49C, 0x1D49C),
        (0x1D49E, 0x1D49F), (0x1D4A2, 0x1D4A2), (0x1D4A5, 0x1D4A6),
        (0x1D4A9, 0x1D4AC), (0x1D4AE, 0x1D4B5), (0x1D4D0, 0x1D4E9),
        (0x1D504, 0x1D505), (0x1D507, 0x1D50A), (0x1D50D, 0x1D514),
        (0x1D516, 0x1D51C), (0x1D538, 0x1D539), (0x1D53B, 0x1D53E),
        (0x1D540, 0x1D544), (0x1D546, 0x1D546), (0x1D54A, 0x1D550),
        (0x1D56C, 0x1D585), (0x1D5A0, 0x1D5B9), (0x1D5D4, 0x1D5ED),
        (0x1D608, 0x1D621), (0x1D63C, 0x1D655), (0x1D670, 0x1D689),
        (0x1D6A8, 0x1D6C0), (0x1D6E2, 0x1D6FA), (0x1D71C, 0x1D734),
        (0x1D756, 0x1D76E), (0x1D790, 0x1D7A8), (0x1D7CA, 0x1D7CA)] },
   { names := ["cwt", "changeswhentitlecased"]
     categories :=
       [.lowercaseLetter]
     added :=
       [(0x01C4, 0x01C4), (0x01C7, 0x01C7), (0x01CA, 0x01CA),
        (0x01F1, 0x01F1), (0x0345, 0x0345), (0x2170, 0x217F),
        (0x24D0, 0x24E9)]
     removed :=
       [(0x0138, 0x0138), (0x018D, 0x018D), (0x019B, 0x019B),
        (0x01AA, 0x01AB), (0x01BA, 0x01BA), (0x01BE, 0x01BE),
        (0x0221, 0x0221), (0x0234, 0x0239), (0x0255, 0x0255),
        (0x0258, 0x0258), (0x025A, 0x025A), (0x025D, 0x025F),
        (0x0262, 0x0262), (0x0264, 0x0264), (0x0267, 0x0267),
        (0x026D, 0x026E), (0x0270, 0x0270), (0x0273, 0x0274),
        (0x0276, 0x027C), (0x027E, 0x027F), (0x0281, 0x0281),
        (0x0284, 0x0286), (0x028D, 0x0291), (0x0293, 0x0293),
        (0x0295, 0x029C), (0x029F, 0x02AF), (0x03FC, 0x03FC),
        (0x0560, 0x0560), (0x0588, 0x0588), (0x10D0, 0x10FA),
        (0x10FD, 0x10FF), (0x1D00, 0x1D2B), (0x1D6B, 0x1D77),
        (0x1D7A, 0x1D7C), (0x1D7E, 0x1D8D), (0x1D8F, 0x1D9A),
        (0x1E9C, 0x1E9D), (0x1E9F, 0x1E9F), (0x210A, 0x210A),
        (0x210E, 0x210F), (0x2113, 0x2113), (0x212F, 0x212F),
        (0x2134, 0x2134), (0x2139, 0x2139), (0x213C, 0x213D),
        (0x2146, 0x2149), (0x2C71, 0x2C71), (0x2C74, 0x2C74),
        (0x2C77, 0x2C7B), (0x2CE4, 0x2CE4), (0xA730, 0xA731),
        (0xA771, 0xA778), (0xA78E, 0xA78E), (0xA795, 0xA795),
        (0xA7AF, 0xA7AF), (0xA7D3, 0xA7D3), (0xA7D5, 0xA7D5),
        (0xA7FA, 0xA7FA), (0xAB30, 0xAB52), (0xAB54, 0xAB5A),
        (0xAB60, 0xAB68), (0x1D41A, 0x1D433), (0x1D44E, 0x1D454),
        (0x1D456, 0x1D467), (0x1D482, 0x1D49B), (0x1D4B6, 0x1D4B9),
        (0x1D4BB, 0x1D4BB), (0x1D4BD, 0x1D4C3), (0x1D4C5, 0x1D4CF),
        (0x1D4EA, 0x1D503), (0x1D51E, 0x1D537), (0x1D552, 0x1D56B),
        (0x1D586, 0x1D59F), (0x1D5BA, 0x1D5D3), (0x1D5EE, 0x1D607),
        (0x1D622, 0x1D63B), (0x1D656, 0x1D66F), (0x1D68A, 0x1D6A5),
        (0x1D6C2, 0x1D6DA), (0x1D6DC, 0x1D6E1), (0x1D6FC, 0x1D714),
        (0x1D716, 0x1D71B), (0x1D736, 0x1D74E), (0x1D750, 0x1D755),
        (0x1D770, 0x1D788), (0x1D78A, 0x1D78F), (0x1D7AA, 0x1D7C2),
        (0x1D7C4, 0x1D7C9), (0x1D7CB, 0x1D7CB), (0x1DF00, 0x1DF09),
        (0x1DF0B, 0x1DF1E), (0x1DF25, 0x1DF2A)] },
   { names := ["cwu", "changeswhenuppercased"]
     categories :=
       [.lowercaseLetter, .titlecaseLetter]
     added :=
       [(0x0345, 0x0345), (0x2170, 0x217F), (0x24D0, 0x24E9)]
     removed :=
       [(0x0138, 0x0138), (0x018D, 0x018D), (0x019B, 0x019B),
        (0x01AA, 0x01AB), (0x01BA, 0x01BA), (0x01BE, 0x01BE),
        (0x0221, 0x0221), (0x0234, 0x0239), (0x0255, 0x0255),
        (0x0258, 0x0258), (0x025A, 0x025A), (0x025D, 0x025F),
        (0x0262, 0x0262), (0x0264, 0x0264), (0x0267, 0x0267),
        (0x026D, 0x026E), (0x0270, 0x0270), (0x0273, 0x0274),
        (0x0276, 0x027C), (0x027E, 0x027F), (0x0281, 0x0281),
        (0x0284, 0x0286), (0x028D, 0x0291), (0x0293, 0x0293),
        (0x0295, 0x029C), (0x029F, 0x02AF), (0x03FC, 0x03FC),
        (0x0560, 0x0560), (0x0588, 0x0588), (0x1D00, 0x1D2B),
        (0x1D6B, 0x1D77), (0x1D7A, 0x1D7C), (0x1D7E, 0x1D8D),
        (0x1D8F, 0x1D9A), (0x1E9C, 0x1E9D), (0x1E9F, 0x1E9F),
        (0x210A, 0x210A), (0x210E, 0x210F), (0x2113, 0x2113),
        (0x212F, 0x212F), (0x2134, 0x2134), (0x2139, 0x2139),
        (0x213C, 0x213D), (0x2146, 0x2149), (0x2C71, 0x2C71),
        (0x2C74, 0x2C74), (0x2C77, 0x2C7B), (0x2CE4, 0x2CE4),
        (0xA730, 0xA731), (0xA771, 0xA778), (0xA78E, 0xA78E),
        (0xA795, 0xA795), (0xA7AF, 0xA7AF), (0xA7D3, 0xA7D3),
        (0xA7D5, 0xA7D5), (0xA7FA, 0xA7FA), (0xAB30, 0xAB52),
        (0xAB54, 0xAB5A), (0xAB60, 0xAB68), (0x1D41A, 0x1D433),
        (0x1D44E, 0x1D454), (0x1D456, 0x1D467), (0x1D482, 0x1D49B),
        (0x1D4B6, 0x1D4B9), (0x1D4BB, 0x1D4BB), (0x1D4BD, 0x1D4C3),
        (0x1D4C5, 0x1D4CF), (0x1D4EA, 0x1D503), (0x1D51E, 0x1D537),
        (0x1D552, 0x1D56B), (0x1D586, 0x1D59F), (0x1D5BA, 0x1D5D3),
        (0x1D5EE, 0x1D607), (0x1D622, 0x1D63B), (0x1D656, 0x1D66F),
        (0x1D68A, 0x1D6A5), (0x1D6C2, 0x1D6DA), (0x1D6DC, 0x1D6E1),
        (0x1D6FC, 0x1D714), (0x1D716, 0x1D71B), (0x1D736, 0x1D74E),
        (0x1D750, 0x1D755), (0x1D770, 0x1D788), (0x1D78A, 0x1D78F),
        (0x1D7AA, 0x1D7C2), (0x1D7C4, 0x1D7C9), (0x1D7CB, 0x1D7CB),
        (0x1DF00, 0x1DF09), (0x1DF0B, 0x1DF1E), (0x1DF25, 0x1DF2A)] }]

/-- Those with names from `D` to `F`. -/
def fromDToF : List Property :=
  [{ names := ["dash"]
     categories :=
       [.dashPunctuation]
     added :=
       [(0x2053, 0x2053), (0x207B, 0x207B), (0x208B, 0x208B),
        (0x2212, 0x2212)] },
   { names := ["di", "defaultignorablecodepoint"]
     added :=
       [(0x00AD, 0x00AD), (0x034F, 0x034F), (0x061C, 0x061C),
        (0x115F, 0x1160), (0x17B4, 0x17B5), (0x180B, 0x180F),
        (0x200B, 0x200F), (0x202A, 0x202E), (0x2060, 0x206F),
        (0x3164, 0x3164), (0xFE00, 0xFE0F), (0xFEFF, 0xFEFF),
        (0xFFA0, 0xFFA0), (0xFFF0, 0xFFF8), (0x1BCA0, 0x1BCA3),
        (0x1D173, 0x1D17A), (0xE0000, 0xE0FFF)] },
   { names := ["dep", "deprecated"]
     added :=
       [(0x0149, 0x0149), (0x0673, 0x0673), (0x0F77, 0x0F77),
        (0x0F79, 0x0F79), (0x17A3, 0x17A4), (0x206A, 0x206F),
        (0x2329, 0x232A), (0xE0001, 0xE0001)] },
   { names := ["dia", "diacritic"]
     added :=
       [(0x005E, 0x005E), (0x0060, 0x0060), (0x00A8, 0x00A8),
        (0x00AF, 0x00AF), (0x00B4, 0x00B4), (0x00B7, 0x00B8),
        (0x02B0, 0x034E), (0x0350, 0x0357), (0x035D, 0x0362),
        (0x0374, 0x0375), (0x037A, 0x037A), (0x0384, 0x0385),
        (0x0483, 0x0487), (0x0559, 0x0559), (0x0591, 0x05A1),
        (0x05A3, 0x05BD), (0x05BF, 0x05BF), (0x05C1, 0x05C2),
        (0x05C4, 0x05C4), (0x064B, 0x0652), (0x0657, 0x0658),
        (0x06DF, 0x06E0), (0x06E5, 0x06E6), (0x06EA, 0x06EC),
        (0x0730, 0x074A), (0x07A6, 0x07B0), (0x07EB, 0x07F5),
        (0x0818, 0x0819), (0x0898, 0x089F), (0x08C9, 0x08D2),
        (0x08E3, 0x08FE), (0x093C, 0x093C), (0x094D, 0x094D),
        (0x0951, 0x0954), (0x0971, 0x0971), (0x09BC, 0x09BC),
        (0x09CD, 0x09CD), (0x0A3C, 0x0A3C), (0x0A4D, 0x0A4D),
        (0x0ABC, 0x0ABC), (0x0ACD, 0x0ACD), (0x0AFD, 0x0AFF),
        (0x0B3C, 0x0B3C), (0x0B4D, 0x0B4D), (0x0B55, 0x0B55),
        (0x0BCD, 0x0BCD), (0x0C3C, 0x0C3C), (0x0C4D, 0x0C4D),
        (0x0CBC, 0x0CBC), (0x0CCD, 0x0CCD), (0x0D3B, 0x0D3C),
        (0x0D4D, 0x0D4D), (0x0DCA, 0x0DCA), (0x0E47, 0x0E4C),
        (0x0E4E, 0x0E4E), (0x0EBA, 0x0EBA), (0x0EC8, 0x0ECC),
        (0x0F18, 0x0F19), (0x0F35, 0x0F35), (0x0F37, 0x0F37),
        (0x0F39, 0x0F39), (0x0F3E, 0x0F3F), (0x0F82, 0x0F84),
        (0x0F86, 0x0F87), (0x0FC6, 0x0FC6), (0x1037, 0x1037),
        (0x1039, 0x103A), (0x1063, 0x1064), (0x1069, 0x106D),
        (0x1087, 0x108D), (0x108F, 0x108F), (0x109A, 0x109B),
        (0x135D, 0x135F), (0x1714, 0x1715), (0x17C9, 0x17D3),
        (0x17DD, 0x17DD), (0x1939, 0x193B), (0x1A75, 0x1A7C),
        (0x1A7F, 0x1A7F), (0x1AB0, 0x1ABE), (0x1AC1, 0x1ACB),
        (0x1B34, 0x1B34), (0x1B44, 0x1B44), (0x1B6B, 0x1B73),
        (0x1BAA, 0x1BAB), (0x1C36, 0x1C37), (0x1C78, 0x1C7D),
        (0x1CD0, 0x1CE8), (0x1CED, 0x1CED), (0x1CF4, 0x1CF4),
        (0x1CF7, 0x1CF9), (0x1D2C, 0x1D6A), (0x1DC4, 0x1DCF),
        (0x1DF5, 0x1DFF), (0x1FBD, 0x1FBD), (0x1FBF, 0x1FC1),
        (0x1FCD, 0x1FCF), (0x1FDD, 0x1FDF), (0x1FED, 0x1FEF),
        (0x1FFD, 0x1FFE), (0x2CEF, 0x2CF1), (0x2E2F, 0x2E2F),
        (0x302A, 0x302F), (0x3099, 0x309C), (0x30FC, 0x30FC),
        (0xA66F, 0xA66F), (0xA67C, 0xA67D), (0xA67F, 0xA67F),
        (0xA69C, 0xA69D), (0xA6F0, 0xA6F1), (0xA700, 0xA721),
        (0xA788, 0xA78A), (0xA7F8, 0xA7F9), (0xA8C4, 0xA8C4),
        (0xA8E0, 0xA8F1), (0xA92B, 0xA92E), (0xA953, 0xA953),
        (0xA9B3, 0xA9B3), (0xA9C0, 0xA9C0), (0xA9E5, 0xA9E5),
        (0xAA7B, 0xAA7D), (0xAABF, 0xAAC2), (0xAAF6, 0xAAF6),
        (0xAB5B, 0xAB5F), (0xAB69, 0xAB6B), (0xABEC, 0xABED),
        (0xFB1E, 0xFB1E), (0xFE20, 0xFE2F), (0xFF3E, 0xFF3E),
        (0xFF40, 0xFF40), (0xFF70, 0xFF70), (0xFF9E, 0xFF9F),
        (0xFFE3, 0xFFE3), (0x102E0, 0x102E0), (0x10780, 0x10785),
        (0x10787, 0x107B0), (0x107B2, 0x107BA), (0x10AE5, 0x10AE6),
        (0x10D22, 0x10D27), (0x10EFD, 0x10EFF), (0x10F46, 0x10F50),
        (0x10F82, 0x10F85), (0x11046, 0x11046), (0x11070, 0x11070),
        (0x110B9, 0x110BA), (0x11133, 0x11134), (0x11173, 0x11173),
        (0x111C0, 0x111C0), (0x111CA, 0x111CC), (0x11235, 0x11236),
        (0x112E9, 0x112EA), (0x1133C, 0x1133C), (0x1134D, 0x1134D),
        (0x11366, 0x1136C), (0x11370, 0x11374), (0x11442, 0x11442),
        (0x11446, 0x11446), (0x114C2, 0x114C3), (0x115BF, 0x115C0),
        (0x1163F, 0x1163F), (0x116B6, 0x116B7), (0x1172B, 0x1172B),
        (0x11839, 0x1183A), (0x1193D, 0x1193E), (0x11943, 0x11943),
        (0x119E0, 0x119E0), (0x11A34, 0x11A34), (0x11A47, 0x11A47),
        (0x11A99, 0x11A99), (0x11C3F, 0x11C3F), (0x11D42, 0x11D42),
        (0x11D44, 0x11D45), (0x11D97, 0x11D97), (0x13447, 0x13455),
        (0x16AF0, 0x16AF4), (0x16B30, 0x16B36), (0x16F8F, 0x16F9F),
        (0x16FF0, 0x16FF1), (0x1AFF0, 0x1AFF3), (0x1AFF5, 0x1AFFB),
        (0x1AFFD, 0x1AFFE), (0x1CF00, 0x1CF2D), (0x1CF30, 0x1CF46),
        (0x1D167, 0x1D169), (0x1D16D, 0x1D172), (0x1D17B, 0x1D182),
        (0x1D185, 0x1D18B), (0x1D1AA, 0x1D1AD), (0x1E030, 0x1E06D),
        (0x1E130, 0x1E136), (0x1E2AE, 0x1E2AE), (0x1E2EC, 0x1E2EF),
        (0x1E8D0, 0x1E8D6), (0x1E944, 0x1E946), (0x1E948, 0x1E94A)] },
   { names := ["emoji"]
     added :=
       [(0x0023, 0x0023), (0x002A, 0x002A), (0x0030, 0x0039),
        (0x00A9, 0x00A9), (0x00AE, 0x00AE), (0x203C, 0x203C),
        (0x2049, 0x2049), (0x2122, 0x2122), (0x2139, 0x2139),
        (0x2194, 0x2199), (0x21A9, 0x21AA), (0x231A, 0x231B),
        (0x2328, 0x2328), (0x23CF, 0x23CF), (0x23E9, 0x23F3),
        (0x23F8, 0x23FA), (0x24C2, 0x24C2), (0x25AA, 0x25AB),
        (0x25B6, 0x25B6), (0x25C0, 0x25C0), (0x25FB, 0x25FE),
        (0x2600, 0x2604), (0x260E, 0x260E), (0x2611, 0x2611),
        (0x2614, 0x2615), (0x2618, 0x2618), (0x261D, 0x261D),
        (0x2620, 0x2620), (0x2622, 0x2623), (0x2626, 0x2626),
        (0x262A, 0x262A), (0x262E, 0x262F), (0x2638, 0x263A),
        (0x2640, 0x2640), (0x2642, 0x2642), (0x2648, 0x2653),
        (0x265F, 0x2660), (0x2663, 0x2663), (0x2665, 0x2666),
        (0x2668, 0x2668), (0x267B, 0x267B), (0x267E, 0x267F),
        (0x2692, 0x2697), (0x2699, 0x2699), (0x269B, 0x269C),
        (0x26A0, 0x26A1), (0x26A7, 0x26A7), (0x26AA, 0x26AB),
        (0x26B0, 0x26B1), (0x26BD, 0x26BE), (0x26C4, 0x26C5),
        (0x26C8, 0x26C8), (0x26CE, 0x26CF), (0x26D1, 0x26D1),
        (0x26D3, 0x26D4), (0x26E9, 0x26EA), (0x26F0, 0x26F5),
        (0x26F7, 0x26FA), (0x26FD, 0x26FD), (0x2702, 0x2702),
        (0x2705, 0x2705), (0x2708, 0x270D), (0x270F, 0x270F),
        (0x2712, 0x2712), (0x2714, 0x2714), (0x2716, 0x2716),
        (0x271D, 0x271D), (0x2721, 0x2721), (0x2728, 0x2728),
        (0x2733, 0x2734), (0x2744, 0x2744), (0x2747, 0x2747),
        (0x274C, 0x274C), (0x274E, 0x274E), (0x2753, 0x2755),
        (0x2757, 0x2757), (0x2763, 0x2764), (0x2795, 0x2797),
        (0x27A1, 0x27A1), (0x27B0, 0x27B0), (0x27BF, 0x27BF),
        (0x2934, 0x2935), (0x2B05, 0x2B07), (0x2B1B, 0x2B1C),
        (0x2B50, 0x2B50), (0x2B55, 0x2B55), (0x3030, 0x3030),
        (0x303D, 0x303D), (0x3297, 0x3297), (0x3299, 0x3299),
        (0x1F004, 0x1F004), (0x1F0CF, 0x1F0CF), (0x1F170, 0x1F171),
        (0x1F17E, 0x1F17F), (0x1F18E, 0x1F18E), (0x1F191, 0x1F19A),
        (0x1F1E6, 0x1F1FF), (0x1F201, 0x1F202), (0x1F21A, 0x1F21A),
        (0x1F22F, 0x1F22F), (0x1F232, 0x1F23A), (0x1F250, 0x1F251),
        (0x1F300, 0x1F321), (0x1F324, 0x1F393), (0x1F396, 0x1F397),
        (0x1F399, 0x1F39B), (0x1F39E, 0x1F3F0), (0x1F3F3, 0x1F3F5),
        (0x1F3F7, 0x1F4FD), (0x1F4FF, 0x1F53D), (0x1F549, 0x1F54E),
        (0x1F550, 0x1F567), (0x1F56F, 0x1F570), (0x1F573, 0x1F57A),
        (0x1F587, 0x1F587), (0x1F58A, 0x1F58D), (0x1F590, 0x1F590),
        (0x1F595, 0x1F596), (0x1F5A4, 0x1F5A5), (0x1F5A8, 0x1F5A8),
        (0x1F5B1, 0x1F5B2), (0x1F5BC, 0x1F5BC), (0x1F5C2, 0x1F5C4),
        (0x1F5D1, 0x1F5D3), (0x1F5DC, 0x1F5DE), (0x1F5E1, 0x1F5E1),
        (0x1F5E3, 0x1F5E3), (0x1F5E8, 0x1F5E8), (0x1F5EF, 0x1F5EF),
        (0x1F5F3, 0x1F5F3), (0x1F5FA, 0x1F64F), (0x1F680, 0x1F6C5),
        (0x1F6CB, 0x1F6D2), (0x1F6D5, 0x1F6D7), (0x1F6DC, 0x1F6E5),
        (0x1F6E9, 0x1F6E9), (0x1F6EB, 0x1F6EC), (0x1F6F0, 0x1F6F0),
        (0x1F6F3, 0x1F6FC), (0x1F7E0, 0x1F7EB), (0x1F7F0, 0x1F7F0),
        (0x1F90C, 0x1F93A), (0x1F93C, 0x1F945), (0x1F947, 0x1F9FF),
        (0x1FA70, 0x1FA7C), (0x1FA80, 0x1FA88), (0x1FA90, 0x1FABD),
        (0x1FABF, 0x1FAC5), (0x1FACE, 0x1FADB), (0x1FAE0, 0x1FAE8),
        (0x1FAF0, 0x1FAF8)] },
   { names := ["ecomp", "emojicomponent"]
     added :=
       [(0x0023, 0x0023), (0x002A, 0x002A), (0x0030, 0x0039),
        (0x200D, 0x200D), (0x20E3, 0x20E3), (0xFE0F, 0xFE0F),
        (0x1F1E6, 0x1F1FF), (0x1F3FB, 0x1F3FF), (0x1F9B0, 0x1F9B3),
        (0xE0020, 0xE007F)] },
   { names := ["emod", "emojimodifier"]
     added :=
       [(0x1F3FB, 0x1F3FF)] },
   { names := ["ebase", "emojimodifierbase"]
     added :=
       [(0x261D, 0x261D), (0x26F9, 0x26F9), (0x270A, 0x270D),
        (0x1F385, 0x1F385), (0x1F3C2, 0x1F3C4), (0x1F3C7, 0x1F3C7),
        (0x1F3CA, 0x1F3CC), (0x1F442, 0x1F443), (0x1F446, 0x1F450),
        (0x1F466, 0x1F478), (0x1F47C, 0x1F47C), (0x1F481, 0x1F483),
        (0x1F485, 0x1F487), (0x1F48F, 0x1F48F), (0x1F491, 0x1F491),
        (0x1F4AA, 0x1F4AA), (0x1F574, 0x1F575), (0x1F57A, 0x1F57A),
        (0x1F590, 0x1F590), (0x1F595, 0x1F596), (0x1F645, 0x1F647),
        (0x1F64B, 0x1F64F), (0x1F6A3, 0x1F6A3), (0x1F6B4, 0x1F6B6),
        (0x1F6C0, 0x1F6C0), (0x1F6CC, 0x1F6CC), (0x1F90C, 0x1F90C),
        (0x1F90F, 0x1F90F), (0x1F918, 0x1F91F), (0x1F926, 0x1F926),
        (0x1F930, 0x1F939), (0x1F93C, 0x1F93E), (0x1F977, 0x1F977),
        (0x1F9B5, 0x1F9B6), (0x1F9B8, 0x1F9B9), (0x1F9BB, 0x1F9BB),
        (0x1F9CD, 0x1F9CF), (0x1F9D1, 0x1F9DD), (0x1FAC3, 0x1FAC5),
        (0x1FAF0, 0x1FAF8)] },
   { names := ["epres", "emojipresentation"]
     added :=
       [(0x231A, 0x231B), (0x23E9, 0x23EC), (0x23F0, 0x23F0),
        (0x23F3, 0x23F3), (0x25FD, 0x25FE), (0x2614, 0x2615),
        (0x2648, 0x2653), (0x267F, 0x267F), (0x2693, 0x2693),
        (0x26A1, 0x26A1), (0x26AA, 0x26AB), (0x26BD, 0x26BE),
        (0x26C4, 0x26C5), (0x26CE, 0x26CE), (0x26D4, 0x26D4),
        (0x26EA, 0x26EA), (0x26F2, 0x26F3), (0x26F5, 0x26F5),
        (0x26FA, 0x26FA), (0x26FD, 0x26FD), (0x2705, 0x2705),
        (0x270A, 0x270B), (0x2728, 0x2728), (0x274C, 0x274C),
        (0x274E, 0x274E), (0x2753, 0x2755), (0x2757, 0x2757),
        (0x2795, 0x2797), (0x27B0, 0x27B0), (0x27BF, 0x27BF),
        (0x2B1B, 0x2B1C), (0x2B50, 0x2B50), (0x2B55, 0x2B55),
        (0x1F004, 0x1F004), (0x1F0CF, 0x1F0CF), (0x1F18E, 0x1F18E),
        (0x1F191, 0x1F19A), (0x1F1E6, 0x1F1FF), (0x1F201, 0x1F201),
        (0x1F21A, 0x1F21A), (0x1F22F, 0x1F22F), (0x1F232, 0x1F236),
        (0x1F238, 0x1F23A), (0x1F250, 0x1F251), (0x1F300, 0x1F320),
        (0x1F32D, 0x1F335), (0x1F337, 0x1F37C), (0x1F37E, 0x1F393),
        (0x1F3A0, 0x1F3CA), (0x1F3CF, 0x1F3D3), (0x1F3E0, 0x1F3F0),
        (0x1F3F4, 0x1F3F4), (0x1F3F8, 0x1F43E), (0x1F440, 0x1F440),
        (0x1F442, 0x1F4FC), (0x1F4FF, 0x1F53D), (0x1F54B, 0x1F54E),
        (0x1F550, 0x1F567), (0x1F57A, 0x1F57A), (0x1F595, 0x1F596),
        (0x1F5A4, 0x1F5A4), (0x1F5FB, 0x1F64F), (0x1F680, 0x1F6C5),
        (0x1F6CC, 0x1F6CC), (0x1F6D0, 0x1F6D2), (0x1F6D5, 0x1F6D7),
        (0x1F6DC, 0x1F6DF), (0x1F6EB, 0x1F6EC), (0x1F6F4, 0x1F6FC),
        (0x1F7E0, 0x1F7EB), (0x1F7F0, 0x1F7F0), (0x1F90C, 0x1F93A),
        (0x1F93C, 0x1F945), (0x1F947, 0x1F9FF), (0x1FA70, 0x1FA7C),
        (0x1FA80, 0x1FA88), (0x1FA90, 0x1FABD), (0x1FABF, 0x1FAC5),
        (0x1FACE, 0x1FADB), (0x1FAE0, 0x1FAE8), (0x1FAF0, 0x1FAF8)] },
   { names := ["extpict", "extendedpictographic"]
     added :=
       [(0x00A9, 0x00A9), (0x00AE, 0x00AE), (0x203C, 0x203C),
        (0x2049, 0x2049), (0x2122, 0x2122), (0x2139, 0x2139),
        (0x2194, 0x2199), (0x21A9, 0x21AA), (0x231A, 0x231B),
        (0x2328, 0x2328), (0x2388, 0x2388), (0x23CF, 0x23CF),
        (0x23E9, 0x23F3), (0x23F8, 0x23FA), (0x24C2, 0x24C2),
        (0x25AA, 0x25AB), (0x25B6, 0x25B6), (0x25C0, 0x25C0),
        (0x25FB, 0x25FE), (0x2600, 0x2605), (0x2607, 0x2612),
        (0x2614, 0x2685), (0x2690, 0x2705), (0x2708, 0x2712),
        (0x2714, 0x2714), (0x2716, 0x2716), (0x271D, 0x271D),
        (0x2721, 0x2721), (0x2728, 0x2728), (0x2733, 0x2734),
        (0x2744, 0x2744), (0x2747, 0x2747), (0x274C, 0x274C),
        (0x274E, 0x274E), (0x2753, 0x2755), (0x2757, 0x2757),
        (0x2763, 0x2767), (0x2795, 0x2797), (0x27A1, 0x27A1),
        (0x27B0, 0x27B0), (0x27BF, 0x27BF), (0x2934, 0x2935),
        (0x2B05, 0x2B07), (0x2B1B, 0x2B1C), (0x2B50, 0x2B50),
        (0x2B55, 0x2B55), (0x3030, 0x3030), (0x303D, 0x303D),
        (0x3297, 0x3297), (0x3299, 0x3299), (0x1F000, 0x1F0FF),
        (0x1F10D, 0x1F10F), (0x1F12F, 0x1F12F), (0x1F16C, 0x1F171),
        (0x1F17E, 0x1F17F), (0x1F18E, 0x1F18E), (0x1F191, 0x1F19A),
        (0x1F1AD, 0x1F1E5), (0x1F201, 0x1F20F), (0x1F21A, 0x1F21A),
        (0x1F22F, 0x1F22F), (0x1F232, 0x1F23A), (0x1F23C, 0x1F23F),
        (0x1F249, 0x1F3FA), (0x1F400, 0x1F53D), (0x1F546, 0x1F64F),
        (0x1F680, 0x1F6FF), (0x1F774, 0x1F77F), (0x1F7D5, 0x1F7FF),
        (0x1F80C, 0x1F80F), (0x1F848, 0x1F84F), (0x1F85A, 0x1F85F),
        (0x1F888, 0x1F88F), (0x1F8AE, 0x1F8FF), (0x1F90C, 0x1F93A),
        (0x1F93C, 0x1F945), (0x1F947, 0x1FAFF), (0x1FC00, 0x1FFFD)] },
   { names := ["ext", "extender"]
     added :=
       [(0x00B7, 0x00B7), (0x02D0, 0x02D1), (0x0640, 0x0640),
        (0x07FA, 0x07FA), (0x0B55, 0x0B55), (0x0E46, 0x0E46),
        (0x0EC6, 0x0EC6), (0x180A, 0x180A), (0x1843, 0x1843),
        (0x1AA7, 0x1AA7), (0x1C36, 0x1C36), (0x1C7B, 0x1C7B),
        (0x3005, 0x3005), (0x3031, 0x3035), (0x309D, 0x309E),
        (0x30FC, 0x30FE), (0xA015, 0xA015), (0xA60C, 0xA60C),
        (0xA9CF, 0xA9CF), (0xA9E6, 0xA9E6), (0xAA70, 0xAA70),
        (0xAADD, 0xAADD), (0xAAF3, 0xAAF4), (0xFF70, 0xFF70),
        (0x10781, 0x10782), (0x1135D, 0x1135D), (0x115C6, 0x115C8),
        (0x11A98, 0x11A98), (0x16B42, 0x16B43), (0x16FE0, 0x16FE1),
        (0x16FE3, 0x16FE3), (0x1E13C, 0x1E13D), (0x1E944, 0x1E946)] }]

/-- Those with names from `G` to `P`. -/
def fromGToP : List Property :=
  [{ names := ["grbase", "graphemebase"]
     categories :=
       [.uppercaseLetter, .lowercaseLetter, .titlecaseLetter,
        .modifierLetter, .otherLetter, .spacingMark, .decimalNumber,
        .letterNumber, .otherNumber, .connectorPunctuation, .dashPunctuation,
        .openPunctuation, .closePunctuation, .initialPunctuation,
        .finalPunctuation, .otherPunctuation, .mathSymbol, .currencySymbol,
        .modifierSymbol, .otherSymbol, .spaceSeparator]
     removed :=
       [(0x09BE, 0x09BE), (0x09D7, 0x09D7), (0x0B3E, 0x0B3E),
        (0x0B57, 0x0B57), (0x0BBE, 0x0BBE), (0x0BD7, 0x0BD7),
        (0x0CC2, 0x0CC2), (0x0CD5, 0x0CD6), (0x0D3E, 0x0D3E),
        (0x0D57, 0x0D57), (0x0DCF, 0x0DCF), (0x0DDF, 0x0DDF),
        (0x1B35, 0x1B35), (0x302E, 0x302F), (0xFF9E, 0xFF9F),
        (0x1133E, 0x1133E), (0x11357, 0x11357), (0x114B0, 0x114B0),
        (0x114BD, 0x114BD), (0x115AF, 0x115AF), (0x11930, 0x11930),
        (0x1D165, 0x1D165), (0x1D16E, 0x1D172)] },
   { names := ["grext", "graphemeextend"]
     categories :=
       [.nonspacingMark, .enclosingMark]
     added :=
       [(0x09BE, 0x09BE), (0x09D7, 0x09D7), (0x0B3E, 0x0B3E),
        (0x0B57, 0x0B57), (0x0BBE, 0x0BBE), (0x0BD7, 0x0BD7),
        (0x0CC2, 0x0CC2), (0x0CD5, 0x0CD6), (0x0D3E, 0x0D3E),
        (0x0D57, 0x0D57), (0x0DCF, 0x0DCF), (0x0DDF, 0x0DDF),
        (0x1B35, 0x1B35), (0x200C, 0x200C), (0x302E, 0x302F),
        (0xFF9E, 0xFF9F), (0x1133E, 0x1133E), (0x11357, 0x11357),
        (0x114B0, 0x114B0), (0x114BD, 0x114BD), (0x115AF, 0x115AF),
        (0x11930, 0x11930), (0x1D165, 0x1D165), (0x1D16E, 0x1D172),
        (0xE0020, 0xE007F)] },
   { names := ["hex", "hexdigit"]
     added :=
       [(0x0030, 0x0039), (0x0041, 0x0046), (0x0061, 0x0066),
        (0xFF10, 0xFF19), (0xFF21, 0xFF26), (0xFF41, 0xFF46)] },
   { names := ["idsb", "idsbinaryoperator"]
     added :=
       [(0x2FF0, 0x2FF1), (0x2FF4, 0x2FFB)] },
   { names := ["idst", "idstrinaryoperator"]
     added :=
       [(0x2FF2, 0x2FF3)] },
   { names := ["idc", "idcontinue"]
     categories :=
       [.uppercaseLetter, .lowercaseLetter, .titlecaseLetter,
        .modifierLetter, .otherLetter, .nonspacingMark, .spacingMark,
        .decimalNumber, .letterNumber, .connectorPunctuation]
     added :=
       [(0x00B7, 0x00B7), (0x0387, 0x0387), (0x1369, 0x1371),
        (0x19DA, 0x19DA), (0x2118, 0x2118), (0x212E, 0x212E),
        (0x309B, 0x309C)]
     removed :=
       [(0x2E2F, 0x2E2F)] },
   { names := ["ids", "idstart"]
     categories :=
       [.uppercaseLetter, .lowercaseLetter, .titlecaseLetter,
        .modifierLetter, .otherLetter, .letterNumber]
     added :=
       [(0x1885, 0x1886), (0x2118, 0x2118), (0x212E, 0x212E),
        (0x309B, 0x309C)]
     removed :=
       [(0x2E2F, 0x2E2F)] },
   { names := ["joinc", "joincontrol"]
     added :=
       [(0x200C, 0x200D)] },
   { names := ["loe", "logicalorderexception"]
     added :=
       [(0x0E40, 0x0E44), (0x0EC0, 0x0EC4), (0x19B5, 0x19B7),
        (0x19BA, 0x19BA), (0xAAB5, 0xAAB6), (0xAAB9, 0xAAB9),
        (0xAABB, 0xAABC)] },
   { names := ["lower", "lowercase"]
     categories :=
       [.lowercaseLetter]
     added :=
       [(0x00AA, 0x00AA), (0x00BA, 0x00BA), (0x02B0, 0x02B8),
        (0x02C0, 0x02C1), (0x02E0, 0x02E4), (0x0345, 0x0345),
        (0x037A, 0x037A), (0x10FC, 0x10FC), (0x1D2C, 0x1D6A),
        (0x1D78, 0x1D78), (0x1D9B, 0x1DBF), (0x2071, 0x2071),
        (0x207F, 0x207F), (0x2090, 0x209C), (0x2170, 0x217F),
        (0x24D0, 0x24E9), (0x2C7C, 0x2C7D), (0xA69C, 0xA69D),
        (0xA770, 0xA770), (0xA7F2, 0xA7F4), (0xA7F8, 0xA7F9),
        (0xAB5C, 0xAB5F), (0xAB69, 0xAB69), (0x10780, 0x10780),
        (0x10783, 0x10785), (0x10787, 0x107B0), (0x107B2, 0x107BA),
        (0x1E030, 0x1E06D)] },
   { names := ["math"]
     categories :=
       [.mathSymbol]
     added :=
       [(0x005E, 0x005E), (0x03D0, 0x03D2), (0x03D5, 0x03D5),
        (0x03F0, 0x03F1), (0x03F4, 0x03F5), (0x2016, 0x2016),
        (0x2032, 0x2034), (0x2040, 0x2040), (0x2061, 0x2064),
        (0x207D, 0x207E), (0x208D, 0x208E), (0x20D0, 0x20DC),
        (0x20E1, 0x20E1), (0x20E5, 0x20E6), (0x20EB, 0x20EF),
        (0x2102, 0x2102), (0x2107, 0x2107), (0x210A, 0x2113),
        (0x2115, 0x2115), (0x2119, 0x211D), (0x2124, 0x2124),
        (0x2128, 0x2129), (0x212C, 0x212D), (0x212F, 0x2131),
        (0x2133, 0x2138), (0x213C, 0x213F), (0x2145, 0x2149),
        (0x2195, 0x2199), (0x219C, 0x219F), (0x21A1, 0x21A2),
        (0x21A4, 0x21A5), (0x21A7, 0x21A7), (0x21A9, 0x21AD),
        (0x21B0, 0x21B1), (0x21B6, 0x21B7), (0x21BC, 0x21CD),
        (0x21D0, 0x21D1), (0x21D3, 0x21D3), (0x21D5, 0x21DB),
        (0x21DD, 0x21DD), (0x21E4, 0x21E5), (0x2308, 0x230B),
        (0x23B4, 0x23B5), (0x23B7, 0x23B7), (0x23D0, 0x23D0),
        (0x23E2, 0x23E2), (0x25A0, 0x25A1), (0x25AE, 0x25B6),
        (0x25BC, 0x25C0), (0x25C6, 0x25C7), (0x25CA, 0x25CB),
        (0x25CF, 0x25D3), (0x25E2, 0x25E2), (0x25E4, 0x25E4),
        (0x25E7, 0x25EC), (0x2605, 0x2606), (0x2640, 0x2640),
        (0x2642, 0x2642), (0x2660, 0x2663), (0x266D, 0x266E),
        (0x27C5, 0x27C6), (0x27E6, 0x27EF), (0x2983, 0x2998),
        (0x29D8, 0x29DB), (0x29FC, 0x29FD), (0xFE61, 0xFE61),
        (0xFE63, 0xFE63), (0xFE68, 0xFE68), (0xFF3C, 0xFF3C),
        (0xFF3E, 0xFF3E), (0x1D400, 0x1D454), (0x1D456, 0x1D49C),
        (0x1D49E, 0x1D49F), (0x1D4A2, 0x1D4A2), (0x1D4A5, 0x1D4A6),
        (0x1D4A9, 0x1D4AC), (0x1D4AE, 0x1D4B9), (0x1D4BB, 0x1D4BB),
        (0x1D4BD, 0x1D4C3), (0x1D4C5, 0x1D505), (0x1D507, 0x1D50A),
        (0x1D50D, 0x1D514), (0x1D516, 0x1D51C), (0x1D51E, 0x1D539),
        (0x1D53B, 0x1D53E), (0x1D540, 0x1D544), (0x1D546, 0x1D546),
        (0x1D54A, 0x1D550), (0x1D552, 0x1D6A5), (0x1D6A8, 0x1D6C0),
        (0x1D6C2, 0x1D6DA), (0x1D6DC, 0x1D6FA), (0x1D6FC, 0x1D714),
        (0x1D716, 0x1D734), (0x1D736, 0x1D74E), (0x1D750, 0x1D76E),
        (0x1D770, 0x1D788), (0x1D78A, 0x1D7A8), (0x1D7AA, 0x1D7C2),
        (0x1D7C4, 0x1D7CB), (0x1D7CE, 0x1D7FF), (0x1EE00, 0x1EE03),
        (0x1EE05, 0x1EE1F), (0x1EE21, 0x1EE22), (0x1EE24, 0x1EE24),
        (0x1EE27, 0x1EE27), (0x1EE29, 0x1EE32), (0x1EE34, 0x1EE37),
        (0x1EE39, 0x1EE39), (0x1EE3B, 0x1EE3B), (0x1EE42, 0x1EE42),
        (0x1EE47, 0x1EE47), (0x1EE49, 0x1EE49), (0x1EE4B, 0x1EE4B),
        (0x1EE4D, 0x1EE4F), (0x1EE51, 0x1EE52), (0x1EE54, 0x1EE54),
        (0x1EE57, 0x1EE57), (0x1EE59, 0x1EE59), (0x1EE5B, 0x1EE5B),
        (0x1EE5D, 0x1EE5D), (0x1EE5F, 0x1EE5F), (0x1EE61, 0x1EE62),
        (0x1EE64, 0x1EE64), (0x1EE67, 0x1EE6A), (0x1EE6C, 0x1EE72),
        (0x1EE74, 0x1EE77), (0x1EE79, 0x1EE7C), (0x1EE7E, 0x1EE7E),
        (0x1EE80, 0x1EE89), (0x1EE8B, 0x1EE9B), (0x1EEA1, 0x1EEA3),
        (0x1EEA5, 0x1EEA9), (0x1EEAB, 0x1EEBB)] },
   { names := ["nchar", "noncharactercodepoint"]
     added :=
       [(0xFDD0, 0xFDEF), (0xFFFE, 0xFFFF), (0x1FFFE, 0x1FFFF),
        (0x2FFFE, 0x2FFFF), (0x3FFFE, 0x3FFFF), (0x4FFFE, 0x4FFFF),
        (0x5FFFE, 0x5FFFF), (0x6FFFE, 0x6FFFF), (0x7FFFE, 0x7FFFF),
        (0x8FFFE, 0x8FFFF), (0x9FFFE, 0x9FFFF), (0xAFFFE, 0xAFFFF),
        (0xBFFFE, 0xBFFFF), (0xCFFFE, 0xCFFFF), (0xDFFFE, 0xDFFFF),
        (0xEFFFE, 0xEFFFF), (0xFFFFE, 0xFFFFF), (0x10FFFE, 0x10FFFF)] },
   { names := ["patsyn", "patternsyntax"]
     added :=
       [(0x0021, 0x002F), (0x003A, 0x0040), (0x005B, 0x005E),
        (0x0060, 0x0060), (0x007B, 0x007E), (0x00A1, 0x00A7),
        (0x00A9, 0x00A9), (0x00AB, 0x00AC), (0x00AE, 0x00AE),
        (0x00B0, 0x00B1), (0x00B6, 0x00B6), (0x00BB, 0x00BB),
        (0x00BF, 0x00BF), (0x00D7, 0x00D7), (0x00F7, 0x00F7),
        (0x2010, 0x2027), (0x2030, 0x203E), (0x2041, 0x2053),
        (0x2055, 0x205E), (0x2190, 0x245F), (0x2500, 0x2775),
        (0x2794, 0x2BFF), (0x2E00, 0x2E7F), (0x3001, 0x3003),
        (0x3008, 0x3020), (0x3030, 0x3030), (0xFD3E, 0xFD3F),
        (0xFE45, 0xFE46)] },
   { names := ["patws", "patternwhitespace"]
     added :=
       [(0x0009, 0x000D), (0x0020, 0x0020), (0x0085, 0x0085),
        (0x200E, 0x200F), (0x2028, 0x2029)] },
   { names := ["pcm", "prependedconcatenationmark"]
     added :=
       [(0x0600, 0x0605), (0x06DD, 0x06DD), (0x070F, 0x070F),
        (0x0890, 0x0891), (0x08E2, 0x08E2), (0x110BD, 0x110BD),
        (0x110CD, 0x110CD)] }]

/-- Those with names from `Q` to `X`. -/
def fromQToX : List Property :=
  [{ names := ["qmark", "quotationmark"]
     categories :=
       [.initialPunctuation, .finalPunctuation]
     added :=
       [(0x0022, 0x0022), (0x0027, 0x0027), (0x201A, 0x201A),
        (0x201E, 0x201E), (0x2E42, 0x2E42), (0x300C, 0x300F),
        (0x301D, 0x301F), (0xFE41, 0xFE44), (0xFF02, 0xFF02),
        (0xFF07, 0xFF07), (0xFF62, 0xFF63)]
     removed :=
       [(0x2E02, 0x2E05), (0x2E09, 0x2E0A), (0x2E0C, 0x2E0D),
        (0x2E1C, 0x2E1D), (0x2E20, 0x2E21)] },
   { names := ["radical"]
     added :=
       [(0x2E80, 0x2E99), (0x2E9B, 0x2EF3), (0x2F00, 0x2FD5)] },
   { names := ["ri", "regionalindicator"]
     added :=
       [(0x1F1E6, 0x1F1FF)] },
   { names := ["sterm", "sentenceterminal"]
     added :=
       [(0x0021, 0x0021), (0x002E, 0x002E), (0x003F, 0x003F),
        (0x0589, 0x0589), (0x061D, 0x061F), (0x06D4, 0x06D4),
        (0x0700, 0x0702), (0x07F9, 0x07F9), (0x0837, 0x0837),
        (0x0839, 0x0839), (0x083D, 0x083E), (0x0964, 0x0965),
        (0x104A, 0x104B), (0x1362, 0x1362), (0x1367, 0x1368),
        (0x166E, 0x166E), (0x1735, 0x1736), (0x1803, 0x1803),
        (0x1809, 0x1809), (0x1944, 0x1945), (0x1AA8, 0x1AAB),
        (0x1B5A, 0x1B5B), (0x1B5E, 0x1B5F), (0x1B7D, 0x1B7E),
        (0x1C3B, 0x1C3C), (0x1C7E, 0x1C7F), (0x203C, 0x203D),
        (0x2047, 0x2049), (0x2E2E, 0x2E2E), (0x2E3C, 0x2E3C),
        (0x2E53, 0x2E54), (0x3002, 0x3002), (0xA4FF, 0xA4FF),
        (0xA60E, 0xA60F), (0xA6F3, 0xA6F3), (0xA6F7, 0xA6F7),
        (0xA876, 0xA877), (0xA8CE, 0xA8CF), (0xA92F, 0xA92F),
        (0xA9C8, 0xA9C9), (0xAA5D, 0xAA5F), (0xAAF0, 0xAAF1),
        (0xABEB, 0xABEB), (0xFE52, 0xFE52), (0xFE56, 0xFE57),
        (0xFF01, 0xFF01), (0xFF0E, 0xFF0E), (0xFF1F, 0xFF1F),
        (0xFF61, 0xFF61), (0x10A56, 0x10A57), (0x10F55, 0x10F59),
        (0x10F86, 0x10F89), (0x11047, 0x11048), (0x110BE, 0x110C1),
        (0x11141, 0x11143), (0x111C5, 0x111C6), (0x111CD, 0x111CD),
        (0x111DE, 0x111DF), (0x11238, 0x11239), (0x1123B, 0x1123C),
        (0x112A9, 0x112A9), (0x1144B, 0x1144C), (0x115C2, 0x115C3),
        (0x115C9, 0x115D7), (0x11641, 0x11642), (0x1173C, 0x1173E),
        (0x11944, 0x11944), (0x11946, 0x11946), (0x11A42, 0x11A43),
        (0x11A9B, 0x11A9C), (0x11C41, 0x11C42), (0x11EF7, 0x11EF8),
        (0x11F43, 0x11F44), (0x16A6E, 0x16A6F), (0x16AF5, 0x16AF5),
        (0x16B37, 0x16B38), (0x16B44, 0x16B44), (0x16E98, 0x16E98),
        (0x1BC9F, 0x1BC9F), (0x1DA88, 0x1DA88)] },
   { names := ["sd", "softdotted"]
     added :=
       [(0x0069, 0x006A), (0x012F, 0x012F), (0x0249, 0x0249),
        (0x0268, 0x0268), (0x029D, 0x029D), (0x02B2, 0x02B2),
        (0x03F3, 0x03F3), (0x0456, 0x0456), (0x0458, 0x0458),
        (0x1D62, 0x1D62), (0x1D96, 0x1D96), (0x1DA4, 0x1DA4),
        (0x1DA8, 0x1DA8), (0x1E2D, 0x1E2D), (0x1ECB, 0x1ECB),
        (0x2071, 0x2071), (0x2148, 0x2149), (0x2C7C, 0x2C7C),
        (0x1D422, 0x1D423), (0x1D456, 0x1D457), (0x1D48A, 0x1D48B),
        (0x1D4BE, 0x1D4BF), (0x1D4F2, 0x1D4F3), (0x1D526, 0x1D527),
        (0x1D55A, 0x1D55B), (0x1D58E, 0x1D58F), (0x1D5C2, 0x1D5C3),
        (0x1D5F6, 0x1D5F7), (0x1D62A, 0x1D62B), (0x1D65E, 0x1D65F),
        (0x1D692, 0x1D693), (0x1DF1A, 0x1DF1A), (0x1E04C, 0x1E04D),
        (0x1E068, 0x1E068)] },
   { names := ["term", "terminalpunctuation"]
     added :=
       [(0x0021, 0x0021), (0x002C, 0x002C), (0x002E, 0x002E),
        (0x003A, 0x003B), (0x003F, 0x003F), (0x037E, 0x037E),
        (0x0387, 0x0387), (0x0589, 0x0589), (0x05C3, 0x05C3),
        (0x060C, 0x060C), (0x061B, 0x061B), (0x061D, 0x061F),
        (0x06D4, 0x06D4), (0x0700, 0x070A), (0x070C, 0x070C),
        (0x07F8, 0x07F9), (0x0830, 0x083E), (0x085E, 0x085E),
        (0x0964, 0x0965), (0x0E5A, 0x0E5B), (0x0F08, 0x0F08),
        (0x0F0D, 0x0F12), (0x104A, 0x104B), (0x1361, 0x1368),
        (0x166E, 0x166E), (0x16EB, 0x16ED), (0x1735, 0x1736),
        (0x17D4, 0x17D6), (0x17DA, 0x17DA), (0x1802, 0x1805),
        (0x1808, 0x1809), (0x1944, 0x1945), (0x1AA8, 0x1AAB),
        (0x1B5A, 0x1B5B), (0x1B5D, 0x1B5F), (0x1B7D, 0x1B7E),
        (0x1C3B, 0x1C3F), (0x1C7E, 0x1C7F), (0x203C, 0x203D),
        (0x2047, 0x2049), (0x2E2E, 0x2E2E), (0x2E3C, 0x2E3C),
        (0x2E41, 0x2E41), (0x2E4C, 0x2E4C), (0x2E4E, 0x2E4F),
        (0x2E53, 0x2E54), (0x3001, 0x3002), (0xA4FE, 0xA4FF),
        (0xA60D, 0xA60F), (0xA6F3, 0xA6F7), (0xA876, 0xA877),
        (0xA8CE, 0xA8CF), (0xA92F, 0xA92F), (0xA9C7, 0xA9C9),
        (0xAA5D, 0xAA5F), (0xAADF, 0xAADF), (0xAAF0, 0xAAF1),
        (0xABEB, 0xABEB), (0xFE50, 0xFE52), (0xFE54, 0xFE57),
        (0xFF01, 0xFF01), (0xFF0C, 0xFF0C), (0xFF0E, 0xFF0E),
        (0xFF1A, 0xFF1B), (0xFF1F, 0xFF1F), (0xFF61, 0xFF61),
        (0xFF64, 0xFF64), (0x1039F, 0x1039F), (0x103D0, 0x103D0),
        (0x10857, 0x10857), (0x1091F, 0x1091F), (0x10A56, 0x10A57),
        (0x10AF0, 0x10AF5), (0x10B3A, 0x10B3F), (0x10B99, 0x10B9C),
        (0x10F55, 0x10F59), (0x10F86, 0x10F89), (0x11047, 0x1104D),
        (0x110BE, 0x110C1), (0x11141, 0x11143), (0x111C5, 0x111C6),
        (0x111CD, 0x111CD), (0x111DE, 0x111DF), (0x11238, 0x1123C),
        (0x112A9, 0x112A9), (0x1144B, 0x1144D), (0x1145A, 0x1145B),
        (0x115C2, 0x115C5), (0x115C9, 0x115D7), (0x11641, 0x11642),
        (0x1173C, 0x1173E), (0x11944, 0x11944), (0x11946, 0x11946),
        (0x11A42, 0x11A43), (0x11A9B, 0x11A9C), (0x11AA1, 0x11AA2),
        (0x11C41, 0x11C43), (0x11C71, 0x11C71), (0x11EF7, 0x11EF8),
        (0x11F43, 0x11F44), (0x12470, 0x12474), (0x16A6E, 0x16A6F),
        (0x16AF5, 0x16AF5), (0x16B37, 0x16B39), (0x16B44, 0x16B44),
        (0x16E97, 0x16E98), (0x1BC9F, 0x1BC9F), (0x1DA87, 0x1DA8A)] },
   { names := ["uideo", "unifiedideograph"]
     added :=
       [(0x3400, 0x4DBF), (0x4E00, 0x9FFF), (0xFA0E, 0xFA0F),
        (0xFA11, 0xFA11), (0xFA13, 0xFA14), (0xFA1F, 0xFA1F),
        (0xFA21, 0xFA21), (0xFA23, 0xFA24), (0xFA27, 0xFA29),
        (0x20000, 0x2A6DF), (0x2A700, 0x2B739), (0x2B740, 0x2B81D),
        (0x2B820, 0x2CEA1), (0x2CEB0, 0x2EBE0), (0x30000, 0x3134A),
        (0x31350, 0x323AF)] },
   { names := ["upper", "uppercase"]
     categories :=
       [.uppercaseLetter]
     added :=
       [(0x2160, 0x216F), (0x24B6, 0x24CF), (0x1F130, 0x1F149),
        (0x1F150, 0x1F169), (0x1F170, 0x1F189)] },
   { names := ["vs", "variationselector"]
     added :=
       [(0x180B, 0x180D), (0x180F, 0x180F), (0xFE00, 0xFE0F),
        (0xE0100, 0xE01EF)] },
   { names := ["wspace", "whitespace", "space"]
     categories :=
       [.spaceSeparator, .lineSeparator, .paragraphSeparator]
     added :=
       [(0x0009, 0x000D), (0x0085, 0x0085)] },
   { names := ["xidc", "xidcontinue"]
     categories :=
       [.uppercaseLetter, .lowercaseLetter, .titlecaseLetter,
        .modifierLetter, .otherLetter, .nonspacingMark, .spacingMark,
        .decimalNumber, .letterNumber, .connectorPunctuation]
     added :=
       [(0x00B7, 0x00B7), (0x0387, 0x0387), (0x1369, 0x1371),
        (0x19DA, 0x19DA), (0x2118, 0x2118), (0x212E, 0x212E)]
     removed :=
       [(0x037A, 0x037A), (0x2E2F, 0x2E2F), (0xFC5E, 0xFC63),
        (0xFDFA, 0xFDFB), (0xFE70, 0xFE70), (0xFE72, 0xFE72),
        (0xFE74, 0xFE74), (0xFE76, 0xFE76), (0xFE78, 0xFE78),
        (0xFE7A, 0xFE7A), (0xFE7C, 0xFE7C), (0xFE7E, 0xFE7E)] },
   { names := ["xids", "xidstart"]
     categories :=
       [.uppercaseLetter, .lowercaseLetter, .titlecaseLetter,
        .modifierLetter, .otherLetter, .letterNumber]
     added :=
       [(0x1885, 0x1886), (0x2118, 0x2118), (0x212E, 0x212E)]
     removed :=
       [(0x037A, 0x037A), (0x0E33, 0x0E33), (0x0EB3, 0x0EB3),
        (0x2E2F, 0x2E2F), (0xFC5E, 0xFC63), (0xFDFA, 0xFDFB),
        (0xFE70, 0xFE70), (0xFE72, 0xFE72), (0xFE74, 0xFE74),
        (0xFE76, 0xFE76), (0xFE78, 0xFE78), (0xFE7A, 0xFE7A),
        (0xFE7C, 0xFE7C), (0xFE7E, 0xFE7E), (0xFF9E, 0xFF9F)] }]

/-- All properties. -/
def all : List Property :=
  fromAToC ++ fromDToF ++ fromGToP ++ fromQToX

/-- The property with a name. -/
def named? (name : String) : Option Property :=
  all.find? (·.names.contains name)

end Property

end ScenarioRunner.Text
