import CompletionWire.Text.CodeTable

/-!
# Extensions of GB 2312

Signs that were added to the set of simplified Chinese, and codes of four bytes for all that has no
shorter one.
-/

namespace CompletionWire

namespace CodeTable

/-- Signs, and hanzi that stand apart from all others. -/
def gbkSigns : CodeTable where
  rows := [
    (0xA1, 0xA4, "·�����—"),
    (0xA2, 0xA1, "ⅰⅱⅲⅳⅴⅵⅶⅷⅸⅹ"),
    (0xA6, 0xE0, "︵︶︹︺︿﹀︽︾﹁﹂﹃﹄��︻︼︷︸︱�︳︴"),
    (0xA8, 0x40, "ˊˋ˙–―‥‵℅℉↖↗↘↙∕∟∣≒≦≧⊿═║╒╓╔╕╖╗╘╙╚╛╜╝╞╟╠╡╢╣╤╥╦╧╨╩╪╫╬╭╮╯╰╱╲╳▁▂▃▄▅▆▇�█▉▊▋▌▍▎▏▓▔▕▼▽◢"),
    (0xA8, 0x8E, "◣◤◥☉⊕〒〝〞"),
    (0xA8, 0xBB, "ɑ�ńň�ɡ"),
    (0xA9, 0x40, "〡〢〣〤〥〦〧〨〩㊣㎎㎏㎜㎝㎞㎡㏄㏎㏑㏒㏕︰￢￤�℡㈱�‐���ー゛゜ヽヾ〆ゝゞ﹉﹊"),
    (0xA9, 0x6A, "﹋﹌﹍﹎﹏﹐﹑﹒﹔﹕﹖﹗﹙﹚﹛﹜﹝﹞﹟﹠﹡�﹢﹣﹤﹥﹦﹨﹩﹪﹫"),
    (0xA9, 0x96, "〇"),
    (0xFD, 0x9C, "郎凉秊裏隣"),
    (0xFE, 0x40, "兀嗀﨎﨏﨑﨓﨔礼﨟蘒﨡﨣﨤﨧﨨﨩")]

/-- Runs of codes that came later: their first byte, the first and the last second byte, and the
code point of the first one. There is no code with a second byte of 0x7F. -/
def gb18030Runs : List (Nat × Nat × Nat × Nat) := [
  (0xA1, 0x40, 0xA0, 0xE4C6), (0xA2, 0x40, 0xA0, 0xE526), (0xA2, 0xAB, 0xB0, 0xE766),
  (0xA2, 0xE3, 0xE3, 0x20AC), (0xA2, 0xE4, 0xE4, 0xE76D), (0xA2, 0xEF, 0xF0, 0xE76E),
  (0xA2, 0xFD, 0xFE, 0xE770), (0xA3, 0x40, 0xA0, 0xE586), (0xA4, 0x40, 0xA0, 0xE5E6),
  (0xA4, 0xF4, 0xFE, 0xE772), (0xA5, 0x40, 0xA0, 0xE646), (0xA5, 0xF7, 0xFE, 0xE77D),
  (0xA6, 0x40, 0xA0, 0xE6A6), (0xA6, 0xB9, 0xC0, 0xE785), (0xA6, 0xD9, 0xDF, 0xE78D),
  (0xA6, 0xEC, 0xED, 0xE794), (0xA6, 0xF3, 0xF3, 0xE796), (0xA6, 0xF6, 0xFE, 0xE797),
  (0xA7, 0x40, 0xA0, 0xE706), (0xA7, 0xC2, 0xD0, 0xE7A0), (0xA7, 0xF2, 0xFE, 0xE7AF),
  (0xA8, 0x96, 0xA0, 0xE7BC), (0xA8, 0xBC, 0xBC, 0xE7C7), (0xA8, 0xBF, 0xBF, 0x1F9),
  (0xA8, 0xC1, 0xC4, 0xE7C9), (0xA8, 0xEA, 0xFE, 0xE7CD), (0xA9, 0x58, 0x58, 0xE7E2),
  (0xA9, 0x5B, 0x5B, 0xE7E3), (0xA9, 0x5D, 0x5F, 0xE7E4), (0xA9, 0x89, 0x89, 0x303E),
  (0xA9, 0x8A, 0x95, 0x2FF0), (0xA9, 0x97, 0xA3, 0xE7F4), (0xA9, 0xF0, 0xFE, 0xE801),
  (0xAA, 0xA1, 0xFE, 0xE000), (0xAB, 0xA1, 0xFE, 0xE05E), (0xAC, 0xA1, 0xFE, 0xE0BC),
  (0xAD, 0xA1, 0xFE, 0xE11A), (0xAE, 0xA1, 0xFE, 0xE178), (0xAF, 0xA1, 0xFE, 0xE1D6),
  (0xD7, 0xFA, 0xFE, 0xE810), (0xF8, 0xA1, 0xFE, 0xE234), (0xF9, 0xA1, 0xFE, 0xE292),
  (0xFA, 0xA1, 0xFE, 0xE2F0), (0xFB, 0xA1, 0xFE, 0xE34E), (0xFC, 0xA1, 0xFE, 0xE3AC),
  (0xFD, 0xA1, 0xFE, 0xE40A), (0xFE, 0x50, 0x50, 0x2E81), (0xFE, 0x51, 0x53, 0xE816),
  (0xFE, 0x54, 0x54, 0x2E84), (0xFE, 0x55, 0x55, 0x3473), (0xFE, 0x56, 0x56, 0x3447),
  (0xFE, 0x57, 0x57, 0x2E88), (0xFE, 0x58, 0x58, 0x2E8B), (0xFE, 0x59, 0x59, 0xE81E),
  (0xFE, 0x5A, 0x5A, 0x359E), (0xFE, 0x5B, 0x5B, 0x361A), (0xFE, 0x5C, 0x5C, 0x360E),
  (0xFE, 0x5D, 0x5D, 0x2E8C), (0xFE, 0x5E, 0x5E, 0x2E97), (0xFE, 0x5F, 0x5F, 0x396E),
  (0xFE, 0x60, 0x60, 0x3918), (0xFE, 0x61, 0x61, 0xE826), (0xFE, 0x62, 0x62, 0x39CF),
  (0xFE, 0x63, 0x63, 0x39DF), (0xFE, 0x64, 0x64, 0x3A73), (0xFE, 0x65, 0x65, 0x39D0),
  (0xFE, 0x66, 0x67, 0xE82B), (0xFE, 0x68, 0x68, 0x3B4E), (0xFE, 0x69, 0x69, 0x3C6E),
  (0xFE, 0x6A, 0x6A, 0x3CE0), (0xFE, 0x6B, 0x6B, 0x2EA7), (0xFE, 0x6C, 0x6D, 0xE831),
  (0xFE, 0x6E, 0x6E, 0x2EAA), (0xFE, 0x6F, 0x6F, 0x4056), (0xFE, 0x70, 0x70, 0x415F),
  (0xFE, 0x71, 0x71, 0x2EAE), (0xFE, 0x72, 0x72, 0x4337), (0xFE, 0x73, 0x73, 0x2EB3),
  (0xFE, 0x74, 0x75, 0x2EB6), (0xFE, 0x76, 0x76, 0xE83B), (0xFE, 0x77, 0x77, 0x43B1),
  (0xFE, 0x78, 0x78, 0x43AC), (0xFE, 0x79, 0x79, 0x2EBB), (0xFE, 0x7A, 0x7A, 0x43DD),
  (0xFE, 0x7B, 0x7B, 0x44D6), (0xFE, 0x7C, 0x7C, 0x4661), (0xFE, 0x7D, 0x7D, 0x464C),
  (0xFE, 0x7E, 0x7E, 0xE843), (0xFE, 0x80, 0x80, 0x4723), (0xFE, 0x81, 0x81, 0x4729),
  (0xFE, 0x82, 0x82, 0x477C), (0xFE, 0x83, 0x83, 0x478D), (0xFE, 0x84, 0x84, 0x2ECA),
  (0xFE, 0x85, 0x85, 0x4947), (0xFE, 0x86, 0x86, 0x497A), (0xFE, 0x87, 0x87, 0x497D),
  (0xFE, 0x88, 0x89, 0x4982), (0xFE, 0x8A, 0x8B, 0x4985), (0xFE, 0x8C, 0x8C, 0x499F),
  (0xFE, 0x8D, 0x8D, 0x499B), (0xFE, 0x8E, 0x8E, 0x49B7), (0xFE, 0x8F, 0x8F, 0x49B6),
  (0xFE, 0x90, 0x91, 0xE854), (0xFE, 0x92, 0x92, 0x4CA3), (0xFE, 0x93, 0x95, 0x4C9F),
  (0xFE, 0x96, 0x96, 0x4C77), (0xFE, 0x97, 0x97, 0x4CA2), (0xFE, 0x98, 0x9E, 0x4D13),
  (0xFE, 0x9F, 0x9F, 0x4DAE), (0xFE, 0xA0, 0xA0, 0xE864), (0xFE, 0xA1, 0xFE, 0xE468)]

/-- Runs of codes of four bytes, the last one first: the number of the first code and its code
point. -/
def gb18030Bases : List (Nat × Nat) := [
  (39394, 0xFFE6), (39265, 0xFF5F), (39116, 0xFE6C), (39115, 0xFE67), (39114, 0xFE58),
  (39113, 0xFE53), (39109, 0xFE45), (39108, 0xFE32), (38078, 0xFA2A), (38076, 0xFA25),
  (38075, 0xFA22), (38069, 0xFA19), (38066, 0xFA15), (38065, 0xFA12), (38064, 0xFA10),
  (38038, 0xF9F2), (38029, 0xF9E8), (37948, 0xF996), (37921, 0xF97A), (37845, 0xF92D),
  (33550, 0xE865), (33536, 0xE856), (33520, 0xE844), (33513, 0xE83C), (33505, 0xE833),
  (33501, 0xE82D), (33497, 0xE827), (33490, 0xE81F), (33485, 0xE819), (33484, 0xE815),
  (33471, 0xE7E7), (33470, 0xE7C8), (33469, 0xE76C), (19043, 0x9FA6), (18962, 0x4DAF),
  (18814, 0x4D1A), (18703, 0x4CA4), (18664, 0x4C78), (17961, 0x49B8), (17939, 0x49A0),
  (17936, 0x499C), (17916, 0x4987), (17915, 0x4984), (17911, 0x497E), (17909, 0x497B),
  (17859, 0x4948), (17418, 0x478E), (17402, 0x477D), (17320, 0x472A), (17315, 0x4724),
  (17122, 0x4662), (17102, 0x464D), (16729, 0x44D7), (16481, 0x43DE), (16438, 0x43B2),
  (16434, 0x43AD), (16318, 0x4338), (15847, 0x4160), (15583, 0x4057), (14698, 0x3CE1),
  (14585, 0x3C6F), (14298, 0x3B4F), (14080, 0x3A74), (13933, 0x39E0), (13919, 0x39D1),
  (13823, 0x396F), (13738, 0x3919), (12973, 0x361B), (12962, 0x360F), (12851, 0x359F),
  (12553, 0x3474), (12510, 0x3448), (12397, 0x33D6), (12395, 0x33D3), (12393, 0x33CF),
  (12384, 0x33C5), (12350, 0x33A2), (12348, 0x339F), (12336, 0x3390), (12102, 0x32A4),
  (11989, 0x3232), (11982, 0x322A), (11736, 0x312A), (11730, 0x30FF), (11725, 0x30F7),
  (11723, 0x309F), (11716, 0x3094), (11714, 0x303F), (11694, 0x302A), (11692, 0x301F),
  (11687, 0x3018), (11686, 0x3004), (11682, 0x2FFC), (11389, 0x2ECB), (11375, 0x2EBC),
  (11372, 0x2EB8), (11370, 0x2EB4), (11366, 0x2EAF), (11363, 0x2EAB), (11361, 0x2EA8),
  (11346, 0x2E98), (11336, 0x2E8D), (11334, 0x2E89), (11331, 0x2E85), (11329, 0x2E82),
  (9219, 0x2643), (9218, 0x2641), (9164, 0x260A), (9162, 0x2607), (9131, 0x25E6), (9113, 0x25D0),
  (9111, 0x25CC), (9108, 0x25C8), (9100, 0x25BE), (9092, 0x25B4), (9076, 0x25A2), (9066, 0x2596),
  (9063, 0x2590), (9050, 0x2574), (9046, 0x254C), (8946, 0x249C), (8936, 0x246A), (8603, 0x2313),
  (8521, 0x22C0), (8496, 0x22A6), (8485, 0x229A), (8482, 0x2296), (8445, 0x2270), (8439, 0x2268),
  (8437, 0x2262), (8424, 0x2253), (8419, 0x224D), (8416, 0x2249), (8406, 0x223E), (8401, 0x2238),
  (8396, 0x222F), (8394, 0x222C), (8393, 0x2226), (8392, 0x2224), (8390, 0x2221), (8388, 0x221B),
  (8384, 0x2216), (8381, 0x2212), (8380, 0x2210), (8374, 0x2209), (8264, 0x219A), (8262, 0x2194),
  (8240, 0x217A), (8236, 0x216C), (8174, 0x2122), (8164, 0x2117), (8152, 0x210A), (8149, 0x2106),
  (8148, 0x2104), (8062, 0x20AD), (7950, 0x203C), (7945, 0x2036), (7944, 0x2034), (7943, 0x2031),
  (7934, 0x2027), (7927, 0x201E), (7925, 0x201A), (7924, 0x2017), (7922, 0x2011), (820, 0x452),
  (819, 0x450), (805, 0x402), (750, 0x3CA), (749, 0x3C2), (742, 0x3AA), (741, 0x3A2), (558, 0x2DA),
  (545, 0x2CC), (544, 0x2C8), (443, 0x262), (428, 0x252), (341, 0x1FA), (313, 0x1DD), (312, 0x1DB),
  (311, 0x1D9), (310, 0x1D7), (309, 0x1D5), (308, 0x1D3), (307, 0x1D1), (306, 0x1CF), (208, 0x16C),
  (179, 0x14E), (175, 0x149), (172, 0x145), (148, 0x12C), (133, 0x11C), (126, 0x114), (109, 0x102),
  (105, 0xFD), (104, 0xFB), (103, 0xF8), (100, 0xF4), (96, 0xEE), (95, 0xEB), (89, 0xE2),
  (81, 0xD8), (50, 0xB8), (45, 0xB2), (38, 0xA9), (36, 0xA5), (0, 0x80)]

end CodeTable

end CompletionWire
