-- SUMMARY: Marks and their combining classes.

/-!
# Marks

A mark belongs to the character in front of it. Its combining class tells where it stands: marks of
one class stack up in the order in which they are written, and those of different classes do not touch
each other.
-/
namespace TypedQuery.Text

/-- The marks that take no room of their own, as inclusive ranges of code points of one class each. -/
def nonspacingMarks : List (Nat × Nat × Nat) := [
  (0x300, 0x314, 230), (0x315, 0x315, 232), (0x316, 0x319, 220), (0x31a, 0x31a, 232),
  (0x31b, 0x31b, 216), (0x31c, 0x320, 220), (0x321, 0x322, 202), (0x323, 0x326, 220),
  (0x327, 0x328, 202), (0x329, 0x333, 220), (0x334, 0x338, 1), (0x339, 0x33c, 220),
  (0x33d, 0x344, 230), (0x345, 0x345, 240), (0x346, 0x346, 230), (0x347, 0x349, 220),
  (0x34a, 0x34c, 230), (0x34d, 0x34e, 220), (0x34f, 0x34f, 0), (0x350, 0x352, 230),
  (0x353, 0x356, 220), (0x357, 0x357, 230), (0x358, 0x358, 232), (0x359, 0x35a, 220),
  (0x35b, 0x35b, 230), (0x35c, 0x35c, 233), (0x35d, 0x35e, 234), (0x35f, 0x35f, 233),
  (0x360, 0x361, 234), (0x362, 0x362, 233), (0x363, 0x36f, 230), (0x483, 0x487, 230),
  (0x488, 0x489, 0), (0x591, 0x591, 220), (0x592, 0x595, 230), (0x596, 0x596, 220),
  (0x597, 0x599, 230), (0x59a, 0x59a, 222), (0x59b, 0x59b, 220), (0x59c, 0x5a1, 230),
  (0x5a2, 0x5a7, 220), (0x5a8, 0x5a9, 230), (0x5aa, 0x5aa, 220), (0x5ab, 0x5ac, 230),
  (0x5ad, 0x5ad, 222), (0x5ae, 0x5ae, 228), (0x5af, 0x5af, 230), (0x5b0, 0x5b0, 10),
  (0x5b1, 0x5b1, 11), (0x5b2, 0x5b2, 12), (0x5b3, 0x5b3, 13), (0x5b4, 0x5b4, 14),
  (0x5b5, 0x5b5, 15), (0x5b6, 0x5b6, 16), (0x5b7, 0x5b7, 17), (0x5b8, 0x5b8, 18),
  (0x5b9, 0x5ba, 19), (0x5bb, 0x5bb, 20), (0x5bc, 0x5bc, 21), (0x5bd, 0x5bd, 22),
  (0x5bf, 0x5bf, 23), (0x5c1, 0x5c1, 24), (0x5c2, 0x5c2, 25), (0x5c4, 0x5c4, 230),
  (0x5c5, 0x5c5, 220), (0x5c7, 0x5c7, 18), (0x610, 0x617, 230), (0x618, 0x618, 30),
  (0x619, 0x619, 31), (0x61a, 0x61a, 32), (0x64b, 0x64b, 27), (0x64c, 0x64c, 28),
  (0x64d, 0x64d, 29), (0x64e, 0x64e, 30), (0x64f, 0x64f, 31), (0x650, 0x650, 32),
  (0x651, 0x651, 33), (0x652, 0x652, 34), (0x653, 0x654, 230), (0x655, 0x656, 220),
  (0x657, 0x65b, 230), (0x65c, 0x65c, 220), (0x65d, 0x65e, 230), (0x65f, 0x65f, 220),
  (0x670, 0x670, 35), (0x6d6, 0x6dc, 230), (0x6df, 0x6e2, 230), (0x6e3, 0x6e3, 220),
  (0x6e4, 0x6e4, 230), (0x6e7, 0x6e8, 230), (0x6ea, 0x6ea, 220), (0x6eb, 0x6ec, 230),
  (0x6ed, 0x6ed, 220), (0x711, 0x711, 36), (0x730, 0x730, 230), (0x731, 0x731, 220),
  (0x732, 0x733, 230), (0x734, 0x734, 220), (0x735, 0x736, 230), (0x737, 0x739, 220),
  (0x73a, 0x73a, 230), (0x73b, 0x73c, 220), (0x73d, 0x73d, 230), (0x73e, 0x73e, 220),
  (0x73f, 0x741, 230), (0x742, 0x742, 220), (0x743, 0x743, 230), (0x744, 0x744, 220),
  (0x745, 0x745, 230), (0x746, 0x746, 220), (0x747, 0x747, 230), (0x748, 0x748, 220),
  (0x749, 0x74a, 230), (0x7a6, 0x7b0, 0), (0x7eb, 0x7f1, 230), (0x7f2, 0x7f2, 220),
  (0x7f3, 0x7f3, 230), (0x7fd, 0x7fd, 220), (0x816, 0x819, 230), (0x81b, 0x823, 230),
  (0x825, 0x827, 230), (0x829, 0x82d, 230), (0x859, 0x85b, 220), (0x897, 0x898, 230),
  (0x899, 0x89b, 220), (0x89c, 0x89f, 230), (0x8ca, 0x8ce, 230), (0x8cf, 0x8d3, 220),
  (0x8d4, 0x8e1, 230), (0x8e3, 0x8e3, 220), (0x8e4, 0x8e5, 230), (0x8e6, 0x8e6, 220),
  (0x8e7, 0x8e8, 230), (0x8e9, 0x8e9, 220), (0x8ea, 0x8ec, 230), (0x8ed, 0x8ef, 220),
  (0x8f0, 0x8f0, 27), (0x8f1, 0x8f1, 28), (0x8f2, 0x8f2, 29), (0x8f3, 0x8f5, 230),
  (0x8f6, 0x8f6, 220), (0x8f7, 0x8f8, 230), (0x8f9, 0x8fa, 220), (0x8fb, 0x8ff, 230),
  (0x900, 0x902, 0), (0x93a, 0x93a, 0), (0x93c, 0x93c, 7), (0x941, 0x948, 0), (0x94d, 0x94d, 9),
  (0x951, 0x951, 230), (0x952, 0x952, 220), (0x953, 0x954, 230), (0x955, 0x957, 0),
  (0x962, 0x963, 0), (0x981, 0x981, 0), (0x9bc, 0x9bc, 7), (0x9c1, 0x9c4, 0), (0x9cd, 0x9cd, 9),
  (0x9e2, 0x9e3, 0), (0x9fe, 0x9fe, 230), (0xa01, 0xa02, 0), (0xa3c, 0xa3c, 7), (0xa41, 0xa42, 0),
  (0xa47, 0xa48, 0), (0xa4b, 0xa4c, 0), (0xa4d, 0xa4d, 9), (0xa51, 0xa51, 0), (0xa70, 0xa71, 0),
  (0xa75, 0xa75, 0), (0xa81, 0xa82, 0), (0xabc, 0xabc, 7), (0xac1, 0xac5, 0), (0xac7, 0xac8, 0),
  (0xacd, 0xacd, 9), (0xae2, 0xae3, 0), (0xafa, 0xaff, 0), (0xb01, 0xb01, 0), (0xb3c, 0xb3c, 7),
  (0xb3f, 0xb3f, 0), (0xb41, 0xb44, 0), (0xb4d, 0xb4d, 9), (0xb55, 0xb56, 0), (0xb62, 0xb63, 0),
  (0xb82, 0xb82, 0), (0xbc0, 0xbc0, 0), (0xbcd, 0xbcd, 9), (0xc00, 0xc00, 0), (0xc04, 0xc04, 0),
  (0xc3c, 0xc3c, 7), (0xc3e, 0xc40, 0), (0xc46, 0xc48, 0), (0xc4a, 0xc4c, 0), (0xc4d, 0xc4d, 9),
  (0xc55, 0xc55, 84), (0xc56, 0xc56, 91), (0xc62, 0xc63, 0), (0xc81, 0xc81, 0), (0xcbc, 0xcbc, 7),
  (0xcbf, 0xcbf, 0), (0xcc6, 0xcc6, 0), (0xccc, 0xccc, 0), (0xccd, 0xccd, 9), (0xce2, 0xce3, 0),
  (0xd00, 0xd01, 0), (0xd3b, 0xd3c, 9), (0xd41, 0xd44, 0), (0xd4d, 0xd4d, 9), (0xd62, 0xd63, 0),
  (0xd81, 0xd81, 0), (0xdca, 0xdca, 9), (0xdd2, 0xdd4, 0), (0xdd6, 0xdd6, 0), (0xe31, 0xe31, 0),
  (0xe34, 0xe37, 0), (0xe38, 0xe39, 103), (0xe3a, 0xe3a, 9), (0xe47, 0xe47, 0),
  (0xe48, 0xe4b, 107), (0xe4c, 0xe4e, 0), (0xeb1, 0xeb1, 0), (0xeb4, 0xeb7, 0),
  (0xeb8, 0xeb9, 118), (0xeba, 0xeba, 9), (0xebb, 0xebc, 0), (0xec8, 0xecb, 122),
  (0xecc, 0xece, 0), (0xf18, 0xf19, 220), (0xf35, 0xf35, 220), (0xf37, 0xf37, 220),
  (0xf39, 0xf39, 216), (0xf71, 0xf71, 129), (0xf72, 0xf72, 130), (0xf73, 0xf73, 0),
  (0xf74, 0xf74, 132), (0xf75, 0xf79, 0), (0xf7a, 0xf7d, 130), (0xf7e, 0xf7e, 0),
  (0xf80, 0xf80, 130), (0xf81, 0xf81, 0), (0xf82, 0xf83, 230), (0xf84, 0xf84, 9),
  (0xf86, 0xf87, 230), (0xf8d, 0xf97, 0), (0xf99, 0xfbc, 0), (0xfc6, 0xfc6, 220),
  (0x102d, 0x1030, 0), (0x1032, 0x1036, 0), (0x1037, 0x1037, 7), (0x1039, 0x103a, 9),
  (0x103d, 0x103e, 0), (0x1058, 0x1059, 0), (0x105e, 0x1060, 0), (0x1071, 0x1074, 0),
  (0x1082, 0x1082, 0), (0x1085, 0x1086, 0), (0x108d, 0x108d, 220), (0x109d, 0x109d, 0),
  (0x135d, 0x135f, 230), (0x1712, 0x1713, 0), (0x1714, 0x1714, 9), (0x1732, 0x1733, 0),
  (0x1752, 0x1753, 0), (0x1772, 0x1773, 0), (0x17b4, 0x17b5, 0), (0x17b7, 0x17bd, 0),
  (0x17c6, 0x17c6, 0), (0x17c9, 0x17d1, 0), (0x17d2, 0x17d2, 9), (0x17d3, 0x17d3, 0),
  (0x17dd, 0x17dd, 230), (0x180b, 0x180d, 0), (0x180f, 0x180f, 0), (0x1885, 0x1886, 0),
  (0x18a9, 0x18a9, 228), (0x1920, 0x1922, 0), (0x1927, 0x1928, 0), (0x1932, 0x1932, 0),
  (0x1939, 0x1939, 222), (0x193a, 0x193a, 230), (0x193b, 0x193b, 220), (0x1a17, 0x1a17, 230),
  (0x1a18, 0x1a18, 220), (0x1a1b, 0x1a1b, 0), (0x1a56, 0x1a56, 0), (0x1a58, 0x1a5e, 0),
  (0x1a60, 0x1a60, 9), (0x1a62, 0x1a62, 0), (0x1a65, 0x1a6c, 0), (0x1a73, 0x1a74, 0),
  (0x1a75, 0x1a7c, 230), (0x1a7f, 0x1a7f, 220), (0x1ab0, 0x1ab4, 230), (0x1ab5, 0x1aba, 220),
  (0x1abb, 0x1abc, 230), (0x1abd, 0x1abd, 220), (0x1abe, 0x1abe, 0), (0x1abf, 0x1ac0, 220),
  (0x1ac1, 0x1ac2, 230), (0x1ac3, 0x1ac4, 220), (0x1ac5, 0x1ac9, 230), (0x1aca, 0x1aca, 220),
  (0x1acb, 0x1adc, 230), (0x1add, 0x1add, 220), (0x1ae0, 0x1ae5, 230), (0x1ae6, 0x1ae6, 220),
  (0x1ae7, 0x1aea, 230), (0x1aeb, 0x1aeb, 234), (0x1b00, 0x1b03, 0), (0x1b34, 0x1b34, 7),
  (0x1b36, 0x1b3a, 0), (0x1b3c, 0x1b3c, 0), (0x1b42, 0x1b42, 0), (0x1b6b, 0x1b6b, 230),
  (0x1b6c, 0x1b6c, 220), (0x1b6d, 0x1b73, 230), (0x1b80, 0x1b81, 0), (0x1ba2, 0x1ba5, 0),
  (0x1ba8, 0x1ba9, 0), (0x1bab, 0x1bab, 9), (0x1bac, 0x1bad, 0), (0x1be6, 0x1be6, 7),
  (0x1be8, 0x1be9, 0), (0x1bed, 0x1bed, 0), (0x1bef, 0x1bf1, 0), (0x1c2c, 0x1c33, 0),
  (0x1c36, 0x1c36, 0), (0x1c37, 0x1c37, 7), (0x1cd0, 0x1cd2, 230), (0x1cd4, 0x1cd4, 1),
  (0x1cd5, 0x1cd9, 220), (0x1cda, 0x1cdb, 230), (0x1cdc, 0x1cdf, 220), (0x1ce0, 0x1ce0, 230),
  (0x1ce2, 0x1ce8, 1), (0x1ced, 0x1ced, 220), (0x1cf4, 0x1cf4, 230), (0x1cf8, 0x1cf9, 230),
  (0x1dc0, 0x1dc1, 230), (0x1dc2, 0x1dc2, 220), (0x1dc3, 0x1dc9, 230), (0x1dca, 0x1dca, 220),
  (0x1dcb, 0x1dcc, 230), (0x1dcd, 0x1dcd, 234), (0x1dce, 0x1dce, 214), (0x1dcf, 0x1dcf, 220),
  (0x1dd0, 0x1dd0, 202), (0x1dd1, 0x1df5, 230), (0x1df6, 0x1df6, 232), (0x1df7, 0x1df8, 228),
  (0x1df9, 0x1df9, 220), (0x1dfa, 0x1dfa, 218), (0x1dfb, 0x1dfb, 230), (0x1dfc, 0x1dfc, 233),
  (0x1dfd, 0x1dfd, 220), (0x1dfe, 0x1dfe, 230), (0x1dff, 0x1dff, 220), (0x20d0, 0x20d1, 230),
  (0x20d2, 0x20d3, 1), (0x20d4, 0x20d7, 230), (0x20d8, 0x20da, 1), (0x20db, 0x20dc, 230),
  (0x20dd, 0x20e0, 0), (0x20e1, 0x20e1, 230), (0x20e2, 0x20e4, 0), (0x20e5, 0x20e6, 1),
  (0x20e7, 0x20e7, 230), (0x20e8, 0x20e8, 220), (0x20e9, 0x20e9, 230), (0x20ea, 0x20eb, 1),
  (0x20ec, 0x20ef, 220), (0x20f0, 0x20f0, 230), (0x2cef, 0x2cf1, 230), (0x2d7f, 0x2d7f, 9),
  (0x2de0, 0x2dff, 230), (0x302a, 0x302a, 218), (0x302b, 0x302b, 228), (0x302c, 0x302c, 232),
  (0x302d, 0x302d, 222), (0x3099, 0x309a, 8), (0xa66f, 0xa66f, 230), (0xa670, 0xa672, 0),
  (0xa674, 0xa67d, 230), (0xa69e, 0xa69f, 230), (0xa6f0, 0xa6f1, 230), (0xa802, 0xa802, 0),
  (0xa806, 0xa806, 9), (0xa80b, 0xa80b, 0), (0xa825, 0xa826, 0), (0xa82c, 0xa82c, 9),
  (0xa8c4, 0xa8c4, 9), (0xa8c5, 0xa8c5, 0), (0xa8e0, 0xa8f1, 230), (0xa8ff, 0xa8ff, 0),
  (0xa926, 0xa92a, 0), (0xa92b, 0xa92d, 220), (0xa947, 0xa951, 0), (0xa980, 0xa982, 0),
  (0xa9b3, 0xa9b3, 7), (0xa9b6, 0xa9b9, 0), (0xa9bc, 0xa9bd, 0), (0xa9e5, 0xa9e5, 0),
  (0xaa29, 0xaa2e, 0), (0xaa31, 0xaa32, 0), (0xaa35, 0xaa36, 0), (0xaa43, 0xaa43, 0),
  (0xaa4c, 0xaa4c, 0), (0xaa7c, 0xaa7c, 0), (0xaab0, 0xaab0, 230), (0xaab2, 0xaab3, 230),
  (0xaab4, 0xaab4, 220), (0xaab7, 0xaab8, 230), (0xaabe, 0xaabf, 230), (0xaac1, 0xaac1, 230),
  (0xaaec, 0xaaed, 0), (0xaaf6, 0xaaf6, 9), (0xabe5, 0xabe5, 0), (0xabe8, 0xabe8, 0),
  (0xabed, 0xabed, 9), (0xfb1e, 0xfb1e, 26), (0xfe00, 0xfe0f, 0), (0xfe20, 0xfe26, 230),
  (0xfe27, 0xfe2d, 220), (0xfe2e, 0xfe2f, 230), (0x101fd, 0x101fd, 220), (0x102e0, 0x102e0, 220),
  (0x10376, 0x1037a, 230), (0x10a01, 0x10a03, 0), (0x10a05, 0x10a06, 0), (0x10a0c, 0x10a0c, 0),
  (0x10a0d, 0x10a0d, 220), (0x10a0e, 0x10a0e, 0), (0x10a0f, 0x10a0f, 230),
  (0x10a38, 0x10a38, 230), (0x10a39, 0x10a39, 1), (0x10a3a, 0x10a3a, 220), (0x10a3f, 0x10a3f, 9),
  (0x10ae5, 0x10ae5, 230), (0x10ae6, 0x10ae6, 220), (0x10d24, 0x10d27, 230),
  (0x10d69, 0x10d6d, 230), (0x10eab, 0x10eac, 230), (0x10efa, 0x10efb, 220),
  (0x10efc, 0x10efc, 0), (0x10efd, 0x10eff, 220), (0x10f46, 0x10f47, 220),
  (0x10f48, 0x10f4a, 230), (0x10f4b, 0x10f4b, 220), (0x10f4c, 0x10f4c, 230),
  (0x10f4d, 0x10f50, 220), (0x10f82, 0x10f82, 230), (0x10f83, 0x10f83, 220),
  (0x10f84, 0x10f84, 230), (0x10f85, 0x10f85, 220), (0x11001, 0x11001, 0), (0x11038, 0x11045, 0),
  (0x11046, 0x11046, 9), (0x11070, 0x11070, 9), (0x11073, 0x11074, 0), (0x1107f, 0x1107f, 9),
  (0x11080, 0x11081, 0), (0x110b3, 0x110b6, 0), (0x110b9, 0x110b9, 9), (0x110ba, 0x110ba, 7),
  (0x110c2, 0x110c2, 0), (0x11100, 0x11102, 230), (0x11127, 0x1112b, 0), (0x1112d, 0x11132, 0),
  (0x11133, 0x11134, 9), (0x11173, 0x11173, 7), (0x11180, 0x11181, 0), (0x111b6, 0x111be, 0),
  (0x111c9, 0x111c9, 0), (0x111ca, 0x111ca, 7), (0x111cb, 0x111cc, 0), (0x111cf, 0x111cf, 0),
  (0x1122f, 0x11231, 0), (0x11234, 0x11234, 0), (0x11236, 0x11236, 7), (0x11237, 0x11237, 0),
  (0x1123e, 0x1123e, 0), (0x11241, 0x11241, 0), (0x112df, 0x112df, 0), (0x112e3, 0x112e8, 0),
  (0x112e9, 0x112e9, 7), (0x112ea, 0x112ea, 9), (0x11300, 0x11301, 0), (0x1133b, 0x1133c, 7),
  (0x11340, 0x11340, 0), (0x11366, 0x1136c, 230), (0x11370, 0x11374, 230), (0x113bb, 0x113c0, 0),
  (0x113ce, 0x113ce, 9), (0x113d0, 0x113d0, 9), (0x113d2, 0x113d2, 0), (0x113e1, 0x113e2, 0),
  (0x11438, 0x1143f, 0), (0x11442, 0x11442, 9), (0x11443, 0x11444, 0), (0x11446, 0x11446, 7),
  (0x1145e, 0x1145e, 230), (0x114b3, 0x114b8, 0), (0x114ba, 0x114ba, 0), (0x114bf, 0x114c0, 0),
  (0x114c2, 0x114c2, 9), (0x114c3, 0x114c3, 7), (0x115b2, 0x115b5, 0), (0x115bc, 0x115bd, 0),
  (0x115bf, 0x115bf, 9), (0x115c0, 0x115c0, 7), (0x115dc, 0x115dd, 0), (0x11633, 0x1163a, 0),
  (0x1163d, 0x1163d, 0), (0x1163f, 0x1163f, 9), (0x11640, 0x11640, 0), (0x116ab, 0x116ab, 0),
  (0x116ad, 0x116ad, 0), (0x116b0, 0x116b5, 0), (0x116b7, 0x116b7, 7), (0x1171d, 0x1171d, 0),
  (0x1171f, 0x1171f, 0), (0x11722, 0x11725, 0), (0x11727, 0x1172a, 0), (0x1172b, 0x1172b, 9),
  (0x1182f, 0x11837, 0), (0x11839, 0x11839, 9), (0x1183a, 0x1183a, 7), (0x1193b, 0x1193c, 0),
  (0x1193e, 0x1193e, 9), (0x11943, 0x11943, 7), (0x119d4, 0x119d7, 0), (0x119da, 0x119db, 0),
  (0x119e0, 0x119e0, 9), (0x11a01, 0x11a0a, 0), (0x11a33, 0x11a33, 0), (0x11a34, 0x11a34, 9),
  (0x11a35, 0x11a38, 0), (0x11a3b, 0x11a3e, 0), (0x11a47, 0x11a47, 9), (0x11a51, 0x11a56, 0),
  (0x11a59, 0x11a5b, 0), (0x11a8a, 0x11a96, 0), (0x11a98, 0x11a98, 0), (0x11a99, 0x11a99, 9),
  (0x11b60, 0x11b60, 0), (0x11b62, 0x11b64, 0), (0x11b66, 0x11b66, 0), (0x11c30, 0x11c36, 0),
  (0x11c38, 0x11c3d, 0), (0x11c3f, 0x11c3f, 9), (0x11c92, 0x11ca7, 0), (0x11caa, 0x11cb0, 0),
  (0x11cb2, 0x11cb3, 0), (0x11cb5, 0x11cb6, 0), (0x11d31, 0x11d36, 0), (0x11d3a, 0x11d3a, 0),
  (0x11d3c, 0x11d3d, 0), (0x11d3f, 0x11d41, 0), (0x11d42, 0x11d42, 7), (0x11d43, 0x11d43, 0),
  (0x11d44, 0x11d45, 9), (0x11d47, 0x11d47, 0), (0x11d90, 0x11d91, 0), (0x11d95, 0x11d95, 0),
  (0x11d97, 0x11d97, 9), (0x11ef3, 0x11ef4, 0), (0x11f00, 0x11f01, 0), (0x11f36, 0x11f3a, 0),
  (0x11f40, 0x11f40, 0), (0x11f42, 0x11f42, 9), (0x11f5a, 0x11f5a, 0), (0x13440, 0x13440, 0),
  (0x13447, 0x13455, 0), (0x1611e, 0x16129, 0), (0x1612d, 0x1612e, 0), (0x1612f, 0x1612f, 9),
  (0x16af0, 0x16af4, 1), (0x16b30, 0x16b36, 230), (0x16f4f, 0x16f4f, 0), (0x16f8f, 0x16f92, 0),
  (0x16fe4, 0x16fe4, 0), (0x1bc9d, 0x1bc9d, 0), (0x1bc9e, 0x1bc9e, 1), (0x1cf00, 0x1cf2d, 0),
  (0x1cf30, 0x1cf46, 0), (0x1d167, 0x1d169, 1), (0x1d17b, 0x1d182, 220), (0x1d185, 0x1d189, 230),
  (0x1d18a, 0x1d18b, 220), (0x1d1aa, 0x1d1ad, 230), (0x1d242, 0x1d244, 230),
  (0x1da00, 0x1da36, 0), (0x1da3b, 0x1da6c, 0), (0x1da75, 0x1da75, 0), (0x1da84, 0x1da84, 0),
  (0x1da9b, 0x1da9f, 0), (0x1daa1, 0x1daaf, 0), (0x1e000, 0x1e006, 230), (0x1e008, 0x1e018, 230),
  (0x1e01b, 0x1e021, 230), (0x1e023, 0x1e024, 230), (0x1e026, 0x1e02a, 230),
  (0x1e08f, 0x1e08f, 230), (0x1e130, 0x1e136, 230), (0x1e2ae, 0x1e2ae, 230),
  (0x1e2ec, 0x1e2ef, 230), (0x1e4ec, 0x1e4ed, 232), (0x1e4ee, 0x1e4ee, 220),
  (0x1e4ef, 0x1e4ef, 230), (0x1e5ee, 0x1e5ee, 230), (0x1e5ef, 0x1e5ef, 220),
  (0x1e6e3, 0x1e6e3, 230), (0x1e6e6, 0x1e6e6, 230), (0x1e6ee, 0x1e6ef, 230),
  (0x1e6f5, 0x1e6f5, 230), (0x1e8d0, 0x1e8d6, 220), (0x1e944, 0x1e949, 230),
  (0x1e94a, 0x1e94a, 7), (0xe0100, 0xe01ef, 0)]

/-- The marks that take room of their own, as inclusive ranges of code points of one class each. -/
def spacingMarks : List (Nat × Nat × Nat) := [
  (0x903, 0x903, 0), (0x93b, 0x93b, 0), (0x93e, 0x940, 0), (0x949, 0x94c, 0), (0x94e, 0x94f, 0),
  (0x982, 0x983, 0), (0x9be, 0x9c0, 0), (0x9c7, 0x9c8, 0), (0x9cb, 0x9cc, 0), (0x9d7, 0x9d7, 0),
  (0xa03, 0xa03, 0), (0xa3e, 0xa40, 0), (0xa83, 0xa83, 0), (0xabe, 0xac0, 0), (0xac9, 0xac9, 0),
  (0xacb, 0xacc, 0), (0xb02, 0xb03, 0), (0xb3e, 0xb3e, 0), (0xb40, 0xb40, 0), (0xb47, 0xb48, 0),
  (0xb4b, 0xb4c, 0), (0xb57, 0xb57, 0), (0xbbe, 0xbbf, 0), (0xbc1, 0xbc2, 0), (0xbc6, 0xbc8, 0),
  (0xbca, 0xbcc, 0), (0xbd7, 0xbd7, 0), (0xc01, 0xc03, 0), (0xc41, 0xc44, 0), (0xc82, 0xc83, 0),
  (0xcbe, 0xcbe, 0), (0xcc0, 0xcc4, 0), (0xcc7, 0xcc8, 0), (0xcca, 0xccb, 0), (0xcd5, 0xcd6, 0),
  (0xcf3, 0xcf3, 0), (0xd02, 0xd03, 0), (0xd3e, 0xd40, 0), (0xd46, 0xd48, 0), (0xd4a, 0xd4c, 0),
  (0xd57, 0xd57, 0), (0xd82, 0xd83, 0), (0xdcf, 0xdd1, 0), (0xdd8, 0xddf, 0), (0xdf2, 0xdf3, 0),
  (0xf3e, 0xf3f, 0), (0xf7f, 0xf7f, 0), (0x102b, 0x102c, 0), (0x1031, 0x1031, 0),
  (0x1038, 0x1038, 0), (0x103b, 0x103c, 0), (0x1056, 0x1057, 0), (0x1062, 0x1064, 0),
  (0x1067, 0x106d, 0), (0x1083, 0x1084, 0), (0x1087, 0x108c, 0), (0x108f, 0x108f, 0),
  (0x109a, 0x109c, 0), (0x1715, 0x1715, 9), (0x1734, 0x1734, 9), (0x17b6, 0x17b6, 0),
  (0x17be, 0x17c5, 0), (0x17c7, 0x17c8, 0), (0x1923, 0x1926, 0), (0x1929, 0x192b, 0),
  (0x1930, 0x1931, 0), (0x1933, 0x1938, 0), (0x1a19, 0x1a1a, 0), (0x1a55, 0x1a55, 0),
  (0x1a57, 0x1a57, 0), (0x1a61, 0x1a61, 0), (0x1a63, 0x1a64, 0), (0x1a6d, 0x1a72, 0),
  (0x1b04, 0x1b04, 0), (0x1b35, 0x1b35, 0), (0x1b3b, 0x1b3b, 0), (0x1b3d, 0x1b41, 0),
  (0x1b43, 0x1b43, 0), (0x1b44, 0x1b44, 9), (0x1b82, 0x1b82, 0), (0x1ba1, 0x1ba1, 0),
  (0x1ba6, 0x1ba7, 0), (0x1baa, 0x1baa, 9), (0x1be7, 0x1be7, 0), (0x1bea, 0x1bec, 0),
  (0x1bee, 0x1bee, 0), (0x1bf2, 0x1bf3, 9), (0x1c24, 0x1c2b, 0), (0x1c34, 0x1c35, 0),
  (0x1ce1, 0x1ce1, 0), (0x1cf7, 0x1cf7, 0), (0x302e, 0x302f, 224), (0xa823, 0xa824, 0),
  (0xa827, 0xa827, 0), (0xa880, 0xa881, 0), (0xa8b4, 0xa8c3, 0), (0xa952, 0xa952, 0),
  (0xa953, 0xa953, 9), (0xa983, 0xa983, 0), (0xa9b4, 0xa9b5, 0), (0xa9ba, 0xa9bb, 0),
  (0xa9be, 0xa9bf, 0), (0xa9c0, 0xa9c0, 9), (0xaa2f, 0xaa30, 0), (0xaa33, 0xaa34, 0),
  (0xaa4d, 0xaa4d, 0), (0xaa7b, 0xaa7b, 0), (0xaa7d, 0xaa7d, 0), (0xaaeb, 0xaaeb, 0),
  (0xaaee, 0xaaef, 0), (0xaaf5, 0xaaf5, 0), (0xabe3, 0xabe4, 0), (0xabe6, 0xabe7, 0),
  (0xabe9, 0xabea, 0), (0xabec, 0xabec, 0), (0x11000, 0x11000, 0), (0x11002, 0x11002, 0),
  (0x11082, 0x11082, 0), (0x110b0, 0x110b2, 0), (0x110b7, 0x110b8, 0), (0x1112c, 0x1112c, 0),
  (0x11145, 0x11146, 0), (0x11182, 0x11182, 0), (0x111b3, 0x111b5, 0), (0x111bf, 0x111bf, 0),
  (0x111c0, 0x111c0, 9), (0x111ce, 0x111ce, 0), (0x1122c, 0x1122e, 0), (0x11232, 0x11233, 0),
  (0x11235, 0x11235, 9), (0x112e0, 0x112e2, 0), (0x11302, 0x11303, 0), (0x1133e, 0x1133f, 0),
  (0x11341, 0x11344, 0), (0x11347, 0x11348, 0), (0x1134b, 0x1134c, 0), (0x1134d, 0x1134d, 9),
  (0x11357, 0x11357, 0), (0x11362, 0x11363, 0), (0x113b8, 0x113ba, 0), (0x113c2, 0x113c2, 0),
  (0x113c5, 0x113c5, 0), (0x113c7, 0x113ca, 0), (0x113cc, 0x113cd, 0), (0x113cf, 0x113cf, 9),
  (0x11435, 0x11437, 0), (0x11440, 0x11441, 0), (0x11445, 0x11445, 0), (0x114b0, 0x114b2, 0),
  (0x114b9, 0x114b9, 0), (0x114bb, 0x114be, 0), (0x114c1, 0x114c1, 0), (0x115af, 0x115b1, 0),
  (0x115b8, 0x115bb, 0), (0x115be, 0x115be, 0), (0x11630, 0x11632, 0), (0x1163b, 0x1163c, 0),
  (0x1163e, 0x1163e, 0), (0x116ac, 0x116ac, 0), (0x116ae, 0x116af, 0), (0x116b6, 0x116b6, 9),
  (0x1171e, 0x1171e, 0), (0x11720, 0x11721, 0), (0x11726, 0x11726, 0), (0x1182c, 0x1182e, 0),
  (0x11838, 0x11838, 0), (0x11930, 0x11935, 0), (0x11937, 0x11938, 0), (0x1193d, 0x1193d, 9),
  (0x11940, 0x11940, 0), (0x11942, 0x11942, 0), (0x119d1, 0x119d3, 0), (0x119dc, 0x119df, 0),
  (0x119e4, 0x119e4, 0), (0x11a39, 0x11a39, 0), (0x11a57, 0x11a58, 0), (0x11a97, 0x11a97, 0),
  (0x11b61, 0x11b61, 0), (0x11b65, 0x11b65, 0), (0x11b67, 0x11b67, 0), (0x11c2f, 0x11c2f, 0),
  (0x11c3e, 0x11c3e, 0), (0x11ca9, 0x11ca9, 0), (0x11cb1, 0x11cb1, 0), (0x11cb4, 0x11cb4, 0),
  (0x11d8a, 0x11d8e, 0), (0x11d93, 0x11d94, 0), (0x11d96, 0x11d96, 0), (0x11ef5, 0x11ef6, 0),
  (0x11f03, 0x11f03, 0), (0x11f34, 0x11f35, 0), (0x11f3e, 0x11f3f, 0), (0x11f41, 0x11f41, 9),
  (0x1612a, 0x1612c, 0), (0x16f51, 0x16f87, 0), (0x16ff0, 0x16ff1, 6), (0x1d165, 0x1d166, 216),
  (0x1d16d, 0x1d16d, 226), (0x1d16e, 0x1d172, 216)]

/-- The class of a mark that is listed. -/
def classIn? (marks : List (Nat × Nat × Nat)) (c : Char) : Option Nat :=
  (marks.find? fun (first, last, _) => first ≤ c.toNat && c.toNat ≤ last).map fun (_, _, k) => k

def isNonspacing (c : Char) : Bool := (classIn? nonspacingMarks c).isSome

def isMark (c : Char) : Bool := isNonspacing c || (classIn? spacingMarks c).isSome

/-- The combining class; characters that are no marks have class 0. -/
def combiningClass (c : Char) : Nat :=
  ((classIn? nonspacingMarks c).orElse fun _ => classIn? spacingMarks c).getD 0

/-- The character is a mark that takes the vowel from the letter in front of it. -/
def isVirama (c : Char) : Bool := combiningClass c = 9

end TypedQuery.Text
