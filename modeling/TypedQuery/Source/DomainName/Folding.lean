-- SUMMARY: The characters of domain names.
import TypedQuery.Text.LowerCase
import TypedQuery.Text.Mark
import TypedQuery.Text.Printable

/-!
# Folding

A domain name can be written in many ways that stand for the same name: in capitals, in wide or
circled letters, with characters that are not seen. Folding takes each character to those that it
stands for. Apart from those of capitals, only foldings are listed that lead to ASCII or to a character
of another kind; the others decide neither what a name is in ASCII nor whether it is valid.
-/
namespace TypedQuery.DomainName

/-! ## Tables -/

/-- Code points from `first` to `last` that stand for those from `target` on. -/
structure FoldRun where
  first : Nat
  last : Nat
  target : Nat

/-- The characters beyond ASCII that stand for a character of ASCII. -/
def foldRuns : List FoldRun := [
  ⟨0xaa, 0xaa, 0x61⟩, ⟨0xb2, 0xb3, 0x32⟩, ⟨0xb9, 0xb9, 0x31⟩, ⟨0xba, 0xba, 0x6f⟩,
  ⟨0x17f, 0x17f, 0x73⟩, ⟨0x2b0, 0x2b0, 0x68⟩, ⟨0x2b2, 0x2b2, 0x6a⟩, ⟨0x2b3, 0x2b3, 0x72⟩,
  ⟨0x2b7, 0x2b7, 0x77⟩, ⟨0x2b8, 0x2b8, 0x79⟩, ⟨0x2e1, 0x2e1, 0x6c⟩, ⟨0x2e2, 0x2e2, 0x73⟩,
  ⟨0x2e3, 0x2e3, 0x78⟩, ⟨0x37e, 0x37e, 0x3b⟩, ⟨0x1d2c, 0x1d2c, 0x61⟩, ⟨0x1d2e, 0x1d2e, 0x62⟩,
  ⟨0x1d30, 0x1d31, 0x64⟩, ⟨0x1d33, 0x1d3a, 0x67⟩, ⟨0x1d3c, 0x1d3c, 0x6f⟩, ⟨0x1d3e, 0x1d3e, 0x70⟩,
  ⟨0x1d3f, 0x1d3f, 0x72⟩, ⟨0x1d40, 0x1d41, 0x74⟩, ⟨0x1d42, 0x1d42, 0x77⟩, ⟨0x1d43, 0x1d43, 0x61⟩,
  ⟨0x1d47, 0x1d47, 0x62⟩, ⟨0x1d48, 0x1d49, 0x64⟩, ⟨0x1d4d, 0x1d4d, 0x67⟩, ⟨0x1d4f, 0x1d4f, 0x6b⟩,
  ⟨0x1d50, 0x1d50, 0x6d⟩, ⟨0x1d52, 0x1d52, 0x6f⟩, ⟨0x1d56, 0x1d56, 0x70⟩, ⟨0x1d57, 0x1d58, 0x74⟩,
  ⟨0x1d5b, 0x1d5b, 0x76⟩, ⟨0x1d62, 0x1d62, 0x69⟩, ⟨0x1d63, 0x1d63, 0x72⟩, ⟨0x1d64, 0x1d65, 0x75⟩,
  ⟨0x1d9c, 0x1d9c, 0x63⟩, ⟨0x1da0, 0x1da0, 0x66⟩, ⟨0x1dbb, 0x1dbb, 0x7a⟩, ⟨0x1fef, 0x1fef, 0x60⟩,
  ⟨0x2070, 0x2070, 0x30⟩, ⟨0x2071, 0x2071, 0x69⟩, ⟨0x2074, 0x2079, 0x34⟩, ⟨0x207a, 0x207a, 0x2b⟩,
  ⟨0x207c, 0x207c, 0x3d⟩, ⟨0x207d, 0x207e, 0x28⟩, ⟨0x207f, 0x207f, 0x6e⟩, ⟨0x2080, 0x2089, 0x30⟩,
  ⟨0x208a, 0x208a, 0x2b⟩, ⟨0x208c, 0x208c, 0x3d⟩, ⟨0x208d, 0x208e, 0x28⟩, ⟨0x2090, 0x2090, 0x61⟩,
  ⟨0x2091, 0x2091, 0x65⟩, ⟨0x2092, 0x2092, 0x6f⟩, ⟨0x2093, 0x2093, 0x78⟩, ⟨0x2095, 0x2095, 0x68⟩,
  ⟨0x2096, 0x2099, 0x6b⟩, ⟨0x209a, 0x209a, 0x70⟩, ⟨0x209b, 0x209c, 0x73⟩, ⟨0x2102, 0x2102, 0x63⟩,
  ⟨0x210a, 0x210b, 0x67⟩, ⟨0x210c, 0x210c, 0x68⟩, ⟨0x210d, 0x210d, 0x68⟩, ⟨0x210e, 0x210e, 0x68⟩,
  ⟨0x2110, 0x2110, 0x69⟩, ⟨0x2111, 0x2111, 0x69⟩, ⟨0x2112, 0x2112, 0x6c⟩, ⟨0x2113, 0x2113, 0x6c⟩,
  ⟨0x2115, 0x2115, 0x6e⟩, ⟨0x2119, 0x211b, 0x70⟩, ⟨0x211c, 0x211c, 0x72⟩, ⟨0x211d, 0x211d, 0x72⟩,
  ⟨0x2124, 0x2124, 0x7a⟩, ⟨0x2128, 0x2128, 0x7a⟩, ⟨0x212a, 0x212a, 0x6b⟩, ⟨0x212c, 0x212d, 0x62⟩,
  ⟨0x212f, 0x212f, 0x65⟩, ⟨0x2130, 0x2131, 0x65⟩, ⟨0x2133, 0x2133, 0x6d⟩, ⟨0x2134, 0x2134, 0x6f⟩,
  ⟨0x2139, 0x2139, 0x69⟩, ⟨0x2145, 0x2145, 0x64⟩, ⟨0x2146, 0x2147, 0x64⟩, ⟨0x2148, 0x2149, 0x69⟩,
  ⟨0x2160, 0x2160, 0x69⟩, ⟨0x2164, 0x2164, 0x76⟩, ⟨0x2169, 0x2169, 0x78⟩, ⟨0x216c, 0x216c, 0x6c⟩,
  ⟨0x216d, 0x216e, 0x63⟩, ⟨0x216f, 0x216f, 0x6d⟩, ⟨0x2170, 0x2170, 0x69⟩, ⟨0x2174, 0x2174, 0x76⟩,
  ⟨0x2179, 0x2179, 0x78⟩, ⟨0x217c, 0x217c, 0x6c⟩, ⟨0x217d, 0x217e, 0x63⟩, ⟨0x217f, 0x217f, 0x6d⟩,
  ⟨0x2460, 0x2468, 0x31⟩, ⟨0x24b6, 0x24cf, 0x61⟩, ⟨0x24d0, 0x24e9, 0x61⟩, ⟨0x24ea, 0x24ea, 0x30⟩,
  ⟨0x2c7c, 0x2c7c, 0x6a⟩, ⟨0x2c7d, 0x2c7d, 0x76⟩, ⟨0x3002, 0x3002, 0x2e⟩, ⟨0xa7f1, 0xa7f1, 0x73⟩,
  ⟨0xa7f2, 0xa7f2, 0x63⟩, ⟨0xa7f3, 0xa7f3, 0x66⟩, ⟨0xa7f4, 0xa7f4, 0x71⟩, ⟨0xfb29, 0xfb29, 0x2b⟩,
  ⟨0xfe10, 0xfe10, 0x2c⟩, ⟨0xfe13, 0xfe14, 0x3a⟩, ⟨0xfe15, 0xfe15, 0x21⟩, ⟨0xfe33, 0xfe33, 0x5f⟩,
  ⟨0xfe34, 0xfe34, 0x5f⟩, ⟨0xfe35, 0xfe36, 0x28⟩, ⟨0xfe37, 0xfe37, 0x7b⟩, ⟨0xfe38, 0xfe38, 0x7d⟩,
  ⟨0xfe4d, 0xfe4d, 0x5f⟩, ⟨0xfe4e, 0xfe4e, 0x5f⟩, ⟨0xfe4f, 0xfe4f, 0x5f⟩, ⟨0xfe50, 0xfe50, 0x2c⟩,
  ⟨0xfe54, 0xfe54, 0x3b⟩, ⟨0xfe57, 0xfe57, 0x21⟩, ⟨0xfe59, 0xfe5a, 0x28⟩, ⟨0xfe5b, 0xfe5b, 0x7b⟩,
  ⟨0xfe5c, 0xfe5c, 0x7d⟩, ⟨0xfe60, 0xfe60, 0x26⟩, ⟨0xfe61, 0xfe62, 0x2a⟩, ⟨0xfe63, 0xfe63, 0x2d⟩,
  ⟨0xfe66, 0xfe66, 0x3d⟩, ⟨0xfe69, 0xfe6a, 0x24⟩, ⟨0xff01, 0xff20, 0x21⟩, ⟨0xff21, 0xff3a, 0x61⟩,
  ⟨0xff3b, 0xff5e, 0x5b⟩, ⟨0xff61, 0xff61, 0x2e⟩, ⟨0x107a5, 0x107a5, 0x71⟩,
  ⟨0x1ccd6, 0x1ccef, 0x61⟩, ⟨0x1ccf0, 0x1ccf9, 0x30⟩, ⟨0x1d400, 0x1d419, 0x61⟩,
  ⟨0x1d41a, 0x1d433, 0x61⟩, ⟨0x1d434, 0x1d44d, 0x61⟩, ⟨0x1d44e, 0x1d454, 0x61⟩,
  ⟨0x1d456, 0x1d467, 0x69⟩, ⟨0x1d468, 0x1d481, 0x61⟩, ⟨0x1d482, 0x1d49b, 0x61⟩,
  ⟨0x1d49c, 0x1d49c, 0x61⟩, ⟨0x1d49e, 0x1d49f, 0x63⟩, ⟨0x1d4a2, 0x1d4a2, 0x67⟩,
  ⟨0x1d4a5, 0x1d4a6, 0x6a⟩, ⟨0x1d4a9, 0x1d4ac, 0x6e⟩, ⟨0x1d4ae, 0x1d4b5, 0x73⟩,
  ⟨0x1d4b6, 0x1d4b9, 0x61⟩, ⟨0x1d4bb, 0x1d4bb, 0x66⟩, ⟨0x1d4bd, 0x1d4c3, 0x68⟩,
  ⟨0x1d4c5, 0x1d4cf, 0x70⟩, ⟨0x1d4d0, 0x1d4e9, 0x61⟩, ⟨0x1d4ea, 0x1d503, 0x61⟩,
  ⟨0x1d504, 0x1d505, 0x61⟩, ⟨0x1d507, 0x1d50a, 0x64⟩, ⟨0x1d50d, 0x1d514, 0x6a⟩,
  ⟨0x1d516, 0x1d51c, 0x73⟩, ⟨0x1d51e, 0x1d537, 0x61⟩, ⟨0x1d538, 0x1d539, 0x61⟩,
  ⟨0x1d53b, 0x1d53e, 0x64⟩, ⟨0x1d540, 0x1d544, 0x69⟩, ⟨0x1d546, 0x1d546, 0x6f⟩,
  ⟨0x1d54a, 0x1d550, 0x73⟩, ⟨0x1d552, 0x1d56b, 0x61⟩, ⟨0x1d56c, 0x1d585, 0x61⟩,
  ⟨0x1d586, 0x1d59f, 0x61⟩, ⟨0x1d5a0, 0x1d5b9, 0x61⟩, ⟨0x1d5ba, 0x1d5d3, 0x61⟩,
  ⟨0x1d5d4, 0x1d5ed, 0x61⟩, ⟨0x1d5ee, 0x1d607, 0x61⟩, ⟨0x1d608, 0x1d621, 0x61⟩,
  ⟨0x1d622, 0x1d63b, 0x61⟩, ⟨0x1d63c, 0x1d655, 0x61⟩, ⟨0x1d656, 0x1d66f, 0x61⟩,
  ⟨0x1d670, 0x1d689, 0x61⟩, ⟨0x1d68a, 0x1d6a3, 0x61⟩, ⟨0x1d7ce, 0x1d7d7, 0x30⟩,
  ⟨0x1d7d8, 0x1d7e1, 0x30⟩, ⟨0x1d7e2, 0x1d7eb, 0x30⟩, ⟨0x1d7ec, 0x1d7f5, 0x30⟩,
  ⟨0x1d7f6, 0x1d7ff, 0x30⟩, ⟨0x1f12b, 0x1f12b, 0x63⟩, ⟨0x1f12c, 0x1f12c, 0x72⟩,
  ⟨0x1f130, 0x1f149, 0x61⟩, ⟨0x1fbf0, 0x1fbf9, 0x30⟩]

/-- The characters that stand for several characters of ASCII, or for characters of other kinds. -/
def foldTexts : List (Nat × String) := [
  (0xbc, "1\u20444"), (0xbd, "1\u20442"), (0xbe, "3\u20444"), (0x132, "ij"), (0x133, "ij"),
  (0x13f, "l\u00b7"), (0x140, "l\u00b7"), (0x1c7, "lj"), (0x1c8, "lj"), (0x1c9, "lj"),
  (0x1ca, "nj"), (0x1cb, "nj"), (0x1cc, "nj"), (0x1f1, "dz"), (0x1f2, "dz"), (0x1f3, "dz"),
  (0x345, "\u03b9"), (0xe33, "\u0e4d\u0e32"), (0xeb3, "\u0ecd\u0eb2"), (0x203c, "!!"),
  (0x20a8, "rs"), (0x2103, "\u00b0c"), (0x2109, "\u00b0f"), (0x2116, "no"), (0x2120, "sm"),
  (0x2121, "tel"), (0x2122, "tm"), (0x2135, "\u05d0"), (0x2136, "\u05d1"), (0x2137, "\u05d2"),
  (0x2138, "\u05d3"), (0x213b, "fax"), (0x2150, "1\u20447"), (0x2151, "1\u20449"),
  (0x2152, "1\u204410"), (0x2153, "1\u20443"), (0x2154, "2\u20443"), (0x2155, "1\u20445"),
  (0x2156, "2\u20445"), (0x2157, "3\u20445"), (0x2158, "4\u20445"), (0x2159, "1\u20446"),
  (0x215a, "5\u20446"), (0x215b, "1\u20448"), (0x215c, "3\u20448"), (0x215d, "5\u20448"),
  (0x215e, "7\u20448"), (0x215f, "1\u2044"), (0x2161, "ii"), (0x2162, "iii"), (0x2163, "iv"),
  (0x2165, "vi"), (0x2166, "vii"), (0x2167, "viii"), (0x2168, "ix"), (0x216a, "xi"),
  (0x216b, "xii"), (0x2171, "ii"), (0x2172, "iii"), (0x2173, "iv"), (0x2175, "vi"),
  (0x2176, "vii"), (0x2177, "viii"), (0x2178, "ix"), (0x217a, "xi"), (0x217b, "xii"),
  (0x2189, "0\u20443"), (0x2469, "10"), (0x246a, "11"), (0x246b, "12"), (0x246c, "13"),
  (0x246d, "14"), (0x246e, "15"), (0x246f, "16"), (0x2470, "17"), (0x2471, "18"), (0x2472, "19"),
  (0x2473, "20"), (0x2474, "(1)"), (0x2475, "(2)"), (0x2476, "(3)"), (0x2477, "(4)"),
  (0x2478, "(5)"), (0x2479, "(6)"), (0x247a, "(7)"), (0x247b, "(8)"), (0x247c, "(9)"),
  (0x247d, "(10)"), (0x247e, "(11)"), (0x247f, "(12)"), (0x2480, "(13)"), (0x2481, "(14)"),
  (0x2482, "(15)"), (0x2483, "(16)"), (0x2484, "(17)"), (0x2485, "(18)"), (0x2486, "(19)"),
  (0x2487, "(20)"), (0x249c, "(a)"), (0x249d, "(b)"), (0x249e, "(c)"), (0x249f, "(d)"),
  (0x24a0, "(e)"), (0x24a1, "(f)"), (0x24a2, "(g)"), (0x24a3, "(h)"), (0x24a4, "(i)"),
  (0x24a5, "(j)"), (0x24a6, "(k)"), (0x24a7, "(l)"), (0x24a8, "(m)"), (0x24a9, "(n)"),
  (0x24aa, "(o)"), (0x24ab, "(p)"), (0x24ac, "(q)"), (0x24ad, "(r)"), (0x24ae, "(s)"),
  (0x24af, "(t)"), (0x24b0, "(u)"), (0x24b1, "(v)"), (0x24b2, "(w)"), (0x24b3, "(x)"),
  (0x24b4, "(y)"), (0x24b5, "(z)"), (0x2a75, "=="), (0x2a76, "==="), (0x3200, "(\u1100)"),
  (0x3201, "(\u1102)"), (0x3202, "(\u1103)"), (0x3203, "(\u1105)"), (0x3204, "(\u1106)"),
  (0x3205, "(\u1107)"), (0x3206, "(\u1109)"), (0x3207, "(\u110b)"), (0x3208, "(\u110c)"),
  (0x3209, "(\u110e)"), (0x320a, "(\u110f)"), (0x320b, "(\u1110)"), (0x320c, "(\u1111)"),
  (0x320d, "(\u1112)"), (0x320e, "(\uac00)"), (0x320f, "(\ub098)"), (0x3210, "(\ub2e4)"),
  (0x3211, "(\ub77c)"), (0x3212, "(\ub9c8)"), (0x3213, "(\ubc14)"), (0x3214, "(\uc0ac)"),
  (0x3215, "(\uc544)"), (0x3216, "(\uc790)"), (0x3217, "(\ucc28)"), (0x3218, "(\uce74)"),
  (0x3219, "(\ud0c0)"), (0x321a, "(\ud30c)"), (0x321b, "(\ud558)"), (0x321c, "(\uc8fc)"),
  (0x321d, "(\uc624\uc804)"), (0x321e, "(\uc624\ud6c4)"), (0x3220, "(\u4e00)"),
  (0x3221, "(\u4e8c)"), (0x3222, "(\u4e09)"), (0x3223, "(\u56db)"), (0x3224, "(\u4e94)"),
  (0x3225, "(\u516d)"), (0x3226, "(\u4e03)"), (0x3227, "(\u516b)"), (0x3228, "(\u4e5d)"),
  (0x3229, "(\u5341)"), (0x322a, "(\u6708)"), (0x322b, "(\u706b)"), (0x322c, "(\u6c34)"),
  (0x322d, "(\u6728)"), (0x322e, "(\u91d1)"), (0x322f, "(\u571f)"), (0x3230, "(\u65e5)"),
  (0x3231, "(\u682a)"), (0x3232, "(\u6709)"), (0x3233, "(\u793e)"), (0x3234, "(\u540d)"),
  (0x3235, "(\u7279)"), (0x3236, "(\u8ca1)"), (0x3237, "(\u795d)"), (0x3238, "(\u52b4)"),
  (0x3239, "(\u4ee3)"), (0x323a, "(\u547c)"), (0x323b, "(\u5b66)"), (0x323c, "(\u76e3)"),
  (0x323d, "(\u4f01)"), (0x323e, "(\u8cc7)"), (0x323f, "(\u5354)"), (0x3240, "(\u796d)"),
  (0x3241, "(\u4f11)"), (0x3242, "(\u81ea)"), (0x3243, "(\u81f3)"), (0x3250, "pte"),
  (0x3251, "21"), (0x3252, "22"), (0x3253, "23"), (0x3254, "24"), (0x3255, "25"), (0x3256, "26"),
  (0x3257, "27"), (0x3258, "28"), (0x3259, "29"), (0x325a, "30"), (0x325b, "31"), (0x325c, "32"),
  (0x325d, "33"), (0x325e, "34"), (0x325f, "35"), (0x32b1, "36"), (0x32b2, "37"), (0x32b3, "38"),
  (0x32b4, "39"), (0x32b5, "40"), (0x32b6, "41"), (0x32b7, "42"), (0x32b8, "43"), (0x32b9, "44"),
  (0x32ba, "45"), (0x32bb, "46"), (0x32bc, "47"), (0x32bd, "48"), (0x32be, "49"), (0x32bf, "50"),
  (0x32c0, "1\u6708"), (0x32c1, "2\u6708"), (0x32c2, "3\u6708"), (0x32c3, "4\u6708"),
  (0x32c4, "5\u6708"), (0x32c5, "6\u6708"), (0x32c6, "7\u6708"), (0x32c7, "8\u6708"),
  (0x32c8, "9\u6708"), (0x32c9, "10\u6708"), (0x32ca, "11\u6708"), (0x32cb, "12\u6708"),
  (0x32cc, "hg"), (0x32cd, "erg"), (0x32ce, "ev"), (0x32cf, "ltd"), (0x3358, "0\u70b9"),
  (0x3359, "1\u70b9"), (0x335a, "2\u70b9"), (0x335b, "3\u70b9"), (0x335c, "4\u70b9"),
  (0x335d, "5\u70b9"), (0x335e, "6\u70b9"), (0x335f, "7\u70b9"), (0x3360, "8\u70b9"),
  (0x3361, "9\u70b9"), (0x3362, "10\u70b9"), (0x3363, "11\u70b9"), (0x3364, "12\u70b9"),
  (0x3365, "13\u70b9"), (0x3366, "14\u70b9"), (0x3367, "15\u70b9"), (0x3368, "16\u70b9"),
  (0x3369, "17\u70b9"), (0x336a, "18\u70b9"), (0x336b, "19\u70b9"), (0x336c, "20\u70b9"),
  (0x336d, "21\u70b9"), (0x336e, "22\u70b9"), (0x336f, "23\u70b9"), (0x3370, "24\u70b9"),
  (0x3371, "hpa"), (0x3372, "da"), (0x3373, "au"), (0x3374, "bar"), (0x3375, "ov"),
  (0x3376, "pc"), (0x3377, "dm"), (0x3378, "dm2"), (0x3379, "dm3"), (0x337a, "iu"),
  (0x3380, "pa"), (0x3381, "na"), (0x3383, "ma"), (0x3384, "ka"), (0x3385, "kb"), (0x3386, "mb"),
  (0x3387, "gb"), (0x3388, "cal"), (0x3389, "kcal"), (0x338a, "pf"), (0x338b, "nf"),
  (0x338e, "mg"), (0x338f, "kg"), (0x3390, "hz"), (0x3391, "khz"), (0x3392, "mhz"),
  (0x3393, "ghz"), (0x3394, "thz"), (0x3396, "ml"), (0x3397, "dl"), (0x3398, "kl"),
  (0x3399, "fm"), (0x339a, "nm"), (0x339c, "mm"), (0x339d, "cm"), (0x339e, "km"), (0x339f, "mm2"),
  (0x33a0, "cm2"), (0x33a1, "m2"), (0x33a2, "km2"), (0x33a3, "mm3"), (0x33a4, "cm3"),
  (0x33a5, "m3"), (0x33a6, "km3"), (0x33a7, "m\u2215s"), (0x33a8, "m\u2215s2"), (0x33a9, "pa"),
  (0x33aa, "kpa"), (0x33ab, "mpa"), (0x33ac, "gpa"), (0x33ad, "rad"), (0x33ae, "rad\u2215s"),
  (0x33af, "rad\u2215s2"), (0x33b0, "ps"), (0x33b1, "ns"), (0x33b3, "ms"), (0x33b4, "pv"),
  (0x33b5, "nv"), (0x33b7, "mv"), (0x33b8, "kv"), (0x33b9, "mv"), (0x33ba, "pw"), (0x33bb, "nw"),
  (0x33bd, "mw"), (0x33be, "kw"), (0x33bf, "mw"), (0x33c3, "bq"), (0x33c4, "cc"), (0x33c5, "cd"),
  (0x33c6, "c\u2215kg"), (0x33c8, "db"), (0x33c9, "gy"), (0x33ca, "ha"), (0x33cb, "hp"),
  (0x33cc, "in"), (0x33cd, "kk"), (0x33ce, "km"), (0x33cf, "kt"), (0x33d0, "lm"), (0x33d1, "ln"),
  (0x33d2, "log"), (0x33d3, "lx"), (0x33d4, "mb"), (0x33d5, "mil"), (0x33d6, "mol"),
  (0x33d7, "ph"), (0x33d9, "ppm"), (0x33da, "pr"), (0x33db, "sr"), (0x33dc, "sv"), (0x33dd, "wb"),
  (0x33de, "v\u2215m"), (0x33df, "a\u2215m"), (0x33e0, "1\u65e5"), (0x33e1, "2\u65e5"),
  (0x33e2, "3\u65e5"), (0x33e3, "4\u65e5"), (0x33e4, "5\u65e5"), (0x33e5, "6\u65e5"),
  (0x33e6, "7\u65e5"), (0x33e7, "8\u65e5"), (0x33e8, "9\u65e5"), (0x33e9, "10\u65e5"),
  (0x33ea, "11\u65e5"), (0x33eb, "12\u65e5"), (0x33ec, "13\u65e5"), (0x33ed, "14\u65e5"),
  (0x33ee, "15\u65e5"), (0x33ef, "16\u65e5"), (0x33f0, "17\u65e5"), (0x33f1, "18\u65e5"),
  (0x33f2, "19\u65e5"), (0x33f3, "20\u65e5"), (0x33f4, "21\u65e5"), (0x33f5, "22\u65e5"),
  (0x33f6, "23\u65e5"), (0x33f7, "24\u65e5"), (0x33f8, "25\u65e5"), (0x33f9, "26\u65e5"),
  (0x33fa, "27\u65e5"), (0x33fb, "28\u65e5"), (0x33fc, "29\u65e5"), (0x33fd, "30\u65e5"),
  (0x33fe, "31\u65e5"), (0x33ff, "gal"), (0xfb00, "ff"), (0xfb01, "fi"), (0xfb02, "fl"),
  (0xfb03, "ffi"), (0xfb04, "ffl"), (0xfb05, "st"), (0xfb06, "st"), (0xff9e, "\u3099"),
  (0xff9f, "\u309a"), (0x1f101, "0,"), (0x1f102, "1,"), (0x1f103, "2,"), (0x1f104, "3,"),
  (0x1f105, "4,"), (0x1f106, "5,"), (0x1f107, "6,"), (0x1f108, "7,"), (0x1f109, "8,"),
  (0x1f10a, "9,"), (0x1f110, "(a)"), (0x1f111, "(b)"), (0x1f112, "(c)"), (0x1f113, "(d)"),
  (0x1f114, "(e)"), (0x1f115, "(f)"), (0x1f116, "(g)"), (0x1f117, "(h)"), (0x1f118, "(i)"),
  (0x1f119, "(j)"), (0x1f11a, "(k)"), (0x1f11b, "(l)"), (0x1f11c, "(m)"), (0x1f11d, "(n)"),
  (0x1f11e, "(o)"), (0x1f11f, "(p)"), (0x1f120, "(q)"), (0x1f121, "(r)"), (0x1f122, "(s)"),
  (0x1f123, "(t)"), (0x1f124, "(u)"), (0x1f125, "(v)"), (0x1f126, "(w)"), (0x1f127, "(x)"),
  (0x1f128, "(y)"), (0x1f129, "(z)"), (0x1f12a, "\u3014s\u3015"), (0x1f12d, "cd"),
  (0x1f12e, "wz"), (0x1f14a, "hv"), (0x1f14b, "mv"), (0x1f14c, "sd"), (0x1f14d, "ss"),
  (0x1f14e, "ppv"), (0x1f14f, "wc"), (0x1f16a, "mc"), (0x1f16b, "md"), (0x1f16c, "mr"),
  (0x1f190, "dj"), (0x1f240, "\u3014\u672c\u3015"), (0x1f241, "\u3014\u4e09\u3015"),
  (0x1f242, "\u3014\u4e8c\u3015"), (0x1f243, "\u3014\u5b89\u3015"),
  (0x1f244, "\u3014\u70b9\u3015"), (0x1f245, "\u3014\u6253\u3015"),
  (0x1f246, "\u3014\u76d7\u3015"), (0x1f247, "\u3014\u52dd\u3015"),
  (0x1f248, "\u3014\u6557\u3015")]

/-- The characters that do not count. -/
def ignoredRanges : List (Nat × Nat) := [
  (0xad, 0xad), (0x34f, 0x34f), (0x115f, 0x1160), (0x17b4, 0x17b5), (0x180b, 0x180f),
  (0x200b, 0x200b), (0x2060, 0x2064), (0x206a, 0x206f), (0x3164, 0x3164), (0xfe00, 0xfe0f),
  (0xfeff, 0xfeff), (0xffa0, 0xffa0), (0x1bca0, 0x1bca3), (0x1d173, 0x1d17a), (0xe0100, 0xe01ef)]

/-- The characters that cannot stand in a name although they are shown. -/
def refusedRanges : List (Nat × Nat) := [
  (0xa8, 0xa8), (0xaf, 0xaf), (0xb4, 0xb4), (0xb8, 0xb8), (0x2d8, 0x2dd), (0x37a, 0x37a),
  (0x384, 0x385), (0x1fbd, 0x1fbd), (0x1fbf, 0x1fc1), (0x1fcd, 0x1fcf), (0x1fdd, 0x1fdf),
  (0x1fed, 0x1fee), (0x1ffd, 0x1ffe), (0x2017, 0x2017), (0x2024, 0x2026), (0x203e, 0x203e),
  (0x2047, 0x2049), (0x2100, 0x2101), (0x2105, 0x2106), (0x2488, 0x249b), (0x2a74, 0x2a74),
  (0x2ff0, 0x2fff), (0x309b, 0x309c), (0x31ef, 0x31ef), (0x33c2, 0x33c2), (0x33c7, 0x33c7),
  (0x33d8, 0x33d8), (0xfc5e, 0xfc63), (0xfdfa, 0xfdfb), (0xfe12, 0xfe12), (0xfe16, 0xfe16),
  (0xfe19, 0xfe19), (0xfe30, 0xfe30), (0xfe47, 0xfe4c), (0xfe52, 0xfe52), (0xfe55, 0xfe56),
  (0xfe5f, 0xfe5f), (0xfe64, 0xfe65), (0xfe68, 0xfe68), (0xfe6b, 0xfe6b), (0xfe70, 0xfe70),
  (0xfe72, 0xfe72), (0xfe74, 0xfe74), (0xfe76, 0xfe76), (0xfe78, 0xfe78), (0xfe7a, 0xfe7a),
  (0xfe7c, 0xfe7c), (0xfe7e, 0xfe7e), (0xffe3, 0xffe3), (0xfffc, 0xfffd), (0x1f100, 0x1f100)]

/-- The characters, apart from capitals, that stand for others of their kind beyond ASCII. Code points
without a character may lie in these ranges, too. -/
def otherFoldRanges : List (Nat × Nat) := [
  (0xb5, 0xb5), (0x149, 0x149), (0x1c6, 0x1c6), (0x2b1, 0x2b6), (0x2e0, 0x2e4), (0x340, 0x341),
  (0x343, 0x344), (0x374, 0x374), (0x387, 0x387), (0x3d0, 0x3d6), (0x3f0, 0x3f2), (0x3f5, 0x3f5),
  (0x587, 0x587), (0x675, 0x678), (0x958, 0x95f), (0x9dc, 0x9df), (0xa33, 0xa33), (0xa36, 0xa36),
  (0xa59, 0xa5b), (0xa5e, 0xa5e), (0xb5c, 0xb5d), (0xedc, 0xedd), (0xf0c, 0xf0c), (0xf43, 0xf43),
  (0xf4d, 0xf4d), (0xf52, 0xf52), (0xf57, 0xf57), (0xf5c, 0xf5c), (0xf69, 0xf69), (0xf73, 0xf73),
  (0xf75, 0xf79), (0xf81, 0xf81), (0xf93, 0xf93), (0xf9d, 0xf9d), (0xfa2, 0xfa2), (0xfa7, 0xfa7),
  (0xfac, 0xfac), (0xfb9, 0xfb9), (0x10fc, 0x10fc), (0x13f8, 0x13fd), (0x1c80, 0x1c88),
  (0x1d2d, 0x1d2d), (0x1d32, 0x1d32), (0x1d3d, 0x1d4c), (0x1d51, 0x1d6a), (0x1d78, 0x1d78),
  (0x1d9b, 0x1dbf), (0x1e9a, 0x1e9b), (0x1f71, 0x1f71), (0x1f73, 0x1f73), (0x1f75, 0x1f75),
  (0x1f77, 0x1f77), (0x1f79, 0x1f79), (0x1f7b, 0x1f7b), (0x1f7d, 0x1fa7), (0x1fb2, 0x1fb4),
  (0x1fb7, 0x1fc4), (0x1fc7, 0x1fc7), (0x1fd3, 0x1fd3), (0x1fe3, 0x1fe3), (0x1ff2, 0x1ff4),
  (0x1ff7, 0x1ff7), (0x2011, 0x2011), (0x2033, 0x2034), (0x2036, 0x2037), (0x2057, 0x2057),
  (0x207b, 0x2094), (0x2107, 0x2107), (0x210f, 0x210f), (0x213c, 0x2140), (0x222c, 0x222d),
  (0x222f, 0x2230), (0x2329, 0x232a), (0x2a0c, 0x2a0c), (0x2adc, 0x2adc), (0x2d6f, 0x2d6f),
  (0x2e9f, 0x2e9f), (0x2ef3, 0x2fd5), (0x3036, 0x3036), (0x3038, 0x303a), (0x309f, 0x309f),
  (0x30ff, 0x30ff), (0x3131, 0x318e), (0x3192, 0x319f), (0x3244, 0x3247), (0x3260, 0x327e),
  (0x3280, 0x33c1), (0xa69c, 0xa69d), (0xa770, 0xa770), (0xa7f8, 0xa7f9), (0xab5c, 0xab5f),
  (0xab69, 0xab69), (0xab70, 0xabbf), (0xf900, 0xfa0d), (0xfa10, 0xfa10), (0xfa12, 0xfa12),
  (0xfa15, 0xfa1e), (0xfa20, 0xfa20), (0xfa22, 0xfa22), (0xfa25, 0xfa26), (0xfa2a, 0xfb1d),
  (0xfb1f, 0xfbb1), (0xfbd3, 0xfd3d), (0xfd50, 0xfd8f), (0xfd92, 0xfdc7), (0xfdf0, 0xfdfc),
  (0xfe11, 0xfe18), (0xfe31, 0xfe44), (0xfe51, 0xfe71), (0xfe77, 0xffee), (0x10781, 0x107ba),
  (0x1d15e, 0x1d164), (0x1d1bb, 0x1d1c0), (0x1d6a4, 0x1d7cb), (0x1e030, 0x1e06d),
  (0x1ee00, 0x1eebb), (0x1f200, 0x1f251), (0x2f800, 0x2fa1d)]

/-! ## Folding -/

/-- The characters of ASCII that cannot stand in the name of a host. -/
def isForbidden (c : Char) : Bool :=
  c.toNat ≤ 0x20 || c.toNat = 0x7f ||
    c ∈ ['#', '/', ':', '<', '>', '?', '@', '[', '\\', ']', '^', '%', '|']

/-- The character holds letters apart or together and is not seen. -/
def isJoiner (c : Char) : Bool := c = '\u200c' || c = '\u200d'

/-- The character can stand in a name as it is or as another one. -/
def isAllowed (c : Char) : Bool :=
  if c.toNat < 0x80 then !isForbidden c
  else (Text.isPrintable c || Text.isMark c || isJoiner c) && !Text.inRanges refusedRanges c

/-- What a listed character stands for. -/
def listedFolding? (c : Char) : Option (List Char) :=
  if Text.inRanges ignoredRanges c then some []
  else
    match foldRuns.find? fun run => run.first ≤ c.toNat && c.toNat ≤ run.last with
    | some run => some [Char.ofNat (run.target + (c.toNat - run.first))]
    | none => (foldTexts.find? fun (code, _) => code = c.toNat).map fun (_, text) => text.toList

/-- The syllables that are capitals but do not stand for the small ones. -/
def isSyllable (c : Char) : Bool := 0x13a0 ≤ c.toNat && c.toNat ≤ 0x13f5

/-- What a character stands for, or nothing if it cannot stand in a name. -/
def fold? (c : Char) : Option (List Char) :=
  let characters :=
    if c.toNat < 0x80 then [c.toLower]
    else (listedFolding? c).getD (if isSyllable c then [c] else Text.lowerCase c)
  if characters.all isAllowed then some characters else none

/-- The character can stand in a name, and only for itself. -/
def isSettled (c : Char) : Bool := fold? c = some [c] && !Text.inRanges otherFoldRanges c

end TypedQuery.DomainName
