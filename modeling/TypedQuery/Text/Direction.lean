-- SUMMARY: The direction in which a character is written.
import TypedQuery.Text.Mark
import TypedQuery.Text.Ranges

/-!
# Direction

Letters are written to the right or to the left. Numbers, marks, punctuation and symbols go along with
the text around them. Code points without a character may lie in the ranges, too.
-/
namespace TypedQuery.Text

/-- How a character goes along with a line of text. -/
inductive Direction where
  | toRight
  | toLeft
  | number
  | arabicNumber
  | mark
  | neutral
  deriving DecidableEq, Repr

/-- The letters beyond ASCII that are written to the left. -/
def leftwardRanges : List (Nat × Nat) := [
  (0x5be, 0x5be), (0x5c0, 0x5c0), (0x5c3, 0x5c3), (0x5c6, 0x5c6), (0x5d0, 0x5f4), (0x608, 0x608),
  (0x60b, 0x60b), (0x60d, 0x60d), (0x61b, 0x64a), (0x66d, 0x66f), (0x671, 0x6d5), (0x6e5, 0x6e6),
  (0x6ee, 0x6ef), (0x6fa, 0x710), (0x712, 0x72f), (0x74d, 0x7a5), (0x7b1, 0x7ea), (0x7f4, 0x7f5),
  (0x7fa, 0x7fa), (0x7fe, 0x815), (0x81a, 0x81a), (0x824, 0x824), (0x828, 0x828), (0x830, 0x858),
  (0x85e, 0x88f), (0x8a0, 0x8c9), (0xfb1d, 0xfb1d), (0xfb1f, 0xfbc2), (0xfbd3, 0xfd3d),
  (0xfd50, 0xfd8f), (0xfd92, 0xfdc7), (0xfdf0, 0xfdfc), (0xfe71, 0xfefc), (0x10800, 0x1091b),
  (0x10920, 0x10a00), (0x10a10, 0x10a35), (0x10a40, 0x10ae4), (0x10aeb, 0x10b35),
  (0x10b40, 0x10d23), (0x10d40, 0x10d65), (0x10d6f, 0x10d8f), (0x10e80, 0x10ea9),
  (0x10ead, 0x10ec7), (0x10f00, 0x10f45), (0x10f51, 0x10f81), (0x10f86, 0x10ff6),
  (0x1e800, 0x1e8cf), (0x1e900, 0x1e943), (0x1e94b, 0x1eebb)]

/-- The numbers that stand between letters written to the left. -/
def arabicNumberRanges : List (Nat × Nat) := [
  (0x660, 0x669), (0x66b, 0x66c), (0x10d30, 0x10d39), (0x10e60, 0x10e7e)]

/-- The other numbers beyond ASCII that have no direction of their own. -/
def numberRanges : List (Nat × Nat) := [
  (0x6f0, 0x6f9), (0x102e1, 0x102fb)]

/-- Punctuation and symbols beyond ASCII. -/
def neutralRanges : List (Nat × Nat) := [
  (0xa1, 0xb1), (0xb6, 0xbf), (0xd7, 0xd7), (0xf7, 0xf7), (0x2b9, 0x2ba), (0x2c2, 0x2cf),
  (0x2d2, 0x2df), (0x2e5, 0x2ed), (0x2ef, 0x2ff), (0x374, 0x375), (0x387, 0x387), (0x3f6, 0x3f6),
  (0x58a, 0x58f), (0x606, 0x607), (0x609, 0x60a), (0x60c, 0x60c), (0x60e, 0x60f), (0x66a, 0x66a),
  (0x6de, 0x6de), (0x6e9, 0x6e9), (0x7f6, 0x7f9), (0x9f2, 0x9f3), (0x9fb, 0x9fb), (0xaf1, 0xaf1),
  (0xbf3, 0xbfa), (0xc78, 0xc7e), (0xe3f, 0xe3f), (0xf3a, 0xf3d), (0x1390, 0x1399),
  (0x1400, 0x1400), (0x169b, 0x169c), (0x17db, 0x17db), (0x17f0, 0x180a), (0x1940, 0x1945),
  (0x19de, 0x19ff), (0x1b4e, 0x1b4f), (0x1b7f, 0x1b7f), (0x200c, 0x208b), (0x20a0, 0x20c1),
  (0x2104, 0x2104), (0x2108, 0x2108), (0x2114, 0x2125), (0x2127, 0x2129), (0x212e, 0x212e),
  (0x213a, 0x213a), (0x2140, 0x214d), (0x218a, 0x2335), (0x237b, 0x2394), (0x2396, 0x26ab),
  (0x26ad, 0x27ff), (0x2900, 0x2bff), (0x2ce5, 0x2cea), (0x2cf9, 0x2cff), (0x2e00, 0x2e9e),
  (0x2ea0, 0x2ef2), (0x3001, 0x3004), (0x3008, 0x3020), (0x3030, 0x3030), (0x3036, 0x3037),
  (0x303d, 0x303f), (0x30a0, 0x30a0), (0x30fb, 0x30fb), (0x31c0, 0x31e5), (0x4dc0, 0x4dff),
  (0xa490, 0xa4c6), (0xa60d, 0xa60f), (0xa673, 0xa673), (0xa67e, 0xa67f), (0xa700, 0xa721),
  (0xa788, 0xa788), (0xa828, 0xa82b), (0xa838, 0xa839), (0xa874, 0xa877), (0xab6a, 0xab6b),
  (0xfbc3, 0xfbd2), (0xfd3e, 0xfd4f), (0xfd90, 0xfd91), (0xfdc8, 0xfdcf), (0xfdfd, 0xfe18),
  (0xfe31, 0xfe5e), (0xff5f, 0xff65), (0xffe0, 0xffee), (0x10101, 0x10101), (0x10140, 0x1018c),
  (0x10190, 0x101a0), (0x1091f, 0x1091f), (0x10b39, 0x10b3f), (0x10d6e, 0x10d6e),
  (0x10ed0, 0x10ed8), (0x11052, 0x11065), (0x11660, 0x1166c), (0x11fd5, 0x11ff1),
  (0x16fe2, 0x16fe2), (0x1cc00, 0x1cef0), (0x1d1e9, 0x1d241), (0x1d245, 0x1d245),
  (0x1d300, 0x1d356), (0x1d6c1, 0x1d6c1), (0x1d6db, 0x1d6db), (0x1d6fb, 0x1d6fb),
  (0x1d715, 0x1d715), (0x1d735, 0x1d735), (0x1d74f, 0x1d74f), (0x1d76f, 0x1d76f),
  (0x1d789, 0x1d789), (0x1d7a9, 0x1d7a9), (0x1d7c3, 0x1d7c3), (0x1e2ff, 0x1e2ff),
  (0x1eef0, 0x1f12f), (0x1f16d, 0x1f16f), (0x1f1ad, 0x1f1ad), (0x1f260, 0x1fbfa)]

/-- The marks without room of their own that are written like letters. -/
def rightwardMarks : List Char :=
  ['\u0cbf', '\u0cc6', Char.ofNat 0x11a07, Char.ofNat 0x11a08, Char.ofNat 0x11c3f]

def direction (c : Char) : Direction :=
  if c.toNat < 0x80 then
    if c.isAlpha then .toRight else if c.isDigit then .number else .neutral
  else if isNonspacing c && c ∉ rightwardMarks then .mark
  else if inRanges leftwardRanges c then .toLeft
  else if inRanges arabicNumberRanges c then .arabicNumber
  else if inRanges numberRanges c then .number
  else if inRanges neutralRanges c then .neutral
  else .toRight

end TypedQuery.Text
