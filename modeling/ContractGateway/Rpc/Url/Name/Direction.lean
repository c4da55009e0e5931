import ContractGateway.Rpc.Url.Name.Mark

/-!
# Direction of labels

Most scripts run from left to right, some from right to left, and numbers and signs go with the
letters around them. In a name that holds letters or numbers of a script that runs from right to
left every label must run one way, so that its characters are seen in their order.

The ranges leave out of account the characters that no name holds and the nonspacing marks.
-/

namespace ContractGateway.Rpc.Url.Name

/-- How a character takes part in the direction of a text. -/
inductive Direction where
  | leftToRight
  | rightToLeft
  | europeanDigit
  | arabicDigit
  | nonspacing
  | neutral
  deriving DecidableEq, Repr

/-- Letters of scripts that run from right to left. -/
def rightToLeftLetters : Text.CodePoints :=
  [(0x5be, 0x5f4), (0x608, 0x608), (0x60b, 0x60b), (0x60d, 0x60d), (0x61b, 0x64a), (0x66d, 0x6d5),
   (0x6e5, 0x6e6), (0x6ee, 0x6ef), (0x6fa, 0x7f5), (0x7fa, 0x8c9), (0xfb1d, 0xfb28),
   (0xfb2a, 0xfbc2), (0xfbd3, 0xfd3d), (0xfd50, 0xfd8f), (0xfd92, 0xfdc7), (0xfdf0, 0xfdfc),
   (0xfe71, 0xfefc), (0x10800, 0x1091b), (0x10920, 0x10b35), (0x10b40, 0x10d23), (0x10d40, 0x10d65),
   (0x10d6f, 0x10d8f), (0x10e80, 0x10ec7), (0x10f00, 0x10ff6), (0x1e800, 0x1eebb)]

/-- Digits that are written from left to right in every script. -/
def europeanDigits : Text.CodePoints :=
  [(0x30, 0x39), (0xb2, 0xb3), (0xb9, 0xb9), (0x6f0, 0x6f9), (0x2070, 0x2070), (0x2074, 0x2079),
   (0x2080, 0x2089), (0xff10, 0xff19), (0x102e1, 0x102fb), (0x1d7ce, 0x1d7ff), (0x1f101, 0x1f10a),
   (0x1fbf0, 0x1fbf9)]

/-- Digits and number signs of scripts that run from right to left. -/
def arabicDigits : Text.CodePoints :=
  [(0x660, 0x669), (0x66b, 0x66c), (0x10d30, 0x10d39), (0x10e60, 0x10e7e)]

/-- Signs without a direction. -/
def neutralSigns : Text.CodePoints :=
  [(0x0, 0x2f), (0x3a, 0x40), (0x5b, 0x60), (0x7b, 0xa9), (0xab, 0xb1), (0xb6, 0xb7), (0xbb, 0xbf),
   (0xd7, 0xd7), (0xf7, 0xf7), (0x2b9, 0x2ba), (0x2c2, 0x2cf), (0x2d2, 0x2df), (0x2e5, 0x2ed),
   (0x2ef, 0x2ff), (0x374, 0x375), (0x37e, 0x37e), (0x387, 0x387), (0x3f6, 0x3f6), (0x58a, 0x58f),
   (0x606, 0x607), (0x609, 0x60a), (0x60c, 0x60c), (0x60e, 0x60f), (0x66a, 0x66a), (0x6de, 0x6de),
   (0x6e9, 0x6e9), (0x7f6, 0x7f9), (0x9f2, 0x9f3), (0x9fb, 0x9fb), (0xaf1, 0xaf1), (0xbf3, 0xbfa),
   (0xc78, 0xc7e), (0xe3f, 0xe3f), (0xf3a, 0xf3d), (0x1390, 0x1399), (0x1400, 0x1400),
   (0x169b, 0x169c), (0x17db, 0x17db), (0x17f0, 0x180a), (0x1940, 0x1945), (0x19de, 0x19ff),
   (0x1fef, 0x1fef), (0x200c, 0x205e), (0x207a, 0x207e), (0x208a, 0x208e), (0x20a0, 0x20c1),
   (0x2103, 0x2104), (0x2108, 0x2109), (0x2114, 0x2114), (0x2116, 0x2118), (0x211e, 0x2123),
   (0x2125, 0x2125), (0x2127, 0x2127), (0x2129, 0x2129), (0x212e, 0x212e), (0x213a, 0x213b),
   (0x2140, 0x2144), (0x214a, 0x214d), (0x2150, 0x215f), (0x2189, 0x2335), (0x237b, 0x2394),
   (0x2396, 0x2487), (0x24ea, 0x26ab), (0x26ad, 0x27ff), (0x2900, 0x2bff), (0x2ce5, 0x2cea),
   (0x2cf9, 0x2cff), (0x2e00, 0x3004), (0x3008, 0x3020), (0x3030, 0x3030), (0x3036, 0x3037),
   (0x303d, 0x303f), (0x30a0, 0x30a0), (0x30fb, 0x30fb), (0x31c0, 0x31e5), (0x321d, 0x321e),
   (0x3250, 0x325f), (0x327c, 0x327e), (0x32b1, 0x32bf), (0x32cc, 0x32cf), (0x3377, 0x337a),
   (0x33de, 0x33df), (0x33ff, 0x33ff), (0x4dc0, 0x4dff), (0xa490, 0xa4c6), (0xa60d, 0xa60f),
   (0xa673, 0xa67f), (0xa700, 0xa721), (0xa788, 0xa788), (0xa828, 0xa82b), (0xa838, 0xa839),
   (0xa874, 0xa877), (0xab6a, 0xab6b), (0xfb29, 0xfb29), (0xfbc3, 0xfbd2), (0xfd3e, 0xfd4f),
   (0xfd90, 0xfd91), (0xfdc8, 0xfdcf), (0xfdfd, 0xfe69), (0xff01, 0xff0e), (0xff1b, 0xff1d),
   (0xff3f, 0xff40), (0xff5b, 0xff65), (0xffe0, 0xffee), (0x10101, 0x10101), (0x10140, 0x1018c),
   (0x10190, 0x101a0), (0x1091f, 0x1091f), (0x10b39, 0x10b3f), (0x10d6e, 0x10d6e),
   (0x10ed0, 0x10ed8), (0x11052, 0x11065), (0x11660, 0x1166c), (0x11fd5, 0x11ff1),
   (0x16fe2, 0x16fe2), (0x1cc00, 0x1ccef), (0x1ccfa, 0x1cef0), (0x1d1e9, 0x1d245),
   (0x1d300, 0x1d356), (0x1d6db, 0x1d6db), (0x1d715, 0x1d715), (0x1d74f, 0x1d74f),
   (0x1d789, 0x1d789), (0x1d7c3, 0x1d7c3), (0x1e2ff, 0x1e2ff), (0x1eef0, 0x1f0f5),
   (0x1f10b, 0x1f10f), (0x1f12f, 0x1f12f), (0x1f16a, 0x1f16f), (0x1f1ad, 0x1f1ad),
   (0x1f260, 0x1fbef), (0x1fbfa, 0x1fbfa)]

/-- Nonspacing marks that count as letters. -/
def letterlikeMarks : Text.CodePoints :=
  [(0xcbf, 0xcbf), (0xcc6, 0xcc6), (0x11a07, 0x11a08), (0x11c3f, 0x11c3f)]

/-- The direction of a character. -/
def direction (character : Char) : Direction :=
  if letterlikeMarks.covers character then .leftToRight
  else if nonspacingMarks.covers character then .nonspacing
  else if rightToLeftLetters.covers character then .rightToLeft
  else if arabicDigits.covers character then .arabicDigit
  else if europeanDigits.covers character then .europeanDigit
  else if neutralSigns.covers character then .neutral
  else .leftToRight

/-- Whether a label holds a letter or a number of a script that runs from right to left. -/
def turns (label : List Char) : Bool :=
  label.any fun character =>
    direction character = .rightToLeft || direction character = .arabicDigit

/--
Whether a label runs one way. It opens with a letter and closes with a letter of the same direction
or a digit, marks aside. No letter runs against it, from left to right no Arabic digit stands in it,
and from right to left not both kinds of digits.
-/
def runsOneWay (label : List Char) : Bool :=
  match label.map direction with
  | [] => true
  | first :: rest =>
      let directions := first :: rest
      let last := directions.reverse.find? (· ≠ .nonspacing)
      match first with
      | .leftToRight =>
          directions.all (fun one => one ≠ .rightToLeft && one ≠ .arabicDigit) &&
            last.any fun one => one = .leftToRight || one = .europeanDigit
      | .rightToLeft =>
          directions.all (· ≠ .leftToRight) &&
            !(directions.contains .europeanDigit && directions.contains .arabicDigit) &&
            last.any (· ≠ .neutral)
      | _ => false

end ContractGateway.Rpc.Url.Name
