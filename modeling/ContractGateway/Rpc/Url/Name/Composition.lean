import ContractGateway.Rpc.Url.Name.Mark

/-!
# Composed text

A letter and its marks can be written as one character or as several. In the composed form of a text
the marks behind a letter are sorted by their combining classes, and a letter is merged with what
follows it wherever one character stands for both. Syllables of Hangul are merged from their letters
by arithmetic, all other characters by a table.

The table holds the characters that a name spells as they are.
-/

namespace ContractGateway.Rpc.Url.Name

/--
Characters that stand for two others: the code point of the second one, the first ones, and in the
same order the characters that stand for both.
-/
def composites : List (Nat × String × String) :=
  [(0x300, "aeinouwyâêôüăēōơưαεηιουωϊϋеиἀἁἐἑἠἡἰἱὀὁὐὑ", "àèìǹòùẁỳầềồǜằḕṑờừὰὲὴὶὸὺὼῒῢѐѝἂἃἒἓἢἣἲἳὂὃὒὓ"),
   (0x300, "ὠὡ", "ὢὣ"),
   (0x301, "acegiklmnoprsuwyzâåæçêïôõøüăēōũơưαεηιουω", "áćéǵíḱĺḿńóṕŕśúẃýźấǻǽḉếḯốṍǿǘắḗṓṹớứάέήίόύώ"),
   (0x301, "ϊϋгкἀἁἐἑἠἡἰἱὀὁὐὑὠὡ", "ΐΰѓќἄἅἔἕἤἥἴἵὄὅὔὕὤὥ"),
   (0x302, "aceghijosuwyzạẹọ", "âĉêĝĥîĵôŝûŵŷẑậệộ"), (0x303, "aeinouvyâêôăơư", "ãẽĩñõũṽỹẫễỗẵỡữ"),
   (0x304, "aegiouyäæõöüǫȧȯαιυиуḷṛ", "āēḡīōūȳǟǣȭȫǖǭǡȱᾱῑῡӣӯḹṝ"),
   (0x306, "aegiouȩαιυаежиуạ", "ăĕğĭŏŭḝᾰῐῠӑӗӂйўặ"),
   (0x307, "abcdefghmnoprstwxyzśšṣ𐗒𐗚", "ȧḃċḋėḟġḣṁṅȯṗṙṡṫẇẋẏżṥṧṩ𐗉𐗤"),
   (0x308, "aehiotuwxyõūιυаежзиоучыэіәө", "äëḧïöẗüẅẍÿṏṻϊϋӓёӝӟӥӧӱӵӹӭїӛӫ"),
   (0x309, "aeiouyâêôăơư", "ảẻỉỏủỷẩểổẳởử"), (0x30a, "auwy", "åůẘẙ"), (0x30b, "ouу", "őűӳ"),
   (0x30c, "acdeghijklnorstuzüʒ", "ǎčďěǧȟǐǰǩľňǒřšťǔžǚǯ"), (0x30f, "aeioruѵ", "ȁȅȉȍȑȕѷ"),
   (0x311, "aeioru", "ȃȇȋȏȓȗ"), (0x313, "αεηιορυω", "ἀἐἠἰὀῤὐὠ"), (0x314, "αεηιορυω", "ἁἑἡἱὁῥὑὡ"),
   (0x31b, "ou", "ơư"), (0x323, "abdehiklmnorstuvwyzơư", "ạḅḍẹḥịḳḷṃṇọṛṣṭụṿẉỵẓợự"),
   (0x324, "u", "ṳ"), (0x325, "a", "ḁ"), (0x326, "st", "șț"), (0x327, "cdeghklnrst", "çḑȩģḩķļņŗşţ"),
   (0x328, "aeiou", "ąęįǫų"), (0x32d, "delntu", "ḓḙḽṋṱṷ"), (0x32e, "h", "ḫ"), (0x330, "eiu", "ḛḭṵ"),
   (0x331, "bdhklnrtz", "ḇḏẖḵḻṉṟṯẕ"),
   (0x338, "<=>←→↔⇐⇒⇔∃∈∋∣∥∼≃≅≈≍≡≤≥≲≳≶≷≺≻≼≽⊂⊃⊆⊇⊑⊒⊢⊨⊩⊫", "≮≠≯↚↛↮⇍⇏⇎∄∉∌∤∦≁≄≇≉≭≢≰≱≴≵≸≹⊀⊁⋠⋡⊄⊅⊈⊉⋢⋣⊬⊭⊮⊯"),
   (0x338, "⊲⊳⊴⊵", "⋪⋫⋬⋭"), (0x342, "αηιυωϊϋἀἁἠἡἰἱὐὑὠὡ", "ᾶῆῖῦῶῗῧἆἇἦἧἶἷὖὗὦὧ"),
   (0x653, "\u0627", "\u0622"),
   (0x654, "\u0627\u0648\u064a\u06c1\u06d2\u06d5", "\u0623\u0624\u0626\u06c2\u06d3\u06c0"),
   (0x655, "\u0627", "\u0625"), (0x93c, "नरळ", "ऩऱऴ"), (0x9be, "\u09c7", "\u09cb"),
   (0x9d7, "\u09c7", "\u09cc"), (0xb3e, "\u0b47", "\u0b4b"), (0xb56, "\u0b47", "\u0b48"),
   (0xb57, "\u0b47", "\u0b4c"), (0xbbe, "\u0bc6\u0bc7", "\u0bca\u0bcb"),
   (0xbd7, "ஒ\u0bc6", "ஔ\u0bcc"), (0xc56, "\u0c46", "\u0c48"), (0xcc2, "\u0cc6", "\u0cca"),
   (0xcd5, "\u0cbf\u0cc6\u0cca", "\u0cc0\u0cc7\u0ccb"), (0xcd6, "\u0cc6", "\u0cc8"),
   (0xd3e, "\u0d46\u0d47", "\u0d4a\u0d4b"), (0xd57, "\u0d46", "\u0d4c"),
   (0xdca, "\u0dd9\u0ddc", "\u0dda\u0ddd"), (0xdcf, "\u0dd9", "\u0ddc"),
   (0xddf, "\u0dd9", "\u0dde"), (0x102e, "ဥ", "ဦ"),
   (0x1b35, "ᬅᬇᬉᬋᬍᬑ\u1b3a\u1b3c\u1b3e\u1b3f\u1b42", "ᬆᬈᬊᬌᬎᬒ\u1b3b\u1b3d\u1b40\u1b41\u1b43"),
   (0x3099, "うかきくけこさしすせそたちつてとはひふへほゝウカキクケコサシスセソタチツテトハヒ", "ゔがぎぐげござじずぜぞだぢづでどばびぶべぼゞヴガギグゲゴザジズゼゾダヂヅデドバビ"),
   (0x3099, "フヘホワヰヱヲヽ", "ブベボヷヸヹヺヾ"), (0x309a, "はひふへほハヒフヘホ", "ぱぴぷぺぽパピプペポ"), (0x110ba, "𑂙𑂛𑂥", "𑂚𑂜𑂫"),
   (0x11127, "𑄱𑄲", "𑄮𑄯"), (0x1133e, "𑍇", "𑍋"), (0x11357, "𑍇", "𑍌"), (0x113b8, "𑏂", "𑏇"),
   (0x113bb, "𑎄", "𑎅"), (0x113c2, "𑎎", "𑎎𑏅"), (0x113c9, "𑎂𑎐𑏂", "𑎃𑎑𑏈"), (0x114b0, "𑒹", "𑒼"),
   (0x114ba, "𑒹", "𑒻"), (0x114bd, "𑒹", "𑒾"), (0x115af, "𑖸𑖹", "𑖺𑖻"), (0x11930, "𑤵", "𑤸"),
   (0x1611e, "𖄞", "𖄡"), (0x1611f, "𖄡𖄡𖄩𖄩", "𖄣𖄦𖄧𖄤"), (0x16120, "𖄡𖄞", "𖄥𖄨"), (0x16129, "𖄞", "𖄢"),
   (0x16d67, "𖵩𖵩", "𖵪𖵧𖵪")]

/-- The syllables of Hangul. -/
def syllables : Text.CodePoints := [(0xac00, 0xd7a3)]

/-- The letters of Hangul that open a syllable. -/
def syllableOpenings : Text.CodePoints := [(0x1100, 0x1112)]

/-- The vowels of Hangul. -/
def syllableVowels : Text.CodePoints := [(0x1161, 0x1175)]

/-- The letters of Hangul that close a syllable. -/
def syllableClosings : Text.CodePoints := [(0x11a8, 0x11c2)]

/-- The letters of a syllable of Hangul. -/
def syllableLetters (syllable : Char) : List Char :=
  let place := syllable.toNat - 0xac00
  let opening := Char.ofNat (0x1100 + place / 588)
  let vowel := Char.ofNat (0x1161 + place % 588 / 28)
  if place % 28 = 0 then [opening, vowel]
  else [opening, vowel, Char.ofNat (0x11a7 + place % 28)]

/-- The syllable that two letters, or a syllable without a closing letter and a letter, make. -/
def syllable? (first second : Char) : Option Char :=
  let place := first.toNat - 0xac00
  if syllableOpenings.covers first && syllableVowels.covers second then
    some (Char.ofNat (0xac00 + ((first.toNat - 0x1100) * 21 + (second.toNat - 0x1161)) * 28))
  else if syllables.covers first && place % 28 = 0 && syllableClosings.covers second then
    some (Char.ofNat (first.toNat + (second.toNat - 0x11a7)))
  else none

/-- The two characters that a character stands for. -/
def parts? (whole : Char) : Option (Char × Char) :=
  composites.findSome? fun (second, firsts, wholes) =>
    ((firsts.toList.zip wholes.toList).find? (·.2 = whole)).map (·.1, Char.ofNat second)

/-- The one character that stands for two. -/
def whole? (first second : Char) : Option Char :=
  (syllable? first second).or <|
    composites.findSome? fun (mark, firsts, wholes) =>
      if mark = second.toNat then
        ((firsts.toList.zip wholes.toList).find? (·.1 = first)).map (·.2)
      else none

/-- A character in its parts, taken apart up to a number of times. -/
def takenApart : (times : Nat) → Char → List Char
  | 0, whole => [whole]
  | times + 1, whole =>
      match parts? whole with
      | none => [whole]
      | some (first, second) => takenApart times first ++ [second]

/-- A character in all its parts; no character stands for more than one letter and two marks. -/
def decomposed (whole : Char) : List Char :=
  if syllables.covers whole then syllableLetters whole else takenApart 2 whole

/-- Puts a character in front of a text, but a mark behind the marks of lower classes. -/
def placed (character : Char) : List Char → List Char
  | [] => [character]
  | next :: rest =>
      let nextClass := combiningClass next
      if 0 < nextClass ∧ nextClass < combiningClass character then next :: placed character rest
      else character :: next :: rest

/-- Sorts the marks behind each letter by their classes and keeps the order within a class. -/
def ordered (text : List Char) : List Char := text.foldr placed []

/-- The composed part of a text: what is done, and a letter with the marks left behind it. -/
structure Composing where
  done : List Char
  letter : Option Char
  marks : List Char
  deriving DecidableEq, Repr

namespace Composing

/-- All that is composed so far. -/
def text (composing : Composing) : List Char :=
  composing.done ++ composing.letter.toList ++ composing.marks

/--
Adds a character. It reaches the letter if no mark was left behind it, or none of its own class or
a higher one, and is merged with the letter if one character stands for both.
-/
def add (composing : Composing) (character : Char) : Composing :=
  let classOf := combiningClass character
  let reaches := composing.marks.getLast?.all fun mark => combiningClass mark < classOf
  match composing.letter.bind fun letter => if reaches then whole? letter character else none with
  | some whole => { composing with letter := some whole }
  | none =>
      if classOf = 0 then ⟨composing.text, some character, []⟩
      else { composing with marks := composing.marks ++ [character] }

end Composing

/-- The composed form of a text. -/
def composed (text : List Char) : List Char :=
  ((ordered (text.flatMap decomposed)).foldl Composing.add ⟨[], none, []⟩).text

end ContractGateway.Rpc.Url.Name
