import ContractGateway.Rpc.Url.Name.Mark

/-!
# Joining of letters

In some scripts letters are joined to their neighbours. Two invisible characters ask for letters to
be joined or kept apart. A name may hold them only where they change what is seen: behind a mark
that kills a vowel, and the one that keeps letters apart also between letters that would be joined.
-/

namespace ContractGateway.Rpc.Url.Name

/-- Letters that are joined to the letters on both sides. -/
def joinedOnBothSides : Text.CodePoints :=
  [(0x620, 0x620), (0x626, 0x626), (0x628, 0x628), (0x62a, 0x62e), (0x633, 0x63f), (0x641, 0x647),
   (0x649, 0x64a), (0x66e, 0x66f), (0x678, 0x687), (0x69a, 0x6bf), (0x6c1, 0x6c2), (0x6cc, 0x6cc),
   (0x6ce, 0x6ce), (0x6d0, 0x6d1), (0x6fa, 0x6fc), (0x6ff, 0x6ff), (0x712, 0x714), (0x71a, 0x71d),
   (0x71f, 0x727), (0x729, 0x729), (0x72b, 0x72b), (0x72d, 0x72e), (0x74e, 0x758), (0x75c, 0x76a),
   (0x76d, 0x770), (0x772, 0x772), (0x775, 0x777), (0x77a, 0x77f), (0x7ca, 0x7ea), (0x841, 0x845),
   (0x848, 0x848), (0x84a, 0x853), (0x855, 0x855), (0x860, 0x860), (0x862, 0x865), (0x868, 0x868),
   (0x886, 0x886), (0x889, 0x88d), (0x88f, 0x88f), (0x8a0, 0x8a9), (0x8af, 0x8b0), (0x8b3, 0x8b8),
   (0x8ba, 0x8c8), (0x1807, 0x1807), (0x1820, 0x1878), (0x1887, 0x18a8), (0x18aa, 0x18aa),
   (0xa840, 0xa871), (0x10ac0, 0x10ac4), (0x10ad3, 0x10ad6), (0x10ad8, 0x10adc), (0x10ade, 0x10ae0),
   (0x10aeb, 0x10aee), (0x10b80, 0x10b80), (0x10b82, 0x10b82), (0x10b86, 0x10b88),
   (0x10b8a, 0x10b8b), (0x10b8d, 0x10b8d), (0x10b90, 0x10b90), (0x10bad, 0x10bae),
   (0x10d01, 0x10d21), (0x10d23, 0x10d23), (0x10ec3, 0x10ec4), (0x10ec6, 0x10ec7),
   (0x10f30, 0x10f32), (0x10f34, 0x10f44), (0x10f51, 0x10f53), (0x10f70, 0x10f73),
   (0x10f76, 0x10f81), (0x10fb0, 0x10fb0), (0x10fb2, 0x10fb3), (0x10fb8, 0x10fb8),
   (0x10fbb, 0x10fbc), (0x10fbe, 0x10fbf), (0x10fc1, 0x10fc1), (0x10fc4, 0x10fc4),
   (0x10fca, 0x10fca), (0x1e900, 0x1e943)]

/-- Letters that are joined to the next letter only. -/
def joinedToNext : Text.CodePoints :=
  [(0xa872, 0xa872), (0x10acd, 0x10acd), (0x10ad7, 0x10ad7), (0x10d00, 0x10d00), (0x10fcb, 0x10fcb)]

/-- Letters that are joined to the letter before them only. -/
def joinedToPrevious : Text.CodePoints :=
  [(0x622, 0x625), (0x627, 0x627), (0x629, 0x629), (0x62f, 0x632), (0x648, 0x648), (0x671, 0x673),
   (0x675, 0x677), (0x688, 0x699), (0x6c0, 0x6c0), (0x6c3, 0x6cb), (0x6cd, 0x6cd), (0x6cf, 0x6cf),
   (0x6d2, 0x6d3), (0x6d5, 0x6d5), (0x6ee, 0x6ef), (0x710, 0x710), (0x715, 0x719), (0x71e, 0x71e),
   (0x728, 0x728), (0x72a, 0x72a), (0x72c, 0x72c), (0x72f, 0x72f), (0x74d, 0x74d), (0x759, 0x75b),
   (0x76b, 0x76c), (0x771, 0x771), (0x773, 0x774), (0x778, 0x779), (0x840, 0x840), (0x846, 0x847),
   (0x849, 0x849), (0x854, 0x854), (0x856, 0x858), (0x867, 0x867), (0x869, 0x86a), (0x870, 0x882),
   (0x88e, 0x88e), (0x8aa, 0x8ac), (0x8ae, 0x8ae), (0x8b1, 0x8b2), (0x8b9, 0x8b9),
   (0x10ac5, 0x10ac5), (0x10ac7, 0x10ac7), (0x10ac9, 0x10aca), (0x10ace, 0x10ad2),
   (0x10add, 0x10add), (0x10ae1, 0x10ae1), (0x10ae4, 0x10ae4), (0x10aef, 0x10aef),
   (0x10b81, 0x10b81), (0x10b83, 0x10b85), (0x10b89, 0x10b89), (0x10b8c, 0x10b8c),
   (0x10b8e, 0x10b8f), (0x10b91, 0x10b91), (0x10ba9, 0x10bac), (0x10d22, 0x10d22),
   (0x10ec2, 0x10ec2), (0x10f33, 0x10f33), (0x10f54, 0x10f54), (0x10f74, 0x10f75),
   (0x10fb4, 0x10fb6), (0x10fb9, 0x10fba), (0x10fbd, 0x10fbd), (0x10fc2, 0x10fc3),
   (0x10fc9, 0x10fc9)]

/-- Whether letters are joined across a character as if it were not there. -/
def isSeenThrough (character : Char) : Bool :=
  nonspacingMarks.covers character || character.toNat = 0x1e94b

/-- Whether a letter is joined to the next one. -/
def reachesNext (character : Char) : Bool :=
  joinedOnBothSides.covers character || joinedToNext.covers character

/-- Whether a letter is joined to the one before it. -/
def reachesPrevious (character : Char) : Bool :=
  joinedOnBothSides.covers character || joinedToPrevious.covers character

/-- The character that asks for letters to be kept apart. -/
def nonJoiner : Char := '\u200c'

/-- The character that asks for letters to be joined. -/
def joiner : Char := '\u200d'

/-- Whether joiners may stand where they do behind the characters before them, nearest first. -/
def joinersFitBehind (before : List Char) : List Char → Bool
  | [] => true
  | character :: rest =>
      let killsVowel := before.head?.any (combiningClass · = vowelKiller)
      let wouldJoin :=
        (before.find? (!isSeenThrough ·)).any reachesNext &&
          (rest.find? (!isSeenThrough ·)).any reachesPrevious
      let fits :=
        if character = joiner then killsVowel
        else if character = nonJoiner then killsVowel || wouldJoin
        else true
      fits && joinersFitBehind (character :: before) rest

/-- Whether every joiner of a label stands where it changes what is seen. -/
def joinersFit (label : List Char) : Bool := joinersFitBehind [] label

end ContractGateway.Rpc.Url.Name
