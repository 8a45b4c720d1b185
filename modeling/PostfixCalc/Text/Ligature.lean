import PostfixCalc.Text.Property.Columns

namespace PostfixCalc.Text

namespace Property

/-- The forms of the Arabic letter Alef. -/
def alefs : Ranges :=
  [(0x622, 0x623), (0x625, 0x625), (0x627, 0x627), (0x671, 0x673), (0x675, 0x675), (0x773, 0x774),
   (0x870, 0x882)]

/-- The forms of the Arabic letter Lam. -/
def lams : Ranges :=
  [(0x644, 0x644), (0x6B5, 0x6B8), (0x76A, 0x76A), (0x8A6, 0x8A6), (0x8C7, 0x8C7)]

/-- Khmer letters that a Coeng in front puts below the letter before it. -/
def coengLetters : Ranges :=
  [(0x1780, 0x1782), (0x1784, 0x1787), (0x1789, 0x178C), (0x178E, 0x1793), (0x1795, 0x1798),
   (0x179B, 0x179D), (0x17A0, 0x17A0), (0x17A2, 0x17A2), (0x17A7, 0x17A7), (0x17AB, 0x17AC),
   (0x17AF, 0x17AF)]

def tifinaghConsonants : Ranges :=
  [(0x2D31, 0x2D65), (0x2D6F, 0x2D6F)]

/-- Lisu tone letters that take in one of the second tones behind them. -/
def firstTones : Ranges :=
  [(0xA4F8, 0xA4FB)]

def secondTones : Ranges :=
  [(0xA4FC, 0xA4FD)]

/-- Marks that are not to be seen and do not interrupt a ligature. -/
def ignorableMarks : Ranges :=
  [(0x34F, 0x34F), (0x17B4, 0x17B5), (0x180B, 0x180D), (0x180F, 0x180F), (0xFE00, 0xFE0F),
   (0xE0100, 0xE01EF)]

/-- Code points without a column that keep two Arabic letters apart all the same. -/
def joiningBreaks : Ranges :=
  [(0x605, 0x605), (0x890, 0x891), (0x8E2, 0x8E2), (0x9BE, 0x9BE), (0x9D7, 0x9D7), (0xB3E, 0xB3E),
   (0xB57, 0xB57), (0xBBE, 0xBBE), (0xBD7, 0xBD7), (0xCC0, 0xCC0), (0xCC2, 0xCC2), (0xCC7, 0xCC8),
   (0xCCA, 0xCCB), (0xCD5, 0xCD6), (0xD3E, 0xD3E), (0xD4E, 0xD4E), (0xD57, 0xD57), (0xDCF, 0xDCF),
   (0xDDF, 0xDDF), (0x1160, 0x11FF), (0x1715, 0x1715), (0x1734, 0x1734), (0x180E, 0x180E),
   (0x1B35, 0x1B35), (0x1B3B, 0x1B3B), (0x1B3D, 0x1B3D), (0x1B43, 0x1B44), (0x1BAA, 0x1BAA),
   (0x1BF2, 0x1BF3), (0x200C, 0x200D), (0x2065, 0x2069), (0x302E, 0x302F), (0x3164, 0x3164),
   (0xA8FA, 0xA8FA), (0xA953, 0xA953), (0xA9C0, 0xA9C0), (0xD7B0, 0xD7C6), (0xD7CB, 0xD7FB),
   (0xFF9E, 0xFFA0), (0xFFF0, 0xFFF8), (0x111C0, 0x111C0), (0x111C2, 0x111C3), (0x11235, 0x11235),
   (0x1133E, 0x1133E), (0x1134D, 0x1134D), (0x11357, 0x11357), (0x113B8, 0x113B8),
   (0x113C2, 0x113C2), (0x113C5, 0x113C5), (0x113C7, 0x113C9), (0x113CF, 0x113CF),
   (0x113D1, 0x113D1), (0x114B0, 0x114B0), (0x114BD, 0x114BD), (0x115AF, 0x115AF),
   (0x116B6, 0x116B6), (0x11930, 0x11930), (0x1193D, 0x1193D), (0x1193F, 0x1193F),
   (0x11941, 0x11941), (0x11A3A, 0x11A3A), (0x11A84, 0x11A89), (0x11D46, 0x11D46),
   (0x11F02, 0x11F02), (0x11F41, 0x11F41), (0x16FF0, 0x16FF1), (0x1D165, 0x1D166),
   (0x1D16D, 0x1D172), (0xE0000, 0xE0000), (0xE0002, 0xE001F), (0xE0080, 0xE00FF),
   (0xE01F0, 0xE0FFF)]

end Property

def isJoiner (c : Char) : Bool := c.toNat == 0x200D

/-- The sign that joins two Tifinagh consonants and shows while there is only one. -/
def isConsonantJoiner (c : Char) : Bool := c.toNat == 0x2D7F

/-- Whether a code point between two Arabic letters lets them join. -/
def isTransparent (c : Char) : Bool :=
  Property.zeroWidth.holds c && !Property.joiningBreaks.holds c

/-- A letter that makes one sign with what may stand in front of it. It is `linked` if a joiner is
among the marks in front of it already. -/
inductive Ligature
  /-- Alef, which makes one sign with a Lam. -/
  | alef
  /-- Hebrew Lamed, which makes one sign with an Alef linked to it. -/
  | lamed (linked : Bool)
  /-- Buginese Ya, which makes one sign with the vowel sign i and the letter A linked to it. -/
  | ya (linked : Bool)
  /-- A linked Ya with its vowel sign. -/
  | signedYa
  | consonant (linked : Bool)
  /-- A Tifinagh consonant with a consonant joiner in front. -/
  | joinedConsonant
  | secondTone
  /-- Old Turkic Orkhon I, which makes one sign with an Op linked to it. -/
  | orkhonI (linked : Bool)
  | coengLetter
  deriving DecidableEq, Repr

namespace Ligature

/-- The letters that open a ligature. -/
def openings : List (Property.Ranges × Ligature) :=
  [ (Property.alefs, alef), ([(0x5DC, 0x5DC)], lamed false),
    (Property.coengLetters, coengLetter), ([(0x1A10, 0x1A10)], ya false),
    (Property.tifinaghConsonants, consonant false), (Property.secondTones, secondTone),
    ([(0x10C03, 0x10C03)], orkhonI false) ]

def ofLetter? (c : Char) : Option Ligature :=
  (openings.find? fun opening => opening.1.holds c).map Prod.snd

def columns : Ligature → Nat
  | joinedConsonant => 2
  | _ => 1

def link : Ligature → Ligature
  | lamed _ => lamed true
  | ya _ => ya true
  | consonant _ => consonant true
  | orkhonI _ => orkhonI true
  | l => l

/-- The letter behind a mark that does not interrupt the ligature. -/
def pass? (c : Char) (l : Ligature) : Option Ligature :=
  if l = alef then
    if isTransparent c then some alef else none
  else if isJoiner c then some l.link
  else if Property.ignorableMarks.holds c then some l
  else none

/-- What a sign makes of the letter behind it that needs one more in front. -/
def sign? (c : Char) : Ligature → Option Ligature
  | ya true => if c.toNat = 0x1A17 then some signedYa else none
  | consonant _ => if isConsonantJoiner c then some joinedConsonant else none
  | _ => none

/-- The code points that complete the sign. -/
def closing : Ligature → Property.Ranges
  | alef => Property.lams
  | lamed true => [(0x5D0, 0x5D0)]
  | signedYa => [(0x1A15, 0x1A15)]
  | consonant true | joinedConsonant => Property.tifinaghConsonants
  | secondTone => Property.firstTones
  | orkhonI true => [(0x10C32, 0x10C32)]
  | coengLetter => [(0x17D2, 0x17D2)]
  | lamed false | ya _ | consonant false | orkhonI false => []

/-- The columns of the whole sign. A letter below another one takes none. -/
def closedColumns : Ligature → Nat
  | coengLetter => 0
  | _ => 1

end Ligature

end PostfixCalc.Text
