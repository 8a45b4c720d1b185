import PostfixCalc.Text.Basic
import PostfixCalc.Text.Property.Break

namespace PostfixCalc.Text

inductive ClusterClass
  | cr
  | lf
  /-- Stands alone. -/
  | control
  /-- Belongs to what it follows, and may stand inside a conjunct. -/
  | extend
  /-- Belongs to what it follows, and keeps two consonants apart. -/
  | nonJoiner
  /-- Belongs to what it follows, and links two consonants. -/
  | linker
  /-- Belongs to what it follows, and links two pictographs. -/
  | joiner
  /-- Belongs to what it follows, with a column of its own. -/
  | spacing
  | prepended
  | regional
  | pictograph
  | consonant
  | leading
  | vowel
  | final
  /-- Hangul syllable that a final consonant may complete. -/
  | openSyllable
  /-- Hangul syllable with its final consonant. -/
  | closedSyllable
  | other
  deriving DecidableEq, Repr

namespace ClusterClass

/-- The class of a code point above ASCII, by the first table that has it. -/
def ofWide (c : Char) : ClusterClass :=
  let n := c.toNat
  if n = 0x200D then joiner
  else if n = 0x200C then nonJoiner
  else if Property.conjunctLinkers.holds c then linker
  else if Property.extend.holds c then extend
  else if Property.spacing.holds c then spacing
  else if Property.control.holds c then control
  else if 0x1F1E6 ≤ n ∧ n ≤ 0x1F1FF then regional
  else if Property.pictographs.holds c then pictograph
  else if Property.conjunctConsonants.holds c then consonant
  else if 0xAC00 ≤ n ∧ n ≤ 0xD7A3 then
    if (n - 0xAC00) % 28 = 0 then openSyllable else closedSyllable
  else if Property.leadingJamo.holds c then leading
  else if Property.vowelJamo.holds c then vowel
  else if Property.finalJamo.holds c then final
  else if Property.prepended.holds c then prepended
  else other

/-- The class of a code point. Of ASCII only the controls are special. -/
def of (c : Char) : ClusterClass :=
  if c = '\r' then cr
  else if c = '\n' then lf
  else if c.toNat < 0x80 then
    if c.toNat < 0x20 ∨ c.toNat = 0x7F then control else other
  else ofWide c

end ClusterClass

end PostfixCalc.Text
