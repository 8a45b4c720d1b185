import PostfixCalc.Text.Cluster.Class

namespace PostfixCalc.Text

/-- What matters of an unfinished cluster for the code point after it. -/
inductive Tail
  /-- A carriage return, which only a line feed joins. -/
  | carriageReturn
  /-- A control, which nothing joins. -/
  | closed
  /-- Ends in nothing that reaches forward. -/
  | plain
  /-- Ends in a sign that belongs to what follows. -/
  | prepended
  /-- Ends in one unpaired regional indicator. -/
  | regional
  /-- Ends in a pictograph and marks. -/
  | pictograph
  /-- Ends in a pictograph, marks and a joiner. -/
  | joined
  /-- Ends in a consonant and marks without a linking sign. -/
  | consonant
  /-- Ends in a consonant and marks with a linking sign among them. -/
  | linked
  | leading
  | vowel
  | final
  deriving DecidableEq, Repr

namespace Tail

def start : ClusterClass → Tail
  | .cr => carriageReturn
  | .lf | .control => closed
  | .extend | .nonJoiner | .linker | .joiner | .spacing | .other => plain
  | .prepended => prepended
  | .regional => regional
  | .pictograph => pictograph
  | .consonant => consonant
  | .leading => leading
  | .vowel | .openSyllable => vowel
  | .final | .closedSyllable => final

/-- Whether a code point of a class joins a cluster with this tail. -/
def joins : Tail → ClusterClass → Bool
  | carriageReturn, .lf => true
  | carriageReturn, _ => false
  | closed, _ => false
  | _, .cr | _, .lf | _, .control => false
  | _, .extend | _, .nonJoiner | _, .linker | _, .joiner | _, .spacing => true
  | prepended, _ => true
  | regional, .regional => true
  | joined, .pictograph => true
  | linked, .consonant => true
  | leading, .leading | leading, .vowel | leading, .openSyllable | leading, .closedSyllable => true
  | vowel, .vowel | vowel, .final => true
  | final, .final => true
  | _, _ => false

def next : Tail → ClusterClass → Tail
  | pictograph, .extend | pictograph, .nonJoiner | pictograph, .linker => pictograph
  | pictograph, .joiner => joined
  | consonant, .extend | consonant, .joiner => consonant
  | consonant, .linker => linked
  | linked, .extend | linked, .joiner | linked, .linker => linked
  | regional, .regional => plain
  | _, k => start k

end Tail

/-- Splits what follows a cluster with the given tail: the rest of that cluster, then the clusters
after it. A code point joins the cluster before it by its `Tail` alone. -/
def splitFrom : Tail → Text → Text × List Text
  | _, [] => ([], [])
  | tail, c :: s =>
    let k := ClusterClass.of c
    if tail.joins k then
      let (rest, more) := splitFrom (tail.next k) s
      (c :: rest, more)
    else
      let (rest, more) := splitFrom (.start k) s
      ([], (c :: rest) :: more)

/-- The extended grapheme clusters of a text, from left to right. -/
def clusters : Text → List Text
  | [] => []
  | c :: s =>
    let (rest, more) := splitFrom (.start (ClusterClass.of c)) s
    (c :: rest) :: more

/-- The number of code points in the first `n` clusters. -/
def clusterOffset (s : Text) (n : Nat) : Nat := ((clusters s).take n).flatten.length

end PostfixCalc.Text
