import PostfixCalc.Proofs.Text.Cuts
import PostfixCalc.Proofs.Text.Lines

namespace PostfixCalc.Text

/-- Whether a code point begins at a place in bytes, or the bytes end there. -/
def isBoundary (bytes : List UInt8) (i : Nat) : Bool :=
  i == bytes.length || bytes[i]?.any fun b => decide b.IsUTF8FirstByte

/-- Puts bytes in at a boundary. -/
def insertAt? (bytes : List UInt8) (i : Nat) (new : List UInt8) : Option (List UInt8) :=
  if isBoundary bytes i then some (bytes.take i ++ new ++ bytes.drop i) else none

/-- Takes the bytes between two boundaries away. -/
def drain? (bytes : List UInt8) (start stop : Nat) : Option (List UInt8) :=
  if start ≤ stop ∧ isBoundary bytes start ∧ isBoundary bytes stop then
    some (bytes.take start ++ bytes.drop stop)
  else none

/-- The bytes up to a boundary. -/
def sliceTo? (bytes : List UInt8) (stop : Nat) : Option (List UInt8) :=
  if isBoundary bytes stop then some (bytes.take stop) else none

/-- Where clusters begin in their bytes, the first of them at `start`. -/
def clusterStarts (start : Nat) : List Text → List Nat
  | [] => []
  | c :: cs => start :: clusterStarts (start + (encode c).length) cs

/-- Where the `n`-th cluster begins in the bytes of a text. Without such a cluster it is their end.
-/
def byteIndex (s : Text) (n : Nat) : Nat :=
  (clusterStarts 0 (clusters s))[n]?.getD (encode s).length

theorem encode_nil : encode [] = [] := by rw [encode_eq_flatMap, List.flatMap_nil]

theorem encode_cons (c : Char) (s : Text) :
    encode (c :: s) = String.utf8EncodeChar c ++ encode s := by
  rw [encode_eq_flatMap, encode_eq_flatMap, List.flatMap_cons]

theorem clusterStarts_getElem? (start : Nat) (cs : List Text) {n : Nat} (hn : n < cs.length) :
    (clusterStarts start cs)[n]? = some (start + (encode (cs.take n).flatten).length) := by
  induction cs generalizing start n with
  | nil => exact absurd hn (Nat.not_lt_zero n)
  | cons c cs ih =>
    cases n with
    | zero => simp [clusterStarts, encode_nil]
    | succ n =>
      have hrest := ih (start + (encode c).length) (Nat.lt_of_succ_lt_succ hn)
      rw [clusterStarts, List.getElem?_cons_succ, hrest, List.take_succ_cons, List.flatten_cons,
        encode_append, List.length_append, Nat.add_assoc]

theorem length_clusterStarts (start : Nat) (cs : List Text) :
    (clusterStarts start cs).length = cs.length := by
  induction cs generalizing start with
  | nil => rfl
  | cons c cs ih => rw [clusterStarts, List.length_cons, ih, List.length_cons]

/-- The bytes in front of a cluster are those of the code points in front of it. -/
theorem byteIndex_eq (s : Text) (n : Nat) :
    byteIndex s n = (encode (s.take (clusterOffset s n))).length := by
  rw [byteIndex]
  by_cases hn : n < (clusters s).length
  · rw [clusterStarts_getElem? 0 _ hn, take_clusterOffset, Option.getD_some, Nat.zero_add]
  · have hall : (clusters s).length ≤ n := Nat.le_of_not_lt hn
    have hnone : (clusterStarts 0 (clusters s))[n]? = none := by
      rw [List.getElem?_eq_none_iff, length_clusterStarts]
      exact hall
    rw [hnone, clusterOffset_all s hall, List.take_length, Option.getD_none]

theorem encode_take_append_encode_drop (s : Text) (n : Nat) :
    encode (s.take n) ++ encode (s.drop n) = encode s := by
  rw [← encode_append, List.take_append_drop]

theorem take_byteIndex (s : Text) (n : Nat) :
    (encode s).take (byteIndex s n) = encode (s.take (clusterOffset s n)) := by
  have hs := encode_take_append_encode_drop s (clusterOffset s n)
  rw [← hs, byteIndex_eq, List.take_left]

theorem drop_byteIndex (s : Text) (n : Nat) :
    (encode s).drop (byteIndex s n) = encode (s.drop (clusterOffset s n)) := by
  have hs := encode_take_append_encode_drop s (clusterOffset s n)
  rw [← hs, byteIndex_eq, List.drop_left]

theorem isBoundary_encode_append (a b : Text) :
    isBoundary (encode (a ++ b)) (encode a).length = true := by
  rw [isBoundary, encode_append, Bool.or_eq_true, beq_iff_eq]
  cases b with
  | nil =>
    left
    rw [encode_nil, List.append_nil]
  | cons c b =>
    right
    have hpos : 0 < (String.utf8EncodeChar c).length := by
      rw [String.length_utf8EncodeChar]
      exact c.utf8Size_pos
    rw [List.getElem?_append_right (Nat.le_refl _), Nat.sub_self, encode_cons,
      List.getElem?_append_left hpos, List.getElem?_eq_getElem hpos, Option.any_some,
      decide_eq_true_iff]
    exact UInt8.isUTF8FirstByte_getElem_zero_utf8EncodeChar

theorem isBoundary_byteIndex (s : Text) (n : Nat) :
    isBoundary (encode s) (byteIndex s n) = true := by
  have h := isBoundary_encode_append (s.take (clusterOffset s n)) (s.drop (clusterOffset s n))
  rwa [List.take_append_drop, ← byteIndex_eq] at h

theorem byteIndex_le_length (s : Text) (n : Nat) : byteIndex s n ≤ (encode s).length := by
  have h := congrArg List.length (take_byteIndex s n)
  rw [← byteIndex_eq, List.length_take] at h
  omega

theorem byteIndex_mono (s : Text) {m n : Nat} (h : m ≤ n) : byteIndex s m ≤ byteIndex s n := by
  let cs := (clusters s).take n
  have hm : (clusters s).take m = cs.take m := by
    rw [List.take_take, Nat.min_eq_left h]
  have hn : cs.flatten = (cs.take m).flatten ++ (cs.drop m).flatten := by
    rw [← List.flatten_append, List.take_append_drop]
  rw [byteIndex_eq, byteIndex_eq, take_clusterOffset, take_clusterOffset, hm]
  change _ ≤ (encode cs.flatten).length
  rw [hn, encode_append, List.length_append]
  exact Nat.le_add_right _ _

end PostfixCalc.Text
