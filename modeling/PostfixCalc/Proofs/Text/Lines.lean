import Mathlib.Tactic.SplitIfs
import PostfixCalc.Text.Basic

namespace PostfixCalc.Text

theorem toList_loop (bytes : ByteArray) (i : Nat) (before : List UInt8) :
    ByteArray.toList.loop bytes i before = before.reverse ++ bytes.data.toList.drop i := by
  fun_induction ByteArray.toList.loop bytes i before with
  | case1 i before hi ih =>
    have hlen : i < bytes.data.toList.length := by simpa using hi
    have hget : bytes.get! i = bytes.data.toList[i] := by
      have hdata : bytes.get! i = bytes.data[i]! := rfl
      rw [hdata, getElem!_pos bytes.data i hi, Array.getElem_toList]
    rw [ih, hget, List.reverse_cons, List.append_assoc, List.singleton_append,
      List.drop_eq_getElem_cons hlen]
  | case2 i before hi =>
    have hlen : bytes.data.toList.length ≤ i := by simpa using Nat.le_of_not_lt hi
    rw [List.drop_eq_nil_of_le hlen, List.append_nil]

theorem toList_eq_data (bytes : ByteArray) : bytes.toList = bytes.data.toList := by
  simpa [ByteArray.toList] using toList_loop bytes 0 []

/-- The bytes of a text are those of its code points, one after the other. -/
theorem encode_eq_flatMap (s : Text) : encode s = s.flatMap String.utf8EncodeChar := by
  rw [encode, toList_eq_data, String.toUTF8_eq_toByteArray, String.toByteArray_ofList,
    List.utf8Encode, List.toList_data_toByteArray]

theorem encode_append (a b : Text) : encode (a ++ b) = encode a ++ encode b := by
  simp only [encode_eq_flatMap, List.flatMap_append]

theorem decode?_encode (s : Text) : decode? (encode s) = some s := by
  have hbytes : (⟨(encode s).toArray⟩ : ByteArray) = s.utf8Encode := by
    rw [encode, toList_eq_data, String.toUTF8_eq_toByteArray, String.toByteArray_ofList]
  have htext : String.fromUTF8 s.utf8Encode ByteArray.isValidUTF8_utf8Encode = String.ofList s := by
    rw [← String.toByteArray_inj, String.toByteArray_ofList]
    rfl
  rw [decode?, hbytes, String.fromUTF8?, dif_pos ByteArray.isValidUTF8_utf8Encode, htext,
    Option.map_some, String.toList_ofList]

/-- A byte of ASCII is the whole code point that it is found in. -/
theorem toNat_of_mem_utf8EncodeChar {c : Char} {b : UInt8} (hb : b.toNat < 0x80)
    (h : b ∈ String.utf8EncodeChar c) : c.toNat = b.toNat := by
  have hn : c.toNat = c.val.toNat := rfl
  simp only [String.utf8EncodeChar] at h
  split_ifs at h <;> simp only [List.mem_cons, List.not_mem_nil, or_false] at h
  · subst h
    simp only [UInt8.toNat_ofNat']
    omega
  · rcases h with rfl | rfl <;> simp only [UInt8.toNat_ofNat'] at hb <;> omega
  · rcases h with rfl | rfl | rfl <;> simp only [UInt8.toNat_ofNat'] at hb <;> omega
  · rcases h with rfl | rfl | rfl | rfl <;> simp only [UInt8.toNat_ofNat'] at hb <;> omega

theorem not_mem_encode {s : Text} {c : Char} {b : UInt8} (hb : b.toNat < 0x80)
    (hc : c.toNat = b.toNat) (h : c ∉ s) : b ∉ encode s := by
  rw [encode_eq_flatMap, List.mem_flatMap]
  intro ⟨d, hd, hmem⟩
  have hdc : d = c := Char.toNat_inj.mp ((toNat_of_mem_utf8EncodeChar hb hmem).trans hc.symm)
  exact h (hdc ▸ hd)

theorem byteLines_append (bytes rest : List UInt8) (hfeed : 10 ∉ bytes) (hreturn : 13 ∉ bytes) :
    byteLines (bytes ++ 10 :: rest) = bytes :: byteLines rest := by
  induction bytes with
  | nil => rfl
  | cons b bytes ih =>
    simp only [List.mem_cons, not_or] at hfeed hreturn
    rw [List.cons_append, byteLines, ih hfeed.2 hreturn.2]
    · rfl
    · exact fun hb => hfeed.1 hb.symm
    · exact fun _ hb _ => hreturn.1 hb.symm

/-- Lines without line ends, written with a line feed behind each, are cut apart as they were. -/
theorem byteLines_encode (lines : List Text) (h : ∀ l ∈ lines, '\n' ∉ l ∧ '\r' ∉ l) :
    byteLines (encode (lines.flatMap (· ++ ['\n']))) = lines.map encode := by
  induction lines with
  | nil => rw [List.flatMap_nil, encode_eq_flatMap, List.flatMap_nil, byteLines, List.map_nil]
  | cons l lines ih =>
    obtain ⟨hfeed, hreturn⟩ := h l (by simp)
    have hend : encode ['\n'] = [10] := by rw [encode_eq_flatMap]; rfl
    have hrest := ih (fun m hm => h m (by simp [hm]))
    rw [List.flatMap_cons, encode_append, encode_append, hend, List.append_assoc,
      List.singleton_append, byteLines_append _ _ (not_mem_encode (by decide) (by decide) hfeed)
      (not_mem_encode (by decide) (by decide) hreturn), hrest, List.map_cons]

end PostfixCalc.Text
