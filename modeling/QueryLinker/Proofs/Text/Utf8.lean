import Mathlib.Tactic.Common
import QueryLinker.Files.Tree

/-!
This module contains that plain texts are read as they were written: the bytes of a text of ASCII
characters stand for the text, and are read from a file without a change if there are no returns
among them.
-/

namespace QueryLinker

namespace Text

theorem toList_eq_data (bytes : ByteArray) : bytes.toList = bytes.data.toList := by
  have hloop (i : Nat) (found : List UInt8) :
      ByteArray.toList.loop bytes i found = found.reverse ++ bytes.data.toList.drop i := by
    fun_induction ByteArray.toList.loop bytes i found with
    | case1 i found h ih =>
      have hlength : i < bytes.data.toList.length := h
      have hget : bytes.get! i = bytes.data.toList[i] := by
        change bytes.data[i]! = _
        rw [getElem!_pos bytes.data i h, Array.getElem_toList]
      rw [ih, List.reverse_cons, List.append_assoc, List.drop_eq_getElem_cons hlength, hget]
      rfl
    | case2 i found h =>
      have hlength : bytes.data.toList.length ≤ i := Nat.le_of_not_lt h
      rw [List.drop_eq_nil_of_le hlength, List.append_nil]
  rw [ByteArray.toList, hloop 0 []]
  rfl

def isAscii (c : Char) : Bool :=
  c.toNat < 0x80

theorem toList_toUTF8 {s : String} (h : s.toList.all isAscii) :
    s.toUTF8.toList = s.toList.map fun c => UInt8.ofNat c.toNat := by
  have hbytes : s.toUTF8 = s.toList.utf8Encode := String.utf8Encode_toList.symm
  rw [toList_eq_data, hbytes, List.utf8Encode, List.toList_data_toByteArray,
    List.map_eq_flatMap, List.flatMap_def, List.flatMap_def]
  refine congrArg List.flatten (List.map_congr_left fun c hc => ?_)
  have hascii : c.toNat < 0x80 := of_decide_eq_true (List.all_eq_true.mp h c hc)
  exact if_pos (Nat.le_of_lt_succ hascii)

namespace Utf8

theorem decodeFrom_ascii {cs : List Char} (h : cs.all isAscii) (offset : Nat) (done : List Char) :
    decodeFrom offset done (cs.map fun c => UInt8.ofNat c.toNat) = .ok (done.reverse ++ cs) := by
  induction cs generalizing offset done with
  | nil => rw [List.map_nil, decodeFrom, List.append_nil]
  | cons c cs ih =>
    rw [List.all_cons, Bool.and_eq_true] at h
    have hascii : c.toNat < 0x80 := of_decide_eq_true h.1
    have hbyte : (UInt8.ofNat c.toNat).toNat = c.toNat := by
      rw [UInt8.toNat_ofNat', Nat.mod_eq_of_lt (by omega)]
    have hlead : lead? (UInt8.ofNat c.toNat) = some ⟨0, 0x80, 0xBF, c.toNat⟩ := by
      unfold lead?
      rw [hbyte]
      exact if_pos hascii
    rw [List.map_cons, decodeFrom, hlead]
    dsimp only [readTails]
    rw [List.drop_zero, ih h.2, Char.ofNat_toNat, List.reverse_cons, List.append_assoc]
    rfl

theorem decode_toUTF8 {s : String} (h : s.toList.all isAscii) : decode s.toUTF8 = .ok s := by
  rw [decode, toList_toUTF8 h, decodeFrom_ascii h, List.reverse_nil, List.nil_append]
  exact congrArg Except.ok String.ofList_toList

end Utf8

theorem unifyNewlines_of_not_mem {cs : List Char} (h : '\r' ∉ cs) : unifyNewlines cs = cs := by
  induction cs with
  | nil => rfl
  | cons c cs ih =>
    rw [List.mem_cons, not_or] at h
    have hc : (c == '\r') = false := beq_eq_false_iff_ne.mpr (Ne.symm h.1)
    unfold unifyNewlines
    split
    next heq => cases heq
    next heq =>
      cases heq
      exact absurd rfl h.1
    next c' cs' _ heq =>
      cases heq
      rw [hc, ih h.2]
      rfl

end Text

theorem textOfBytes_toUTF8 {s : String} (h : s.toList.all Text.isAscii)
    (hreturn : '\r' ∉ s.toList) : textOfBytes s.toUTF8 = .ok s := by
  rw [textOfBytes, Text.Utf8.decode_toUTF8 h]
  change Except.ok (String.ofList (Text.unifyNewlines s.toList)) = _
  rw [Text.unifyNewlines_of_not_mem hreturn, String.ofList_toList]

end QueryLinker
