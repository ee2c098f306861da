import Mathlib
import HookGate.Text.Utf8

/-!
# Bytes of texts

The bytes of a text are those of its characters, one after the other, and a line feed among them
comes from a character that is one. Texts stand in the order of their bytes.
-/

namespace HookGate.Text

theorem toList_loop (bytes : ByteArray) (i : Nat) (seen : List UInt8) :
    ByteArray.toList.loop bytes i seen = seen.reverse ++ bytes.data.toList.drop i := by
  induction hleft : bytes.size - i generalizing i seen with
  | zero =>
    have hend : ¬ i < bytes.size := by omega
    rw [ByteArray.toList.loop.eq_def, if_neg hend]
    have hdrop : bytes.data.toList.drop i = [] := by
      rw [List.drop_eq_nil_iff, Array.length_toList]
      exact Nat.le_of_not_lt hend
    rw [hdrop, List.append_nil]
  | succ n ih =>
    have hmore : i < bytes.size := by omega
    rw [ByteArray.toList.loop.eq_def, if_pos hmore, ih (i + 1) _ (by omega)]
    have hlen : i < bytes.data.toList.length := by
      rw [Array.length_toList]
      exact hmore
    rw [List.drop_eq_getElem_cons hlen, List.reverse_cons, List.append_assoc, List.singleton_append]
    have hget : bytes.get! i = bytes.data.toList[i] := by
      rw [ByteArray.get!, getElem!_pos bytes.data i hmore, Array.getElem_toList]
    rw [hget]

theorem encode_eq_flatMap (s : String) : encode s = s.toList.flatMap String.utf8EncodeChar := by
  rw [encode, ByteArray.toList, toList_loop, List.reverse_nil, List.nil_append, List.drop_zero]
  have hbytes : s.toUTF8 = s.toList.utf8Encode := by
    rw [← String.toByteArray_ofList, String.ofList_toList]
    rfl
  rw [hbytes, List.utf8Encode, List.toList_data_toByteArray]

theorem ofNat_lt_ofNat {m n : Nat} (hm : m < 256) (hn : n < 256) :
    UInt8.ofNat m < UInt8.ofNat n ↔ m < n := by
  rw [UInt8.lt_iff_toNat_lt, UInt8.toNat_ofNat_of_lt' hm, UInt8.toNat_ofNat_of_lt' hn]

theorem ofNat_eq_ofNat {m n : Nat} (hm : m < 256) (hn : n < 256) :
    UInt8.ofNat m = UInt8.ofNat n ↔ m = n := by
  rw [← UInt8.toNat_inj, UInt8.toNat_ofNat_of_lt' hm, UInt8.toNat_ofNat_of_lt' hn]

/-- The last digit decides between numbers only if those before it are the same. -/
theorem digits_lt {m n : Nat} (h : m < n) : m / 64 < n / 64 ∨ m / 64 = n / 64 ∧ m % 64 < n % 64 := by
  omega

/-- Of two characters the smaller one has the smaller bytes, whatever follows them. -/
theorem utf8EncodeChar_append_lt {c d : Char} (h : c < d) (s t : List UInt8) :
    String.utf8EncodeChar c ++ s < String.utf8EncodeChar d ++ t := by
  have hlt : c.val.toNat < d.val.toNat := h
  have hd : d.val.toNat < 0x110000 := by
    have hvalid := d.valid
    simp only [UInt32.isValidChar, Nat.isValidChar] at hvalid
    omega
  rw [String.utf8EncodeChar, String.utf8EncodeChar]
  generalize c.val.toNat = m at hlt
  generalize d.val.toNat = n at hlt hd
  have hsecond (k : Nat) : k / 4096 = k / 64 / 64 := by omega
  have hthird (k : Nat) : k / 262144 = k / 64 / 64 / 64 := by omega
  -- A longer form begins with a larger byte, and forms of one length are compared digit by digit.
  split_ifs <;>
    simp (disch := omega) only [List.cons_append, List.nil_append, List.cons_lt_cons_iff, ofNat_lt_ofNat,
      ofNat_eq_ofNat, hsecond, hthird]
  all_goals
    have hdigit := digits_lt hlt
    have hnext := digits_lt (m := m / 64) (n := n / 64)
    have hlast := digits_lt (m := m / 64 / 64) (n := n / 64 / 64)
    omega

theorem utf8Encode_lt {cs ds : List Char} (h : cs < ds) :
    cs.flatMap String.utf8EncodeChar < ds.flatMap String.utf8EncodeChar := by
  induction h with
  | @nil d ds =>
    obtain ⟨b, bytes, hd⟩ := List.exists_cons_of_ne_nil (String.utf8EncodeChar_ne_nil (c := d))
    rw [List.flatMap_nil, List.flatMap_cons, hd]
    exact List.nil_lt_cons _ _
  | cons _ ih => exact List.append_left_lt ih
  | rel hcd => exact utf8EncodeChar_append_lt hcd _ _

/-- The order of texts is that of their bytes. -/
theorem encode_lt_encode {s t : String} : encode s < encode t ↔ s < t := by
  have hmono {s t : String} (h : s < t) : encode s < encode t := by
    rw [encode_eq_flatMap, encode_eq_flatMap]
    exact utf8Encode_lt (String.lt_iff_toList_lt.mp h)
  refine ⟨fun h => ?_, hmono⟩
  rcases lt_trichotomy s t with hst | rfl | hts
  · exact hst
  · exact absurd h (List.lt_irrefl _)
  · exact absurd h (List.lt_asymm (hmono hts))

end HookGate.Text
