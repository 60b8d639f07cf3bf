import Mathlib.Data.Nat.Notation
import OperandSearch.Bytes

/-!
# Texts as bytes

A text is encoded character by character (`ofText_eq_flatMap`).  A character of ASCII is one byte,
its own number, and every byte of another character lies above ASCII
(`toNat_of_mem_utf8EncodeChar`).  So what is asked of a text about characters of ASCII can be asked
of its bytes, which is how lines and digits are told in bytes.
-/

namespace OperandSearch
namespace Bytes

/-- The bytes of a text. -/
def ofText (text : String) : List UInt8 :=
  text.toUTF8.data.toList

theorem text?_eq_some_iff {bytes : List UInt8} {text : String} :
    text? bytes = some text ↔ bytes = ofText text := by
  rw [text?, String.fromUTF8?]
  constructor
  · intro h
    split at h
    · cases h
      rfl
    · cases h
  · rintro rfl
    exact dif_pos text.isValidUTF8

/-- Bytes that encode no text are the bytes of none. -/
theorem text?_eq_none_iff {bytes : List UInt8} :
    text? bytes = none ↔ ∀ text, bytes ≠ ofText text := by
  simp only [Option.eq_none_iff_forall_ne_some, ne_eq, text?_eq_some_iff]

theorem ofText_append (front back : String) :
    ofText (front ++ back) = ofText front ++ ofText back := by
  simp [ofText]

theorem ofText_eq_flatMap (text : String) :
    ofText text = text.toList.flatMap String.utf8EncodeChar := by
  rw [ofText, String.toUTF8_eq_toByteArray, ← String.ofList_toList (s := text),
    String.toByteArray_ofList, String.toList_ofList]
  simp [List.utf8Encode]

/-- A character of ASCII is one byte, and all bytes of any other are above ASCII. -/
theorem toNat_of_mem_utf8EncodeChar {c : Char} {b : UInt8} (h : b ∈ String.utf8EncodeChar c) :
    b.toNat = c.val.toNat ∨ 0x80 ≤ b.toNat := by
  simp only [String.utf8EncodeChar] at h
  split at h
  · rw [List.mem_singleton] at h
    rw [h, UInt8.toNat_ofNat', Nat.mod_eq_of_lt (by omega)]
    exact .inl rfl
  · -- the leading byte and those that continue it have their highest bit set
    have high (n : ℕ) (hn : n < 0x80) : 0x80 ≤ (UInt8.ofNat (n + 0x80)).toNat := by
      rw [UInt8.toNat_ofNat']
      omega
    right
    split at h
    · simp only [List.mem_cons, List.not_mem_nil, or_false] at h
      rcases h with rfl | rfl
      · exact high (_ + 0x40) (by omega)
      · exact high _ (by omega)
    split at h
    · simp only [List.mem_cons, List.not_mem_nil, or_false] at h
      rcases h with rfl | rfl | rfl
      · exact high (_ + 0x60) (by omega)
      · exact high _ (by omega)
      · exact high _ (by omega)
    · simp only [List.mem_cons, List.not_mem_nil, or_false] at h
      rcases h with rfl | rfl | rfl | rfl
      · exact high (_ + 0x70) (by omega)
      · exact high _ (by omega)
      · exact high _ (by omega)
      · exact high _ (by omega)

end Bytes
end OperandSearch
