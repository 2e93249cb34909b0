import Mathlib.Data.UInt
import Mathlib.Data.String.Basic

/-!
# The order of texts is that of their bytes

Texts are compared code point by code point.  The encoding of a code point begins with a byte that tells
how long it is, longer ones are for greater code points, and of two equally long encodings the greater one
is that of the greater code point.  So comparing the bytes gives the same order.
-/

set_option autoImplicit false

namespace Sightline

/-- The bytes of a text. -/
def bytesOf (text : String) : List UInt8 := text.toUTF8.data.toList

theorem bytesOf_eq (text : String) : bytesOf text = text.toList.flatMap String.utf8EncodeChar := by
  have encoded : text.toList.utf8Encode = text.toUTF8 := String.utf8Encode_toList
  rw [bytesOf, ← encoded, List.utf8Encode, List.toList_data_toByteArray]

theorem encoding_lt {c d : Char} (less : c < d) (rest others : List UInt8) :
    String.utf8EncodeChar c ++ rest < String.utf8EncodeChar d ++ others := by
  have below : c.val.toNat < d.val.toNat := less
  have limit : d.val.toNat < 0x110000 := by
    rcases d.valid with low | high
    · exact Nat.lt_trans low (by decide)
    · exact high.2
  unfold String.utf8EncodeChar
  generalize c.val.toNat = v at *
  generalize d.val.toNat = w at *
  dsimp only
  have quotients : ∀ n : Nat, n / 4096 = n / 64 / 64 ∧ n / 262144 = n / 64 / 64 / 64 := by omega
  -- A pair of lengths fixes the first bytes, or else all bytes are digits of the code points in base 64.
  split_ifs
  all_goals
    simp only [List.cons_append, List.nil_append, List.cons_lt_cons_iff, UInt8.lt_iff_toNat_lt,
      ← UInt8.toNat_inj, UInt8.toNat_ofNat', quotients]
    simp (disch := omega) only [Nat.mod_eq_of_lt]
    omega

theorem append_lt_append {first second : List UInt8} (common : List UInt8) (less : first < second) :
    common ++ first < common ++ second := by
  induction common with
  | nil => exact less
  | cons byte common ih => exact List.cons_lt_cons_iff.2 (.inr ⟨rfl, ih⟩)

theorem encodings_lt {first second : List Char} (less : first < second) :
    first.flatMap String.utf8EncodeChar < second.flatMap String.utf8EncodeChar := by
  induction less with
  | @nil c rest =>
      rw [List.flatMap_cons, List.flatMap_nil]
      cases encoding : String.utf8EncodeChar c with
      | nil => exact absurd encoding String.utf8EncodeChar_ne_nil
      | cons byte bytes => exact List.nil_lt_cons byte _
  | @cons c rest others _ ih =>
      rw [List.flatMap_cons, List.flatMap_cons]
      exact append_lt_append _ ih
  | @rel c rest d others before =>
      rw [List.flatMap_cons, List.flatMap_cons]
      exact encoding_lt before _ _

theorem bytesOf_lt {first second : String} (less : first < second) : bytesOf first < bytesOf second := by
  rw [bytesOf_eq, bytesOf_eq]
  exact encodings_lt less

end Sightline
