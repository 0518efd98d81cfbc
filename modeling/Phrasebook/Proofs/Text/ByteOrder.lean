import Mathlib

/-!
# The order of bytes

Texts are compared by their characters, and this is the same as comparing their bytes
(`bytes_lt_iff`): the first byte of a character tells how many bytes it has, more bytes stand for a
greater number, and among characters with equally many bytes those carry the digits of the number to
the base 64, the leading one first (`utf8EncodeChar_append_lt`).
-/

namespace Phrasebook.Text

open String

def bytes (text : String) : List UInt8 := text.toUTF8.data.toList

theorem bytes_eq_flatMap (text : String) : bytes text = text.toList.flatMap utf8EncodeChar := by
  rw [bytes, String.toUTF8_eq_toByteArray, ← String.utf8Encode_toList, List.utf8Encode,
    List.toList_data_toByteArray]

/-- Of two characters with four bytes the smaller one has the smaller bytes. -/
theorem four_bytes_append_lt {m n : ℕ} (less : m < n) (last : n < 0x110000) (x y : List UInt8) :
    [UInt8.ofNat (m / 262144 % 8 + 240), UInt8.ofNat (m / 4096 % 64 + 128),
        UInt8.ofNat (m / 64 % 64 + 128), UInt8.ofNat (m % 64 + 128)] ++ x <
      [UInt8.ofNat (n / 262144 % 8 + 240), UInt8.ofNat (n / 4096 % 64 + 128),
        UInt8.ofNat (n / 64 % 64 + 128), UInt8.ofNat (n % 64 + 128)] ++ y := by
  simp only [List.cons_append, List.nil_append, List.cons_lt_cons_iff, UInt8.lt_iff_toNat_lt,
    ← UInt8.toNat_inj, UInt8.toNat_ofNat']
  -- The first byte that differs is the first digit that differs.
  by_cases first : m / 262144 = n / 262144
  · apply Or.inr
    refine ⟨by omega, ?_⟩
    by_cases second : m / 4096 % 64 = n / 4096 % 64
    · apply Or.inr
      refine ⟨by omega, ?_⟩
      by_cases third : m / 64 % 64 = n / 64 % 64
      · apply Or.inr
        exact ⟨by omega, Or.inl (by omega)⟩
      · exact Or.inl (by omega)
    · exact Or.inl (by omega)
  · exact Or.inl (by omega)

/-- A smaller character has smaller bytes, whatever bytes follow. -/
theorem utf8EncodeChar_append_lt {c d : Char} (less : c < d) (x y : List UInt8) :
    utf8EncodeChar c ++ x < utf8EncodeChar d ++ y := by
  have numbers : c.val.toNat < d.val.toNat := less
  have last : d.val.toNat < 0x110000 := by
    rcases d.valid with low | high
    · exact low.trans (by decide)
    · exact high.2
  rw [utf8EncodeChar.eq_1, utf8EncodeChar.eq_1]
  generalize c.val.toNat = m at *
  generalize d.val.toNat = n at *
  by_cases long : 65535 < m
  · rw [if_neg (by omega), if_neg (by omega), if_neg (by omega), if_neg (by omega),
      if_neg (by omega), if_neg (by omega)]
    exact four_bytes_append_lt numbers last x y
  · split_ifs <;>
      simp only [List.cons_append, List.nil_append, List.cons_lt_cons_iff, UInt8.lt_iff_toNat_lt,
        ← UInt8.toNat_inj, UInt8.toNat_ofNat'] <;>
      omega

theorem flatMap_utf8EncodeChar_lt {text other : List Char} (less : text < other) :
    text.flatMap utf8EncodeChar < other.flatMap utf8EncodeChar := by
  induction less with
  | @nil c rest =>
      rw [List.flatMap_nil, List.flatMap_cons]
      obtain ⟨first, others, split⟩ := List.exists_cons_of_ne_nil (@utf8EncodeChar_ne_nil c)
      rw [split]
      exact List.nil_lt_cons _ _
  | rel first => exact utf8EncodeChar_append_lt first _ _
  | cons rest ih => exact List.append_left_lt ih

/-- Texts are in the order of their bytes. -/
theorem bytes_lt_iff {text other : String} : bytes text < bytes other ↔ text < other := by
  have forward : ∀ {text other : String}, text < other → bytes text < bytes other := by
    intro text other less
    rw [bytes_eq_flatMap, bytes_eq_flatMap]
    exact flatMap_utf8EncodeChar_lt (String.lt_iff_toList_lt.mp less)
  refine ⟨fun less => ?_, forward⟩
  rcases lt_trichotomy text other with before | same | behind
  · exact before
  · exact absurd less (same ▸ List.lt_irrefl _)
  · exact absurd less (List.lt_asymm (forward behind))

end Phrasebook.Text
