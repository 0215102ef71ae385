/-
The order of texts and the order of their bytes. Texts are compared character
by character, and they stand in the same order as their bytes in UTF-8
(`lt_iff_bytes_lt`). So a list of texts that ascends is in byte order.

Two different characters are told apart within their own bytes, whatever
follows them (`utf8EncodeChar_append_lt`). If one of them has fewer bytes, its
first byte is smaller. Otherwise the first byte gives the highest digits of the
code to base 64, and every other byte gives one more digit.
-/
import Clearance.Text.Blank
import Mathlib.Data.String.Basic

namespace Clearance.Text

-- ============================================================ characters

/-- The last `k` digits of a code to base 64, as a character is continued
with them. -/
def digitBytes : Nat → Nat → List UInt8
  | 0, _ => []
  | k + 1, n => digitBytes k (n / 64) ++ [UInt8.ofNat (n % 64 + 128)]

/-- How many bytes follow the first one of a character. -/
def digitCount (n : Nat) : Nat :=
  if n ≤ 0x7F then 0 else if n ≤ 0x7FF then 1 else if n ≤ 0xFFFF then 2 else 3

/-- What marks the first byte of a character with `k` more bytes. -/
def marker (k : Nat) : Nat := [0, 0xC0, 0xE0, 0xF0].getD k 0

/-- The first byte of a character. -/
def leadByte (n : Nat) : Nat := n / 64 ^ digitCount n + marker (digitCount n)

theorem code_lt (c : Char) : c.val.toNat < 0x110000 := by
  rcases c.valid with h | h
  · exact lt_trans h (by decide)
  · exact h.2

theorem utf8EncodeChar_eq (c : Char) :
    String.utf8EncodeChar c
      = UInt8.ofNat (leadByte c.val.toNat)
          :: digitBytes (digitCount c.val.toNat) c.val.toNat := by
  have hbound := code_lt c
  unfold String.utf8EncodeChar leadByte digitCount
  generalize c.val.toNat = n at hbound
  dsimp only
  split
  · simp [digitBytes, marker]
  · split
    · simp [digitBytes, marker, show n / 64 % 32 = n / 64 by omega]
    · split
      · simp [digitBytes, marker, show n / 4096 % 16 = n / 4096 by omega]
      · simp [digitBytes, marker, show n / 262144 % 8 = n / 262144 by omega,
          Nat.div_div_eq_div_mul]

theorem leadByte_lt {n : Nat} (h : n < 0x110000) : leadByte n < 256 := by
  unfold leadByte digitCount
  split_ifs <;> simp [marker] <;> omega

/-- A character with fewer bytes has a smaller first byte. -/
theorem leadByte_lt_leadByte {m n : Nat} (h : m < n) (hcount : digitCount m ≠ digitCount n) :
    leadByte m < leadByte n := by
  unfold digitCount at hcount
  unfold leadByte digitCount
  split_ifs at hcount ⊢ <;> simp [marker] at hcount ⊢ <;> omega

theorem byte_lt {m n : Nat} (h : m < n) (hn : n < 256) : UInt8.ofNat m < UInt8.ofNat n := by
  rw [UInt8.lt_iff_toNat_lt, UInt8.toNat_ofNat_of_lt' (lt_trans h hn), UInt8.toNat_ofNat_of_lt' hn]
  exact h

/-- Of two codes the smaller one has the smaller high digits, or else its last
digits tell it apart. -/
theorem digitBytes_append_lt (k : Nat) {m n : Nat} (h : m < n) (xs ys : List UInt8) :
    m / 64 ^ k < n / 64 ^ k
      ∨ m / 64 ^ k = n / 64 ^ k ∧ digitBytes k m ++ xs < digitBytes k n ++ ys := by
  induction k generalizing m n xs ys with
  | zero => exact Or.inl (by simpa using h)
  | succ k ih =>
      simp only [digitBytes, List.append_assoc, List.singleton_append, Nat.pow_succ',
        ← Nat.div_div_eq_div_mul]
      by_cases hhigh : m / 64 < n / 64
      · exact ih hhigh _ _
      · have hsame : m / 64 = n / 64 := by omega
        have hlast : UInt8.ofNat (m % 64 + 128) < UInt8.ofNat (n % 64 + 128) :=
          byte_lt (by omega) (by omega)
        rw [hsame]
        exact Or.inr ⟨rfl, List.append_left_lt (List.cons_lt_cons_iff.2 (Or.inl hlast))⟩

/-- What tells two characters apart comes within their bytes. -/
theorem utf8EncodeChar_append_lt {c d : Char} (h : c < d) (xs ys : List UInt8) :
    String.utf8EncodeChar c ++ xs < String.utf8EncodeChar d ++ ys := by
  have hlt : c.val.toNat < d.val.toNat := h
  have hbyte : leadByte d.val.toNat < 256 := leadByte_lt (code_lt d)
  rw [utf8EncodeChar_eq, utf8EncodeChar_eq, List.cons_append, List.cons_append,
    List.cons_lt_cons_iff]
  by_cases hcount : digitCount c.val.toNat = digitCount d.val.toNat
  · have hdigits := digitBytes_append_lt (digitCount d.val.toNat) hlt xs ys
    unfold leadByte at hbyte ⊢
    rw [hcount]
    rcases hdigits with hhigh | ⟨hhigh, hlast⟩
    · exact Or.inl (byte_lt (Nat.add_lt_add_right hhigh _) hbyte)
    · exact Or.inr ⟨by rw [hhigh], hlast⟩
  · exact Or.inl (byte_lt (leadByte_lt_leadByte hlt hcount) hbyte)

-- ================================================================= texts

/-- The bytes of a text in UTF-8. -/
def bytes (s : String) : List UInt8 := s.toByteArray.data.toList

/-- They are those of its characters, one after another. -/
theorem bytes_eq (s : String) : bytes s = s.toList.flatMap String.utf8EncodeChar := by
  rw [bytes, ← String.utf8Encode_toList, List.utf8Encode, List.toList_data_toByteArray]

theorem flatMap_utf8EncodeChar_lt {cs ds : List Char} (h : cs < ds) :
    cs.flatMap String.utf8EncodeChar < ds.flatMap String.utf8EncodeChar := by
  induction h with
  | nil =>
      rw [List.flatMap_nil, List.flatMap_cons, utf8EncodeChar_eq]
      exact List.Lex.nil
  | cons _ ih => exact List.append_left_lt ih
  | rel h => exact utf8EncodeChar_append_lt h _ _

/-- Texts and their bytes stand in the same order. -/
theorem lt_iff_bytes_lt {s t : String} : s < t ↔ bytes s < bytes t := by
  have hmono : ∀ {s t : String}, s < t → bytes s < bytes t := by
    intro s t h
    rw [bytes_eq, bytes_eq]
    exact flatMap_utf8EncodeChar_lt (String.lt_iff_toList_lt.1 h)
  refine ⟨hmono, fun h => ?_⟩
  rcases lt_trichotomy s t with hlt | rfl | hgt
  · exact hlt
  · exact absurd h (List.lt_irrefl _)
  · exact absurd h (List.lt_asymm (hmono hgt))

end Clearance.Text
