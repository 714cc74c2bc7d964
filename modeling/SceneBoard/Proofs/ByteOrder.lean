import Mathlib.Data.String.Basic

/-!
# The order of bytes

Texts are ordered by their characters, and a file system orders names by their bytes. The two orders
are the same (`Text.bytes_lt_iff`): where two texts differ first, the bytes of the lesser character
differ from those of the other one at some place, and have the lesser byte there.
-/

namespace SceneBoard.Text

/-- The bytes of a text. -/
def bytes (s : String) : List UInt8 :=
  s.toUTF8.data.toList

/-- Two runs of bytes differ, and where they differ first the first run has the lesser byte. -/
inductive Precedes : List UInt8 → List UInt8 → Prop
  | head {a b : UInt8} {u v : List UInt8} (h : a < b) : Precedes (a :: u) (b :: v)
  | tail {a : UInt8} {u v : List UInt8} (h : Precedes u v) : Precedes (a :: u) (a :: v)

/-- What follows does not matter. -/
theorem Precedes.append_lt {u v : List UInt8} (h : Precedes u v) (s t : List UInt8) :
    u ++ s < v ++ t := by
  induction h with
  | head h => exact .rel h
  | tail _ ih => exact .cons ih

/-- A smaller first byte comes first. -/
private theorem precedes_of_lt {m n : Nat} {u v : List UInt8} (hn : n < 256) (h : m < n) :
    Precedes (UInt8.ofNat m :: u) (UInt8.ofNat n :: v) := by
  refine .head ?_
  rw [UInt8.lt_iff_toNat_lt, UInt8.toNat_ofNat', UInt8.toNat_ofNat']
  omega

/-- A first byte that is no greater, and the rest in order if it is the same. -/
private theorem precedes_of_le {m n : Nat} {u v : List UInt8} (hn : n < 256) (hle : m ≤ n)
    (h : m = n → Precedes u v) : Precedes (UInt8.ofNat m :: u) (UInt8.ofNat n :: v) := by
  rcases Nat.lt_or_eq_of_le hle with hlt | rfl
  · exact precedes_of_lt hn hlt
  · exact .tail (h rfl)

section

variable {m n : Nat} (hlt : m < n)

include hlt

/-- Characters whose bytes differ in the last one only. -/
private theorem precedes_last (h : m / 64 = n / 64) :
    Precedes [UInt8.ofNat (m % 64 + 0x80)] [UInt8.ofNat (n % 64 + 0x80)] :=
  precedes_of_lt (by omega) (by omega)

/-- The last two bytes of a character, when those before are the same. -/
private theorem precedes_last_two (h : m / 4096 = n / 4096) :
    Precedes [UInt8.ofNat (m / 64 % 64 + 0x80), UInt8.ofNat (m % 64 + 0x80)]
      [UInt8.ofNat (n / 64 % 64 + 0x80), UInt8.ofNat (n % 64 + 0x80)] :=
  precedes_of_le (by omega) (by omega) fun _ => precedes_last hlt (by omega)

/-- The last three bytes of a character, when the first one is the same. -/
private theorem precedes_last_three (h : m / 262144 = n / 262144) :
    Precedes [UInt8.ofNat (m / 4096 % 64 + 0x80), UInt8.ofNat (m / 64 % 64 + 0x80),
        UInt8.ofNat (m % 64 + 0x80)]
      [UInt8.ofNat (n / 4096 % 64 + 0x80), UInt8.ofNat (n / 64 % 64 + 0x80),
        UInt8.ofNat (n % 64 + 0x80)] :=
  precedes_of_le (by omega) (by omega) fun _ => precedes_last_two hlt (by omega)

end

/-- The bytes of a lesser character precede those of a greater one. -/
theorem precedes_utf8EncodeChar {a b : Char} (h : a < b) :
    Precedes (String.utf8EncodeChar a) (String.utf8EncodeChar b) := by
  have hlt : a.val.toNat < b.val.toNat := h
  have hb : b.val.toNat < 0x110000 := by
    rcases b.valid with hb | hb <;> omega
  generalize hm : a.val.toNat = m at hlt
  generalize hn : b.val.toNat = n at hlt hb
  simp only [String.utf8EncodeChar, hm, hn]
  -- if the characters have different numbers of bytes, the first bytes differ
  -- one byte against any number
  by_cases hone : m ≤ 0x7f
  · rw [if_pos hone]
    split_ifs <;> exact precedes_of_lt (by omega) (by omega)
  rw [if_neg hone, if_neg (by omega : ¬ n ≤ 0x7f)]
  -- two bytes against two or more
  by_cases htwo : m ≤ 0x7ff
  · rw [if_pos htwo]
    split_ifs
    · exact precedes_of_le (by omega) (by omega) fun _ => precedes_last hlt (by omega)
    all_goals exact precedes_of_lt (by omega) (by omega)
  rw [if_neg htwo, if_neg (by omega : ¬ n ≤ 0x7ff)]
  -- three bytes against three or four
  by_cases hthree : m ≤ 0xffff
  · rw [if_pos hthree]
    split_ifs
    · exact precedes_of_le (by omega) (by omega) fun _ => precedes_last_two hlt (by omega)
    · exact precedes_of_lt (by omega) (by omega)
  rw [if_neg hthree, if_neg (by omega : ¬ n ≤ 0xffff)]
  exact precedes_of_le (by omega) (by omega) fun _ => precedes_last_three hlt (by omega)

/-- The order of texts is that of their bytes, character by character. -/
private theorem flatMap_utf8EncodeChar_lt {cs ds : List Char} (h : cs < ds) :
    cs.flatMap String.utf8EncodeChar < ds.flatMap String.utf8EncodeChar := by
  induction h with
  -- the shorter text ends first
  | nil =>
    rename_i d ds
    obtain ⟨x, xs, hxs⟩ := List.exists_cons_of_ne_nil (@String.utf8EncodeChar_ne_nil d)
    rw [List.flatMap_nil, List.flatMap_cons, hxs]
    exact .nil
  | rel h =>
    -- the characters differ, and so do their bytes
    rw [List.flatMap_cons, List.flatMap_cons]
    exact (precedes_utf8EncodeChar h).append_lt _ _
  | cons _ ih =>
    rw [List.flatMap_cons, List.flatMap_cons]
    exact List.Lex.append_left _ ih _

/-- The bytes of a text are those of its characters. -/
private theorem bytes_eq (s : String) : bytes s = s.toList.flatMap String.utf8EncodeChar := by
  have hbytes : s.toUTF8 = s.toList.utf8Encode := String.utf8Encode_toList.symm
  rw [bytes, hbytes, List.utf8Encode, List.toList_data_toByteArray]

/-- The bytes of two texts are in the order of the texts. -/
theorem bytes_lt_iff {s t : String} : bytes s < bytes t ↔ s < t := by
  have hmono {s t : String} (h : s < t) : bytes s < bytes t := by
    rw [bytes_eq, bytes_eq]
    exact flatMap_utf8EncodeChar_lt (String.lt_iff_toList_lt.1 h)
  refine ⟨fun h => ?_, hmono⟩
  -- of two texts one comes first, or they are the same
  rcases lt_trichotomy s t with hlt | rfl | hgt
  · exact hlt
  · exact absurd h (List.lt_irrefl _)
  · exact absurd (hmono hgt) (List.lt_asymm h)

/-- The same order, equal texts included. -/
theorem bytes_le_iff {s t : String} : bytes s ≤ bytes t ↔ s ≤ t := by
  rw [← List.not_lt, bytes_lt_iff, not_lt]

end SceneBoard.Text
