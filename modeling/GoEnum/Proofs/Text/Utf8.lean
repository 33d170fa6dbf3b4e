/-
  The bytes of a text.

  A text is known by its bytes (`encode_injective`). A byte below `0x80` is the
  code of a character and never a part of another one (`mem_of_mem_encode`), so what
  separates parts of a path, or ends it, does not hide in the letters of a name.
-/
import GoEnum.Text.Utf8
import Mathlib.Logic.Function.Basic
import Mathlib.Tactic.SplitIfs

namespace GoEnum.Text.Utf8

theorem toByteArray_encode (s : String) : (encode s).toByteArray = s.toList.utf8Encode :=
  rfl

/-- Different texts have different bytes. -/
theorem encode_injective : Function.Injective encode := by
  intro s t h
  have hbytes : s.toList.utf8Encode = t.toList.utf8Encode := by
    rw [← toByteArray_encode, ← toByteArray_encode, h]
  have hchars := congrArg ByteArray.utf8Decode? hbytes
  rw [List.utf8Decode?_utf8Encode, List.utf8Decode?_utf8Encode] at hchars
  exact String.toList_inj.mp (by simpa using hchars)

@[simp] theorem encode_eq_nil_iff {s : String} : encode s = [] ↔ s = "" := by
  constructor
  · intro h
    exact encode_injective (h.trans rfl)
  · rintro rfl
    rfl

/-- A byte below `0x80` in the spelling of a character is its code. -/
theorem toNat_of_mem_utf8EncodeChar {b : UInt8} {c : Char} (h : b ∈ String.utf8EncodeChar c)
    (hb : b.toNat < 0x80) : c.toNat = b.toNat := by
  unfold String.utf8EncodeChar at h
  dsimp only at h
  -- Only the spelling by one byte has a byte below `0x80`; the others have marks in each byte.
  split_ifs at h with hone htwo hthree <;>
    simp only [List.mem_cons, List.not_mem_nil, or_false] at h
  · have hcode : b.toNat = c.val.toNat % 256 := by rw [h, UInt8.toNat_ofNat']
    unfold Char.toNat
    omega
  · rcases h with rfl | rfl <;> simp only [UInt8.toNat_ofNat'] at hb <;> omega
  · rcases h with rfl | rfl | rfl <;> simp only [UInt8.toNat_ofNat'] at hb <;> omega
  · rcases h with rfl | rfl | rfl | rfl <;> simp only [UInt8.toNat_ofNat'] at hb <;> omega

/-- A byte below `0x80` is the code of a character of the text. -/
theorem mem_of_mem_encode {b : UInt8} {s : String} (h : b ∈ encode s) (hb : b.toNat < 0x80) :
    Char.ofNat b.toNat ∈ s.toList := by
  obtain ⟨c, hc, hmem⟩ := List.mem_flatMap.mp h
  rwa [← toNat_of_mem_utf8EncodeChar hmem hb, Char.ofNat_toNat]

end GoEnum.Text.Utf8
