/-
  Reading back the bytes of a text.

  The first byte of a character says how many follow and which second byte may come, and
  each further one adds its six bits, so the reader takes the bytes of a character for
  just that character, whatever follows (`pieces_utf8EncodeChar`). The bytes of a text are
  therefore read as the text (`decode?_encode`).
-/
import GoEnum.Proofs.Text.Lines
import GoEnum.Proofs.Text.Utf8

namespace GoEnum.Text.Utf8

variable {b : UInt8} {p : Pending}

/-! ### First bytes -/

theorem piecesFrom_one (h : b.toNat < 0x80) (rest : List UInt8) :
    piecesFrom none (b :: rest) = .char (Char.ofNat b.toNat) :: piecesFrom none rest := by
  rw [piecesFrom, start]
  rw [if_pos h]

theorem piecesFrom_two (h : 0xC2 ≤ b.toNat ∧ b.toNat ≤ 0xDF) (rest : List UInt8) :
    piecesFrom none (b :: rest) = piecesFrom (some ⟨[b], 1, 0x80, 0xBF, b.toNat - 0xC0⟩) rest := by
  rw [piecesFrom, start]
  rw [if_neg (by omega), if_pos h]

theorem piecesFrom_three (h : 0xE0 ≤ b.toNat ∧ b.toNat ≤ 0xEF) (rest : List UInt8) :
    piecesFrom none (b :: rest) =
      piecesFrom (some ⟨[b], 2, if b.toNat = 0xE0 then 0xA0 else 0x80,
        if b.toNat = 0xED then 0x9F else 0xBF, b.toNat - 0xE0⟩) rest := by
  rw [piecesFrom, start]
  rw [if_neg (by omega), if_neg (by omega)]
  by_cases hfirst : b.toNat = 0xE0
  · simp [hfirst]
  · by_cases hlast : b.toNat = 0xED
    · simp [hlast]
    · simp only [if_neg hfirst, if_neg hlast]
      rw [if_pos (by omega)]

theorem piecesFrom_four (h : 0xF0 ≤ b.toNat ∧ b.toNat ≤ 0xF4) (rest : List UInt8) :
    piecesFrom none (b :: rest) =
      piecesFrom (some ⟨[b], 3, if b.toNat = 0xF0 then 0x90 else 0x80,
        if b.toNat = 0xF4 then 0x8F else 0xBF, b.toNat - 0xF0⟩) rest := by
  rw [piecesFrom, start]
  rw [if_neg (by omega), if_neg (by omega), if_neg (by omega), if_neg (by omega),
    if_neg (by omega)]
  by_cases hfirst : b.toNat = 0xF0
  · simp [hfirst]
  · by_cases hlast : b.toNat = 0xF4
    · simp [hlast]
    · simp only [if_neg hfirst, if_neg hlast]
      rw [if_pos (by omega)]

/-! ### Further bytes -/

theorem piecesFrom_last (hmissing : p.missing = 1) (h : p.least ≤ b.toNat ∧ b.toNat ≤ p.greatest)
    (rest : List UInt8) :
    piecesFrom (some p) (b :: rest) =
      .char (Char.ofNat (p.code * 64 + (b.toNat - 0x80))) :: piecesFrom none rest := by
  rw [piecesFrom, Pending.add?]
  dsimp only
  rw [if_pos h, if_pos (by omega)]

theorem piecesFrom_further (hmissing : 1 < p.missing)
    (h : p.least ≤ b.toNat ∧ b.toNat ≤ p.greatest) (rest : List UInt8) :
    piecesFrom (some p) (b :: rest) =
      piecesFrom (some ⟨p.bytes ++ [b], p.missing - 1, 0x80, 0xBF,
        p.code * 64 + (b.toNat - 0x80)⟩) rest := by
  rw [piecesFrom, Pending.add?]
  dsimp only
  rw [if_pos h, if_neg (by omega)]

/-! ### Characters and texts -/

theorem toNat_ofNat_of_lt {n : Nat} (h : n < 0x100) : (UInt8.ofNat n).toNat = n := by
  rw [UInt8.toNat_ofNat']
  exact Nat.mod_eq_of_lt h

/-- The bytes of a character are one piece. -/
theorem pieces_utf8EncodeChar (c : Char) (rest : List UInt8) :
    pieces (String.utf8EncodeChar c ++ rest) = .char c :: pieces rest := by
  have hvalid : c.val.toNat < 0xD800 ∨ 0xDFFF < c.val.toNat ∧ c.val.toNat < 0x110000 := c.valid
  have hchar : Char.ofNat c.val.toNat = c := Char.ofNat_toNat c
  unfold String.utf8EncodeChar
  generalize c.val.toNat = n at *
  subst hchar
  dsimp only
  unfold pieces
  split_ifs with hone htwo hthree <;> simp only [List.cons_append, List.nil_append]
  · have hb := toNat_ofNat_of_lt (n := n) (by omega)
    rw [piecesFrom_one (by omega), hb]
  · have hb := toNat_ofNat_of_lt (n := n / 64 % 32 + 192) (by omega)
    have hd := toNat_ofNat_of_lt (n := n % 64 + 128) (by omega)
    rw [piecesFrom_two (by omega), piecesFrom_last rfl (by dsimp only; omega)]
    have hcode : (n / 64 % 32 + 192 - 0xC0) * 64 + (n % 64 + 128 - 0x80) = n := by omega
    rw [hb, hd, hcode]
  · have hb := toNat_ofNat_of_lt (n := n / 4096 % 16 + 224) (by omega)
    have hd := toNat_ofNat_of_lt (n := n / 64 % 64 + 128) (by omega)
    have he := toNat_ofNat_of_lt (n := n % 64 + 128) (by omega)
    rw [piecesFrom_three (by omega), piecesFrom_further (by dsimp only; omega)
      (by dsimp only; split_ifs <;> omega), piecesFrom_last rfl (by dsimp only; omega)]
    have hcode : ((n / 4096 % 16 + 224 - 0xE0) * 64 + (n / 64 % 64 + 128 - 0x80)) * 64
        + (n % 64 + 128 - 0x80) = n := by
      omega
    dsimp only
    rw [hb, hd, he, hcode]
  · have hb := toNat_ofNat_of_lt (n := n / 262144 % 8 + 240) (by omega)
    have hd := toNat_ofNat_of_lt (n := n / 4096 % 64 + 128) (by omega)
    have he := toNat_ofNat_of_lt (n := n / 64 % 64 + 128) (by omega)
    have hf := toNat_ofNat_of_lt (n := n % 64 + 128) (by omega)
    rw [piecesFrom_four (by omega), piecesFrom_further (by dsimp only; omega)
      (by dsimp only; split_ifs <;> omega), piecesFrom_further (by dsimp only; omega)
      (by dsimp only; omega), piecesFrom_last rfl (by dsimp only; omega)]
    have hcode : (((n / 262144 % 8 + 240 - 0xF0) * 64 + (n / 4096 % 64 + 128 - 0x80)) * 64
        + (n / 64 % 64 + 128 - 0x80)) * 64 + (n % 64 + 128 - 0x80) = n := by
      omega
    dsimp only
    rw [hb, hd, he, hf, hcode]

theorem pieces_flatMap_utf8EncodeChar (cs : List Char) :
    pieces (cs.flatMap String.utf8EncodeChar) = cs.map .char := by
  induction cs with
  | nil => rfl
  | cons c cs ih => rw [List.flatMap_cons, pieces_utf8EncodeChar, ih, List.map_cons]

/-- The bytes of a text are read as the text. -/
theorem decode?_encode (s : String) : decode? (encode s) = some s := by
  have hread : (s.toList.map Piece.char).mapM Piece.char? = some (s.toList.map id) :=
    mapM_map_eq_some fun _ _ => rfl
  rw [decode?, encode, pieces_flatMap_utf8EncodeChar, hread, List.map_id, Option.map_some,
    String.ofList_toList]

end GoEnum.Text.Utf8
