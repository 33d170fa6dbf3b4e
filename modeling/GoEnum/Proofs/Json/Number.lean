/-
  Numbers are skipped to their end.

  A number ends where its grammar does, as long as no character follows that could
  continue it (`IsDelimited`): `skipNumber` takes all of it and nothing else
  (`takes_skipNumber`).
-/
import GoEnum.Json.Number
import GoEnum.Proofs.Json.Scan

namespace GoEnum.Json

/-- Whether a value may end before a text: at its end, or before white space, a comma or a closing
bracket. -/
def IsDelimited (text : List Char) : Prop :=
  ∀ c ∈ text.head?,
    c = ' ' ∨ c = '\t' ∨ c = '\n' ∨ c = '\r' ∨ c = ',' ∨ c = ']' ∨ c = '\x7d'

variable {c : Char} {cs digits rest text : List Char}

theorem isAscii_of_isDigit (h : c.isDigit = true) : IsAscii c := by
  simp only [Char.isDigit, Bool.and_eq_true, decide_eq_true_eq, UInt32.le_iff_toNat_le] at h
  exact Nat.lt_of_le_of_lt h.2 (by decide)

/-- Whether the run of digits ends before a text. -/
def EndsDigits (text : List Char) : Prop :=
  ∀ c ∈ text.head?, IsAscii c ∧ c.isDigit = false

theorem IsDelimited.endsDigits (h : IsDelimited text) : EndsDigits text := by
  intro c hc
  rcases h c hc with rfl | rfl | rfl | rfl | rfl | rfl | rfl <;> decide

theorem takes_takeDigits (hdigits : ∀ c ∈ digits, c.isDigit = true) (hrest : EndsDigits rest) :
    Takes takeDigits (digits ++ rest) digits rest := by
  have hrun : Takes (takeWhile Char.isDigit) (digits ++ rest) digits rest :=
    takes_takeWhile (fun c hc => ⟨isAscii_of_isDigit (hdigits c hc), hdigits c hc⟩) hrest
  exact hrun.bind ((takes_peek_head fun c hc => (hrest c hc).1).bind (takes_pure _ _))

/-! ### Exponents -/

/-- What takes the digits of an exponent. -/
theorem takes_exponentDigits (hdigits : IsDigits digits) (hrest : EndsDigits rest) :
    Takes (do
      match ← next with
      | some c =>
        if c.isDigit then
          let _ ← takeDigits
          return ()
        else fail .invalidNumber
      | none => fail .invalidNumber) (digits ++ rest) () rest := by
  obtain ⟨hne, hall⟩ := hdigits
  obtain ⟨d, ds, rfl⟩ := List.exists_cons_of_ne_nil hne
  have hd := hall d List.mem_cons_self
  refine (takes_next (isAscii_of_isDigit hd) (ds ++ rest)).bind ?_
  simp only [hd, ↓reduceIte]
  exact (takes_takeDigits (fun c hc => hall c (List.mem_cons_of_mem d hc)) hrest).bind
    (takes_pure _ _)

theorem takes_skipExponent (h : IsExponent cs) (hrest : EndsDigits rest) :
    Takes skipExponent (cs ++ rest) () rest := by
  obtain ⟨letter, sign, digits, hletter, hsign, hdigits, rfl⟩ := h
  have hascii : IsAscii letter := by rcases hletter with rfl | rfl <;> decide
  have hafter := takes_exponentDigits hdigits hrest
  rw [List.cons_append, List.append_assoc]
  refine (takes_discard hascii _).bind ?_
  rcases hsign with rfl | rfl | rfl
  · -- Without a sign, the first digit is what is looked at.
    obtain ⟨d, ds, rfl⟩ := List.exists_cons_of_ne_nil hdigits.1
    have hd := hdigits.2 d List.mem_cons_self
    refine (takes_peek (isAscii_of_isDigit hd) (ds ++ rest)).bind ?_
    dsimp only
    split
    · rename_i heq
      cases heq
      exact absurd hd (by decide)
    · rename_i heq
      cases heq
      exact absurd hd (by decide)
    · exact hafter
  · exact (takes_peek (by decide) _).bind ((takes_discard (by decide) _).bind hafter)
  · exact (takes_peek (by decide) _).bind ((takes_discard (by decide) _).bind hafter)

/-! ### Fractions and whole numbers -/

theorem endsDigits_append (h : cs = [] ∨ IsExponent cs) (hrest : IsDelimited rest) :
    EndsDigits (cs ++ rest) := by
  rcases h with rfl | ⟨letter, sign, digits, hletter, -, -, rfl⟩
  · exact hrest.endsDigits
  · rintro c ⟨⟩
    rcases hletter with rfl | rfl <;> decide

variable {fraction exponent whole : List Char}

theorem takes_skipFraction (h : IsFraction fraction)
    (hexponent : exponent = [] ∨ IsExponent exponent) (hrest : IsDelimited rest) :
    Takes skipFraction (fraction ++ (exponent ++ rest)) () rest := by
  obtain ⟨digits, ⟨hne, hall⟩, rfl⟩ := h
  refine (takes_discard (by decide) _).bind ?_
  refine (takes_takeDigits hall (endsDigits_append hexponent hrest)).bind ?_
  rw [if_neg (by simpa using hne)]
  rcases hexponent with rfl | hexponent
  · refine (takes_peek_head fun c hc => (hrest.endsDigits c hc).1).bind ?_
    split
    · exact absurd (hrest _ ‹_›) (by decide)
    · exact absurd (hrest _ ‹_›) (by decide)
    · exact takes_pure _ _
  · have htaken := takes_skipExponent hexponent hrest.endsDigits
    obtain ⟨letter, sign, digits, rfl | rfl, -, -, rfl⟩ := hexponent
    · exact (takes_peek (by decide) _).bind htaken
    · exact (takes_peek (by decide) _).bind htaken

theorem takes_skipAfterInteger (hfraction : fraction = [] ∨ IsFraction fraction)
    (hexponent : exponent = [] ∨ IsExponent exponent) (hrest : IsDelimited rest) :
    Takes skipAfterInteger (fraction ++ (exponent ++ rest)) () rest := by
  rcases hfraction with rfl | hfraction
  · rcases hexponent with rfl | hexponent
    · refine (takes_peek_head fun c hc => (hrest.endsDigits c hc).1).bind ?_
      split
      · exact absurd (hrest _ ‹_›) (by decide)
      · exact absurd (hrest _ ‹_›) (by decide)
      · exact absurd (hrest _ ‹_›) (by decide)
      · exact takes_pure _ _
    · have htaken := takes_skipExponent hexponent hrest.endsDigits
      obtain ⟨letter, sign, digits, rfl | rfl, -, -, rfl⟩ := hexponent
      · exact (takes_peek (by decide) _).bind htaken
      · exact (takes_peek (by decide) _).bind htaken
  · have htaken := takes_skipFraction hfraction hexponent hrest
    obtain ⟨digits, -, rfl⟩ := hfraction
    exact (takes_peek (by decide) _).bind htaken

/-- The digits of a number end before its fraction, its exponent and what follows it. -/
theorem endsDigits_afterInteger (hfraction : fraction = [] ∨ IsFraction fraction)
    (hexponent : exponent = [] ∨ IsExponent exponent) (hrest : IsDelimited rest) :
    EndsDigits (fraction ++ (exponent ++ rest)) := by
  rcases hfraction with rfl | ⟨digits, -, rfl⟩
  · rw [List.nil_append]
    exact endsDigits_append hexponent hrest
  · rintro c ⟨⟩
    decide

/-- A number without a sign is taken to its end. -/
theorem takes_skipNumber (h : IsUnsignedNumber cs) (hrest : IsDelimited rest) :
    Takes skipNumber (cs ++ rest) () rest := by
  obtain ⟨whole, fraction, exponent, hwhole, hfraction, hexponent, rfl⟩ := h
  have hends := endsDigits_afterInteger hfraction hexponent hrest
  have hafter := takes_skipAfterInteger hfraction hexponent hrest
  rw [List.append_assoc, List.append_assoc]
  rcases hwhole with rfl | ⟨⟨hne, hall⟩, hzero⟩
  · refine (takes_next (by decide) _).bind ?_
    simp only [↓reduceIte]
    refine (takes_peek_head fun c hc => (hends c hc).1).bind ?_
    split
    · rename_i d hd
      rw [(hends d hd).2]
      exact hafter
    · exact hafter
  · obtain ⟨d, ds, rfl⟩ := List.exists_cons_of_ne_nil hne
    have hd := hall d List.mem_cons_self
    refine (takes_next (isAscii_of_isDigit hd) _).bind ?_
    have hnot : d ≠ '0' := fun h => hzero (by rw [h, List.head?_cons])
    simp only [if_neg hnot, if_pos hd]
    exact (takes_takeDigits (fun c hc => hall c (List.mem_cons_of_mem d hc)) hends).bind hafter

end GoEnum.Json
