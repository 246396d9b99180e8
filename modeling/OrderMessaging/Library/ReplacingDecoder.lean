import OrderMessaging.Library.PyText

/-!
What the replacing decoder returns. It never builds a surrogate, so its text has a
UTF-8 form whatever the bytes were; on bytes that are UTF-8 it is the strict
decoder. Strict decoding inverts encoding in both directions.
-/

namespace OrderMessaging.ReplacingDecoder

open OrderMessaging.PyText

set_option autoImplicit false

section Scalars

theorem of_nat_scalar {value : Nat} (bound : value < 0x110000)
    (scalar : value < 0xD800 ∨ 0xE000 ≤ value) : ¬IsSurrogate (Fin.ofNat 0x110000 value) := by
  intro surrogate
  have lower : 0xD800 ≤ value % 0x110000 := surrogate.1
  have upper : value % 0x110000 ≤ 0xDFFF := surrogate.2
  omega

/-- Plain continuation bytes add six bits each. -/
theorem continue_from_bounds (count bits : Nat) (rest : List UInt8) :
    (continueFrom count bits 0x80 0xBF rest).1 = replacement ∨
      ∃ value, bits * 64 ^ count ≤ value ∧ value < (bits + 1) * 64 ^ count ∧
        (continueFrom count bits 0x80 0xBF rest).1 = Fin.ofNat 0x110000 value := by
  induction count generalizing bits rest with
  | zero => exact .inr ⟨bits, by omega, by omega, rfl⟩
  | succ count ih =>
      cases rest with
      | nil => exact .inl rfl
      | cons byte rest =>
          rw [continueFrom]
          split
          · rcases ih (bits * 64 + byte.toNat % 64) rest with replaced | ⟨value, low, high, same⟩
            · exact .inl replaced
            · refine .inr ⟨value, ?_, ?_, same⟩
              · refine le_trans ?_ low
                rw [Nat.pow_succ', ← Nat.mul_assoc]
                exact Nat.mul_le_mul_right _ (Nat.le_add_right _ _)
              · refine lt_of_lt_of_le high ?_
                rw [Nat.pow_succ', ← Nat.mul_assoc]
                apply Nat.mul_le_mul_right
                have digit : byte.toNat % 64 < 64 := Nat.mod_lt _ (by decide)
                omega
          · exact .inl rfl

/-- The first continuation byte has bounds of its own. -/
theorem continue_from_first (count bits low high : Nat) (rest : List UInt8) :
    (continueFrom (count + 1) bits low high rest).1 = replacement ∨
      ∃ byte value, low ≤ byte ∧ byte ≤ high ∧ (bits * 64 + byte % 64) * 64 ^ count ≤ value ∧
        value < (bits * 64 + byte % 64 + 1) * 64 ^ count ∧
        (continueFrom (count + 1) bits low high rest).1 = Fin.ofNat 0x110000 value := by
  cases rest with
  | nil => exact .inl rfl
  | cons byte rest =>
      rw [continueFrom]
      split
      next fits =>
        rcases continue_from_bounds count (bits * 64 + byte.toNat % 64) rest with
          replaced | ⟨value, lower, upper, same⟩
        · exact .inl replaced
        · exact .inr ⟨byte.toNat, value, fits.1, fits.2, lower, upper, same⟩
      next => exact .inl rfl

theorem replacement_scalar : ¬IsSurrogate replacement := by decide

/-- The bounds of the first continuation byte keep the surrogates out. -/
theorem continue_from_scalar {lead count bits low high : Nat} (rest : List UInt8)
    (leads : leadByte lead = some (count, bits, low, high)) :
    ¬IsSurrogate (continueFrom count bits low high rest).1 := by
  have judged : ∀ count bits low high : Nat,
      (∀ byte value, low ≤ byte → byte ≤ high → (bits * 64 + byte % 64) * 64 ^ count ≤ value →
        value < (bits * 64 + byte % 64 + 1) * 64 ^ count →
        value < 0x110000 ∧ (value < 0xD800 ∨ 0xE000 ≤ value)) →
      ¬IsSurrogate (continueFrom (count + 1) bits low high rest).1 := by
    intro count bits low high bounded
    rcases continue_from_first count bits low high rest with
      replaced | ⟨byte, value, above, below, lower, upper, same⟩
    · rw [replaced]
      exact replacement_scalar
    · rw [same]
      obtain ⟨bound, scalar⟩ := bounded byte value above below lower upper
      exact of_nat_scalar bound scalar
  unfold leadByte at leads
  split_ifs at leads <;> cases leads
  case pos ascii => exact of_nat_scalar (by omega) (.inl (by omega))
  all_goals
    apply judged
    intro byte value above below lower upper
    omega

theorem replace_from_encodable (fuel : Nat) (bytes : List UInt8) :
    Encodable (replaceFrom fuel bytes) := by
  induction fuel generalizing bytes with
  | zero => exact encodable_nil
  | succ fuel ih =>
      cases bytes with
      | nil => exact encodable_nil
      | cons lead rest =>
          rw [replaceFrom]
          split
          next => exact List.forall_mem_cons.mpr ⟨replacement_scalar, ih rest⟩
          next leads =>
            exact List.forall_mem_cons.mpr ⟨continue_from_scalar rest leads, ih _⟩

theorem decode_replacing_encodable (data : ByteArray) : Encodable (decodeReplacing data) :=
  replace_from_encodable _ _

end Scalars

section WellFormed

/-- How the lead byte of a longer encoding continues, and that the byte after it fits. -/
theorem lead_byte_two {lead : Nat} (low : 0xC2 ≤ lead) (high : lead < 0xE0) :
    leadByte lead = some (1, lead % 32, 0x80, 0xBF) := by
  rw [leadByte, if_neg (by omega), if_neg (by omega), if_pos high]

theorem lead_byte_three {lead second : Nat} (low : 0xE0 ≤ lead) (high : lead < 0xF0)
    (continues : 0x80 ≤ second ∧ second ≤ 0xBF) (long : lead = 0xE0 → 0xA0 ≤ second)
    (scalar : lead = 0xED → second ≤ 0x9F) :
    ∃ least most, leadByte lead = some (2, lead % 16, least, most) ∧ least ≤ second ∧
      second ≤ most := by
  rw [leadByte, if_neg (by omega), if_neg (by omega), if_neg (by omega)]
  by_cases first : lead = 0xE0
  · rw [if_pos first]
    exact ⟨0xA0, 0xBF, rfl, long first, continues.2⟩
  · rw [if_neg first]
    by_cases surrogate : lead = 0xED
    · rw [if_pos surrogate]
      exact ⟨0x80, 0x9F, rfl, continues.1, scalar surrogate⟩
    · rw [if_neg surrogate, if_pos high]
      exact ⟨0x80, 0xBF, rfl, continues.1, continues.2⟩

theorem lead_byte_four {lead second : Nat} (low : 0xF0 ≤ lead) (high : lead ≤ 0xF4)
    (continues : 0x80 ≤ second ∧ second ≤ 0xBF) (long : lead = 0xF0 → 0x90 ≤ second)
    (scalar : lead = 0xF4 → second ≤ 0x8F) :
    ∃ least most, leadByte lead = some (3, lead % 8, least, most) ∧ least ≤ second ∧
      second ≤ most := by
  rw [leadByte, if_neg (by omega), if_neg (by omega), if_neg (by omega), if_neg (by omega),
    if_neg (by omega), if_neg (by omega)]
  by_cases first : lead = 0xF0
  · rw [if_pos first]
    exact ⟨0x90, 0xBF, rfl, long first, continues.2⟩
  · rw [if_neg first]
    by_cases last : lead = 0xF4
    · rw [if_neg (by omega), if_pos last]
      exact ⟨0x80, 0x8F, rfl, continues.1, scalar last⟩
    · rw [if_pos (by omega)]
      exact ⟨0x80, 0xBF, rfl, continues.1, continues.2⟩

theorem continue_from_byte {count bits least most byte : Nat} {rest : List UInt8}
    (small : byte < 0x100) (fits : least ≤ byte ∧ byte ≤ most) :
    continueFrom (count + 1) bits least most (UInt8.ofNat byte :: rest) =
      continueFrom count (bits * 64 + byte % 64) 0x80 0xBF rest := by
  have same : (UInt8.ofNat byte).toNat = byte := Nat.mod_eq_of_lt small
  rw [continueFrom, same, if_pos fits]

theorem continue_from_done {bits : Nat} {rest : List UInt8} {char : Char}
    (same : bits = char.val.toNat) :
    continueFrom 0 bits 0x80 0xBF rest = (codePoint char, rest) := by
  have bound := (codePoint char).isLt
  have value : bits % 0x110000 = char.toNat := by
    rw [same]
    exact Nat.mod_eq_of_lt bound
  rw [continueFrom]
  congr 1
  exact Fin.ext value

theorem replace_from_lead {fuel byte count bits least most : Nat} {rest : List UInt8}
    (small : byte < 0x100) (leads : leadByte byte = some (count, bits, least, most)) :
    replaceFrom (fuel + 1) (UInt8.ofNat byte :: rest) =
      (continueFrom count bits least most rest).1 ::
        replaceFrom fuel (continueFrom count bits least most rest).2 := by
  have same : (UInt8.ofNat byte).toNat = byte := Nat.mod_eq_of_lt small
  rw [replaceFrom, same, leads]

/-- A well-formed character is read as itself. -/
theorem replace_from_char (char : Char) (fuel : Nat) (rest : List UInt8) :
    replaceFrom (fuel + 1) (String.utf8EncodeChar char ++ rest) =
      codePoint char :: replaceFrom fuel rest := by
  have valid : char.val.isValidChar := char.valid
  simp only [UInt32.isValidChar, Nat.isValidChar] at valid
  rw [String.utf8EncodeChar]
  generalize value : char.val.toNat = number at valid
  split_ifs with one two three
  · have leads : leadByte number = some (0, number, 0x80, 0xBF) := by
      rw [leadByte, if_pos (by omega)]
    rw [List.singleton_append, replace_from_lead (by omega) leads, continue_from_done value.symm]
  · have leads := @lead_byte_two (number / 64 % 0x20 + 0xc0) (by omega) (by omega)
    simp only [List.cons_append, List.nil_append]
    rw [replace_from_lead (by omega) leads, continue_from_byte (by omega) (by omega),
      continue_from_done (by rw [value]; omega)]
  · obtain ⟨least, most, leads, fits⟩ := @lead_byte_three (number / 4096 % 0x10 + 0xe0)
      (number / 64 % 0x40 + 0x80) (by omega) (by omega) (by omega) (by omega) (by omega)
    simp only [List.cons_append, List.nil_append]
    rw [replace_from_lead (by omega) leads, continue_from_byte (by omega) fits,
      continue_from_byte (by omega) (by omega), continue_from_done (by rw [value]; omega)]
  · obtain ⟨least, most, leads, fits⟩ := @lead_byte_four (number / 262144 % 0x08 + 0xf0)
      (number / 4096 % 0x40 + 0x80) (by omega) (by omega) (by omega) (by omega) (by omega)
    simp only [List.cons_append, List.nil_append]
    rw [replace_from_lead (by omega) leads, continue_from_byte (by omega) fits,
      continue_from_byte (by omega) (by omega), continue_from_byte (by omega) (by omega),
      continue_from_done (by rw [value]; omega)]

theorem replace_from_chars (chars : List Char) (fuel : Nat) (enough : chars.length ≤ fuel) :
    replaceFrom fuel (chars.flatMap String.utf8EncodeChar) = chars.map codePoint := by
  induction chars generalizing fuel with
  | nil => cases fuel <;> rfl
  | cons char rest ih =>
      obtain ⟨left, rfl⟩ : ∃ left, fuel = left + 1 :=
        ⟨fuel - 1, by simp only [List.length_cons] at enough; omega⟩
      rw [List.flatMap_cons, replace_from_char, ih left (by simpa using enough)]
      rfl

theorem length_le_encoded (chars : List Char) :
    chars.length ≤ (chars.flatMap String.utf8EncodeChar).length := by
  induction chars with
  | nil => exact Nat.le_refl 0
  | cons char rest ih =>
      have own : 0 < (String.utf8EncodeChar char).length :=
        List.length_pos_iff.mpr String.utf8EncodeChar_ne_nil
      rw [List.flatMap_cons, List.length_append, List.length_cons]
      omega

/-- What strict decoding accepts is what was encoded. -/
theorem decode_utf8_iff {data : ByteArray} {text : Str} :
    decodeUtf8 data = some text ↔ encodeUtf8 text = some data := by
  constructor
  · intro decoded
    obtain ⟨string, read, rfl⟩ := Option.map_eq_some_iff.mp decoded
    have bytes : string.toUTF8 = data := by
      rw [String.fromUTF8?] at read
      split at read
      · cases read
        rfl
      · cases read
    have chars : (ofString string).map toChar = string.toList := by
      rw [ofString, List.map_map]
      conv_rhs => rw [← List.map_id string.toList]
      exact List.map_congr_left fun char _ => Char.ofNat_toNat char
    rw [encodeUtf8, if_pos (of_string_encodable string), chars, String.ofList_toList, bytes]
  · intro encoded
    rw [encodeUtf8] at encoded
    split at encoded
    next encodable =>
      have again := decode_utf8_encode encodable
      rw [encodeUtf8, if_pos encodable, Option.bind_some] at again
      cases encoded
      exact again
    next => cases encoded

/-- Decoding with replacement agrees with strict decoding where that succeeds. -/
theorem decode_replacing_of_decoded {data : ByteArray} {text : Str}
    (decoded : decodeUtf8 data = some text) : decodeReplacing data = text := by
  obtain ⟨string, read, rfl⟩ := Option.map_eq_some_iff.mp decoded
  have bytes : string.toList.utf8Encode = data := by
    rw [String.utf8Encode_toList]
    rw [String.fromUTF8?] at read
    split at read
    · cases read
      rfl
    · cases read
  have same : data.data.toList = string.toList.flatMap String.utf8EncodeChar := by
    rw [← bytes, List.utf8Encode, List.data_toByteArray]
  rw [decodeReplacing, ← Array.length_toList, same]
  exact replace_from_chars string.toList _ (length_le_encoded string.toList)

end WellFormed

end OrderMessaging.ReplacingDecoder
