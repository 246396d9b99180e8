import Mathlib.Data.List.Lex
import Mathlib.Order.Fin.Basic
import Mathlib.Tactic.Linarith

/-!
Python text. A `str` is a list of code points, surrogates included, because
`json.loads` builds lone surrogates from escapes and other layers refuse them.
Strict UTF-8 decoding is Lean's own; the replacing decoder follows the maximal
subpart rule, one U+FFFD for each maximal ill-formed prefix.
-/

namespace OrderMessaging.PyText

set_option autoImplicit false

abbrev CodePoint := Fin 0x110000
abbrev Str := List CodePoint

instance codePointRange : NeZero 0x110000 := ⟨by decide⟩

instance codePointMem (point : CodePoint) (text : Str) : Decidable (point ∈ text) :=
  List.instDecidableMemOfLawfulBEq point text

def codePoint (char : Char) : CodePoint :=
  ⟨char.toNat, by
    have valid : char.val.isValidChar := char.valid
    simp only [UInt32.isValidChar, Nat.isValidChar] at valid
    change char.val.toNat < 0x110000
    omega⟩

def ofString (text : String) : Str := text.toList.map codePoint

instance : Coe String Str := ⟨ofString⟩

def IsSurrogate (point : CodePoint) : Prop := 0xD800 ≤ point.val ∧ point.val ≤ 0xDFFF

instance (point : CodePoint) : Decidable (IsSurrogate point) :=
  inferInstanceAs (Decidable (_ ∧ _))

/-- Text that has a UTF-8 form: no surrogate code point occurs in it. -/
def Encodable (text : Str) : Prop := ∀ point ∈ text, ¬IsSurrogate point

instance (text : Str) : Decidable (Encodable text) :=
  List.decidableBAll (fun point => ¬IsSurrogate point) text

theorem char_not_surrogate (char : Char) : ¬IsSurrogate (codePoint char) := by
  have valid : char.val.isValidChar := char.valid
  simp only [UInt32.isValidChar, Nat.isValidChar] at valid
  intro surrogate
  have bounds : 0xD800 ≤ char.val.toNat ∧ char.val.toNat ≤ 0xDFFF := surrogate
  omega

@[simp] theorem encodable_nil : Encodable [] := by
  simp [Encodable]

theorem of_string_encodable (text : String) : Encodable (ofString text) := by
  intro point member
  obtain ⟨char, _, rfl⟩ := List.mem_map.mp member
  exact char_not_surrogate char

theorem encodable_append {first second : Str} :
    Encodable (first ++ second) ↔ Encodable first ∧ Encodable second := by
  simp [Encodable, or_imp, forall_and]

def toChar (point : CodePoint) : Char := Char.ofNat point.val

theorem code_point_to_char {point : CodePoint} (scalar : ¬IsSurrogate point) :
    codePoint (toChar point) = point := by
  have bound := point.isLt
  have valid : Nat.isValidChar point.val := by
    simp only [IsSurrogate, not_and, not_le] at scalar
    simp only [Nat.isValidChar]
    omega
  apply Fin.ext
  change (Char.ofNat point.val).toNat = point.val
  rw [Char.ofNat, dif_pos valid]
  rfl

/-- `text.encode("utf-8")`; `none` stands for `UnicodeEncodeError`. -/
def encodeUtf8 (text : Str) : Option ByteArray :=
  if Encodable text then some (String.ofList (text.map toChar)).toUTF8 else none

/-- `data.decode("utf-8")`; `none` stands for `UnicodeDecodeError`. -/
def decodeUtf8 (data : ByteArray) : Option Str := (String.fromUTF8? data).map ofString

theorem decode_utf8_to_utf8 (text : String) : decodeUtf8 text.toUTF8 = some (ofString text) := by
  simp only [decodeUtf8, String.fromUTF8?, String.toUTF8_eq_toByteArray, dif_pos text.isValidUTF8]
  rfl

theorem decode_utf8_encode {text : Str} (encodable : Encodable text) :
    (encodeUtf8 text).bind decodeUtf8 = some text := by
  rw [encodeUtf8, if_pos encodable, Option.bind_some, decode_utf8_to_utf8, ofString,
    String.toList_ofList, List.map_map]
  congr 1
  calc
    text.map (codePoint ∘ toChar) = text.map id :=
      List.map_congr_left fun point member => code_point_to_char (encodable point member)
    _ = text := List.map_id text

section Replacing

def replacement : CodePoint := 0xFFFD

/-- How a lead byte continues: the number of bytes that follow, its own bits and
the bounds of the first byte after it. Bytes that cannot lead have no entry. -/
def leadByte (lead : Nat) : Option (Nat × Nat × Nat × Nat) :=
  if lead < 0x80 then some (0, lead, 0x80, 0xBF)
  else if lead < 0xC2 then none
  else if lead < 0xE0 then some (1, lead % 32, 0x80, 0xBF)
  else if lead = 0xE0 then some (2, lead % 16, 0xA0, 0xBF)
  else if lead = 0xED then some (2, lead % 16, 0x80, 0x9F)
  else if lead < 0xF0 then some (2, lead % 16, 0x80, 0xBF)
  else if lead = 0xF0 then some (3, lead % 8, 0x90, 0xBF)
  else if lead < 0xF4 then some (3, lead % 8, 0x80, 0xBF)
  else if lead = 0xF4 then some (3, lead % 8, 0x80, 0x8F)
  else none

/-- Reads `count` continuation bytes; the first byte that does not fit stays. -/
def continueFrom : Nat → Nat → Nat → Nat → List UInt8 → CodePoint × List UInt8
  | 0, bits, _, _, rest => (Fin.ofNat 0x110000 bits, rest)
  | _ + 1, _, _, _, [] => (replacement, [])
  | count + 1, bits, low, high, byte :: rest =>
      if low ≤ byte.toNat ∧ byte.toNat ≤ high then
        continueFrom count (bits * 64 + byte.toNat % 64) 0x80 0xBF rest
      else (replacement, byte :: rest)

def replaceFrom : Nat → List UInt8 → Str
  | fuel + 1, lead :: rest =>
      match leadByte lead.toNat with
      | none => replacement :: replaceFrom fuel rest
      | some (count, bits, low, high) =>
          let (point, after) := continueFrom count bits low high rest
          point :: replaceFrom fuel after
  | _, _ => []

/-- `data.decode("utf-8", errors="replace")`; every step consumes a byte. -/
def decodeReplacing (data : ByteArray) : Str := replaceFrom data.data.size data.data.toList

end Replacing

def replaceIn (old new : Str) : Nat → Str → Str
  | _, [] => []
  | 0, text => text
  | fuel + 1, head :: tail =>
      if old ≠ [] ∧ old.isPrefixOf (head :: tail) then
        new ++ replaceIn old new fuel ((head :: tail).drop old.length)
      else head :: replaceIn old new fuel tail

/-- `text.replace(old, new)` for a nonempty `old`. -/
def replaceText (text old new : Str) : Str := replaceIn old new text.length text

end OrderMessaging.PyText
