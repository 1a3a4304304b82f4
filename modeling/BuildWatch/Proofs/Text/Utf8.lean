import BuildWatch.Text.Utf8
import Mathlib

/-!
The bytes of a text. They tell texts apart and stand in the same order, a byte below 128 is always
a character of its own, and what they spell is the text.
-/

namespace BuildWatch.Utf8

theorem bytes_append (left right : String) : bytes (left ++ right) = bytes left ++ bytes right := by
  simp [bytes]

theorem bytes_eq (text : String) : bytes text = text.toList.flatMap String.utf8EncodeChar := by
  rw [bytes, String.toUTF8_eq_toByteArray, ← String.utf8Encode_toList, List.utf8Encode]
  simp

theorem text?_bytes (text : String) : text? (bytes text) = some text := by
  have decoded : String.fromUTF8? text.toUTF8 = some text := dif_pos text.isValidUTF8
  simpa [text?, bytes] using decoded

theorem bytes_of_text? {name : List UInt8} {text : String} (spelled : text? name = some text) :
    bytes text = name := by
  rw [text?, String.fromUTF8?] at spelled
  split_ifs at spelled
  obtain rfl := Option.some.inj spelled
  exact List.toList_toArray

theorem bytes_inj {left right : String} : bytes left = bytes right ↔ left = right := by
  refine ⟨fun same => ?_, congrArg bytes⟩
  exact Option.some.inj (by rw [← text?_bytes left, same, text?_bytes])

theorem cons_lt {left right : Nat} {low high : List UInt8} (byte : right < 256)
    (ordered : left ≤ right) (rest : left = right → low < high) :
    UInt8.ofNat left :: low < UInt8.ofNat right :: high := by
  rw [List.cons_lt_cons_iff]
  obtain less | same := ordered.lt_or_eq
  · left
    rw [UInt8.lt_iff_toNat_lt]
    simpa [Nat.mod_eq_of_lt byte, Nat.mod_eq_of_lt (less.trans byte)] using less
  · exact .inr ⟨by rw [same], rest same⟩

theorem encode_lt {low high : Char} (less : low < high) (lows highs : List UInt8) :
    String.utf8EncodeChar low ++ lows < String.utf8EncodeChar high ++ highs := by
  have points : low.val.toNat < high.val.toNat := less
  have bound : high.val.toNat < 1114112 := by
    rcases high.valid with small | ⟨-, large⟩ <;> omega
  unfold String.utf8EncodeChar
  generalize low.val.toNat = low, high.val.toNat = high at *
  dsimp only
  -- A longer encoding starts with a greater byte; those of one length are compared digit by digit.
  split_ifs <;> simp only [List.cons_append, List.nil_append] <;>
    repeat (refine cons_lt (by omega) (by omega) fun _ => ?_)
  all_goals omega

theorem encodeAll_lt {low high : List Char} (less : low < high) :
    low.flatMap String.utf8EncodeChar < high.flatMap String.utf8EncodeChar := by
  induction less with
  | nil =>
      obtain ⟨byte, rest, first⟩ := List.exists_cons_of_ne_nil String.utf8EncodeChar_ne_nil
      rw [List.flatMap_nil, List.flatMap_cons, first]
      exact List.nil_lt_cons _ _
  | cons less ih => exact List.append_left_lt ih
  | rel less => exact encode_lt less _ _

theorem bytes_lt_iff {left right : String} : bytes left < bytes right ↔ left < right := by
  simp only [bytes_eq]
  refine ⟨fun less => ?_, encodeAll_lt⟩
  rcases lt_trichotomy left right with below | same | above
  · exact below
  · rw [same] at less
    exact absurd less (List.lt_irrefl _)
  · exact absurd (encodeAll_lt above) (List.lt_asymm less)

theorem toNat_of_mem_encode {char : Char} {byte : UInt8} (ascii : byte.toNat < 128)
    (among : byte ∈ String.utf8EncodeChar char) : char.toNat = byte.toNat := by
  unfold String.utf8EncodeChar at among
  change char.val.toNat = byte.toNat
  generalize char.val.toNat = point at *
  dsimp only at among
  split_ifs at among <;>
    simp only [List.mem_cons, List.not_mem_nil, or_false, ← UInt8.toNat_inj,
      UInt8.toNat_ofNat'] at among <;> omega

theorem mem_of_mem_bytes {text : String} {char : Char} (ascii : char.toNat < 128)
    (among : UInt8.ofNat char.toNat ∈ bytes text) : char ∈ text.toList := by
  rw [bytes_eq, List.mem_flatMap] at among
  obtain ⟨other, member, part⟩ := among
  have value : (UInt8.ofNat char.toNat).toNat = char.toNat := by
    rw [UInt8.toNat_ofNat']
    omega
  have same := toNat_of_mem_encode (by rwa [value]) part
  rw [value] at same
  exact Char.toNat_inj.mp same ▸ member

end BuildWatch.Utf8
