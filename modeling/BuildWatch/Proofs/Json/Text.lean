import BuildWatch.Proofs.Json.Grammar
import BuildWatch.Proofs.Text.Utf8

/-!
Strings are read as they are written. Each way to spell a character adds its bytes to what has been
read, so that a string is read as its content, whatever follows its last quote.
-/

namespace BuildWatch.Json

section Escapes

variable {rest : List UInt8} {offset : Nat}

theorem hexDigit?_of_isHexDigit {value : Nat} {byte : UInt8} (small : value < 16)
    (digit : IsHexDigit value byte) : hexDigit? byte = some value := by
  obtain rfl | rfl := digit <;> interval_cases value <;> rfl

theorem hexNumber_of_isHex {number : Nat} {digits : List UInt8} (hex : IsHex number digits) :
    hexNumber ⟨digits ++ rest, offset⟩ = .ok (number, ⟨rest, offset + 4⟩) := by
  obtain ⟨small, spelled⟩ := hex
  rcases spelled with _ | ⟨first, _ | ⟨second, _ | ⟨third, _ | ⟨fourth, _ | _⟩⟩⟩⟩
  simp only [hexNumber, List.cons_append, List.nil_append,
    hexDigit?_of_isHexDigit (by omega) first, hexDigit?_of_isHexDigit (by omega) second,
    hexDigit?_of_isHexDigit (by omega) third, hexDigit?_of_isHexDigit (by omega) fourth]
  congr
  omega

theorem length_of_isHex {number : Nat} {digits : List UInt8} (hex : IsHex number digits) :
    digits.length = 4 :=
  hex.2.length_eq.symm

theorem escape_of_letter {letter : UInt8} {char : Char} (known : (letter, char) ∈ letterEscapes) :
    escape ⟨[letter] ++ rest, offset⟩ = .ok (char, ⟨rest, offset + [letter].length⟩) := by
  simp only [letterEscapes, List.mem_cons, Prod.mk.injEq, List.not_mem_nil, or_false] at known
  rcases known with ⟨rfl, rfl⟩ | ⟨rfl, rfl⟩ | ⟨rfl, rfl⟩ | ⟨rfl, rfl⟩ | ⟨rfl, rfl⟩ | ⟨rfl, rfl⟩ |
    ⟨rfl, rfl⟩ | ⟨rfl, rfl⟩ <;> rfl

theorem escape_of_number {char : Char} {digits : List UInt8} (hex : IsHex char.toNat digits) :
    escape ⟨letterU :: digits ++ rest, offset⟩ =
      .ok (char, ⟨rest, offset + (letterU :: digits).length⟩) := by
  have noSurrogate : char.toNat < 0xD800 ∨ 0xDFFF < char.toNat := by
    have valid : char.toNat < 55296 ∨ 57343 < char.toNat ∧ char.toNat < 1114112 := char.valid
    omega
  change hexEscape ⟨digits ++ rest, offset + 1⟩ = _
  rw [hexEscape, hexNumber_of_isHex hex]
  simp only [bind, Except.bind]
  rw [if_neg (by omega), if_neg (by omega), Char.ofNat_toNat, List.length_cons,
    length_of_isHex hex]

theorem escape_of_surrogates {char : Char} {high low : Nat} {first second : List UInt8}
    (point : char.toNat = 0x10000 + high * 1024 + low) (highSmall : high < 1024)
    (lowSmall : low < 1024) (firstHex : IsHex (0xD800 + high) first)
    (secondHex : IsHex (0xDC00 + low) second) :
    escape ⟨letterU :: (first ++ backslash :: letterU :: second) ++ rest, offset⟩ =
      .ok (char,
        ⟨rest, offset + (letterU :: (first ++ backslash :: letterU :: second)).length⟩) := by
  change hexEscape ⟨first ++ backslash :: letterU :: second ++ rest, offset + 1⟩ = _
  rw [hexEscape, List.append_assoc, List.cons_append, List.cons_append,
    hexNumber_of_isHex firstHex]
  simp only [bind, Except.bind]
  rw [if_neg (by omega), if_pos (by omega)]
  have joint (wanted : UInt8) (rest : List UInt8) (offset : Nat) :
      hexJoint wanted ⟨wanted :: rest, offset⟩ = .ok ⟨rest, offset + 1⟩ := by
    simp [hexJoint, Cursor.peek, Cursor.advance]
  simp only [joint, hexNumber_of_isHex secondHex]
  rw [if_neg (by omega)]
  have same : (0xD800 + high - 0xD800) * 1024 + (0xDC00 + low - 0xDC00) + 0x10000 =
      char.toNat := by omega
  rw [same, Char.ofNat_toNat]
  simp [length_of_isHex firstHex, length_of_isHex secondHex]

end Escapes

section Strings

variable {rest : List UInt8} {offset : Nat}

theorem bytes_toString (char : Char) : Utf8.bytes char.toString = String.utf8EncodeChar char := by
  simp [Utf8.bytes_eq]

theorem textBytes_run {run taken : List UInt8} {fuel : Nat}
    (plain : ∀ byte ∈ run, byte ≠ quoteByte ∧ byte ≠ backslash ∧ ¬byte < 32) :
    textBytes taken (fuel + run.length) ⟨run ++ rest, offset⟩ =
      textBytes (run.reverse ++ taken) fuel ⟨rest, offset + run.length⟩ := by
  induction run generalizing taken offset with
  | nil => rfl
  | cons byte run ih =>
      obtain ⟨⟨noQuote, noBackslash, shown⟩, others⟩ := List.forall_mem_cons.mp plain
      rw [List.length_cons, ← Nat.add_assoc, List.cons_append, textBytes]
      simp only [noQuote, noBackslash, shown, if_false]
      rw [ih others, List.reverse_cons, List.append_assoc, List.singleton_append]
      congr 2
      omega

theorem textBytes_escape {letters taken : List UInt8} {char : Char} {fuel : Nat}
    (escaped : escape ⟨letters ++ rest, offset + 1⟩ =
      .ok (char, ⟨rest, offset + 1 + letters.length⟩)) :
    textBytes taken (fuel + 1) ⟨backslash :: (letters ++ rest), offset⟩ =
      textBytes ((String.utf8EncodeChar char).reverse ++ taken) fuel
        ⟨rest, offset + (letters.length + 1)⟩ := by
  rw [textBytes]
  simp only [show backslash ≠ quoteByte by decide, if_false, if_true, escaped, bind, Except.bind,
    bytes_toString]
  congr 2
  omega

theorem plain_of_mem_encode {char : Char} {byte : UInt8} (shown : 32 ≤ char.toNat)
    (noQuote : char ≠ '"') (noBackslash : char ≠ '\\')
    (part : byte ∈ String.utf8EncodeChar char) :
    byte ≠ quoteByte ∧ byte ≠ backslash ∧ ¬byte < 32 := by
  -- a byte below 128 is the character itself
  have own (ascii : byte.toNat < 128) : char = Char.ofNat byte.toNat := by
    rw [← Utf8.toNat_of_mem_encode ascii part, Char.ofNat_toNat]
  refine ⟨?_, ?_, fun control => ?_⟩
  · rintro rfl
    exact noQuote (own (by decide))
  · rintro rfl
    exact noBackslash (own (by decide))
  · have low : byte.toNat < 32 := UInt8.lt_iff_toNat_lt.mp control
    have same := Utf8.toNat_of_mem_encode (by omega) part
    omega

theorem textBytes_spelled {char : Char} {piece taken : List UInt8} {fuel : Nat}
    (spelled : Spelled char piece) : ∃ spare, fuel ≤ spare ∧
      textBytes taken (fuel + piece.length) ⟨piece ++ rest, offset⟩ =
        textBytes ((String.utf8EncodeChar char).reverse ++ taken) spare
          ⟨rest, offset + piece.length⟩ := by
  cases spelled with
  | plain shown noQuote noBackslash =>
      exact ⟨fuel, le_rfl,
        textBytes_run fun byte part => plain_of_mem_encode shown noQuote noBackslash part⟩
  | letter known =>
      exact ⟨fuel + 1, by omega, textBytes_escape (escape_of_letter known)⟩
  | @number digits hex =>
      exact ⟨fuel + (letterU :: digits).length, by omega, textBytes_escape (escape_of_number hex)⟩
  | @surrogates high low first second point highSmall lowSmall firstHex secondHex =>
      exact ⟨fuel + (letterU :: (first ++ backslash :: letterU :: second)).length, by omega,
        textBytes_escape (escape_of_surrogates point highSmall lowSmall firstHex secondHex)⟩

theorem textBytes_all {chars : List Char} {pieces : List (List UInt8)} {taken : List UInt8}
    {fuel : Nat} (spelled : List.Forall₂ Spelled chars pieces)
    (enough : pieces.flatten.length < fuel) :
    textBytes taken fuel ⟨pieces.flatten ++ quoteByte :: rest, offset⟩ =
      .ok (taken.reverse ++ chars.flatMap String.utf8EncodeChar,
        ⟨quoteByte :: rest, offset + pieces.flatten.length⟩) := by
  induction spelled generalizing taken fuel offset with
  | nil =>
      obtain ⟨fuel, rfl⟩ : ∃ less, fuel = less + 1 := ⟨fuel - 1, by simp at enough; omega⟩
      simp [textBytes]
  | @cons char piece chars pieces first others ih =>
      simp only [List.flatten_cons, List.length_append] at enough ⊢
      obtain ⟨less, rfl⟩ : ∃ less, fuel = less + piece.length := ⟨fuel - piece.length, by omega⟩
      obtain ⟨spare, most, step⟩ := textBytes_spelled first
      rw [List.append_assoc, step, ih (by omega)]
      simp [Nat.add_assoc]

theorem Quoted.starts {content : String} {bytes : List UInt8} (quoted : Quoted content bytes) :
    ∃ body, bytes = quoteByte :: body := by
  cases quoted
  exact ⟨_, rfl⟩

theorem textRest_of_quoted {content : String} {body : List UInt8}
    (quoted : Quoted content (quoteByte :: body)) :
    textRest ⟨body ++ rest, offset⟩ = .ok (content, ⟨rest, offset + body.length⟩) := by
  obtain ⟨pieces, spelled, rfl⟩ : ∃ pieces, List.Forall₂ Spelled content.toList pieces ∧
      body = pieces.flatten ++ [quoteByte] := by
    cases quoted with
    | spelled all => exact ⟨_, all, rfl⟩
  rw [textRest, List.append_assoc, List.singleton_append,
    textBytes_all spelled (by simp)]
  simp only [bind, Except.bind, List.reverse_nil, List.nil_append, ← Utf8.bytes_eq,
    Utf8.text?_bytes]
  simp [Cursor.advance, Nat.add_assoc]

end Strings

end BuildWatch.Json
