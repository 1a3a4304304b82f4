import BuildWatch.Json.Cursor

/-!
JSON strings. The bytes between the quotes are taken as they are, escapes are replaced by what
they stand for, and the whole has to be UTF-8; two escapes of surrogates make one character.
-/

namespace BuildWatch.Json

def quoteByte : UInt8 := 34
def backslash : UInt8 := 92
def letterU : UInt8 := 117

def hexDigit? (byte : UInt8) : Option Nat :=
  if 48 ≤ byte && byte ≤ 57 then some (byte.toNat - 48)
  else if 97 ≤ byte && byte ≤ 102 then some (byte.toNat - 87)
  else if 65 ≤ byte && byte ≤ 70 then some (byte.toNat - 55)
  else none

def hexNumber : Reader Nat := fun cursor =>
  match cursor.rest with
  | first :: second :: third :: fourth :: rest =>
    let after : Cursor := ⟨rest, cursor.offset + 4⟩
    match hexDigit? first, hexDigit? second, hexDigit? third, hexDigit? fourth with
    | some first, some second, some third, some fourth =>
      .ok (((first * 16 + second) * 16 + third) * 16 + fourth, after)
    | _, _, _, _ => after.failHere .invalidEscape
  | _ => (cursor.advance cursor.rest.length).failHere .endInText

def hexJoint (wanted : UInt8) (cursor : Cursor) : Except Error Cursor :=
  match cursor.peek with
  | none => cursor.failHere .endInText
  | some byte =>
    if byte = wanted then .ok (cursor.advance 1) else (cursor.advance 1).failHere .endOfHexEscape

def hexEscape : Reader Char := fun cursor => do
  let (first, after) ← hexNumber cursor
  if 0xDC00 ≤ first ∧ first ≤ 0xDFFF then after.failHere .loneSurrogate
  else if 0xD800 ≤ first ∧ first ≤ 0xDBFF then
    let (second, after) ← hexNumber (← hexJoint letterU (← hexJoint backslash after))
    if second < 0xDC00 ∨ 0xDFFF < second then after.failHere .loneSurrogate
    else .ok (Char.ofNat ((first - 0xD800) * 1024 + (second - 0xDC00) + 0x10000), after)
  else .ok (Char.ofNat first, after)

def escape : Reader Char := fun cursor =>
  match cursor.rest with
  | [] => cursor.failHere .endInText
  | byte :: _ =>
    let after := cursor.advance 1
    if byte = quoteByte then .ok ('"', after)
    else if byte = backslash then .ok ('\\', after)
    else if byte = 47 then .ok ('/', after)
    else if byte = 98 then .ok (Char.ofNat 8, after)
    else if byte = 102 then .ok (Char.ofNat 12, after)
    else if byte = 110 then .ok ('\n', after)
    else if byte = 114 then .ok ('\r', after)
    else if byte = 116 then .ok ('\t', after)
    else if byte = letterU then hexEscape after
    else after.failHere .invalidEscape

/-- The bytes of a string after its first quote, and the place of the last one; the bytes read
so far stand in `taken` from the last to the first. Every step uses up a byte, so that fuel for all
that are left is enough. -/
def textBytes (taken : List UInt8) : Nat → Cursor → Except Error (List UInt8 × Cursor)
  | 0, cursor => cursor.failHere .endInText
  | fuel + 1, cursor =>
    match cursor.rest with
    | [] => cursor.failHere .endInText
    | byte :: rest =>
      if byte = quoteByte then .ok (taken.reverse, cursor)
      else if byte = backslash then do
        let (char, after) ← escape ⟨rest, cursor.offset + 1⟩
        textBytes ((Utf8.bytes char.toString).reverse ++ taken) fuel after
      else if byte < 32 then .error ⟨.control, cursor.offset + 1⟩
      else textBytes (byte :: taken) fuel ⟨rest, cursor.offset + 1⟩

/-- A string, after its first quote. Bytes that are not UTF-8 are reported as far before the last
quote as the broken part is long, each escape in it counted as the bytes that it stands for. -/
def textRest : Reader String := fun cursor => do
  let (bytes, last) ← textBytes [] (cursor.rest.length + 1) cursor
  match Utf8.text? bytes with
  | some text => .ok (text, last.advance 1)
  | none => .error ⟨.invalidCodePoint, last.offset + 1 - (Utf8.brokenPart bytes).length⟩

end BuildWatch.Json
