/-!
UTF-8 text in bytes that may be broken. `Utf8.text?` reads well-formed bytes only; `Utf8.lossy`
reads any bytes and shows every broken sequence as one replacement character.
-/

namespace BuildWatch.Utf8

def text? (bytes : List UInt8) : Option String :=
  String.fromUTF8? (ByteArray.mk bytes.toArray)

def bytes (text : String) : List UInt8 :=
  text.toUTF8.data.toList

def following (lead : UInt8) : Option (Nat × UInt8 × UInt8) :=
  if lead < 0xC2 then none
  else if lead ≤ 0xDF then some (1, 0x80, 0xBF)
  else if lead = 0xE0 then some (2, 0xA0, 0xBF)
  else if lead = 0xED then some (2, 0x80, 0x9F)
  else if lead ≤ 0xEF then some (2, 0x80, 0xBF)
  else if lead = 0xF0 then some (3, 0x90, 0xBF)
  else if lead ≤ 0xF3 then some (3, 0x80, 0xBF)
  else if lead = 0xF4 then some (3, 0x80, 0x8F)
  else none

/-- The number of the given bytes, at most `wanted`, that continue a character; only the first
is held to the given range, the others to the range of all continuation bytes. -/
def continuation : Nat → UInt8 → UInt8 → List UInt8 → Nat
  | 0, _, _, _ => 0
  | _, _, _, [] => 0
  | wanted + 1, low, high, byte :: rest =>
    if low ≤ byte && byte ≤ high then continuation wanted 0x80 0xBF rest + 1 else 0

def codePoint (lead : UInt8) (tail : List UInt8) : Nat :=
  let start := match tail.length with
    | 1 => lead.toNat % 32
    | 2 => lead.toNat % 16
    | _ => lead.toNat % 8
  tail.foldl (fun point byte => point * 64 + byte.toNat % 64) start

def brokenPart : List UInt8 → List UInt8
  | [] => []
  | lead :: rest =>
    if lead < 0x80 then brokenPart rest
    else match following lead with
      | none => lead :: rest
      | some (wanted, low, high) =>
        if continuation wanted low high rest = wanted then brokenPart (rest.drop wanted)
        else lead :: rest
termination_by bytes => bytes.length
decreasing_by all_goals simp only [List.length_drop, List.length_cons]; omega

def replacement : Char := Char.ofNat 0xFFFD

/-- The first character of the bytes and how many bytes after the lead byte belong to it: the
replacement character stands for the longest run that starts a character and does not end it. -/
def first (lead : UInt8) (rest : List UInt8) : Char × Nat :=
  if lead < 0x80 then (Char.ofNat lead.toNat, 0)
  else match following lead with
    | none => (replacement, 0)
    | some (wanted, low, high) =>
      let found := continuation wanted low high rest
      if found = wanted then (Char.ofNat (codePoint lead (rest.take wanted)), wanted)
      else (replacement, found)

def lossyChars : List UInt8 → List Char
  | [] => []
  | lead :: rest =>
    let (char, used) := first lead rest
    char :: lossyChars (rest.drop used)
termination_by bytes => bytes.length
decreasing_by simp only [List.length_drop, List.length_cons]; omega

def lossy (bytes : List UInt8) : String :=
  (text? bytes).getD (String.ofList (lossyChars bytes))

end BuildWatch.Utf8
