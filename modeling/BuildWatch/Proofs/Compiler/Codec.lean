import BuildWatch.Proofs.Compiler.Field

/-!
The four messages are read back as they were written, whatever they hold, and they take as many
bytes as were counted for them beforehand.
-/

namespace BuildWatch

open Reader

section Members

variable {α β : Type} {merge : α → FieldKey → Reader α} {field : Nat} {wire : WireType}
  {title label : String} {reader : Reader β}

theorem Reader.Merges.member {bytes : ByteArray} {before : α} {got : β}
    (reads : Reads reader bytes got) (make : β → α)
    (found : merge before ⟨field, wire⟩ = fun input => inside title label do
      let (value, rest) ← reader input
      .ok (make value, rest))
    (known : 0 < field ∧ field < 2 ^ 29) :
    Merges merge (Field.key field wire ++ bytes) before (make got) :=
  .field (found ▸ reads.inside title label make) known.1 known.2

theorem Reader.Merges.text (put : String → α)
    (found : merge (put "") ⟨field, .lengthDelimited⟩ = fun input => inside title label do
      let (value, rest) ← text .lengthDelimited input
      .ok (put value, rest))
    (known : 0 < field ∧ field < 2 ^ 29) (value : String) :
    Merges merge (Field.optional (value = "") (Field.text field value)) (put "") (put value) := by
  refine .optional (fun default => ?_) ?_
  · rw [of_decide_eq_true default]
  · rw [Field.text, Field.delimited, ByteArray.append_assoc]
    exact .member (reads_text value) put found known

theorem Reader.Merges.bytes (put : ByteArray → α)
    (found : merge (put ByteArray.empty) ⟨field, .lengthDelimited⟩ = fun input =>
      inside title label do
        let (value, rest) ← delimited .lengthDelimited input
        .ok (put value, rest))
    (known : 0 < field ∧ field < 2 ^ 29) (value : ByteArray) :
    Merges merge (Field.optional value.isEmpty (Field.delimited field value))
      (put ByteArray.empty) (put value) := by
  refine .optional (fun default => ?_) ?_
  · have nothing : value.size = 0 := of_decide_eq_true default
    have empty : value = ByteArray.empty :=
      octets_inj (List.eq_nil_of_length_eq_zero nothing)
    rw [empty]
  · rw [Field.delimited, ByteArray.append_assoc]
    exact .member (reads_delimited value) put found known

theorem Reader.Merges.number {ω : Type} [DecidableEq ω] {zero value : ω} {written : Nat}
    (low : Nat → ω) (put : ω → α)
    (found : merge (put zero) ⟨field, .varint⟩ = fun input => inside title label do
      let (value, rest) ← number .varint input
      .ok (put (low value), rest))
    (known : 0 < field ∧ field < 2 ^ 29) (fits : written < Varint.limit)
    (same : low written = value) :
    Merges merge (Field.optional (value = zero) (Field.number field written)) (put zero)
      (put value) := by
  refine .optional (fun default => ?_) ?_
  · rw [of_decide_eq_true default]
  · rw [← same]
    exact .member (reads_number fits) (fun value => put (low value)) found known

theorem Reader.Merges.list {payload : β → ByteArray}
    (reads : ∀ value, Reads reader (Field.varint (payload value).size ++ payload value) value)
    (put : List β → α)
    (found : ∀ gathered, merge (put gathered) ⟨field, .lengthDelimited⟩ = fun input =>
      inside title label do
        let (value, rest) ← reader input
        .ok (put (value :: gathered), rest))
    (known : 0 < field ∧ field < 2 ^ 29) (values : List β) :
    Merges merge (Field.each (fun value => Field.delimited field (payload value)) values)
      (put []) (put values.reverse) := by
  rw [← List.append_nil values.reverse]
  refine .each (fun gathered value => ?_) values []
  rw [Field.delimited, ByteArray.append_assoc]
  exact .member (reads value) (fun value => put (value :: gathered)) (found gathered) known

end Members

namespace DefineValue

theorem size_encode (value : DefineValue) : value.encode.size = value.size := by
  cases value with
  | boolean value => exact Field.size_number 2 value.toNat
  | number bits => rw [encode, ByteArray.size_append, Field.size_key, Field.size_sixtyFour, size]
  | text value => exact Field.size_text 4 value

end DefineValue

namespace Define

theorem size_encode (define : Define) : define.encode.size = define.size := by
  rw [encode, ByteArray.size_append, Field.size_optional (Field.size_text 1 define.name), size]
  cases define.value with
  | none => rfl
  | some value => exact congrArg _ value.size_encode

theorem merges (budget : Nat) (define : Define) :
    Merges (merge budget) define.encode initial define := by
  obtain ⟨name, value⟩ := define
  have named : Merges (merge budget) (Field.optional (name = "") (Field.text 1 name)) initial
      ⟨name, none⟩ :=
    .text (fun name => (⟨name, none⟩ : Define)) rfl (by decide) name
  refine named.append ?_
  cases value with
  | none => exact .nothing _
  | some value =>
      let put (value : DefineValue) : Define := ⟨name, some value⟩
      cases value with
      | boolean value =>
          have small : value.toNat < Varint.limit := by cases value <;> decide
          have same : decide (value.toNat ≠ 0) = value := by cases value <;> rfl
          have read : Merges (merge budget) (Field.number 2 value.toNat) ⟨name, none⟩
              (put (.boolean (value.toNat ≠ 0))) :=
            .member (reads_number small) (fun number => put (.boolean (number ≠ 0))) rfl
              (by decide)
          rw [same] at read
          exact read
      | number bits =>
          exact .member (reads_sixtyFour bits) (fun bits => put (.number bits)) rfl (by decide)
      | text value =>
          have read : Merges (merge budget)
              (Field.key 4 .lengthDelimited ++ (Field.varint value.toUTF8.size ++ value.toUTF8))
              ⟨name, none⟩ (put (.text value)) :=
            .member (reads_text value) (fun value => put (.text value)) rfl (by decide)
          rw [← ByteArray.append_assoc] at read
          exact read

theorem decode_encode (define : Define) (fits : define.size < Varint.limit) :
    decode define.encode = .ok define :=
  (define.merges depthBudget).whole (define.size_encode ▸ fits)

end Define

namespace Request

theorem size_encode (request : Request) : request.encode.size = request.size := by
  simp only [encode, ByteArray.size_append, size]
  rw [Field.size_each (Field.size_text 1), Field.size_each (Field.size_text 2),
    Field.size_optional (Field.size_text 3 _), Field.size_optional (Field.size_text 4 _),
    Field.size_each fun define =>
      (Field.size_delimited 5 _).trans (congrArg _ define.size_encode)]

theorem merges (request : Request) : Merges merge request.encode initial request.turned := by
  -- the fields stand in the order of their numbers, and each fills in one member
  obtain ⟨files, entryPoints, baseDirectory, sourceMapName, defines⟩ := request
  have first : Merges merge (Field.each (Field.text 1) files) initial
      ⟨files.reverse, [], "", "", []⟩ :=
    .list reads_text (fun files => (⟨files, [], "", "", []⟩ : Request)) (fun _ => rfl)
      (by decide) files
  have second : Merges merge (Field.each (Field.text 2) entryPoints) _
      ⟨files.reverse, entryPoints.reverse, "", "", []⟩ :=
    .list reads_text (fun entryPoints => (⟨files.reverse, entryPoints, "", "", []⟩ : Request))
      (fun _ => rfl) (by decide) entryPoints
  have third : Merges merge
      (Field.optional (baseDirectory = "") (Field.text 3 baseDirectory)) _
      ⟨files.reverse, entryPoints.reverse, baseDirectory, "", []⟩ :=
    .text (fun baseDirectory =>
      (⟨files.reverse, entryPoints.reverse, baseDirectory, "", []⟩ : Request)) rfl (by decide)
      baseDirectory
  have fourth : Merges merge
      (Field.optional (sourceMapName = "") (Field.text 4 sourceMapName)) _
      ⟨files.reverse, entryPoints.reverse, baseDirectory, sourceMapName, []⟩ :=
    .text (fun sourceMapName =>
      (⟨files.reverse, entryPoints.reverse, baseDirectory, sourceMapName, []⟩ : Request)) rfl
      (by decide) sourceMapName
  have fifth : Merges merge
      (Field.each (fun define => Field.delimited 5 define.encode) defines) _
      ⟨files.reverse, entryPoints.reverse, baseDirectory, sourceMapName, defines.reverse⟩ :=
    .list (fun define => (define.merges (depthBudget - 1)).nested) (fun defines =>
      (⟨files.reverse, entryPoints.reverse, baseDirectory, sourceMapName, defines⟩ : Request))
      (fun _ => rfl) (by decide) defines
  exact (((first.append second).append third).append fourth).append fifth

theorem turned_turned (request : Request) : request.turned.turned = request := by
  simp [turned]

theorem decode_encode (request : Request) (fits : request.size < Varint.limit) :
    decode request.encode = .ok request := by
  rw [decode, request.merges.whole (request.size_encode ▸ fits)]
  exact congrArg _ request.turned_turned

end Request

namespace Finding

theorem size_encode (finding : Finding) : finding.encode.size = finding.size := by
  simp only [encode, ByteArray.size_append, size]
  rw [Field.size_optional (Field.size_number 1 _), Field.size_optional (Field.size_text 2 _),
    Field.size_optional (Field.size_number 3 _), Field.size_optional (Field.size_number 4 _),
    Field.size_optional (Field.size_text 5 _)]

theorem merges (budget : Nat) (finding : Finding) :
    Merges (merge budget) finding.encode initial finding := by
  obtain ⟨severity, file, line, column, message⟩ := finding
  have first : Merges (merge budget)
      (Field.optional (severity = 0) (Field.number 1 (Field.word severity))) initial
      ⟨severity, "", 0, 0, ""⟩ :=
    .number Int32.ofNat (fun severity => (⟨severity, "", 0, 0, ""⟩ : Finding)) rfl (by decide)
      (Field.word_lt severity) (Field.ofNat_word severity)
  have second : Merges (merge budget) (Field.optional (file = "") (Field.text 2 file)) _
      ⟨severity, file, 0, 0, ""⟩ :=
    .text (fun file => (⟨severity, file, 0, 0, ""⟩ : Finding)) rfl (by decide) file
  have third : Merges (merge budget)
      (Field.optional (line = 0) (Field.number 3 line.toNat)) _ ⟨severity, file, line, 0, ""⟩ :=
    .number UInt32.ofNat (fun line => (⟨severity, file, line, 0, ""⟩ : Finding)) rfl (by decide)
      (Nat.lt_trans line.toNat_lt (by decide)) UInt32.ofNat_toNat
  have fourth : Merges (merge budget)
      (Field.optional (column = 0) (Field.number 4 column.toNat)) _
      ⟨severity, file, line, column, ""⟩ :=
    .number UInt32.ofNat (fun column => (⟨severity, file, line, column, ""⟩ : Finding)) rfl
      (by decide) (Nat.lt_trans column.toNat_lt (by decide)) UInt32.ofNat_toNat
  have fifth : Merges (merge budget) (Field.optional (message = "") (Field.text 5 message)) _
      ⟨severity, file, line, column, message⟩ :=
    .text (fun message => (⟨severity, file, line, column, message⟩ : Finding)) rfl (by decide)
      message
  exact (((first.append second).append third).append fourth).append fifth

theorem decode_encode (finding : Finding) (fits : finding.size < Varint.limit) :
    decode finding.encode = .ok finding :=
  (finding.merges depthBudget).whole (finding.size_encode ▸ fits)

end Finding

namespace Response

theorem size_encode (response : Response) : response.encode.size = response.size := by
  simp only [encode, ByteArray.size_append, size]
  rw [Field.size_optional (Field.size_delimited 1 _),
    Field.size_optional (Field.size_delimited 2 _), Field.size_each fun finding =>
      (Field.size_delimited 3 _).trans (congrArg _ finding.size_encode)]

theorem merges (response : Response) : Merges merge response.encode initial response.turned := by
  obtain ⟨code, sourceMap, findings⟩ := response
  have first : Merges merge (Field.optional code.isEmpty (Field.delimited 1 code)) initial
      ⟨code, ByteArray.empty, []⟩ :=
    .bytes (fun code => (⟨code, ByteArray.empty, []⟩ : Response)) rfl (by decide) code
  have second : Merges merge
      (Field.optional sourceMap.isEmpty (Field.delimited 2 sourceMap)) _
      ⟨code, sourceMap, []⟩ :=
    .bytes (fun sourceMap => (⟨code, sourceMap, []⟩ : Response)) rfl (by decide) sourceMap
  have third : Merges merge
      (Field.each (fun finding => Field.delimited 3 finding.encode) findings) _
      ⟨code, sourceMap, findings.reverse⟩ :=
    .list (fun finding => (finding.merges (depthBudget - 1)).nested)
      (fun findings => (⟨code, sourceMap, findings⟩ : Response)) (fun _ => rfl) (by decide)
      findings
  exact (first.append second).append third

theorem turned_turned (response : Response) : response.turned.turned = response := by
  simp [turned]

theorem decode_encode (response : Response) (fits : response.size < Varint.limit) :
    decode response.encode = .ok response := by
  rw [decode, response.merges.whole (response.size_encode ▸ fits)]
  exact congrArg _ response.turned_turned

end Response

end BuildWatch
