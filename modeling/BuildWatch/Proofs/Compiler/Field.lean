import BuildWatch.Compiler.Decode
import BuildWatch.Proofs.Compiler.Varint

/-!
Fields that are read as they were written. `Reader.Reads` says what a reader gets from some bytes,
whatever follows them, and `Reader.Merges` what reading fields from some bytes makes of a message.
-/

namespace BuildWatch

variable {α β : Type}

theorem octets_varint (number : Nat) : octets (Field.varint number) = Varint.encode number :=
  octets_toByteArray _

theorem size_varint (number : Nat) : (Field.varint number).size = Varint.size number := by
  rw [← length_octets, octets_varint, Varint.length_encode]

theorem WireType.number_lt (wire : WireType) : wire.number < 8 := by
  cases wire <;> decide

theorem WireType.ofNumber?_number (wire : WireType) : ofNumber? wire.number = some wire := by
  cases wire <;> rfl

namespace Field

theorem size_key (field : Nat) (wire : WireType) : (key field wire).size = keySize field := by
  rw [key, size_varint, Varint.size_add_of_lt field _ wire.number_lt, keySize]

theorem size_delimited (field : Nat) (payload : ByteArray) :
    (delimited field payload).size = delimitedSize field payload.size := by
  rw [delimited, ByteArray.size_append, ByteArray.size_append, size_key, size_varint,
    delimitedSize]

theorem size_number (field value : Nat) : (number field value).size = numberSize field value := by
  rw [number, ByteArray.size_append, size_key, size_varint, numberSize]

theorem size_text (field : Nat) (value : String) :
    (text field value).size = textSize field value := by
  rw [text, size_delimited, textSize]
  rfl

theorem size_sixtyFour (bits : UInt64) : (sixtyFour bits).size = 8 := by
  rw [sixtyFour, List.size_toByteArray, List.length_map, List.length_range]

theorem size_optional {isDefault : Bool} {written : ByteArray} {length : Nat}
    (same : written.size = length) :
    (optional isDefault written).size = optionalSize isDefault length := by
  cases isDefault
  · exact same
  · rfl

theorem octets_each (write : α → ByteArray) (values : List α) :
    octets (each write values) = values.flatMap fun value => octets (write value) := by
  suffices ∀ start, octets (values.foldl (fun bytes value => bytes ++ write value) start) =
      octets start ++ values.flatMap fun value => octets (write value) from this _
  induction values with
  | nil => intro start; simp
  | cons value rest ih => intro start; simp [ih]

theorem each_cons (write : α → ByteArray) (value : α) (values : List α) :
    each write (value :: values) = write value ++ each write values := by
  apply octets_inj
  rw [octets_append, octets_each, octets_each, List.flatMap_cons]

theorem size_each {write : α → ByteArray} {size : α → Nat}
    (same : ∀ value, (write value).size = size value) (values : List α) :
    (each write values).size = sizeEach size values := by
  induction values with
  | nil => rfl
  | cons value rest ih =>
      rw [each_cons, ByteArray.size_append, ih, same, sizeEach, sizeEach, List.foldr_cons]

def spelled (bytes : List UInt8) : UInt64 :=
  bytes.foldr (fun byte bits => bits <<< 8 ||| byte.toUInt64) 0

theorem spelled_bytes (bits : UInt64) {place count : Nat} (short : place + count ≤ 8) :
    (spelled ((List.range' place count).map fun place =>
      (bits >>> (8 * place).toUInt64).toUInt8)).toNat =
        bits.toNat / 256 ^ place % 256 ^ count := by
  induction count generalizing place with
  | zero => simp [spelled, Nat.mod_one]
  | succ count ih =>
      have high := @ih (place + 1) (by omega)
      rw [List.range'_succ, List.map_cons, spelled, List.foldr_cons, ← spelled]
      generalize spelled _ = word at high ⊢
      have below : word.toNat < 256 ^ 7 := by
        rw [high]
        exact Nat.lt_of_lt_of_le (Nat.mod_lt _ (Nat.pow_pos (by decide)))
          (Nat.pow_le_pow_right (by decide) (by omega))
      have raised : (word <<< 8).toNat = word.toNat <<< 8 := by
        rw [UInt64.toNat_shiftLeft, Nat.shiftLeft_eq, Nat.shiftLeft_eq]
        simp only [UInt64.reduceToNat, Nat.reduceMod, Nat.reducePow]
        omega
      have amount : (8 * place).toUInt64.toNat % 64 = 8 * place := by
        rw [Nat.toUInt64, UInt64.toNat_ofNat']
        omega
      have low : (bits >>> (8 * place).toUInt64).toUInt8.toUInt64.toNat =
          bits.toNat / 256 ^ place % 256 := by
        rw [UInt8.toNat_toUInt64, UInt64.toNat_toUInt8, UInt64.toNat_shiftRight, amount,
          Nat.shiftRight_eq_div_pow, Nat.pow_mul]
      rw [UInt64.toNat_or, raised, low,
        ← Nat.shiftLeft_add_eq_or_of_lt (Nat.mod_lt _ (by decide)), Nat.shiftLeft_eq, high,
        Nat.pow_succ 256 count, Nat.mul_comm (256 ^ count), Nat.mod_mul, Nat.pow_succ,
        ← Nat.div_div_eq_div_mul]
      omega

theorem spelled_sixtyFour (bits : UInt64) : spelled (octets (sixtyFour bits)) = bits := by
  apply UInt64.toNat_inj.mp
  rw [sixtyFour, octets_toByteArray, List.range_eq_range', spelled_bytes bits (by decide),
    Nat.pow_zero, Nat.div_one]
  exact Nat.mod_eq_of_lt bits.toNat_lt

theorem word_lt (value : Int32) : word value < Varint.limit := by
  unfold word Varint.limit
  omega

theorem ofNat_word (value : Int32) : Int32.ofNat (word value) = value := by
  apply Int32.toInt_inj.mp
  have low := value.le_toInt
  have high := value.toInt_lt
  rw [Int32.toInt_ofNat', word, Varint.limit, Int32.size, Int.bmod_def]
  omega

end Field

namespace Reader

/-- A reader gets a value from these bytes, whatever follows them; there are no more of them than
a length can say. -/
def Reads (reader : Reader α) (bytes : ByteArray) (value : α) : Prop :=
  bytes.size < Varint.limit →
    ∀ (input : Input) (rest : List UInt8), input.toList = octets bytes ++ rest →
      ∃ after, reader input = .ok (value, after) ∧ after.toList = rest

theorem reads_varint {number : Nat} (fits : number < Varint.limit) :
    Reads varint (Field.varint number) number := by
  intro _ input rest view
  rw [octets_varint] at view
  obtain ⟨after, read, left⟩ := Varint.read?_encode fits view
  refine ⟨after, ?_, left⟩
  rw [varint, read]

theorem reads_take (bytes : ByteArray) : Reads (take bytes.size) bytes bytes := by
  intro _ input rest view
  obtain ⟨after, taken, left⟩ := Input.take?_of_toList view
  refine ⟨after, ?_, left⟩
  rw [take, taken]

theorem reads_key {field : Nat} (positive : 0 < field) (small : field < 2 ^ 29)
    (wire : WireType) : Reads key (Field.key field wire) ⟨field, wire⟩ := by
  intro fits input rest view
  have kind := wire.number_lt
  have number : field * 8 + wire.number < Varint.limit := by
    unfold Varint.limit
    omega
  obtain ⟨after, read, left⟩ := reads_varint number fits input rest view
  refine ⟨after, ?_, left⟩
  have low : (field * 8 + wire.number) % 8 = wire.number := by omega
  have high : (field * 8 + wire.number) / 8 = field := by omega
  have bounded : ¬ 0x100000000 ≤ field * 8 + wire.number := by omega
  have nonzero : field ≠ 0 := by omega
  simp only [key, read, bind, Except.bind, if_neg bounded, low, high,
    WireType.ofNumber?_number, if_neg nonzero]

theorem reads_number {value : Nat} (fits : value < Varint.limit) :
    Reads (number .varint) (Field.varint value) value :=
  reads_varint fits

theorem reads_sixtyFour (bits : UInt64) :
    Reads (sixtyFour .sixtyFourBit) (Field.sixtyFour bits) bits := by
  intro fits input rest view
  obtain ⟨after, taken, left⟩ := reads_take (Field.sixtyFour bits) fits input rest view
  rw [Field.size_sixtyFour] at taken
  refine ⟨after, ?_, left⟩
  simp only [sixtyFour, expect, if_pos, bind, Except.bind, taken]
  rw [← octets, ← Field.spelled, Field.spelled_sixtyFour]

theorem reads_delimited (payload : ByteArray) :
    Reads (delimited .lengthDelimited) (Field.varint payload.size ++ payload) payload := by
  intro fits input rest view
  rw [ByteArray.size_append] at fits
  rw [octets_append, List.append_assoc] at view
  have number : payload.size < Varint.limit := by omega
  obtain ⟨middle, read, remains⟩ := reads_varint number (by omega) input _ view
  obtain ⟨after, taken, left⟩ := reads_take payload (by omega) middle rest remains
  refine ⟨after, ?_, left⟩
  simp only [delimited, expect, if_pos, bind, Except.bind, read, taken]

theorem reads_text (value : String) :
    Reads (text .lengthDelimited) (Field.varint value.toUTF8.size ++ value.toUTF8) value := by
  intro fits input rest view
  obtain ⟨after, read, left⟩ := reads_delimited value.toUTF8 fits input rest view
  refine ⟨after, ?_, left⟩
  have decoded : String.fromUTF8? value.toUTF8 = some value := dif_pos value.isValidUTF8
  simp only [text, read, bind, Except.bind, decoded]

theorem Reads.inside {reader : Reader α} {bytes : ByteArray} {value : α}
    (reads : Reads reader bytes value) (title field : String) (make : α → β) :
    Reads (fun input => inside title field do
      let (got, rest) ← reader input
      .ok (make got, rest)) bytes (make value) := by
  intro fits input rest view
  obtain ⟨after, read, left⟩ := reads fits input rest view
  refine ⟨after, ?_, left⟩
  simp only [read]
  rfl

variable {merge : α → FieldKey → Reader α}

def Merges (merge : α → FieldKey → Reader α) (bytes : ByteArray) (before after : α) : Prop :=
  bytes.size < Varint.limit →
    ∀ (left : Nat) (input : Input) (rest : List UInt8), input.toList = octets bytes ++ rest →
      left ≤ rest.length →
        ∃ next, next.toList = rest ∧
          fields merge left before input = fields merge left after next

theorem Merges.nothing (message : α) : Merges merge ByteArray.empty message message :=
  fun _ _ input _ view _ => ⟨input, view, rfl⟩

theorem Merges.append {front back : ByteArray} {before between after : α}
    (first : Merges merge front before between) (second : Merges merge back between after) :
    Merges merge (front ++ back) before after := by
  intro fits left input rest view room
  rw [ByteArray.size_append] at fits
  rw [octets_append, List.append_assoc] at view
  have wider : left ≤ (octets back ++ rest).length := by
    rw [List.length_append]
    omega
  obtain ⟨middle, remains, same⟩ := first (by omega) left input _ view wider
  obtain ⟨next, ends, also⟩ := second (by omega) left middle rest remains room
  exact ⟨next, ends, same.trans also⟩

theorem Merges.field {field : Nat} {wire : WireType} {bytes : ByteArray} {before after : α}
    (reads : Reads (merge before ⟨field, wire⟩) bytes after) (positive : 0 < field)
    (small : field < 2 ^ 29) : Merges merge (Field.key field wire ++ bytes) before after := by
  intro fits left input rest view room
  rw [ByteArray.size_append] at fits
  rw [octets_append, List.append_assoc] at view
  obtain ⟨middle, found, remains⟩ := reads_key positive small wire (by omega) input _ view
  obtain ⟨next, merged, ends⟩ := reads (by omega) middle rest remains
  -- the key alone makes the input shorter, which the loop over the fields asks for
  have keyed : 0 < (octets (Field.key field wire)).length := by
    rw [Field.key, octets_varint]
    exact List.length_pos_iff.mpr (Varint.encode_ne_nil _)
  have shorter : next.remaining < input.remaining := by
    rw [Input.remaining_eq, Input.remaining_eq, ends, view, List.length_append,
      List.length_append]
    omega
  have more : left < input.remaining := by
    rw [Input.remaining_eq, ends] at shorter
    omega
  refine ⟨next, ends, ?_⟩
  rw [fields, if_pos more, found]
  simp only [bind, Except.bind, merged, dif_pos shorter]

theorem Merges.optional {isDefault : Bool} {written : ByteArray} {before after : α}
    (default : isDefault = true → before = after)
    (other : Merges merge written before after) :
    Merges merge (Field.optional isDefault written) before after := by
  cases isDefault with
  | true => exact default rfl ▸ .nothing before
  | false => exact other

theorem Merges.each {write : β → ByteArray} {put : List β → α}
    (one : ∀ gathered value,
      Merges merge (write value) (put gathered) (put (value :: gathered)))
    (values gathered : List β) :
    Merges merge (Field.each write values) (put gathered) (put (values.reverse ++ gathered)) := by
  induction values generalizing gathered with
  | nil => exact .nothing _
  | cons value rest ih =>
      rw [Field.each_cons, List.reverse_cons, List.append_assoc]
      exact (one gathered value).append (ih (value :: gathered))

theorem fields_of_remaining {left : Nat} {message : α} {input : Input}
    (exact : input.remaining = left) : fields merge left message input = .ok (message, input) := by
  rw [fields, if_neg (by omega), if_pos exact]

theorem Merges.whole {bytes : ByteArray} {initial message : α}
    (merges : Merges merge bytes initial message) (fits : bytes.size < Varint.limit) :
    whole merge initial bytes = .ok message := by
  obtain ⟨next, ends, same⟩ := merges fits 0 (Input.ofBytes bytes) [] (List.append_nil _).symm
    (Nat.zero_le _)
  have done : next.remaining = 0 := by rw [Input.remaining_eq, ends, List.length_nil]
  rw [Reader.whole, same, fields_of_remaining done]
  rfl

theorem Merges.nested {bytes : ByteArray} {initial message : α}
    (merges : Merges merge bytes initial message) :
    Reads (nested merge initial .lengthDelimited) (Field.varint bytes.size ++ bytes)
      message := by
  intro fits input rest view
  rw [ByteArray.size_append] at fits
  rw [octets_append, List.append_assoc] at view
  have number : bytes.size < Varint.limit := by omega
  obtain ⟨middle, read, remains⟩ := reads_varint number (by omega) input _ view
  -- the loop over the inner fields stops where the bytes after the message begin
  have length : middle.remaining = bytes.size + rest.length := by
    rw [Input.remaining_eq, remains, List.length_append, length_octets]
  obtain ⟨next, ends, same⟩ := merges number rest.length middle rest remains (Nat.le_refl _)
  have done : next.remaining = rest.length := by rw [Input.remaining_eq, ends]
  have enough : ¬ middle.remaining < bytes.size := by omega
  have left : middle.remaining - bytes.size = rest.length := by omega
  refine ⟨next, ?_, ends⟩
  simp only [Reader.nested, expect, if_pos, bind, Except.bind, read, if_neg enough, left, same,
    fields_of_remaining done]

end Reader

end BuildWatch
