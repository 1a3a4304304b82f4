import BuildWatch.Proofs.Json.Object

/-!
Records are read from lists too, whose elements stand for the fields in their order. Objects and
lists that fit are all that a record is read from, and a text that holds one value is read as what
its value is.
-/

namespace BuildWatch.Json

variable {α : Type}

section Steps

variable {gap bytes rest : List UInt8} {offset : Nat} {isFirst : Bool} {value : Value}
  {field : Field α} {fields : List (Field α)} {record : α}

theorem Value.notMem_openings_bracket : 93 ∉ value.openings := by
  rcases value with _ | (_ | _) | _ | _ | _ | _ <;> simp [openings, digitBytes, quoteByte]

theorem nextElement_gap (gapped : Gap isFirst gap) (written : Written value bytes) :
    nextElement isFirst ⟨gap ++ (bytes ++ rest), offset⟩ =
      .ok (some ⟨bytes ++ rest, offset + gap.length⟩) := by
  obtain ⟨first, opens, tail, rfl⟩ := written.opens
  have sharp := Value.sharp_of_mem_openings opens
  have item : first ≠ 93 := by
    rintro rfl
    exact Value.notMem_openings_bracket opens
  rw [List.cons_append]
  cases gapped with
  | first blanks =>
      rw [nextElement, skipBlanks_cons blanks sharp]
      simp [Cursor.peek, item]
  | @next before after blanksBefore blanksAfter =>
      rw [nextElement, List.append_assoc, List.cons_append,
        skipBlanks_cons blanksBefore (by decide)]
      simp only [Cursor.peek, Cursor.advance, List.head?_cons, List.drop_one, List.tail_cons,
        skipBlanks_cons blanksAfter sharp, List.length_append, List.length_cons]
      simp [item]
      omega

theorem nextElement_end {blank : List UInt8} (blanks : IsBlank blank) :
    nextElement isFirst ⟨blank ++ 93 :: rest, offset⟩ = .ok none := by
  rw [nextElement, skipBlanks_cons blanks (by decide)]
  rfl

theorem endList_of_blank {blank : List UInt8} (blanks : IsBlank blank) :
    endList ⟨blank ++ 93 :: rest, offset⟩ = .ok ⟨rest, offset + blank.length + 1⟩ := by
  rw [endList, skipBlanks_cons blanks (by decide)]
  rfl

theorem endList_error {cursor : Cursor} (unclosed : cursor.skipBlanks.peek ≠ some 93) :
    ∃ error, endList cursor = .error error := by
  unfold endList
  dsimp only
  split
  · exact ⟨_, rfl⟩
  · rename_i byte found
    have other : byte ≠ 93 := by
      rintro rfl
      exact unclosed found
    rw [if_neg other]
    split_ifs <;> exact ⟨_, rfl⟩

theorem endList_gap (gapped : Gap isFirst gap) (written : Written value bytes)
    (rest : List UInt8) (offset : Nat) :
    ∃ error, endList ⟨gap ++ (bytes ++ rest), offset⟩ = .error error := by
  obtain ⟨first, opens, tail, rfl⟩ := written.opens
  apply endList_error
  cases gapped with
  | first blanks =>
      rw [List.cons_append, skipBlanks_cons blanks (Value.sharp_of_mem_openings opens)]
      intro closed
      exact Value.notMem_openings_bracket (Option.some.inj closed ▸ opens)
  | next blanks _ =>
      rw [List.append_assoc, List.cons_append, skipBlanks_cons blanks (by decide)]
      simp [Cursor.peek]

/-- What is left of a list, read into a record. -/
def listed (isFirst : Bool) (fields : List (Field α)) (record : α) : Reader α := fun cursor =>
  elements isFirst fields record cursor >>= fun (value, after) =>
    endList after >>= fun closed => .ok (value, closed)

theorem listed_end {blank rest : List UInt8} {offset : Nat} {isFirst : Bool}
    {fields : List (Field α)} {record : α} (blanks : IsBlank blank) :
    listed isFirst fields record ⟨blank ++ 93 :: rest, offset⟩ =
      .ok (record, ⟨rest, offset + blank.length + 1⟩) := by
  cases fields with
  | nil =>
      rw [listed, elements]
      simp only [bind, Except.bind, endList_of_blank blanks]
  | cons field fields =>
      rw [listed, elements, nextElement_end blanks]
      simp only [bind, Except.bind, endList_of_blank blanks]

theorem listed_value {gap bytes rest : List UInt8} {offset : Nat} {isFirst : Bool} {value : Value}
    {field : Field α} {fields : List (Field α)} {record : α} (gapped : Gap isFirst gap)
    (written : Written value bytes) :
    listed isFirst (field :: fields) record ⟨gap ++ (bytes ++ rest), offset⟩ =
      field.read record ⟨bytes ++ rest, offset + gap.length⟩ >>= fun (result, next) =>
        listed false fields result next := by
  obtain ⟨first, opens, tail, rfl⟩ := written.opens
  rw [listed, elements, nextElement_gap gapped written]
  simp only [bind, Except.bind]
  cases field.read record ⟨first :: tail ++ rest, offset + gap.length⟩ <;> rfl

theorem listed_excess (gapped : Gap isFirst gap) (written : Written value bytes) :
    ∃ error, listed isFirst [] record ⟨gap ++ (bytes ++ rest), offset⟩ = .error error := by
  obtain ⟨error, unclosed⟩ := endList_gap gapped written rest offset
  refine ⟨error, ?_⟩
  rw [listed, elements]
  simp only [bind, Except.bind, unclosed]

end Steps

section Runs

variable {shape : Shape α} {Fits : Member → Prop} {view : List Member → α}

/-- Values that fit fields in their order; there may be fewer of them. -/
structure FitsFields (Fits : Member → Prop) (fields : List (Field α)) (values : List Value) :
    Prop where
  short : values.length ≤ fields.length
  fit : ∀ member ∈ (fields.map Field.name).zip values, Fits member

theorem FitsFields.exists_name {fields : List (Field α)} {values : List Value} {value : Value}
    (fits : FitsFields Fits fields values) (among : value ∈ values) :
    ∃ name, Fits (name, value) := by
  have short : values.length ≤ (fields.map Field.name).length := by
    rw [List.length_map]
    exact fits.short
  rw [← List.map_snd_zip short] at among
  obtain ⟨⟨name, _⟩, member, rfl⟩ := List.mem_map.mp among
  exact ⟨name, fits.fit _ member⟩

theorem fitsFields_nil (fields : List (Field α)) : FitsFields Fits fields [] :=
  ⟨Nat.zero_le _, by simp⟩

theorem fitsFields_cons {field : Field α} {fields : List (Field α)} {value : Value}
    {values : List Value} :
    FitsFields Fits (field :: fields) (value :: values) ↔
      Fits (field.name, value) ∧ FitsFields Fits fields values := by
  constructor
  · rintro ⟨short, fit⟩
    obtain ⟨first, others⟩ := List.forall_mem_cons.mp fit
    exact ⟨first, Nat.le_of_succ_le_succ short, others⟩
  · rintro ⟨first, short, others⟩
    exact ⟨Nat.succ_le_succ short, List.forall_mem_cons.mpr ⟨first, others⟩⟩

variable {fields : List (Field α)} {done : List Member} {values : List Value} {isFirst : Bool}
  {bytes : List UInt8}

theorem distinct_cons {field : Field α} (value : Value)
    (distinct : (done.map Prod.fst ++ (field :: fields).map Field.name).Nodup) :
    field.name ∉ done.map Prod.fst ∧
      ((done ++ [(field.name, value)]).map Prod.fst ++ fields.map Field.name).Nodup :=
  ⟨fun member => List.disjoint_of_nodup_append distinct member (List.mem_cons_self ..),
    by simpa using distinct⟩

theorem listed_takes (describes : Describes shape Fits view)
    (among : ∀ field ∈ fields, field ∈ shape.fields)
    (distinct : (done.map Prod.fst ++ fields.map Field.name).Nodup)
    (fits : FitsFields Fits fields values) (written : WrittenElements isFirst values bytes)
    (rest : List UInt8) (offset : Nat) :
    listed isFirst fields (view done) ⟨bytes ++ 93 :: rest, offset⟩ =
      .ok (view (done ++ (fields.map Field.name).zip values),
        ⟨rest, offset + bytes.length + 1⟩) := by
  induction fields generalizing done values isFirst bytes offset with
  | nil =>
      obtain rfl : values = [] := List.eq_nil_of_length_eq_zero (Nat.le_zero.mp fits.short)
      cases written with
      | none blanks => simpa using listed_end blanks
  | cons field fields ih =>
      cases written with
      | none blanks => simpa using listed_end blanks
      | @more _ gap bytes others value values gapped written remaining =>
        obtain ⟨fit, fits⟩ := fitsFields_cons.mp fits
        obtain ⟨known, among⟩ := List.forall_mem_cons.mp among
        obtain ⟨fresh, distinct⟩ := distinct_cons value distinct
        rw [List.append_assoc, List.append_assoc, listed_value gapped written,
          (describes.takes field known done value fresh fit).start written]
        change listed false fields _ _ = _
        rw [ih among distinct fits remaining]
        simp
        omega

theorem listed_refuses (describes : Describes shape Fits view)
    (among : ∀ field ∈ fields, field ∈ shape.fields)
    (distinct : (done.map Prod.fst ++ fields.map Field.name).Nodup)
    (unfit : ¬FitsFields Fits fields values) (written : WrittenElements isFirst values bytes)
    (rest : List UInt8) (offset : Nat) :
    ∃ error, listed isFirst fields (view done) ⟨bytes ++ 93 :: rest, offset⟩ = .error error := by
  induction fields generalizing done values isFirst bytes offset with
  | nil =>
      cases written with
      | none => exact absurd (fitsFields_nil _) unfit
      | more gapped written =>
        rw [List.append_assoc, List.append_assoc]
        exact listed_excess gapped written
  | cons field fields ih =>
      cases written with
      | none => exact absurd (fitsFields_nil _) unfit
      | @more _ gap bytes others value values gapped written remaining =>
        obtain ⟨known, among⟩ := List.forall_mem_cons.mp among
        rw [List.append_assoc, List.append_assoc, listed_value gapped written]
        by_cases fit : Fits (field.name, value)
        · obtain ⟨fresh, distinct⟩ := distinct_cons value distinct
          rw [(describes.takes field known done value fresh fit).start written]
          exact ih among distinct (fun fits => unfit (fitsFields_cons.mpr ⟨fit, fits⟩)) remaining _
        · obtain ⟨error, refused, -⟩ :=
            (describes.refuses field known (view done) value fit).start written
              (others ++ 93 :: rest) (offset + gap.length)
          rw [refused]
          exact ⟨error, rfl⟩

theorem record_list {blank inner rest : List UInt8} {offset : Nat} (blanks : IsBlank blank) :
    record shape ⟨blank ++ (91 :: (inner ++ [93]) ++ rest), offset⟩ =
      listed true shape.fields shape.initial ⟨inner ++ 93 :: rest, offset + blank.length + 1⟩ := by
  rw [record, List.cons_append, skipBlanks_cons blanks (by decide), List.append_assoc,
    List.singleton_append]
  rfl

/-- The members that a value stands for: those of an object, or the elements of a list under the
names of the fields. -/
def Value.entries (names : List String) : Value → List Member
  | .object members => members
  | .list values => names.zip values
  | _ => []

/-- The values from which a record can be read. -/
inductive IsRecord (shape : Shape α) (Fits : Member → Prop) : Value → Prop
  | object {members : List Member} : Accepted Fits members → IsRecord shape Fits (.object members)
  | list {values : List Value} : FitsFields Fits shape.fields values →
      IsRecord shape Fits (.list values)

theorem record_takes (describes : Describes shape Fits view)
    (distinct : (shape.fields.map Field.name).Nodup) {value : Value}
    (isRecord : IsRecord shape Fits value) :
    Takes (record shape) value (view (value.entries (shape.fields.map Field.name))) := by
  cases isRecord with
  | object accepted => exact object_takes describes accepted
  | list fits =>
      intro blank bytes rest offset blanks written
      cases written with
      | list written =>
        rw [record_list blanks, describes.initial,
          listed_takes describes (fun _ known => known) (by simpa using distinct) fits written]
        congr 3
        simp only [List.length_append, List.length_cons, List.length_nil]
        omega

theorem exists_refused {members : List Member} (refused : ¬Accepted Fits members) :
    ∃ front member back, members = front ++ member :: back ∧ Accepted Fits front ∧
      ¬Accepted Fits (front ++ [member]) := by
  induction members using List.reverseRecOn with
  | nil => exact absurd ⟨List.nodup_nil, by simp⟩ refused
  | append_singleton members last ih =>
      by_cases accepted : Accepted Fits members
      · exact ⟨members, last, [], rfl, accepted, refused⟩
      · obtain ⟨front, member, back, rfl, stops⟩ := ih accepted
        exact ⟨front, member, back ++ [last], by simp, stops⟩

theorem record_refuses (describes : Describes shape Fits view)
    (distinct : (shape.fields.map Field.name).Nodup) {value : Value}
    (noRecord : ¬IsRecord shape Fits value) :
    Refuses (record shape) value fun _ => True := by
  intro blank bytes rest offset blanks written
  simp only [and_true]
  cases value with
  | object members =>
      obtain ⟨front, member, back, rfl, accepted, refused⟩ :=
        exists_refused fun accepted => noRecord (.object accepted)
      obtain ⟨error, stopped, -⟩ := object_refuses describes accepted refused back blank bytes rest
        offset blanks written
      exact ⟨error, stopped⟩
  | list values =>
      cases written with
      | list written =>
        rw [record_list blanks, describes.initial]
        exact listed_refuses describes (fun _ known => known) (by simpa using distinct)
          (fun fits => noRecord (.list fits)) written ..
  | null | boolean | number | text =>
      obtain ⟨first, opens, tail, rfl⟩ := written.opens
      have noObject : first ≠ 123 := by
        rintro rfl
        obtain ⟨members, same⟩ := Value.eq_object_of_opens opens
        cases same
      have noList : first ≠ 91 := by
        rintro rfl
        obtain ⟨elements, same⟩ := Value.eq_list_of_opens opens
        cases same
      rw [record, List.cons_append, skipBlanks_cons blanks (Value.sharp_of_mem_openings opens)]
      simp only [Cursor.peek, List.head?_cons, noObject, noList, if_false]
      exact refuse_error ..

end Runs

section Documents

variable {read : Reader α} {value : Value} {bytes : List UInt8}

theorem whole?_of_takes {result : α} (takes : Takes read value result)
    (document : Document value bytes) : whole? read bytes = .ok result := by
  cases document with
  | @surrounded before bytes after blanksBefore written blanksAfter =>
    have ended : ∀ offset, Cursor.skipBlanks ⟨after, offset⟩ = ⟨[], offset + after.length⟩ := by
      intro offset
      have skipped := @skipBlanks_append after [] offset blanksAfter (by simp)
      rwa [List.append_nil] at skipped
    rw [whole?, Cursor.start, takes before _ after 0 blanksBefore written]
    simp only [bind, Except.bind, ended]
    rfl

theorem whole?_of_refuses {blamed : Fault → Prop} (refuses : Refuses read value blamed)
    (document : Document value bytes) :
    ∃ error, whole? read bytes = .error error ∧ blamed error.fault := by
  cases document with
  | @surrounded before bytes after blanksBefore written blanksAfter =>
    obtain ⟨error, refused, fault⟩ := refuses before _ after 0 blanksBefore written
    refine ⟨error, ?_, fault⟩
    rw [whole?, Cursor.start, refused]
    rfl

end Documents

end BuildWatch.Json
