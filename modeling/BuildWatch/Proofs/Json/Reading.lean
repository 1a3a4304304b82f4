import BuildWatch.Json.Record
import BuildWatch.Proofs.Json.Text

/-!
What readers make of values. A reader takes a value if it reads every text of it as one result and
nothing of what follows, and refuses it if it fails on every text of it. Strings are taken by the
reader of strings alone, and `null` stands for a value that is missing.
-/

namespace BuildWatch.Json

variable {α : Type} {read : Reader α} {value : Value} {result : α} {blamed : Fault → Prop}

def Takes (read : Reader α) (value : Value) (result : α) : Prop :=
  ∀ blank bytes rest offset, IsBlank blank → Written value bytes →
    read ⟨blank ++ (bytes ++ rest), offset⟩ =
      .ok (result, ⟨rest, offset + (blank ++ bytes).length⟩)

def Refuses (read : Reader α) (value : Value) (blamed : Fault → Prop) : Prop :=
  ∀ blank bytes rest offset, IsBlank blank → Written value bytes →
    ∃ error, read ⟨blank ++ (bytes ++ rest), offset⟩ = .error error ∧ blamed error.fault

section Start

variable {blank rest : List UInt8} {offset : Nat}

theorem isBlank_nil : IsBlank [] := by simp [IsBlank]

theorem Takes.start {bytes : List UInt8} (takes : Takes read value result)
    (written : Written value bytes) :
    read ⟨bytes ++ rest, offset⟩ = .ok (result, ⟨rest, offset + bytes.length⟩) :=
  takes [] bytes rest offset isBlank_nil written

theorem Refuses.start {bytes : List UInt8} (refuses : Refuses read value blamed)
    (written : Written value bytes) (rest : List UInt8) (offset : Nat) :
    ∃ error, read ⟨bytes ++ rest, offset⟩ = .error error ∧ blamed error.fault :=
  refuses [] bytes rest offset isBlank_nil written

theorem skipBlanks_append (blanks : IsBlank blank)
    (stops : ∀ byte ∈ rest.head?, Cursor.isBlank byte = false) :
    Cursor.skipBlanks ⟨blank ++ rest, offset⟩ = ⟨rest, offset + blank.length⟩ := by
  have all : ∀ byte ∈ blank, Cursor.isBlank byte = true := by
    intro byte member
    have known := blanks byte member
    simp only [List.mem_cons, List.not_mem_nil, or_false] at known
    rcases known with rfl | rfl | rfl | rfl <;> rfl
  have none : rest.takeWhile Cursor.isBlank = [] := by
    cases rest with
    | nil => rfl
    | cons byte rest => simp [stops byte rfl]
  simp [Cursor.skipBlanks, Cursor.advance, List.takeWhile_append_of_pos all, none]

theorem skipBlanks_cons {byte : UInt8} (blanks : IsBlank blank)
    (sharp : Cursor.isBlank byte = false) :
    Cursor.skipBlanks ⟨blank ++ byte :: rest, offset⟩ = ⟨byte :: rest, offset + blank.length⟩ :=
  skipBlanks_append blanks fun _ first => Option.some.inj first ▸ sharp

theorem Refuses.weaken {weaker : Fault → Prop} (refuses : Refuses read value blamed)
    (weakens : ∀ fault, blamed fault → weaker fault) : Refuses read value weaker := by
  intro blank bytes rest offset blanks written
  obtain ⟨error, refused, fault⟩ := refuses blank bytes rest offset blanks written
  exact ⟨error, refused, weakens _ fault⟩

def Value.openings : Value → List UInt8
  | .null => [110]
  | .boolean true => [116]
  | .boolean false => [102]
  | .number _ => 45 :: digitBytes
  | .text _ => [quoteByte]
  | .list _ => [91]
  | .object _ => [123]

theorem Written.opens {bytes : List UInt8} (written : Written value bytes) :
    ∃ first ∈ value.openings, ∃ tail, bytes = first :: tail := by
  cases written with
  | null | yes | no | list | object => exact ⟨_, List.mem_singleton_self _, _, rfl⟩
  | text quoted =>
      obtain ⟨body, rfl⟩ := quoted.starts
      exact ⟨_, List.mem_singleton_self _, _, rfl⟩
  | number number =>
      obtain ⟨signed, ⟨some, digits⟩, -, -, -⟩ := number
      obtain ⟨digit, more, rfl⟩ := List.exists_cons_of_ne_nil some
      simp only [List.mem_cons, List.not_mem_nil, or_false] at signed
      rcases signed with rfl | rfl
      · exact ⟨digit, List.mem_cons_of_mem _ (digits digit (List.mem_cons_self ..)), _, rfl⟩
      · exact ⟨45, List.mem_cons_self .., _, rfl⟩

theorem Value.sharp_of_mem_openings {first : UInt8} (opens : first ∈ value.openings) :
    Cursor.isBlank first = false := by
  have all : ∀ byte ∈ value.openings, Cursor.isBlank byte = false := by
    rcases value with _ | (_ | _) | _ | _ | _ | _ <;>
      simp [openings, digitBytes, quoteByte, Cursor.isBlank]
  exact all first opens

theorem Value.eq_null_of_opens (opens : 110 ∈ value.openings) : value = .null := by
  rcases value with _ | (_ | _) | _ | _ | _ | _ <;>
    simp [openings, digitBytes, quoteByte] at opens ⊢

theorem Value.eq_text_of_opens (opens : quoteByte ∈ value.openings) :
    ∃ content, value = .text content := by
  rcases value with _ | (_ | _) | _ | _ | _ | _ <;>
    simp [openings, digitBytes, quoteByte] at opens ⊢

theorem Value.eq_list_of_opens (opens : 91 ∈ value.openings) :
    ∃ elements, value = .list elements := by
  rcases value with _ | (_ | _) | _ | _ | _ | _ <;>
    simp [openings, digitBytes, quoteByte] at opens ⊢

theorem Value.eq_object_of_opens (opens : 123 ∈ value.openings) :
    ∃ members, value = .object members := by
  rcases value with _ | (_ | _) | _ | _ | _ | _ <;>
    simp [openings, digitBytes, quoteByte] at opens ⊢

end Start

section Readers

theorem refuse_error (expected : String) (first : UInt8) (cursor : Cursor) :
    ∃ error, (refuse expected first cursor : Except Error α) = .error error := by
  unfold refuse
  dsimp only
  split_ifs
  · cases word (wordRest "null") (cursor.advance 1) <;> exact ⟨_, rfl⟩
  · cases word (wordRest "true") (cursor.advance 1) <;> exact ⟨_, rfl⟩
  · cases word (wordRest "false") (cursor.advance 1) <;> exact ⟨_, rfl⟩
  · cases number false (cursor.advance 1) <;> exact ⟨_, rfl⟩
  · cases number true cursor <;> exact ⟨_, rfl⟩
  · cases textRest (cursor.advance 1) <;> exact ⟨_, rfl⟩
  all_goals exact ⟨_, rfl⟩

theorem text_takes (content : String) : Takes text (.text content) content := by
  intro blank bytes rest offset blanks written
  cases written with
  | text quoted =>
    obtain ⟨body, rfl⟩ := quoted.starts
    rw [text, List.cons_append, skipBlanks_cons blanks (by decide)]
    simp only [Cursor.peek, List.head?_cons, if_true, Cursor.advance, List.drop_one,
      List.tail_cons, textRest_of_quoted quoted, List.length_append, List.length_cons]
    congr 3
    omega

theorem text_refuses (other : ∀ content, value ≠ .text content) :
    Refuses text value fun _ => True := by
  intro blank bytes rest offset blanks written
  obtain ⟨first, opens, tail, rfl⟩ := written.opens
  have noQuote : first ≠ quoteByte := by
    rintro rfl
    obtain ⟨content, same⟩ := Value.eq_text_of_opens opens
    exact other content same
  rw [text, List.cons_append, skipBlanks_cons blanks (Value.sharp_of_mem_openings opens)]
  simp only [Cursor.peek, List.head?_cons, noQuote, if_false, and_true]
  exact refuse_error ..

theorem optional_takes_null : Takes (optional read) .null none := by
  intro blank bytes rest offset blanks written
  cases written
  rw [optional, List.cons_append, skipBlanks_cons blanks (by decide)]
  have ending : wordRest "null" = [117, 108, 108] := by cbv
  rw [ending]
  simp [Cursor.peek, Cursor.advance, word, bind, Except.bind, Nat.add_assoc]

theorem optional_eq (given : value ≠ .null) {blank bytes rest : List UInt8} {offset : Nat}
    (blanks : IsBlank blank) (written : Written value bytes) :
    optional read ⟨blank ++ (bytes ++ rest), offset⟩ =
      (read ⟨bytes ++ rest, offset + blank.length⟩).map fun (value, after) =>
        (.some value, after) := by
  obtain ⟨first, opens, tail, rfl⟩ := written.opens
  have noNull : first ≠ 110 := by
    rintro rfl
    exact given (Value.eq_null_of_opens opens)
  rw [optional, List.cons_append, skipBlanks_cons blanks (Value.sharp_of_mem_openings opens)]
  simp only [Cursor.peek, List.head?_cons, Option.some.injEq, noNull, if_false]
  cases read ⟨first :: (tail ++ rest), offset + blank.length⟩ <;> rfl

theorem optional_takes (given : value ≠ .null) (takes : Takes read value result) :
    Takes (optional read) value (.some result) := by
  intro blank bytes rest offset blanks written
  rw [optional_eq given blanks written, takes.start written, List.length_append, ← Nat.add_assoc]
  rfl

theorem optional_refuses (given : value ≠ .null) (refuses : Refuses read value blamed) :
    Refuses (optional read) value blamed := by
  intro blank bytes rest offset blanks written
  obtain ⟨error, refused, fault⟩ := refuses.start written rest (offset + blank.length)
  rw [optional_eq given blanks written, refused]
  exact ⟨error, rfl, fault⟩

theorem Takes.set {β : Type} (set : α → β)
    (takes : Takes read value result) :
    Takes (fun cursor => do
      let (result, after) ← read cursor
      .ok (set result, after)) value (set result) := by
  intro blank bytes rest offset blanks written
  dsimp only
  rw [takes blank bytes rest offset blanks written]
  rfl

theorem Refuses.set {β : Type} (set : α → β) (refuses : Refuses read value blamed) :
    Refuses (fun cursor => do
      let (result, after) ← read cursor
      .ok (set result, after)) value blamed := by
  intro blank bytes rest offset blanks written
  obtain ⟨error, refused, fault⟩ := refuses blank bytes rest offset blanks written
  refine ⟨error, ?_, fault⟩
  dsimp only
  rw [refused]
  rfl

end Readers

end BuildWatch.Json
