import BuildWatch.Proofs.Json.Reading

/-!
Every string can be written, whatever its characters, and so can every list and every object of
values that can.
-/

namespace BuildWatch.Json

def IsPlain (char : Char) : Prop :=
  32 ≤ char.toNat ∧ char ≠ '"' ∧ char ≠ '\\'

instance (char : Char) : Decidable (IsPlain char) :=
  inferInstanceAs (Decidable (_ ∧ _))

theorem exists_isHex {number : Nat} (small : number < 65536) : ∃ digits, IsHex number digits :=
  ⟨[number / 4096, number / 256 % 16, number / 16 % 16, number % 16].map
      fun value => UInt8.ofNat value.digitChar.toNat,
    small, List.forall₂_map_right_iff.mpr (List.forall₂_same.mpr fun _ _ => .inl rfl)⟩

theorem exists_spelled (char : Char) : ∃ piece, Spelled char piece := by
  by_cases plain : IsPlain char
  · exact ⟨_, .plain plain.1 plain.2.1 plain.2.2⟩
  · have small : char.toNat < 65536 := by
      by_contra large
      refine plain ⟨by omega, ?_, ?_⟩ <;>
        · rintro rfl
          exact large (by decide)
    obtain ⟨digits, hex⟩ := exists_isHex small
    exact ⟨_, .number hex⟩

theorem exists_quoted (content : String) : ∃ bytes, Quoted content bytes := by
  choose piece spelled using exists_spelled
  have all : List.Forall₂ Spelled content.toList (content.toList.map piece) :=
    List.forall₂_map_right_iff.mpr (List.forall₂_same.mpr fun char _ => spelled char)
  exact ⟨_, .spelled all⟩

theorem exists_text (content : String) : ∃ bytes, Written (.text content) bytes := by
  obtain ⟨bytes, quoted⟩ := exists_quoted content
  exact ⟨bytes, .text quoted⟩

theorem quoted_of_plain {content : String} (plain : ∀ char ∈ content.toList, IsPlain char) :
    Quoted content (quoteByte :: (Utf8.bytes content ++ [quoteByte])) := by
  rw [Utf8.bytes_eq, List.flatMap_def]
  refine .spelled (List.forall₂_map_right_iff.mpr (List.forall₂_same.mpr fun char among => ?_))
  obtain ⟨shown, noQuote, noBackslash⟩ := plain char among
  exact .plain shown noQuote noBackslash

theorem exists_gap (isFirst : Bool) : ∃ gap, Gap isFirst gap := by
  cases isFirst
  · exact ⟨_, .next isBlank_nil isBlank_nil⟩
  · exact ⟨_, .first isBlank_nil⟩

theorem exists_list {elements : List Value}
    (writable : ∀ value ∈ elements, ∃ bytes, Written value bytes) :
    ∃ bytes, Written (.list elements) bytes := by
  suffices ∀ isFirst, ∃ bytes, WrittenElements isFirst elements bytes by
    obtain ⟨bytes, written⟩ := this true
    exact ⟨_, .list written⟩
  induction elements with
  | nil => exact fun _ => ⟨_, .none isBlank_nil⟩
  | cons value elements ih =>
      intro isFirst
      obtain ⟨⟨bytes, written⟩, others⟩ := List.forall_mem_cons.mp writable
      obtain ⟨gap, gapped⟩ := exists_gap isFirst
      obtain ⟨rest, remaining⟩ := ih others false
      exact ⟨_, .more gapped written remaining⟩

theorem exists_object {members : List Member}
    (writable : ∀ member ∈ members, ∃ bytes, Written member.2 bytes) :
    ∃ bytes, Written (.object members) bytes := by
  suffices ∀ isFirst, ∃ bytes, WrittenMembers isFirst members bytes by
    obtain ⟨bytes, written⟩ := this true
    exact ⟨_, .object written⟩
  induction members with
  | nil => exact fun _ => ⟨_, .none isBlank_nil⟩
  | cons member members ih =>
      intro isFirst
      obtain ⟨⟨bytes, written⟩, others⟩ := List.forall_mem_cons.mp writable
      obtain ⟨gap, gapped⟩ := exists_gap isFirst
      obtain ⟨key, quoted⟩ := exists_quoted member.1
      obtain ⟨rest, remaining⟩ := ih others false
      exact ⟨_, .more gapped quoted isBlank_nil isBlank_nil written remaining⟩

end BuildWatch.Json
