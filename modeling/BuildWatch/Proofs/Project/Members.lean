import BuildWatch.Proofs.Json.Record
import BuildWatch.Proofs.Json.Writing
import BuildWatch.Proofs.Project.Naming

/-!
What a project file says does not depend on the order of its members, nor on how they are written,
and it says nothing else: a file with a member that is not declared, or with two members of one
key, is invalid.
-/

namespace BuildWatch

open Json (Value Member Accepted Describes IsRecord Takes Refuses)

namespace Json

def Value.text? : Value → Option String
  | .text content => some content
  | _ => none

def textAt (key : String) (members : List Member) : String :=
  ((members.lookup key).bind Value.text?).getD ""

end Json

namespace MinifierConfig

/-- The members of the minifier's settings: a text. -/
inductive Admits : Member → Prop
  | compress {content : String} : Admits ("compress", .text content)

def ofMembers (members : List Member) : MinifierConfig :=
  ⟨Json.textAt "compress" members⟩

theorem describes : Describes shape Admits ofMembers where
  initial := rfl
  declared := by
    rintro _ ⟨⟩
    exact List.mem_singleton_self _
  takes field known members value fresh admitted := by
    obtain rfl := List.mem_singleton.mp known
    cases admitted with
    | @compress content =>
      have said : ofMembers (members ++ [("compress", .text content)]) = ⟨content⟩ := by
        simp [ofMembers, Json.textAt, Json.lookup_append_singleton fresh, Value.text?]
      rw [said]
      exact (Json.text_takes content).set _
  refuses field known record value unfit := by
    obtain rfl := List.mem_singleton.mp known
    refine (Json.text_refuses fun content same => unfit ?_).set _
    rw [same]
    exact .compress

theorem exists_written {value : Value} (isRecord : IsRecord shape Admits value) :
    ∃ bytes, Json.Written value bytes := by
  have texts {member : Member} (admitted : Admits member) :
      ∃ bytes, Json.Written member.2 bytes := by
    cases admitted
    exact Json.exists_text _
  cases isRecord with
  | object accepted =>
      exact Json.exists_object fun member among => texts (accepted.fit member among)
  | list fits =>
      refine Json.exists_list fun value among => ?_
      obtain ⟨name, admitted⟩ := fits.exists_name among
      exact texts admitted

end MinifierConfig

namespace ProjectConfig

def textKeys : List String := ["title", "filename", "main.compo", "main.standard", "srcDir"]

/-- The members that a project file may have: a key with a value of its kind. -/
@[mk_iff]
inductive Admits : Member → Prop
  | text {key content : String} : key ∈ textKeys → Admits (key, .text content)
  | missing {key : String} : key ∈ ["timestamp", "terser"] → Admits (key, .null)
  | timestamp {content : String} : Admits ("timestamp", .text content)
  | minifier {value : Value} : IsRecord MinifierConfig.shape MinifierConfig.Admits value →
      Admits ("terser", value)

def minifierOf : Value → Option MinifierConfig
  | .null => none
  | value => some (.ofMembers (value.entries (MinifierConfig.shape.fields.map Json.Field.name)))

theorem minifierOf_eq_some {value : Value} (given : value ≠ .null) :
    minifierOf value =
      some (.ofMembers (value.entries (MinifierConfig.shape.fields.map Json.Field.name))) := by
  cases value with
  | null => exact absurd rfl given
  | _ => rfl

/-- The settings that members say. -/
def ofMembers (members : List Member) : ProjectConfig where
  title := Json.textAt "title" members
  filename := Json.textAt "filename" members
  mainCompo := Json.textAt "main.compo" members
  mainStandard := Json.textAt "main.standard" members
  sourceDir := Json.textAt "srcDir" members
  timestamp := (members.lookup "timestamp").bind Value.text?
  minifier := (members.lookup "terser").bind minifierOf

theorem ofMembers_perm {members order : List Member} (distinct : (members.map Prod.fst).Nodup)
    (perm : order.Perm members) : ofMembers order = ofMembers members := by
  simp only [ofMembers, Json.textAt, Json.lookup_perm distinct perm]

section Fields

variable {key : String} {value : Value}

theorem admits_text_iff (known : key ∈ textKeys) :
    Admits (key, value) ↔ ∃ content, value = .text content := by
  simp only [textKeys, List.mem_cons, List.not_mem_nil, or_false] at known
  rcases known with rfl | rfl | rfl | rfl | rfl <;> simp [admits_iff, textKeys]

theorem admits_timestamp_iff :
    Admits ("timestamp", value) ↔ value = .null ∨ ∃ content, value = .text content := by
  simp [admits_iff, textKeys]

theorem admits_minifier_iff :
    Admits ("terser", value) ↔
      value = .null ∨ IsRecord MinifierConfig.shape MinifierConfig.Admits value := by
  simp [admits_iff, textKeys]

variable {name : String} {set : ProjectConfig → String → ProjectConfig}
  {record result : ProjectConfig}

theorem textField_takes (known : name ∈ textKeys) (admitted : Admits (name, value))
    (sets : ∀ content, value = .text content → set record content = result) :
    Takes ((textField name set).read record) value result := by
  obtain ⟨content, rfl⟩ := (admits_text_iff known).mp admitted
  rw [← sets content rfl]
  exact (Json.text_takes content).set (set record)

theorem textField_refuses (known : name ∈ textKeys) (unfit : ¬Admits (name, value)) :
    Refuses ((textField name set).read record) value fun _ => True := by
  refine (Json.text_refuses fun content same => unfit ?_).set (set record)
  exact (admits_text_iff known).mpr ⟨content, same⟩

end Fields

theorem names_eq : shape.fields.map Json.Field.name = textKeys ++ ["timestamp", "terser"] := rfl

theorem describes : Describes shape Admits ofMembers where
  initial := rfl
  declared member admitted := by
    rw [names_eq, List.mem_append]
    cases admitted with
    | text known => exact .inl known
    | missing known => exact .inr known
    | timestamp | minifier => simp
  takes field known members value fresh admitted := by
    -- the fields of texts differ in what they set only; the two that may be null stand last
    simp only [shape, fields, List.mem_cons, List.not_mem_nil, or_false] at known
    rcases known with rfl | rfl | rfl | rfl | rfl | rfl | rfl
    case inl | inr.inl | inr.inr.inl | inr.inr.inr.inl | inr.inr.inr.inr.inl =>
      refine textField_takes (by decide) admitted fun content same => ?_
      subst same
      dsimp only [textField] at fresh
      simp [ofMembers, Json.textAt, Json.lookup_append_singleton fresh, Value.text?, textField]
    case inr.inr.inr.inr.inr.inl =>
      have said : ofMembers (members ++ [("timestamp", value)]) =
          { ofMembers members with timestamp := value.text? } := by
        simp [ofMembers, Json.textAt, Json.lookup_append_singleton fresh]
      rw [said]
      obtain rfl | ⟨content, rfl⟩ := admits_timestamp_iff.mp admitted
      · exact Json.optional_takes_null.set fun timestamp => { ofMembers members with timestamp }
      · exact (Json.optional_takes (by simp) (Json.text_takes content)).set
          fun timestamp => { ofMembers members with timestamp }
    case inr.inr.inr.inr.inr.inr =>
      have said : ofMembers (members ++ [("terser", value)]) =
          { ofMembers members with minifier := minifierOf value } := by
        simp [ofMembers, Json.textAt, Json.lookup_append_singleton fresh]
      rw [said]
      obtain rfl | isRecord := admits_minifier_iff.mp admitted
      · exact Json.optional_takes_null.set fun minifier => { ofMembers members with minifier }
      · have given : value ≠ .null := by
          rintro rfl
          cases isRecord
        have read := Json.record_takes MinifierConfig.describes (by decide) isRecord
        rw [minifierOf_eq_some given]
        exact (Json.optional_takes given read).set
          fun minifier => { ofMembers members with minifier }
  refuses field known record value unfit := by
    simp only [shape, fields, List.mem_cons, List.not_mem_nil, or_false] at known
    rcases known with rfl | rfl | rfl | rfl | rfl | rfl | rfl
    case inl | inr.inl | inr.inr.inl | inr.inr.inr.inl | inr.inr.inr.inr.inl =>
      exact textField_refuses (by decide) unfit
    case inr.inr.inr.inr.inr.inl =>
      obtain ⟨given, noText⟩ := not_or.mp (mt admits_timestamp_iff.mpr unfit)
      refine (Json.optional_refuses given (Json.text_refuses fun content same => ?_)).set
        fun timestamp => { record with timestamp }
      exact noText ⟨content, same⟩
    case inr.inr.inr.inr.inr.inr =>
      obtain ⟨given, noRecord⟩ := not_or.mp (mt admits_minifier_iff.mpr unfit)
      exact (Json.optional_refuses given
        (Json.record_refuses MinifierConfig.describes (by decide) noRecord)).set
          fun minifier => { record with minifier }

theorem parse_members {members order : List Member} {bytes : List UInt8}
    (accepted : Accepted Admits members) (perm : order.Perm members)
    (document : Json.Document (.object order) bytes) : parse bytes = .ok (ofMembers members) := by
  rw [parse, Json.whole?_of_takes (Json.object_takes describes (accepted.perm perm)) document,
    ofMembers_perm accepted.distinct perm]

theorem exists_written {member : Member} (admitted : Admits member) :
    ∃ bytes, Json.Written member.2 bytes := by
  cases admitted with
  | missing => exact ⟨_, .null⟩
  | text | timestamp => exact Json.exists_text _
  | minifier isRecord => exact MinifierConfig.exists_written isRecord

theorem exists_document {members : List Member} (accepted : Accepted Admits members) :
    ∃ bytes, Json.Document (.object members) bytes := by
  obtain ⟨bytes, written⟩ := Json.exists_object fun member among =>
    exists_written (accepted.fit member among)
  exact ⟨_, .surrounded Json.isBlank_nil written Json.isBlank_nil⟩

end ProjectConfig

namespace Project

variable {tree : FileTree} {baseDir configName : Path} {content : ByteArray}

theorem load_of_parse_error {error : Json.Error}
    (found : tree.read (baseDir.join configName) = .ok content)
    (refused : ProjectConfig.parse content.data.toList = .error error) :
    load tree baseDir configName = .error (.invalid (baseDir.join configName) error.fault
      (Json.Place.ofOffset content.data.toList error.offset)) := by
  simp only [load, found, refused]

/-- Members that are accepted can be written in every order, and every text of them in any order
is loaded as the same project: it holds what the members say, except for a file name that is not
safe. With one more member, whose key is not declared or is there already, they are refused as
invalid wherever that member stands, and the fault names its key. -/
theorem load_members {members : List Member}
    (accepted : Accepted ProjectConfig.Admits members) (baseDir configName : Path) :
    (∀ order : List Member, order.Perm members →
      (∃ bytes, Json.Document (.object order) bytes) ∧
      ∀ tree content, tree.read (baseDir.join configName) = .ok content →
        Json.Document (.object order) content.data.toList →
        load tree baseDir configName = .ok
          (⟨baseDir, { ProjectConfig.ofMembers members with
            filename :=
              if SafeName.isSafe (ProjectConfig.ofMembers members).filename = true then
                (ProjectConfig.ofMembers members).filename
              else "" }⟩,
            (ProjectConfig.ofMembers members).warnings configName.display)) ∧
    ∀ front back key value tree content, members = front ++ back →
      key ∉ ProjectConfig.shape.fields.map Json.Field.name ∨ key ∈ members.map Prod.fst →
      tree.read (baseDir.join configName) = .ok content →
      Json.Document (.object (front ++ (key, value) :: back)) content.data.toList →
      ∃ fault place,
        load tree baseDir configName = .error (.invalid (baseDir.join configName) fault place) ∧
        (key ∉ ProjectConfig.shape.fields.map Json.Field.name →
          fault = .unknownField key (ProjectConfig.shape.fields.map Json.Field.name)) ∧
        (key ∈ members.map Prod.fst →
          key ∈ front.map Prod.fst ∨ ProjectConfig.Admits (key, value) →
          fault = .duplicateField key) := by
  refine ⟨fun order perm => ⟨?_, fun tree content found document => ?_⟩, ?_⟩
  · exact ProjectConfig.exists_document (accepted.perm perm)
  · rw [load_of_parse found (ProjectConfig.parse_members accepted perm document),
      ProjectConfig.cleared_eq]
  · rintro front back key value tree content rfl wrong found document
    obtain ⟨error, refused, blamed⟩ := Json.whole?_of_refuses
      (Json.object_inserted ProjectConfig.describes accepted wrong) document
    exact ⟨error.fault, _, load_of_parse_error found refused, blamed⟩

theorem load_members_swapped :
    (∃ entries, load (fileTree "\x7b\"filename\":\"../evil\",\"srcDir\":\"game\"\x7d")
        (.ofText "/game") (.ofText "project.json") =
      .ok (⟨.ofText "/game", { ProjectConfig.initial with sourceDir := "game" }⟩, entries)) ∧
    ∃ place, load (fileTree "\x7b\"srcDir\":\"game\",\"bogus\":null,\"filename\":\"../evil\"\x7d")
        (.ofText "/game") (.ofText "project.json") =
      .error (.invalid ((Path.ofText "/game").join (.ofText "project.json"))
        (.unknownField "bogus" (ProjectConfig.shape.fields.map Json.Field.name)) place) := by
  let folder := ("srcDir", Value.text "game")
  let name := ("filename", Value.text "../evil")
  have accepted : Accepted ProjectConfig.Admits [folder, name] :=
    ⟨by decide, List.forall_mem_cons.mpr
      ⟨.text (by decide), List.forall_mem_singleton.mpr (.text (by decide))⟩⟩
  have none := Json.isBlank_nil
  have quoted {content : String} (plain : ∀ char ∈ content.toList, Json.IsPlain char) :=
    Json.quoted_of_plain plain
  have folderKey := @quoted "srcDir" (by simp [Json.IsPlain])
  have folderText := @quoted "game" (by simp [Json.IsPlain])
  have nameKey := @quoted "filename" (by simp [Json.IsPlain])
  have nameText := @quoted "../evil" (by simp [Json.IsPlain])
  have bogusKey := @quoted "bogus" (by simp [Json.IsPlain])
  have swapped : Json.Document (.object [name, folder])
      "\x7b\"filename\":\"../evil\",\"srcDir\":\"game\"\x7d".toUTF8.data.toList := by
    have last := Json.WrittenMembers.more (.next none none) folderKey none none
      (.text folderText) (.none none)
    exact .surrounded none (.object (.more (.first none) nameKey none none (.text nameText) last))
      none
  have inserted : Json.Document (.object [folder, ("bogus", .null), name])
      "\x7b\"srcDir\":\"game\",\"bogus\":null,\"filename\":\"../evil\"\x7d".toUTF8.data.toList := by
    have last := Json.WrittenMembers.more (.next none none) nameKey none none
      (.text nameText) (.none none)
    have later := Json.WrittenMembers.more (.next none none) bogusKey none none .null last
    exact .surrounded none
      (.object (.more (.first none) folderKey none none (.text folderText) later)) none
  obtain ⟨loads, fails⟩ := load_members accepted (.ofText "/game") (.ofText "project.json")
  constructor
  · have loaded := (loads [name, folder] (.swap ..)).2
      (fileTree "\x7b\"filename\":\"../evil\",\"srcDir\":\"game\"\x7d") _ (by cbv) swapped
    have said : ProjectConfig.ofMembers [folder, name] =
        { ProjectConfig.initial with filename := "../evil", sourceDir := "game" } := by rfl
    rw [said, if_neg (by decide)] at loaded
    exact ⟨_, loaded⟩
  · obtain ⟨fault, place, failed, unknown, -⟩ := fails [folder] [name] "bogus" .null
      (fileTree "\x7b\"srcDir\":\"game\",\"bogus\":null,\"filename\":\"../evil\"\x7d") _ rfl
      (.inl (by decide)) (by cbv) inserted
    exact ⟨place, failed.trans (by rw [unknown (by decide)])⟩

end Project

end BuildWatch
