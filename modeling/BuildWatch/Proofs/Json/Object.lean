import BuildWatch.Proofs.Json.Reading

/-!
Records are read from objects. A kind of record is described by the members that fit it and by what
members make of it; then an object is read member by member as long as each member fits and has a
key of its own, and the first one that does not is refused.
-/

namespace BuildWatch.Json

variable {α : Type}

section Steps

variable {rest lead key : List UInt8} {name : String} {offset : Nat} {isFirst : Bool}

theorem nextKey_gap (gap : Gap isFirst lead) :
    nextKey isFirst ⟨lead ++ quoteByte :: rest, offset⟩ =
      .ok (some ⟨quoteByte :: rest, offset + lead.length⟩) := by
  cases gap with
  | first blanks =>
      rw [nextKey, skipBlanks_cons blanks (by decide)]
      simp [Cursor.peek, quoteByte]
  | @next before after blanksBefore blanksAfter =>
      rw [nextKey, List.append_assoc, List.cons_append, skipBlanks_cons blanksBefore (by decide)]
      simp only [Cursor.peek, Cursor.advance, List.head?_cons, List.drop_one, List.tail_cons,
        skipBlanks_cons blanksAfter (show Cursor.isBlank quoteByte = false by decide)]
      simp only [List.length_append, List.length_cons]
      simp
      omega

theorem nextKey_end {blank : List UInt8} (blanks : IsBlank blank) :
    nextKey isFirst ⟨blank ++ 125 :: rest, offset⟩ = .ok none := by
  rw [nextKey, skipBlanks_cons blanks (by decide)]
  rfl

theorem colon_of_blank {blank : List UInt8} (blanks : IsBlank blank) :
    colon ⟨blank ++ 58 :: rest, offset⟩ = .ok ⟨rest, offset + blank.length + 1⟩ := by
  rw [colon, skipBlanks_cons blanks (by decide)]
  rfl

variable {shape : Shape α} {seen : List String} {record : α}

theorem find?_eq_none (undeclared : name ∉ shape.fields.map Field.name) :
    (shape.fields.find? fun field => field.name = name) = none := by
  simp only [List.find?_eq_none, decide_eq_true_eq]
  rintro field member rfl
  exact undeclared (List.mem_map_of_mem member)

theorem exists_find? (declared : name ∈ shape.fields.map Field.name) :
    ∃ field ∈ shape.fields, field.name = name ∧
      (shape.fields.find? fun field => field.name = name) = some field := by
  cases found : shape.fields.find? fun field => field.name = name with
  | none =>
      obtain ⟨field, member, rfl⟩ := List.mem_map.mp declared
      exact absurd (List.find?_eq_none.mp found field member) (by simp)
  | some field =>
      exact ⟨field, List.mem_of_find?_eq_some found, by simpa using List.find?_some found, rfl⟩

theorem members_key (gap : Gap seen.isEmpty lead) (quoted : Quoted name key) :
    members shape seen record ⟨lead ++ (key ++ rest), offset⟩ =
      match shape.fields.find? fun field => field.name = name with
      | none =>
        (afterClosing ⟨rest, offset + lead.length + key.length⟩).failHere
          (.unknownField name (shape.fields.map Field.name))
      | some field =>
        if seen.contains name then
          (afterClosing ⟨rest, offset + lead.length + key.length⟩).failHere (.duplicateField name)
        else
          colon ⟨rest, offset + lead.length + key.length⟩ >>= fun start =>
            field.read record start >>= fun (result, next) =>
              if next.rest.length < (lead ++ (key ++ rest)).length then
                members shape (name :: seen) result next
              else next.failHere .endInObject := by
  obtain ⟨body, rfl⟩ := quoted.starts
  rw [members, List.cons_append, nextKey_gap gap]
  simp only [bind, Except.bind, Cursor.advance, List.drop_one, List.tail_cons,
    textRest_of_quoted quoted, List.length_cons]
  have reached : offset + lead.length + 1 + body.length =
      offset + lead.length + (body.length + 1) := by omega
  rewrite [reached]
  rfl

theorem members_undeclared (gap : Gap seen.isEmpty lead) (quoted : Quoted name key)
    (undeclared : name ∉ shape.fields.map Field.name) :
    ∃ reached, members shape seen record ⟨lead ++ (key ++ rest), offset⟩ =
      .error ⟨.unknownField name (shape.fields.map Field.name), reached⟩ := by
  rw [members_key gap quoted, find?_eq_none undeclared]
  exact ⟨_, rfl⟩

theorem members_repeated (gap : Gap seen.isEmpty lead) (quoted : Quoted name key)
    (declared : name ∈ shape.fields.map Field.name) (repeated : name ∈ seen) :
    ∃ reached, members shape seen record ⟨lead ++ (key ++ rest), offset⟩ =
      .error ⟨.duplicateField name, reached⟩ := by
  obtain ⟨field, -, -, found⟩ := exists_find? declared
  rw [members_key gap quoted, found]
  dsimp only
  rw [if_pos (List.contains_iff_mem.mpr repeated)]
  exact ⟨_, rfl⟩

section Values

variable {before after bytes : List UInt8} {value : Value} {field : Field α}

theorem members_value (gap : Gap seen.isEmpty lead) (quoted : Quoted name key)
    (blanks : IsBlank before)
    (found : (shape.fields.find? fun field => field.name = name) = some field)
    (fresh : name ∉ seen) :
    members shape seen record ⟨lead ++ (key ++ (before ++ 58 :: rest)), offset⟩ =
      field.read record ⟨rest, offset + (lead ++ (key ++ (before ++ [58]))).length⟩ >>=
        fun (result, next) =>
          if next.rest.length < (lead ++ (key ++ (before ++ 58 :: rest))).length then
            members shape (name :: seen) result next
          else next.failHere .endInObject := by
  rw [members_key gap quoted, found]
  dsimp only
  rw [if_neg (by simpa using fresh), colon_of_blank blanks]
  simp [bind, Except.bind, Nat.add_assoc]

theorem members_takes {result : α} (gap : Gap seen.isEmpty lead) (quoted : Quoted name key)
    (blanks : IsBlank before) (blanksAfter : IsBlank after) (written : Written value bytes)
    (found : (shape.fields.find? fun field => field.name = name) = some field)
    (fresh : name ∉ seen) (takes : Takes (field.read record) value result) :
    members shape seen record
        ⟨lead ++ (key ++ (before ++ 58 :: (after ++ (bytes ++ rest)))), offset⟩ =
      members shape (name :: seen) result
        ⟨rest, offset + (lead ++ (key ++ (before ++ 58 :: (after ++ bytes)))).length⟩ := by
  rw [members_value gap quoted blanks found fresh, takes _ _ _ _ blanksAfter written]
  simp only [bind, Except.bind]
  rw [if_pos (by simp; omega)]
  congr 2
  simp only [List.length_append, List.length_cons, List.length_nil]
  omega

theorem members_refuses {blamed : Fault → Prop} (gap : Gap seen.isEmpty lead)
    (quoted : Quoted name key) (blanks : IsBlank before) (blanksAfter : IsBlank after)
    (written : Written value bytes)
    (found : (shape.fields.find? fun field => field.name = name) = some field)
    (fresh : name ∉ seen) (refuses : Refuses (field.read record) value blamed) :
    ∃ error, members shape seen record
        ⟨lead ++ (key ++ (before ++ 58 :: (after ++ (bytes ++ rest)))), offset⟩ = .error error ∧
      blamed error.fault := by
  obtain ⟨error, refused, fault⟩ := refuses after bytes rest
    (offset + (lead ++ (key ++ (before ++ [58]))).length) blanksAfter written
  rw [members_value gap quoted blanks found fresh, refused]
  exact ⟨error, rfl, fault⟩

end Values

end Steps

section Entries

variable {Fits : Member → Prop} {entries order : List Member} {key : String} {value : Value}

/-- Members that fit, each key once. -/
structure Accepted (Fits : Member → Prop) (members : List Member) : Prop where
  distinct : (members.map Prod.fst).Nodup
  fit : ∀ member ∈ members, Fits member

def keysOf (members : List Member) : List String :=
  (members.map Prod.fst).reverse

theorem isEmpty_keysOf (members : List Member) : (keysOf members).isEmpty = members.isEmpty := by
  cases members <;> simp [keysOf]

theorem mem_keysOf {members : List Member} {name : String} :
    name ∈ keysOf members ↔ name ∈ members.map Prod.fst :=
  List.mem_reverse

theorem keysOf_append_singleton (members : List Member) (member : Member) :
    keysOf (members ++ [member]) = member.1 :: keysOf members := by
  simp [keysOf]

theorem accepted_append_singleton {members : List Member} {member : Member} :
    Accepted Fits (members ++ [member]) ↔
      Accepted Fits members ∧ member.1 ∉ members.map Prod.fst ∧ Fits member := by
  have distinct : ((members ++ [member]).map Prod.fst).Nodup ↔
      (members.map Prod.fst).Nodup ∧ member.1 ∉ members.map Prod.fst := by
    rw [List.map_append, List.map_singleton, List.nodup_append_comm, List.singleton_append,
      List.nodup_cons, and_comm]
  have fit : (∀ other ∈ members ++ [member], Fits other) ↔
      (∀ other ∈ members, Fits other) ∧ Fits member := by
    rw [List.forall_mem_append, List.forall_mem_singleton]
  constructor
  · rintro ⟨once, all⟩
    obtain ⟨once, fresh⟩ := distinct.mp once
    obtain ⟨all, fits⟩ := fit.mp all
    exact ⟨⟨once, all⟩, fresh, fits⟩
  · rintro ⟨⟨once, all⟩, fresh, fits⟩
    exact ⟨distinct.mpr ⟨once, fresh⟩, fit.mpr ⟨all, fits⟩⟩

theorem Accepted.of_append {front back : List Member} (accepted : Accepted Fits (front ++ back)) :
    Accepted Fits front := by
  obtain ⟨distinct, fit⟩ := accepted
  rw [List.map_append] at distinct
  exact ⟨distinct.of_append_left, fun member among => fit member (List.mem_append_left _ among)⟩

theorem lookup_eq_none (fresh : key ∉ entries.map Prod.fst) : entries.lookup key = none := by
  rw [List.lookup_eq_none_iff]
  intro member among
  simp only [bne_iff_ne, ne_eq]
  rintro rfl
  exact fresh (List.mem_map_of_mem among)

theorem lookup_append_singleton (fresh : key ∉ entries.map Prod.fst) (other : String) :
    (entries ++ [(key, value)]).lookup other =
      if other = key then some value else entries.lookup other := by
  rw [List.lookup_append]
  by_cases same : other = key
  · simp [same, lookup_eq_none fresh]
  · simp [same, List.lookup, beq_false_of_ne same]

theorem lookup_eq_some_iff (distinct : (entries.map Prod.fst).Nodup) :
    entries.lookup key = some value ↔ (key, value) ∈ entries := by
  constructor
  · intro found
    obtain ⟨front, back, rfl, -⟩ := List.lookup_eq_some_iff.mp found
    simp
  · intro among
    obtain ⟨front, back, rfl⟩ := List.append_of_mem among
    refine List.lookup_eq_some_iff.mpr ⟨front, back, rfl, fun member before => ?_⟩
    rw [List.map_append] at distinct
    have apart := List.disjoint_of_nodup_append distinct (List.mem_map_of_mem before)
    simpa using fun same : key = member.1 => apart (same ▸ List.mem_cons_self ..)

theorem lookup_perm (distinct : (entries.map Prod.fst).Nodup) (perm : order.Perm entries)
    (key : String) : order.lookup key = entries.lookup key := by
  have distinctToo : (order.map Prod.fst).Nodup := (perm.map Prod.fst).nodup_iff.mpr distinct
  ext value
  rw [lookup_eq_some_iff distinct, lookup_eq_some_iff distinctToo, perm.mem_iff]

theorem Accepted.perm (accepted : Accepted Fits entries)
    (perm : order.Perm entries) : Accepted Fits order :=
  ⟨(perm.map Prod.fst).nodup_iff.mpr accepted.distinct,
    fun member among => accepted.fit member (perm.subset among)⟩

end Entries

section Runs

variable {shape : Shape α} {Fits : Member → Prop} {view : List Member → α}

/-- What members make of a record: its fields take those that fit, one after the other, and no
others. -/
structure Describes (shape : Shape α) (Fits : Member → Prop) (view : List Member → α) : Prop where
  initial : shape.initial = view []
  declared : ∀ member, Fits member → member.1 ∈ shape.fields.map Field.name
  takes : ∀ field ∈ shape.fields, ∀ members value, field.name ∉ members.map Prod.fst →
    Fits (field.name, value) →
      Takes (field.read (view members)) value (view (members ++ [(field.name, value)]))
  refuses : ∀ field ∈ shape.fields, ∀ record value, ¬Fits (field.name, value) →
    Refuses (field.read record) value fun _ => True

theorem members_run (describes : Describes shape Fits view) {done front back : List Member}
    {bytes : List UInt8} (accepted : Accepted Fits (done ++ front))
    (written : WrittenMembers done.isEmpty (front ++ back) bytes) :
    ∃ used later, bytes = used ++ later ∧ WrittenMembers (done ++ front).isEmpty back later ∧
      ∀ rest offset, members shape (keysOf done) (view done) ⟨bytes ++ rest, offset⟩ =
        members shape (keysOf (done ++ front)) (view (done ++ front))
          ⟨later ++ rest, offset + used.length⟩ := by
  -- by the members that are still to be read; those before them are in the record already
  induction front generalizing done bytes with
  | nil => exact ⟨[], bytes, rfl, by simpa using written, fun rest offset => by simp⟩
  | cons member front ih =>
      obtain ⟨name, value⟩ := member
      rw [List.append_cons] at accepted ⊢
      obtain ⟨-, fresh, fits⟩ := accepted_append_singleton.mp accepted.of_append
      obtain ⟨field, member, rfl, found⟩ := exists_find? (describes.declared _ fits)
      cases written with
      | @more _ gap key before after bytes others _ _ _ gapped quoted blanks blanksAfter written
          remaining =>
        have opened : (done ++ [(field.name, value)]).isEmpty = false := by simp
        obtain ⟨used, later, rfl, back, run⟩ := ih accepted (opened ▸ remaining)
        refine ⟨gap ++ (key ++ (before ++ 58 :: (after ++ (bytes ++ used)))), later, by simp, back,
          fun rest offset => ?_⟩
        rw [← isEmpty_keysOf] at gapped
        have takes := describes.takes field member done value fresh fits
        simp only [List.append_assoc, List.cons_append] at run ⊢
        rw [members_takes gapped quoted blanks blanksAfter written found (mt mem_keysOf.mp fresh)
          takes, ← keysOf_append_singleton done (field.name, value), run]
        congr 2
        simp only [List.length_append, List.length_cons]
        omega

theorem record_object {blank inner rest : List UInt8} {offset : Nat} (blanks : IsBlank blank) :
    record shape ⟨blank ++ (123 :: (inner ++ [125]) ++ rest), offset⟩ =
      members shape [] shape.initial ⟨inner ++ 125 :: rest, offset + blank.length + 1⟩ >>=
        fun (value, after) => endObject after >>= fun closed => .ok (value, closed) := by
  rw [record, List.cons_append, skipBlanks_cons blanks (by decide), List.append_assoc,
    List.singleton_append]
  rfl

theorem endObject_brace (rest : List UInt8) (offset : Nat) :
    endObject ⟨125 :: rest, offset⟩ = .ok ⟨rest, offset + 1⟩ := rfl

theorem object_takes (describes : Describes shape Fits view) {entries : List Member}
    (accepted : Accepted Fits entries) : Takes (record shape) (.object entries) (view entries) := by
  intro blank bytes rest offset blanks written
  cases written with
  | @object _ inner written =>
    rw [← List.append_nil entries] at written
    obtain ⟨used, later, rfl, ended, run⟩ :=
      members_run describes (show Accepted Fits ([] ++ entries) from accepted) written
    cases ended with
    | none after =>
      have closing : Cursor.isBlank 125 = false := by decide
      rw [record_object blanks, describes.initial]
      change members shape (keysOf []) (view []) _ >>= _ = _
      rw [run, members, nextKey_end after]
      simp only [bind, Except.bind, skipBlanks_cons after closing, endObject_brace,
        List.nil_append]
      congr 3
      simp only [List.length_append, List.length_cons, List.length_nil]
      omega

def Blames (shape : Shape α) (front : List Member) (member : Member) (fault : Fault) : Prop :=
  (member.1 ∉ shape.fields.map Field.name →
    fault = .unknownField member.1 (shape.fields.map Field.name)) ∧
  (member.1 ∈ shape.fields.map Field.name → member.1 ∈ front.map Prod.fst →
    fault = .duplicateField member.1)

theorem members_stop (describes : Describes shape Fits view) {front back : List Member}
    {member : Member} {bytes : List UInt8} (accepted : Accepted Fits front)
    (refused : ¬Accepted Fits (front ++ [member]))
    (written : WrittenMembers front.isEmpty (member :: back) bytes) (rest : List UInt8)
    (offset : Nat) :
    ∃ error, members shape (keysOf front) (view front) ⟨bytes ++ rest, offset⟩ = .error error ∧
      Blames shape front member error.fault := by
  rw [← isEmpty_keysOf] at written
  cases written with
  | @more _ gap key before after bytes others name value _ gapped quoted blanks blanksAfter
      written =>
    simp only [List.append_assoc, List.cons_append]
    by_cases declared : name ∈ shape.fields.map Field.name
    · by_cases repeated : name ∈ front.map Prod.fst
      · obtain ⟨reached, stopped⟩ :=
          members_repeated gapped quoted declared (mem_keysOf.mpr repeated)
        exact ⟨_, stopped, fun unknown => absurd declared unknown, fun _ _ => rfl⟩
      · obtain ⟨field, member, rfl, found⟩ := exists_find? declared
        have unfit : ¬Fits (field.name, value) := fun fits =>
          refused (accepted_append_singleton.mpr ⟨accepted, repeated, fits⟩)
        obtain ⟨error, stopped, -⟩ := members_refuses gapped quoted blanks blanksAfter written found
          (mt mem_keysOf.mp repeated) (describes.refuses field member (view front) value unfit)
        exact ⟨error, stopped, fun unknown => absurd declared unknown,
          fun _ again => absurd again repeated⟩
    · obtain ⟨reached, stopped⟩ := members_undeclared gapped quoted declared
      exact ⟨_, stopped, fun _ => rfl, fun known => absurd known declared⟩

theorem object_refuses (describes : Describes shape Fits view) {front : List Member}
    {member : Member} (accepted : Accepted Fits front)
    (refused : ¬Accepted Fits (front ++ [member])) (back : List Member) :
    Refuses (record shape) (.object (front ++ member :: back)) (Blames shape front member) := by
  intro blank bytes rest offset blanks written
  cases written with
  | @object _ inner written =>
    obtain ⟨used, later, rfl, remaining, run⟩ :=
      members_run describes (show Accepted Fits ([] ++ front) from accepted) written
    obtain ⟨error, stopped, blamed⟩ := members_stop describes accepted refused remaining
      (125 :: rest) (offset + blank.length + 1 + used.length)
    refine ⟨error, ?_, blamed⟩
    rw [record_object blanks, describes.initial]
    change members shape (keysOf []) (view []) _ >>= _ = _
    rw [run]
    change members shape (keysOf front) (view front) _ >>= _ = _
    rw [stopped]
    rfl

theorem object_repeats (describes : Describes shape Fits view) {front back : List Member}
    {key : String} {value : Value} (accepted : Accepted Fits (front ++ back))
    (fit : Fits (key, value)) (again : key ∈ back.map Prod.fst) :
    Refuses (record shape) (.object (front ++ (key, value) :: back))
      fun fault => fault = .duplicateField key := by
  obtain ⟨other, before, after, rfl⟩ :
      ∃ other before after, back = before ++ (key, other) :: after := by
    obtain ⟨⟨_, other⟩, among, rfl⟩ := List.mem_map.mp again
    exact ⟨other, List.append_of_mem among⟩
  rw [← List.append_assoc, List.append_cons] at accepted
  obtain ⟨most, fresh, -⟩ := accepted_append_singleton.mp accepted.of_append
  have last : Accepted Fits (front ++ before ++ [(key, value)]) :=
    accepted_append_singleton.mpr ⟨most, fresh, fit⟩
  have inserted : Accepted Fits (front ++ (key, value) :: before) :=
    last.perm (List.perm_middle.trans (List.perm_append_singleton ..).symm)
  have repeated : key ∈ (front ++ (key, value) :: before).map Prod.fst := by simp
  have refused : ¬Accepted Fits (front ++ (key, value) :: before ++ [(key, other)]) := fun both =>
    (accepted_append_singleton.mp both).2.1 repeated
  have stopped := object_refuses describes inserted refused after
  rw [List.append_assoc, List.cons_append] at stopped
  exact stopped.weaken fun fault blamed => blamed.2 (describes.declared (key, value) fit) repeated

theorem object_inserted (describes : Describes shape Fits view) {front back : List Member}
    {key : String} {value : Value} (accepted : Accepted Fits (front ++ back))
    (wrong : key ∉ shape.fields.map Field.name ∨ key ∈ (front ++ back).map Prod.fst) :
    Refuses (record shape) (.object (front ++ (key, value) :: back)) fun fault =>
      (key ∉ shape.fields.map Field.name →
        fault = .unknownField key (shape.fields.map Field.name)) ∧
      (key ∈ (front ++ back).map Prod.fst → key ∈ front.map Prod.fst ∨ Fits (key, value) →
        fault = .duplicateField key) := by
  have declared : key ∈ (front ++ back).map Prod.fst → key ∈ shape.fields.map Field.name := by
    intro among
    obtain ⟨member, entry, rfl⟩ := List.mem_map.mp among
    exact describes.declared member (accepted.fit member entry)
  -- a member that fits in is not refused itself, but the one with its key that comes later
  by_cases fits : Accepted Fits (front ++ [(key, value)])
  · obtain ⟨-, fresh, fit⟩ := accepted_append_singleton.mp fits
    have known : key ∈ shape.fields.map Field.name := describes.declared _ fit
    have again : key ∈ back.map Prod.fst := by
      have among := wrong.resolve_left (not_not_intro known)
      rw [List.map_append, List.mem_append] at among
      exact among.resolve_left fresh
    exact (object_repeats describes accepted fit again).weaken fun fault same =>
      ⟨fun undeclared => absurd known undeclared, fun _ _ => same⟩
  · refine (object_refuses describes accepted.of_append fits back).weaken fun fault blamed =>
      ⟨blamed.1, fun among first => blamed.2 (declared among) ?_⟩
    by_contra fresh
    exact fits (accepted_append_singleton.mpr
      ⟨accepted.of_append, fresh, first.resolve_left fresh⟩)

end Runs

end BuildWatch.Json
