import BuildWatch.Path
import Mathlib

/-!
The components of paths that are put together. A slash ends a component, more slashes in a row
end no more than one does, and the name of a file adds one component to whatever directory it is
joined to.
-/

namespace BuildWatch

namespace Path

theorem splitSlash_ne_nil (bytes : List UInt8) : splitSlash bytes ≠ [] := by
  fun_induction splitSlash bytes <;> simp_all

theorem splitSlash_append (left right : List UInt8) :
    splitSlash (left ++ slash :: right) = splitSlash left ++ splitSlash right := by
  induction left with
  | nil => simp [splitSlash]
  | cons byte rest ih =>
      obtain ⟨piece, pieces, split⟩ := List.exists_cons_of_ne_nil (splitSlash_ne_nil rest)
      by_cases separates : byte = slash <;> simp [splitSlash, separates, ih, split]

theorem splitSlash_of_plain {piece : List UInt8} (plain : slash ∉ piece) :
    splitSlash piece = [piece] := by
  induction piece with
  | nil => rfl
  | cons byte rest ih =>
      obtain ⟨other, later⟩ := List.ne_and_not_mem_of_not_mem_cons plain
      simp [splitSlash, Ne.symm other, ih later]

theorem components_append {left : List UInt8} (nonempty : left ≠ []) (right : List UInt8) :
    components ⟨left ++ slash :: right⟩ =
      components ⟨left⟩ ++ (splitSlash right).filterMap componentOf := by
  obtain ⟨byte, rest, rfl⟩ := List.exists_cons_of_ne_nil nonempty
  obtain ⟨piece, pieces, split⟩ := List.exists_cons_of_ne_nil (splitSlash_ne_nil (byte :: rest))
  have apart := splitSlash_append (byte :: rest) right
  rw [List.cons_append] at apart
  by_cases absolute : byte = slash
  · subst absolute
    simp [components, isAbsolute, segments, apart]
  · by_cases current : piece = [dot] <;>
      simp [components, isAbsolute, segments, apart, absolute, split, current, List.filterMap_cons]
    cases componentOf piece <;> simp

theorem components_slashes {left : List UInt8} (nonempty : left ≠ []) (count : Nat) :
    components ⟨left ++ List.replicate count slash⟩ = components ⟨left⟩ := by
  induction count with
  | zero => simp
  | succ count ih =>
      rw [List.replicate_succ', ← List.append_assoc, components_append (by simp [nonempty]), ih]
      simp [splitSlash, componentOf]

theorem components_root (right : List UInt8) :
    components ⟨slash :: right⟩ = .root :: (splitSlash right).filterMap componentOf := by
  simp [components, isAbsolute, segments, splitSlash, componentOf]

/-- A piece that names a file: it has no slash, and it is neither empty nor one or two dots. -/
structure IsPlain (name : FileName) : Prop where
  unsplit : slash ∉ name
  named : componentOf name = some (.name name)

variable {path : Path} {directory : List Component} {name : FileName}

theorem IsPlain.pieces (plain : IsPlain name) :
    (splitSlash name).filterMap componentOf = [.name name] := by
  simp [splitSlash_of_plain plain.unsplit, plain.named]

theorem IsPlain.isAbsolute (plain : IsPlain name) : isAbsolute ⟨name⟩ = false := by
  cases name with
  | nil => rfl
  | cons byte rest =>
      obtain ⟨other, -⟩ := List.ne_and_not_mem_of_not_mem_cons plain.unsplit
      simpa [Path.isAbsolute] using Ne.symm other

theorem IsPlain.components (plain : IsPlain name) : Path.components ⟨name⟩ = [.name name] := by
  have single : segments ⟨name⟩ = [name] := splitSlash_of_plain plain.unsplit
  have other : name ≠ [dot] := by
    rintro rfl
    exact absurd plain.named (by decide)
  simp [Path.components, plain.isAbsolute, single, other, plain.named]

theorem components_join (left : Path) (plain : IsPlain name) :
    (left.join ⟨name⟩).components = left.components ++ [.name name] := by
  rcases left with ⟨left⟩
  rw [join, plain.isAbsolute, if_neg Bool.false_ne_true]
  split_ifs with ends
  · rcases ends with rfl | ends
    · exact plain.components
    · obtain ⟨front, rfl⟩ := List.getLast?_eq_some_iff.mp ends
      have whole : front ++ [slash] ++ name = front ++ slash :: name := by simp
      cases front with
      | nil => simp [components_root, plain.pieces, splitSlash, componentOf]
      | cons byte rest =>
          have before : components ⟨byte :: rest ++ [slash]⟩ = components ⟨byte :: rest⟩ :=
            components_slashes (List.cons_ne_nil byte rest) 1
          rw [whole, components_append (List.cons_ne_nil byte rest), plain.pieces, before]
  · rw [not_or] at ends
    rw [components_append ends.1, plain.pieces]

theorem components_join_nil (left : Path) : (left.join ⟨[]⟩).components = left.components := by
  rw [join, if_neg (by decide)]
  split_ifs with ends
  · simp
  · rw [not_or] at ends
    exact components_slashes ends.1 1

section Middle

variable {middle : List UInt8} (nonempty : middle ≠ []) (left : Path)

include nonempty

theorem join_append (right : List UInt8) :
    left.join ⟨middle ++ right⟩ = ⟨(left.join ⟨middle⟩).bytes ++ right⟩ := by
  obtain ⟨byte, rest, rfl⟩ := List.exists_cons_of_ne_nil nonempty
  simp only [join, isAbsolute, List.cons_append, List.head?_cons]
  split_ifs <;> simp

theorem join_ne_nil : (left.join ⟨middle⟩).bytes ≠ [] := by
  rw [join]
  split_ifs <;> simp [nonempty]

theorem components_join_append (right : List UInt8) :
    (left.join ⟨middle ++ slash :: right⟩).components =
      (left.join ⟨middle⟩).components ++ (splitSlash right).filterMap componentOf := by
  rw [join_append nonempty, components_append (join_ne_nil nonempty left)]

theorem components_join_slashes (count : Nat) :
    (left.join ⟨middle ++ List.replicate count slash⟩).components =
      (left.join ⟨middle⟩).components := by
  rw [join_append nonempty, components_slashes (join_ne_nil nonempty left)]

end Middle

theorem cutLastDot_of_plain (plain : dot ∉ name) : cutLastDot name = none := by
  induction name with
  | nil => rfl
  | cons byte rest ih =>
      obtain ⟨other, later⟩ := List.ne_and_not_mem_of_not_mem_cons plain
      rw [cutLastDot, ih later]
      exact if_neg (Ne.symm other)

theorem cutLastDot_append (name : FileName) {extension : FileName} (plain : dot ∉ extension) :
    cutLastDot (name ++ dot :: extension) = some (name, extension) := by
  induction name with
  | nil => simp [cutLastDot, cutLastDot_of_plain plain]
  | cons byte rest ih => simp [cutLastDot, ih]

theorem fileName?_of_components (inside : path.components = directory ++ [.name name]) :
    path.fileName? = some name := by
  simp [fileName?, inside]

theorem parent?_of_components (inside : path.components = directory ++ [.name name]) :
    path.parent? = some directory := by
  simp [parent?, inside]

theorem components_of_parts (named : path.fileName? = some name)
    (parent : path.parent? = some directory) : path.components = directory ++ [.name name] := by
  unfold fileName? at named
  unfold parent? at parent
  split at named
  · rename_i last ends
    obtain rfl := Option.some.inj named
    obtain ⟨front, whole⟩ := List.getLast?_eq_some_iff.mp ends
    simp [whole] at parent
    rw [whole, parent]
  · simp at named

end Path

end BuildWatch
