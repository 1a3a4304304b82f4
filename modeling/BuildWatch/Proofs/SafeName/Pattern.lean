import BuildWatch.Proofs.SafeName

/-!
Safe names in two other words: as the texts of a regular expression, and by conditions on their
characters. A name that is read from the left is at the start of a run or within one, and what may
follow there is a language for each.
-/

namespace BuildWatch.SafeName

theorem isSeparator_iff {char : Char} : isSeparator char = true ↔ char ∈ ['-', '.', '_'] := by
  simp [isSeparator, or_assoc]

theorem isSeparator_of_isWord {char : Char} (word : isWord char = true) :
    isSeparator char = false := by
  by_contra separator
  rw [Bool.not_eq_false, isSeparator_iff] at separator
  fin_cases separator <;> simp [isWord] at word

section Characters

/-- A safe name, said of its characters. -/
structure IsWellFormed (chars : List Char) : Prop where
  some : chars ≠ []
  alphabet : ∀ char ∈ chars, char.isAlphanum = true ∨ char ∈ ['-', '.', '_']
  first : ∀ char ∈ chars.head?, char.isAlphanum = true
  last : ∀ char ∈ chars.getLast?, char.isAlphanum = true
  apart : chars.IsChain fun left right => ¬(left ∈ ['-', '.', '_'] ∧ right ∈ ['-', '.', '_'])

def IsRest (chars : List Char) : Prop :=
  (∀ char ∈ chars, isWord char = true ∨ isSeparator char = true) ∧
    (∀ char ∈ chars.getLast?, isWord char = true) ∧
    chars.IsChain fun left right => ¬(isSeparator left = true ∧ isSeparator right = true)

theorem isJoined_iff {chars : List Char} {opening : Bool} :
    isJoined opening chars = true ↔
      (opening = true → ∃ char ∈ chars.head?, isWord char = true) ∧ IsRest chars := by
  induction chars generalizing opening with
  | nil => simp [isJoined, IsRest]
  | cons char rest ih =>
      rw [isJoined]
      by_cases word : isWord char = true
      · rw [if_pos word, ih]
        cases rest <;> simp [IsRest, word, isSeparator_of_isWord word]
      · rw [if_neg word, Bool.and_eq_true, Bool.and_eq_true, ih]
        cases rest with
        | nil => simp [IsRest, word]
        | cons next rest =>
            -- a run starts after a separator exactly if no second one stands there
            have alone : isWord next = true → isSeparator next = false := isSeparator_of_isWord
            simp only [IsRest, List.forall_mem_cons, List.isChain_cons_cons]
            grind

theorem isJoined_iff_isWellFormed {chars : List Char} :
    isJoined true chars = true ↔ IsWellFormed chars := by
  rw [isJoined_iff]
  simp only [IsRest, isSeparator_iff]
  constructor
  · rintro ⟨opens, alphabet, last, apart⟩
    obtain ⟨first, head, word⟩ := opens trivial
    refine ⟨by rintro rfl; simp at head, alphabet, ?_, last, apart⟩
    intro char also
    rwa [Option.mem_unique also head]
  · rintro ⟨some, alphabet, first, last, apart⟩
    obtain ⟨char, rest, rfl⟩ := List.exists_cons_of_ne_nil some
    exact ⟨fun _ => ⟨char, rfl, first char rfl⟩, alphabet, last, apart⟩

end Characters

section Pattern

open Computability RegularExpression

def oneOf (chars : List Char) : RegularExpression Char :=
  (chars.map char).sum

def charsBetween (low high : Char) : List Char :=
  (List.range' low.toNat (high.toNat + 1 - low.toNat)).map Char.ofNat

def wordPattern : RegularExpression Char :=
  oneOf (charsBetween 'a' 'z' ++ charsBetween 'A' 'Z' ++ charsBetween '0' '9')

def separatorPattern : RegularExpression Char :=
  oneOf ['-', '.', '_']

def repeated (pattern : RegularExpression Char) : RegularExpression Char :=
  pattern * star pattern

/-- A run of letters and digits, and any number of others, each after a separator. -/
def safePattern : RegularExpression Char :=
  repeated wordPattern * star (separatorPattern * repeated wordPattern)

/-- A safe name and the ending of a script. -/
def sourcePattern : RegularExpression Char :=
  safePattern * (char '.' * char 'j' * char 's')

theorem mem_oneOf {chars text : List Char} :
    text ∈ (oneOf chars).matches' ↔ ∃ char ∈ chars, text = [char] := by
  induction chars with
  | nil => exact iff_of_false (Language.notMem_zero text) (by simp)
  | cons char chars ih =>
      have split : oneOf (char :: chars) = .char char + oneOf chars := List.sum_cons
      rw [split, matches'_add, Language.mem_add, ih, List.exists_mem_cons_iff]
      rfl

theorem nil_notMem_oneOf_mul {chars : List Char} {language : Language Char} :
    [] ∉ (oneOf chars).matches' * language := by
  rw [Language.mem_mul]
  rintro ⟨front, one, rest, -, whole⟩
  obtain ⟨char, -, rfl⟩ := mem_oneOf.mp one
  simp at whole

theorem cons_mem_oneOf_mul {chars rest : List Char} {char : Char} {language : Language Char} :
    char :: rest ∈ (oneOf chars).matches' * language ↔ char ∈ chars ∧ rest ∈ language := by
  rw [Language.mem_mul]
  constructor
  · rintro ⟨front, one, follows, allowed, whole⟩
    obtain ⟨first, member, rfl⟩ := mem_oneOf.mp one
    obtain ⟨rfl, rfl⟩ := List.cons_eq_cons.mp whole
    exact ⟨member, allowed⟩
  · rintro ⟨member, allowed⟩
    exact ⟨[char], mem_oneOf.mpr ⟨char, member, rfl⟩, rest, allowed, rfl⟩

theorem mem_charsBetween {low high char : Char} (ascii : high.toNat < 128) :
    char ∈ charsBetween low high ↔ low ≤ char ∧ char ≤ high := by
  have ordered {left right : Char} : left ≤ right ↔ left.toNat ≤ right.toNat := Iff.rfl
  simp only [charsBetween, List.mem_map, List.mem_range'_1, ordered]
  constructor
  · rintro ⟨point, bounds, rfl⟩
    rw [Char.toNat_ofNat, if_pos (.inl (by omega))]
    omega
  · intro bounds
    exact ⟨char.toNat, by omega, Char.ofNat_toNat char⟩

theorem isWord_iff {char : Char} :
    isWord char = true ↔
      char ∈ charsBetween 'a' 'z' ++ charsBetween 'A' 'Z' ++ charsBetween '0' '9' := by
  rw [List.mem_append, List.mem_append, mem_charsBetween (by decide),
    mem_charsBetween (by decide), mem_charsBetween (by decide)]
  simp only [isWord, Char.isAlphanum, Char.isAlpha, Char.isUpper, Char.isLower, Char.isDigit,
    Char.le_def, Bool.or_eq_true, Bool.and_eq_true, decide_eq_true_eq, ge_iff_le]
  tauto

def restLanguage : Language Char :=
  wordPattern.matches'∗ * (separatorPattern * repeated wordPattern).matches'∗

theorem matches_safePattern :
    safePattern.matches' = wordPattern.matches' * restLanguage := by
  simp only [safePattern, repeated, matches'_mul, matches'_star, restLanguage, mul_assoc]

theorem restLanguage_eq :
    restLanguage = 1 + wordPattern.matches' * restLanguage +
      separatorPattern.matches' * safePattern.matches' := by
  have next : (separatorPattern * repeated wordPattern).matches'∗ =
      1 + separatorPattern.matches' * safePattern.matches' := by
    rw [← Language.one_add_self_mul_kstar_eq_kstar, matches'_mul, mul_assoc]
    rfl
  calc restLanguage
      = (1 + wordPattern.matches' * wordPattern.matches'∗) *
          (separatorPattern * repeated wordPattern).matches'∗ := by
        rw [Language.one_add_self_mul_kstar_eq_kstar, restLanguage]
    _ = (separatorPattern * repeated wordPattern).matches'∗ +
          wordPattern.matches' * restLanguage := by
        rw [add_mul, one_mul, mul_assoc, restLanguage]
    _ = 1 + wordPattern.matches' * restLanguage +
          separatorPattern.matches' * safePattern.matches' := by
        rw [next, add_right_comm]

theorem cons_mem_safePattern {char : Char} {rest : List Char} :
    char :: rest ∈ safePattern.matches' ↔ isWord char = true ∧ rest ∈ restLanguage := by
  rw [matches_safePattern, wordPattern, cons_mem_oneOf_mul, isWord_iff]

theorem cons_mem_restLanguage {char : Char} {rest : List Char} :
    char :: rest ∈ restLanguage ↔ isWord char = true ∧ rest ∈ restLanguage ∨
      isSeparator char = true ∧ rest ∈ safePattern.matches' := by
  conv_lhs => rw [restLanguage_eq]
  rw [← matches_safePattern, separatorPattern, Language.mem_add, Language.mem_add,
    Language.mem_one, cons_mem_safePattern, cons_mem_oneOf_mul, isSeparator_iff]
  simp only [reduceCtorEq, false_or]

theorem isJoined_iff_mem {chars : List Char} {opening : Bool} :
    isJoined opening chars = true ↔
      chars ∈ if opening then safePattern.matches' else restLanguage := by
  induction chars generalizing opening with
  | nil =>
      have ended : [] ∈ restLanguage := by
        rw [restLanguage_eq]
        exact .inl (.inl rfl)
      have some : [] ∉ safePattern.matches' := by
        rw [matches_safePattern, wordPattern]
        exact nil_notMem_oneOf_mul
      cases opening <;> simp [isJoined, ended, some]
  | cons char rest ih =>
      rw [isJoined]
      cases opening <;> by_cases word : isWord char = true <;>
        simp [cons_mem_safePattern, cons_mem_restLanguage, ih, word, isSeparator_of_isWord]

theorem isSafe_iff_mem {text : String} :
    isSafe text = true ↔ text.toList ∈ safePattern.matches' := by
  rw [isSafe, isJoined_iff_mem, if_pos rfl]

theorem matches_ending :
    (RegularExpression.char '.' * .char 'j' * .char 's').matches' = {scriptEnding} := by
  have joined (left right : List Char) : ({left} * {right} : Language Char) = {left ++ right} :=
    Set.image2_singleton
  change ({['.']} * {['j']} * {['s']} : Language Char) = {scriptEnding}
  rw [joined, joined]
  rfl

theorem mem_sourcePattern {chars : List Char} :
    chars ∈ sourcePattern.matches' ↔ isJoined true chars = true ∧ scriptEnding <:+ chars := by
  rw [sourcePattern, matches'_mul, Language.mem_mul, matches_ending]
  constructor
  · rintro ⟨stem, safe, _, rfl, rfl⟩
    have joined : isJoined true stem = true := by rwa [isJoined_iff_mem, if_pos rfl]
    exact ⟨isJoined_append_ending.trans joined, List.suffix_append ..⟩
  · rintro ⟨joined, stem, rfl⟩
    rw [isJoined_append_ending, isJoined_iff_mem, if_pos rfl] at joined
    exact ⟨stem, joined, scriptEnding, rfl, rfl⟩

theorem isSource_iff_mem {text : String} :
    isSource text = true ↔
      text.toList ∈ sourcePattern.matches' ∧ ¬testEnding <:+ text.toList := by
  rw [isSource_iff, mem_sourcePattern, isSafe, and_assoc]

end Pattern

end BuildWatch.SafeName
