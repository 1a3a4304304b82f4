import BuildWatch.Proofs.Terminal.Lines

/-!
Messages that take each other's place. A message moves the cursor up by as many lines as the message
before it has printed, and not at all if there is none or if that one was left alone. The terminal
counts lines in sixteen bits, so a message with more lines than that is not erased as a whole.
-/

namespace BuildWatch

inductive StatusMessage where
  | success (message : String)
  | pending (message : String)
  | warning (message : String)
  | failure (summary detail : String)
  deriving DecidableEq, Repr

/-- Something that is done with the status block; a message is told at a time of day. -/
inductive StatusAction where
  | tell (seconds : Nat) (message : StatusMessage)
  | detach
  deriving DecidableEq, Repr

namespace StatusBlock

def tell (block : StatusBlock) (seconds : Nat) : StatusMessage → List Piece × StatusBlock
  | .success message => block.success (timeOfDay seconds) message
  | .pending message => block.pending (timeOfDay seconds) message
  | .warning message => block.warning (timeOfDay seconds) message
  | .failure summary detail => block.failure (timeOfDay seconds) summary detail

def act (block : StatusBlock) : StatusAction → List Piece × StatusBlock
  | .tell seconds message => block.tell seconds message
  | .detach => ([], block.detach)

def after (block : StatusBlock) (actions : List StatusAction) : StatusBlock :=
  actions.foldl (fun block action => (block.act action).2) block

def lineFeeds (pieces : List Piece) : Nat := lineEnds (Terminal.send pieces)

theorem lineEnds_toString (number : Nat) : lineEnds (toString number) = 0 := by
  rw [lineEnds, Nat.toString_eq_repr, Nat.toList_repr, List.count_eq_zero]
  intro among
  exact absurd (Nat.isDigit_of_mem_toDigits (by decide) (by decide) among) (by decide)

theorem lineEnds_timeOfDay (seconds : Nat) : lineEnds (timeOfDay seconds) = 0 := by
  have two (number : Nat) : lineEnds (twoDigits number) = 0 := by
    have zero : lineEnds "0" = 0 := by decide
    unfold twoDigits
    split_ifs
    · rw [lineEnds_append, zero, lineEnds_toString]
    · exact lineEnds_toString number
  have colon : lineEnds ":" = 0 := by decide
  simp only [timeOfDay, lineEnds_append, two, colon]

theorem lineFeeds_append (front back : List Piece) :
    lineFeeds (front ++ back) = lineFeeds front + lineFeeds back := by
  rw [lineFeeds, Terminal.send, List.map_append, String.join_append, lineEnds_append]
  rfl

theorem lineFeeds_text (text : String) : lineFeeds [.text text] = lineEnds text := by
  simp [lineFeeds, Terminal.send, Piece.send, String.join_cons]

theorem lineFeeds_erase (block : StatusBlock) : lineFeeds block.erase = 0 := by
  have bracket : lineEnds "\x1b[" = 0 := by decide
  have up : lineEnds "A" = 0 := by decide
  have below : lineEnds "J" = 0 := by decide
  unfold erase
  split_ifs
  · rfl
  · simp only [lineFeeds, Terminal.send, List.map_cons, List.map_nil, Piece.send, Terminal.escape,
      String.join_cons, lineEnds_append, lineEnds_toString, bracket, up, below]
    rfl

theorem displayed_text {clock symbol message : String} (oneLine : lineEnds clock = 0)
    (plain : lineEnds symbol = 0) :
    ∃ text, ∀ block : StatusBlock,
      (block.display clock symbol message).1 = block.erase ++ [.text text] ∧
        (block.display clock symbol message).2.height = lineEnds text := by
  refine ⟨_, fun block => ⟨rfl, ?_⟩⟩
  have last : lineEnds "\n" = 1 := by decide
  have space : lineEnds " " = 0 := by decide
  have left : lineEnds "[" = 0 := by decide
  have right : lineEnds "]" = 0 := by decide
  have dim : lineEnds (Terminal.escape "2m") = 0 := by decide
  have normal : lineEnds (Terminal.escape "0m") = 0 := by decide
  have mark : lineEnds (if symbol = "" then "" else symbol ++ " ") = 0 := by
    split_ifs
    · rfl
    · rw [lineEnds_append, plain, space]
  simp only [display, Terminal.dimmed, lineEnds_append, oneLine, mark, last, space, left, right,
    dim, normal]
  omega

theorem told_text (seconds : Nat) (message : StatusMessage) :
    ∃ text, ∀ block : StatusBlock,
      (block.tell seconds message).1 = block.erase ++ [.text text] ∧
        (block.tell seconds message).2.height = lineEnds text := by
  have oneLine := lineEnds_timeOfDay seconds
  cases message with
  | success message => exact displayed_text oneLine (by decide)
  | pending message => exact displayed_text oneLine (by decide)
  | warning message => exact displayed_text oneLine (by decide)
  | failure summary detail => exact displayed_text oneLine (by decide)

theorem lineFeeds_tell (block : StatusBlock) (seconds : Nat) (message : StatusMessage) :
    lineFeeds (block.tell seconds message).1 = (block.tell seconds message).2.height := by
  obtain ⟨text, shown⟩ := told_text seconds message
  obtain ⟨sent, high⟩ := shown block
  rw [sent, lineFeeds_append, lineFeeds_erase, lineFeeds_text, high, Nat.zero_add]

theorem tell_height_pos (block : StatusBlock) (seconds : Nat) (message : StatusMessage) :
    (block.tell seconds message).2.height ≠ 0 := by
  cases message <;> exact Nat.succ_ne_zero _

theorem erase_tell (block : StatusBlock) (seconds : Nat) (message : StatusMessage) :
    (block.tell seconds message).2.erase =
      [.moveUp (lineFeeds (block.tell seconds message).1 % heightLimit), .clearBelow] := by
  rw [erase, if_neg (block.tell_height_pos seconds message), lineFeeds_tell]

theorem after_append_singleton (block : StatusBlock) (actions : List StatusAction)
    (action : StatusAction) :
    block.after (actions ++ [action]) = ((block.after actions).act action).2 := by
  rw [after, List.foldl_append]
  rfl

/-- A message that is told first, or after the block was left alone, moves the cursor not at all. One
that follows another message moves it up in order to clear what stands from there on: by all the
lines that were printed for the other one just when they are fewer than the terminal can count. -/
theorem told_in_place (seconds : Nat) (message : StatusMessage) :
    ∃ text, (fresh.tell seconds message).1 = [.text text] ∧ ∀ before : List StatusAction,
      ((fresh.after (before ++ [.detach])).tell seconds message).1 = [.text text] ∧
        ∀ (earlier : Nat) (previous : StatusMessage),
          let printed := lineFeeds ((fresh.after before).tell earlier previous).1
          ((fresh.after (before ++ [.tell earlier previous])).tell seconds message).1 =
              [.moveUp (printed % heightLimit), .clearBelow, .text text] ∧
            (printed % heightLimit = printed ↔ printed < heightLimit) := by
  obtain ⟨text, shown⟩ := told_text seconds message
  refine ⟨text, (shown fresh).1, fun before => ⟨?_, fun earlier previous => ⟨?_, ?_⟩⟩⟩
  · rw [after_append_singleton]
    exact (shown fresh).1
  · rw [after_append_singleton, (shown _).1]
    exact congrArg (· ++ [Piece.text text]) ((fresh.after before).erase_tell earlier previous)
  · exact Nat.mod_eq_iff_lt (by decide)

theorem lineFeeds_success (block : StatusBlock) (seconds : Nat) (message : String) :
    lineFeeds (block.tell seconds (.success message)).1 = lineEnds message + 1 :=
  block.lineFeeds_tell seconds (.success message)

/-- A message of 65536 lines stays on the screen: the one that follows it moves the cursor not at
all. -/
theorem told_below_high_block :
    ¬∀ (before : List StatusAction) (earlier seconds : Nat) (previous message : StatusMessage),
      ∃ text, ((fresh.after (before ++ [.tell earlier previous])).tell seconds message).1 =
        [.moveUp (lineFeeds ((fresh.after before).tell earlier previous).1), .clearBelow,
          .text text] := by
  intro exact_move
  have ends : lineEnds (String.ofList (List.replicate 65535 '\n')) = 65535 := by
    rw [lineEnds, String.toList_ofList, List.count_replicate_self]
  generalize String.ofList (List.replicate 65535 '\n') = high at ends
  obtain ⟨text, claimed⟩ := exact_move [] 0 1 (.success high) (.pending "wraps")
  obtain ⟨other, shown⟩ := told_text 1 (.pending "wraps")
  rw [after_append_singleton, (shown _).1, act, erase_tell] at claimed
  have moved := Piece.moveUp.inj (List.cons.inj claimed).1
  rw [lineFeeds_success, ends] at moved
  exact absurd moved (by decide)

end StatusBlock

end BuildWatch
