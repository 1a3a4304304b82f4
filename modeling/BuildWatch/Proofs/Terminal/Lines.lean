import BuildWatch.Proofs.Terminal.Display

/-!
The lines on a terminal while the loop shows states and everybody logs. A state that takes the place
of the block before it erases as many lines as that block has, counted from the end: those of the
block if it still stands last, but lines of the log if any were printed since.
-/

namespace BuildWatch

/-- Who printed a line: the log, or the loop for a block. -/
inductive Writer where
  | log
  | block (number : Nat)
  deriving DecidableEq, Repr

structure TerminalLine where
  writer : Writer
  text : List Char
  deriving DecidableEq, Repr

namespace Terminal

def endedLines (begun : List Char) : List Char → List (List Char)
  | [] => []
  | char :: rest =>
    if char = '\n' then begun :: endedLines [] rest else endedLines (begun ++ [char]) rest

theorem length_endedLines (begun text : List Char) :
    (endedLines begun text).length = text.count '\n' := by
  induction text generalizing begun with
  | nil => rfl
  | cons char rest ih =>
      rw [endedLines, List.count_cons]
      by_cases ends : char = '\n'
      · simp [ends, ih]
      · simp [ends, ih]

end Terminal

/-- The lines above the cursor, which stands at the start of a line, and those from there on. -/
structure Sheet where
  above : List TerminalLine
  below : List TerminalLine
  deriving DecidableEq, Repr

namespace Sheet

def empty : Sheet := ⟨[], []⟩

def lines (sheet : Sheet) : List TerminalLine := sheet.above ++ sheet.below

def put (writer : Writer) (sheet : Sheet) : Piece → Sheet
  | .text text =>
    let printed := (Terminal.endedLines [] text.toList).map (⟨writer, ·⟩)
    ⟨sheet.above ++ printed, sheet.below.drop printed.length⟩
  | .clearLine => { sheet with below := sheet.below.modifyHead ({ · with text := [] }) }
  | .clearBelow => { sheet with below := [] }
  | .moveUp count =>
    let kept := sheet.above.length - count
    ⟨sheet.above.take kept, sheet.above.drop kept ++ sheet.below⟩

def putAll (writer : Writer) (sheet : Sheet) (pieces : List Piece) : Sheet :=
  pieces.foldl (put writer) sheet

variable (writer : Writer) (lines : List TerminalLine)

theorem putAll_append (sheet : Sheet) (front back : List Piece) :
    sheet.putAll writer (front ++ back) = (sheet.putAll writer front).putAll writer back :=
  List.foldl_append

theorem putAll_text (text : String) :
    ∃ printed, (⟨lines, []⟩ : Sheet).putAll writer [.text text] = ⟨lines ++ printed, []⟩ ∧
      (∀ line ∈ printed, line.writer = writer) ∧ printed.length = StatusBlock.lineEnds text := by
  refine ⟨(Terminal.endedLines [] text.toList).map (⟨writer, ·⟩), by simp [putAll, put], ?_, ?_⟩
  · intro line member
    obtain ⟨content, -, rfl⟩ := List.mem_map.mp member
    rfl
  · rw [List.length_map, Terminal.length_endedLines, StatusBlock.lineEnds]

theorem putAll_log (entries : List LogEntry) :
    ∃ printed, (⟨lines, []⟩ : Sheet).putAll writer (entries.flatMap Terminal.logPieces) =
        ⟨lines ++ printed, []⟩ ∧ ∀ line ∈ printed, line.writer = writer := by
  induction entries generalizing lines with
  | nil => exact ⟨[], by simp [putAll], nofun⟩
  | cons entry rest ih =>
      obtain ⟨first, once, own, -⟩ := putAll_text writer lines _
      obtain ⟨others, after, also⟩ := ih (lines ++ first)
      refine ⟨first ++ others, ?_, ?_⟩
      · rw [List.flatMap_cons, putAll_append, ← List.append_assoc, ← after, ← once]
        rfl
      · intro line member
        rcases List.mem_append.mp member with early | late
        · exact own line early
        · exact also line late

theorem putAll_erase (block : StatusBlock) :
    (⟨lines, []⟩ : Sheet).putAll writer block.erase =
      ⟨lines.take (lines.length - block.height % StatusBlock.heightLimit), []⟩ := by
  unfold StatusBlock.erase
  by_cases nothing : block.height = 0
  · simp [nothing, putAll]
  · simp [nothing, putAll, put]

end Sheet

namespace StatusBlock

theorem lineEnds_append (front back : String) :
    lineEnds (front ++ back) = lineEnds front + lineEnds back := by
  simp [lineEnds]

theorem display_eq (block : StatusBlock) (clock symbol message : String) :
    ∃ text, (block.display clock symbol message).1 = block.erase ++ [.text text] ∧
      (block.display clock symbol message).2.height ≤ lineEnds text := by
  refine ⟨_, rfl, ?_⟩
  have last : lineEnds "\n" = 1 := by decide
  simp only [display, lineEnds_append, last]
  omega

end StatusBlock

namespace BuildState

def leavesBlock : BuildState → Bool
  | loading => false
  | failed .. => true
  | succeeded _ diagnostics _ => diagnostics ≠ []

theorem render_eq (state : BuildState) (clock : String) (block : StatusBlock) :
    ∃ text, (state.render clock block).1 =
        (if state.leavesBlock then [] else block.erase) ++ [.text text] ∧
      (state.render clock block).2.height ≤ StatusBlock.lineEnds text := by
  cases state with
  | loading => exact block.display_eq clock "" _
  | failed error diagnostics project => exact block.detach.display_eq clock _ _
  | succeeded artifact diagnostics project =>
      by_cases clean : diagnostics = []
      · simp only [render, leavesBlock, clean, if_true, ne_eq, not_true, decide_false]
        exact block.display_eq clock _ _
      · simp only [render, leavesBlock, clean, if_false, ne_eq, not_false_iff, decide_true]
        exact block.detach.display_eq clock _ _

end BuildState

inductive ConsoleAction where
  | log (entry : LogEntry)
  | display (action : DisplayAction)

/-- The loop, the sheet that it and the log print on, and how many blocks there have been. -/
structure Console where
  screen : Screen
  sheet : Sheet
  blocks : Nat

namespace Console

def create (capacity : Nat) : Console := ⟨.create capacity, .empty, 0⟩

def lines (console : Console) : List TerminalLine := console.sheet.lines

/-- What the loop prints in a step, and whether that is a block. -/
def printed (display : Display) : DisplayAction → Bool × List Piece
  | .showCode clock =>
    match display.showCode? clock with
    | some (_, shown, pieces) => (shown.isSome, pieces)
    | none => (false, [])
  | .showMusic verbose =>
    match display.showMusic? verbose with
    | some (_, _, pieces) => (false, pieces)
    | none => (false, [])
  | .stop | .code _ | .music _ => (false, [])

def step (console : Console) : ConsoleAction → Console
  | .log entry =>
    { console with sheet := console.sheet.putAll .log (Terminal.logPieces entry) }
  | .display action =>
    let (isBlock, pieces) := printed console.screen.display action
    if isBlock then
      ⟨console.screen.step action, console.sheet.putAll (.block console.blocks) pieces,
        console.blocks + 1⟩
    else ⟨console.screen.step action, console.sheet.putAll .log pieces, console.blocks⟩

def run (console : Console) (actions : List ConsoleAction) : Console :=
  actions.foldl step console

def block (console : Console) : StatusBlock := console.screen.display.block

def logLines (console : Console) : List TerminalLine :=
  console.lines.filter fun line => line.writer = .log

def endsInLog (console : Console) : Bool :=
  console.lines.getLast?.any fun line => line.writer = .log

/-- A state spares the log if it leaves the block before it alone, if no block is to be erased, or
if that block still stands last. -/
def Spares (console : Console) (state : BuildState) : Prop :=
  state.leavesBlock = true ∨ console.block.height % StatusBlock.heightLimit = 0 ∨
    console.endsInLog = false

def EndsInBlock (lines : List TerminalLine) (number height : Nat) : Prop :=
  ∃ front own logs, lines = front ++ own ++ logs ∧ height ≤ own.length ∧
    (∀ line ∈ own, line.writer = .block number) ∧ ∀ line ∈ logs, line.writer = .log

/-- As long as a block is to be erased, it stands on the sheet, and nothing but the log below it. -/
structure Sound (console : Console) : Prop where
  atEnd : console.sheet.below = []
  standing : console.block.height ≠ 0 →
    EndsInBlock console.sheet.above (console.blocks - 1) console.block.height

variable {console : Console}

theorem EndsInBlock.log {lines printed : List TerminalLine} {number height : Nat}
    (ends : EndsInBlock lines number height) (own : ∀ line ∈ printed, line.writer = .log) :
    EndsInBlock (lines ++ printed) number height := by
  obtain ⟨front, block, logs, rfl, high, blocks, logged⟩ := ends
  refine ⟨front, block, logs ++ printed, by simp, high, blocks, ?_⟩
  intro line member
  rcases List.mem_append.mp member with early | late
  · exact logged line early
  · exact own line late

theorem EndsInBlock.fresh {lines printed : List TerminalLine} {number height : Nat}
    (own : ∀ line ∈ printed, line.writer = .block number) (high : height ≤ printed.length) :
    EndsInBlock (lines ++ printed) number height :=
  ⟨lines, printed, [], (List.append_nil _).symm, high, own, nofun⟩

theorem printed_cases (screen : Screen) (action : DisplayAction) :
    (∃ (clock : String) (state : BuildState),
      printed screen.display action = (true, (state.render clock screen.display.block).1) ∧
      (screen.step action).display.block = (state.render clock screen.display.block).2) ∨
    ∃ entries : List LogEntry,
      printed screen.display action = (false, entries.flatMap Terminal.logPieces) ∧
      ((screen.step action).display.block = screen.display.block ∨
        (screen.step action).display.block.height = 0) := by
  cases action with
  | showCode clock =>
      simp only [printed, Screen.step, Display.showCode?]
      cases screen.display.code.next? with
      | none => exact .inr ⟨[], rfl, .inl rfl⟩
      | some next =>
          obtain ⟨code, shown⟩ := next
          cases shown with
          | none => exact .inr ⟨[], rfl, .inl rfl⟩
          | some state => exact .inl ⟨clock, state, rfl, rfl⟩
  | showMusic verbose =>
      simp only [printed, Screen.step, Display.showMusic?]
      cases screen.display.music.next? with
      | none => exact .inr ⟨[], rfl, .inl rfl⟩
      | some next =>
          obtain ⟨music, shown⟩ := next
          cases shown with
          | none => exact .inr ⟨[], rfl, .inl rfl⟩
          | some state => exact .inr ⟨_, rfl, .inr rfl⟩
  | stop | code | music => exact .inr ⟨[], rfl, .inl rfl⟩

theorem pieces_of_showCode? {display next : Display} {clock : String} {state : BuildState}
    {pieces : List Piece} (shows : display.showCode? clock = some (next, some state, pieces)) :
    pieces = (state.render clock display.block).1 := by
  obtain ⟨⟨code, shown⟩, -, same⟩ := Option.map_eq_some_iff.mp shows
  cases shown with
  | none => simp at same
  | some other =>
      simp only [Prod.mk.injEq, Option.some.injEq] at same
      obtain ⟨-, rfl, rfl⟩ := same
      rfl

def erased (console : Console) (state : BuildState) : Nat :=
  if state.leavesBlock then 0 else console.block.height % StatusBlock.heightLimit

theorem putAll_render {lines : List TerminalLine} (sheet : console.sheet = ⟨lines, []⟩)
    (state : BuildState) (clock : String) (number : Nat) :
    ∃ fresh, console.sheet.putAll (.block number) (state.render clock console.block).1 =
        ⟨lines.take (lines.length - console.erased state) ++ fresh, []⟩ ∧
      (∀ line ∈ fresh, line.writer = .block number) ∧
      (state.render clock console.block).2.height ≤ fresh.length := by
  obtain ⟨text, pieces, high⟩ := state.render_eq clock console.block
  rw [pieces, Sheet.putAll_append, sheet, erased]
  cases state.leavesBlock with
  | true =>
      obtain ⟨fresh, same, own, length⟩ := Sheet.putAll_text _ _ text
      exact ⟨fresh, by simpa [Sheet.putAll] using same, own, by omega⟩
  | false =>
      obtain ⟨fresh, same, own, length⟩ := Sheet.putAll_text _ _ text
      simp only [Bool.false_eq_true, if_false, Sheet.putAll_erase]
      exact ⟨fresh, same, own, by omega⟩

theorem Sound.sheet_eq (sound : Sound console) : console.sheet = ⟨console.sheet.above, []⟩ := by
  rw [← sound.atEnd]

theorem Sound.lines_eq (sound : Sound console) : console.lines = console.sheet.above := by
  rw [lines, Sheet.lines, sound.atEnd, List.append_nil]

theorem Sound.step (sound : Sound console) (action : ConsoleAction) :
    Sound (console.step action) := by
  have sheet := sound.sheet_eq
  cases action with
  | log entry =>
      obtain ⟨printed, same, own⟩ :=
        Sheet.putAll_log .log console.sheet.above [entry]
      rw [← sheet, List.flatMap_singleton] at same
      constructor
      · simp only [Console.step, same]
      · intro high
        simp only [Console.step, same]
        exact (sound.standing high).log own
  | display action =>
      rcases printed_cases console.screen action with
        ⟨clock, state, pieces, block⟩ | ⟨entries, pieces, block⟩
      · obtain ⟨fresh, same, own, high⟩ := putAll_render sheet state clock console.blocks
        simp only [Console.step, pieces, if_true]
        rw [Console.block] at same high
        constructor
        · simp only [same]
        · intro _
          simp only [same, Console.block, block]
          exact .fresh own high
      · obtain ⟨printed, same, own⟩ :=
          Sheet.putAll_log .log console.sheet.above entries
        rw [← sheet] at same
        simp only [Console.step, pieces, Bool.false_eq_true, if_false]
        constructor
        · simp only [same]
        · intro high
          simp only [same]
          rcases block with kept | gone
          · simp only [Console.block, kept] at high ⊢
            exact (sound.standing high).log own
          · exact absurd gone high

theorem sound (capacity : Nat) (actions : List ConsoleAction) :
    Sound ((create capacity).run actions) := by
  induction actions using List.reverseRecOn with
  | nil => exact ⟨rfl, fun high => absurd rfl high⟩
  | append_singleton actions action ih =>
      rw [run, List.foldl_append]
      exact ih.step action

def removed (console : Console) (state : BuildState) : List TerminalLine :=
  console.lines.drop (console.lines.length - console.erased state)

theorem removed_of_erased_zero {state : BuildState} (none : console.erased state = 0) :
    console.removed state = [] := by
  rw [removed, none, Nat.sub_zero, List.drop_length]

theorem erased_of_not_spares {state : BuildState} (takes : ¬ console.Spares state) :
    0 < console.erased state ∧ console.erased state ≤ console.block.height ∧
      console.endsInLog = true := by
  simp only [Spares, not_or, Bool.not_eq_true, Bool.not_eq_false] at takes
  obtain ⟨replaces, high, logged⟩ := takes
  rw [erased, replaces]
  exact ⟨Nat.pos_of_ne_zero high, Nat.mod_le _ _, logged⟩

theorem removed_of_spares (sound : Sound console) {state : BuildState}
    (spares : console.Spares state) :
    ∀ line ∈ console.removed state, line.writer = .block (console.blocks - 1) := by
  by_cases nothing : console.erased state = 0
  · rw [removed_of_erased_zero nothing]
    nofun
  · have replaces : state.leavesBlock = false := by
      by_contra leaves
      simp [erased, leaves] at nothing
    have high : console.erased state ≤ console.block.height := by
      rw [erased, replaces]
      exact Nat.mod_le _ _
    have last : console.endsInLog = false := by
      rcases spares with leaves | zero | last
      · simp [replaces] at leaves
      · simp [erased, replaces, zero] at nothing
      · exact last
    obtain ⟨front, own, logs, same, enough, blocks, logged⟩ := sound.standing (by omega)
    rw [← sound.lines_eq] at same
    -- no line of the log can stand below the block, for it would be the last one
    obtain rfl : logs = [] := by
      by_contra some
      obtain ⟨early, line, rfl⟩ := List.eq_nil_or_concat logs |>.resolve_left some
      have log := logged line (by simp)
      simp [endsInLog, same, log] at last
    rw [List.append_nil] at same
    intro line member
    have length : console.lines.length = front.length + own.length := by
      rw [same, List.length_append]
    have beyond : (console.lines.length - console.erased state) =
        front.length + (own.length - console.erased state) := by omega
    rw [removed, beyond, same, List.drop_length_add_append] at member
    exact blocks line (List.mem_of_mem_drop member)

theorem removed_log_of_not_spares {state : BuildState}
    (takes : ¬ console.Spares state) :
    ∃ line ∈ console.removed state, line.writer = .log := by
  obtain ⟨positive, -, logged⟩ := erased_of_not_spares takes
  cases latest : console.lines.getLast? with
  | none => simp [endsInLog, latest] at logged
  | some line =>
      have log : line.writer = .log := by simpa [endsInLog, latest] using logged
      refine ⟨line, ?_, log⟩
      have nonempty : 0 < console.lines.length :=
        List.length_pos_iff.mpr (List.ne_nil_of_mem (List.mem_of_getLast? latest))
      have same : (console.removed state).getLast? = some line := by
        rw [removed, List.getLast?_drop, if_neg (by omega), latest]
      exact List.mem_of_getLast? same

/-- Showing a build state takes lines from the end of the terminal and puts a new block there. It
erases at most the block before it, and no line of the log, just when the state leaves that block
alone, nothing of it is to be erased, or no line of the log was printed below it. -/
theorem shown_spares (capacity : Nat) (actions : List ConsoleAction) {clock : String}
    {next : Display} {state : BuildState} {pieces : List Piece}
    (shows : ((create capacity).run actions).screen.display.showCode? clock =
      some (next, some state, pieces)) :
    let before := (create capacity).run actions
    let after := before.step (.display (.showCode clock))
    ∃ kept removed fresh, before.lines = kept ++ removed ∧ after.lines = kept ++ fresh ∧
      (∀ line ∈ fresh, line.writer = .block before.blocks) ∧
      (before.Spares state → ∀ line ∈ removed, line.writer = .block (before.blocks - 1)) ∧
      (after.logLines = before.logLines ↔ before.Spares state) := by
  intro before after
  have sound : Sound before := sound capacity actions
  obtain ⟨fresh, same, own, -⟩ :=
    before.putAll_render sound.sheet_eq state clock before.blocks
  have shown : printed before.screen.display (.showCode clock) =
      (true, (state.render clock before.block).1) := by
    rw [printed, shows, pieces_of_showCode? shows]
    rfl
  have lines : after.lines =
      before.lines.take (before.lines.length - before.erased state) ++ fresh := by
    simp only [after, step, shown, if_true, Console.lines, same, Sheet.lines, List.append_nil,
      sound.atEnd]
  have cut : before.lines =
      before.lines.take (before.lines.length - before.erased state) ++ before.removed state :=
    (List.take_append_drop ..).symm
  refine ⟨_, _, fresh, cut, lines, own, removed_of_spares sound, ?_⟩
  have unlogged : fresh.filter (fun line => line.writer = .log) = [] := by
    rw [List.filter_eq_nil_iff]
    intro line member
    simp [own line member]
  have erasedLog : after.logLines = before.logLines ↔
      (before.removed state).filter (fun line => line.writer = .log) = [] := by
    have all : before.logLines = (before.lines.take
        (before.lines.length - before.erased state)).filter (fun line => line.writer = .log) ++
        (before.removed state).filter (fun line => line.writer = .log) := by
      rw [← List.filter_append, ← cut, logLines]
    rw [all, logLines, lines, List.filter_append, unlogged, List.append_nil]
    exact List.self_eq_append_right
  rw [erasedLog, List.filter_eq_nil_iff]
  constructor
  · intro none
    by_contra takes
    obtain ⟨line, member, log⟩ := removed_log_of_not_spares takes
    exact none line member (by simpa using log)
  · intro spares line member
    simp [removed_of_spares sound spares line member]

def built (code : ByteArray) : BuildState :=
  .succeeded ⟨code, none⟩ []
    ⟨.ofText "/game", ⟨"Game", "game", "main.js", "std.js", "src", none, none⟩⟩

def builtAgain : List ConsoleAction :=
  [.log (.info "serve" "watching /game (compo build)"), .display (.showCode "09:00:00"),
    .display (.showMusic false), .display (.code (.publish (built ⟨#[1]⟩))),
    .display (.showCode "09:00:01"), .log (.info "watch" "source changed"),
    .display (.code (.publish (built ⟨#[1, 2]⟩)))]

theorem shown_erases_log :
    ¬ ∀ (capacity : Nat) (actions : List ConsoleAction) (clock : String) (next : Display)
      (state : BuildState) (pieces : List Piece),
      ((create capacity).run actions).screen.display.showCode? clock =
        some (next, some state, pieces) →
      (((create capacity).run actions).step (.display (.showCode clock))).logLines =
        ((create capacity).run actions).logLines := by
  intro spared
  have shows : (((create 4).run builtAgain).screen.display.showCode? "09:00:02").any
      (fun (_, shown, _) => shown.isSome) = true := by cbv
  obtain ⟨⟨next, shown, pieces⟩, same, some_state⟩ := Option.any_eq_true _ _ |>.mp shows
  obtain ⟨state, rfl⟩ := Option.isSome_iff_exists.mp some_state
  have kept := congrArg List.length (spared 4 builtAgain "09:00:02" next state pieces same)
  have erased : (((create 4).run builtAgain).step
      (.display (.showCode "09:00:02"))).logLines.length = 1 := by cbv
  have two : ((create 4).run builtAgain).logLines.length = 2 := by cbv
  omega

theorem shown_spares_undisturbed :
    let before := (create 4).run (builtAgain.eraseIdx 5)
    let after := before.step (.display (.showCode "09:00:02"))
    before.block.height = 1 ∧ after.logLines = before.logLines := by
  intro before after
  have shows : (before.screen.display.showCode? "09:00:02").any
      (fun (_, shown, _) => shown.isSome) = true := by cbv
  obtain ⟨⟨next, shown, pieces⟩, same, some_state⟩ := Option.any_eq_true _ _ |>.mp shows
  obtain ⟨state, rfl⟩ := Option.isSome_iff_exists.mp some_state
  obtain ⟨_, _, _, -, -, -, -, spared⟩ := shown_spares 4 (builtAgain.eraseIdx 5) same
  have last : before.endsInLog = false := by cbv
  constructor
  · cbv
  · exact spared.mpr (.inr (.inr last))

end Console

end BuildWatch
