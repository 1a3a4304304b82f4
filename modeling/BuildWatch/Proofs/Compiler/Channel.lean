import BuildWatch.Compiler.Daemon
import BuildWatch.Proofs.Compiler.Packet
import BuildWatch.Proofs.Run

/-!
The channel to the compiler's program over any number of calls. What the program does is data: what
it has sent when it is asked, how its stream ends after that, how the streams cut their bytes into
pieces, and how much it takes before it breaks. Either a round trip moves one whole frame each way,
or it is the last one.
-/

namespace BuildWatch

/-- What the program at the other end does. -/
structure Peer where
  sends : ByteArray
  ending : Ending
  sourcePace : Nat → Nat
  sinkPace : Nat → Nat
  room : Option Nat

def Peer.act (peer : Peer) (connection : Connection) : Connection where
  source := { connection.source.feed peer.sends with
    pace := peer.sourcePace, ending := peer.ending }
  sink := { connection.sink with pace := peer.sinkPace, room := peer.room }

def Peer.connection (peer : Peer) : Connection :=
  peer.act ⟨.ofBytes ByteArray.empty, .empty⟩

theorem Source.rest_feed (source : Source) (bytes : ByteArray) :
    (source.feed bytes).rest = source.rest ++ octets bytes := by
  have all : ((octets source.bytes).drop source.position).take
      (source.bytes.size - source.position) = (octets source.bytes).drop source.position := by
    rw [← length_octets, ← List.length_drop, List.take_length]
  rw [rest, feed, octets_append, octets_extract, all, List.drop_zero, rest]

theorem Peer.rest_act (peer : Peer) (connection : Connection) :
    (peer.act connection).source.rest = connection.source.rest ++ octets peer.sends :=
  connection.source.rest_feed peer.sends

/-- What one round trip on a connection comes to, and the connection after it. The request is too
large, or the program breaks off as it is sent, or what the program sends is not an answer; or one
frame has gone each way. -/
inductive Trip (connection : Connection) (peer : Peer) (request : Request) :
    Except WireError Response → Connection → Prop
  | oversized : Frame.longest < request.encode.size →
      Trip connection peer request (.error (.tooLarge request.encode.size)) connection
  | unsent {part unsent after} : request.encode.size ≤ Frame.longest →
      Frame.around request.encode = part ++ unsent → unsent ≠ [] →
      octets after.sink.bytes = octets connection.sink.bytes ++ part →
      after.source = connection.source →
      Trip connection peer request (.error (.channel .brokenPipe)) after
  | unanswered {error after} : request.encode.size ≤ Frame.longest →
      octets after.sink.bytes = octets connection.sink.bytes ++ Frame.around request.encode →
      ((Frame.parse peer.ending (connection.source.rest ++ octets peer.sends)).1.bind
        fun payload => (Response.decode payload).mapError .decode) = .error error →
      Trip connection peer request (.error error) after
  | answered {payload response after} : request.encode.size ≤ Frame.longest →
      octets after.sink.bytes = octets connection.sink.bytes ++ Frame.around request.encode →
      connection.source.rest ++ octets peer.sends = Frame.around payload ++ after.source.rest →
      payload.size ≤ Frame.longest → Response.decode payload = .ok response →
      Trip connection peer request (.ok response) after

namespace FrameBuffer

theorem frame_tooLarge (buffer : FrameBuffer) {request : Request}
    (large : Frame.longest < request.encode.size) :
    buffer.frame request = (.error (.tooLarge request.encode.size), buffer) := by
  have size : Message.size request = request.encode.size := request.size_encode.symm
  rw [frame, size, if_pos large]

theorem frame_request (buffer : FrameBuffer) {request : Request}
    (fits : request.encode.size ≤ Frame.longest) :
    (buffer.frame request).1 = .ok (Frame.header request.encode.size ++ request.encode) := by
  have size : Message.size request = request.encode.size := request.size_encode.symm
  exact size ▸ buffer.frame_eq request.size_encode (size ▸ fits)

end FrameBuffer

theorem Trip.of_sent {connection asked : Connection} {peer : Peer} {request : Request}
    {frames : FrameBuffer} {outcome : Except WireError Response × FrameBuffer × Source}
    (received : frames.read (peer.act asked).source = outcome)
    (fits : request.encode.size ≤ Frame.longest) (source : asked.source = connection.source)
    (written : octets asked.sink.bytes =
      octets connection.sink.bytes ++ Frame.around request.encode) :
    Trip connection peer request outcome.1 { peer.act asked with source := outcome.2.2 } := by
  obtain ⟨agrees, -, -⟩ := frames.readFrame_eq (peer.act asked).source
  rw [peer.rest_act, source, show (peer.act asked).source.ending = peer.ending from rfl] at agrees
  rw [FrameBuffer.read_eq] at received
  subst received
  generalize frames.readFrame (peer.act asked).source = got at agrees ⊢
  obtain ⟨result, buffer, after⟩ := got
  change Trip connection peer request
    (result.bind fun payload => (Response.decode payload).mapError .decode)
    ⟨after, (peer.act asked).sink⟩
  cases answer : result.bind fun payload =>
      (Response.decode payload).mapError WireError.decode with
  | error error =>
      refine .unanswered fits written ?_
      rw [← agrees]
      exact answer
  | ok response =>
      cases result with
      | error => simp [Except.bind] at answer
      | ok payload =>
          obtain ⟨frame, small⟩ := Frame.around_of_parse agrees.symm
          refine .answered fits written frame small ?_
          change (Response.decode payload).mapError WireError.decode = .ok response at answer
          cases decoded : Response.decode payload with
          | error => simp [decoded, Except.mapError] at answer
          | ok other => simpa [decoded, Except.mapError] using answer

theorem Daemon.roundTrip_trip (frames : FrameBuffer) (connection : Connection) (peer : Peer)
    (request : Request) :
    Trip connection peer request (Daemon.roundTrip frames connection peer.act request).1
      (Daemon.roundTrip frames connection peer.act request).2.2 := by
  by_cases large : Frame.longest < request.encode.size
  · rw [roundTrip, FrameBuffer.write, frames.frame_tooLarge large]
    exact .oversized large
  · have fits := Nat.le_of_not_lt large
    have framed := frames.frame_request fits
    obtain ⟨part, written, outcome⟩ := connection.sink.write_cases
      (Frame.header request.encode.size ++ request.encode) 0
    rw [roundTrip, FrameBuffer.write]
    generalize frames.frame request = made at framed ⊢
    obtain ⟨result, buffer⟩ := made
    obtain rfl : result = _ := framed
    simp only
    generalize connection.sink.write _ 0 = sent at written outcome ⊢
    obtain ⟨result, sink⟩ := sent
    rcases outcome with ⟨rfl, rfl⟩ | ⟨rfl, unsent, some_left, whole⟩
    · exact .of_sent rfl fits rfl written
    · exact .unsent fits whole some_left written rfl

inductive DaemonCall where
  | compile (request : Request) (launch : Except StartFault Peer) (peer : Peer)
  | close

def startBy (launch : Except StartFault Peer) (_ : Command) : Except StartFault Connection :=
  launch.map Peer.connection

namespace Daemon

def call (daemon : Daemon) : DaemonCall → Daemon × Option (Except CompileError Response)
  | .compile request launch peer =>
    let (answer, next, _) := daemon.compile (startBy launch) peer.act request
    (next, some answer)
  | .close => (daemon.close, none)

def process : Process Daemon DaemonCall (Option (Except CompileError Response)) :=
  ⟨fun daemon => (daemon, none), fun daemon call => some (daemon.call call)⟩

def opened? (daemon : Daemon) : DaemonCall → Option Connection
  | .compile _ launch _ =>
    if daemon.isClosed then none
    else match daemon.connection with
    | some _ => none
    | none => (daemon.connect (startBy launch)).toOption
  | .close => none

/-- What a call does: it finds the channel closed, cannot start the program, moves one frame each
way, ends with a round trip that fails, or closes the channel. -/
inductive Deal (daemon : Daemon) :
    DaemonCall → Daemon → Option (Except CompileError Response) → Prop
  | closed {request launch peer} : daemon.isClosed = true →
      Deal daemon (.compile request launch peer) daemon (some (.error .closed))
  | refused {request launch peer fault} : daemon.isClosed = false →
      daemon.connect (startBy launch) = .error fault →
      Deal daemon (.compile request launch peer) daemon
        (some (.error (.start daemon.program fault)))
  | answered {request launch peer connection frames response after} : daemon.isClosed = false →
      daemon.connect (startBy launch) = .ok connection →
      Trip connection peer request (.ok response) after →
      Deal daemon (.compile request launch peer) { daemon with frames, connection := some after }
        (some (.ok response))
  | failed {request launch peer connection frames error after} : daemon.isClosed = false →
      daemon.connect (startBy launch) = .ok connection →
      Trip connection peer request (.error error) after →
      Deal daemon (.compile request launch peer) { daemon with frames }.close
        (some (.error (.transport error)))
  | ended : Deal daemon .close daemon.close none

variable {daemon : Daemon}

theorem deal_call (daemon : Daemon) (call : DaemonCall) :
    Deal daemon call (daemon.call call).1 (daemon.call call).2 := by
  cases call with
  | close => exact .ended
  | compile request launch peer =>
      by_cases closed : daemon.isClosed = true
      · simp only [Daemon.call, compile, if_pos closed]
        exact .closed closed
      · have running := Bool.eq_false_iff.mpr closed
        simp only [Daemon.call, compile, if_neg closed]
        cases connected : daemon.connect (startBy launch) with
        | error fault => exact .refused running connected
        | ok connection =>
            have trip := roundTrip_trip daemon.frames connection peer request
            simp only
            generalize roundTrip daemon.frames connection peer.act request = made at trip ⊢
            obtain ⟨result, frames, after⟩ := made
            cases result with
            | ok response => exact .answered running connected trip
            | error error => exact .failed running connected trip

theorem connect_cases {launch : Except StartFault Peer} {connection : Connection}
    (running : daemon.isClosed = false)
    (connected : daemon.connect (startBy launch) = .ok connection) (request : Request)
    (peer : Peer) :
    (daemon.connection = some connection ∧ daemon.opened? (.compile request launch peer) = none) ∨
      (daemon.connection = none ∧
        daemon.opened? (.compile request launch peer) = some connection ∧
        connection.sink.bytes = ByteArray.empty) := by
  cases held : daemon.connection with
  | some other =>
      simp only [connect, held, Except.ok.injEq] at connected
      exact .inl ⟨congrArg some connected, by simp [opened?, running, held]⟩
  | none =>
      refine .inr ⟨rfl, by simp [opened?, running, held, connected, Except.toOption], ?_⟩
      simp only [connect, held] at connected
      cases words : daemon.command with
      | error fault => simp [words, Except.bind] at connected
      | ok command =>
          cases launch with
          | error fault => simp [words, Except.bind, startBy, Except.map] at connected
          | ok first =>
              simp only [words, Except.bind, startBy, Except.map, Except.ok.injEq] at connected
              rw [← connected]
              rfl

end Daemon

abbrev DaemonMove := Move Daemon DaemonCall (Option (Except CompileError Response))

/-- A request that was answered, and what the program did for it. -/
structure Exchange where
  request : Request
  peer : Peer
  response : Response

namespace DaemonMove

def opened? (move : DaemonMove) : Option Connection := move.action.bind move.before.opened?

def tears (move : DaemonMove) : Bool :=
  (move.before.connection.or move.opened?).isSome && move.after.connection.isNone

def exchange? (move : DaemonMove) : Option Exchange :=
  match move.action, move.output with
  | some (.compile request _ peer), some (.ok response) => some ⟨request, peer, response⟩
  | _, _ => none

def ends (move : DaemonMove) : Bool :=
  match move.action, move.output with
  | some .close, _ | _, some (.error (.transport _)) => true
  | _, _ => false

/-- Does a call that finds the channel closed start, write and read nothing? -/
structure IsDead (move : DaemonMove) (daemon : Daemon) : Prop where
  before : move.before = daemon
  after : move.after = daemon
  opened : move.opened? = none
  answer : ∀ request launch peer, move.action = some (.compile request launch peer) →
    move.output = some (.error .closed)

end DaemonMove

/-- What has gone over a connection since it was made: the frames of the requests one way, and the
other way one frame after another of which each is an answer, then what has not been read. -/
structure Linked (origin : Connection) (exchanges : List Exchange) (connection : Connection) :
    Prop where
  written : octets connection.sink.bytes =
    exchanges.flatMap fun exchange => Frame.around exchange.request.encode
  received : ∃ payloads : List ByteArray,
    (origin.source.rest ++ exchanges.flatMap fun exchange => octets exchange.peer.sends) =
      payloads.flatMap Frame.around ++ connection.source.rest ∧
    payloads.map Response.decode = exchanges.map fun exchange => .ok exchange.response

namespace Linked

variable {origin connection after : Connection} {exchanges : List Exchange} {peer : Peer}
  {request : Request} {response : Response}

theorem begin (fresh : origin.sink.bytes = ByteArray.empty) : Linked origin [] origin :=
  ⟨by rw [fresh]; rfl, [], by simp, rfl⟩

theorem next (linked : Linked origin exchanges connection)
    (trip : Trip connection peer request (.ok response) after) :
    Linked origin (exchanges ++ [⟨request, peer, response⟩]) after := by
  obtain ⟨written, payloads, received, decoded⟩ := linked
  cases trip with
  | @answered payload _ _ _ sent got _ answer =>
      refine ⟨?_, payloads ++ [payload], ?_, ?_⟩
      · rw [sent, written]
        simp
      · rw [List.flatMap_append, ← List.append_assoc, received]
        simpa using got
      · simp [decoded, answer]

end Linked

def openedIn (moves : List DaemonMove) : List Connection := moves.filterMap DaemonMove.opened?

def exchangesIn (moves : List DaemonMove) : List Exchange := moves.filterMap DaemonMove.exchange?

def tornIn (moves : List DaemonMove) : Nat := moves.countP DaemonMove.tears

theorem openedIn_append_singleton (moves : List DaemonMove) (move : DaemonMove) :
    openedIn (moves ++ [move]) = openedIn moves ++ move.opened?.toList := by
  rw [openedIn, List.filterMap_append]
  cases opened : move.opened? <;> simp [openedIn, opened]

theorem exchangesIn_append_singleton (moves : List DaemonMove) (move : DaemonMove) :
    exchangesIn (moves ++ [move]) = exchangesIn moves ++ move.exchange?.toList := by
  rw [exchangesIn, List.filterMap_append]
  cases exchange : move.exchange? <;> simp [exchangesIn, exchange]

theorem tornIn_append_singleton (moves : List DaemonMove) (move : DaemonMove) :
    tornIn (moves ++ [move]) = tornIn moves + move.tears.toNat := by
  cases tears : move.tears <;> simp [tornIn, List.countP_append, tears]

inductive Accounts (moves : List DaemonMove) (daemon : Daemon) : Prop
  | idle : daemon.isClosed = false → daemon.connection = none → openedIn moves = [] →
      exchangesIn moves = [] → tornIn moves = 0 → Accounts moves daemon
  | linked {origin connection} : daemon.isClosed = false → daemon.connection = some connection →
      openedIn moves = [origin] → Linked origin (exchangesIn moves) connection →
      tornIn moves = 0 → Accounts moves daemon
  | closed : daemon.isClosed = true → daemon.connection = none → (openedIn moves).length ≤ 1 →
      tornIn moves = (openedIn moves).length → Accounts moves daemon

namespace Accounts

variable {moves : List DaemonMove} {move : DaemonMove} {daemon next : Daemon} {call : DaemonCall}
  {answer : Option (Except CompileError Response)}

theorem kept (accounts : Accounts moves daemon) (opened : move.opened? = none)
    (exchange : move.exchange? = none) (tears : move.tears = false) :
    Accounts (moves ++ [move]) daemon := by
  have same : openedIn (moves ++ [move]) = openedIn moves ∧
      exchangesIn (moves ++ [move]) = exchangesIn moves ∧
      tornIn (moves ++ [move]) = tornIn moves := by
    rw [openedIn_append_singleton, exchangesIn_append_singleton, tornIn_append_singleton, opened,
      exchange, tears]
    simp
  obtain ⟨openings, exchanges, torn⟩ := same
  cases accounts with
  | idle running absent nothing none_answered untorn =>
      exact .idle running absent (openings.trans nothing) (exchanges.trans none_answered)
        (torn.trans untorn)
  | linked running held once linked untorn =>
      exact .linked running held (openings.trans once) (exchanges ▸ linked) (torn.trans untorn)
  | closed shut gone once all =>
      exact .closed shut gone (openings ▸ once) (torn.trans (all.trans (openings ▸ rfl)))

theorem begin (words : List String) (directory : Path) :
    Accounts [Daemon.process.opening (.create words directory)] (.create words directory) :=
  .idle rfl rfl rfl rfl rfl

theorem answered {request : Request} {launch : Except StartFault Peer} {peer : Peer}
    {connection after : Connection} {response : Response} (accounts : Accounts moves daemon)
    (running : daemon.isClosed = false)
    (connected : daemon.connect (startBy launch) = .ok connection)
    (trip : Trip connection peer request (.ok response) after)
    (still : next.isClosed = false) (holds : next.connection = some after) :
    Accounts (moves ++ [⟨daemon, some (.compile request launch peer), some (.ok response), next⟩])
      next := by
  have untouched : DaemonMove.tears
      ⟨daemon, some (.compile request launch peer), some (.ok response), next⟩ = false := by
    simp [DaemonMove.tears, holds]
  rcases Daemon.connect_cases running connected request peer with
    ⟨held, nothing⟩ | ⟨absent, opened, fresh⟩
  · cases accounts with
    | idle _ absent => simp [absent] at held
    | closed shut => simp [running] at shut
    | @linked origin _ _ here once linked untorn =>
        obtain rfl := Option.some.inj (here.symm.trans held)
        have goes_on := linked.next trip
        refine @Accounts.linked _ _ origin after still holds ?_ ?_ ?_
        · rw [openedIn_append_singleton, once, DaemonMove.opened?, Option.bind_some, nothing]
          rfl
        · rw [exchangesIn_append_singleton]
          exact goes_on
        · rw [tornIn_append_singleton, untorn, untouched]
          rfl
  · cases accounts with
    | linked _ here => simp [absent] at here
    | closed shut => simp [running] at shut
    | idle _ _ none_opened none_answered untorn =>
        have first := (Linked.begin fresh).next trip
        refine @Accounts.linked _ _ connection after still holds ?_ ?_ ?_
        · rw [openedIn_append_singleton, none_opened, DaemonMove.opened?, Option.bind_some, opened]
          rfl
        · rw [exchangesIn_append_singleton, none_answered]
          exact first
        · rw [tornIn_append_singleton, untorn, untouched]
          rfl

theorem shut (accounts : Accounts moves daemon) (running : daemon.isClosed = false)
    (before : move.before = daemon) (closed : next.isClosed = true) (after : move.after = next)
    (gone : next.connection = none)
    (opened : daemon.connection.isSome = true → move.opened? = none) :
    Accounts (moves ++ [move]) next := by
  have torn : move.tears = (daemon.connection.or move.opened?).isSome := by
    simp [DaemonMove.tears, before, after, gone]
  cases accounts with
  | closed shut => simp [running] at shut
  | idle _ absent none_opened _ untorn =>
      refine .closed closed gone ?_ ?_
      · rw [openedIn_append_singleton, none_opened]
        cases move.opened? <;> simp
      · rw [openedIn_append_singleton, tornIn_append_singleton, none_opened, untorn, torn, absent]
        cases move.opened? <;> rfl
  | linked _ held once _ untorn =>
      have nothing := opened (by simp [held])
      refine .closed closed gone ?_ ?_
      · rw [openedIn_append_singleton, once, nothing]
        simp
      · rw [openedIn_append_singleton, tornIn_append_singleton, once, untorn, torn, nothing, held]
        rfl

theorem step (accounts : Accounts moves daemon) (deal : Daemon.Deal daemon call next answer) :
    Accounts (moves ++ [⟨daemon, some call, answer, next⟩]) next := by
  cases deal with
  | closed shut =>
      cases accounts with
      | idle running | linked running => simp [shut] at running
      | closed _ gone once all =>
          refine kept (.closed shut gone once all) ?_ rfl ?_
          · simp [DaemonMove.opened?, Daemon.opened?, shut]
          · simp [DaemonMove.tears, DaemonMove.opened?, Daemon.opened?, shut, gone]
  | refused running failed =>
      have absent : daemon.connection = none := by
        by_contra held
        obtain ⟨connection, held⟩ := Option.ne_none_iff_exists'.mp held
        simp [Daemon.connect, held] at failed
      refine accounts.kept ?_ rfl ?_
      · simp [DaemonMove.opened?, Daemon.opened?, running, absent, failed, Except.toOption]
      · simp [DaemonMove.tears, DaemonMove.opened?, Daemon.opened?, running, absent, failed,
          Except.toOption]
  | answered running connected trip => exact accounts.answered running connected trip running rfl
  | @failed request launch peer _ _ _ _ running connected trip =>
      refine accounts.shut running rfl rfl rfl rfl fun held => ?_
      rcases Daemon.connect_cases running connected request peer with
        ⟨-, nothing⟩ | ⟨absent, -⟩
      · exact nothing
      · simp [absent] at held
  | ended =>
      by_cases running : daemon.isClosed = false
      · exact accounts.shut running rfl rfl rfl rfl fun _ => rfl
      · cases accounts with
        | idle still | linked still => exact absurd still running
        | closed shut gone once all =>
            have same : daemon.close = daemon := by
              rw [Daemon.close, ← gone, ← shut]
            rw [same]
            refine kept (.closed shut gone once all) rfl rfl ?_
            simp [DaemonMove.tears, DaemonMove.opened?, Daemon.opened?, gone]

end Accounts

namespace Daemon

variable {words : List String} {directory : Path} {moves earlier later : List DaemonMove}
  {move : DaemonMove} {daemon next : Daemon} {call : DaemonCall}
  {answer : Option (Except CompileError Response)}

theorem deal_of_step? {next : Daemon × Option (Except CompileError Response)}
    (possible : Daemon.process.step? daemon call = some next) :
    Deal daemon call next.1 next.2 := by
  obtain rfl : daemon.call call = next := Option.some.inj possible
  exact daemon.deal_call call

theorem Deal.isClosed (deal : Deal daemon call next answer) :
    next.isClosed = (daemon.isClosed || DaemonMove.ends ⟨daemon, some call, answer, next⟩) := by
  cases deal with
  | closed shut => simp [shut]
  | refused running => simp [running, DaemonMove.ends]
  | answered running => simp [running, DaemonMove.ends]
  | failed | ended => simp [close, DaemonMove.ends]

theorem Deal.gone (deal : Deal daemon call next answer)
    (ends : DaemonMove.ends ⟨daemon, some call, answer, next⟩ = true) :
    next.isClosed = true ∧ next.connection = none := by
  cases deal with
  | closed | refused | answered => simp [DaemonMove.ends] at ends
  | failed | ended => exact ⟨rfl, rfl⟩

theorem Deal.dead (deal : Deal daemon call next answer) (shut : daemon.isClosed = true)
    (gone : daemon.connection = none) :
    next = daemon ∧ daemon.opened? call = none ∧
      ∀ request launch peer, call = .compile request launch peer →
        answer = some (.error .closed) := by
  cases deal with
  | closed => exact ⟨rfl, by simp [opened?, shut], fun _ _ _ _ => rfl⟩
  | refused running | answered running | failed running => simp [shut] at running
  | ended => exact ⟨by rw [close, ← gone, ← shut], rfl, nofun⟩

theorem accounts (run : Daemon.process.Run (.create words directory) moves daemon) :
    Accounts moves daemon := by
  induction run with
  | begin => exact .begin words directory
  | @step moves daemon call next run possible ih =>
      exact ih.step (deal_of_step? possible)

theorem isClosed_eq (run : Daemon.process.Run (.create words directory) moves daemon) :
    daemon.isClosed = moves.any DaemonMove.ends := by
  induction run with
  | begin => rfl
  | @step moves daemon call next run possible ih =>
      rw [List.any_append, ← ih, (deal_of_step? possible).isClosed]
      simp

theorem deal_of_run (run : Daemon.process.Run (.create words directory) moves daemon)
    (member : move ∈ moves) (acted : move.action = some call) :
    Deal move.before call move.after move.output := by
  obtain ⟨earlier, later, rfl⟩ := List.append_of_mem member
  obtain ⟨before, next, -, possible, rfl⟩ := run.taken acted
  exact deal_of_step? possible

theorem action_of_ends (ends : move.ends = true) (run : Daemon.process.Run (.create words directory)
    (earlier ++ move :: later) daemon) : ∃ call, move.action = some call := by
  rcases run.move_cases with ⟨-, rfl⟩ | ⟨before, call, next, -, -, rfl⟩
  · simp [Process.opening, Daemon.process, DaemonMove.ends] at ends
  · exact ⟨call, rfl⟩

theorem silent
    (run : Daemon.process.Run (.create words directory) (earlier ++ move :: later) daemon)
    (ends : move.ends = true) :
    daemon = move.after ∧ daemon.isClosed = true ∧ daemon.connection = none ∧
      ∀ late ∈ later, late.IsDead daemon := by
  obtain ⟨call, acted⟩ := action_of_ends ends run
  refine run.since (fun (between : List DaemonMove) state => state = move.after ∧
    state.isClosed = true ∧ state.connection = none ∧ ∀ late ∈ between, late.IsDead state)
    acted ?_ ?_
  · rintro reached next past possible rfl
    obtain ⟨shut, gone⟩ := (deal_of_step? possible).gone ends
    exact ⟨rfl, shut, gone, by simp⟩
  · rintro between reached call next past ⟨same, shut, gone, quiet⟩ possible
    obtain ⟨still, nothing, refused⟩ := (deal_of_step? possible).dead shut gone
    rw [still]
    refine ⟨same, shut, gone, ?_⟩
    intro late member
    rcases List.mem_append.mp member with among | last
    · exact quiet late among
    · rw [List.mem_singleton.mp last]
      refine ⟨rfl, rfl, nothing, ?_⟩
      intro request launch peer acted
      exact refused request launch peer (Option.some.inj acted)

/-- Whatever calls are made one after another, and whatever the program does and starting it comes
to: at most one connection is ever made. While the channel is open, each request that was answered
has gone out as one frame, in order, and the answers are those of the frames that the program has
sent, in order and from the first on. The first close, or the first round trip that fails, ends the
channel: the connection is given up, which happens once, and after that calls start, write and read
nothing. -/
theorem channel_discipline
    (run : Daemon.process.Run (.create words directory) moves daemon) :
    (∀ move ∈ moves, ∀ call, move.action = some call →
      Deal move.before call move.after move.output) ∧
    (openedIn moves).length ≤ 1 ∧
    tornIn moves = (if moves.any DaemonMove.ends then (openedIn moves).length else 0) ∧
    (moves.any DaemonMove.ends = false →
      daemon.connection = none ∧ openedIn moves = [] ∧ exchangesIn moves = [] ∨
      ∃ origin connection, openedIn moves = [origin] ∧ daemon.connection = some connection ∧
        Linked origin (exchangesIn moves) connection) ∧
    ∀ earlier move later, moves = earlier ++ move :: later → move.ends = true →
      daemon = move.after ∧ daemon.isClosed = true ∧ daemon.connection = none ∧
        ∀ late ∈ later, late.IsDead daemon := by
  rw [← isClosed_eq run]
  refine ⟨fun move member call => deal_of_run run member, ?_⟩
  suffices (openedIn moves).length ≤ 1 ∧
      tornIn moves = (if daemon.isClosed then (openedIn moves).length else 0) ∧
      (daemon.isClosed = false →
        daemon.connection = none ∧ openedIn moves = [] ∧ exchangesIn moves = [] ∨
        ∃ origin connection, openedIn moves = [origin] ∧ daemon.connection = some connection ∧
          Linked origin (exchangesIn moves) connection) by
    obtain ⟨once, torn, linked⟩ := this
    refine ⟨once, torn, linked, ?_⟩
    rintro earlier move later rfl ends
    exact silent run ends
  cases accounts run with
  | idle running absent nothing none_answered untorn =>
      exact ⟨by simp [nothing], by simp [running, untorn],
        fun _ => .inl ⟨absent, nothing, none_answered⟩⟩
  | @linked origin connection running held once linked untorn =>
      exact ⟨by simp [once], by simp [running, untorn],
        fun _ => .inr ⟨origin, connection, once, held, linked⟩⟩
  | closed shut gone once all =>
      exact ⟨once, by simp [shut, all], fun running => by simp [shut] at running⟩

def sampleSending (bytes : List UInt8) : Peer :=
  ⟨bytes.toByteArray, .closed, fun _ => 1, fun _ => 3, none⟩

def sampleCall (launch : Except StartFault Peer) (bytes : List UInt8) : DaemonCall :=
  .compile ⟨[], [], "a", "", []⟩ launch (sampleSending bytes)

/-- The program cannot be started at first. The answers to the first two requests arrive in other
pieces than they were asked for, with the beginning of a third, and there it ends. -/
def tornChannel : List DaemonMove × Daemon :=
  Daemon.process.attempt (.create ["compile"] ⟨[Path.slash]⟩)
    [sampleCall (.error .nulByte) [],
      sampleCall (.ok (sampleSending [])) [0, 0, 0, 3, 10, 1, 1, 0, 0],
      sampleCall (.error .nulByte) [0, 3, 10, 1, 2, 0, 0, 0, 1], sampleCall (.error .nulByte) [],
      sampleCall (.ok (sampleSending [])) [0, 0, 0, 3, 10, 1, 1], .close]

theorem channel_discipline_torn : ∃ ending between,
    let moves := tornChannel.1
    (Daemon.process.Run (.create ["compile"] ⟨[Path.slash]⟩) moves tornChannel.2 ∧
      Daemon.process.Run (.create ["compile"] ⟨[Path.slash]⟩) (moves.take 4) between ∧
      (moves.take 4).any DaemonMove.ends = false ∧ (exchangesIn (moves.take 4)).length = 2 ∧
      moves = moves.take 4 ++ ending :: moves.drop 5 ∧ ending.ends = true) ∧
      (∃ origin connection, openedIn (moves.take 4) = [origin] ∧
        between.connection = some connection ∧
        Linked origin (exchangesIn (moves.take 4)) connection) ∧
      tornIn moves = 1 ∧ tornChannel.2.connection = none ∧
      ∀ late ∈ moves.drop 5, late.IsDead tornChannel.2 := by
  have run : Daemon.process.Run (.create ["compile"] ⟨[Path.slash]⟩) tornChannel.1 tornChannel.2 :=
    .attempt Daemon.process _ _
  obtain ⟨ending, found, ends⟩ := Option.map_eq_some_iff.mp
    (show tornChannel.1[4]?.map DaemonMove.ends = some true by cbv)
  have whole := (take_cons_drop found).symm
  have trips : (exchangesIn (tornChannel.1.take 4)).length = 2 := by cbv
  have begun : tornChannel.1.take 4 ≠ [] := by
    intro none
    rw [none] at trips
    simp [exchangesIn] at trips
  obtain ⟨between, past⟩ := (whole ▸ run).earlierRun begun
  have still : (tornChannel.1.take 4).any DaemonMove.ends = false := by cbv
  have ended : tornChannel.1.any DaemonMove.ends = true := by cbv
  have made : (openedIn tornChannel.1).length = 1 := by cbv
  obtain ⟨-, -, torn, -, silent⟩ := channel_discipline run
  obtain ⟨-, -, -, linked, -⟩ := channel_discipline past
  obtain ⟨-, -, gone, dead⟩ := silent _ ending _ whole ends
  rw [ended, if_pos rfl, made] at torn
  refine ⟨ending, between, ⟨run, past, still, trips, whole, ends⟩, ?_, torn, gone, dead⟩
  rcases linked still with ⟨-, -, nothing⟩ | linked
  · rw [nothing] at trips
    simp at trips
  · exact linked

end Daemon

end BuildWatch
