import AirDump.Foundation.Runs
import AirDump.Foundation.ByteStream

namespace AirDump
namespace Connection

open Foundation

/-!
# The stream socket underneath a connection

Python's socket module is not part of this program.  What the program relies
on is stated here as the behaviour of one socket object.

An attempt to connect either succeeds, and connects the socket to the channel
that was tried, or raises and leaves it unconnected.  On a socket that is
connected already, every further attempt raises and leaves it connected to the
same channel.  Which attempts succeed is decided by the far side and by the
operating system, so it is an argument of every result below: an answer may
depend on everything that was tried before, and hence on time.

Once connected, the socket hands out the bytes of the peer in order, in pieces
whose sizes are decided outside.  When it is asked for bytes, it hands out
nothing only when nothing remains and the peer has closed.
-/

/-- One call of `connect` on a socket, with the answer that it was given. -/
structure Attempt where
  address : String
  channel : Int
  accepted : Bool
deriving DecidableEq

/-- The answer to an attempt, given every attempt made earlier on the same
socket, the oldest first.  Any such function is a possible environment. -/
abbrev Answers :=
  List Attempt -> String -> Int -> Bool

/-! ## The purpose of a connection, without any code -/

/-- A link is established by the first attempt that succeeds, and stays with
that channel whatever is attempted afterwards. -/
def sessionStep (session : Option Int) (attempt : Attempt) : Option Int :=
  match session with
  | some channel => some channel
  | none => if attempt.accepted then some attempt.channel else none

/-- The abstract session, moved by the attempts made on a socket. -/
def sessionMachine : Machine (Option Int) Attempt where
  start := none
  step := sessionStep

theorem sessionStep_of_refused (session : Option Int) (attempt : Attempt)
    (refused : attempt.accepted = false) : sessionStep session attempt = session := by
  cases session with
  | some channel => rfl
  | none => simp only [sessionStep, refused, Bool.false_eq_true, if_false]

/-- An established link is never moved to another channel. -/
theorem foldl_sessionStep_some (channel : Int) (made : List Attempt) :
    made.foldl sessionStep (some channel) = some channel := by
  induction made with
  | nil => rfl
  | cons attempt rest inductionHypothesis => exact inductionHypothesis

theorem any_accepted_of_refused {made : List Attempt}
    (refused : forall attempt, attempt ∈ made -> attempt.accepted = false) :
    made.any Attempt.accepted = false :=
  List.any_eq_false.mpr (fun attempt member => Bool.eq_false_iff.mp (refused attempt member))

/-- Attempts that are all refused leave the session as it is. -/
theorem foldl_sessionStep_of_refused (session : Option Int) (made : List Attempt)
    (refused : forall attempt, attempt ∈ made -> attempt.accepted = false) :
    made.foldl sessionStep session = session := by
  induction made with
  | nil => rfl
  | cons attempt rest inductionHypothesis =>
      have parts := List.forall_mem_cons.mp refused
      rw [List.foldl_cons, sessionStep_of_refused session attempt parts.1]
      exact inductionHypothesis parts.2

/-! ## The socket object -/

/-- Every attempt made on the socket so far, the bytes of the peer that were
not handed out yet, and whether the peer has closed. -/
structure Socket where
  attempts : List Attempt
  incoming : List UInt8
  closed : Bool
deriving DecidableEq

namespace Socket

/-- A socket as the constructor of the socket module returns it. -/
def fresh : Socket :=
  ⟨[], [], false⟩

def isConnected (socket : Socket) : Bool :=
  socket.attempts.any Attempt.accepted

/-- The channel that the socket is really connected to. -/
def peer (socket : Socket) : Option Int :=
  socket.attempts.foldl sessionStep none

/-- Whether an attempt made now would succeed. -/
def accepts (socket : Socket) (answers : Answers) (address : String) (channel : Int) : Bool :=
  !socket.isConnected && answers socket.attempts address channel

/-- The socket after some more attempts. -/
def tried (socket : Socket) (made : List Attempt) : Socket :=
  { socket with attempts := socket.attempts ++ made }

/-- `connect((address, channel))`: whether it returned, and the socket after. -/
def connect (socket : Socket) (answers : Answers) (address : String) (channel : Int) :
    Bool × Socket :=
  let accepted := socket.accepts answers address channel
  (accepted, socket.tried [⟨address, channel, accepted⟩])

/-- What a call of `recv` that asks for bytes does: it raises on an unconnected
socket, it waits while nothing is there and the peer has not closed, or it
returns bytes. -/
inductive Received where
  | notConnected
  | blocked
  | bytes (data : List UInt8)
deriving DecidableEq

/-- `recv(bufsize)`, when this many bytes can be handed out at once.  A call
that asks for nothing returns at once, on an unconnected socket as well. -/
def recv (socket : Socket) (granted bufsize : Nat) : Received × Socket :=
  if bufsize = 0 then
    (.bytes [], socket)
  else if socket.isConnected then
    if socket.incoming.isEmpty && !socket.closed then
      (.blocked, socket)
    else
      let data := ByteStream.chunk bufsize granted socket.incoming
      (.bytes data, { socket with incoming := socket.incoming.drop data.length })
  else
    (.notConnected, socket)

@[simp] theorem tried_nil (socket : Socket) : socket.tried [] = socket := by
  cases socket
  simp only [tried, List.append_nil]

theorem tried_tried (socket : Socket) (first second : List Attempt) :
    (socket.tried first).tried second = socket.tried (first ++ second) := by
  simp only [tried, List.append_assoc]

@[simp] theorem attempts_tried (socket : Socket) (made : List Attempt) :
    (socket.tried made).attempts = socket.attempts ++ made :=
  rfl

@[simp] theorem isConnected_tried (socket : Socket) (made : List Attempt) :
    (socket.tried made).isConnected = (socket.isConnected || made.any Attempt.accepted) := by
  simp only [isConnected, attempts_tried, List.any_append]

theorem peer_tried (socket : Socket) (made : List Attempt) :
    (socket.tried made).peer = made.foldl sessionStep socket.peer := by
  simp only [peer, attempts_tried, List.foldl_append]

theorem isConnected_eq_true_iff (socket : Socket) :
    socket.isConnected = true ↔
      Exists fun attempt : Attempt => attempt ∈ socket.attempts ∧ attempt.accepted = true := by
  rw [isConnected, List.any_eq_true]

/-- On a connected socket every attempt is refused. -/
theorem accepts_of_connected {socket : Socket} (connected : socket.isConnected = true)
    (answers : Answers) (address : String) (channel : Int) :
    socket.accepts answers address channel = false := by
  rw [accepts, connected, Bool.not_true, Bool.false_and]

/-- An unconnected socket passes on the answer of the environment. -/
theorem accepts_of_unconnected {socket : Socket} (unconnected : socket.isConnected = false)
    (answers : Answers) (address : String) (channel : Int) :
    socket.accepts answers address channel = answers socket.attempts address channel := by
  rw [accepts, unconnected, Bool.not_false, Bool.true_and]

end Socket

end Connection
end AirDump
