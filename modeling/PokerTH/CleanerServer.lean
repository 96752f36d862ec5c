import PokerTH.ReceiveBuffer
import PokerTH.Runs

namespace PokerTH.CleanerServer

open ReceiveBuffer (ntohl)

def CLEANER_NET_HEADER_SIZE : Nat := 4

def MAX_CLEANER_PACKET_SIZE : Nat := 512

def CLEANER_PROTOCOL_VERSION : Nat := 2

def recvBufSize : Nat := 2 * MAX_CLEANER_PACKET_SIZE

structure CleanerChatRequestMessage where
  requestId : Nat
  gameId : Nat
  playerId : Nat
  playerName : String
  chatMessage : String
  deriving DecidableEq, Repr

inductive ChatCleanerMessage
  | cleanerInit (requestedVersion : Nat) (clientSecret : List UInt8)
  | cleanerChatRequest (req : CleanerChatRequestMessage)
  | other
  deriving DecidableEq, Repr

structure Config where
  clientSecret : List UInt8
  parse : List UInt8 → Option ChatCleanerMessage

/-- A connection: the bytes read from it, the messages handled for it, and the chat requests that were checked,
each with the messages handled before it. -/
structure Connection where
  bytes : List UInt8 := []
  handled : List ChatCleanerMessage := []
  checked : List (List ChatCleanerMessage × CleanerChatRequestMessage) := []
  deriving DecidableEq, Repr

structure Server where
  tcpSocket : Option Connection := none
  accepting : Bool := true
  blockConnection : Bool := false
  authenticated : Bool := false
  recvBuf : List UInt8 := []
  ended : List Connection := []
  deriving DecidableEq, Repr

/-- All bytes are compared, whether they differ or not. -/
def secretMatch (expected received : List UInt8) : Bool :=
  let maxLen := max expected.length received.length
  let result := (List.range maxLen).foldl (fun result i => result ||| (expected.getD i 0 ^^^ received.getD i 0)) 0
  (result == 0) && (expected.length == received.length)

variable (C : Config)

def validInit : ChatCleanerMessage → Bool
  | .cleanerInit version secret => version == CLEANER_PROTOCOL_VERSION && secretMatch C.clientSecret secret
  | _ => false

/-- The error flag of `handleMessage`, for a connection that is authenticated or not. -/
def refuses (authenticated : Bool) : ChatCleanerMessage → Bool
  | .cleanerInit version secret => !validInit C (.cleanerInit version secret)
  | .cleanerChatRequest _ => !authenticated
  | .other => false

def Connection.handle (authenticated : Bool) (msg : ChatCleanerMessage) (c : Connection) : Connection :=
  match msg with
  | .cleanerChatRequest req =>
      { c with
        handled := c.handled ++ [msg]
        checked := if authenticated then c.checked ++ [(c.handled, req)] else c.checked }
  | _ => { c with handled := c.handled ++ [msg] }

def handleMessage (s : Server) (msg : ChatCleanerMessage) : Server :=
  { s with
    authenticated := s.authenticated || validInit C msg
    tcpSocket := s.tcpSocket.map (Connection.handle s.authenticated msg) }

/-- The loop over the messages in the buffer. The flag says that it stopped at an error. -/
def handleMessages (s : Server) : Server × Bool :=
  if CLEANER_NET_HEADER_SIZE ≤ s.recvBuf.length then
    let packetSize := ntohl (s.recvBuf.take CLEANER_NET_HEADER_SIZE)
    if packetSize = 0 ∨ packetSize > MAX_CLEANER_PACKET_SIZE then ({ s with recvBuf := [] }, true)
    else if packetSize + CLEANER_NET_HEADER_SIZE ≤ s.recvBuf.length then
      match C.parse ((s.recvBuf.drop CLEANER_NET_HEADER_SIZE).take packetSize) with
      | some msg =>
          let s' := { s with recvBuf := s.recvBuf.drop (packetSize + CLEANER_NET_HEADER_SIZE) }
          -- the bytes behind a refused message stay in the buffer
          if refuses C s.authenticated msg then (handleMessage C s' msg, true)
          else handleMessages (handleMessage C s' msg)
      | none => ({ s with recvBuf := [] }, true)
    else (s, false)
  else (s, false)
termination_by s.recvBuf.length
decreasing_by
  simp only [CLEANER_NET_HEADER_SIZE, handleMessage, List.length_drop] at *
  omega

def closeSocket (s : Server) : Server := { s with tcpSocket := none, ended := s.ended ++ s.tcpSocket.toList }

/-- A connection is pending, unless it has gone already. -/
def newCon (pending : Option Connection) (s : Server) : Server :=
  if s.blockConnection then s
  else
    let s := { closeSocket s with authenticated := false }
    match pending with
    | none => { s with blockConnection := false, accepting := true }
    | some c => { s with tcpSocket := some c, blockConnection := true, accepting := false }

def socketStateChanged (s : Server) : Server :=
  { closeSocket s with authenticated := false, blockConnection := false, accepting := true }

/-- An error cuts the socket off from `socketStateChanged` before it is closed. -/
def closeOnError (s : Server) : Server := { closeSocket s with blockConnection := false }

/-- The socket has `bytes` for a read, or none where the read fails. -/
def onRead (bytes : List UInt8) (s : Server) : Server :=
  match s.tcpSocket with
  | none => if s.recvBuf.length ≥ recvBufSize then { s with recvBuf := [] } else s
  | some c =>
      if s.recvBuf.length ≥ recvBufSize then socketStateChanged { s with recvBuf := [] }
      else if bytes = [] then closeOnError s
      else
        let (s', error) := handleMessages C
          { s with tcpSocket := some { c with bytes := c.bytes ++ bytes }, recvBuf := s.recvBuf ++ bytes }
        if error then closeOnError s' else s'

inductive Event
  | connect
  | read (bytes : List UInt8)
  | disconnect
  deriving DecidableEq, Repr

/-- A client connects while the server accepts; an open socket has bytes for a read, at most as many as the buffer
has room for, or its peer closes it. -/
def fire (s : Server) : Event → Option Server
  | .connect => if s.accepting then some (newCon (some {}) s) else none
  | .read bytes =>
      if s.tcpSocket.isSome ∧ bytes.length ≤ recvBufSize - s.recvBuf.length then some (onRead C bytes s) else none
  | .disconnect => if s.tcpSocket.isSome then some (socketStateChanged s) else none

/-- What a frame of the byte stream of a connection is to the server. -/
inductive Frame
  | message (msg : ChatCleanerMessage)
  | unparseable
  | badSize

def Frame.invalid : Frame → Bool
  | .message _ => false
  | .unparseable | .badSize => true

def readFrame (body : List UInt8) : Frame :=
  match C.parse body with
  | none => .unparseable
  | some msg => .message msg

def framing : Framing UInt8 Frame where
  next := prefixed CLEANER_NET_HEADER_SIZE MAX_CLEANER_PACKET_SIZE ntohl .badSize (readFrame C)
  final := Frame.invalid
  shorter := prefixed_shorter (by decide)
  next_append := prefixed_append

def messages : Bool → List Frame → List ChatCleanerMessage
  | authenticated, .message msg :: fs =>
      msg :: if refuses C authenticated msg then [] else messages (authenticated || validInit C msg) fs
  | _, _ => []

/-- Whether a connection is authenticated after its frames, if none of them is an error. -/
def authenticates : Bool → List Frame → Option Bool
  | authenticated, [] => some authenticated
  | authenticated, .message msg :: fs =>
      if refuses C authenticated msg then none else authenticates (authenticated || validInit C msg) fs
  | _, _ :: _ => none

def ownMessages (bytes : List UInt8) : List ChatCleanerMessage := messages C false ((framing C).frames bytes)

def Faultless (bytes : List UInt8) : Prop := (authenticates C false ((framing C).frames bytes)).isSome

instance (bytes : List UInt8) : Decidable (Faultless C bytes) :=
  inferInstanceAs (Decidable ((authenticates C false ((framing C).frames bytes)).isSome = true))

def connections (s : Server) : List Connection := s.ended ++ s.tcpSocket.toList

structure Independent (s : Server) : Prop where
  own : ∀ c ∈ connections s, c.handled = ownMessages C c.bytes
  checked : ∀ c ∈ connections s, ∀ p ∈ c.checked,
    p.1 ++ [.cleanerChatRequest p.2] <+: c.handled ∧ ∃ msg ∈ p.1, validInit C msg
  accepting : s.tcpSocket = none → s.accepting = true

end PokerTH.CleanerServer
