import Mathlib.Algebra.Group.Nat.Defs
import PokerTH.Framing

namespace PokerTH.ReceiveBuffer

def netHeaderSize : Nat := 4

def maxPacketSize : Nat := 384

def recvBufSize : Nat := 5 * maxPacketSize

def sizeMax : Nat := 2 ^ 64 - 1

def ntohl (header : List UInt8) : Nat :=
  header.foldl (fun n byte => n * 256 + byte.toNat) 0

/-- `NetPacket::Create`, which gives no packet where the bytes do not parse, and the validator. -/
structure PacketReader (Packet : Type) where
  create : List UInt8 → Option Packet
  isValidPacket : Packet → Bool

inductive Handling
  | returns
  | closes
  | throws
  deriving DecidableEq, Repr

/-- The receive buffer and its session: the bytes and packets read, the packets handed over, whether the
session is closed. -/
structure AsioReceiveBuffer (Packet : Type) where
  recvBuf : List UInt8 := []
  receivedPackets : List Packet := []
  handled : List Packet := []
  closed : Bool := false

variable {Packet : Type} (R : PacketReader Packet)

def scanPackets (s : AsioReceiveBuffer Packet) : AsioReceiveBuffer Packet :=
  if netHeaderSize ≤ s.recvBuf.length then
    let packetSize := ntohl (s.recvBuf.take netHeaderSize)
    if packetSize = 0 ∨ packetSize > maxPacketSize then { s with recvBuf := [], closed := true }
    else if packetSize > sizeMax - netHeaderSize then { s with recvBuf := [], closed := true }
    else if packetSize + netHeaderSize ≤ s.recvBuf.length then
      let rest := s.recvBuf.drop (packetSize + netHeaderSize)
      match R.create ((s.recvBuf.drop netHeaderSize).take packetSize) with
      | some packet =>
          if R.isValidPacket packet then
            scanPackets { s with recvBuf := rest, receivedPackets := s.receivedPackets ++ [packet] }
          else { s with recvBuf := rest, closed := true }
      -- dataAvailable becomes false although the buffer may hold more
      | none => { s with recvBuf := rest }
    else s
  else s
termination_by s.recvBuf.length
decreasing_by
  simp only [netHeaderSize, List.length_drop] at *
  omega

/-- `outcome n` is what handling the packet does that is handed over after `n` others. -/
def processPackets (outcome : Nat → Handling) : List Packet → AsioReceiveBuffer Packet → AsioReceiveBuffer Packet
  | [], s => if s.recvBuf.length ≥ recvBufSize then { s with recvBuf := [], closed := true } else s
  | packet :: packets, s =>
      let s' := { s with receivedPackets := packets, handled := s.handled ++ [packet] }
      match outcome s.handled.length with
      | .returns => processPackets outcome packets s'
      | .closes => processPackets outcome packets { s' with closed := true }
      | .throws => { s' with closed := true }

def handleRead (outcome : Nat → Handling) (s : AsioReceiveBuffer Packet) (bytes : List UInt8) :
    AsioReceiveBuffer Packet :=
  if s.recvBuf.length ≥ recvBufSize ∨ bytes.length > recvBufSize - s.recvBuf.length then { s with closed := true }
  else
    let s' := scanPackets R { s with recvBuf := s.recvBuf ++ bytes }
    if s'.closed then s' else processPackets outcome s'.receivedPackets s'

/-- The reads of a session; a closed session starts no further read. -/
def receive (outcome : Nat → Handling) (reads : List (List UInt8)) : AsioReceiveBuffer Packet :=
  reads.foldl (fun s bytes => if s.closed then s else handleRead R outcome s bytes) {}

def Fits (outcome : Nat → Handling) (reads : List (List UInt8)) : Prop :=
  ∀ before bytes, before ++ [bytes] <+: reads → (receive R outcome before).closed = false →
    bytes.length ≤ recvBufSize - (receive R outcome before).recvBuf.length

inductive Frame (Packet : Type)
  | packet (p : Packet)
  | unparseable
  | rejected
  | badSize

def Frame.fatal : Frame Packet → Bool
  | .packet _ | .unparseable => false
  | .rejected | .badSize => true

def Frame.packet? : Frame Packet → Option Packet
  | .packet p => some p
  | _ => none

def readFrame (body : List UInt8) : Frame Packet :=
  match R.create body with
  | none => .unparseable
  | some p => if R.isValidPacket p then .packet p else .rejected

def nextFrame (s : List UInt8) : Option (Frame Packet × List UInt8) :=
  if s.length < netHeaderSize then none
  else
    let size := ntohl (s.take netHeaderSize)
    if size = 0 ∨ size > maxPacketSize then some (.badSize, s.drop netHeaderSize)
    else if s.length < size + netHeaderSize then none
    else some (readFrame R ((s.drop netHeaderSize).take size), s.drop (size + netHeaderSize))

theorem nextFrame_append {s rest t : List UInt8} {f : Frame Packet} (hs : nextFrame R s = some (f, rest)) :
    nextFrame R (s ++ t) = some (f, rest ++ t) :=
  prefixed_append t hs

theorem nextFrame_shorter {s rest : List UInt8} {f : Frame Packet} (hs : nextFrame R s = some (f, rest)) :
    rest.length < s.length :=
  prefixed_shorter (by decide) hs

def framing : Framing UInt8 (Frame Packet) where
  next := nextFrame R
  final := Frame.fatal
  shorter := nextFrame_shorter R
  next_append _ := nextFrame_append R

def packets (stream : List UInt8) : List Packet := ((framing R).frames stream).filterMap Frame.packet?

theorem length_of_next_none {s : List UInt8} (hs : (framing R).next s = none) : s.length < recvBufSize :=
  Nat.lt_trans (length_of_prefixed_none (by decide) hs) (by decide)

end PokerTH.ReceiveBuffer
