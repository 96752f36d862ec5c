import PokerTH.ReceiveBuffer
import PokerTH.Runs

namespace PokerTH.SendBuffer

open ReceiveBuffer

def sendBufFirstAllocChunksize : Nat := 4096

def maxSendBufSize : Nat := sendBufFirstAllocChunksize * 256

def htonl (n : Nat) : List UInt8 :=
  [UInt8.ofNat (n / 2 ^ 24), UInt8.ofNat (n / 2 ^ 16), UInt8.ofNat (n / 2 ^ 8), UInt8.ofNat n]

inductive NetException
  | bufInvalidSize
  deriving DecidableEq, Repr

/-- The send buffer and its socket: the bytes given to each `async_write`, and how many of these are not completed. -/
structure AsioSendBuffer where
  sendBuf : List UInt8 := []
  curWriteBuf : List UInt8 := []
  sendBufUsed : Nat := 0
  curWriteBufUsed : Nat := 0
  closeAfterSend : Bool := false
  writes : List (List UInt8) := []
  outstanding : Nat := 0
  socketClosed : Bool := false

variable {Packet : Type}

def getSendBufLeft (b : AsioSendBuffer) : Nat :=
  if b.sendBuf.length > b.sendBufUsed then b.sendBuf.length - b.sendBufUsed else 0

def newSendBufSize (b : AsioSendBuffer) : Nat :=
  let newSize := if b.sendBuf = [] then sendBufFirstAllocChunksize else b.sendBuf.length * 2
  if newSize > maxSendBufSize then maxSendBufSize else newSize

def reallocSendBuf (b : AsioSendBuffer) : Option AsioSendBuffer :=
  if newSendBufSize b ≤ b.sendBuf.length then none
  else some { b with sendBuf := b.sendBuf ++ List.replicate (newSendBufSize b - b.sendBuf.length) 0 }

def appendToSendBufWithoutCheck (b : AsioSendBuffer) (data : List UInt8) :
    Except NetException AsioSendBuffer :=
  if b.sendBuf.length < b.sendBufUsed + data.length then .error .bufInvalidSize
  else
    let written := b.sendBuf.take b.sendBufUsed ++ data ++ b.sendBuf.drop (b.sendBufUsed + data.length)
    .ok { b with sendBuf := written, sendBufUsed := b.sendBufUsed + data.length }

theorem reallocSendBuf_lt {b b' : AsioSendBuffer} (hrun : reallocSendBuf b = some b') :
    maxSendBufSize - b'.sendBuf.length < maxSendBufSize - b.sendBuf.length := by
  have hmax : newSendBufSize b ≤ maxSendBufSize := by
    simp only [newSendBufSize]
    split_ifs <;> omega
  simp only [reallocSendBuf] at hrun
  split_ifs at hrun with hle
  cases hrun
  simp only [List.length_append, List.length_replicate]
  omega

/-- The flag says whether the data was appended. -/
def encodeToBuf (b : AsioSendBuffer) (data : List UInt8) :
    Except NetException (Bool × AsioSendBuffer) :=
  if getSendBufLeft b < data.length then
    match _hrun : reallocSendBuf b with
    | none => .ok (false, b)
    | some b' => encodeToBuf b' data
  else (appendToSendBufWithoutCheck b data).map fun b' => (true, b')
termination_by maxSendBufSize - b.sendBuf.length
decreasing_by exact reallocSendBuf_lt _hrun

variable (serialize : Packet → List UInt8)

def internalStorePacket (b : AsioSendBuffer) (packet : Packet) :
    Except NetException AsioSendBuffer :=
  let rawSize := (serialize packet).length
  if rawSize > maxSendBufSize ∨ rawSize > 2 ^ 32 - 1 then .ok b
  else
    (encodeToBuf b (htonl rawSize ++ serialize packet)).map Prod.snd

def asyncSendNextPacket (b : AsioSendBuffer) : AsioSendBuffer :=
  if b.curWriteBufUsed = 0 then
    let b := { b with
      sendBuf := b.curWriteBuf, curWriteBuf := b.sendBuf,
      sendBufUsed := b.curWriteBufUsed, curWriteBufUsed := b.sendBufUsed }
    if b.curWriteBufUsed ≠ 0 then
      { b with writes := b.writes ++ [b.curWriteBuf.take b.curWriteBufUsed], outstanding := b.outstanding + 1 }
    else if b.closeAfterSend then { b with closeAfterSend := false, socketClosed := true }
    else b
  else b

/-- `HandleWrite` of a write that has no error; `HandleWriteSsl` does the same. -/
def handleWrite (b : AsioSendBuffer) : AsioSendBuffer :=
  asyncSendNextPacket { b with curWriteBufUsed := 0, outstanding := b.outstanding - 1 }

def storeAll (b : AsioSendBuffer) : List (Option Packet) → Except NetException AsioSendBuffer
  | [] => .ok b
  | none :: packetList => storeAll b packetList
  | some packet :: packetList => do
      let b' ← internalStorePacket serialize b packet
      storeAll b' packetList

def send (b : AsioSendBuffer) (packetList : List (Option Packet)) :
    Except NetException AsioSendBuffer :=
  if packetList = [] then .ok b else (storeAll serialize b packetList).map asyncSendNextPacket

def setCloseAfterSend (b : AsioSendBuffer) : AsioSendBuffer :=
  asyncSendNextPacket { b with closeAfterSend := true }

def frame (packet : Packet) : List UInt8 := htonl (serialize packet).length ++ serialize packet

def encodes (b : AsioSendBuffer) (packet : Packet) : Bool :=
  match encodeToBuf b (frame serialize packet) with
  | .ok (added, _) => added
  | .error _ => false

def encoded (b : AsioSendBuffer) : List (Option Packet) → List Packet
  | [] => []
  | none :: packetList => encoded b packetList
  | some packet :: packetList =>
      (if encodes serialize b packet then [packet] else []) ++
        match internalStorePacket serialize b packet with
        | .ok b' => encoded b' packetList
        | .error _ => []

/-- The events at a send buffer whose writes succeed, each with the packets that it adds. -/
inductive Noted (allowed : Packet → Prop) : AsioSendBuffer → List Packet → AsioSendBuffer → Prop
  | send {b b' : AsioSendBuffer} {packetList : List (Option Packet)}
      (hallowed : ∀ packet, some packet ∈ packetList → allowed packet)
      (hrun : send serialize b packetList = .ok b') : Noted allowed b (encoded serialize b packetList) b'
  | handleWrite {b : AsioSendBuffer} (hwrite : 0 < b.outstanding) : Noted allowed b [] (handleWrite b)
  | setCloseAfterSend {b : AsioSendBuffer} : Noted allowed b [] (setCloseAfterSend b)

end PokerTH.SendBuffer
