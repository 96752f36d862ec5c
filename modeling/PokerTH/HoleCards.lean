import PokerTH.Decimal
import PokerTH.CryptHelper

namespace PokerTH.HoleCards

open CryptHelper Decimal

inductive SeatState
  | normal | sessionInactive | noMoney
  deriving DecidableEq, Repr

structure Seat where
  uniqueId : Nat
  activeStatus : Bool
  isSessionActive : Bool
  cards : Nat × Nat
  deriving DecidableEq, Repr

structure Session where
  uniqueId : Nat
  password : List UInt8
  deriving DecidableEq, Repr

structure Server where
  id : Nat
  currentHandID : Nat
  numberOfPlayers : Nat
  smallBlind : Int
  dealerPosition : Nat
  seats : List Seat
  sessions : List Session
  deriving DecidableEq, Repr

inductive Cards
  | plain (card1 card2 : Nat)
  | encrypted (cipher : List UInt8)
  deriving DecidableEq, Repr

structure HandStartMessage where
  gameId : Nat
  seatStates : List SeatState
  smallBlind : Int
  dealerPlayerId : Nat
  cards : Cards
  deriving DecidableEq, Repr

def Seat.state (s : Seat) : SeatState :=
  if ¬ s.activeStatus then .noMoney else if ¬ s.isSessionActive then .sessionInactive else .normal

def createHandStart (server : Server) (cards : Cards) : HandStartMessage where
  gameId := server.id
  seatStates := (server.seats.take server.numberOfPlayers).map Seat.state
  smallBlind := server.smallBlind
  dealerPlayerId := server.dealerPosition
  cards := cards

def cardData (uniqueId gameId handID : Nat) (cards : Nat × Nat) : List UInt8 :=
  digits uniqueId ++ 32 :: (digits gameId ++ 32 :: (digits handID ++ 32 :: (digits cards.1 ++ 32 :: digits cards.2)))

variable (L : Library)

def getSession (server : Server) (uniqueId : Nat) : Option Session :=
  server.sessions.find? fun s => s.uniqueId == uniqueId

/-- The cards of a seat for its session, unless they cannot be encrypted. -/
def handStartFor (server : Server) (seat : Seat) (session : Session) : Option HandStartMessage :=
  if session.password = [] then some (createHandStart server (.plain seat.cards.1 seat.cards.2))
  else
    match AES128Encrypt L session.password (cardData seat.uniqueId server.id server.currentHandID seat.cards) with
    | none => none
    | some cipher => if cipher = [] then none else some (createHandStart server (.encrypted cipher))

def removePlayer (server : Server) (uniqueId : Nat) : Server :=
  { server with sessions := server.sessions.filter fun s => s.uniqueId ≠ uniqueId }

/-- The messages of a new hand to the sessions. A session whose cards cannot be encrypted is removed. -/
def sendCards : List Seat → Server → Server × List (Nat × HandStartMessage)
  | [], server => (server, [])
  | seat :: seats, server =>
      match getSession server seat.uniqueId with
      | none => sendCards seats server
      | some session =>
          match handStartFor L server seat session with
          | none => sendCards seats (removePlayer server seat.uniqueId)
          | some msg =>
              let (server', sent) := sendCards seats server
              (server', (seat.uniqueId, msg) :: sent)

def startNewHand (server : Server) : Server × List (Nat × HandStartMessage) :=
  let server := { server with currentHandID := server.currentHandID + 1 }
  sendCards L server.seats server

structure ClientSeat where
  myCash : Int
  isSessionActive : Bool
  myCards : Int × Int
  deriving DecidableEq, Repr

structure Client where
  guiPlayerId : Nat
  gameId : Nat
  password : List UInt8
  numberOfPlayers : Int
  origGuiPlayerNum : Int
  currentHandID : Int
  smallBlind : Int
  seats : List ClientSeat
  deriving DecidableEq, Repr

def readCards (client : Client) : Cards → Option (Int × Int)
  | .plain card1 card2 => if client.password = [] then some (card1, card2) else none
  | .encrypted cipher =>
      if client.password = [] then none
      else
        match AES128Decrypt L client.password cipher with
        | none => none
        | some plainCards =>
            let (playerId, stream) := getUnsigned 0 (some plainCards)
            let (gameId, stream) := getUnsigned 0 stream
            let (handNum, stream) := getInt 0 stream
            if playerId ≠ client.guiPlayerId ∨ gameId ≠ client.gameId ∨ handNum ≠ client.currentHandID + 1 then none
            else
              let (card1, stream) := getInt (-1) stream
              let (card2, _) := getInt (-1) stream
              some (card1, card2)

def playerNum (client : Client) (i : Nat) : Int :=
  let numberDiff := client.numberOfPlayers - client.origGuiPlayerNum
  ((i + numberDiff).tmod client.numberOfPlayers + client.numberOfPlayers).tmod client.numberOfPlayers

def ClientSeat.setState (seat : ClientSeat) : SeatState → ClientSeat
  | .normal => { seat with isSessionActive := true }
  | .sessionInactive => { seat with isSessionActive := false }
  | .noMoney => { seat with myCash := 0 }

def setSeatStates : Nat → List SeatState → Client → Option Client
  | _, [], client => some client
  | i, state :: states, client =>
      let number := playerNum client i
      if 0 ≤ number ∧ number < client.seats.length then
        setSeatStates (i + 1) states
          { client with seats := client.seats.modify number.toNat fun seat => seat.setState state }
      else none

/-- The cards go to the first seat, which is the client's own, and the hand is counted. -/
def handleHandStart (client : Client) (msg : HandStartMessage) : Option Client := do
  let myCards ← readCards L client msg.cards
  let client ← setSeatStates 0 msg.seatStates client
  return { client with
    seats := client.seats.modifyHead fun seat => { seat with myCards }
    currentHandID := client.currentHandID + 1
    smallBlind := msg.smallBlind }

/-- What the server deals in a hand, and the sessions that are in the game then. -/
structure Deal where
  seats : List Seat
  sessions : List Session
  smallBlind : Int
  dealerPosition : Nat
  deriving DecidableEq, Repr

def Server.deal (server : Server) (d : Deal) : Server :=
  { server with
    seats := d.seats
    sessions := d.sessions
    smallBlind := d.smallBlind
    dealerPosition := d.dealerPosition }

/-- The cards that the client of a session is given in hand after hand, as long as the session stays and its
client accepts them. -/
def playHands (session : Session) : List Deal → Server → Client → Option (List (Int × Int))
  | [], _, _ => some []
  | d :: deals, server, client =>
      let (server', sent) := startNewHand L (server.deal d)
      if session ∈ server'.sessions then
        match sent.filter fun m => m.1 == session.uniqueId with
        | [m] => do
            let client' ← handleHandStart L client m.2
            let seat ← client'.seats.head?
            let cards ← playHands session deals server' client'
            return seat.myCards :: cards
        | _ => none
      else none

end PokerTH.HoleCards
