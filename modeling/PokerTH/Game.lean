import PokerTH.Hand

namespace PokerTH

inductive RaiseIntervalMode
  | raiseOnHandNumber | raiseOnMinutes
  deriving DecidableEq, Repr

inductive RaiseMode
  | doubleBlinds | manualBlindsOrder
  deriving DecidableEq, Repr

inductive AfterManualBlindsMode
  | doubleBlinds | raiseAbout | stayAtLastBlind
  deriving DecidableEq, Repr

structure GameData where
  maxNumberOfPlayers : Int
  startMoney : Int
  firstSmallBlind : Int
  raiseIntervalMode : RaiseIntervalMode
  raiseSmallBlindEveryHandsValue : Int
  raiseSmallBlindEveryMinutesValue : Int
  raiseMode : RaiseMode
  manualBlindsList : List Int
  afterManualBlindsMode : AfterManualBlindsMode
  afterMBAlwaysRaiseValue : Int
  delayBetweenHandsSec : Int
  playerActionTimeoutSec : Int
  deriving DecidableEq, Repr

structure PlayerData where
  uniqueId : Nat
  type : PlayerType
  guid : String
  startCash : Int
  deriving DecidableEq, Repr

structure StartData where
  startDealerPlayerId : Nat
  numberOfPlayers : Nat
  deriving DecidableEq, Repr

/-- The counters of a game. Its players, lists and board are a `Table`. -/
structure Game where
  gameData : GameData
  startQuantityPlayers : Nat
  startCash : Int
  currentSmallBlind : Int
  currentHandID : Int
  dealerPosition : Nat
  lastHandBlindsRaised : Int
  lastTimeBlindsRaised : Int
  blindsList : List Int

namespace Game

def INT_MAX : Int := 2 ^ 31 - 1

def newPlayer (startCash : Int) (numberOfPlayers : Nat) (playerDataList : List PlayerData) (i : Nat) : Player :=
  match playerDataList[i]? with
  | none => Player.create 0 .computer "" startCash (decide (numberOfPlayers > i))
  | some d =>
      Player.create d.uniqueId d.type d.guid (if d.startCash ≥ 0 then d.startCash else startCash)
        (decide (numberOfPlayers > i))

def newBoard : Board := ⟨0, 0, false, 0, [], []⟩

/-- The constructor. All seats get a player object, whether somebody sits there or not. -/
def create (maxPlayers : Nat) (playerDataList : List PlayerData) (gameData : GameData)
    (startData : StartData) : Except EngineError (Game × Table) :=
  if playerDataList.any fun d => d.uniqueId == startData.startDealerPlayerId then
    let active := (List.range maxPlayers).filter fun i => startData.numberOfPlayers > i
    .ok
      ({ gameData := gameData
         startQuantityPlayers := startData.numberOfPlayers
         startCash := gameData.startMoney
         currentSmallBlind := gameData.firstSmallBlind
         currentHandID := 0
         dealerPosition := startData.startDealerPlayerId
         lastHandBlindsRaised := 1
         lastTimeBlindsRaised := 0
         blindsList := gameData.manualBlindsList },
       { players := newPlayer gameData.startMoney startData.numberOfPlayers playerDataList
         seatsList := List.range maxPlayers
         activePlayerList := active
         runningPlayerList := active
         board := newBoard })
  else .error .dealerNotFound

def maxBlind (g : Game) : Int := min (g.startQuantityPlayers * g.startCash / 2) INT_MAX

def doubledBlind (g : Game) : Int :=
  if g.currentSmallBlind ≤ g.maxBlind / 2 then min (g.currentSmallBlind * 2) g.maxBlind else g.maxBlind

/-- The raised blind together with the manual blinds that remain. -/
def raisedBlind (g : Game) : Int × List Int :=
  match g.gameData.raiseMode with
  | .doubleBlinds => (g.doubledBlind, g.blindsList)
  | .manualBlindsOrder =>
      match g.blindsList with
      | blind :: rest => (blind, rest)
      | [] =>
          match g.gameData.afterManualBlindsMode with
          | .doubleBlinds => (g.doubledBlind, [])
          | .raiseAbout =>
              let newBlind := g.currentSmallBlind + g.gameData.afterMBAlwaysRaiseValue
              (if newBlind ≤ g.maxBlind then newBlind else g.maxBlind, [])
          | .stayAtLastBlind => (g.currentSmallBlind, [])

def setRaisedBlind (g : Game) : Game :=
  let (blind, rest) := g.raisedBlind
  { g with currentSmallBlind := min blind g.maxBlind, blindsList := rest }

def raiseBlinds (elapsedMinutes : Int) (g : Game) : Game :=
  match g.gameData.raiseIntervalMode with
  | .raiseOnHandNumber =>
      if g.lastHandBlindsRaised + g.gameData.raiseSmallBlindEveryHandsValue ≤ g.currentHandID then
        { g with lastHandBlindsRaised := g.currentHandID }.setRaisedBlind
      else g
  | .raiseOnMinutes =>
      if g.lastTimeBlindsRaised + g.gameData.raiseSmallBlindEveryMinutesValue ≤ elapsedMinutes then
        { g with lastTimeBlindsRaised := elapsedMinutes }.setRaisedBlind
      else g

/-- Players without cash become inactive, all others run. -/
def clearTable (t : Table) : Table :=
  let players := updateAll t.players t.seatsList fun p => p.setMyAction .none
  let broke := t.activePlayerList.filter fun r => (players r).myCash == 0
  let active := t.activePlayerList.filter fun r => (players r).myCash != 0
  { t with
    players := updateAll players broke fun p => { p with myActiveStatus := false }
    activePlayerList := active
    runningPlayerList := active
    board := { t.board with allInCondition := false } }

def nextDealer (h : Hand) : Except EngineError Nat :=
  match h.getSeatIt h.dealerPosition with
  | none => .error .seatNotFound
  | some dealer =>
      match h.nextActivePlayer dealer with
      | none => .error .nextDealerNotFound
      | some it => .ok (h.uniqueID it)

/-- The next hand of the game. The hand gets the dealer before the dealer moves on. -/
def initHand (cardsValueInt : Nat → Nat) (elapsedMinutes : Int) (g : Game) (t : Table) :
    Except EngineError (Game × Hand) := do
  let g := { g with currentHandID := g.currentHandID + 1 }.raiseBlinds elapsedMinutes
  let h ← Hand.create cardsValueInt (clearTable t) g.dealerPosition g.currentSmallBlind
  let dealerPosition ← nextDealer h
  return ({ g with dealerPosition }, h)

def replaceDealer (g : Game) (oldDealer newDealer : Nat) : Game :=
  if g.dealerPosition = oldDealer then { g with dealerPosition := newDealer } else g

end Game

end PokerTH
