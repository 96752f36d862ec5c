import PokerTH.Board
import PokerTH.Cyclic

namespace PokerTH

structure BeRo where
  myBeRoID : GameState
  dealerPosition : Nat
  smallBlindPositionId : Nat
  bigBlindPositionId : Nat
  smallBlind : Int
  highestSet : Int
  minimumRaise : Int
  firstRound : Bool
  firstRunGui : Bool
  currentPlayersTurnId : Nat
  firstRoundLastPlayersTurnId : Nat

/-- What all hands of a game share: the player objects, the lists of them and the board. -/
structure Table where
  players : Players
  seatsList : List Ref
  activePlayerList : List Ref
  runningPlayerList : List Ref
  board : Board

structure Hand extends Table where
  myBeRo : GameState → BeRo
  dealerPosition : Nat
  smallBlindPosition : Nat
  bigBlindPosition : Nat
  currentRound : GameState
  roundBeforePostRiver : GameState
  smallBlind : Int
  lastActionPlayerID : Nat
  allInCondition : Bool
  cardsShown : Bool

def updatePlayer (players : Players) (r : Ref) (f : Player → Player) : Players :=
  Function.update players r (f (players r))

def updateAll (players : Players) (l : List Ref) (f : Player → Player) : Players :=
  fun r => if r ∈ l then f (players r) else players r

def findPlayer (players : Players) (l : List Ref) (uniqueId : Nat) : Option Ref :=
  l.find? fun r => (players r).myUniqueID == uniqueId

namespace Hand

def getSeatIt (h : Hand) (uniqueId : Nat) : Option Ref := findPlayer h.players h.seatsList uniqueId

def getActivePlayerIt (h : Hand) (uniqueId : Nat) : Option Ref :=
  findPlayer h.players h.activePlayerList uniqueId

def getRunningPlayerIt (h : Hand) (uniqueId : Nat) : Option Ref :=
  findPlayer h.players h.runningPlayerList uniqueId

def uniqueID (h : Hand) (r : Ref) : Nat := (h.players r).myUniqueID

def getCurrentBeRo (h : Hand) : BeRo := h.myBeRo h.currentRound

def setPlayers (h : Hand) (players : Players) : Hand :=
  { h with players }

def setBoard (h : Hand) (board : Board) : Hand :=
  { h with board }

def setBeRo (h : Hand) (b : BeRo) : Hand :=
  { h with myBeRo := Function.update h.myBeRo h.currentRound b }

def setCurrentPlayersTurnId (h : Hand) (uniqueId : Nat) : Hand :=
  h.setBeRo { h.getCurrentBeRo with currentPlayersTurnId := uniqueId }

def setCurrentRound (h : Hand) (round : GameState) : Hand := { h with currentRound := round }

def setLastActionPlayerID (h : Hand) (uniqueId : Nat) : Hand :=
  { h with lastActionPlayerID := uniqueId, board := { h.board with lastActionPlayerID := uniqueId } }

def setAllInCondition (h : Hand) : Hand :=
  { h with allInCondition := true, board := { h.board with allInCondition := true } }

def collectSets (h : Hand) : Hand := h.setBoard (Board.collectSets h.players h.seatsList h.board)

def collectPot (h : Hand) : Hand :=
  let (players, board) := Board.collectPot h.players h.seatsList h.board
  { h with players, board }

@[simp] theorem setPlayers_players (h : Hand) (players : Players) :
    (h.setPlayers players).players = players := rfl

@[simp] theorem setPlayers_seatsList (h : Hand) (players : Players) :
    (h.setPlayers players).seatsList = h.seatsList := rfl

@[simp] theorem setPlayers_activePlayerList (h : Hand) (players : Players) :
    (h.setPlayers players).activePlayerList = h.activePlayerList := rfl

@[simp] theorem setPlayers_runningPlayerList (h : Hand) (players : Players) :
    (h.setPlayers players).runningPlayerList = h.runningPlayerList := rfl

@[simp] theorem setPlayers_board (h : Hand) (players : Players) :
    (h.setPlayers players).board = h.board := rfl

@[simp] theorem setPlayers_myBeRo (h : Hand) (players : Players) :
    (h.setPlayers players).myBeRo = h.myBeRo := rfl

@[simp] theorem setPlayers_currentRound (h : Hand) (players : Players) :
    (h.setPlayers players).currentRound = h.currentRound := rfl

@[simp] theorem setPlayers_smallBlind (h : Hand) (players : Players) :
    (h.setPlayers players).smallBlind = h.smallBlind := rfl

@[simp] theorem setPlayers_lastActionPlayerID (h : Hand) (players : Players) :
    (h.setPlayers players).lastActionPlayerID = h.lastActionPlayerID := rfl

@[simp] theorem setPlayers_allInCondition (h : Hand) (players : Players) :
    (h.setPlayers players).allInCondition = h.allInCondition := rfl

@[simp] theorem setBoard_players (h : Hand) (board : Board) : (h.setBoard board).players = h.players := rfl

@[simp] theorem setBoard_seatsList (h : Hand) (board : Board) :
    (h.setBoard board).seatsList = h.seatsList := rfl

@[simp] theorem setBoard_activePlayerList (h : Hand) (board : Board) :
    (h.setBoard board).activePlayerList = h.activePlayerList := rfl

@[simp] theorem setBoard_runningPlayerList (h : Hand) (board : Board) :
    (h.setBoard board).runningPlayerList = h.runningPlayerList := rfl

@[simp] theorem setBoard_board (h : Hand) (board : Board) : (h.setBoard board).board = board := rfl

@[simp] theorem setBoard_myBeRo (h : Hand) (board : Board) : (h.setBoard board).myBeRo = h.myBeRo := rfl

@[simp] theorem setBoard_currentRound (h : Hand) (board : Board) :
    (h.setBoard board).currentRound = h.currentRound := rfl

@[simp] theorem setBoard_smallBlind (h : Hand) (board : Board) :
    (h.setBoard board).smallBlind = h.smallBlind := rfl

@[simp] theorem setBoard_lastActionPlayerID (h : Hand) (board : Board) :
    (h.setBoard board).lastActionPlayerID = h.lastActionPlayerID := rfl

@[simp] theorem setBoard_allInCondition (h : Hand) (board : Board) :
    (h.setBoard board).allInCondition = h.allInCondition := rfl

@[simp] theorem setBeRo_toTable (h : Hand) (b : BeRo) : (h.setBeRo b).toTable = h.toTable := rfl

@[simp] theorem setBeRo_myBeRo (h : Hand) (b : BeRo) :
    (h.setBeRo b).myBeRo = Function.update h.myBeRo h.currentRound b := rfl

@[simp] theorem setBeRo_currentRound (h : Hand) (b : BeRo) :
    (h.setBeRo b).currentRound = h.currentRound := rfl

@[simp] theorem setBeRo_smallBlind (h : Hand) (b : BeRo) : (h.setBeRo b).smallBlind = h.smallBlind := rfl

@[simp] theorem setBeRo_lastActionPlayerID (h : Hand) (b : BeRo) :
    (h.setBeRo b).lastActionPlayerID = h.lastActionPlayerID := rfl

@[simp] theorem setBeRo_allInCondition (h : Hand) (b : BeRo) :
    (h.setBeRo b).allInCondition = h.allInCondition := rfl

@[simp] theorem setCurrentRound_toTable (h : Hand) (round : GameState) :
    (h.setCurrentRound round).toTable = h.toTable := rfl

@[simp] theorem setCurrentRound_myBeRo (h : Hand) (round : GameState) :
    (h.setCurrentRound round).myBeRo = h.myBeRo := rfl

@[simp] theorem setCurrentRound_currentRound (h : Hand) (round : GameState) :
    (h.setCurrentRound round).currentRound = round := rfl

@[simp] theorem setCurrentRound_smallBlind (h : Hand) (round : GameState) :
    (h.setCurrentRound round).smallBlind = h.smallBlind := rfl

@[simp] theorem setCurrentRound_lastActionPlayerID (h : Hand) (round : GameState) :
    (h.setCurrentRound round).lastActionPlayerID = h.lastActionPlayerID := rfl

@[simp] theorem setCurrentRound_allInCondition (h : Hand) (round : GameState) :
    (h.setCurrentRound round).allInCondition = h.allInCondition := rfl

@[simp] theorem getCurrentBeRo_setBeRo (h : Hand) (b : BeRo) : (h.setBeRo b).getCurrentBeRo = b := by
  simp [getCurrentBeRo]

@[simp] theorem getCurrentBeRo_setPlayers (h : Hand) (players : Players) :
    (h.setPlayers players).getCurrentBeRo = h.getCurrentBeRo := rfl

@[simp] theorem getCurrentBeRo_setBoard (h : Hand) (board : Board) :
    (h.setBoard board).getCurrentBeRo = h.getCurrentBeRo := rfl

@[simp] theorem getCurrentBeRo_setLastActionPlayerID (h : Hand) (uniqueId : Nat) :
    (h.setLastActionPlayerID uniqueId).getCurrentBeRo = h.getCurrentBeRo := rfl

@[simp] theorem getCurrentBeRo_setAllInCondition (h : Hand) :
    (h.setAllInCondition).getCurrentBeRo = h.getCurrentBeRo := rfl

def clearButtons (h : Hand) : Hand :=
  h.setPlayers (updateAll h.players h.seatsList fun p => p.setMyButton .none)

def setMyButton (h : Hand) (r : Ref) (b : Button) : Hand :=
  h.setPlayers (updatePlayer h.players r fun p => p.setMyButton b)

/-- The first active player met by an iterator over the seats that leaves `dealer`. -/
def nextActivePlayer (h : Hand) (dealer : Ref) : Option Ref :=
  (Cyclic.after h.seatsList dealer).findSome? fun r => h.getActivePlayerIt (h.uniqueID r)

/-- The player `it` next to the dealer and the one after him get the blinds. In heads up the player
next to the dealer is the big blind. -/
def assignBlindButtons (h : Hand) (it : Ref) : Hand :=
  let next := Cyclic.next h.activePlayerList it
  if h.activePlayerList.length > 2 then
    let h := (((h.setMyButton it .smallBlind).setLastActionPlayerID (h.uniqueID it)).setMyButton next .bigBlind)
    { h with smallBlindPosition := h.uniqueID it, bigBlindPosition := h.uniqueID next }
  else
    let h := (((h.setMyButton it .bigBlind).setLastActionPlayerID (h.uniqueID it)).setMyButton next .smallBlind)
    { h with smallBlindPosition := h.uniqueID next, bigBlindPosition := h.uniqueID it }

def assignButtons (h : Hand) : Except EngineError Hand :=
  match h.getSeatIt h.dealerPosition with
  | none => .error .seatNotFound
  | some dealer =>
      let h := h.clearButtons.setMyButton dealer .dealer
      match h.nextActivePlayer dealer with
      | none => .error .nextActivePlayerNotFound
      | some it => .ok (h.assignBlindButtons it)

def postBlind (button : Button) (amount : Int) (p : Player) : Player :=
  if p.myButton = button then
    if p.myCash ≤ amount then (p.setMySet p.myCash).setMyAction .allIn else p.setMySet amount
  else p

def setBlinds (h : Hand) : Hand :=
  let h := h.setPlayers (updateAll h.players h.runningPlayerList (postBlind .smallBlind h.smallBlind))
  h.setPlayers (updateAll h.players h.runningPlayerList (postBlind .bigBlind (2 * h.smallBlind)))

def newBeRo (h : Hand) (gS : GameState) : Except EngineError BeRo :=
  match h.activePlayerList.find? fun r => (h.players r).myButton == .bigBlind,
      h.activePlayerList.find? fun r => (h.players r).myButton == .smallBlind with
  | some bb, some sb => .ok
      { myBeRoID := gS
        dealerPosition := h.dealerPosition
        smallBlindPositionId := h.uniqueID sb
        bigBlindPositionId := h.uniqueID bb
        smallBlind := h.smallBlind
        highestSet := if gS = .preflop then 2 * h.smallBlind else 0
        minimumRaise := 2 * h.smallBlind
        firstRound := true
        firstRunGui := true
        currentPlayersTurnId := 0
        firstRoundLastPlayersTurnId := 0 }
  | _, _ => .error .activePlayerNotFound

def createBeRo (h : Hand) : Except EngineError Hand := do
  let preflop ← h.newBeRo .preflop
  let flop ← h.newBeRo .flop
  let turn ← h.newBeRo .turn
  let river ← h.newBeRo .river
  let postRiver ← h.newBeRo .postRiver
  return { h with myBeRo := fun
    | .preflop => preflop
    | .flop => flop
    | .turn => turn
    | .river => river
    | .postRiver => postRiver }

/-- The cards of the hand as far as the betting sees them: `cardsValueInt k` is the value of the
seven cards of the `k`-th active player. -/
def dealCards (cardsValueInt : Nat → Nat) (t : Table) : Players :=
  fun r =>
    if r ∈ t.activePlayerList then
      { t.players r with
        myCardsValueInt := cardsValueInt (t.activePlayerList.idxOf r)
        myRoundStartCash := (t.players r).myCash }
    else t.players r

def noBeRo : BeRo := ⟨.preflop, 0, 0, 0, 0, 0, 0, true, true, 0, 0⟩

/-- The constructor of a hand. The deck holds cards for at most 23 active players. -/
def create (cardsValueInt : Nat → Nat) (t : Table) (dealerPosition : Nat) (smallBlind : Int) :
    Except EngineError Hand :=
  if t.activePlayerList.length > 23 then .error .seatNotFound
  else do
    let h : Hand := { t with
      players := dealCards cardsValueInt t
      myBeRo := fun _ => noBeRo
      dealerPosition := dealerPosition
      smallBlindPosition := dealerPosition
      bigBlindPosition := dealerPosition
      currentRound := .preflop
      roundBeforePostRiver := .preflop
      smallBlind := smallBlind
      lastActionPlayerID := 0
      allInCondition := false
      cardsShown := false }
    let h ← h.assignButtons
    h.setBlinds.createBeRo

/-- The part of `start` that is not display: the blinds are collected from the seats. -/
def start (h : Hand) : Hand := h.collectSets

def skipFirstRunGui (h : Hand) : Hand :=
  { h with myBeRo := fun s =>
      if s = .flop ∨ s = .turn ∨ s = .river then { h.myBeRo s with firstRunGui := false }
      else h.myBeRo s }

def leavesRunning (p : Player) : Bool := p.myAction == .fold || p.myAction == .allIn

/-- The erasing loop over the running list. `kept` are the players passed already; each erasure
moves the turn to the player before the erased one. -/
def eraseRunning (h : Hand) : List Ref → List Ref → Hand
  | kept, [] => { h with runningPlayerList := kept }
  | kept, r :: rest =>
      if leavesRunning (h.players r) then
        match (rest ++ kept).getLast? with
        | none => eraseRunning h kept rest
        | some q => eraseRunning (h.setCurrentPlayersTurnId (h.uniqueID q)) kept rest
      else eraseRunning h (kept ++ [r]) rest

def refreshRunningPlayerList (h : Hand) : Hand := h.eraseRunning [] h.runningPlayerList

def allInPlayersCounter (h : Hand) : Nat :=
  h.activePlayerList.countP fun r => (h.players r).myAction == .allIn

def nonFoldPlayerCounter (h : Hand) : Nat :=
  h.activePlayerList.countP fun r => (h.players r).myAction != .fold

/-- Before the flop everybody but the small blind is all in with at most the small blind. -/
def shortBigBlind (h : Hand) : Bool :=
  match h.getRunningPlayerIt h.getCurrentBeRo.smallBlindPositionId,
      h.getActivePlayerIt h.getCurrentBeRo.bigBlindPositionId with
  | some _, some bb =>
      h.currentRound == .preflop && h.getCurrentBeRo.firstRound &&
      (h.players bb).mySet ≤ h.smallBlind &&
      (h.activePlayerList.countP fun r =>
        (h.players r).myAction == .allIn && (h.players r).mySet ≤ h.smallBlind) == h.allInPlayersCounter
  | _, _ => false

def shortHeadsUpBigBlind (h : Hand) : Bool :=
  h.activePlayerList.any fun r =>
    h.activePlayerList.length == 2 && (h.players r).myAction == .allIn &&
    (h.players r).myButton == .bigBlind && (h.players r).mySet ≤ h.smallBlind &&
    h.currentRound == .preflop

def detectAllIn (h : Hand) : Bool :=
  h.allInPlayersCounter == h.nonFoldPlayerCounter ||
  h.allInPlayersCounter + 1 == h.nonFoldPlayerCounter &&
    ((h.runningPlayerList.any fun r => (h.players r).mySet ≥ h.getCurrentBeRo.highestSet) ||
      h.shortBigBlind || h.shortHeadsUpBigBlind)

def distributeOrDetect (h : Hand) : Hand :=
  if h.nonFoldPlayerCounter = 1 then h.collectPot.setCurrentRound .postRiver
  else if h.nonFoldPlayerCounter ≥ 2 ∧ h.detectAllIn then h.setAllInCondition
  else h

def advanceAllIn (h : Hand) : Hand :=
  if h.allInCondition ∧ h.nonFoldPlayerCounter ≥ 2 then h.collectPot.setCurrentRound h.currentRound.next
  else h

def noteRound (h : Hand) : Hand :=
  if h.currentRound ≠ .postRiver then { h with roundBeforePostRiver := h.currentRound } else h

def switchRounds (h : Hand) : Hand :=
  h.refreshRunningPlayerList.distributeOrDetect.advanceAllIn.noteRound

end Hand

end PokerTH
