import PokerTH.HandRun

namespace PokerTH

inductive NetGameState
  | round (state : GameState)
  | preflopSmallBlind | preflopBigBlind
  deriving DecidableEq, Repr

structure PlayersActionDoneMessage where
  playerId : Nat
  gameState : NetGameState
  playerAction : PlayerAction
  totalPlayerBet : Int
  playerMoney : Int
  highestSet : Int
  minimumRaise : Int
  deriving DecidableEq, Repr

structure PlayerResult where
  playerId : Nat
  cardsValue : Option Int
  moneyWon : Int
  playerMoney : Int
  deriving DecidableEq, Repr

/-- What the server tells the clients between two hand starts. `dealCards` is the message of the round's cards. -/
inductive HandMsg
  | playersActionDone (done : PlayersActionDoneMessage)
  | playersTurn (playerId : Nat) (gameState : GameState)
  | dealCards (state : GameState)
  | allInShowCards (playersAllIn : List Nat)
  | endOfHandHideCards (playerId : Nat) (moneyWon playerMoney : Int)
  | endOfHandShowCards (playerResults : List PlayerResult)
  | afterHandShowCards (playerResult : PlayerResult)
  | playerIdChanged (oldPlayerId newPlayerId : Nat)
  deriving DecidableEq, Repr

inductive ClientError
  | unknownPlayerId | invalidBet
  deriving DecidableEq, Repr

inductive ClientState
  | runHand | waitHand
  deriving DecidableEq, Repr

structure Client where
  hand : Hand
  state : ClientState

namespace ClientHand

def newBeRo (dealerPosition : Nat) (smallBlind : Int) (gS : GameState) : BeRo where
  myBeRoID := gS
  dealerPosition := dealerPosition
  smallBlindPositionId := 0
  bigBlindPositionId := 0
  smallBlind := smallBlind
  highestSet := 0
  minimumRaise := 2 * smallBlind
  firstRound := true
  firstRunGui := true
  currentPlayersTurnId := 0
  firstRoundLastPlayersTurnId := 0

def clearPlayer (dealerPosition : Nat) (p : Player) : Player :=
  { p with
    myRoundStartCash := p.myCash
    myCardsValueInt := 0
    myButton := if p.myUniqueID = dealerPosition then .dealer else .none }

def create (t : Table) (dealerPosition : Nat) (smallBlind : Int) : Hand :=
  { t with
    players := updateAll t.players t.activePlayerList (clearPlayer dealerPosition)
    myBeRo := newBeRo dealerPosition smallBlind
    dealerPosition := dealerPosition
    smallBlindPosition := dealerPosition
    bigBlindPosition := dealerPosition
    currentRound := .preflop
    roundBeforePostRiver := .preflop
    smallBlind := smallBlind
    lastActionPlayerID := 0
    allInCondition := false
    cardsShown := false }

/-- `ClientBoard::collectPot` does not clear the sets of the seats. -/
def collectPot (h : Hand) : Hand := h.setBoard { h.board with pot := h.board.pot + h.board.sets, sets := 0 }

/-- `ClientHand::switchRounds` refreshes the running list alone. -/
def switchRounds (h : Hand) : Hand := h.refreshRunningPlayerList

end ClientHand

namespace Client

open Game (INT_MAX)

variable (c : Client)

def initHand (t : Table) (dealerPosition : Nat) (smallBlind : Int) : Client :=
  ⟨ClientHand.create (Game.clearTable t) dealerPosition smallBlind, .runHand⟩

def setHand (h : Hand) : Client := { c with hand := h }

def setPlayer (r : Ref) (f : Player → Player) : Client :=
  c.setHand (c.hand.setPlayers (updatePlayer c.hand.players r f))

def resetPlayerActions : Client :=
  c.setHand (c.hand.setPlayers (updateAll c.hand.players c.hand.activePlayerList fun p => p.setMyAction .none))

def resetPlayerSets : Client :=
  c.setHand (c.hand.setPlayers (updateAll c.hand.players c.hand.activePlayerList Player.setMySetNull))

def collectPot : Client := c.setHand (ClientHand.collectPot c.hand)

def noteBlind (tmpPlayer : Ref) : NetGameState → Client
  | .preflopSmallBlind =>
      (c.setHand (c.hand.setBeRo { c.hand.getCurrentBeRo with smallBlindPositionId := c.hand.uniqueID tmpPlayer })).setPlayer
        tmpPlayer fun p => p.setMyButton .smallBlind
  | .preflopBigBlind =>
      (c.setHand (c.hand.setBeRo { c.hand.getCurrentBeRo with bigBlindPositionId := c.hand.uniqueID tmpPlayer })).setPlayer
        tmpPlayer fun p => p.setMyButton .bigBlind
  | .round _ => c

/-- The bet of a message that is not about a blind is checked unless the action is none. -/
def invalidBet (tmpPlayer : Ref) (done : PlayersActionDoneMessage) : Bool :=
  match done.gameState with
  | .round _ =>
      done.playerAction != .none &&
        (decide (INT_MAX < done.totalPlayerBet) || decide (done.totalPlayerBet < (c.hand.players tmpPlayer).mySet))
  | _ => false

def acted (done : PlayersActionDoneMessage) (p : Player) : Player :=
  { (p.setMyAction done.playerAction).setMySetAbsolute done.totalPlayerBet with myCash := done.playerMoney }

def actionDone (done : PlayersActionDoneMessage) : Except ClientError Client :=
  match c.hand.getPlayerByUniqueId done.playerId with
  | none => .error .unknownPlayerId
  | some tmpPlayer =>
      if c.invalidBet tmpPlayer done then .error .invalidBet
      else
        let c := (c.noteBlind tmpPlayer done.gameState).setPlayer tmpPlayer (acted done)
        .ok (c.setHand (ClientHand.switchRounds
          ((c.hand.setHighestSet done.highestSet).setMinimumRaise done.minimumRaise).collectSets))

/-- A turn message of another round starts the round on the client. -/
def setRound (gameState : GameState) : Client :=
  if c.hand.currentRound ≠ gameState then
    let c := c.resetPlayerActions
    c.setHand (c.hand.setCurrentRound gameState)
  else c

def playersTurn (playerId : Nat) (gameState : GameState) : Except ClientError Client :=
  match c.hand.getPlayerByUniqueId playerId with
  | none => .error .unknownPlayerId
  | some tmpPlayer =>
      let c := c.setRound gameState
      .ok (c.setHand (c.hand.setCurrentPlayersTurnId tmpPlayer))

def dealCards : Client :=
  let c := c.collectPot
  (c.setHand (c.hand.setHighestSet 0)).resetPlayerSets

def allInShowCards (playersAllIn : List Nat) : Except ClientError Client :=
  if playersAllIn.all fun id => (c.hand.getPlayerByUniqueId id).isSome then
    .ok (c.setHand { c.hand with allInCondition := true })
  else .error .unknownPlayerId

def payOut (winners showList : List Nat) (board : Board) : Board :=
  { board with pot := 0, winners := winners, playerNeedToShowCards := showList }

def endOfHandHideCards (playerId : Nat) (moneyWon playerMoney : Int) : Except ClientError Client :=
  let c := c.collectPot.resetPlayerSets
  match c.hand.getPlayerByUniqueId playerId with
  | none => .error .unknownPlayerId
  | some tmpPlayer =>
      let c := c.setPlayer tmpPlayer fun p => { p with myCash := playerMoney, lastMoneyWon := moneyWon }
      let board := payOut [c.hand.uniqueID tmpPlayer] c.hand.board.playerNeedToShowCards c.hand.board
      .ok { c.setHand (c.hand.setBoard board) with state := .waitHand }

def setResult (result : PlayerResult) (p : Player) : Player :=
  { p with
    myCardsValueInt := result.cardsValue.getD p.myCardsValueInt
    myCash := result.playerMoney
    lastMoneyWon := result.moneyWon }

def playerResult (result : PlayerResult) : Except ClientError Client :=
  match c.hand.getPlayerByUniqueId result.playerId with
  | none => .error .unknownPlayerId
  | some tmpPlayer => .ok (c.setPlayer tmpPlayer (setResult result))

/-- Here a cards value of zero counts as none. -/
def afterHandShowCards (result : PlayerResult) : Except ClientError Client :=
  c.playerResult { result with cardsValue := result.cardsValue.filter fun v => v ≠ 0 }

def endOfHandShowCards (playerResults : List PlayerResult) : Except ClientError Client :=
  (playerResults.foldlM playerResult c.collectPot.resetPlayerSets).map fun c =>
    let winners := (playerResults.filter fun result => result.moneyWon ≠ 0).map PlayerResult.playerId
    let board := payOut winners (playerResults.map PlayerResult.playerId) c.hand.board
    { c.setHand ((c.hand.setCurrentRound .postRiver).setBoard board) with state := .waitHand }

def playerIdChanged (oldPlayerId newPlayerId : Nat) : Except ClientError Client :=
  match c.hand.getPlayerByUniqueId oldPlayerId with
  | none => .error .unknownPlayerId
  | some tmpPlayer => .ok (c.setPlayer tmpPlayer fun p => { p with myUniqueID := newPlayerId })

/-- Each state of a client ignores the messages of the other. -/
def handlePacket (c : Client) (msg : HandMsg) : Except ClientError Client :=
  match c.state, msg with
  | .runHand, .playersActionDone done => c.actionDone done
  | .runHand, .playersTurn playerId gameState => c.playersTurn playerId gameState
  | .runHand, .dealCards _ => .ok c.dealCards
  | .runHand, .allInShowCards playersAllIn => c.allInShowCards playersAllIn
  | .runHand, .endOfHandHideCards playerId moneyWon playerMoney => c.endOfHandHideCards playerId moneyWon playerMoney
  | .runHand, .endOfHandShowCards playerResults => c.endOfHandShowCards playerResults
  | .waitHand, .afterHandShowCards result => c.afterHandShowCards result
  | .waitHand, .playerIdChanged oldPlayerId newPlayerId => c.playerIdChanged oldPlayerId newPlayerId
  | _, _ => .ok c

def handlePackets (c : Client) (msgs : List HandMsg) : Except ClientError Client := msgs.foldlM handlePacket c

end Client

end PokerTH
