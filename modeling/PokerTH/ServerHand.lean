import PokerTH.BeRo

namespace PokerTH

structure MyActionRequest where
  gameId : Nat
  gameState : Nat
  myAction : PlayerAction
  myRelativeBet : BitVec 32
  deriving DecidableEq, Repr

inductive EngineOutcome
  | nextRound (h : Hand) (allInShowCards : Bool)
  | playersTurn (h : Hand) (player : Ref)
  | endOfHand (h : Hand)

namespace Hand

def setMinimumRaise (h : Hand) (v : Int) : Hand := h.setBeRo { h.getCurrentBeRo with minimumRaise := v }

def setHighestSet (h : Hand) (v : Int) : Hand := h.setBeRo { h.getCurrentBeRo with highestSet := v }

def setMyAction (h : Hand) (player : Ref) (action : PlayerAction) : Hand :=
  h.setPlayers (updatePlayer h.players player fun p => p.setMyAction action)

def setMySet (h : Hand) (player : Ref) (bet : Int) : Hand :=
  h.setPlayers (updatePlayer h.players player fun p => p.setMySet bet)

/-- The minimum raise and the player of the last action, after the player's set has grown. -/
def noteRaise (h : Hand) (player : Ref) (action : PlayerAction) (bet : Int) : Hand :=
  let raise := (h.players player).mySet - h.getCurrentBeRo.highestSet
  match action with
  | .bet => (h.setMinimumRaise bet).setLastActionPlayerID (h.uniqueID player)
  | .raise =>
      (if raise > 0 then h.setMinimumRaise raise else h).setLastActionPlayerID (h.uniqueID player)
  | .allIn =>
      let h' := if raise > h.getCurrentBeRo.minimumRaise then h.setMinimumRaise raise else h
      if raise > 0 then h'.setLastActionPlayerID (h.uniqueID player) else h'
  | _ => h

def raiseHighestSet (h : Hand) (player : Ref) : Hand :=
  if (h.players player).mySet > h.getCurrentBeRo.highestSet then h.setHighestSet (h.players player).mySet
  else h

def performPlayerAction (h : Hand) (player : Ref) (action : PlayerAction) (bet : Int) : Hand :=
  let h := h.setMyAction player action
  if action ≠ .fold ∧ action ≠ .check then
    (((h.setMySet player bet).noteRaise player action bet).raiseHighestSet player).collectSets
  else h

/-- A client may omit the amount of a call or an all-in. -/
def fillInCall (highestSet : Int) (p : Player) (req : MyActionRequest) : MyActionRequest :=
  if req.myAction = .call ∧ req.myRelativeBet = 0 then
    if highestSet ≥ p.mySet + p.myCash then { req with myAction := .allIn }
    else { req with myRelativeBet := BitVec.ofInt 32 (highestSet - p.mySet) }
  else req

def fillInAllIn (p : Player) (req : MyActionRequest) : MyActionRequest :=
  if req.myAction = .allIn ∧ req.myRelativeBet = 0 then
    { req with myRelativeBet := BitVec.ofInt 32 p.myCash }
  else req

def fillIn (h : Hand) (player : Ref) (req : MyActionRequest) : MyActionRequest :=
  fillInAllIn (h.players player) (fillInCall h.getCurrentBeRo.highestSet (h.players player) req)

def checkMyAction (h : Hand) (player : Ref) (req : MyActionRequest) : Nat :=
  (h.players player).checkMyAction req.myAction req.myRelativeBet.toInt h.getCurrentBeRo.highestSet
    h.getCurrentBeRo.minimumRaise h.smallBlind

/-- The verdict on a request of the seat `tmpPlayer` while the turn is with `curPlayer`, together
with the request after the omitted values have been filled in. -/
def myActionCode (h : Hand) (curPlayer tmpPlayer : Ref) (req : MyActionRequest) :
    PlayerActionCode × MyActionRequest :=
  let filled := h.fillIn tmpPlayer req
  if h.currentRound.toNat ≠ req.gameState then (.invalidState, filled)
  else if h.uniqueID curPlayer ≠ h.uniqueID tmpPlayer then (.notYourTurn, filled)
  else if h.checkMyAction tmpPlayer filled ≠ 0 then (.notAllowed, filled)
  else (.valid, filled)

def setIsSessionActive (h : Hand) (player : Ref) (b : Bool) : Hand :=
  h.setPlayers (updatePlayer h.players player fun p => { p with isSessionActive := b })

/-- The handling of an action request of the seat `tmpPlayer` while the server waits for an action. -/
def handleMyAction (h : Hand) (tmpPlayer : Ref) (req : MyActionRequest) :
    Except EngineError (PlayerActionCode × MyActionRequest × Hand) :=
  h.getCurrentPlayer.map fun curPlayer =>
    let (code, filled) := h.myActionCode curPlayer tmpPlayer req
    if code = .valid then
      (code, filled, (h.setIsSessionActive tmpPlayer true).performPlayerAction tmpPlayer filled.myAction
        filled.myRelativeBet.toInt)
    else (code, filled, h)

def timeoutAction (h : Hand) (player : Ref) : Hand :=
  if h.getCurrentBeRo.highestSet = (h.players player).mySet then h.performPlayerAction player .check 0
  else h.performPlayerAction player .fold 0

def advance (h : Hand) : Except EngineError Hand :=
  if h.switchRounds.allInCondition then .ok h.switchRounds else h.switchRounds.run

/-- `EngineLoop` as far as the hand is concerned. -/
def engineLoop (maxPlayers : Nat) (h : Hand) : Except EngineError EngineOutcome := do
  let curRound := h.currentRound
  let h ← h.advance
  if h.currentRound ≠ curRound ∧ h.currentRound ≠ .postRiver then
    if h.currentRound.toNat ≤ curRound.toNat then .error .internalGameError
    else if h.allInCondition ∧ ¬ h.cardsShown ∧ h.nonFoldPlayerCounter > 1 then
      return .nextRound { h with cardsShown := true } true
    else return .nextRound h false
  else if h.currentRound ≠ .postRiver then
    if h.allInCondition then .error .internalGameError
    else
      let curPlayer ← h.getCurrentPlayer
      if (h.players curPlayer).myActiveStatus then return .playersTurn h curPlayer
      else .error .playerNotActive
  else return .endOfHand (← h.postRiverRun maxPlayers)

end Hand

end PokerTH
