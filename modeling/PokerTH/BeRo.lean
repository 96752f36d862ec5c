import PokerTH.Hand

namespace PokerTH.Hand

def setFirstRound (h : Hand) (b : Bool) : Hand := h.setBeRo { h.getCurrentBeRo with firstRound := b }

def setFirstRoundLastPlayersTurnId (h : Hand) (uniqueId : Nat) : Hand :=
  h.setBeRo { h.getCurrentBeRo with firstRoundLastPlayersTurnId := uniqueId }

def setFirstRunGui (h : Hand) (b : Bool) : Hand := h.setBeRo { h.getCurrentBeRo with firstRunGui := b }

def allHighestSet (h : Hand) : Bool :=
  h.runningPlayerList.all fun r => h.getCurrentBeRo.highestSet == (h.players r).mySet

def clearActions (h : Hand) : Hand :=
  h.setPlayers (updateAll h.players h.runningPlayerList fun p => p.setMyAction .none)

/-- The running player before the small blind, or in heads up the small blind itself. -/
def lastBeforeSmallBlind (h : Hand) : Except EngineError Nat :=
  if h.activePlayerList.length > 2 then
    match h.getActivePlayerIt h.getCurrentBeRo.smallBlindPositionId with
    | none => .error .activePlayerNotFound
    | some sb =>
        match (Cyclic.before h.activePlayerList sb).findSome? fun r => h.getRunningPlayerIt (h.uniqueID r) with
        | none => .error .formerRunningPlayerNotFound
        | some it => .ok (h.uniqueID it)
  else .ok h.getCurrentBeRo.smallBlindPositionId

/-- In the first round of the betting every run starts over before the small blind. -/
def restartTurn (h : Hand) : Except EngineError Hand :=
  if h.getCurrentBeRo.firstRound then
    if h.allInCondition then .ok (h.setFirstRound false)
    else h.lastBeforeSmallBlind.map fun last =>
      (h.setFirstRoundLastPlayersTurnId last).setCurrentPlayersTurnId last
  else .ok h

def closeRound (h : Hand) : Hand :=
  let myBeRoID := h.getCurrentBeRo.myBeRoID
  let h := h.clearActions.collectSets.collectPot.switchRounds
  if h.currentRound ≠ .postRiver then h.setCurrentRound myBeRoID.next else h

def turnToNext (h : Hand) : Except EngineError Hand :=
  match h.getRunningPlayerIt h.getCurrentBeRo.currentPlayersTurnId with
  | none => .error .runningPlayerNotFound
  | some it => .ok (h.setCurrentPlayersTurnId (h.uniqueID (Cyclic.next h.runningPlayerList it)))

def endFirstRound (h : Hand) : Hand :=
  if h.getCurrentBeRo.currentPlayersTurnId = h.getCurrentBeRo.firstRoundLastPlayersTurnId then
    h.setFirstRound false
  else h

/-- `LocalBeRo::run`, the betting rounds after the flop. -/
def localRun (h : Hand) : Except EngineError Hand :=
  if h.getCurrentBeRo.firstRunGui then .ok (h.setFirstRunGui false)
  else do
    let h ← h.restartTurn
    if ¬ h.getCurrentBeRo.firstRound ∧ h.allHighestSet then return h.closeRound
    else
      let h ← h.turnToNext
      return h.endFirstRound

/-- The player before the first to act preflop, `none` when nobody is left to act in heads up. -/
def preflopLast (h : Hand) : Except EngineError (Option Nat) :=
  let b := h.getCurrentBeRo
  match h.getRunningPlayerIt b.bigBlindPositionId, h.getRunningPlayerIt b.smallBlindPositionId with
  | some _, _ => .ok (some b.bigBlindPositionId)
  | none, some _ => .ok (some b.smallBlindPositionId)
  | none, none =>
      if h.activePlayerList.length > 2 then
        match h.getActivePlayerIt b.smallBlindPositionId with
        | none => .error .activePlayerNotFound
        | some it => .ok (some (h.uniqueID (Cyclic.prev h.activePlayerList it)))
      else .ok none

def closePreflop (h : Hand) : Hand :=
  (h.setCurrentRound .flop).clearActions.collectSets.collectPot.switchRounds

def preflopTurn (h : Hand) : Except EngineError Hand :=
  h.turnToNext.map fun h' =>
    if ¬ h.getCurrentBeRo.firstRound ∧ h.allHighestSet then h'.closePreflop else h'.endFirstRound

/-- `LocalBeRoPreflop::run`. Here the starting turn is computed once. -/
def preflopRun (h : Hand) : Except EngineError Hand :=
  if h.getCurrentBeRo.firstRunGui then do
    match ← h.preflopLast with
    | none => return (h.setFirstRound false).setFirstRunGui false
    | some last =>
        (((h.setFirstRoundLastPlayersTurnId last).setCurrentPlayersTurnId last).setFirstRunGui false).preflopTurn
  else h.preflopTurn

def run (h : Hand) : Except EngineError Hand :=
  match h.currentRound with
  | .preflop => h.preflopRun
  | .postRiver => .ok h
  | _ => h.localRun

/-- The cards that `postRiverRun` finds on the table decide who gets the pot. -/
def postRiverRun (maxPlayers : Nat) (h : Hand) : Except EngineError Hand :=
  let board := Board.determinePlayerNeedToShowCards h.players h.activePlayerList h.board
  (Board.distributePot h.players h.seatsList maxPlayers h.getCurrentBeRo.dealerPosition board).map
    fun (players, board) => { h with players, board := { board with pot := 0 } }

def getPlayerByUniqueId (h : Hand) (id : Nat) : Option Ref := h.getSeatIt id

def getCurrentPlayer (h : Hand) : Except EngineError Ref :=
  match h.getPlayerByUniqueId h.getCurrentBeRo.currentPlayersTurnId with
  | none => .error .currentPlayerNotFound
  | some r => .ok r

end PokerTH.Hand
