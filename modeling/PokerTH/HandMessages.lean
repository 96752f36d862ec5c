import PokerTH.ClientHand
import PokerTH.MinimumRaise
import PokerTH.Runs

namespace PokerTH.Hand

variable (h : Hand) (r : Ref)

def actionDone (gameState : NetGameState) : HandMsg :=
  .playersActionDone
    { playerId := h.uniqueID r
      gameState := gameState
      playerAction := (h.players r).myAction
      totalPlayerBet := (h.players r).mySet
      playerMoney := (h.players r).myCash
      highestSet := h.getCurrentBeRo.highestSet
      minimumRaise := h.getCurrentBeRo.minimumRaise }

/-- `SendPlayerAction` -/
def sendPlayerAction : HandMsg := h.actionDone r (.round h.currentRound)

def autoBlind (button : Button) (gameState : NetGameState) : List HandMsg :=
  match h.activePlayerList.find? fun r => (h.players r).myButton == button with
  | some r => [h.actionDone r gameState]
  | none => []

def autoBlinds : List HandMsg :=
  h.autoBlind .smallBlind .preflopSmallBlind ++ h.autoBlind .bigBlind .preflopBigBlind

def sendNewRoundCards : List HandMsg :=
  match h.currentRound with
  | .flop | .turn | .river => [.dealCards h.currentRound]
  | .preflop | .postRiver => []

def nonFoldPlayers : List Ref := h.activePlayerList.filter fun r => (h.players r).myAction != .fold

/-- The messages about a new round. The cards come some time after the players of an all-in are shown. -/
def sendNewRound (allInShowCards : Bool) : List HandMsg :=
  (if allInShowCards then [.allInShowCards (h.nonFoldPlayers.map h.uniqueID)] else []) ++ h.sendNewRoundCards

def setPlayerResult (roundBeforePostRiver : GameState) : PlayerResult where
  playerId := h.uniqueID r
  cardsValue := if roundBeforePostRiver = .river then some (h.players r).myCardsValueInt else none
  moneyWon := (h.players r).lastMoneyWon
  playerMoney := (h.players r).myCash

def sendEndOfHand : HandMsg :=
  match h.nonFoldPlayers with
  | [r] => .endOfHandHideCards (h.uniqueID r) (h.players r).lastMoneyWon (h.players r).myCash
  | _ => .endOfHandShowCards
      ((h.board.playerNeedToShowCards.filterMap h.getPlayerByUniqueId).map fun r => h.setPlayerResult r .river)

def rejoinPlayer (newPlayerId : Nat) (guid : String) : Hand :=
  h.setPlayers (updatePlayer h.players r fun p =>
    { p with myUniqueID := newPlayerId, myGuid := guid, isSessionActive := true })

theorem sendNewRoundCards_of_lt {curRound : GameState} (hlt : curRound.toNat < h.currentRound.toNat)
    (hopen : h.currentRound ≠ .postRiver) : h.sendNewRoundCards = [.dealCards h.currentRound] := by
  simp only [sendNewRoundCards]
  split
  · rfl
  · rfl
  · rfl
  · next hround =>
      rw [hround] at hlt
      exact absurd hlt (Nat.not_lt_zero _)
  · next hround => exact absurd hround hopen

end PokerTH.Hand

namespace PokerTH.HandServer

open HandRun Hand

structure Sent where
  msg : HandMsg
  hand : Hand

def Sent.table (m : Sent) : Table := m.hand.toTable

def sent (h : Hand) (msg : HandMsg) : Sent := ⟨msg, h⟩

/-- What makes the server act: its loop timer, where the session of the player may be `connected` or not, the loop
timer followed by the one for computer players, a request, the action timer. After the hand a player may show his cards,
and players who come back get the id of their new session. -/
inductive Event
  | loopTimer (connected : Bool)
  | computerTimer (m : Mind)
  | request (id : Nat) (req : MyActionRequest)
  | actionTimer
  | showMyCards (id : Nat)
  | rejoin (r : Ref) (newPlayerId : Nat) (guid : String)

def loopTimer (maxPlayers : Nat) (t : Betting) (connected : Bool) : Option (ComputerRun.State × List Sent) :=
  match t.hand.engineLoop maxPlayers with
  | .ok (.nextRound h showCards) => some (⟨{ t with hand := h }, .loop⟩, (h.sendNewRound showCards).map (sent h))
  | .ok (.playersTurn h r) =>
      let turn := sent h (.playersTurn (h.uniqueID r) h.currentRound)
      if (h.players r).myType = .computer then none
      else if connected ∧ (h.players r).isSessionActive then some (⟨{ t with hand := h }, .waitPlayerAction⟩, [turn])
      else
        let h' := h.performPlayerAction r .fold 0
        some (⟨{ t with hand := h' }, .loop⟩, [turn, sent h' (h'.sendPlayerAction r)])
  | .ok (.endOfHand h) => some (⟨{ t with hand := h }, .handOver⟩, [sent h h.sendEndOfHand])
  | .error _ => none

def computerTimer (maxPlayers : Nat) (t : Betting) (m : Mind) : Option (ComputerRun.State × List Sent) :=
  match t.hand.engineLoop maxPlayers with
  | .ok (.playersTurn h r) =>
      if (h.players r).myType = .computer then
        let t' := ({ t with hand := h } : Betting).action r m
        some (⟨t', .loop⟩,
          [sent h (.playersTurn (h.uniqueID r) h.currentRound), sent t'.hand (t'.hand.sendPlayerAction r)])
      else none
  | _ => none

def request (t : Betting) (id : Nat) (req : MyActionRequest) : Option (ComputerRun.State × List Sent) :=
  match t.hand.getPlayerByUniqueId id with
  | none => none
  | some r =>
      match t.hand.handleMyAction r req with
      | .ok (.valid, _, h) => some (⟨{ t with hand := h }, .loop⟩, [sent h (h.sendPlayerAction r)])
      | _ => none

def actionTimer (t : Betting) : Option (ComputerRun.State × List Sent) :=
  match t.hand.getCurrentPlayer with
  | .ok r =>
      let h := t.hand.timeoutAction r
      some (⟨{ t with hand := h }, .loop⟩, [sent h (h.sendPlayerAction r)])
  | .error _ => none

def showMyCards (t : Betting) (id : Nat) : Option (ComputerRun.State × List Sent) :=
  (t.hand.getPlayerByUniqueId id).map fun r =>
    (⟨t, .handOver⟩, [sent t.hand (.afterHandShowCards (t.hand.setPlayerResult r t.hand.roundBeforePostRiver))])

def rejoin (t : Betting) (r : Ref) (newPlayerId : Nat) (guid : String) : ComputerRun.State × List Sent :=
  let h := t.hand.rejoinPlayer r newPlayerId guid
  (⟨{ t with hand := h }, .handOver⟩, [sent h (.playerIdChanged (t.hand.uniqueID r) newPlayerId)])

def fire (maxPlayers : Nat) (s : ComputerRun.State) : Event → Option (ComputerRun.State × List Sent)
  | .loopTimer connected => if s.phase = .loop then loopTimer maxPlayers s.betting connected else none
  | .computerTimer m => if s.phase = .loop then computerTimer maxPlayers s.betting m else none
  | .request id req => if s.phase = .waitPlayerAction then request s.betting id req else none
  | .actionTimer => if s.phase = .waitPlayerAction then actionTimer s.betting else none
  | .showMyCards id => if s.phase = .handOver then showMyCards s.betting id else none
  | .rejoin r newPlayerId guid => if s.phase = .handOver then some (rejoin s.betting r newPlayerId guid) else none

/-- Players come back to seats of the table, and the lobby gives each login an id of its own. -/
def Regular (s : ComputerRun.State) : Event → Prop
  | .rejoin r newPlayerId _ => r ∈ s.betting.hand.seatsList ∧
      ∀ q ∈ s.betting.hand.seatsList, s.betting.hand.uniqueID q ≠ newPlayerId
  | _ => True

def Sends (maxPlayers : Nat) (s : ComputerRun.State) (msgs : List Sent) (s' : ComputerRun.State) : Prop :=
  ∃ e, fire maxPlayers s e = some (s', msgs) ∧ Regular s e

end PokerTH.HandServer
