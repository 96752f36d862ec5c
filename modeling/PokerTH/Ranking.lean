import Mathlib.Data.List.Sort
import PokerTH.Game

namespace PokerTH

structure RankingData where
  dbid : Nat
  place : Int
  deriving DecidableEq, Repr

abbrev RankingMap := Nat → Option RankingData

structure PlayerRankingInfo where
  uniqueId : Nat
  cash : Int
  roundStartCash : Int
  deriving DecidableEq, Repr

namespace RankingMap

def setPlayerPlace (m : RankingMap) (playerId : Nat) (place : Int) : RankingMap :=
  match m playerId with
  | none => m
  | some data => Function.update m playerId (some { data with place })

/-- The entry is copied to the new id and then erased at the old one. -/
def replaceRankingPlayer (m : RankingMap) (oldPlayerId newPlayerId : Nat) : RankingMap :=
  match m oldPlayerId with
  | none => m
  | some data => Function.update (Function.update m newPlayerId (some data)) oldPlayerId none

/-- The loop over the removed players, `currentRankCounter` of whom have the current rank already. -/
def placeRemoved (m : RankingMap) (currentRank currentRankCounter : Int) : List PlayerRankingInfo → RankingMap
  | [] => m
  | [info] => m.setPlayerPlace info.uniqueId currentRank
  | info :: next :: rest =>
      let m := m.setPlayerPlace info.uniqueId currentRank
      let currentRankCounter := currentRankCounter + 1
      if info.roundStartCash < next.roundStartCash then
        placeRemoved m (max 1 (currentRank - currentRankCounter)) 0 (next :: rest)
      else placeRemoved m currentRank currentRankCounter (next :: rest)

end RankingMap

def rankingInfo (t : Table) (r : Ref) : PlayerRankingInfo :=
  ⟨(t.players r).myUniqueID, (t.players r).myCash, (t.players r).myRoundStartCash⟩

def updateRankingMap (t : Table) (m : RankingMap) : RankingMap :=
  let allPlayers := t.activePlayerList.map (rankingInfo t)
  let removedPlayers := allPlayers.filter fun info => info.cash < 1
  let stillActive := allPlayers.filter fun info => ¬ info.cash < 1
  let currentRank : Int := removedPlayers.length + stillActive.length
  let m := m.placeRemoved currentRank 0 (removedPlayers.mergeSort fun a b => a.roundStartCash ≤ b.roundStartCash)
  match stillActive with
  | [info] => m.setPlayerPlace info.uniqueId 1
  | _ => m

def initRankingMap (playerDataList : List PlayerData) (dbid : Nat → Nat) : RankingMap := fun id =>
  if playerDataList.any fun d => d.uniqueId == id then some ⟨dbid id, 0⟩ else none

/-- A session that has joined the running game to take its seat again. -/
structure RejoinSession where
  uniqueId : Nat
  guid : String
  oldGuid : String
  deriving DecidableEq, Repr

/-- A server game as far as the ranking sees it. `eliminations` notes down, for each hand, who went broke
in it and the cash each of them had at its start. -/
structure RankedGame where
  game : Game
  table : Table
  rankingMap : RankingMap
  rejoinPlayers : List RejoinSession
  handRunning : Bool
  eliminations : List (List (Ref × Int))

namespace RankedGame

def uniqueID (s : RankedGame) (r : Ref) : Nat := (s.table.players r).myUniqueID

/-- `owner id` is the seat of the player to whose name the id belongs. -/
def performRejoin (owner : Nat → Ref) (s : RankedGame) (session : RejoinSession) : RankedGame :=
  let r := owner session.uniqueId
  { s with
    game := s.game.replaceDealer (s.uniqueID r) session.uniqueId
    rankingMap := s.rankingMap.replaceRankingPlayer (s.uniqueID r) session.uniqueId
    table := { s.table with players := updatePlayer s.table.players r fun p =>
      { p with myUniqueID := session.uniqueId, myGuid := session.guid, isSessionActive := true } } }

def initRejoiningPlayers (owner : Nat → Ref) (present : RejoinSession → Bool) (s : RankedGame) : RankedGame :=
  (s.rejoinPlayers.filter present).foldl (performRejoin owner) { s with rejoinPlayers := [] }

/-- `connected` says of an id whether its session, or its computer player, is in the game. -/
def removeDisconnectedPlayers (connected : Nat → Bool) (t : Table) : Table :=
  { t with players := updateAll t.players t.seatsList fun p =>
      if connected p.myUniqueID then p
      else if p.isKicked ∨ p.myGuid = "" then { p with myCash := 0, myGuid := "", isSessionActive := false }
      else { p with isSessionActive := false } }

def removed (t : Table) : List (Ref × Int) :=
  (t.activePlayerList.filter fun r => (t.players r).myCash < 1).map fun r => (r, (t.players r).myRoundStartCash)

def playersWithCash (t : Table) : List Ref := t.activePlayerList.filter fun r => ¬ (t.players r).myCash < 1

structure HandPlayed (t t' : Table) : Prop where
  active : t'.activePlayerList = t.activePlayerList
  id : ∀ r, (t'.players r).myUniqueID = (t.players r).myUniqueID
  guid : ∀ r, (t'.players r).myGuid = (t.players r).myGuid
  start : ∀ r, (t'.players r).myRoundStartCash = (t.players r).myRoundStartCash
  cash : ∀ r ∈ t'.activePlayerList, 0 ≤ (t'.players r).myCash

def endHand (connected : Nat → Bool) (s : RankedGame) (t : Table) : RankedGame :=
  let t := removeDisconnectedPlayers connected t
  { s with
    table := t
    rankingMap := updateRankingMap t s.rankingMap
    handRunning := false
    eliminations := s.eliminations ++ [removed t] }

/-- The steps of a game from its first hand on: one of the `allowed` sessions rejoins, the next hand is dealt
if two players have chips, a hand is over. -/
inductive Step (owner : Nat → Ref) (seated : List Ref) (allowed : RankedGame → RejoinSession → Prop) :
    RankedGame → RankedGame → Prop
  | handleNewPlayer {s : RankedGame} {session : RejoinSession} (hseat : owner session.uniqueId ∈ seated)
      (hguid : (s.table.players (owner session.uniqueId)).myGuid = session.oldGuid) (hallowed : allowed s session) :
      Step owner seated allowed s { s with rejoinPlayers := s.rejoinPlayers ++ [session] }
  | startNewHand {s u : RankedGame} {g : Game} {h : Hand} {present : RejoinSession → Bool}
      {cardsValueInt : Nat → Nat} {elapsedMinutes : Int} (hover : s.handRunning = false)
      (hcash : 2 ≤ (playersWithCash s.table).length) (hrejoin : initRejoiningPlayers owner present s = u)
      (hdeal : u.game.initHand cardsValueInt elapsedMinutes u.table = .ok (g, h)) :
      Step owner seated allowed s { u with game := g, table := h.toTable, handRunning := true }
  | endHand {s : RankedGame} {t : Table} (connected : Nat → Bool) (hrunning : s.handRunning = true)
      (hplayed : HandPlayed s.table t) : Step owner seated allowed s (endHand connected s t)

def startGame (maxPlayers : Nat) (playerDataList : List PlayerData) (gameData : GameData) (dbid : Nat → Nat)
    (startDealerPlayerId : Nat) : Except EngineError RankedGame :=
  (Game.create maxPlayers playerDataList gameData ⟨startDealerPlayerId, playerDataList.length⟩).map fun (game, table) =>
    { game, table, rankingMap := initRankingMap playerDataList dbid, rejoinPlayers := [], handRunning := false,
      eliminations := [] }

structure Started (maxPlayers : Nat) (owner : Nat → Ref) (playerDataList : List PlayerData) (s : RankedGame) : Prop where
  room : playerDataList.length ≤ maxPlayers
  two : 2 ≤ playerDataList.length
  names : ∀ i d, playerDataList[i]? = some d → owner d.uniqueId = i
  cash : ∀ i < playerDataList.length, 0 < (s.table.players i).myCash
  created : ∃ gameData dbid startDealerPlayerId,
    startGame maxPlayers playerDataList gameData dbid startDealerPlayerId = .ok s

def seats (playerDataList : List PlayerData) : List Ref := List.range playerDataList.length

end RankedGame

end PokerTH
