import PokerTH.Computer
import PokerTH.Game

namespace PokerTH

inductive GameType
  | normal | registeredOnly | inviteOnly | ranking
  deriving DecidableEq, Repr

inductive ServerMode
  | lan | internetNoAuth | internetAuth
  deriving DecidableEq, Repr

structure PlayerSession where
  id : Nat
  uniqueId : Nat
  name : String
  guid : String
  oldGuid : String
  isGameAdmin : Bool
  ready : Bool
  deriving DecidableEq, Repr

structure Participant where
  uniqueId : Nat
  type : PlayerType
  name : String
  guid : String
  deriving DecidableEq, Repr

inductive ServerState
  | init | startGame | hand | waitPlayerAction | waitNextHand | final
  deriving DecidableEq, Repr

inductive Timer
  | adminWarning | adminTimeout | startTimeout | loop | showCards | computerAction
  | nextGame (winnerPlayerId : Nat)
  | playerTimeout | nextHand
  deriving DecidableEq, Repr

def Timer.state : Timer → ServerState
  | .adminWarning | .adminTimeout => .init
  | .startTimeout => .startGame
  | .loop | .showCards | .computerAction | .nextGame _ => .hand
  | .playerTimeout => .waitPlayerAction
  | .nextHand => .waitNextHand

structure Playing where
  game : Game
  names : Ref → String
  betting : Betting

/-- A game of the server. The admin notices are the players whom the messages about its admin have named. -/
structure ServerGame where
  id : Nat
  mode : ServerMode
  gameType : GameType
  gameData : GameData
  adminPlayerId : Nat
  adminNotices : List Nat
  state : ServerState
  timer1 : Option Timer
  timer2 : Bool
  sessions : List PlayerSession
  computerPlayers : List Participant
  numJoinsPerPlayer : String → Nat
  rejoinPlayers : List Nat
  reactivatePlayers : List Nat
  autoLeavePlayers : List Nat
  curUniquePlayerId : Nat
  gameNum : Nat
  playing : Option Playing

def MAX_NUMBER_OF_PLAYERS : Nat := 2
def MAX_SAFE_PLAYER_ID : Nat := 2 ^ 32 - 1 - 1000
def MAX_SAFE_GAME_NUM : Nat := 2 ^ 32 - 1 - 1000
def GAME_MAX_NUM_JOINS_PER_PLAYER : Nat := 6
def SERVER_GAME_AUTOFOLD_TIMEOUT_FACTOR : Int := 30
def SERVER_GAME_FORCED_TIMEOUT_FACTOR : Int := 60

/-- The packets that a client can send to its game, with what their handlers read. All packets that no state
knows are `other`. -/
inductive GameMsg
  | playerInfoRequest | avatarRequest | subscriptionRequest | reportAvatar | reportGame | joinExistingGame
  | leaveGameRequest
  | kickPlayerRequest (gameId playerId : Nat)
  | askKickPlayer (playerId : Nat)
  | voteKickRequest (petitionId : Nat)
  | chatRequest
  | startEvent (gameId : Nat) (rejoin fillWithComputerPlayers : Bool)
  | invitePlayerToGame (playerId : Nat)
  | resetTimeout | adminRemoveGame | adminBanPlayer | startEventAck
  | myActionRequest (req : MyActionRequest)
  | showMyCardsRequest
  | other
  deriving DecidableEq, Repr

inductive ServerError
  | engine (e : EngineError)
  | unknownPlayerId | serverFull | invalidState
  deriving DecidableEq, Repr

/-- What the server draws or measures while it runs a game. -/
structure Draws where
  shuffle : List Participant → List Participant
  dealerPos : Nat → Nat
  cardsValueInt : Nat → Nat
  elapsedMinutes : Int
  secsSinceAction : Ref → Int
  encrypts : Nat → Bool
  mind : Mind
  shuffle_perm : ∀ l, (shuffle l).Perm l
  dealerPos_lt : ∀ n, 0 < n → dealerPos n < n

namespace ServerGame

variable (g : ServerGame)

def players : List Participant :=
  (g.sessions.map fun s => ⟨s.uniqueId, .human, s.name, s.guid⟩) ++ g.computerPlayers

def getSession (uniqueId : Nat) : Option PlayerSession := g.sessions.find? fun s => s.uniqueId == uniqueId

def isPlayerConnected (uniqueId : Nat) : Bool := (g.getSession uniqueId).isSome

def registerAdminTimer : ServerGame :=
  if g.mode ≠ .lan ∧ g.gameType ≠ .ranking then { g with timer1 := some .adminWarning } else g

/-- The exit of the old state cancels its timers. -/
def exit : ServerGame :=
  match g.state with
  | .final => g
  | .init => { g with timer1 := none, timer2 := false }
  | _ => { g with timer1 := none }

def enter : ServerGame :=
  match g.state with
  | .init => g.registerAdminTimer
  | .startGame => { g with timer1 := some .startTimeout }
  | .hand => { g with timer1 := some .loop }
  | .waitPlayerAction =>
      if g.gameData.playerActionTimeoutSec > 0 then { g with timer1 := some .playerTimeout } else g
  | .waitNextHand => { g with timer1 := some .nextHand }
  | .final => g

def setState (state : ServerState) : ServerGame := { g.exit with state }.enter

def notifyGameAdminChanged : ServerGame :=
  if g.state = .init then { g with timer1 := none }.registerAdminTimer else g

def notifySessionRemoved : ServerGame := if g.state = .init then { g with timer2 := false } else g

def setAdmin (newAdmin : PlayerSession) : ServerGame :=
  { g with
    adminPlayerId := newAdmin.uniqueId
    adminNotices := g.adminNotices ++ [newAdmin.uniqueId]
    sessions := g.sessions.map fun s => if s.id = newAdmin.id then { s with isGameAdmin := true } else s }

def removePlayerData (s : PlayerSession) : ServerGame :=
  let g' :=
    if s.isGameAdmin then
      match (g.sessions.filter fun p => p.uniqueId ≠ s.uniqueId).head? with
      | none => g
      | some newAdmin => (g.setAdmin newAdmin).notifyGameAdminChanged
    else g
  g'.notifySessionRemoved

def eraseSession (sid : Nat) : ServerGame := { g with sessions := g.sessions.filter fun s => s.id ≠ sid }

def removeSession (sid : Nat) : ServerGame :=
  match g.sessions.find? fun s => s.id == sid with
  | none => g
  | some s => (g.eraseSession sid).removePlayerData s

def moveSessionToLobby (sid : Nat) : ServerGame := g.removeSession sid

def sessionError (sid : Nat) : ServerGame := g.removeSession sid

def removePlayer (playerId : Nat) : ServerGame :=
  match g.getSession playerId with
  | none => g
  | some s => g.sessionError s.id

def removeAllSessions : ServerGame := { g with sessions := [] }.setState .final

def modifyTable (f : Table → Players) : ServerGame :=
  { g with playing := g.playing.map fun p =>
      { p with betting := { p.betting with hand := p.betting.hand.setPlayers (f p.betting.hand.toTable) } } }

def updateByUniqueId (uniqueId : Nat) (f : Player → Player) (t : Table) : Players :=
  match findPlayer t.players t.seatsList uniqueId with
  | none => t.players
  | some r => updatePlayer t.players r f

def markAsKicked (p : Player) : Player := { p with isKicked := true, myGuid := "" }

def kickSession (playerId : Nat) : ServerGame :=
  match g.getSession playerId with
  | none => g
  | some s => g.moveSessionToLobby s.id

def kickPlayer (playerId : Nat) : ServerGame :=
  (g.modifyTable (updateByUniqueId playerId markAsKicked)).kickSession playerId

def acceptNewSession (s : PlayerSession) : ServerGame :=
  let s := { s with isGameAdmin := decide (s.uniqueId = g.adminPlayerId) }
  { g with sessions := List.orderedInsert (fun p q => p.id ≤ q.id) s g.sessions }

def addPlayerToNumJoinsPerPlayer (name : String) : ServerGame :=
  { g with numJoinsPerPlayer := Function.update g.numJoinsPerPlayer name (g.numJoinsPerPlayer name + 1) }

def getPlayerByName (p : Playing) (name : String) : Option Ref :=
  if name = "" then none else p.betting.hand.seatsList.find? fun r => p.names r == name

def mayRejoin (s : PlayerSession) : Bool :=
  g.playing.any fun p => (getPlayerByName p s.name).any fun r => (p.betting.hand.players r).myGuid == s.oldGuid

def handleNewPlayer (s : PlayerSession) : ServerGame :=
  match g.state with
  | .init =>
      if g.players.length ≥ g.gameData.maxNumberOfPlayers ∨
          g.numJoinsPerPlayer s.name ≥ GAME_MAX_NUM_JOINS_PER_PLAYER then g
      else
        let g' := (g.addPlayerToNumJoinsPerPlayer s.name).acceptNewSession s
        if g'.players.length = g.gameData.maxNumberOfPlayers ∧ g.mode ≠ .lan then { g' with timer2 := true } else g'
  | .hand | .waitPlayerAction | .waitNextHand =>
      if g.mayRejoin s then
        let g' := g.acceptNewSession s
        { g' with rejoinPlayers := g'.rejoinPlayers ++ [s.uniqueId] }
      else g
  | .startGame | .final => g

def addComputerPlayer (i : Nat) : Except ServerError ServerGame :=
  if g.curUniquePlayerId ≥ MAX_SAFE_PLAYER_ID then .error .serverFull
  else .ok { g with
    curUniquePlayerId := g.curUniquePlayerId + 1
    computerPlayers := g.computerPlayers ++ [⟨g.curUniquePlayerId + 1, .computer, "Computer" ++ toString i, ""⟩] }

def addComputerPlayers : Nat → Nat → ServerGame → Except ServerError ServerGame
  | 0, _, g => .ok g
  | n + 1, i, g => do addComputerPlayers n (i + 1) (← g.addComputerPlayer i)

def remainingSlots : Nat := (g.gameData.maxNumberOfPlayers - g.players.length).toNat

def sendStartEvent (fillWithComputerPlayers : Bool) : Except ServerError ServerGame :=
  (if fillWithComputerPlayers then addComputerPlayers g.remainingSlots 1 g else .ok g).map
    fun g => g.setState .startGame

/-- The game between two hands: its players' objects are in no hand. -/
structure Interval where
  server : ServerGame
  game : Game
  names : Ref → String
  table : Table

namespace Interval

variable (v : Interval)

def reactivatePlayers : Interval :=
  let reactivate (t : Table) (uniqueId : Nat) : Table :=
    { t with players := updateByUniqueId uniqueId (fun p => { p with isSessionActive := true }) t }
  { v with
    server := { v.server with reactivatePlayers := [] }
    table := v.server.reactivatePlayers.foldl reactivate v.table }

def getPlayerByName (name : String) : Option Ref :=
  if name = "" then none else v.table.seatsList.find? fun r => v.names r == name

def performRejoin (s : PlayerSession) : Interval :=
  match v.getPlayerByName s.name with
  | none => { v with server := v.server.sessionError s.id }
  | some r =>
      { v with
        game := v.game.replaceDealer (v.table.players r).myUniqueID s.uniqueId
        table := { v.table with players := updatePlayer v.table.players r fun p =>
          { p with myUniqueID := s.uniqueId, myGuid := s.guid, isSessionActive := true } } }

def rejoin (uniqueId : Nat) : Interval :=
  match v.server.getSession uniqueId with
  | none => v
  | some s => v.performRejoin s

def initRejoiningPlayers : Interval :=
  v.server.rejoinPlayers.foldl rejoin { v with server := { v.server with rejoinPlayers := [] } }

def checkTimeout (secsSinceAction : Ref → Int) (v : Interval) (r : Ref) : Interval :=
  let p := v.table.players r
  let timeout := v.server.gameData.playerActionTimeoutSec
  if p.myType = .human ∧ secsSinceAction r ≥ timeout * SERVER_GAME_AUTOFOLD_TIMEOUT_FACTOR then
    let t : Table := { v.table with players := updatePlayer v.table.players r fun p => { p with isSessionActive := false } }
    if secsSinceAction r ≥ timeout * SERVER_GAME_FORCED_TIMEOUT_FACTOR then
      { v with
        server := v.server.kickSession p.myUniqueID
        table := { t with players := updateByUniqueId p.myUniqueID markAsKicked t } }
    else { v with table := t }
  else v

def checkPlayerTimeouts (secsSinceAction : Ref → Int) : Interval :=
  if v.server.gameData.playerActionTimeoutSec ≠ 0 then v.table.activePlayerList.foldl (checkTimeout secsSinceAction) v
  else v

/-- A session whose cards cannot be encrypted is thrown out. -/
def sendCards (encrypts : Nat → Bool) (server : ServerGame) (uniqueId : Nat) : ServerGame :=
  match server.getSession uniqueId with
  | none => server
  | some s => if encrypts s.id then server else server.removePlayer uniqueId

def startNewHand (d : Draws) : Except ServerError ServerGame :=
  let v := (v.reactivatePlayers.initRejoiningPlayers).checkPlayerTimeouts d.secsSinceAction
  match v.game.initHand d.cardsValueInt d.elapsedMinutes v.table with
  | .error e => .error (.engine e)
  | .ok (game, h) =>
      let server := (h.seatsList.map h.uniqueID).foldl (sendCards d.encrypts) v.server
      .ok { server with
        playing := some ⟨game, v.names, ⟨h.skipFirstRunGui.start, fun _ => false⟩⟩ }

end Interval

def Participant.data (p : Participant) : PlayerData := ⟨p.uniqueId, p.type, p.guid, -1⟩

/-- `InternalStartGame` for two players or more. -/
def internalStartGame (d : Draws) : Except ServerError Interval :=
  let order := d.shuffle g.players
  let dealer := ((order[d.dealerPos order.length]?).map fun p => p.uniqueId).getD 0
  if g.gameNum ≥ MAX_SAFE_GAME_NUM then .error .serverFull
  else
    match Game.create MAX_NUMBER_OF_PLAYERS (order.map Participant.data) g.gameData ⟨dealer, order.length⟩ with
    | .error e => .error (.engine e)
    | .ok (game, table) =>
        .ok ⟨{ g with gameNum := g.gameNum + 1 }, game,
          fun r => ((order[r]?).map fun p => p.name).getD "", table⟩

def doStart (d : Draws) : Except ServerError ServerGame :=
  if g.players.length ≤ 1 then
    match g.players.head? with
    | none => .ok g
    | some p => .ok (g.kickSession p.uniqueId)
  else do
    let v ← g.internalStartGame d
    let g ← v.startNewHand d
    return g.setState .hand

def removeAutoLeavePlayers : ServerGame :=
  g.autoLeavePlayers.foldl kickSession { g with autoLeavePlayers := [] }

def internalEndGame : ServerGame := { g with playing := none, numJoinsPerPlayer := fun _ => 0 }

def reopen : ServerGame := { g.removeAutoLeavePlayers with computerPlayers := [] }.setState .init

def isComputerPlayerActive (uniqueId : Nat) : Bool := g.computerPlayers.any fun p => p.uniqueId == uniqueId

def isDisconnected (p : Player) : Bool :=
  match p.myType with
  | .human => ¬ g.isPlayerConnected p.myUniqueID
  | .computer => ¬ g.isComputerPlayerActive p.myUniqueID

def removeDisconnected (p : Player) : Player :=
  if g.isDisconnected p then
    let p := if p.isKicked ∨ p.myGuid = "" then { p with myCash := 0, myGuid := "" } else p
    { p with isSessionActive := false }
  else p

def endOfHand (p : Playing) (h : Hand) : ServerGame :=
  let h := h.setPlayers (updateAll h.players h.seatsList g.removeDisconnected)
  let g := { g with playing := some { p with betting := { p.betting with hand := h } } }
  match h.activePlayerList.filter fun r => (h.players r).myCash ≥ 1 with
  | [] => g.internalEndGame.reopen
  | [winner] => { g.internalEndGame with timer1 := some (.nextGame (h.uniqueID winner)) }
  | _ => g.setState .waitNextHand

def setHand (p : Playing) (h : Hand) : ServerGame :=
  { g with playing := some { p with betting := { p.betting with hand := h } } }

def engineLoop (p : Playing) : Except ServerError ServerGame :=
  match p.betting.hand.engineLoop MAX_NUMBER_OF_PLAYERS with
  | .error e => .error (.engine e)
  | .ok (.nextRound h showCards) =>
      .ok { g.setHand p h with timer1 := some (if showCards then .showCards else .loop) }
  | .ok (.playersTurn h r) =>
      let curPlayer := h.players r
      if curPlayer.myType = .computer then .ok { g.setHand p h with timer1 := some .computerAction }
      else if ¬ g.isPlayerConnected curPlayer.myUniqueID ∨ ¬ curPlayer.isSessionActive then
        .ok { g.setHand p (h.performPlayerAction r .fold 0) with timer1 := some .loop }
      else .ok ((g.setHand p h).setState .waitPlayerAction)
  | .ok (.endOfHand h) => .ok (g.endOfHand p h)

def addReactivatePlayer (uniqueId : Nat) : ServerGame :=
  { g with reactivatePlayers := g.reactivatePlayers ++ [uniqueId] }

def setReadyFlag (sid : Nat) : ServerGame :=
  { g with sessions := g.sessions.map fun s => if s.id = sid then { s with ready := true } else s }

def resetAllReadyFlags : ServerGame := { g with sessions := g.sessions.map fun s => { s with ready := false } }

def allReady : Bool := (g.sessions.countP fun s => s.ready) == g.sessions.length

def myAction (p : Playing) (s : PlayerSession) (req : MyActionRequest) : Except ServerError ServerGame :=
  let h := p.betting.hand
  match h.getPlayerByUniqueId s.uniqueId with
  | none => .error .unknownPlayerId
  | some tmpPlayer =>
      match h.handleMyAction tmpPlayer req with
      | .error e => .error (.engine e)
      | .ok (code, _, h) => if code = .valid then .ok ((g.setHand p h).setState .hand) else .ok g

def internalProcessPacket (d : Draws) (s : PlayerSession) (msg : GameMsg) : Except ServerError ServerGame :=
  match g.state, msg with
  | .init, .startEvent gameId rejoin fill =>
      if s.isGameAdmin ∧ gameId = g.id ∧ ¬ rejoin ∧
          (g.gameType ≠ .ranking ∨ g.gameData.maxNumberOfPlayers = g.players.length) then g.sendStartEvent fill
      else .ok (g.moveSessionToLobby s.id)
  | .init, .invitePlayerToGame _ | .init, .adminRemoveGame | .init, .adminBanPlayer => .ok g
  | .init, .resetTimeout => .ok (if s.isGameAdmin then g.registerAdminTimer else g)
  | .init, _ => .ok (g.sessionError s.id)
  | .startGame, .startEventAck =>
      let g := g.setReadyFlag s.id
      if g.allReady then g.resetAllReadyFlags.doStart d else .ok g
  | .hand, .resetTimeout | .waitPlayerAction, .resetTimeout | .waitNextHand, .resetTimeout =>
      .ok (g.addReactivatePlayer s.uniqueId)
  | .waitPlayerAction, .myActionRequest req =>
      if req.gameId ≠ g.id then .ok g
      else
        match g.playing with
        | none => .error .invalidState
        | some p => g.myAction p s req
  | .waitNextHand, .showMyCardsRequest => if g.playing.isSome then .ok g else .error .invalidState
  | _, _ => .ok g

/-- Votes, chat and everything that is left to the lobby do not touch the game. What the lobby then does to the
game is an event of its own. -/
def handlePacket (d : Draws) (s : PlayerSession) (msg : GameMsg) : Except ServerError ServerGame :=
  match g.state, msg with
  | .final, _ => .ok g
  | _, .leaveGameRequest => .ok (g.moveSessionToLobby s.id)
  | _, .kickPlayerRequest gameId playerId =>
      if s.isGameAdmin ∧ g.playing.isNone ∧ gameId = g.id ∧ g.gameType ≠ .ranking then .ok (g.kickPlayer playerId)
      else .ok g
  | _, .playerInfoRequest | _, .avatarRequest | _, .subscriptionRequest | _, .reportAvatar | _, .reportGame
  | _, .joinExistingGame | _, .askKickPlayer _ | _, .voteKickRequest _ | _, .chatRequest => .ok g
  | _, _ => g.internalProcessPacket d s msg

/-- A handler that throws closes the game. -/
def dispatchPacket (d : Draws) (s : PlayerSession) (msg : GameMsg) : ServerGame :=
  match g.handlePacket d s msg with
  | .ok g' => g'
  | .error _ => g.removeAllSessions

def handleTimer (d : Draws) (timer : Timer) : Except ServerError ServerGame :=
  if timer.state ≠ g.state then .ok g
  else
    match timer, g.playing with
    | .adminWarning, _ => .ok { g with timer1 := some .adminTimeout }
    | .adminTimeout, _ => .ok (g.kickSession g.adminPlayerId)
    | .startTimeout, _ => g.resetAllReadyFlags.doStart d
    | .nextGame _, _ => .ok g.reopen
    | _, none => .error .invalidState
    | .loop, some p => g.engineLoop p
    | .showCards, some _ => .ok { g with timer1 := some .loop }
    | .computerAction, some p =>
        match p.betting.hand.getCurrentPlayer with
        | .error e => .error (.engine e)
        | .ok r => g.engineLoop { p with betting := p.betting.action r d.mind }
    | .playerTimeout, some p =>
        match p.betting.hand.getCurrentPlayer with
        | .error e => .error (.engine e)
        | .ok r => .ok ((g.setHand p (p.betting.hand.timeoutAction r)).setState .hand)
    | .nextHand, some p => do
        let g ← Interval.startNewHand ⟨g, p.game, p.names, p.betting.hand.toTable⟩ d
        return g.setState .hand

/-- An exception of a timer closes the game, either in its handler or as the server goes down. -/
def fireTimer (d : Draws) (timer : Timer) : ServerGame :=
  match { g with timer1 := none }.handleTimer d timer with
  | .ok g' => g'
  | .error _ => g.removeAllSessions

end ServerGame

/-- What happens to a server game: a packet of one of its sessions, a session from the lobby, a session that the
lobby or the network takes away, a vote that kicks a player, a player that the lobby mutes out of the hand, a
timer, or its end. -/
inductive ServerGame.Event
  | packet (sid : Nat) (msg : GameMsg) (d : Draws)
  | newPlayer (s : PlayerSession) (autoLeave : Bool)
  | removeSession (sid : Nat)
  | kickPlayer (playerId : Nat)
  | markPlayerAsInactive (playerId : Nat)
  | timer1 (d : Draws)
  | timer2
  | newPlayerId
  | removeAllSessions

namespace ServerGame

def setPlayerAutoLeaveOnFinish (g : ServerGame) (uniqueId : Nat) : ServerGame :=
  { g with autoLeavePlayers := g.autoLeavePlayers ++ [uniqueId] }

def fire (g : ServerGame) : Event → Option ServerGame
  | .packet sid msg d => (g.sessions.find? fun s => s.id == sid).map fun s => g.dispatchPacket d s msg
  | .newPlayer s autoLeave =>
      if g.sessions.any fun p => p.id == s.id || p.uniqueId == s.uniqueId then none
      else if autoLeave then some ((g.handleNewPlayer s).setPlayerAutoLeaveOnFinish s.uniqueId)
      else some (g.handleNewPlayer s)
  | .removeSession sid => some (g.removeSession sid)
  | .kickPlayer playerId => some (g.kickPlayer playerId)
  | .markPlayerAsInactive playerId =>
      some (g.modifyTable (updateByUniqueId playerId fun p => { p with isSessionActive := false }))
  | .timer1 d => g.timer1.map fun timer => g.fireTimer d timer
  | .timer2 =>
      if g.timer2 ∧ g.state = .init then
        match { g with timer2 := false }.sendStartEvent false with
        | .ok g' => some g'
        | .error _ => some g.removeAllSessions
      else none
  | .newPlayerId => some { g with curUniquePlayerId := g.curUniquePlayerId + 1 }
  | .removeAllSessions => some g.removeAllSessions

def RANKING_GAME_START_CASH : Int := 10000
def RANKING_GAME_NUMBER_OF_PLAYERS : Int := 2
def RANKING_GAME_START_SBLIND : Int := 50
def RANKING_GAME_RAISE_EVERY_HAND : Int := 11

def checkSettings (gameType : GameType) (data : GameData) (password : String) (mode : ServerMode) : Bool :=
  (mode = .lan ∨ (5 ≤ data.playerActionTimeoutSec ∧ data.playerActionTimeoutSec ≤ 60)) ∧
    2 ≤ data.maxNumberOfPlayers ∧ data.maxNumberOfPlayers ≤ MAX_NUMBER_OF_PLAYERS ∧
    1 ≤ data.firstSmallBlind ∧ 1 ≤ data.startMoney ∧
    (data.raiseIntervalMode = .raiseOnHandNumber → 1 ≤ data.raiseSmallBlindEveryHandsValue) ∧
    (data.raiseIntervalMode = .raiseOnMinutes → 1 ≤ data.raiseSmallBlindEveryMinutesValue) ∧
    (data.raiseMode = .manualBlindsOrder → data.manualBlindsList ≠ []) ∧
    (data.afterManualBlindsMode = .raiseAbout → 1 ≤ data.afterMBAlwaysRaiseValue) ∧
    (gameType = .ranking →
      data.startMoney = RANKING_GAME_START_CASH ∧ data.maxNumberOfPlayers = RANKING_GAME_NUMBER_OF_PLAYERS ∧
        data.firstSmallBlind = RANKING_GAME_START_SBLIND ∧ data.raiseIntervalMode = .raiseOnHandNumber ∧
        data.raiseMode = .doubleBlinds ∧ data.raiseSmallBlindEveryHandsValue = RANKING_GAME_RAISE_EVERY_HAND ∧
        password = "")

/-- A new game of an admin, with settings that `CheckSettings` has accepted. The list of games names its admin. -/
def create (id : Nat) (mode : ServerMode) (gameType : GameType) (gameData : GameData) (adminPlayerId : Nat)
    (curUniquePlayerId : Nat) : ServerGame :=
  { id, mode, gameType, gameData, adminPlayerId
    adminNotices := [adminPlayerId]
    state := .init
    timer1 := none
    timer2 := false
    sessions := []
    computerPlayers := []
    numJoinsPerPlayer := fun _ => 0
    rejoinPlayers := []
    reactivatePlayers := []
    autoLeavePlayers := []
    curUniquePlayerId
    gameNum := 0
    playing := none : ServerGame }.enter

end ServerGame

end PokerTH
