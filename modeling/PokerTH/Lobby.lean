import Mathlib.Algebra.Group.Nat.Defs
import Mathlib.Data.List.Infix
import Mathlib.Data.List.Sort
import Mathlib.Logic.Function.Iterate

namespace PokerTH.Lobby

abbrev SessionId := Nat

abbrev Address := Nat

abbrev Text := List Char

inductive SessionState
  | init | receivingAvatar | established | game | closed
  deriving DecidableEq, Repr

/-- The header of an avatar and the number of its bytes received so far. -/
structure AvatarFile where
  reportedSize : Nat
  fileSize : Nat
  deriving DecidableEq, Repr

/-- The player of a session. A zero hash of the avatar is `none`. -/
structure PlayerData where
  uniqueId : Nat
  name : Text
  oldGuid : Text
  avatarMD5 : Option Nat
  netAvatarFile : Option AvatarFile
  deriving DecidableEq, Repr

structure SessionData where
  state : SessionState
  clientAddr : Address
  webData : Bool
  playerData : Option PlayerData
  password : Text
  curAuthStep : Nat
  game : Option Nat
  deriving DecidableEq, Repr

structure DBPlayerData where
  id : Nat
  secret : Text

def DB_ID_INVALID : Nat := 0

structure FailedLoginEntry where
  count : Nat
  firstFailTime : Int

abbrev FailedLoginMap := List (Address × FailedLoginEntry)

def MAX_FAILED_LOGIN_ATTEMPTS : Nat := 5

def MAX_FAILED_LOGIN_RATE_LIMIT_SECONDS : Int := 300

def MAX_FAILED_LOGIN_MAP_SIZE : Nat := 1000

def MAX_FAILED_LOGIN_MAP_HARD_LIMIT : Nat := 2000

namespace FailedLoginMap

def erase (m : FailedLoginMap) (clientAddr : Address) : FailedLoginMap :=
  m.filter fun entry => entry.1 != clientAddr

def set (m : FailedLoginMap) (clientAddr : Address) (entry : FailedLoginEntry) : FailedLoginMap :=
  List.orderedInsert (fun x y => x.1 ≤ y.1) (clientAddr, entry) (erase m clientAddr)

def countFailure (m : FailedLoginMap) (clientAddr : Address) (now : Int) : FailedLoginMap :=
  match m.lookup clientAddr with
  | none => set m clientAddr ⟨1, now⟩
  | some entry =>
      if now - entry.firstFailTime < MAX_FAILED_LOGIN_RATE_LIMIT_SECONDS then
        set m clientAddr { entry with count := entry.count + 1 }
      else set m clientAddr ⟨1, now⟩

def rateLimited (m : FailedLoginMap) (clientAddr : Address) (now : Int) : Bool :=
  match m.lookup clientAddr with
  | none => false
  | some entry => decide (now - entry.firstFailTime < MAX_FAILED_LOGIN_RATE_LIMIT_SECONDS) &&
      decide (entry.count ≥ MAX_FAILED_LOGIN_ATTEMPTS)

/-- The first of the entries with the earliest failure is dropped. -/
def eraseOldest : FailedLoginMap → FailedLoginMap
  | [] => []
  | entry :: m =>
      if m.all fun e => decide (entry.2.firstFailTime ≤ e.2.firstFailTime) then m else entry :: eraseOldest m

def evict (m : FailedLoginMap) (now : Int) : FailedLoginMap :=
  if m.length > MAX_FAILED_LOGIN_MAP_SIZE then
    let recent := m.filter fun entry => decide (now - entry.2.firstFailTime ≤ MAX_FAILED_LOGIN_RATE_LIMIT_SECONDS)
    if recent.length > MAX_FAILED_LOGIN_MAP_HARD_LIMIT then
      eraseOldest^[recent.length - MAX_FAILED_LOGIN_MAP_SIZE] recent
    else recent
  else m

end FailedLoginMap

structure InitMessage where
  majorVersion : Nat
  authServerPassword : Text
  authenticatedLogin : Bool
  nickname : Text
  clientUserData : Option Text
  avatarHash : Option Nat
  myLastSessionId : Text

/-- The packets as far as the login is concerned. `lobbyRequest` is any other request of the lobby that
the server handles for a session after its login, `other` any packet without a handler. -/
inductive Msg
  | init (m : InitMessage)
  | authClientResponse
  | avatarHeader (avatarSize avatarType : Nat)
  | unknownAvatar
  | avatarData (blockSize : Nat)
  | avatarEnd
  | joinNewGame
  | joinExistingGame (gameId : Nat)
  | rejoinExistingGame (gameId : Nat)
  | lobbyRequest
  | other

structure ServerConfig where
  bruteForceProtection : Bool
  serverPassword : Text
  loginLockSec : Int
  officialServer : Bool

/-- What the other parts of the server answer while a packet is handled: the clock, the ban manager, the
avatar cache and the games. `getRejoinGame` finds the player whose seat a name and an old session id may
take again, `admits` the game that a join request leads to, and `inGame` tells whether the game of a session has it in
its list. -/
structure Environment where
  now : Int
  isPlayerBanned : Text → Bool
  isIPAddressBanned : Address → Bool
  storeAvatarInCache : Bool
  getRejoinGame : Text → Text → Option Nat
  admits : Msg → Option Nat
  inGame : SessionId → Bool

structure ServerLobbyThread where
  sessions : SessionId → Option SessionData
  sessionManager : List SessionId
  gameSessionManager : List SessionId
  curSessionId : Nat
  curUniquePlayerId : Nat
  failedLoginMap : FailedLoginMap
  timerClientAddressMap : List (Address × Int)
  /-- The logins that the database has not answered yet. -/
  pendingLogins : List Nat

def NET_VERSION_MAJOR : Nat := 5

def MIN_AVATAR_FILE_SIZE : Nat := 32

def MAX_AVATAR_FILE_SIZE : Nat := 30720

def AVATAR_FILE_TYPE_GIF : Nat := 3

def MAX_SAFE_PLAYER_ID : Nat := 2 ^ 32 - 1 - 1000

def SERVER_MAX_NUM_LOBBY_SESSIONS : Nat := 1536

def SERVER_MAX_NUM_TOTAL_SESSIONS : Nat := 2000

def SERVER_COMPUTER_PLAYER_NAME : Text := ['C', 'o', 'm', 'p', 'u', 't', 'e', 'r']

def playerNameAllowed (playerName : Text) : Bool :=
  !playerName.isEmpty && decide (playerName.length ≤ 64) && playerName.head? != some '#' &&
  playerName.head? != some ' ' && !SERVER_COMPUTER_PLAYER_NAME.isPrefixOf playerName &&
  (playerName.all fun c => decide (32 ≤ c.toNat) && decide (c.toNat ≤ 126)) &&
  (playerName.any fun c => c != ' ') && decide (¬ [' ', ' '] <:+: playerName)

namespace ServerLobbyThread

variable (c : ServerConfig) (env : Environment) (l : ServerLobbyThread)

def setSession (sid : SessionId) (s : SessionData) : ServerLobbyThread :=
  { l with sessions := Function.update l.sessions sid (some s) }

def setSessionState (sid : SessionId) (state : SessionState) : ServerLobbyThread :=
  match l.sessions sid with
  | none => l
  | some s => l.setSession sid { s with state }

def getSessionByUniquePlayerId (manager : List SessionId) (uniqueId : Nat) (initSessions : Bool) :
    Option SessionId :=
  manager.find? fun sid => (l.sessions sid).any fun s =>
    (initSessions || s.state != .init) && s.playerData.any fun p => p.uniqueId == uniqueId

def getSessionByPlayerName (manager : List SessionId) (name : Text) : Option SessionId :=
  manager.find? fun sid => (l.sessions sid).any fun s =>
    s.state != .init && s.playerData.any fun p => p.name == name

/-- The id of the player who is connected under this name, 0 if nobody is. -/
def getPlayerId (name : Text) : Nat :=
  match l.getSessionByPlayerName l.sessionManager name <|> l.getSessionByPlayerName l.gameSessionManager name with
  | none => 0
  | some sid => (((l.sessions sid).bind fun s => s.playerData).map fun p => p.uniqueId).getD 0

def closeSession (sid : SessionId) : ServerLobbyThread :=
  match l.sessions sid with
  | none => l
  | some s =>
      if s.state = .closed then l
      else { l.setSession sid { s with state := .closed, game := none } with
        sessionManager := l.sessionManager.erase sid
        gameSessionManager := l.gameSessionManager.erase sid }

/-- An error is sent to the client and his session is closed. -/
def sessionError (sid : SessionId) : ServerLobbyThread := l.closeSession sid

def internalRemovePlayer (playerId : Nat) : ServerLobbyThread :=
  match l.getSessionByUniquePlayerId l.sessionManager playerId true with
  | some sid => l.sessionError sid
  | none =>
      match l.getSessionByUniquePlayerId l.gameSessionManager playerId false with
      | some sid => if env.inGame sid ∧ (l.sessions sid).any fun s => s.game.isSome then l.sessionError sid else l
      | none => l

/-- The player data `p` of the session `sid` becomes that of a player in the lobby. -/
def establishSession (sid : SessionId) (s : SessionData) : ServerLobbyThread :=
  match s.playerData with
  | none => l.sessionError sid
  | some p =>
      match if p.oldGuid.isEmpty then none else env.getRejoinGame p.name p.oldGuid with
      | some rejoinPlayerId => (l.internalRemovePlayer env rejoinPlayerId).setSessionState sid .established
      | none =>
          let previousPlayerId := l.getPlayerId p.name
          if previousPlayerId ≠ 0 ∧ previousPlayerId ≠ p.uniqueId then
            if c.officialServer ∧ ¬ s.webData then
              (l.internalRemovePlayer env previousPlayerId).setSessionState sid .established
            else l.sessionError sid
          else l.setSessionState sid .established

def noteInit (s : SessionData) : ServerLobbyThread :=
  if c.bruteForceProtection then
    { l with timerClientAddressMap := (s.clientAddr, env.now) :: l.timerClientAddressMap }
  else l

def newPlayerData (m : InitMessage) : PlayerData where
  uniqueId := l.curUniquePlayerId + 1
  name := m.nickname
  oldGuid := m.myLastSessionId
  avatarMD5 := m.avatarHash
  netAvatarFile := none

/-- The session gets a player with a new id, and the database is asked for him. The id counter throws
when it is exhausted. -/
def authenticatePlayer (sid : SessionId) (s : SessionData) (m : InitMessage) : ServerLobbyThread :=
  if l.curUniquePlayerId ≥ MAX_SAFE_PLAYER_ID then l.sessionError sid
  else { l.setSession sid { s with playerData := some (l.newPlayerData m) } with
    curUniquePlayerId := l.curUniquePlayerId + 1
    pendingLogins := l.pendingLogins ++ [l.curUniquePlayerId + 1] }

def serverPasswordOk (m : InitMessage) : Bool :=
  c.officialServer || decide (m.authServerPassword.length ≤ 128) && m.authServerPassword == c.serverPassword

def handleNetPacketInit (sid : SessionId) (s : SessionData) (m : InitMessage) : ServerLobbyThread :=
  if c.bruteForceProtection ∧ l.timerClientAddressMap.any fun x => x.1 == s.clientAddr then l.sessionError sid
  else
    let l := l.noteInit c env s
    if m.majorVersion ≠ NET_VERSION_MAJOR ∨ s.playerData.isSome then l.sessionError sid
    else if ¬ serverPasswordOk c m then l.sessionError sid
    else if ¬ m.authenticatedLogin then l.sessionError sid
    else
      let s := { s with password := m.clientUserData.getD s.password }
      let l := l.setSession sid s
      if ¬ playerNameAllowed m.nickname then l.sessionError sid
      else if env.isPlayerBanned m.nickname ∨ env.isIPAddressBanned s.clientAddr then l.sessionError sid
      else l.authenticatePlayer sid s m

def handleNetPacketAuthClientResponse (sid : SessionId) (s : SessionData) : ServerLobbyThread :=
  l.setSession sid { s with curAuthStep := s.curAuthStep + 1 }

def handleNetPacketAvatarHeader (sid : SessionId) (s : SessionData) (avatarSize avatarType : Nat) :
    ServerLobbyThread :=
  match s.playerData with
  | none => l
  | some p =>
      if MIN_AVATAR_FILE_SIZE ≤ avatarSize ∧ avatarSize ≤ MAX_AVATAR_FILE_SIZE then
        if avatarType > AVATAR_FILE_TYPE_GIF then l.sessionError sid
        else l.setSession sid { s with
          state := .receivingAvatar
          playerData := some { p with netAvatarFile := some ⟨avatarSize, 0⟩ } }
      else l.sessionError sid

def handleNetPacketUnknownAvatar (sid : SessionId) (s : SessionData) : ServerLobbyThread :=
  match s.playerData with
  | none => l
  | some p =>
      let s := { s with playerData := some { p with avatarMD5 := none, netAvatarFile := none } }
      (l.setSession sid s).establishSession c env sid s

def handleNetPacketAvatarFile (sid : SessionId) (s : SessionData) (blockSize : Nat) : ServerLobbyThread :=
  match s.playerData with
  | none => l
  | some p =>
      match p.netAvatarFile with
      | none => l.sessionError sid
      | some file =>
          if blockSize = 0 then l
          else if blockSize > MAX_AVATAR_FILE_SIZE ∨ file.fileSize > MAX_AVATAR_FILE_SIZE - blockSize then
            l.sessionError sid
          else if file.fileSize + blockSize > file.reportedSize then l.sessionError sid
          else l.setSession sid { s with playerData := some { p with
            netAvatarFile := some { file with fileSize := file.fileSize + blockSize } } }

def receivedAvatar (p : PlayerData) : Bool :=
  p.avatarMD5.isSome && p.netAvatarFile.any fun file => file.fileSize != 0 && file.fileSize == file.reportedSize

def handleNetPacketAvatarEnd (sid : SessionId) (s : SessionData) : ServerLobbyThread :=
  match s.playerData with
  | none => l
  | some p =>
      if receivedAvatar p then
        let s := { s with playerData := some { p with
          avatarMD5 := if env.storeAvatarInCache then p.avatarMD5 else none
          netAvatarFile := none } }
        (l.setSession sid s).establishSession c env sid s
      else l.sessionError sid

/-- The session manager of the games throws on a session that it holds already. -/
def moveSessionToGame (sid : SessionId) (s : SessionData) (gameId : Nat) : ServerLobbyThread :=
  let l := { l.setSession sid { s with state := .game } with sessionManager := l.sessionManager.erase sid }
  if sid ∈ l.gameSessionManager then l.sessionError sid
  else { l.setSession sid { s with state := .game, game := some gameId } with
    gameSessionManager := List.orderedInsert (· ≤ ·) sid l.gameSessionManager }

/-- `HandleNetPacketCreateGame`, `HandleNetPacketJoinGame` and `HandleNetPacketRejoinGame`. -/
def handleNetPacketJoin (sid : SessionId) (s : SessionData) (msg : Msg) : ServerLobbyThread :=
  match s.playerData, env.admits msg with
  | some _, some gameId => l.moveSessionToGame sid s gameId
  | _, _ => l

def handlePacket (sid : SessionId) (s : SessionData) (msg : Msg) : ServerLobbyThread :=
  match s.state with
  | .init =>
      match msg with
      | .init m => l.handleNetPacketInit c env sid s m
      | .authClientResponse => l.handleNetPacketAuthClientResponse sid s
      | .avatarHeader size type => l.handleNetPacketAvatarHeader sid s size type
      | .unknownAvatar => l.handleNetPacketUnknownAvatar c env sid s
      | _ => l.sessionError sid
  | .receivingAvatar =>
      match msg with
      | .avatarData blockSize => l.handleNetPacketAvatarFile sid s blockSize
      | .avatarEnd => l.handleNetPacketAvatarEnd c env sid s
      | _ => l.sessionError sid
  | _ =>
      match msg with
      | .joinNewGame | .joinExistingGame _ | .rejoinExistingGame _ => l.handleNetPacketJoin env sid s msg
      | .lobbyRequest => l
      | _ => l.sessionError sid

/-- The packets of a session in a game go to the game, whose effects on the lobby are events of their own. -/
def dispatchPacket (sid : SessionId) (msg : Msg) : ServerLobbyThread :=
  match l.sessions sid with
  | none => l
  | some s => if s.game.isSome then l else l.handlePacket c env sid s msg

def userValid (playerId : Nat) (dbPlayerData : DBPlayerData) : ServerLobbyThread :=
  match l.getSessionByUniquePlayerId l.sessionManager playerId true with
  | none => l
  | some sid =>
      match l.sessions sid with
      | none => l
      | some s =>
          if dbPlayerData.id ≠ DB_ID_INVALID ∧ s.password = [] then l.sessionError sid
          else if dbPlayerData.id = DB_ID_INVALID ∨ s.password = dbPlayerData.secret then
            if l.failedLoginMap.rateLimited s.clientAddr env.now then l.sessionError sid
            else
              ({ l with failedLoginMap := l.failedLoginMap.erase s.clientAddr }).establishSession c env sid s
          else
            ({ l with failedLoginMap := l.failedLoginMap.countFailure s.clientAddr env.now }).sessionError sid

def userInvalid (playerId : Nat) (now : Int) : ServerLobbyThread :=
  match l.getSessionByUniquePlayerId l.sessionManager playerId true with
  | none => l
  | some sid =>
      match l.sessions sid with
      | none => l
      | some s =>
          ({ l with
            failedLoginMap := (l.failedLoginMap.countFailure s.clientAddr now).evict now }).sessionError sid

def userBlocked (playerId : Nat) : ServerLobbyThread :=
  match l.getSessionByUniquePlayerId l.sessionManager playerId true with
  | none => l
  | some sid => l.sessionError sid

def addConnection (clientAddr : Address) (webData : Bool) : ServerLobbyThread :=
  let s : SessionData := ⟨.init, clientAddr, webData, none, [], 0, none⟩
  let full := l.sessionManager.length ≥ SERVER_MAX_NUM_LOBBY_SESSIONS ∨
    l.sessionManager.length + l.gameSessionManager.length ≥ SERVER_MAX_NUM_TOTAL_SESSIONS
  let l' := { l with curSessionId := l.curSessionId + 1 }
  if full then l'.setSession l.curSessionId { s with state := .closed }
  else { l'.setSession l.curSessionId s with
    sessionManager := List.orderedInsert (· ≤ ·) l.curSessionId l.sessionManager }

/-- A game gives a session back to the lobby. -/
def handleReAddedSession (sid : SessionId) (s : SessionData) : ServerLobbyThread :=
  let l := { l.setSession sid { s with game := none } with
    gameSessionManager := l.gameSessionManager.erase sid }
  if l.sessionManager.length < SERVER_MAX_NUM_LOBBY_SESSIONS then
    { l.setSession sid { s with game := none, state := .established } with
      sessionManager := List.orderedInsert (· ≤ ·) sid l.sessionManager }
  else l.sessionError sid

def timerUpdateClientLoginLock (now : Int) : ServerLobbyThread :=
  { l with timerClientAddressMap := l.timerClientAddressMap.filter fun x => decide (now - x.2 ≤ c.loginLockSec) }

def timerCleanupRateMaps (now : Int) : ServerLobbyThread :=
  { l with failedLoginMap := l.failedLoginMap.filter fun x => decide (now - 1800 ≤ x.2.firstFailTime) }

end ServerLobbyThread

end PokerTH.Lobby
