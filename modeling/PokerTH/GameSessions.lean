import PokerTH.LobbyRun

namespace PokerTH.Lobby

inductive ServerGameState
  | init | startGame | running | final
  deriving DecidableEq, Repr

structure ServerGame where
  state : ServerGameState
  sessions : List SessionId
  deriving DecidableEq, Repr

structure Server where
  lobby : ServerLobbyThread
  games : Nat → Option ServerGame
  curGameId : Nat

def MAX_SAFE_GAME_ID : Nat := 2 ^ 32 - 1 - 100

namespace Server

/-- The handlers of the lobby that led from `l` to `l'` closed the session while it was in the game. -/
def closedIn (l l' : ServerLobbyThread) (gameId : Nat) (sid : SessionId) : Bool :=
  ((l.sessions sid).any fun s => s.state != .closed && s.game == some gameId) &&
    (l'.sessions sid).any fun s => s.state == .closed

/-- What the lobby does, and what its calls of `CloseSession` do to the games: a session that is closed leaves the
list of its game. -/
def lift (w : Server) (l : ServerLobbyThread) : Server :=
  { w with
    lobby := l
    games := fun gameId => (w.games gameId).map fun game =>
      { game with sessions := game.sessions.filter fun sid => ¬ closedIn w.lobby l gameId sid } }

def setGame (w : Server) (gameId : Nat) (game : ServerGame) : Server :=
  { w with games := Function.update w.games gameId (some game) }

def closeSession (w : Server) (sid : SessionId) : Server := w.lift (w.lobby.closeSession sid)

def removeSession (w : Server) (gameId : Nat) (sid : SessionId) : Server :=
  match w.games gameId with
  | none => w
  | some game => w.setGame gameId { game with sessions := game.sessions.erase sid }

def sessionError (w : Server) (gameId : Nat) (sid : SessionId) : Server :=
  (w.removeSession gameId sid).closeSession sid

def reAddSession (w : Server) (sid : SessionId) : Server :=
  match w.lobby.sessions sid with
  | none => w
  | some s => if s.playerData.isSome then w.lift (w.lobby.handleReAddedSession sid s) else w

def moveSessionToLobby (w : Server) (gameId : Nat) (sid : SessionId) : Server :=
  (w.removeSession gameId sid).reAddSession sid

def acceptNewSession (w : Server) (gameId : Nat) (game : ServerGame) (sid : SessionId) : Server :=
  if sid ∈ game.sessions then w.closeSession sid
  else w.setGame gameId { game with sessions := List.orderedInsert (· ≤ ·) sid game.sessions }

/-- `enters` says that a game that has not started has room for the player, or that he may take his seat in a
running game again. -/
def handleNewPlayer (w : Server) (enters : Bool) (gameId : Nat) (sid : SessionId) : Server :=
  match w.games gameId with
  | none => w
  | some game =>
      match game.state with
      | .init | .running =>
          if enters then w.acceptNewSession gameId game sid else w.moveSessionToLobby gameId sid
      | .startGame => w.moveSessionToLobby gameId sid
      | .final => w

def moveSessionToGame (w : Server) (enters : Bool) (sid : SessionId) (s : SessionData) (gameId : Nat) : Server :=
  if sid ∈ w.lobby.gameSessionManager then w.lift (w.lobby.moveSessionToGame sid s gameId)
  else { w with lobby := w.lobby.moveSessionToGame sid s gameId }.handleNewPlayer enters gameId sid

def createGame (w : Server) : Server :=
  { w.setGame (w.curGameId + 1) ⟨.init, []⟩ with curGameId := w.curGameId + 1 }

def handleNetPacketJoin (w : Server) (env : Environment) (enters : Bool) (sid : SessionId) (s : SessionData)
    (msg : Msg) : Server :=
  match s.playerData, env.admits msg with
  | some _, some gameId =>
      match msg with
      | .joinNewGame =>
          if w.curGameId ≥ MAX_SAFE_GAME_ID then w.closeSession sid
          else w.createGame.moveSessionToGame enters sid s (w.curGameId + 1)
      | _ => if (w.games gameId).isSome then w.moveSessionToGame enters sid s gameId else w
  | _, _ => w

def handlePacket (w : Server) (c : ServerConfig) (env : Environment) (enters : Bool) (sid : SessionId)
    (s : SessionData) (msg : Msg) : Server :=
  match s.state with
  | .init | .receivingAvatar => w.lift (w.lobby.handlePacket c env sid s msg)
  | _ =>
      match msg with
      | .joinNewGame | .joinExistingGame _ | .rejoinExistingGame _ => w.handleNetPacketJoin env enters sid s msg
      | _ => w.lift (w.lobby.handlePacket c env sid s msg)

/-- What the packets of a session in a game do are events of their own. -/
def dispatchPacket (w : Server) (c : ServerConfig) (env : Environment) (enters : Bool) (sid : SessionId)
    (msg : Msg) : Server :=
  match w.lobby.sessions sid with
  | none => w
  | some s => if s.game.isSome then w else w.handlePacket c env enters sid s msg

def removeAllSessions (w : Server) (gameId : Nat) : Server :=
  match w.games gameId with
  | none => w
  | some game => (game.sessions.foldl closeSession w).setGame gameId ⟨.final, []⟩

/-- The sessions do not own their game: its pointer expires with it. -/
def expire (w : Server) (gameId : Nat) : Server :=
  { w with
    lobby := { w.lobby with
      sessions := fun sid => (w.lobby.sessions sid).map fun s =>
        if s.game = some gameId then { s with game := none } else s }
    games := Function.update w.games gameId none }

def internalRemoveGame (w : Server) (gameId : Nat) : Server := (w.removeAllSessions gameId).expire gameId

/-- What happens on the server: a handler of the lobby, a packet of a session in the lobby, a session leaves its
game or is thrown out, a game fails, is removed or changes its state. -/
inductive Event
  | lobby (e : Lobby.Event)
  | packet (sid : SessionId) (msg : Msg) (env : Environment) (enters : Bool)
  | leaveGame (gameId : Nat) (sid : SessionId)
  | sessionError (gameId : Nat) (sid : SessionId)
  | removeAllSessions (gameId : Nat)
  | internalRemoveGame (gameId : Nat)
  | setState (gameId : Nat) (state : ServerGameState)

def serves (w : Server) (gameId : Nat) (sid : SessionId) : Bool :=
  (w.games gameId).any fun game => sid ∈ game.sessions ∨
    game.state ≠ .final ∧ (w.lobby.sessions sid).any fun s => s.game = some gameId

def fire (c : ServerConfig) (w : Server) : Event → Option Server
  | .lobby (.packet _ _ _) | .lobby (.reAddSession _) => none
  | .lobby e => (w.lobby.fire c e).map w.lift
  | .packet sid msg env enters => some (w.dispatchPacket c env enters sid msg)
  | .leaveGame gameId sid => if w.serves gameId sid then some (w.moveSessionToLobby gameId sid) else none
  | .sessionError gameId sid => if w.serves gameId sid then some (w.sessionError gameId sid) else none
  | .removeAllSessions gameId => some (w.removeAllSessions gameId)
  | .internalRemoveGame gameId => some (w.internalRemoveGame gameId)
  | .setState gameId state =>
      match w.games gameId with
      | none => none
      | some game => if game.state = .final ∨ state = .final then none else some (w.setGame gameId { game with state })

def initial : Server := ⟨ServerLobbyThread.initial, fun _ => none, 0⟩

end Server

end PokerTH.Lobby
