import PokerTH.Lobby
import PokerTH.Runs

namespace PokerTH.Lobby

/-- What can happen on a server with a player database. A game closes sessions and gives them back, and
so do the timers, the network and the administrators. -/
inductive Event
  | addConnection (clientAddr : Address) (webData : Bool)
  | packet (sid : SessionId) (msg : Msg) (env : Environment)
  | userValid (playerId : Nat) (dbPlayerData : DBPlayerData) (env : Environment)
  | userInvalid (playerId : Nat) (now : Int)
  | userBlocked (playerId : Nat)
  | closeSession (sid : SessionId)
  | reAddSession (sid : SessionId)
  | addComputerPlayer
  | timerUpdateClientLoginLock (now : Int)
  | timerCleanupRateMaps (now : Int)

namespace ServerLobbyThread

def initial : ServerLobbyThread where
  sessions := fun _ => none
  sessionManager := []
  gameSessionManager := []
  curSessionId := 1
  curUniquePlayerId := 0
  failedLoginMap := []
  timerClientAddressMap := []
  pendingLogins := []

def answer (l : ServerLobbyThread) (playerId : Nat) : ServerLobbyThread :=
  { l with pendingLogins := l.pendingLogins.erase playerId }

def fire (c : ServerConfig) (l : ServerLobbyThread) : Event → Option ServerLobbyThread
  | .addConnection clientAddr webData => some (l.addConnection clientAddr webData)
  | .packet sid msg env => some (l.dispatchPacket c env sid msg)
  | .userValid playerId dbPlayerData env =>
      if playerId ∈ l.pendingLogins ∧ dbPlayerData.id ≠ DB_ID_INVALID then
        some ((l.answer playerId).userValid c env playerId dbPlayerData)
      else none
  | .userInvalid playerId now =>
      if playerId ∈ l.pendingLogins then some ((l.answer playerId).userInvalid playerId now) else none
  | .userBlocked playerId =>
      if playerId ∈ l.pendingLogins then some ((l.answer playerId).userBlocked playerId) else none
  | .closeSession sid => some (l.closeSession sid)
  | .reAddSession sid =>
      match l.sessions sid with
      | some s => if s.game.isSome ∧ s.playerData.isSome then some (l.handleReAddedSession sid s) else none
      | none => none
  | .addComputerPlayer =>
      if l.curUniquePlayerId ≥ MAX_SAFE_PLAYER_ID then none
      else some { l with curUniquePlayerId := l.curUniquePlayerId + 1 }
  | .timerUpdateClientLoginLock now => some (l.timerUpdateClientLoginLock c now)
  | .timerCleanupRateMaps now => some (l.timerCleanupRateMaps now)

end ServerLobbyThread

abbrev History := List (ServerLobbyThread × Event)

def Event.answers : Event → Option Nat
  | .userValid playerId _ _ => some playerId
  | .userInvalid playerId _ => some playerId
  | .userBlocked playerId => some playerId
  | _ => none

/-- `UserValid` ran for the player, compared the password of his session with the stored secret and found
his address not rate-limited, and the database reported nothing against him. -/
structure LoggedIn (hist : History) (sid : SessionId) (playerId : Nat) : Prop where
  valid : ∃ l s dbPlayerData env, (l, Event.userValid playerId dbPlayerData env) ∈ hist ∧
    dbPlayerData.id ≠ DB_ID_INVALID ∧ l.sessions sid = some s ∧ s.password = dbPlayerData.secret ∧
    l.failedLoginMap.rateLimited s.clientAddr env.now = false
  notInvalid : ∀ l now, (l, Event.userInvalid playerId now) ∉ hist
  notBlocked : ∀ l, (l, Event.userBlocked playerId) ∉ hist

def InLobby (s : SessionData) : Prop := s.state = .established ∨ s.state = .game ∨ s.game.isSome

def playerId (s : SessionData) : Option Nat := s.playerData.map fun p => p.uniqueId

variable {c : ServerConfig} {env : Environment} {hist : History} {l l' k : ServerLobbyThread}
  {sid : SessionId} {s : SessionData} {who : SessionId → Prop}

structure Closes (l l' : ServerLobbyThread) : Prop where
  session : ∀ sid s', l'.sessions sid = some s' →
    ∃ s, l.sessions sid = some s ∧ playerId s' = playerId s ∧ (InLobby s' → InLobby s)
  pending : l'.pendingLogins = l.pendingLogins
  counter : l'.curUniquePlayerId = l.curUniquePlayerId

/-- No session but those of `who` comes into the lobby. -/
structure Changes (who : SessionId → Prop) (l l' : ServerLobbyThread) : Prop where
  session : ∀ sid s', l'.sessions sid = some s' → InLobby s' →
    ∃ s, l.sessions sid = some s ∧ playerId s' = playerId s ∧ (InLobby s ∨ who sid)
  pending : l'.pendingLogins = l.pendingLogins
  counter : l'.curUniquePlayerId = l.curUniquePlayerId

theorem Closes.refl (l : ServerLobbyThread) : Closes l l := ⟨fun _ s hs => ⟨s, hs, rfl, id⟩, rfl, rfl⟩

theorem Closes.of_sessions (hs : l'.sessions = l.sessions) (hp : l'.pendingLogins = l.pendingLogins)
    (hc : l'.curUniquePlayerId = l.curUniquePlayerId) : Closes l l' := by
  refine ⟨fun sid s h => ?_, hp, hc⟩
  rw [hs] at h
  exact ⟨s, h, rfl, id⟩

theorem Closes.trans (h : Closes l k) (h' : Closes k l') : Closes l l' := by
  refine ⟨fun sid s' hs' => ?_, h'.pending.trans h.pending, h'.counter.trans h.counter⟩
  obtain ⟨s, hs, hid, hin⟩ := h'.session sid s' hs'
  obtain ⟨s₀, hs₀, hid₀, hin₀⟩ := h.session sid s hs
  exact ⟨s₀, hs₀, hid.trans hid₀, fun hi => hin₀ (hin hi)⟩

theorem Closes.changes (h : Closes l l') : Changes who l l' := by
  refine ⟨fun sid s' hs' hin' => ?_, h.pending, h.counter⟩
  obtain ⟨s, hs, hid, hin⟩ := h.session sid s' hs'
  exact ⟨s, hs, hid, .inl (hin hin')⟩

theorem Changes.closes (h : Changes who l k) (h' : Closes k l') : Changes who l l' := by
  refine ⟨fun sid s' hs' hin' => ?_, h'.pending.trans h.pending, h'.counter.trans h.counter⟩
  obtain ⟨s, hs, hid, hin⟩ := h'.session sid s' hs'
  obtain ⟨s₀, hs₀, hid₀, hin₀⟩ := h.session sid s hs (hin hin')
  exact ⟨s₀, hs₀, hid.trans hid₀, hin₀⟩

theorem Closes.trans_changes (h : Closes l k) (h' : Changes who k l') : Changes who l l' := by
  refine ⟨fun sid s' hs' hin' => ?_, h'.pending.trans h.pending, h'.counter.trans h.counter⟩
  obtain ⟨s, hs, hid, hin⟩ := h'.session sid s' hs' hin'
  obtain ⟨s₀, hs₀, hid₀, hin₀⟩ := h.session sid s hs
  refine ⟨s₀, hs₀, hid.trans hid₀, ?_⟩
  rcases hin with hin | hwho
  · exact .inl (hin₀ hin)
  · exact .inr hwho

namespace ServerLobbyThread

theorem setSession_cases {sid' : SessionId} {s' : SessionData} (hs : (l.setSession sid s).sessions sid' = some s') :
    sid' = sid ∧ s' = s ∨ l.sessions sid' = some s' := by
  by_cases h : sid' = sid
  · subst h
    simp only [setSession, Function.update_self, Option.some.injEq] at hs
    exact .inl ⟨rfl, hs.symm⟩
  · simp only [setSession, Function.update_of_ne h] at hs
    exact .inr hs

theorem changes_setSession {s' : SessionData} (hs : l.sessions sid = some s)
    (hid : InLobby s' → playerId s' = playerId s ∧ (InLobby s ∨ who sid)) : Changes who l (l.setSession sid s') := by
  refine ⟨fun sid' t ht hin => ?_, rfl, rfl⟩
  rcases setSession_cases ht with ⟨rfl, rfl⟩ | ht
  · exact ⟨s, hs, hid hin⟩
  · exact ⟨t, ht, rfl, .inl hin⟩

theorem closes_closeSession (l : ServerLobbyThread) (sid : SessionId) : Closes l (l.closeSession sid) := by
  simp only [closeSession]
  split
  · exact Closes.refl l
  · next s hs =>
      split_ifs
      · exact Closes.refl l
      · refine ⟨fun sid' t ht => ?_, rfl, rfl⟩
        rcases setSession_cases ht with ⟨rfl, rfl⟩ | ht
        · exact ⟨s, hs, rfl, by simp [InLobby]⟩
        · exact ⟨t, ht, rfl, id⟩

theorem closes_internalRemovePlayer (env : Environment) (l : ServerLobbyThread) (playerId : Nat) :
    Closes l (l.internalRemovePlayer env playerId) := by
  simp only [internalRemovePlayer]
  split
  · exact closes_closeSession l _
  · split
    · split_ifs
      · exact closes_closeSession l _
      · exact Closes.refl l
    · exact Closes.refl l

theorem changes_setSessionState (l : ServerLobbyThread) (sid : SessionId) (state : SessionState) :
    Changes (fun sid' => sid' = sid) l (l.setSessionState sid state) := by
  simp only [setSessionState]
  split
  · exact (Closes.refl l).changes
  · next s hs => exact changes_setSession hs fun _ => ⟨rfl, .inr rfl⟩

theorem changes_establishSession (c : ServerConfig) (env : Environment) (l : ServerLobbyThread) (sid : SessionId)
    (s : SessionData) : Changes (fun sid' => sid' = sid) l (l.establishSession c env sid s) := by
  have herror : Changes (fun sid' => sid' = sid) l (l.closeSession sid) := (closes_closeSession l sid).changes
  have hremove (id : Nat) := (closes_internalRemovePlayer env l id).trans_changes
    (changes_setSessionState (l.internalRemovePlayer env id) sid .established)
  simp only [establishSession]
  split
  · exact herror
  · split
    · exact hremove _
    · split_ifs
      · exact hremove _
      · exact herror
      · exact changes_setSessionState l sid .established

end ServerLobbyThread

end PokerTH.Lobby
