import PokerTH.AvatarUpload

namespace PokerTH.Lobby

def Msg.ofAvatar : Msg → Bool
  | .init _ | .avatarHeader _ _ | .unknownAvatar | .avatarData _ | .avatarEnd => true
  | _ => false

def Event.ofAvatar : Event → Bool
  | .packet _ msg _ => msg.ofAvatar
  | _ => false

def Unfinished (s : SessionData) : Prop := s.state = .init ∨ s.state = .receivingAvatar

def Calm (who : SessionId → Prop) (l l' : ServerLobbyThread) : Prop :=
  ∀ sid s', ¬ who sid → l'.sessions sid = some s' → Unfinished s' →
    ∃ s, l.sessions sid = some s ∧ s.state = s'.state ∧ s.playerData = s'.playerData

variable {c : ServerConfig} {env : Environment} {l l' k : ServerLobbyThread} {sid sid' : SessionId}
  {s s' : SessionData} {p : PlayerData} {who : SessionId → Prop}

theorem Calm.of_sessions (hs : l'.sessions = l.sessions) : Calm who l l' := by
  intro sid s' _ hs' _
  exact ⟨s', hs ▸ hs', rfl, rfl⟩

theorem Calm.trans (h : Calm who l k) (h' : Calm who k l') : Calm who l l' := by
  intro sid s' hwho hs' hopen
  obtain ⟨t, ht, hstate, hplayer⟩ := h' sid s' hwho hs' hopen
  have hopen' : Unfinished t := by rwa [Unfinished, hstate]
  obtain ⟨s, hs, hstate', hplayer'⟩ := h sid t hwho ht hopen'
  exact ⟨s, hs, hstate'.trans hstate, hplayer'.trans hplayer⟩

namespace ServerLobbyThread

theorem calm_setSession (hs' : who sid ∨ ¬ Unfinished s') : Calm who l (l.setSession sid s') := by
  intro sid' t hwho ht hopen
  by_cases hsid : sid' = sid
  · subst hsid
    rw [setSession_self] at ht
    cases ht
    rcases hs' with hin | hfinished
    · exact absurd hin hwho
    · exact absurd hopen hfinished
  · rw [setSession_ne hsid] at ht
    exact ⟨t, ht, rfl, rfl⟩

theorem calm_setSession_same (hs : l.sessions sid = some s) (hstate : s'.state = s.state)
    (hplayer : s'.playerData = s.playerData) : Calm who l (l.setSession sid s') := by
  intro sid' t _ ht _
  by_cases hsid : sid' = sid
  · subst hsid
    rw [setSession_self] at ht
    cases ht
    exact ⟨s, hs, hstate.symm, hplayer.symm⟩
  · rw [setSession_ne hsid] at ht
    exact ⟨t, ht, rfl, rfl⟩

theorem calm_closeSession (l : ServerLobbyThread) (sid : SessionId) : Calm who l (l.closeSession sid) := by
  simp only [closeSession]
  split
  · exact .of_sessions rfl
  · split_ifs
    · exact .of_sessions rfl
    · exact calm_setSession (.inr (by simp [Unfinished]))

theorem calm_internalRemovePlayer (env : Environment) (l : ServerLobbyThread) (playerId : Nat) :
    Calm who l (l.internalRemovePlayer env playerId) := by
  simp only [internalRemovePlayer]
  split
  · exact calm_closeSession l _
  · split
    · split_ifs
      · exact calm_closeSession l _
      · exact .of_sessions rfl
    · exact .of_sessions rfl

theorem calm_established (l : ServerLobbyThread) (sid : SessionId) : Calm who l (l.setSessionState sid .established) := by
  simp only [setSessionState]
  split
  · exact .of_sessions rfl
  · exact calm_setSession (.inr (by simp [Unfinished]))

theorem calm_establishSession (c : ServerConfig) (env : Environment) (l : ServerLobbyThread) (sid : SessionId)
    (s : SessionData) : Calm who l (l.establishSession c env sid s) := by
  simp only [establishSession]
  split
  · exact calm_closeSession l sid
  · split
    · exact (calm_internalRemovePlayer env l _).trans (calm_established _ sid)
    · split_ifs
      · exact (calm_internalRemovePlayer env l _).trans (calm_established _ sid)
      · exact calm_closeSession l sid
      · exact calm_established l sid

theorem finished_closeSession (hs' : (l.closeSession sid).sessions sid = some s') : ¬ Unfinished s' := by
  simp only [closeSession] at hs'
  split at hs'
  · next hnone =>
      rw [hnone] at hs'
      cases hs'
  · next s hs =>
      split_ifs at hs' with hclosed
      · rw [hs] at hs'
        cases hs'
        simp [Unfinished, hclosed]
      · rw [setSession_self] at hs'
        cases hs'
        simp [Unfinished]

theorem finished_established (hs' : (l.setSessionState sid .established).sessions sid = some s') : ¬ Unfinished s' := by
  simp only [setSessionState] at hs'
  split at hs'
  · next hnone =>
      rw [hnone] at hs'
      cases hs'
  · rw [setSession_self] at hs'
    cases hs'
    simp [Unfinished]

theorem finished_establishSession (hs' : (l.establishSession c env sid s).sessions sid = some s') : ¬ Unfinished s' := by
  simp only [establishSession] at hs'
  split at hs'
  · exact finished_closeSession hs'
  · split at hs'
    · exact finished_established hs'
    · split_ifs at hs'
      · exact finished_established hs'
      · exact finished_closeSession hs'
      · exact finished_established hs'

theorem calm_userValid (c : ServerConfig) (env : Environment) (l : ServerLobbyThread) (playerId : Nat)
    (dbPlayerData : DBPlayerData) : Calm who l (l.userValid c env playerId dbPlayerData) := by
  simp only [userValid]
  split
  · exact .of_sessions rfl
  · split
    · exact .of_sessions rfl
    · split_ifs
      · exact calm_closeSession l _
      · exact calm_closeSession l _
      · exact Calm.trans (.of_sessions rfl) (calm_establishSession c env _ _ _)
      · exact Calm.trans (.of_sessions rfl) (calm_closeSession _ _)

theorem calm_userInvalid (l : ServerLobbyThread) (playerId : Nat) (now : Int) :
    Calm who l (l.userInvalid playerId now) := by
  simp only [userInvalid]
  split
  · exact .of_sessions rfl
  · split
    · exact .of_sessions rfl
    · exact Calm.trans (.of_sessions rfl) (calm_closeSession _ _)

theorem calm_userBlocked (l : ServerLobbyThread) (playerId : Nat) : Calm who l (l.userBlocked playerId) := by
  simp only [userBlocked]
  split
  · exact .of_sessions rfl
  · exact calm_closeSession l _

theorem calm_moveSessionToGame (l : ServerLobbyThread) (sid : SessionId) (s : SessionData) (gameId : Nat) :
    Calm who l (l.moveSessionToGame sid s gameId) := by
  have hmoved (g : Option Nat) : Calm who l (l.setSession sid { s with state := .game, game := g }) :=
    calm_setSession (.inr (by simp [Unfinished]))
  simp only [moveSessionToGame]
  split_ifs
  · exact (hmoved s.game).trans (Calm.trans (.of_sessions rfl) (calm_closeSession _ sid))
  · exact (hmoved s.game).trans (Calm.trans (.of_sessions rfl)
      ((calm_setSession (.inr (by simp [Unfinished]))).trans (.of_sessions rfl)))

theorem calm_handleReAddedSession (hs : l.sessions sid = some s) : Calm who l (l.handleReAddedSession sid s) := by
  have hsame : Calm who l (l.setSession sid { s with game := none }) := calm_setSession_same hs rfl rfl
  simp only [handleReAddedSession]
  split_ifs
  · exact hsame.trans (Calm.trans (.of_sessions rfl)
      ((calm_setSession (.inr (by simp [Unfinished]))).trans (.of_sessions rfl)))
  · exact hsame.trans (Calm.trans (.of_sessions rfl) (calm_closeSession _ sid))

theorem calm_handlePacket (hs : l.sessions sid = some s) {msg : Msg} (hmsg : msg.ofAvatar = false) :
    Calm who l (l.handlePacket c env sid s msg) := by
  have hjoin (msg : Msg) : Calm who l (l.handleNetPacketJoin env sid s msg) := by
    simp only [handleNetPacketJoin]
    split
    · exact calm_moveSessionToGame l sid s _
    · exact .of_sessions rfl
  cases msg <;> simp only [Msg.ofAvatar, reduceCtorEq] at hmsg
  case authClientResponse =>
    simp only [handlePacket]
    split
    · exact calm_setSession_same hs rfl rfl
    · exact calm_closeSession l sid
    · exact calm_closeSession l sid
  all_goals
    simp only [handlePacket]
    split
    · exact calm_closeSession l sid
    · exact calm_closeSession l sid
    · first
      | exact hjoin _
      | exact calm_closeSession l sid
      | exact .of_sessions rfl

/-- What has nothing to do with avatars leaves the sessions that are still logging in, or adds one. -/
theorem calm_fire {e : Event} (he : e.ofAvatar = false) (hfire : l.fire c e = some l')
    (hs' : l'.sessions sid = some s') (hopen : Unfinished s') :
    s'.playerData = none ∨ ∃ s, l.sessions sid = some s ∧ s.state = s'.state ∧ s.playerData = s'.playerData := by
  have hcalm (h : Calm (fun _ => False) l l') :
      s'.playerData = none ∨ ∃ s, l.sessions sid = some s ∧ s.state = s'.state ∧ s.playerData = s'.playerData :=
    .inr (h sid s' id hs' hopen)
  cases e with
  | addConnection addr web =>
      cases hfire
      by_cases hsid : sid = l.curSessionId
      · subst hsid
        left
        simp only [addConnection] at hs'
        split_ifs at hs'
        · rw [setSession_self] at hs'
          cases hs'
          rfl
        · have hnew := (setSession_self { l with curSessionId := l.curSessionId + 1 } l.curSessionId _).symm.trans hs'
          cases hnew
          rfl
      · right
        refine ⟨s', ?_, rfl, rfl⟩
        simp only [addConnection] at hs'
        split_ifs at hs'
        · rwa [setSession_ne hsid] at hs'
        · exact (setSession_ne hsid).symm.trans hs'
  | packet sid' msg env =>
      cases hfire
      refine hcalm ?_
      simp only [dispatchPacket]
      split
      · exact .of_sessions rfl
      · next s hs =>
          split_ifs
          · exact .of_sessions rfl
          · exact calm_handlePacket hs he
  | userValid playerId dbPlayerData env =>
      simp only [fire] at hfire
      split_ifs at hfire
      cases hfire
      exact hcalm (Calm.trans (.of_sessions rfl) (calm_userValid c env _ playerId dbPlayerData))
  | userInvalid playerId now =>
      simp only [fire] at hfire
      split_ifs at hfire
      cases hfire
      exact hcalm (Calm.trans (.of_sessions rfl) (calm_userInvalid _ playerId now))
  | userBlocked playerId =>
      simp only [fire] at hfire
      split_ifs at hfire
      cases hfire
      exact hcalm (Calm.trans (.of_sessions rfl) (calm_userBlocked _ playerId))
  | closeSession sid' =>
      cases hfire
      exact hcalm (calm_closeSession l sid')
  | reAddSession sid' =>
      simp only [fire] at hfire
      split at hfire
      · next s hs =>
          split_ifs at hfire
          cases hfire
          exact hcalm (calm_handleReAddedSession hs)
      · cases hfire
  | addComputerPlayer =>
      simp only [fire] at hfire
      split_ifs at hfire
      cases hfire
      exact hcalm (.of_sessions rfl)
  | timerUpdateClientLoginLock now =>
      cases hfire
      exact hcalm (.of_sessions rfl)
  | timerCleanupRateMaps now =>
      cases hfire
      exact hcalm (.of_sessions rfl)

theorem calm_handleNetPacketInit (l : ServerLobbyThread) (sid : SessionId) (s : SessionData) (m : InitMessage) :
    Calm (fun sid' => sid' = sid) l (l.handleNetPacketInit c env sid s m) := by
  have hnote : Calm (fun sid' => sid' = sid) l (l.noteInit c env s) := by
    simp only [noteInit]
    split_ifs <;> exact .of_sessions rfl
  have hset (k : ServerLobbyThread) (t : SessionData) : Calm (fun sid' => sid' = sid) k (k.setSession sid t) :=
    calm_setSession (.inl rfl)
  have hauth (k : ServerLobbyThread) (t : SessionData) :
      Calm (fun sid' => sid' = sid) k (k.authenticatePlayer sid t m) := by
    simp only [authenticatePlayer]
    split_ifs
    · exact calm_closeSession k sid
    · exact (hset _ _).trans (.of_sessions rfl)
  simp only [handleNetPacketInit]
  split_ifs
  all_goals
    first
    | exact calm_closeSession l sid
    | exact hnote.trans (calm_closeSession _ sid)
    | exact hnote.trans ((hset _ _).trans (calm_closeSession _ sid))
    | exact hnote.trans ((hset _ _).trans (hauth _ _))

/-- The messages of a session leave the other sessions that are logging in. -/
theorem calm_avatarMsg (l : ServerLobbyThread) (sid : SessionId) (s : SessionData) (msg : AvatarMsg) :
    Calm (fun sid' => sid' = sid) l (l.handlePacket c env sid s msg.toMsg) := by
  have hset (t : SessionData) : Calm (fun sid' => sid' = sid) l (l.setSession sid t) := calm_setSession (.inl rfl)
  have hclose : Calm (fun sid' => sid' = sid) l (l.sessionError sid) := calm_closeSession l sid
  cases msg with
  | init m =>
      simp only [handlePacket, AvatarMsg.toMsg]
      split
      · exact calm_handleNetPacketInit l sid s m
      · exact hclose
      · exact hclose
  | avatarHeader avatarSize avatarType =>
      simp only [handlePacket, AvatarMsg.toMsg, handleNetPacketAvatarHeader]
      split
      · split
        · exact .of_sessions rfl
        · split_ifs
          · exact hclose
          · exact hset _
          · exact hclose
      · exact hclose
      · exact hclose
  | unknownAvatar =>
      simp only [handlePacket, AvatarMsg.toMsg, handleNetPacketUnknownAvatar]
      split
      · split
        · exact .of_sessions rfl
        · exact (hset _).trans (calm_establishSession c env _ sid _)
      · exact hclose
      · exact hclose
  | avatarData avatarBlock =>
      simp only [handlePacket, AvatarMsg.toMsg, handleNetPacketAvatarFile]
      split
      · exact hclose
      · split
        · exact .of_sessions rfl
        · split
          · exact hclose
          · split_ifs
            · exact .of_sessions rfl
            · exact hclose
            · exact hclose
            · exact hset _
      · exact hclose
  | avatarEnd =>
      simp only [handlePacket, AvatarMsg.toMsg, handleNetPacketAvatarEnd]
      split
      · exact hclose
      · split
        · exact .of_sessions rfl
        · split
          · exact (hset _).trans (calm_establishSession c env _ sid _)
          · exact hclose
      · exact hclose

theorem handleNetPacketInit_session {m : InitMessage} (hs' : (l.handleNetPacketInit c env sid s m).sessions sid = some s')
    (hopen : Unfinished s') : s'.state = s.state ∧ ∃ p, s'.playerData = some p ∧ p.avatarMD5 = m.avatarHash ∧
      p.netAvatarFile = none := by
  simp only [handleNetPacketInit, authenticatePlayer] at hs'
  split_ifs at hs'
  all_goals
    first
    | exact absurd hopen (finished_closeSession hs')
    | skip
  have hnew := (setSession_self _ sid _).symm.trans hs'
  cases hnew
  exact ⟨rfl, _, rfl, rfl, rfl⟩

end ServerLobbyThread

end PokerTH.Lobby
