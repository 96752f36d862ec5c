import PokerTH.GameSessions
import PokerTH.Login

namespace PokerTH.Lobby

variable {c : ServerConfig} {env : Environment} {l l' k : ServerLobbyThread} {sid sid' : SessionId}
  {s s' : SessionData} {p : PlayerData} {m : InitMessage} {msg : Msg}

structure Stays (l l' : ServerLobbyThread) (sid : SessionId) (s s' : SessionData) : Prop where
  game : s'.game = s.game
  inGame : s'.state = .game ↔ s.state = .game
  closed : s'.state = .closed ↔ s.state = .closed
  player : s.playerData.isSome → s'.playerData.isSome
  lobby : sid ∈ l'.sessionManager ↔ sid ∈ l.sessionManager
  games : sid ∈ l'.gameSessionManager ↔ sid ∈ l.gameSessionManager

structure Gone (l : ServerLobbyThread) (sid : SessionId) (s : SessionData) : Prop where
  closed : s.state = .closed
  game : s.game = none
  lobby : sid ∉ l.sessionManager
  games : sid ∉ l.gameSessionManager

structure Managers (l : ServerLobbyThread) : Prop where
  lobby : l.sessionManager.Nodup
  games : l.gameSessionManager.Nodup

structure Tidy (l l' : ServerLobbyThread) : Prop where
  managers : Managers l → Managers l'
  session : Managers l → ∀ sid s, l.sessions sid = some s →
    ∃ s', l'.sessions sid = some s' ∧ (Stays l l' sid s s' ∨ Gone l' sid s')
  unknown : ∀ sid, l.sessions sid = none → l'.sessions sid = none ∧
    (sid ∈ l'.sessionManager → sid ∈ l.sessionManager) ∧ (sid ∈ l'.gameSessionManager → sid ∈ l.gameSessionManager)
  counter : l'.curSessionId = l.curSessionId

theorem Stays.refl (l : ServerLobbyThread) (sid : SessionId) (s : SessionData) : Stays l l sid s s :=
  ⟨rfl, Iff.rfl, Iff.rfl, id, Iff.rfl, Iff.rfl⟩

theorem Stays.trans {t : SessionData} (h : Stays l k sid s t) (h' : Stays k l' sid t s') : Stays l l' sid s s' :=
  ⟨h'.game.trans h.game, h'.inGame.trans h.inGame, h'.closed.trans h.closed, fun hp => h'.player (h.player hp),
    h'.lobby.trans h.lobby, h'.games.trans h.games⟩

theorem Gone.stays {t : SessionData} (h : Gone l sid s) (h' : Stays l l' sid s t) : Gone l' sid t :=
  ⟨h'.closed.mpr h.closed, h'.game.trans h.game, fun hmem => h.lobby (h'.lobby.mp hmem),
    fun hmem => h.games (h'.games.mp hmem)⟩

theorem Tidy.refl (l : ServerLobbyThread) : Tidy l l :=
  ⟨id, fun _ sid s hs => ⟨s, hs, .inl (Stays.refl l sid s)⟩, fun _ hs => ⟨hs, id, id⟩, rfl⟩

theorem Tidy.trans (h : Tidy l k) (h' : Tidy k l') : Tidy l l' := by
  refine ⟨fun hm => h'.managers (h.managers hm), fun hm sid s hs => ?_, fun sid hs => ?_, h'.counter.trans h.counter⟩
  · obtain ⟨t, ht, hst⟩ := h.session hm sid s hs
    obtain ⟨s', hs', hst'⟩ := h'.session (h.managers hm) sid t ht
    refine ⟨s', hs', ?_⟩
    rcases hst' with hstays' | hgone'
    · rcases hst with hstays | hgone
      · exact .inl (hstays.trans hstays')
      · exact .inr (hgone.stays hstays')
    · exact .inr hgone'
  · obtain ⟨ht, hlobby, hgames⟩ := h.unknown sid hs
    obtain ⟨ht', hlobby', hgames'⟩ := h'.unknown sid ht
    exact ⟨ht', fun hmem => hlobby (hlobby' hmem), fun hmem => hgames (hgames' hmem)⟩

theorem Tidy.of_eq (hs : l'.sessions = l.sessions) (hm : l'.sessionManager = l.sessionManager)
    (hg : l'.gameSessionManager = l.gameSessionManager) (hc : l'.curSessionId = l.curSessionId) : Tidy l l' := by
  refine ⟨fun h => ⟨hm ▸ h.lobby, hg ▸ h.games⟩, fun _ sid s h => ⟨s, by rw [hs]; exact h, .inl ?_⟩, fun sid h => ?_, hc⟩
  · exact ⟨rfl, Iff.rfl, Iff.rfl, id, by rw [hm], by rw [hg]⟩
  · rw [hs, hm, hg]
    exact ⟨h, id, id⟩

namespace ServerLobbyThread

theorem setSession_self (l : ServerLobbyThread) (sid : SessionId) (s : SessionData) :
    (l.setSession sid s).sessions sid = some s := Function.update_self ..

theorem setSession_ne (hne : sid' ≠ sid) : (l.setSession sid s).sessions sid' = l.sessions sid' :=
  Function.update_of_ne hne ..

theorem tidy_setSession (hs : l.sessions sid = some s) (hgame : s'.game = s.game)
    (hin : s'.state = .game ↔ s.state = .game) (hclosed : s'.state = .closed ↔ s.state = .closed)
    (hplayer : s.playerData.isSome → s'.playerData.isSome) : Tidy l (l.setSession sid s') := by
  refine ⟨fun hm => ⟨hm.lobby, hm.games⟩, fun _ sid' t ht => ?_, fun sid' ht => ?_, rfl⟩
  · by_cases hsid : sid' = sid
    · subst hsid
      rw [hs] at ht
      cases ht
      exact ⟨s', setSession_self l sid' s', .inl ⟨hgame, hin, hclosed, hplayer, Iff.rfl, Iff.rfl⟩⟩
    · exact ⟨t, (setSession_ne hsid).trans ht, .inl ⟨rfl, Iff.rfl, Iff.rfl, id, Iff.rfl, Iff.rfl⟩⟩
  · have hsid : sid' ≠ sid := by
      rintro rfl
      rw [hs] at ht
      cases ht
    exact ⟨(setSession_ne hsid).trans ht, id, id⟩

theorem tidy_closeSession (l : ServerLobbyThread) (sid : SessionId) : Tidy l (l.closeSession sid) := by
  simp only [closeSession]
  split
  · exact Tidy.refl l
  · next s hs =>
      split_ifs with hclosed
      · exact Tidy.refl l
      · refine ⟨fun hm => ⟨hm.lobby.erase sid, hm.games.erase sid⟩, fun hm sid' t ht => ?_, fun sid' ht => ?_, rfl⟩
        · by_cases hsid : sid' = sid
          · subst hsid
            exact ⟨_, setSession_self l sid' _, .inr ⟨rfl, rfl, hm.lobby.not_mem_erase, hm.games.not_mem_erase⟩⟩
          · exact ⟨t, (setSession_ne hsid).trans ht,
              .inl ⟨rfl, Iff.rfl, Iff.rfl, id, List.mem_erase_of_ne hsid, List.mem_erase_of_ne hsid⟩⟩
        · have hsid : sid' ≠ sid := by
            rintro rfl
            rw [hs] at ht
            cases ht
          exact ⟨(setSession_ne hsid).trans ht, List.mem_of_mem_erase, List.mem_of_mem_erase⟩

theorem tidy_internalRemovePlayer (env : Environment) (l : ServerLobbyThread) (playerId : Nat) :
    Tidy l (l.internalRemovePlayer env playerId) := by
  simp only [internalRemovePlayer]
  split
  · exact tidy_closeSession l _
  · split
    · split_ifs
      · exact tidy_closeSession l _
      · exact Tidy.refl l
    · exact Tidy.refl l

theorem internalRemovePlayer_sessions {id : Nat} (hs : l.sessions sid = some s) (hp : s.playerData = some p)
    (hid : id ≠ p.uniqueId) : (l.internalRemovePlayer env id).sessions sid = some s := by
  have hclose (found : SessionId) (hfound : ∃ t, l.sessions found = some t ∧ playerId t = some id) :
      (l.closeSession found).sessions sid = some s := by
    have hne : sid ≠ found := by
      rintro rfl
      obtain ⟨t, ht, htid⟩ := hfound
      rw [hs] at ht
      cases ht
      simp only [playerId, hp, Option.map_some, Option.some.injEq] at htid
      exact hid htid.symm
    simp only [closeSession]
    split
    · exact hs
    · split_ifs
      · exact hs
      · exact (setSession_ne hne).trans hs
  simp only [internalRemovePlayer]
  split
  · next found hfind => exact hclose found (getSessionByUniquePlayerId_some hfind)
  · split
    · next found hfind =>
        split_ifs
        · exact hclose found (getSessionByUniquePlayerId_some hfind)
        · exact hs
    · exact hs

/-- The guid that a player names at his login is older than the one he gets there: the seat it finds is not one
that he took since. -/
def OldGuid (env : Environment) (s : SessionData) : Prop :=
  ∀ p, s.playerData = some p → env.getRejoinGame p.name p.oldGuid ≠ some p.uniqueId

theorem tidy_establishSession (c : ServerConfig) (hs : l.sessions sid = some s) (hgame : s.state ≠ .game)
    (hopen : s.state ≠ .closed) (hguid : OldGuid env s) : Tidy l (l.establishSession c env sid s) := by
  have hstate (k : ServerLobbyThread) (hk : k.sessions sid = some s) : Tidy k (k.setSessionState sid .established) := by
    simp only [setSessionState, hk]
    exact tidy_setSession hk rfl (iff_of_false (by simp) hgame) (iff_of_false (by simp) hopen) id
  have hremove (id : Nat) (p : PlayerData) (hp : s.playerData = some p) (hid : id ≠ p.uniqueId) :
      Tidy l ((l.internalRemovePlayer env id).setSessionState sid .established) :=
    (tidy_internalRemovePlayer env l id).trans (hstate _ (internalRemovePlayer_sessions hs hp hid))
  simp only [establishSession]
  split
  · exact tidy_closeSession l sid
  · next p hp =>
      split
      · next id hfound =>
          refine hremove id p hp fun hid => ?_
          split at hfound
          · cases hfound
          · rw [hid] at hfound
            exact hguid p hp hfound
      · split_ifs with hother hofficial
        · exact hremove _ p hp hother.2
        · exact tidy_closeSession l sid
        · exact hstate l hs

theorem tidy_noteInit (c : ServerConfig) (env : Environment) (l : ServerLobbyThread) (s : SessionData) :
    Tidy l (l.noteInit c env s) := by
  simp only [noteInit]
  split_ifs
  · exact Tidy.of_eq rfl rfl rfl rfl
  · exact Tidy.refl l

theorem tidy_authenticatePlayer (hs : l.sessions sid = some s) (m : InitMessage) :
    Tidy l (l.authenticatePlayer sid s m) := by
  simp only [authenticatePlayer]
  split_ifs
  · exact tidy_closeSession l sid
  · have hset : Tidy l (l.setSession sid { s with playerData := some (l.newPlayerData m) }) :=
      tidy_setSession hs rfl Iff.rfl Iff.rfl fun _ => rfl
    exact hset.trans (Tidy.of_eq rfl rfl rfl rfl)

theorem tidy_handleNetPacketInit (c : ServerConfig) (env : Environment) (hs : l.sessions sid = some s) (m : InitMessage) :
    Tidy l (l.handleNetPacketInit c env sid s m) := by
  have hnote := tidy_noteInit c env l s
  have hs' : (l.noteInit c env s).sessions sid = some s := by
    simp only [noteInit]
    split_ifs
    · exact hs
    · exact hs
  have hset : Tidy (l.noteInit c env s)
      ((l.noteInit c env s).setSession sid { s with password := m.clientUserData.getD s.password }) :=
    tidy_setSession hs' rfl Iff.rfl Iff.rfl id
  simp only [handleNetPacketInit]
  split_ifs
  · exact tidy_closeSession l sid
  · exact hnote.trans (tidy_closeSession _ sid)
  · exact hnote.trans (hset.trans (tidy_closeSession _ sid))
  · exact hnote.trans (hset.trans (tidy_authenticatePlayer (setSession_self _ sid _) m))
  · exact hnote.trans (hset.trans (tidy_closeSession _ sid))
  · exact hnote.trans (tidy_closeSession _ sid)
  · exact hnote.trans (tidy_closeSession _ sid)

theorem tidy_handleNetPacketAvatarHeader (hs : l.sessions sid = some s) (hstate : s.state = .init) (size type : Nat) :
    Tidy l (l.handleNetPacketAvatarHeader sid s size type) := by
  simp only [handleNetPacketAvatarHeader]
  split
  · exact Tidy.refl l
  · split_ifs
    · exact tidy_closeSession l sid
    · exact tidy_setSession hs rfl (by simp [hstate]) (by simp [hstate]) fun _ => rfl
    · exact tidy_closeSession l sid

theorem tidy_handleNetPacketAvatarFile (hs : l.sessions sid = some s) (blockSize : Nat) :
    Tidy l (l.handleNetPacketAvatarFile sid s blockSize) := by
  simp only [handleNetPacketAvatarFile]
  split
  · exact Tidy.refl l
  · split
    · exact tidy_closeSession l sid
    · split_ifs
      · exact Tidy.refl l
      · exact tidy_closeSession l sid
      · exact tidy_closeSession l sid
      · exact tidy_setSession hs rfl Iff.rfl Iff.rfl fun _ => rfl

/-- A session that has sent its avatar, or none, is established with other data for its avatar. -/
theorem tidy_establish_avatar (c : ServerConfig) (hs : l.sessions sid = some s) (hp : s.playerData = some p)
    (hgame : s.state ≠ .game) (hopen : s.state ≠ .closed) (hguid : OldGuid env s) (hash : Option Nat) :
    let s' := { s with playerData := some { p with avatarMD5 := hash, netAvatarFile := none } }
    Tidy l ((l.setSession sid s').establishSession c env sid s') := by
  intro s'
  have hset : Tidy l (l.setSession sid s') := tidy_setSession hs rfl Iff.rfl Iff.rfl fun _ => rfl
  refine hset.trans (tidy_establishSession c (setSession_self l sid s') hgame hopen fun q hq => ?_)
  cases hq
  exact hguid p hp

theorem tidy_handleNetPacketUnknownAvatar (c : ServerConfig) (hs : l.sessions sid = some s) (hgame : s.state ≠ .game)
    (hopen : s.state ≠ .closed) (hguid : OldGuid env s) : Tidy l (l.handleNetPacketUnknownAvatar c env sid s) := by
  simp only [handleNetPacketUnknownAvatar]
  split
  · exact Tidy.refl l
  · next p hp => exact tidy_establish_avatar c hs hp hgame hopen hguid none

theorem tidy_handleNetPacketAvatarEnd (c : ServerConfig) (hs : l.sessions sid = some s) (hgame : s.state ≠ .game)
    (hopen : s.state ≠ .closed) (hguid : OldGuid env s) : Tidy l (l.handleNetPacketAvatarEnd c env sid s) := by
  simp only [handleNetPacketAvatarEnd]
  split
  · exact Tidy.refl l
  · next p hp =>
      split_ifs
      · exact tidy_establish_avatar c hs hp hgame hopen hguid p.avatarMD5
      · exact tidy_establish_avatar c hs hp hgame hopen hguid none
      · exact tidy_closeSession l sid

def Joins : Msg → Prop
  | .joinNewGame | .joinExistingGame _ | .rejoinExistingGame _ => True
  | _ => False

theorem tidy_handlePacket (c : ServerConfig) (hs : l.sessions sid = some s) (hguid : OldGuid env s)
    (hmsg : (s.state = .init ∨ s.state = .receivingAvatar) ∨ ¬ Joins msg) :
    Tidy l (l.handlePacket c env sid s msg) := by
  have herror : Tidy l (l.sessionError sid) := tidy_closeSession l sid
  cases hstate : s.state with
  | init =>
      have hgame : s.state ≠ .game := by simp [hstate]
      have hopen : s.state ≠ .closed := by simp [hstate]
      cases msg with
      | init m => simpa only [handlePacket, hstate] using tidy_handleNetPacketInit c env hs m
      | authClientResponse =>
          simp only [handlePacket, hstate]
          exact tidy_setSession hs rfl (by simp) (by simp) id
      | avatarHeader size type =>
          simpa only [handlePacket, hstate] using tidy_handleNetPacketAvatarHeader hs hstate size type
      | unknownAvatar =>
          simpa only [handlePacket, hstate] using tidy_handleNetPacketUnknownAvatar c hs hgame hopen hguid
      | avatarData | avatarEnd | joinNewGame | joinExistingGame | rejoinExistingGame | lobbyRequest | other =>
          simpa only [handlePacket, hstate] using herror
  | receivingAvatar =>
      have hgame : s.state ≠ .game := by simp [hstate]
      have hopen : s.state ≠ .closed := by simp [hstate]
      cases msg with
      | avatarData blockSize => simpa only [handlePacket, hstate] using tidy_handleNetPacketAvatarFile hs blockSize
      | avatarEnd => simpa only [handlePacket, hstate] using tidy_handleNetPacketAvatarEnd c hs hgame hopen hguid
      | init | authClientResponse | avatarHeader | unknownAvatar | joinNewGame | joinExistingGame
      | rejoinExistingGame | lobbyRequest | other => simpa only [handlePacket, hstate] using herror
  | established | game | closed =>
      have hno : ¬ Joins msg := by simpa [hstate] using hmsg
      cases msg with
      | joinNewGame | joinExistingGame | rejoinExistingGame => exact absurd trivial hno
      | lobbyRequest => simpa only [handlePacket, hstate] using Tidy.refl l
      | init | authClientResponse | avatarHeader | unknownAvatar | avatarData | avatarEnd | other =>
          simpa only [handlePacket, hstate] using herror

def Lobbied (l : ServerLobbyThread) : Prop :=
  ∀ sid ∈ l.sessionManager, ∀ s, l.sessions sid = some s → s.state ≠ .game ∧ s.state ≠ .closed

theorem tidy_userValid (c : ServerConfig) (playerId : Nat) (data : DBPlayerData) (hlobby : Lobbied l)
    (hguid : ∀ sid s, l.getSessionByUniquePlayerId l.sessionManager playerId true = some sid → l.sessions sid = some s →
      OldGuid env s) : Tidy l (l.userValid c env playerId data) := by
  simp only [userValid]
  split
  · exact Tidy.refl l
  · next sid hfind =>
      have hmem : sid ∈ l.sessionManager := List.mem_of_find?_eq_some hfind
      split
      · exact Tidy.refl l
      · next s hs =>
          obtain ⟨hgame, hopen⟩ := hlobby sid hmem s hs
          have hmap (map : FailedLoginMap) : Tidy l { l with failedLoginMap := map } := Tidy.of_eq rfl rfl rfl rfl
          split_ifs
          · exact tidy_closeSession l sid
          · exact tidy_closeSession l sid
          · exact (hmap _).trans (tidy_establishSession c hs hgame hopen (hguid sid s hfind hs))
          · exact (hmap _).trans (tidy_closeSession _ sid)

theorem tidy_userInvalid (l : ServerLobbyThread) (playerId : Nat) (now : Int) : Tidy l (l.userInvalid playerId now) := by
  simp only [userInvalid]
  split
  · exact Tidy.refl l
  · split
    · exact Tidy.refl l
    · next s _ =>
        have hmap (map : FailedLoginMap) : Tidy l { l with failedLoginMap := map } := Tidy.of_eq rfl rfl rfl rfl
        exact (hmap _).trans (tidy_closeSession _ _)

theorem tidy_userBlocked (l : ServerLobbyThread) (playerId : Nat) : Tidy l (l.userBlocked playerId) := by
  simp only [userBlocked]
  split
  · exact Tidy.refl l
  · exact tidy_closeSession l _

end ServerLobbyThread

end PokerTH.Lobby
