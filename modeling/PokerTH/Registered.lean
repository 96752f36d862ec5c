import PokerTH.SessionSteps

namespace PokerTH.Lobby

open ServerLobbyThread

variable {c : ServerConfig} {env : Environment} {l l' k : ServerLobbyThread} {sid : SessionId} {s s' : SessionData}
  {p : PlayerData} {msg : Msg} {m : InitMessage}

/-- Every session is registered where its state says. -/
structure Registered (l : ServerLobbyThread) : Prop where
  lobby : ∀ sid s, l.sessions sid = some s → (sid ∈ l.sessionManager ↔ s.state ≠ .game ∧ s.state ≠ .closed)
  games : ∀ sid s, l.sessions sid = some s → (sid ∈ l.gameSessionManager ↔ s.state = .game)
  pointer : ∀ sid s, l.sessions sid = some s → (s.game.isSome ↔ s.state = .game)
  unknown : ∀ sid, l.sessions sid = none → sid ∉ l.sessionManager ∧ sid ∉ l.gameSessionManager
  managers : Managers l
  newSession : ∀ sid s, l.sessions sid = some s → sid < l.curSessionId

def idOf (l : ServerLobbyThread) (sid : SessionId) : Option Nat := (l.sessions sid).bind playerId

structure UniqueIds (l : ServerLobbyThread) : Prop where
  bound : ∀ sid id, idOf l sid = some id → 0 < id ∧ id ≤ l.curUniquePlayerId
  unique : ∀ sid sid' id, idOf l sid = some id → idOf l sid' = some id → sid = sid'

structure KeepsIds (l l' : ServerLobbyThread) : Prop where
  ids : ∀ sid id, idOf l' sid = some id → idOf l sid = some id
  counter : l.curUniquePlayerId ≤ l'.curUniquePlayerId

theorem KeepsIds.refl (l : ServerLobbyThread) : KeepsIds l l := ⟨fun _ _ => id, le_refl _⟩

theorem KeepsIds.trans (h : KeepsIds l k) (h' : KeepsIds k l') : KeepsIds l l' :=
  ⟨fun sid id hid => h.ids sid id (h'.ids sid id hid), h.counter.trans h'.counter⟩

theorem KeepsIds.of_sessions (hs : l'.sessions = l.sessions) (hc : l.curUniquePlayerId ≤ l'.curUniquePlayerId) :
    KeepsIds l l' := by
  refine ⟨fun sid id hid => ?_, hc⟩
  rwa [idOf, hs] at hid

theorem Closes.keepsIds (h : Closes l l') : KeepsIds l l' := by
  refine ⟨fun sid id hid => ?_, h.counter.ge⟩
  obtain ⟨s', hs', hid'⟩ := Option.bind_eq_some_iff.mp hid
  obtain ⟨s, hs, hsame, _⟩ := h.session sid s' hs'
  exact Option.bind_eq_some_iff.mpr ⟨s, hs, hsame.symm.trans hid'⟩

theorem UniqueIds.keeps (h : UniqueIds l) (hk : KeepsIds l l') : UniqueIds l' := by
  refine ⟨fun sid id hid => ?_, fun sid sid' id hid hid' => h.unique sid sid' id (hk.ids sid id hid) (hk.ids sid' id hid')⟩
  obtain ⟨hpos, hle⟩ := h.bound sid id (hk.ids sid id hid)
  exact ⟨hpos, hle.trans hk.counter⟩

namespace ServerLobbyThread

theorem keepsIds_setSession (hid : ∀ id, playerId s' = some id → idOf l sid = some id) :
    KeepsIds l (l.setSession sid s') := by
  refine ⟨fun t id ht => ?_, le_refl _⟩
  by_cases hsid : t = sid
  · subst hsid
    rw [idOf, setSession_self] at ht
    exact hid id ht
  · rwa [idOf, setSession_ne hsid] at ht

theorem keepsIds_same (hs : l.sessions sid = some s) (hid : playerId s' = playerId s) : KeepsIds l (l.setSession sid s') := by
  apply keepsIds_setSession
  intro id h
  rw [idOf, hs, Option.bind_some, ← hid]
  exact h

theorem keepsIds_closeSession (l : ServerLobbyThread) (sid : SessionId) : KeepsIds l (l.closeSession sid) :=
  (closes_closeSession l sid).keepsIds

theorem keepsIds_establishSession (c : ServerConfig) (env : Environment) (l : ServerLobbyThread) (sid : SessionId)
    (s : SessionData) : KeepsIds l (l.establishSession c env sid s) := by
  have hstate (k : ServerLobbyThread) : KeepsIds k (k.setSessionState sid .established) := by
    simp only [setSessionState]
    split
    · exact KeepsIds.refl k
    · next s hs => exact keepsIds_same hs rfl
  have hremove (id : Nat) := (closes_internalRemovePlayer env l id).keepsIds.trans (hstate _)
  simp only [establishSession]
  split
  · exact keepsIds_closeSession l sid
  · split
    · exact hremove _
    · split_ifs
      · exact hremove _
      · exact keepsIds_closeSession l sid
      · exact hstate l

/-- A player who is asked for in the database gets an id that nobody had before. -/
theorem uniqueIds_authenticatePlayer (hids : UniqueIds l) (m : InitMessage) :
    UniqueIds (l.authenticatePlayer sid s m) := by
  simp only [authenticatePlayer]
  split_ifs
  · exact hids.keeps (keepsIds_closeSession l sid)
  · have hnew (t : SessionId) (id : Nat) (ht : idOf (l.setSession sid { s with playerData := some (l.newPlayerData m) }) t =
        some id) : t = sid ∧ id = l.curUniquePlayerId + 1 ∨ t ≠ sid ∧ idOf l t = some id := by
      by_cases hsid : t = sid
      · subst hsid
        rw [idOf, setSession_self] at ht
        exact .inl ⟨rfl, (Option.some.inj ht).symm⟩
      · rw [idOf, setSession_ne hsid] at ht
        exact .inr ⟨hsid, ht⟩
    refine ⟨fun t id ht => ?_, fun t t' id ht ht' => ?_⟩
    · rcases hnew t id ht with ⟨-, rfl⟩ | ⟨-, hold⟩
      · exact ⟨Nat.succ_pos _, le_refl _⟩
      · obtain ⟨hpos, hle⟩ := hids.bound t id hold
        exact ⟨hpos, hle.trans (Nat.le_succ _)⟩
    · rcases hnew t id ht with ⟨rfl, rfl⟩ | ⟨-, hold⟩
      · rcases hnew t' _ ht' with ⟨rfl, -⟩ | ⟨-, hold'⟩
        · rfl
        · exact absurd (hids.bound t' _ hold').2 (by omega)
      · rcases hnew t' id ht' with ⟨-, rfl⟩ | ⟨-, hold'⟩
        · exact absurd (hids.bound t _ hold).2 (by omega)
        · exact hids.unique t t' id hold hold'

theorem keepsIds_noteInit (c : ServerConfig) (env : Environment) (l : ServerLobbyThread) (s : SessionData) :
    KeepsIds l (l.noteInit c env s) := by
  simp only [noteInit]
  split_ifs
  · exact .of_sessions rfl (le_refl _)
  · exact .refl l

theorem uniqueIds_handleNetPacketInit (hids : UniqueIds l) (hs : l.sessions sid = some s) (m : InitMessage) :
    UniqueIds (l.handleNetPacketInit c env sid s m) := by
  have hnote := hids.keeps (keepsIds_noteInit c env l s)
  have hs' : (l.noteInit c env s).sessions sid = some s := by
    simp only [noteInit]
    split_ifs <;> exact hs
  have hpassword : KeepsIds (l.noteInit c env s) ((l.noteInit c env s).setSession sid
      { s with password := m.clientUserData.getD s.password }) := keepsIds_same hs' rfl
  have hset := hnote.keeps hpassword
  simp only [handleNetPacketInit]
  split_ifs
  · exact hids.keeps (keepsIds_closeSession l sid)
  · exact hnote.keeps (keepsIds_closeSession _ sid)
  · exact hset.keeps (keepsIds_closeSession _ sid)
  · exact uniqueIds_authenticatePlayer hset m
  · exact hset.keeps (keepsIds_closeSession _ sid)
  · exact hnote.keeps (keepsIds_closeSession _ sid)
  · exact hnote.keeps (keepsIds_closeSession _ sid)

theorem keepsIds_establish_avatar (hs : l.sessions sid = some s) (hp : s.playerData = some p) (hash : Option Nat) :
    let s' := { s with playerData := some { p with avatarMD5 := hash, netAvatarFile := none } }
    KeepsIds l ((l.setSession sid s').establishSession c env sid s') := by
  intro s'
  apply (keepsIds_same hs _).trans (keepsIds_establishSession c env _ sid s')
  rw [playerId, playerId, hp]
  rfl

theorem keepsIds_moveSessionToGame (hs : l.sessions sid = some s) (gameId : Nat) :
    KeepsIds l (l.moveSessionToGame sid s gameId) := by
  have hset (t : SessionData) (ht : playerId t = playerId s) : KeepsIds l (l.setSession sid t) := keepsIds_same hs ht
  simp only [moveSessionToGame]
  split_ifs
  · refine (hset { s with state := .game } rfl).trans ((KeepsIds.of_sessions ?_ ?_).trans (keepsIds_closeSession _ sid))
    · rfl
    · exact le_refl _
  · refine (hset { s with state := .game, game := some gameId } rfl).trans (KeepsIds.of_sessions ?_ (le_refl _))
    simp [setSession]

theorem keepsIds_handleReAddedSession (hs : l.sessions sid = some s) : KeepsIds l (l.handleReAddedSession sid s) := by
  have hset (t : SessionData) (ht : playerId t = playerId s) : KeepsIds l (l.setSession sid t) := keepsIds_same hs ht
  simp only [handleReAddedSession]
  split_ifs
  · refine (hset { s with game := none, state := .established } rfl).trans (KeepsIds.of_sessions ?_ (le_refl _))
    simp [setSession]
  · refine (hset { s with game := none } rfl).trans ((KeepsIds.of_sessions ?_ ?_).trans (keepsIds_closeSession _ sid))
    · rfl
    · exact le_refl _

theorem keepsIds_addConnection (l : ServerLobbyThread) (clientAddr : Address) (webData : Bool) :
    KeepsIds l (l.addConnection clientAddr webData) := by
  have hset (state : SessionState) : KeepsIds l (l.setSession l.curSessionId
      ⟨state, clientAddr, webData, none, [], 0, none⟩) := keepsIds_setSession (by simp [playerId])
  simp only [addConnection]
  split_ifs
  · exact (hset .closed).trans (.of_sessions rfl (le_refl _))
  · exact (hset .init).trans (.of_sessions rfl (le_refl _))

theorem keepsIds_userInvalid (l : ServerLobbyThread) (pid : Nat) (now : Int) : KeepsIds l (l.userInvalid pid now) := by
  have hmap (map : FailedLoginMap) : KeepsIds l { l with failedLoginMap := map } := .of_sessions rfl (le_refl _)
  simp only [userInvalid]
  split
  · exact .refl l
  · split
    · exact .refl l
    · exact (hmap _).trans (keepsIds_closeSession _ _)

theorem keepsIds_userBlocked (l : ServerLobbyThread) (pid : Nat) : KeepsIds l (l.userBlocked pid) := by
  simp only [userBlocked]
  split
  · exact .refl l
  · exact keepsIds_closeSession l _

theorem keepsIds_userValid (l : ServerLobbyThread) (pid : Nat) (data : DBPlayerData) :
    KeepsIds l (l.userValid c env pid data) := by
  have hmap (map : FailedLoginMap) : KeepsIds l { l with failedLoginMap := map } := .of_sessions rfl (le_refl _)
  simp only [userValid]
  split
  · exact .refl l
  · next sid _ =>
      split
      · exact .refl l
      · next s _ =>
          split_ifs
          · exact keepsIds_closeSession l sid
          · exact keepsIds_closeSession l sid
          · exact (hmap _).trans (keepsIds_establishSession c env _ sid s)
          · exact (hmap _).trans (keepsIds_closeSession _ sid)

theorem uniqueIds_handlePacket (hids : UniqueIds l) (hs : l.sessions sid = some s) :
    UniqueIds (l.handlePacket c env sid s msg) := by
  have herror : UniqueIds (l.sessionError sid) := hids.keeps (keepsIds_closeSession l sid)
  have hset (s' : SessionData) (hid : playerId s' = playerId s) : UniqueIds (l.setSession sid s') :=
    hids.keeps (keepsIds_same hs hid)
  cases hstate : s.state with
  | init =>
      cases msg with
      | init m => simpa only [handlePacket, hstate] using uniqueIds_handleNetPacketInit hids hs m
      | authClientResponse =>
          simp only [handlePacket, hstate]
          exact hset _ rfl
      | avatarHeader size type =>
          simp only [handlePacket, hstate, handleNetPacketAvatarHeader]
          split
          · exact hids
          · next p hp =>
              split_ifs
              · exact herror
              · exact hset _ (by rw [playerId, playerId, hp]; rfl)
              · exact herror
      | unknownAvatar =>
          simp only [handlePacket, hstate, handleNetPacketUnknownAvatar]
          split
          · exact hids
          · next p hp => exact hids.keeps (hstate ▸ keepsIds_establish_avatar hs hp none)
      | avatarData | avatarEnd | joinNewGame | joinExistingGame | rejoinExistingGame | lobbyRequest | other =>
          simpa only [handlePacket, hstate] using herror
  | receivingAvatar =>
      cases msg with
      | avatarData blockSize =>
          simp only [handlePacket, hstate, handleNetPacketAvatarFile]
          split
          · exact hids
          · next p hp =>
              split
              · exact herror
              · split_ifs
                · exact hids
                · exact herror
                · exact herror
                · exact hset _ (by rw [playerId, playerId, hp]; rfl)
      | avatarEnd =>
          simp only [handlePacket, hstate, handleNetPacketAvatarEnd]
          split
          · exact hids
          · next p hp =>
              split_ifs
              · exact hids.keeps (hstate ▸ keepsIds_establish_avatar hs hp p.avatarMD5)
              · exact hids.keeps (hstate ▸ keepsIds_establish_avatar hs hp none)
              · exact herror
      | init | authClientResponse | avatarHeader | unknownAvatar | joinNewGame | joinExistingGame
      | rejoinExistingGame | lobbyRequest | other => simpa only [handlePacket, hstate] using herror
  | established | game | closed =>
      cases msg with
      | joinNewGame | joinExistingGame | rejoinExistingGame =>
          simp only [handlePacket, hstate, handleNetPacketJoin]
          split
          · exact hids.keeps (keepsIds_moveSessionToGame hs _)
          · exact hids
      | lobbyRequest => simpa only [handlePacket, hstate] using hids
      | init | authClientResponse | avatarHeader | unknownAvatar | avatarData | avatarEnd | other =>
          simpa only [handlePacket, hstate] using herror

theorem registered_tidy (hr : Registered l) (ht : Tidy l l') : Registered l' := by
  have hsession (sid : SessionId) (s' : SessionData) (hs' : l'.sessions sid = some s') :
      ∃ s, l.sessions sid = some s ∧ (Stays l l' sid s s' ∨ Gone l' sid s') := by
    cases hs : l.sessions sid with
    | none =>
        rw [(ht.unknown sid hs).1] at hs'
        cases hs'
    | some s =>
        obtain ⟨t, ht', hcases⟩ := ht.session hr.managers sid s hs
        cases Option.some.inj (hs'.symm.trans ht')
        exact ⟨s, rfl, hcases⟩
  refine ⟨fun sid s' hs' => ?_, fun sid s' hs' => ?_, fun sid s' hs' => ?_, fun sid hs' => ?_, ht.managers hr.managers,
    fun sid s' hs' => ?_⟩
  · obtain ⟨s, hs, hstays | hgone⟩ := hsession sid s' hs'
    · rw [hstays.lobby, hr.lobby sid s hs, ne_eq, ne_eq, ne_eq, ne_eq, hstays.inGame, hstays.closed]
    · exact iff_of_false hgone.lobby fun h => h.2 hgone.closed
  · obtain ⟨s, hs, hstays | hgone⟩ := hsession sid s' hs'
    · rw [hstays.games, hr.games sid s hs, hstays.inGame]
    · exact iff_of_false hgone.games (by simp [hgone.closed])
  · obtain ⟨s, hs, hstays | hgone⟩ := hsession sid s' hs'
    · rw [hstays.game, hr.pointer sid s hs, hstays.inGame]
    · exact iff_of_false (by simp [hgone.game]) (by simp [hgone.closed])
  · have hs : l.sessions sid = none := by
      by_contra hsome
      obtain ⟨s, hs⟩ := Option.ne_none_iff_exists'.mp hsome
      obtain ⟨t, ht', _⟩ := ht.session hr.managers sid s hs
      rw [hs'] at ht'
      cases ht'
    obtain ⟨hlobby, hgames⟩ := hr.unknown sid hs
    obtain ⟨_, hlobby', hgames'⟩ := ht.unknown sid hs
    exact ⟨fun h => hlobby (hlobby' h), fun h => hgames (hgames' h)⟩
  · obtain ⟨s, hs, _⟩ := hsession sid s' hs'
    rw [ht.counter]
    exact hr.newSession sid s hs

theorem registered_moves (hr : Registered l) (hsessions : ∀ sid' ≠ sid, l'.sessions sid' = l.sessions sid')
    (hlobby : ∀ sid' ≠ sid, (sid' ∈ l'.sessionManager ↔ sid' ∈ l.sessionManager))
    (hgames : ∀ sid' ≠ sid, (sid' ∈ l'.gameSessionManager ↔ sid' ∈ l.gameSessionManager)) (hs' : l'.sessions sid = some s')
    (hplace : (sid ∈ l'.sessionManager ↔ s'.state ≠ .game ∧ s'.state ≠ .closed) ∧
      (sid ∈ l'.gameSessionManager ↔ s'.state = .game) ∧ (s'.game.isSome ↔ s'.state = .game)) (hm : Managers l')
    (hnew : sid < l'.curSessionId ∧ l.curSessionId ≤ l'.curSessionId) : Registered l' := by
  refine ⟨fun t u hu => ?_, fun t u hu => ?_, fun t u hu => ?_, fun t hu => ?_, hm, fun t u hu => ?_⟩ <;>
    by_cases ht : t = sid
  · subst ht
    cases Option.some.inj (hs'.symm.trans hu)
    exact hplace.1
  · rw [hlobby t ht]
    exact hr.lobby t u ((hsessions t ht).symm.trans hu)
  · subst ht
    cases Option.some.inj (hs'.symm.trans hu)
    exact hplace.2.1
  · rw [hgames t ht]
    exact hr.games t u ((hsessions t ht).symm.trans hu)
  · subst ht
    cases Option.some.inj (hs'.symm.trans hu)
    exact hplace.2.2
  · exact hr.pointer t u ((hsessions t ht).symm.trans hu)
  · subst ht
    rw [hs'] at hu
    cases hu
  · rw [hlobby t ht, hgames t ht]
    exact hr.unknown t ((hsessions t ht).symm.trans hu)
  · exact ht ▸ hnew.1
  · exact (hr.newSession t u ((hsessions t ht).symm.trans hu)).trans_le hnew.2

theorem registered_addConnection (hr : Registered l) (clientAddr : Address) (webData : Bool) :
    Registered (l.addConnection clientAddr webData) := by
  have hnone : l.sessions l.curSessionId = none := by
    by_contra hsome
    obtain ⟨s, hs⟩ := Option.ne_none_iff_exists'.mp hsome
    exact lt_irrefl _ (hr.newSession _ s hs)
  obtain ⟨hlobby, hgames⟩ := hr.unknown _ hnone
  simp only [addConnection]
  split_ifs
  · exact registered_moves hr (fun _ hne => setSession_ne hne) (fun _ _ => Iff.rfl) (fun _ _ => Iff.rfl) (setSession_self _ _ _)
      ⟨iff_of_false hlobby (by simp), iff_of_false hgames (by simp), by simp⟩ ⟨hr.managers.lobby, hr.managers.games⟩
      ⟨Nat.lt_succ_self _, Nat.le_succ _⟩
  · exact registered_moves hr (fun _ hne => setSession_ne hne) (fun _ hne => Server.mem_orderedInsert_ne hne) (fun _ _ => Iff.rfl)
      (setSession_self _ _ _)
      ⟨iff_of_true ((List.mem_orderedInsert _).mpr (.inl rfl)) (by simp), iff_of_false hgames (by simp), by simp⟩
      ⟨Server.nodup_orderedInsert hr.managers.lobby hlobby, hr.managers.games⟩ ⟨Nat.lt_succ_self _, Nat.le_succ _⟩

theorem registered_moveSessionToGame (hr : Registered l) (hs : l.sessions sid = some s) (hgame : s.state ≠ .game)
    (gameId : Nat) : Registered (l.moveSessionToGame sid s gameId) := by
  have hnot : sid ∉ l.gameSessionManager := fun h => hgame ((hr.games sid s hs).mp h)
  obtain ⟨hself, hothers, hlobby, hgames, hcount⟩ := Server.joining_moveSessionToGame s gameId hnot
  apply registered_moves hr hothers _ _ hself
  · rw [hlobby, hgames]
    exact ⟨iff_of_false hr.managers.lobby.not_mem_erase (by simp),
      iff_of_true ((List.mem_orderedInsert _).mpr (.inl rfl)) rfl, by simp⟩
  · refine ⟨?_, ?_⟩
    · rw [hlobby]
      exact hr.managers.lobby.erase sid
    · rw [hgames]
      exact Server.nodup_orderedInsert hr.managers.games hnot
  · rw [hcount]
    exact ⟨hr.newSession sid s hs, le_refl _⟩
  · intro t ht
    rw [hlobby]
    exact List.mem_erase_of_ne ht
  · intro t ht
    rw [hgames]
    exact Server.mem_orderedInsert_ne ht

theorem registered_handleReAddedSession (hr : Registered l) (hs : l.sessions sid = some s) (hgame : s.state = .game) :
    Registered (l.handleReAddedSession sid s) := by
  have hnot : sid ∉ l.sessionManager := fun h => ((hr.lobby sid s hs).mp h).1 hgame
  have hopen : s.state ≠ .closed := by simp [hgame]
  have hreceived := Server.received_handleReAddedSession hopen hr.managers hnot
  obtain ⟨s', hs', hnone, hout, hcases⟩ := hreceived.placed
  apply registered_moves hr hreceived.sessions hreceived.lobby hreceived.games hs' _ hreceived.managers
  · rw [hreceived.counter]
    exact ⟨hr.newSession sid s hs, le_refl _⟩
  · rcases hcases with ⟨hclosed, hgone⟩ | ⟨hestablished, hin⟩
    · exact ⟨iff_of_false hgone (by simp [hclosed]), iff_of_false hout (by simp [hclosed]), by simp [hnone, hclosed]⟩
    · exact ⟨iff_of_true hin (by simp [hestablished]), iff_of_false hout (by simp [hestablished]),
        by simp [hnone, hestablished]⟩

/-- A server without a player database lets a player in under an invalid id of the database. -/
def fireLogin (c : ServerConfig) (l : ServerLobbyThread) : Event → Option ServerLobbyThread
  | .userValid playerId dbPlayerData env =>
      if playerId ∈ l.pendingLogins then some ((l.answer playerId).userValid c env playerId dbPlayerData) else none
  | e => l.fire c e

/-- No closed session is led into a game, and nobody comes in with an old guid for a seat that he has taken since. -/
def Orderly (l : ServerLobbyThread) : Event → Prop
  | .packet sid msg env => ∀ s, l.sessions sid = some s →
      OldGuid env s ∧ ¬ (s.state = .closed ∧ s.playerData.isSome ∧ Joins msg ∧ (env.admits msg).isSome)
  | .userValid pid _ env => ∀ sid s, l.getSessionByUniquePlayerId l.sessionManager pid true = some sid →
      l.sessions sid = some s → OldGuid env s
  | _ => True

theorem registered_dispatchPacket (hr : Registered l) (horderly : Orderly l (.packet sid msg env)) :
    Registered (l.dispatchPacket c env sid msg) := by
  simp only [dispatchPacket]
  split
  · exact hr
  · next s hs =>
      obtain ⟨hguid, hclosed⟩ := horderly s hs
      split_ifs with hgame
      · exact hr
      · have hstate : s.state ≠ .game := fun h => hgame ((hr.pointer sid s hs).mpr h)
        by_cases htidy : (s.state = .init ∨ s.state = .receivingAvatar) ∨ ¬ Joins msg
        · exact registered_tidy hr (tidy_handlePacket c hs hguid htidy)
        · obtain ⟨hin, hjoins⟩ := not_or.mp htidy
          have hjoin : Registered (l.handleNetPacketJoin env sid s msg) := by
            simp only [handleNetPacketJoin]
            split
            · exact registered_moveSessionToGame hr hs hstate _
            · exact hr
          cases hcase : s.state with
          | init => exact absurd (.inl hcase) hin
          | receivingAvatar => exact absurd (.inr hcase) hin
          | game => exact absurd hcase hstate
          | established | closed =>
              cases msg with
              | joinNewGame | joinExistingGame | rejoinExistingGame => simpa only [handlePacket, hcase] using hjoin
              | init | authClientResponse | avatarHeader | unknownAvatar | avatarData | avatarEnd | lobbyRequest | other =>
                  exact absurd id hjoins

/-- Every step of the server keeps the sessions registered, and their players' ids apart. -/
theorem registered_fire {e : Event} (hr : Registered l) (hids : UniqueIds l) (hfire : l.fireLogin c e = some l')
    (horderly : Orderly l e) : Registered l' ∧ UniqueIds l' := by
  have hsame (k : ServerLobbyThread) (hs : k.sessions = l.sessions) (hm : k.sessionManager = l.sessionManager)
      (hg : k.gameSessionManager = l.gameSessionManager) (hc : k.curSessionId = l.curSessionId)
      (hcount : l.curUniquePlayerId ≤ k.curUniquePlayerId) : Registered k ∧ UniqueIds k :=
    ⟨registered_tidy hr (Tidy.of_eq hs hm hg hc), hids.keeps (.of_sessions hs hcount)⟩
  have hanswer (pid : Nat) : Registered (l.answer pid) ∧ UniqueIds (l.answer pid) :=
    hsame (l.answer pid) rfl rfl rfl rfl (le_refl _)
  cases e with
  | addConnection clientAddr webData =>
      cases hfire
      exact ⟨registered_addConnection hr clientAddr webData, hids.keeps (keepsIds_addConnection l clientAddr webData)⟩
  | packet sid msg env =>
      cases hfire
      refine ⟨registered_dispatchPacket hr horderly, ?_⟩
      simp only [dispatchPacket]
      split
      · exact hids
      · next s hs =>
          split_ifs
          · exact hids
          · exact uniqueIds_handlePacket hids hs
  | userValid pid data env =>
      simp only [fireLogin] at hfire
      split_ifs at hfire
      cases hfire
      obtain ⟨hr', hids'⟩ := hanswer pid
      refine ⟨registered_tidy hr' (tidy_userValid c pid data ?_ horderly), hids'.keeps (keepsIds_userValid _ pid data)⟩
      exact fun sid hmem s hs => (hr'.lobby sid s hs).mp hmem
  | userInvalid pid now =>
      simp only [fireLogin, fire] at hfire
      split_ifs at hfire
      cases hfire
      obtain ⟨hr', hids'⟩ := hanswer pid
      exact ⟨registered_tidy hr' (tidy_userInvalid _ pid now), hids'.keeps (keepsIds_userInvalid _ pid now)⟩
  | userBlocked pid =>
      simp only [fireLogin, fire] at hfire
      split_ifs at hfire
      cases hfire
      obtain ⟨hr', hids'⟩ := hanswer pid
      exact ⟨registered_tidy hr' (tidy_userBlocked _ pid), hids'.keeps (keepsIds_userBlocked _ pid)⟩
  | closeSession sid =>
      cases hfire
      exact ⟨registered_tidy hr (tidy_closeSession l sid), hids.keeps (keepsIds_closeSession l sid)⟩
  | reAddSession sid =>
      simp only [fireLogin, fire] at hfire
      split at hfire
      · next s hs =>
          split_ifs at hfire with hgame
          cases hfire
          exact ⟨registered_handleReAddedSession hr hs ((hr.pointer sid s hs).mp hgame.1),
            hids.keeps (keepsIds_handleReAddedSession hs)⟩
      · cases hfire
  | addComputerPlayer =>
      simp only [fireLogin, fire] at hfire
      split_ifs at hfire
      cases hfire
      exact hsame _ rfl rfl rfl rfl (Nat.le_succ _)
  | timerUpdateClientLoginLock now | timerCleanupRateMaps now =>
      cases hfire
      exact hsame _ rfl rfl rfl rfl (le_refl _)

theorem registered_initial : Registered initial := by
  refine ⟨?_, ?_, ?_, fun _ _ => ?_, ⟨List.nodup_nil, List.nodup_nil⟩, ?_⟩
  · rintro sid s ⟨⟩
  · rintro sid s ⟨⟩
  · rintro sid s ⟨⟩
  · exact ⟨List.not_mem_nil, List.not_mem_nil⟩
  · rintro sid s ⟨⟩

theorem uniqueIds_initial : UniqueIds initial := by
  refine ⟨?_, ?_⟩
  · rintro sid id ⟨⟩
  · rintro sid sid' id ⟨⟩

end ServerLobbyThread

end PokerTH.Lobby
