import PokerTH.LobbyRun

namespace PokerTH.Lobby

open Runs ServerLobbyThread

variable {c : ServerConfig} {env : Environment} {hist : History} {l l' k : ServerLobbyThread}
  {sid : SessionId} {s : SessionData} {who : SessionId → Prop} {e : Event} {m : InitMessage} {msg : Msg} {pid : Nat}

def answered (hist : History) : List Nat := hist.filterMap fun x => x.2.answers

structure Sound (hist : History) (l : ServerLobbyThread) : Prop where
  loggedIn : ∀ sid s, l.sessions sid = some s → InLobby s → ∃ pid, playerId s = some pid ∧ LoggedIn hist sid pid
  nodup : (answered hist ++ l.pendingLogins).Nodup
  bound : ∀ pid ∈ answered hist ++ l.pendingLogins, pid ≤ l.curUniquePlayerId

theorem Sound.changes (hsound : Sound hist l) (hc : Changes who l l')
    (hwho : ∀ sid s, who sid → l.sessions sid = some s → ∃ pid, playerId s = some pid ∧ LoggedIn hist sid pid) :
    Sound hist l' := by
  refine ⟨fun sid s' hs' hin' => ?_, ?_, ?_⟩
  · obtain ⟨s, hs, hid, hin⟩ := hc.session sid s' hs' hin'
    rw [hid]
    rcases hin with hin | hin
    · exact hsound.loggedIn sid s hs hin
    · exact hwho sid s hin hs
  · rw [hc.pending]
    exact hsound.nodup
  · rw [hc.pending, hc.counter]
    exact hsound.bound

theorem Sound.unchanged (hsound : Sound hist l) (hc : Changes (fun _ => False) l l') : Sound hist l' :=
  hsound.changes hc fun _ _ h => h.elim

theorem Sound.closes (hsound : Sound hist l) (hc : Closes l l') : Sound hist l' := hsound.unchanged hc.changes

theorem LoggedIn.mem_answered (hlog : LoggedIn hist sid pid) : pid ∈ answered hist := by
  obtain ⟨l, s, data, env, hmem, _⟩ := hlog.valid
  exact List.mem_filterMap.mpr ⟨_, hmem, rfl⟩

theorem LoggedIn.snoc (hlog : LoggedIn hist sid pid) (hnew : ∀ pid', e.answers = some pid' → pid' ∉ answered hist) :
    LoggedIn (hist ++ [(l, e)]) sid pid := by
  have hother (h : e.answers = some pid) : False := hnew pid h hlog.mem_answered
  refine ⟨?_, fun l' now hmem => ?_, fun l' hmem => ?_⟩
  · obtain ⟨l', s, data, env, hmem, hvalid⟩ := hlog.valid
    exact ⟨l', s, data, env, List.mem_append_left _ hmem, hvalid⟩
  · rcases List.mem_append.mp hmem with hmem | hmem
    · exact hlog.notInvalid l' now hmem
    · cases List.mem_singleton.mp hmem
      exact hother rfl
  · rcases List.mem_append.mp hmem with hmem | hmem
    · exact hlog.notBlocked l' hmem
    · cases List.mem_singleton.mp hmem
      exact hother rfl

theorem answered_snoc (hist : History) (l : ServerLobbyThread) (e : Event) :
    answered (hist ++ [(l, e)]) = answered hist ++ e.answers.toList := by
  simp only [answered, List.filterMap_append, List.append_cancel_left_eq]
  cases h : e.answers <;> simp [h]

theorem Sound.event (hsound : Sound hist l) (he : e.answers = none) : Sound (hist ++ [(l, e)]) l := by
  have hsame : answered (hist ++ [(l, e)]) = answered hist := by simp [answered_snoc, he]
  refine ⟨fun sid s hs hin => ?_, ?_, ?_⟩
  · obtain ⟨pid, hid, hlog⟩ := hsound.loggedIn sid s hs hin
    exact ⟨pid, hid, hlog.snoc (by simp [he])⟩
  · rw [hsame]
    exact hsound.nodup
  · rw [hsame]
    exact hsound.bound

theorem Sound.answer (hsound : Sound hist l) (he : e.answers = some pid) (hpending : pid ∈ l.pendingLogins) :
    pid ∉ answered hist ∧ Sound (hist ++ [(l, e)]) (l.answer pid) := by
  have hnew : pid ∉ answered hist := fun hmem => List.disjoint_of_nodup_append hsound.nodup hmem hpending
  have hperm : (answered (hist ++ [(l, e)]) ++ (l.answer pid).pendingLogins).Perm
      (answered hist ++ l.pendingLogins) := by
    rw [answered_snoc, he, List.append_assoc]
    exact (List.perm_cons_erase hpending).symm.append_left _
  refine ⟨hnew, ⟨fun sid s hs hin => ?_, hperm.nodup_iff.mpr hsound.nodup, fun p hp => ?_⟩⟩
  · obtain ⟨p, hid, hlog⟩ := hsound.loggedIn sid s hs hin
    refine ⟨p, hid, hlog.snoc fun p' hp' => ?_⟩
    rw [he, Option.some.injEq] at hp'
    rwa [← hp']
  · exact hsound.bound p (hperm.mem_iff.mp hp)

theorem Changes.congr (hc : Changes who l k) (hs : l'.sessions = k.sessions) (hp : l'.pendingLogins = k.pendingLogins)
    (hcount : l'.curUniquePlayerId = k.curUniquePlayerId) : Changes who l l' :=
  hc.closes (Closes.of_sessions hs hp hcount)

theorem sound_setSession (hsound : Sound hist l) (hout : ¬ InLobby s) : Sound hist (l.setSession sid s) := by
  refine ⟨fun sid' t ht hin => ?_, hsound.nodup, hsound.bound⟩
  rcases setSession_cases ht with ⟨rfl, rfl⟩ | ht
  · exact absurd hin hout
  · exact hsound.loggedIn sid' t ht hin

theorem sound_sessionError (hsound : Sound hist l) (sid : SessionId) : Sound hist (l.sessionError sid) :=
  hsound.closes (closes_closeSession l sid)

/-- A player who is asked for in the database gets an id that nobody had before. -/
theorem sound_authenticatePlayer (hsound : Sound hist l) (hout : ¬ InLobby s) :
    Sound hist (l.authenticatePlayer sid s m) := by
  simp only [authenticatePlayer]
  split_ifs
  · exact sound_sessionError hsound sid
  · have hset : Sound hist (l.setSession sid { s with playerData := some (l.newPlayerData m) }) :=
      sound_setSession hsound hout
    refine ⟨hset.loggedIn, ?_, fun pid hmem => ?_⟩
    · rw [← List.append_assoc, List.nodup_append]
      refine ⟨hsound.nodup, List.nodup_singleton _, fun p hp q hq => ?_⟩
      have hle := hsound.bound p hp
      rw [List.mem_singleton] at hq
      omega
    · rw [← List.append_assoc, List.mem_append, List.mem_singleton] at hmem
      rcases hmem with hmem | rfl
      · exact (hsound.bound pid hmem).trans (Nat.le_succ _)
      · exact le_refl _

theorem sound_handleNetPacketInit (hsound : Sound hist l) (hout : ¬ InLobby s) :
    Sound hist (l.handleNetPacketInit c env sid s m) := by
  have hnote : Sound hist (l.noteInit c env s) := by
    simp only [noteInit]
    split_ifs
    · exact hsound.closes (Closes.of_sessions rfl rfl rfl)
    · exact hsound
  have hout' : ¬ InLobby { s with password := m.clientUserData.getD s.password } := hout
  have hset := @sound_setSession _ _ sid _ hnote hout'
  simp only [handleNetPacketInit]
  split_ifs
  · exact sound_sessionError hsound sid
  · exact sound_sessionError hnote sid
  · exact sound_sessionError hset sid
  · exact sound_authenticatePlayer hset hout'
  · exact sound_sessionError hset sid
  · exact sound_sessionError hnote sid
  · exact sound_sessionError hnote sid

theorem sound_handleNetPacketAvatarHeader (hsound : Sound hist l) (hgame : s.game = none) (size type : Nat) :
    Sound hist (l.handleNetPacketAvatarHeader sid s size type) := by
  simp only [handleNetPacketAvatarHeader]
  split
  · exact hsound
  · split_ifs
    · exact sound_sessionError hsound sid
    · exact sound_setSession hsound (by simp [InLobby, hgame])
    · exact sound_sessionError hsound sid

theorem sound_handleNetPacketAvatarFile (hsound : Sound hist l) (hout : ¬ InLobby s) (blockSize : Nat) :
    Sound hist (l.handleNetPacketAvatarFile sid s blockSize) := by
  simp only [handleNetPacketAvatarFile]
  split
  · exact hsound
  · split
    · exact sound_sessionError hsound sid
    · split_ifs
      · exact hsound
      · exact sound_sessionError hsound sid
      · exact sound_sessionError hsound sid
      · exact sound_setSession hsound hout

theorem changes_moveSessionToGame (hs : l.sessions sid = some s) (hin : InLobby s) (gameId : Nat) :
    Changes (fun _ => False) l (l.moveSessionToGame sid s gameId) := by
  have hset (t : SessionData) (ht : playerId t = playerId s) : Changes (fun _ => False) l (l.setSession sid t) :=
    changes_setSession hs fun _ => ⟨ht, .inl hin⟩
  simp only [moveSessionToGame]
  split_ifs
  · refine (hset { s with state := .game } rfl).closes ((Closes.of_sessions ?_ ?_ ?_).trans (closes_closeSession _ sid))
    · rfl
    · rfl
    · rfl
  · refine (hset { s with state := .game, game := some gameId } rfl).congr ?_ rfl rfl
    simp [setSession]

theorem changes_handleReAddedSession (hs : l.sessions sid = some s) (hgame : s.game.isSome) :
    Changes (fun _ => False) l (l.handleReAddedSession sid s) := by
  have hset (t : SessionData) (ht : playerId t = playerId s) : Changes (fun _ => False) l (l.setSession sid t) :=
    changes_setSession hs fun _ => ⟨ht, .inl (.inr (.inr hgame))⟩
  simp only [handleReAddedSession]
  split_ifs
  · refine (hset { s with game := none, state := .established } rfl).congr ?_ rfl rfl
    simp [setSession]
  · refine (hset { s with game := none } rfl).closes ((Closes.of_sessions ?_ ?_ ?_).trans (closes_closeSession _ sid))
    · rfl
    · rfl
    · rfl

/-- The packets that take a session into the lobby or into a game without a look at its login. -/
def BypassesLogin (l : ServerLobbyThread) : Event → Prop
  | .packet sid .unknownAvatar _ => ∃ s, l.sessions sid = some s ∧ s.state = .init ∧ s.playerData.isSome
  | .packet sid .avatarEnd _ => ∃ s, l.sessions sid = some s ∧ s.state = .receivingAvatar ∧
      s.playerData.any receivedAvatar
  | .packet sid .joinNewGame _ | .packet sid (.joinExistingGame _) _ | .packet sid (.rejoinExistingGame _) _ =>
      ∃ s, l.sessions sid = some s ∧ s.state = .closed
  | _ => False

theorem sound_handleNetPacketJoin (hsound : Sound hist l) (hs : l.sessions sid = some s) (hin : InLobby s) :
    Sound hist (l.handleNetPacketJoin env sid s msg) := by
  simp only [handleNetPacketJoin]
  split
  · exact hsound.unchanged (changes_moveSessionToGame hs hin _)
  · exact hsound

theorem sound_handlePacket (hsound : Sound hist l) (hs : l.sessions sid = some s) (hgame : s.game = none)
    (hlogin : ¬ BypassesLogin l (.packet sid msg env)) : Sound hist (l.handlePacket c env sid s msg) := by
  have herror := sound_sessionError hsound sid
  cases hstate : s.state with
  | init =>
      have hout : ¬ InLobby s := by simp [InLobby, hstate, hgame]
      cases msg with
      | init m => simpa only [handlePacket, hstate] using sound_handleNetPacketInit hsound hout
      | authClientResponse =>
          simp only [handlePacket, hstate]
          exact sound_setSession hsound hout
      | avatarHeader size type =>
          simpa only [handlePacket, hstate] using sound_handleNetPacketAvatarHeader hsound hgame size type
      | unknownAvatar =>
          simp only [handlePacket, hstate, handleNetPacketUnknownAvatar]
          split
          · exact hsound
          · next p hp => exact absurd ⟨s, hs, hstate, by simp [hp]⟩ hlogin
      | avatarData | avatarEnd | joinNewGame | joinExistingGame | rejoinExistingGame | lobbyRequest | other =>
          simpa only [handlePacket, hstate] using herror
  | receivingAvatar =>
      have hout : ¬ InLobby s := by simp [InLobby, hstate, hgame]
      cases msg with
      | avatarData blockSize =>
          simpa only [handlePacket, hstate] using sound_handleNetPacketAvatarFile hsound hout blockSize
      | avatarEnd =>
          simp only [handlePacket, hstate, handleNetPacketAvatarEnd]
          split
          · exact hsound
          · next p hp =>
              have hmissing : receivedAvatar p = false := by
                by_contra hreceived
                exact hlogin ⟨s, hs, hstate, by simpa [hp] using hreceived⟩
              rw [if_neg (by simp [hmissing])]
              exact herror
      | init | authClientResponse | avatarHeader | unknownAvatar | joinNewGame | joinExistingGame
      | rejoinExistingGame | lobbyRequest | other => simpa only [handlePacket, hstate] using herror
  | closed =>
      cases msg with
      | joinNewGame | joinExistingGame | rejoinExistingGame => exact absurd ⟨s, hs, hstate⟩ hlogin
      | lobbyRequest => simpa only [handlePacket, hstate] using hsound
      | init | authClientResponse | avatarHeader | unknownAvatar | avatarData | avatarEnd | other =>
          simpa only [handlePacket, hstate] using herror
  | established | game =>
      have hin : InLobby s := by simp [InLobby, hstate]
      cases msg with
      | joinNewGame | joinExistingGame | rejoinExistingGame =>
          simpa only [handlePacket, hstate] using sound_handleNetPacketJoin hsound hs hin
      | lobbyRequest => simpa only [handlePacket, hstate] using hsound
      | init | authClientResponse | avatarHeader | unknownAvatar | avatarData | avatarEnd | other =>
          simpa only [handlePacket, hstate] using herror

theorem sound_dispatchPacket (hsound : Sound hist l) (hlogin : ¬ BypassesLogin l (.packet sid msg env)) :
    Sound hist (l.dispatchPacket c env sid msg) := by
  simp only [dispatchPacket]
  split
  · exact hsound
  · next s hs =>
      split_ifs with hgame
      · exact hsound
      · exact sound_handlePacket hsound hs (by simpa using hgame) hlogin

theorem getSessionByUniquePlayerId_some {manager : List SessionId} {initSessions : Bool}
    (hfind : l.getSessionByUniquePlayerId manager pid initSessions = some sid) :
    ∃ s, l.sessions sid = some s ∧ playerId s = some pid := by
  have hany := List.find?_some hfind
  obtain ⟨s, hs, hmatch⟩ := (Option.any_eq_true _ _).mp hany
  simp only [Bool.and_eq_true, Option.any_eq_true, beq_iff_eq] at hmatch
  obtain ⟨_, p, hp, hid⟩ := hmatch
  exact ⟨s, hs, by simp [playerId, hp, hid]⟩

/-- The callback lets only the player in whose password it has compared. -/
theorem sound_userValid {data : DBPlayerData} (hsound : Sound hist l) (hpending : pid ∈ l.pendingLogins)
    (hdata : data.id ≠ DB_ID_INVALID) :
    Sound (hist ++ [(l, .userValid pid data env)]) ((l.answer pid).userValid c env pid data) := by
  obtain ⟨hnew, hsound'⟩ := hsound.answer (e := .userValid pid data env) rfl hpending
  simp only [userValid]
  split
  · exact hsound'
  · next sid hfind =>
      split
      · exact hsound'
      · next s hs =>
          obtain ⟨s', hs', hid⟩ := getSessionByUniquePlayerId_some hfind
          rw [hs, Option.some.injEq] at hs'
          subst hs'
          split_ifs with hempty hmatch hlimited
          · exact sound_sessionError hsound' sid
          · exact sound_sessionError hsound' sid
          · have herase : Closes (l.answer pid) { l.answer pid with
                failedLoginMap := (l.answer pid).failedLoginMap.erase s.clientAddr } := Closes.of_sessions rfl rfl rfl
            refine (hsound'.closes herase).changes (changes_establishSession c env _ sid s) ?_
            rintro sid' t rfl ht
            have hst : s = t := by
              rw [← Option.some.injEq, ← hs]
              exact ht
            subst hst
            refine ⟨pid, hid, ?_, fun l' now hmem => ?_, fun l' hmem => ?_⟩
            · refine ⟨l, s, data, env, by simp, hdata, hs, ?_, by simpa [ServerLobbyThread.answer] using hlimited⟩
              exact hmatch.resolve_left hdata
            · rcases List.mem_append.mp hmem with hmem | hmem
              · exact hnew (List.mem_filterMap.mpr ⟨_, hmem, rfl⟩)
              · simp at hmem
            · rcases List.mem_append.mp hmem with hmem | hmem
              · exact hnew (List.mem_filterMap.mpr ⟨_, hmem, rfl⟩)
              · simp at hmem
          · refine sound_sessionError (hsound'.closes ?_) sid
            exact Closes.of_sessions rfl rfl rfl

theorem sound_userInvalid {now : Int} (hsound : Sound hist l) (hpending : pid ∈ l.pendingLogins) :
    Sound (hist ++ [(l, .userInvalid pid now)]) ((l.answer pid).userInvalid pid now) := by
  obtain ⟨_, hsound'⟩ := hsound.answer (e := .userInvalid pid now) rfl hpending
  simp only [userInvalid]
  split
  · exact hsound'
  · split
    · exact hsound'
    · refine sound_sessionError (hsound'.closes ?_) _
      exact Closes.of_sessions rfl rfl rfl

theorem sound_userBlocked (hsound : Sound hist l) (hpending : pid ∈ l.pendingLogins) :
    Sound (hist ++ [(l, .userBlocked pid)]) ((l.answer pid).userBlocked pid) := by
  obtain ⟨_, hsound'⟩ := hsound.answer (e := .userBlocked pid) rfl hpending
  simp only [userBlocked]
  split
  · exact hsound'
  · exact sound_sessionError hsound' _

theorem sound_addConnection (hsound : Sound hist l) (addr : Address) (web : Bool) :
    Sound hist (l.addConnection addr web) := by
  have hset (state : SessionState) (hstate : state = .init ∨ state = .closed) :
      Sound hist (l.setSession l.curSessionId ⟨state, addr, web, none, [], 0, none⟩) := by
    refine sound_setSession hsound ?_
    rcases hstate with rfl | rfl <;> simp [InLobby]
  simp only [addConnection]
  split_ifs
  · refine (hset .closed (.inr rfl)).closes ?_
    exact Closes.of_sessions rfl rfl rfl
  · refine (hset .init (.inl rfl)).closes ?_
    exact Closes.of_sessions rfl rfl rfl

theorem sound_fire (hsound : Sound hist l) (hfire : fire c l e = some l') (hlogin : ¬ BypassesLogin l e) :
    Sound (hist ++ [(l, e)]) l' := by
  cases e with
  | addConnection addr web =>
      cases hfire
      exact sound_addConnection (hsound.event rfl) addr web
  | packet sid msg env =>
      cases hfire
      exact sound_dispatchPacket (hsound.event rfl) hlogin
  | userValid pid data env =>
      simp only [fire] at hfire
      split_ifs at hfire with hanswer
      cases hfire
      exact sound_userValid hsound hanswer.1 hanswer.2
  | userInvalid pid now =>
      simp only [fire] at hfire
      split_ifs at hfire with hanswer
      cases hfire
      exact sound_userInvalid hsound hanswer
  | userBlocked pid =>
      simp only [fire] at hfire
      split_ifs at hfire with hanswer
      cases hfire
      exact sound_userBlocked hsound hanswer
  | closeSession sid =>
      cases hfire
      exact (hsound.event rfl).closes (closes_closeSession l sid)
  | reAddSession sid =>
      simp only [fire] at hfire
      split at hfire
      · next s hs =>
          split_ifs at hfire with hgame
          cases hfire
          exact (hsound.event rfl).unchanged (changes_handleReAddedSession hs hgame.1)
      · cases hfire
  | addComputerPlayer =>
      simp only [fire] at hfire
      split_ifs at hfire
      cases hfire
      have hev := hsound.event (e := .addComputerPlayer) rfl
      exact ⟨hev.loggedIn, hev.nodup, fun pid hpid => (hev.bound pid hpid).trans (Nat.le_succ _)⟩
  | timerUpdateClientLoginLock now =>
      cases hfire
      exact (hsound.event rfl).closes (Closes.of_sessions rfl rfl rfl)
  | timerCleanupRateMaps now =>
      cases hfire
      exact (hsound.event rfl).closes (Closes.of_sessions rfl rfl rfl)

theorem sound_initial : Sound [] initial := ⟨nofun, List.nodup_nil, nofun⟩

/-- As long as no session bypasses its login, whoever is in the lobby or in a game has logged in. -/
theorem login_required (hrun : Trace (fire c) (fun l e => ¬ BypassesLogin l e) initial hist l)
    (hs : l.sessions sid = some s) (hstate : s.state = .established ∨ s.state = .game) :
    ∃ p, s.playerData = some p ∧ LoggedIn hist sid p.uniqueId := by
  have hsound := hrun.invariant sound_initial fun _ _ _ _ hsound hfire hlogin => sound_fire hsound hfire hlogin
  obtain ⟨pid, hid, hlog⟩ := hsound.loggedIn sid s hs (hstate.elim .inl fun h => .inr (.inl h))
  obtain ⟨p, hp, rfl⟩ := Option.map_eq_some_iff.mp hid
  exact ⟨p, hp, hlog⟩

section

/-- A server without bans on which nobody may take a seat again, and game 1 takes everybody. -/
def openEnvironment : Environment := ⟨0, fun _ => false, fun _ => false, true, fun _ _ => none, fun _ => some 1,
  fun _ => true⟩

def officialConfig : ServerConfig := ⟨false, [], 0, true⟩

def playerInit : InitMessage := ⟨5, [], true, ['m', 'e'], some ['p', 'w'], none, []⟩

/-- The player logs in with the password that the database holds. -/
theorem login_required_secret : ∃ hist l s, Trace (fire officialConfig) (fun l e => ¬ BypassesLogin l e) initial hist l ∧
    l.sessions 1 = some s ∧ s.state = .established ∧ ∃ p, s.playerData = some p ∧ LoggedIn hist 1 p.uniqueId := by
  have hstart := @Trace.start _ _ (fire officialConfig) (fun l e => ¬ BypassesLogin l e) initial
  have hinit := (hstart.step (e := .addConnection 7 false) rfl (by simp [BypassesLogin])).step
    (e := .packet 1 (.init playerInit) openEnvironment) rfl (by simp [BypassesLogin])
  have hrun := hinit.step (e := .userValid 1 ⟨3, ['p', 'w']⟩ openEnvironment) rfl (by simp [BypassesLogin])
  exact ⟨_, _, _, hrun, rfl, rfl, login_required hrun rfl (.inl rfl)⟩

/-- A client that sends an init and an unknown avatar message is in the lobby before the database has
answered. -/
theorem unknownAvatar_bypasses_login : ∃ hist l s, Trace (fire officialConfig) (fun _ _ => True) initial hist l ∧
    l.sessions 1 = some s ∧ s.state = .established ∧ l.pendingLogins = [1] ∧
    ∀ x ∈ hist, ∀ pid data env, x.2 ≠ .userValid pid data env := by
  have hstart := @Trace.start _ _ (fire officialConfig) (fun _ _ => True) initial
  have hinit := (hstart.step (e := .addConnection 7 false) rfl trivial).step
    (e := .packet 1 (.init playerInit) openEnvironment) rfl trivial
  have hrun := hinit.step (e := .packet 1 .unknownAvatar openEnvironment) rfl trivial
  refine ⟨_, _, _, hrun, rfl, rfl, rfl, ?_⟩
  simp

end

end PokerTH.Lobby
