import PokerTH.SessionSteps

namespace PokerTH.Lobby.Server

open ServerLobbyThread Runs

variable {c : ServerConfig} {env : Environment} {w w' u : Server} {l l' k : ServerLobbyThread} {sid sid' : SessionId}
  {s s' : SessionData} {gameId id : Nat} {game : ServerGame} {place : Place} {msg : Msg} {enters : Bool} {e : Event}
  {sids : List SessionId}

structure Kept (w w' : Server) : Prop where
  booked : Booked w'
  final : Final w w'

theorem Kept.refl (hb : Booked w) : Kept w w := ⟨hb, Final.refl w⟩

theorem Kept.trans (h : Kept w u) (h' : Kept u w') : Kept w w' := ⟨h'.booked, h.final.trans h'.final⟩

theorem kept_lift (hb : Booked w) (ht : Tidy w.lobby l) : Kept w (w.lift l) := ⟨booked_lift hb ht, final_lift hb ht⟩

theorem kept_moves (hb : Booked w) (hopen : ∀ s, w.lobby.sessions sid = some s → s.state ≠ .closed)
    (hm : Moves w w' sid) : Kept w w' := ⟨booked_moves hb hm, final_moves hopen hm.others⟩

theorem kept_closeSession (hb : Booked w) (sid : SessionId) : Kept w (w.closeSession sid) :=
  kept_lift hb (tidy_closeSession w.lobby sid)

theorem closeSession_closed (hb : Booked w) (hs : w.lobby.sessions sid = some s) :
    ∃ s', (w.closeSession sid).lobby.sessions sid = some s' ∧ s'.state = .closed := by
  by_cases hclosed : s.state = .closed
  · exact (kept_closeSession hb sid).final sid s hs hclosed
  · obtain ⟨s', hs', _, _, hcases⟩ := (received_closeSession hs hclosed hb.managers).placed
    refine ⟨s', hs', ?_⟩
    simp only [ServerLobbyThread.closeSession, hs, if_neg hclosed] at hs'
    rw [setSession_self] at hs'
    cases hs'
    rfl

/-- Closing sessions keeps the lists of the games but for the closed ones. -/
theorem foldl_closeSession (hb : Booked w) (hknown : ∀ sid ∈ sids, (w.lobby.sessions sid).isSome) :
    Kept w (sids.foldl closeSession w) ∧
      (∀ sid ∈ sids, ∃ s', (sids.foldl closeSession w).lobby.sessions sid = some s' ∧ s'.state = .closed) ∧
      (∀ id game', (sids.foldl closeSession w).games id = some game' → ∃ game, w.games id = some game ∧
        game'.sessions ⊆ game.sessions) ∧ (sids.foldl closeSession w).curGameId = w.curGameId := by
  induction sids generalizing w with
  | nil => exact ⟨Kept.refl hb, nofun, fun id game' h => ⟨game', h, List.Subset.refl _⟩, rfl⟩
  | cons sid sids ih =>
      have hk := kept_closeSession hb sid
      have hknown' : ∀ sid' ∈ sids, ((w.closeSession sid).lobby.sessions sid').isSome := by
        intro sid' hmem
        obtain ⟨s, hs⟩ := Option.isSome_iff_exists.mp (hknown sid' (List.mem_cons_of_mem _ hmem))
        obtain ⟨s', hs', _⟩ := (tidy_closeSession w.lobby sid).session hb.managers sid' s hs
        exact Option.isSome_iff_exists.mpr ⟨s', hs'⟩
      obtain ⟨hkept, hclosed, hlists, hcounter⟩ := ih hk.booked hknown'
      refine ⟨hk.trans hkept, fun sid' hmem => ?_, fun id game' hgame' => ?_, hcounter⟩
      · rcases List.mem_cons.mp hmem with rfl | hmem
        · obtain ⟨s, hs⟩ := Option.isSome_iff_exists.mp (hknown sid' hmem)
          obtain ⟨t, ht, hstate⟩ := closeSession_closed hb hs
          exact hkept.final sid' t ht hstate
        · exact hclosed sid' hmem
      · obtain ⟨between, hbetween, hsub⟩ := hlists id game' hgame'
        obtain ⟨game, hgame, hsessions⟩ := lift_games w _ hbetween
        refine ⟨game, hgame, fun sid' hmem => ?_⟩
        have hfiltered := hsub hmem
        rw [hsessions] at hfiltered
        exact List.mem_of_mem_filter hfiltered

theorem booked_setGame {game' : ServerGame} (hb : Booked w) (hgame : w.games gameId = some game)
    (hsame : ∀ sid, sid ∈ game'.sessions ↔ sid ∈ game.sessions) (hnodup : game'.sessions.Nodup) :
    Booked (w.setGame gameId game') := by
  refine ⟨fun sid s hs => ?_, fun sid hs => ?_, hb.managers, fun id g hg => ?_, hb.newSession, fun id g hg => ?_⟩
  · obtain ⟨place, hp⟩ := hb.located sid s hs
    refine ⟨place, hp.closed, hp.inGame, hp.pointer, hp.lobby, hp.games, fun id g hg => ?_, fun id hid => ?_⟩
    · rw [setGame_games] at hg
      split_ifs at hg with hid
      · cases hg
        rw [hid, hsame]
        exact hp.listed gameId game hgame
      · exact hp.listed id g hg
    · obtain ⟨halive, hplayer⟩ := hp.alive id hid
      refine ⟨?_, hplayer⟩
      rw [setGame_games]
      split_ifs
      · rfl
      · exact halive
  · obtain ⟨hlobby, hgames, hlists⟩ := hb.unknown sid hs
    refine ⟨hlobby, hgames, fun id g hg hmem => ?_⟩
    rw [setGame_games] at hg
    split_ifs at hg
    · cases hg
      exact hlists gameId game hgame ((hsame sid).mp hmem)
    · exact hlists id g hg hmem
  · rw [setGame_games] at hg
    split_ifs at hg
    · cases hg
      exact hnodup
    · exact hb.lists id g hg
  · rw [setGame_games] at hg
    split_ifs at hg with hid
    · rw [hid]
      exact hb.newGame gameId game hgame
    · exact hb.newGame id g hg

theorem kept_removeAllSessions (hb : Booked w) (gameId : Nat) : Kept w (w.removeAllSessions gameId) ∧
    ∀ game, (w.removeAllSessions gameId).games gameId = some game → game.sessions = [] := by
  simp only [removeAllSessions]
  split
  · next hnone =>
      refine ⟨Kept.refl hb, fun game hgame => ?_⟩
      rw [hnone] at hgame
      cases hgame
  · next game hgame =>
      have hknown : ∀ sid ∈ game.sessions, (w.lobby.sessions sid).isSome := by
        intro sid hmem
        by_contra hnone
        exact (hb.unknown sid (Option.not_isSome_iff_eq_none.mp hnone)).2.2 gameId game hgame hmem
      obtain ⟨hkept, hclosed, hlists, _⟩ := foldl_closeSession hb hknown
      constructor
      · cases hafter : (game.sessions.foldl closeSession w).games gameId with
        | none =>
            have hsome : ((game.sessions.foldl closeSession w).games gameId).isSome := by
              have hkeep (l : List SessionId) (v : Server) : ((l.foldl closeSession v).games gameId).isSome =
                  (v.games gameId).isSome := by
                induction l generalizing v with
                | nil => rfl
                | cons sid l ih => exact (ih _).trans (isSome_lift _ _ _)
              rw [hkeep, hgame]
              rfl
            rw [hafter] at hsome
            cases hsome
        | some game' =>
            have hempty : ∀ sid, sid ∉ game'.sessions := by
              intro sid hmem
              obtain ⟨before, hbefore, hsub⟩ := hlists gameId game' hafter
              rw [hgame] at hbefore
              cases hbefore
              obtain ⟨s', hs', hstate⟩ := hclosed sid (hsub hmem)
              obtain ⟨place, hp⟩ := hkept.booked.located sid s' hs'
              have hplace := (hp.listed gameId game' hafter).mp hmem
              rw [hp.closed, hplace] at hstate
              cases hstate
            refine ⟨booked_setGame hkept.booked hafter (fun sid => iff_of_false (by simp) (hempty sid)) List.nodup_nil, ?_⟩
            exact hkept.final
      · intro g hg
        rw [setGame_games, if_pos rfl] at hg
        cases hg
        rfl

theorem kept_expire (hb : Booked w) (hempty : ∀ game, w.games gameId = some game → game.sessions = []) :
    Kept w (w.expire gameId) := by
  have hpointer (sid : SessionId) (s : SessionData) (hs : w.lobby.sessions sid = some s) : s.game ≠ some gameId := by
    intro hgame
    obtain ⟨place, hp⟩ := hb.located sid s hs
    have hplace := (hp.pointer gameId).mp hgame
    obtain ⟨game, halive⟩ := Option.isSome_iff_exists.mp (hp.alive gameId hplace).1
    have hmem := (hp.listed gameId game halive).mpr hplace
    rw [hempty game halive] at hmem
    cases hmem
  have hsessions : (w.expire gameId).lobby.sessions = w.lobby.sessions := by
    funext sid
    simp only [expire]
    cases hs : w.lobby.sessions sid with
    | none => rfl
    | some s => rw [Option.map_some, if_neg (hpointer sid s hs)]
  have hgames (id : Nat) (g : ServerGame) (hg : (w.expire gameId).games id = some g) : w.games id = some g := by
    simp only [expire, Function.update_apply] at hg
    split_ifs at hg
    exact hg
  constructor
  · refine ⟨fun sid s hs => ?_, fun sid hs => ?_, ⟨hb.managers.lobby, hb.managers.games⟩,
      fun id g hg => hb.lists id g (hgames id g hg), fun sid s hs => ?_, fun id g hg => hb.newGame id g (hgames id g hg)⟩
    · rw [hsessions] at hs
      obtain ⟨place, hp⟩ := hb.located sid s hs
      refine ⟨place, hp.closed, hp.inGame, hp.pointer, hp.lobby, hp.games, fun id g hg => hp.listed id g (hgames id g hg),
        fun id hid => ?_⟩
      obtain ⟨halive, hplayer⟩ := hp.alive id hid
      refine ⟨?_, hplayer⟩
      have hne : id ≠ gameId := by
        rintro rfl
        exact hpointer sid s hs ((hp.pointer id).mpr hid)
      simp only [expire, Function.update_of_ne hne]
      exact halive
    · rw [hsessions] at hs
      obtain ⟨hlobby, hgames', hlists⟩ := hb.unknown sid hs
      exact ⟨hlobby, hgames', fun id g hg => hlists id g (hgames id g hg)⟩
    · rw [hsessions] at hs
      exact hb.newSession sid s hs
  · intro sid s hs hclosed
    exact ⟨s, by rw [hsessions]; exact hs, hclosed⟩

theorem booked_createGame (hb : Booked w) : Booked w.createGame := by
  have hnew : w.games (w.curGameId + 1) = none := by
    by_contra hsome
    obtain ⟨game, hgame⟩ := Option.ne_none_iff_exists'.mp hsome
    have hle := hb.newGame _ game hgame
    omega
  have hgames (id : Nat) : w.createGame.games id = if id = w.curGameId + 1 then some ⟨.init, []⟩ else w.games id :=
    setGame_games w _ _ id
  refine ⟨fun sid s hs => ?_, fun sid hs => ?_, hb.managers, fun id g hg => ?_, hb.newSession, fun id g hg => ?_⟩
  · obtain ⟨place, hp⟩ := hb.located sid s hs
    refine ⟨place, hp.closed, hp.inGame, hp.pointer, hp.lobby, hp.games, fun id g hg => ?_, fun id hid => ?_⟩
    · rw [hgames] at hg
      split_ifs at hg with hid
      · cases hg
        refine iff_of_false nofun fun hplace => ?_
        have halive := (hp.alive id hplace).1
        rw [hid, hnew] at halive
        cases halive
      · exact hp.listed id g hg
    · obtain ⟨halive, hplayer⟩ := hp.alive id hid
      refine ⟨?_, hplayer⟩
      rw [hgames]
      split_ifs
      · rfl
      · exact halive
  · obtain ⟨hlobby, hgames', hlists⟩ := hb.unknown sid hs
    refine ⟨hlobby, hgames', fun id g hg => ?_⟩
    rw [hgames] at hg
    split_ifs at hg
    · cases hg
      exact List.not_mem_nil
    · exact hlists id g hg
  · rw [hgames] at hg
    split_ifs at hg
    · cases hg
      exact List.nodup_nil
    · exact hb.lists id g hg
  · rw [hgames] at hg
    change id ≤ w.curGameId + 1
    split_ifs at hg with hid
    · exact hid.le
    · exact (hb.newGame id g hg).trans (Nat.le_succ _)

theorem kept_addConnection (hb : Booked w) (addr : Address) (web : Bool) :
    Kept w (w.lift (w.lobby.addConnection addr web)) := by
  have hnone : w.lobby.sessions w.lobby.curSessionId = none := by
    by_contra hsome
    obtain ⟨s, hs⟩ := Option.ne_none_iff_exists'.mp hsome
    exact lt_irrefl _ (hb.newSession _ s hs)
  obtain ⟨hlobby, hgames, hlists⟩ := hb.unknown _ hnone
  have hunlisted : Unlisted w w.lobby.curSessionId := hlists
  have hcounter (l : ServerLobbyThread) (h : l.curSessionId = w.lobby.curSessionId + 1) :
      w.lobby.curSessionId < (w.lift l).lobby.curSessionId ∧
        w.lobby.curSessionId ≤ (w.lift l).lobby.curSessionId := by
    change w.lobby.curSessionId < l.curSessionId ∧ w.lobby.curSessionId ≤ l.curSessionId
    omega
  have hnewGame (l : ServerLobbyThread) (id : Nat) (g : ServerGame) (hg : (w.lift l).games id = some g) :
      id ≤ (w.lift l).curGameId := by
    obtain ⟨before, hbefore, _⟩ := lift_games w l hg
    exact hb.newGame id before hbefore
  have hopen : ∀ s, w.lobby.sessions w.lobby.curSessionId = some s → s.state ≠ .closed := by
    rw [hnone]
    simp
  simp only [addConnection]
  split_ifs
  · refine @kept_moves _ _ w.lobby.curSessionId hb hopen ⟨others_lift (fun sid' hne => setSession_ne hne)
      (fun _ _ => Iff.rfl) fun _ _ => Iff.rfl, ⟨_, .gone, setSession_self _ _ _, ?_⟩,
      ⟨hb.managers.lobby, hb.managers.games⟩, lists_lift hb.lists,
      hcounter _ rfl, hnewGame _⟩
    exact ⟨iff_of_true rfl rfl, iff_of_false (by simp) (by simp), fun id => iff_of_false (by simp) (by simp), iff_of_false hlobby (by simp),
      iff_of_false hgames (by simp), fun id g hg => iff_of_false (hunlisted.lift _ id g hg) (by simp), by simp⟩
  · refine @kept_moves _ _ w.lobby.curSessionId hb hopen ⟨others_lift (fun sid' hne => setSession_ne hne)
      (fun sid' hne => mem_orderedInsert_ne hne) fun _ _ => Iff.rfl, ⟨_, .lobby, setSession_self _ _ _, ?_⟩,
      ⟨nodup_orderedInsert hb.managers.lobby hlobby, hb.managers.games⟩, lists_lift hb.lists, hcounter _ rfl, hnewGame _⟩
    exact ⟨iff_of_false (by simp) (by simp), iff_of_false (by simp) (by simp), fun id => iff_of_false (by simp) (by simp),
      iff_of_true ((List.mem_orderedInsert _).mpr (.inl rfl)) rfl, iff_of_false hgames (by simp),
      fun id g hg => iff_of_false (hunlisted.lift _ id g hg) (by simp), by simp⟩

/-- A request that leads a closed session into a game, or a session of the lobby into a game in its final state. -/
def Strays (w : Server) : Event → Prop
  | .packet sid msg env _ => ∃ s gameId, w.lobby.sessions sid = some s ∧ s.playerData.isSome ∧
      env.admits msg = some gameId ∧
      match msg with
      | .joinNewGame => s.state = .closed
      | .joinExistingGame _ | .rejoinExistingGame _ => ∃ game, w.games gameId = some game ∧
          (s.state = .closed ∨ s.state = .established ∧ game.state = .final)
      | _ => False
  | _ => False

/-- The seats that the old guids find are not those that the same logins took since. -/
def OldGuids (w : Server) : Event → Prop
  | .packet _ _ env _ | .lobby (.userValid _ _ env) => ∀ sid s, w.lobby.sessions sid = some s → OldGuid env s
  | _ => True

theorem Booked.lobbied (hb : Booked w) : Lobbied w.lobby := by
  intro sid hmem s hs
  obtain ⟨place, hp⟩ := hb.located sid s hs
  have hplace := hp.lobby.mp hmem
  rw [ne_eq, ne_eq, hp.inGame, hp.closed, hplace]
  exact ⟨nofun, nofun⟩

/-- A session without a game that is past its login waits in the lobby or is closed. -/
theorem Booked.in_lobby (hb : Booked w) (hs : w.lobby.sessions sid = some s) (hgame : s.game = none)
    (hopen : s.state ≠ .closed) : Located w sid s .lobby := by
  obtain ⟨place, hp⟩ := hb.located sid s hs
  cases place with
  | lobby => exact hp
  | game id =>
      have hpointer := (hp.pointer id).mpr rfl
      rw [hgame] at hpointer
      cases hpointer
  | gone => exact absurd (hp.closed.mpr rfl) hopen

theorem kept_handleNetPacketJoin (hb : Booked w) (hs : w.lobby.sessions sid = some s) (hgame : s.game = none)
    (hstate : s.state = .established ∨ s.state = .game ∨ s.state = .closed) (hjoins : Joins msg)
    (hstray : ¬ w.Strays (.packet sid msg env enters)) : Kept w (w.handleNetPacketJoin env enters sid s msg) := by
  simp only [handleNetPacketJoin]
  split
  · next p gameId hp hadmits =>
      have hplayer : s.playerData.isSome := by
        rw [hp]
        rfl
      have hjoin (id : Nat) (game : ServerGame) (v : Server) (hb' : Booked v) (hlobby : v.lobby = w.lobby)
          (hfound : v.games id = some game) (hlive : game.state ≠ .final) (hopen : s.state ≠ .closed) :
          Kept v (v.moveSessionToGame enters sid s id) := by
        have hs' : v.lobby.sessions sid = some s := by rw [hlobby, hs]
        refine kept_moves hb' (fun t ht => ?_) (hb'.joins hs' (hb'.in_lobby hs' hgame hopen) hplayer hfound hlive)
        rw [hs'] at ht
        cases ht
        exact hopen
      have hexisting (id : Nat) (hid : env.admits msg = some id)
          (hstray : ¬ ∃ game, w.games id = some game ∧ (s.state = .closed ∨ s.state = .established ∧ game.state = .final)) :
          Kept w (if (w.games id).isSome then w.moveSessionToGame enters sid s id else w) := by
        split_ifs with hsome
        · obtain ⟨game, hfound⟩ := Option.isSome_iff_exists.mp hsome
          have hopen : s.state ≠ .closed := fun h => hstray ⟨game, hfound, .inl h⟩
          refine hjoin id game w hb rfl hfound (fun hfinal => ?_) hopen
          have hin := hb.in_lobby hs hgame hopen
          rcases hstate with h | h | h
          · exact hstray ⟨game, hfound, .inr ⟨h, hfinal⟩⟩
          · obtain ⟨_, h'⟩ := hin.inGame.mp h
            cases h'
          · exact hopen h
        · exact Kept.refl hb
      cases msg with
      | joinNewGame =>
          dsimp only
          split_ifs
          · exact kept_closeSession hb sid
          · have hopen : s.state ≠ .closed := fun h => hstray ⟨s, gameId, hs, hplayer, hadmits, h⟩
            have hcreate := booked_createGame hb
            have hfound : w.createGame.games (w.curGameId + 1) = some ⟨.init, []⟩ :=
              (setGame_games w _ _ _).trans (if_pos rfl)
            refine ⟨(hjoin _ _ _ hcreate rfl hfound nofun hopen).booked, ?_⟩
            exact (hjoin _ _ _ hcreate rfl hfound nofun hopen).final
      | joinExistingGame | rejoinExistingGame =>
          exact hexisting gameId hadmits fun h => hstray ⟨s, gameId, hs, hplayer, hadmits, h⟩
      | init | authClientResponse | avatarHeader | unknownAvatar | avatarData | avatarEnd | lobbyRequest | other =>
          exact absurd hjoins nofun
  · exact Kept.refl hb

theorem kept_dispatchPacket (hb : Booked w) (hguid : w.OldGuids (.packet sid msg env enters))
    (hstray : ¬ w.Strays (.packet sid msg env enters)) : Kept w (w.dispatchPacket c env enters sid msg) := by
  simp only [dispatchPacket]
  split
  · exact Kept.refl hb
  · next s hs =>
      split_ifs with hgame
      · exact Kept.refl hb
      · have hnone : s.game = none := by simpa using hgame
        have hlobby (hmsg : (s.state = .init ∨ s.state = .receivingAvatar) ∨ ¬ Joins msg) :
            Kept w (w.lift (w.lobby.handlePacket c env sid s msg)) :=
          kept_lift hb (tidy_handlePacket c hs (hguid sid s hs) hmsg)
        have hjoin (hstate : s.state = .established ∨ s.state = .game ∨ s.state = .closed) (hjoins : Joins msg) :=
          kept_handleNetPacketJoin hb hs hnone hstate hjoins hstray
        cases hstate : s.state with
        | init | receivingAvatar => simpa only [handlePacket, hstate] using hlobby (.inl (by simp [hstate]))
        | established | game | closed =>
            have hpast : s.state = .established ∨ s.state = .game ∨ s.state = .closed := by simp [hstate]
            cases msg with
            | joinNewGame | joinExistingGame | rejoinExistingGame =>
                simpa only [handlePacket, hstate] using hjoin hpast trivial
            | init | authClientResponse | avatarHeader | unknownAvatar | avatarData | avatarEnd | lobbyRequest
            | other => simpa only [handlePacket, hstate] using hlobby (.inr nofun)

def Alone : Lobby.Event → Prop
  | .packet _ _ _ | .reAddSession _ => False
  | _ => True

theorem fire_lobby {e : Lobby.Event} (halone : Alone e) : w.fire c (.lobby e) = (w.lobby.fire c e).map w.lift := by
  cases e with
  | packet | reAddSession => exact halone.elim
  | addConnection | userValid | userInvalid | userBlocked | closeSession | addComputerPlayer
  | timerUpdateClientLoginLock | timerCleanupRateMaps => rfl

theorem kept_lobby {e : Lobby.Event} (hb : Booked w) (hguid : w.OldGuids (.lobby e))
    (hfire : w.lobby.fire c e = some l) (halone : Alone e) : Kept w (w.lift l) := by
  have hanswer (playerId : Nat) : Tidy w.lobby (w.lobby.answer playerId) := Tidy.of_eq rfl rfl rfl rfl
  cases e with
  | addConnection addr web =>
      cases hfire
      exact kept_addConnection hb addr web
  | packet | reAddSession => exact halone.elim
  | userValid playerId data env =>
      simp only [ServerLobbyThread.fire] at hfire
      split_ifs at hfire
      cases hfire
      exact kept_lift hb ((hanswer playerId).trans (tidy_userValid c playerId data hb.lobbied fun sid s _ hs => hguid sid s hs))
  | userInvalid playerId now =>
      simp only [ServerLobbyThread.fire] at hfire
      split_ifs at hfire
      cases hfire
      exact kept_lift hb ((hanswer playerId).trans (tidy_userInvalid _ playerId now))
  | userBlocked playerId =>
      simp only [ServerLobbyThread.fire] at hfire
      split_ifs at hfire
      cases hfire
      exact kept_lift hb ((hanswer playerId).trans (tidy_userBlocked _ playerId))
  | closeSession sid =>
      cases hfire
      exact kept_closeSession hb sid
  | addComputerPlayer =>
      simp only [ServerLobbyThread.fire] at hfire
      split_ifs at hfire
      cases hfire
      exact kept_lift hb (Tidy.of_eq rfl rfl rfl rfl)
  | timerUpdateClientLoginLock now =>
      cases hfire
      exact kept_lift hb (Tidy.of_eq rfl rfl rfl rfl)
  | timerCleanupRateMaps now =>
      cases hfire
      exact kept_lift hb (Tidy.of_eq rfl rfl rfl rfl)

theorem kept_fire (hb : Booked w) (hfire : w.fire c e = some w') (hguid : w.OldGuids e) (hstray : ¬ w.Strays e) :
    Kept w w' := by
  have hleaving (gameId : Nat) (sid : SessionId) (hserves : w.serves gameId sid) (v : Server) (hm : Moves w v sid) :
      Kept w v := by
    obtain ⟨s, h⟩ := hb.leaving hserves
    refine kept_moves hb (fun t ht => ?_) hm
    rw [h.session] at ht
    cases ht
    exact h.opened
  cases e with
  | lobby e =>
      by_cases halone : Alone e
      · rw [fire_lobby halone] at hfire
        obtain ⟨l, hl, rfl⟩ := Option.map_eq_some_iff.mp hfire
        exact kept_lobby hb hguid hl halone
      · cases e with
        | packet | reAddSession => cases hfire
        | addConnection | userValid | userInvalid | userBlocked | closeSession | addComputerPlayer
        | timerUpdateClientLoginLock | timerCleanupRateMaps => exact absurd trivial halone
  | packet sid msg env enters =>
      cases hfire
      exact kept_dispatchPacket hb hguid hstray
  | leaveGame gameId sid =>
      simp only [fire] at hfire
      split_ifs at hfire with hserves
      cases hfire
      obtain ⟨s, h⟩ := hb.leaving hserves
      exact hleaving gameId sid hserves _ h.moveSessionToLobby
  | sessionError gameId sid =>
      simp only [fire] at hfire
      split_ifs at hfire with hserves
      cases hfire
      obtain ⟨s, h⟩ := hb.leaving hserves
      exact hleaving gameId sid hserves _ h.sessionError
  | removeAllSessions gameId =>
      cases hfire
      exact (kept_removeAllSessions hb gameId).1
  | internalRemoveGame gameId =>
      cases hfire
      obtain ⟨hkept, hempty⟩ := kept_removeAllSessions hb gameId
      exact hkept.trans (kept_expire hkept.booked hempty)
  | setState gameId state =>
      simp only [fire] at hfire
      split at hfire
      · cases hfire
      · next game hgame =>
          split_ifs at hfire
          cases hfire
          exact ⟨booked_setGame hb hgame (fun _ => Iff.rfl) (hb.lists gameId game hgame), Final.refl w⟩

theorem booked_initial : Booked initial :=
  ⟨nofun, fun _ _ => ⟨List.not_mem_nil, List.not_mem_nil, nofun⟩, ⟨List.nodup_nil, List.nodup_nil⟩, nofun, nofun, nofun⟩

structure BooksKept (hist : List (Server × Event)) (w : Server) : Prop where
  oneManager : ∀ sid s, w.lobby.sessions sid = some s → s.state ≠ .closed →
    (sid ∈ w.lobby.sessionManager ↔ sid ∉ w.lobby.gameSessionManager)
  gameManager : ∀ sid s, w.lobby.sessions sid = some s →
    (sid ∈ w.lobby.gameSessionManager ↔ s.state = .game ∧ s.game.isSome)
  ownGame : ∀ sid s, w.lobby.sessions sid = some s → sid ∈ w.lobby.gameSessionManager →
    ∃ id game, s.game = some id ∧ w.games id = some game ∧ sid ∈ game.sessions ∧
      ∀ id' game', w.games id' = some game' → sid ∈ game'.sessions → id' = id
  closed : ∀ sid s, w.lobby.sessions sid = some s → s.state = .closed → sid ∉ w.lobby.sessionManager ∧
    sid ∉ w.lobby.gameSessionManager ∧ ∀ id game, w.games id = some game → sid ∉ game.sessions
  final : ∀ v e, (v, e) ∈ hist → Final v w

theorem books_kept {hist : List (Server × Event)}
    (hrun : Trace (fire c) (fun w e => OldGuids w e ∧ ¬ Strays w e) initial hist w) : BooksKept hist w := by
  have hinv : Booked w ∧ ∀ v e, (v, e) ∈ hist → Final v w := by
    refine @Trace.invariant _ _ _ _ _ _ _ (fun hist w => Booked w ∧ ∀ v e, (v, e) ∈ hist → Final v w)
      ⟨booked_initial, nofun⟩ (fun hist w e w' h hfire hallowed => ?_) hrun
    obtain ⟨hb, hfinal⟩ := h
    have hkept := kept_fire hb hfire hallowed.1 hallowed.2
    refine ⟨hkept.booked, fun v e' hmem => ?_⟩
    rcases List.mem_append.mp hmem with hmem | hmem
    · exact (hfinal v e' hmem).trans hkept.final
    · cases List.mem_singleton.mp hmem
      exact hkept.final
  obtain ⟨hb, hfinal⟩ := hinv
  refine ⟨fun sid s hs hopen => ?_, fun sid s hs => ?_, fun sid s hs hmem => ?_, fun sid s hs hclosed => ?_, hfinal⟩
  · obtain ⟨place, hp⟩ := hb.located sid s hs
    rw [hp.lobby, hp.games]
    rw [ne_eq, hp.closed] at hopen
    cases place with
    | lobby => exact iff_of_true rfl nofun
    | game id => exact iff_of_false nofun fun h => h ⟨id, rfl⟩
    | gone => exact absurd rfl hopen
  · obtain ⟨place, hp⟩ := hb.located sid s hs
    rw [hp.games, hp.inGame]
    refine ⟨fun ⟨id, hid⟩ => ⟨⟨id, hid⟩, ?_⟩, fun h => h.1⟩
    rw [(hp.pointer id).mpr hid]
    rfl
  · obtain ⟨place, hp⟩ := hb.located sid s hs
    obtain ⟨id, rfl⟩ := hp.games.mp hmem
    obtain ⟨game, hgame⟩ := Option.isSome_iff_exists.mp (hp.alive id rfl).1
    refine ⟨id, game, (hp.pointer id).mpr rfl, hgame, (hp.listed id game hgame).mpr rfl, fun id' game' hgame' hin => ?_⟩
    cases (hp.listed id' game' hgame').mp hin
    rfl
  · obtain ⟨place, hp⟩ := hb.located sid s hs
    have hplace := hp.closed.mp hclosed
    subst hplace
    refine ⟨?_, ?_, fun id game hgame => ?_⟩
    · rw [hp.lobby]
      nofun
    · rw [hp.games]
      nofun
    · rw [hp.listed id game hgame]
      nofun

section

theorem oldGuids_openEnvironment (w : Server) (sid : SessionId) (msg : Msg) (enters : Bool) :
    OldGuids w (.packet sid msg openEnvironment enters) := fun _ _ _ _ _ => nofun

theorem oldGuids_userValid (w : Server) (playerId : Nat) (data : DBPlayerData) :
    OldGuids w (.lobby (.userValid playerId data openEnvironment)) := fun _ _ _ _ _ => nofun

/-- A player logs in, creates a game and is in it. -/
theorem books_kept_createGame : ∃ hist w s,
    Trace (fire officialConfig) (fun w e => OldGuids w e ∧ ¬ Strays w e) initial hist w ∧
    w.lobby.sessions 1 = some s ∧ s.state = .game ∧ BooksKept hist w := by
  have hstart := @Trace.start _ _ (fire officialConfig) (fun w e => OldGuids w e ∧ ¬ Strays w e) initial
  have hconnected := hstart.step (e := Event.lobby (.addConnection 7 false)) rfl ⟨trivial, nofun⟩
  have hinit := hconnected.step (e := Event.packet 1 (.init playerInit) openEnvironment true) rfl
    ⟨oldGuids_openEnvironment _ _ _ _, fun ⟨_, _, _, _, _, h⟩ => h⟩
  have hvalid := hinit.step (e := Event.lobby (.userValid 1 ⟨3, ['p', 'w']⟩ openEnvironment)) rfl
    ⟨oldGuids_userValid _ _ _, nofun⟩
  have hjoined := hvalid.step (e := Event.packet 1 .joinNewGame openEnvironment true) rfl
    ⟨oldGuids_openEnvironment _ _ _ _, fun ⟨s, _, hs, _, _, h⟩ => by
      cases hs
      cases h⟩
  exact ⟨_, _, _, hjoined, rfl, rfl, books_kept hjoined⟩

/-- A client closes its session by a packet out of turn and creates a game with the next one. A player joins a
game that an error has ended. -/
theorem strays_break_books :
    (∃ hist w v e, Trace (fire officialConfig) OldGuids initial hist w ∧ (v, e) ∈ hist ∧ ¬ Final v w) ∧
    ∃ hist w, Trace (fire officialConfig) OldGuids initial hist w ∧ ¬ BooksKept hist w := by
  have hstart := @Trace.start _ _ (fire officialConfig) OldGuids initial
  have hconnected := hstart.step (e := Event.lobby (.addConnection 7 false)) rfl trivial
  have hinit := hconnected.step (e := Event.packet 1 (.init playerInit) openEnvironment true) rfl
    (oldGuids_openEnvironment _ _ _ _)
  constructor
  · have hclosed := hinit.step (e := Event.packet 1 .other openEnvironment true) rfl (oldGuids_openEnvironment _ _ _ _)
    have hjoined := hclosed.step (e := Event.packet 1 .joinNewGame openEnvironment true) rfl
      (oldGuids_openEnvironment _ _ _ _)
    refine ⟨_, _, _, _, hjoined, List.mem_append_right _ (List.mem_singleton.mpr rfl), fun hfinal => ?_⟩
    obtain ⟨s', hs', hstate⟩ := hfinal 1 _ rfl rfl
    cases hs'
    cases hstate
  · have hvalid := hinit.step (e := Event.lobby (.userValid 1 ⟨3, ['p', 'w']⟩ openEnvironment)) rfl
      (oldGuids_userValid _ _ _)
    have hcreated := hvalid.step (e := Event.packet 1 .joinNewGame openEnvironment true) rfl (oldGuids_openEnvironment _ _ _ _)
    have herror := hcreated.step (e := Event.removeAllSessions 1) rfl trivial
    have hconnected' := herror.step (e := Event.lobby (.addConnection 8 false)) rfl trivial
    have hinit' := hconnected'.step (e := Event.packet 2 (.init playerInit) openEnvironment true) rfl
      (oldGuids_openEnvironment _ _ _ _)
    have hvalid' := hinit'.step (e := Event.lobby (.userValid 2 ⟨3, ['p', 'w']⟩ openEnvironment)) rfl
      (oldGuids_userValid _ _ _)
    have hjoined := hvalid'.step (e := Event.packet 2 (.joinExistingGame 1) openEnvironment true) rfl
      (oldGuids_openEnvironment _ _ _ _)
    refine ⟨_, _, hjoined, fun hbooks => ?_⟩
    obtain ⟨id, game, hid, hgame, hmem, _⟩ := hbooks.ownGame 2 _ rfl (by decide)
    cases hid
    cases hgame
    cases hmem

end

end PokerTH.Lobby.Server
