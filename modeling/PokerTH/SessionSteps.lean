import PokerTH.SessionMoves

namespace PokerTH.Lobby.Server

open ServerLobbyThread

variable {c : ServerConfig} {env : Environment} {w w' u : Server} {l l' k : ServerLobbyThread} {sid sid' : SessionId}
  {s s' : SessionData} {gameId id : Nat} {game : ServerGame} {place : Place} {msg : Msg} {enters : Bool}

theorem received_closeSession (hs : l.sessions sid = some s) (hopen : s.state ≠ .closed) (hm : Managers l) :
    Received l (l.closeSession sid) sid := by
  simp only [ServerLobbyThread.closeSession, hs, if_neg hopen]
  refine ⟨fun sid' hne => setSession_ne hne, fun sid' hne => List.mem_erase_of_ne hne,
    fun sid' hne => List.mem_erase_of_ne hne, ⟨_, setSession_self l sid _, rfl, hm.games.not_mem_erase, ?_⟩,
    ⟨hm.lobby.erase sid, hm.games.erase sid⟩, rfl⟩
  exact .inl ⟨rfl, hm.lobby.not_mem_erase⟩

theorem Received.after (hr : Received k l' sid) (hsessions : ∀ sid' ≠ sid, k.sessions sid' = l.sessions sid')
    (hlobby : ∀ sid' ≠ sid, (sid' ∈ k.sessionManager ↔ sid' ∈ l.sessionManager))
    (hgames : ∀ sid' ≠ sid, (sid' ∈ k.gameSessionManager ↔ sid' ∈ l.gameSessionManager))
    (hcounter : k.curSessionId = l.curSessionId) : Received l l' sid :=
  ⟨fun sid' hne => (hr.sessions sid' hne).trans (hsessions sid' hne),
    fun sid' hne => (hr.lobby sid' hne).trans (hlobby sid' hne),
    fun sid' hne => (hr.games sid' hne).trans (hgames sid' hne), hr.placed, hr.managers, hr.counter.trans hcounter⟩

theorem mem_orderedInsert_ne {sids : List SessionId} (hne : sid' ≠ sid) :
    sid' ∈ List.orderedInsert (· ≤ ·) sid sids ↔ sid' ∈ sids := by
  rw [List.mem_orderedInsert]
  exact or_iff_right hne

theorem nodup_orderedInsert {sids : List SessionId} (hnodup : sids.Nodup) (hnot : sid ∉ sids) :
    (List.orderedInsert (· ≤ ·) sid sids).Nodup :=
  (List.perm_orderedInsert (· ≤ ·) sid sids).nodup_iff.mpr (List.nodup_cons.mpr ⟨hnot, hnodup⟩)

theorem received_handleReAddedSession (hopen : s.state ≠ .closed) (hm : Managers l) (hnot : sid ∉ l.sessionManager) :
    Received l (l.handleReAddedSession sid s) sid := by
  simp only [handleReAddedSession]
  split_ifs
  · refine ⟨fun sid' hne => ?_, fun sid' hne => mem_orderedInsert_ne hne, fun sid' hne => List.mem_erase_of_ne hne,
      ⟨_, setSession_self _ sid _, rfl, hm.games.not_mem_erase, .inr ⟨rfl, ?_⟩⟩,
      ⟨nodup_orderedInsert hm.lobby hnot, hm.games.erase sid⟩, rfl⟩
    · exact (setSession_ne hne).trans (setSession_ne hne)
    · exact (List.mem_orderedInsert _).mpr (.inl rfl)
  · have hclose := received_closeSession (l := { l.setSession sid { s with game := none } with
      gameSessionManager := l.gameSessionManager.erase sid }) (setSession_self l sid _) hopen ⟨hm.lobby, hm.games.erase sid⟩
    exact hclose.after (fun sid' hne => setSession_ne hne) (fun _ _ => Iff.rfl) (fun sid' hne => List.mem_erase_of_ne hne) rfl

theorem Leaving.moveSessionToLobby (h : Leaving w gameId sid s) : Moves w (w.moveSessionToLobby gameId sid) sid := by
  have hlobby := removeSession_lobby w gameId sid
  have hreceived := received_handleReAddedSession h.opened h.managers h.lobby
  simp only [Server.moveSessionToLobby, reAddSession, hlobby, h.session, if_pos h.player]
  exact h.moves hreceived

theorem Leaving.sessionError (h : Leaving w gameId sid s) : Moves w (w.sessionError gameId sid) sid := by
  simp only [Server.sessionError, Server.closeSession, removeSession_lobby]
  exact h.moves (received_closeSession h.session h.opened h.managers)

theorem Booked.leaving (hb : Booked w) (hserves : w.serves gameId sid) : ∃ s, Leaving w gameId sid s := by
  obtain ⟨game, hgame, hcases⟩ := (Option.any_eq_true _ _).mp hserves
  have hknown : ∃ s place, w.lobby.sessions sid = some s ∧ Located w sid s place ∧ place = .game gameId := by
    cases hs : w.lobby.sessions sid with
    | none =>
        have hnot := (hb.unknown sid hs).2.2 gameId game hgame
        simp [hnot, hs] at hcases
    | some s =>
        obtain ⟨place, hp⟩ := hb.located sid s hs
        refine ⟨s, place, rfl, hp, ?_⟩
        simp only [hs, Option.any_some, decide_eq_true_eq] at hcases
        rcases hcases with hmem | ⟨_, hpointer⟩
        · exact (hp.listed gameId game hgame).mp hmem
        · exact (hp.pointer gameId).mp hpointer
  obtain ⟨s, place, hs, hp, rfl⟩ := hknown
  refine ⟨s, hs, ?_, (hp.alive gameId rfl).2, ?_, fun id game' hgame' hmem => ?_, hb.managers, hb.lists,
    hb.newSession sid s hs, hb.newGame⟩
  · rw [ne_eq, hp.closed]
    nofun
  · rw [hp.lobby]
    nofun
  · have hplace := (hp.listed id game' hgame').mp hmem
    cases hplace
    rfl

structure Joining (l l' : ServerLobbyThread) (sid : SessionId) (s : SessionData) (gameId : Nat) : Prop where
  session : l'.sessions sid = some { s with state := .game, game := some gameId }
  sessions : ∀ sid' ≠ sid, l'.sessions sid' = l.sessions sid'
  lobby : l'.sessionManager = l.sessionManager.erase sid
  games : l'.gameSessionManager = List.orderedInsert (· ≤ ·) sid l.gameSessionManager
  counter : l'.curSessionId = l.curSessionId

theorem joining_moveSessionToGame (s : SessionData) (gameId : Nat) (hnot : sid ∉ l.gameSessionManager) :
    Joining l (l.moveSessionToGame sid s gameId) sid s gameId := by
  have hnot' : sid ∉ (l.setSession sid { s with state := .game }).gameSessionManager := hnot
  simp only [ServerLobbyThread.moveSessionToGame, if_neg hnot']
  exact ⟨setSession_self _ sid _, fun sid' hne => (setSession_ne hne).trans (setSession_ne hne), rfl, rfl, rfl⟩

theorem Moves.after (ho : Others w u sid) (hcounter : u.lobby.curSessionId = w.lobby.curSessionId)
    (hm : Moves u w' sid) : Moves w w' sid := by
  refine ⟨ho.trans hm.others, hm.located, hm.managers, hm.lists, ?_, hm.newGame⟩
  rw [← hcounter]
  exact hm.newSession

theorem Leaving.acceptNewSession (h : Leaving w gameId sid s) (hunlisted : Unlisted w sid)
    (hgame : w.games gameId = some game) (hstate : s.state = .game) (hpointer : s.game = some gameId)
    (hin : sid ∈ w.lobby.gameSessionManager) : Moves w (w.acceptNewSession gameId game sid) sid := by
  simp only [Server.acceptNewSession, if_neg (hunlisted gameId game hgame)]
  refine ⟨others_setGame hgame fun sid' hne => mem_orderedInsert_ne hne, ⟨s, .game gameId, h.session, ?_⟩, h.managers,
    fun id g hg => ?_, ⟨h.newSession, le_refl _⟩, fun id g hg => ?_⟩
  · refine ⟨iff_of_false h.opened nofun, iff_of_true hstate ⟨gameId, rfl⟩, fun id => ?_, iff_of_false h.lobby nofun,
      iff_of_true hin ⟨gameId, rfl⟩, fun id g hg => ?_, fun id hid => ?_⟩
    · rw [hpointer, Option.some.injEq, Place.game.injEq]
    · rw [setGame_games] at hg
      split_ifs at hg with hid
      · cases hg
        rw [hid]
        exact iff_of_true ((List.mem_orderedInsert _).mpr (.inl rfl)) rfl
      · refine iff_of_false (hunlisted id g hg) fun heq => hid ?_
        cases heq
        rfl
    · cases hid
      refine ⟨?_, h.player⟩
      rw [setGame_games, if_pos rfl]
      rfl
  · rw [setGame_games] at hg
    split_ifs at hg
    · cases hg
      exact nodup_orderedInsert (h.lists gameId game hgame) (hunlisted gameId game hgame)
    · exact h.lists id g hg
  · rw [setGame_games] at hg
    split_ifs at hg with hid
    · rw [hid]
      exact h.newGame gameId game hgame
    · exact h.newGame id g hg

/-- A session that waits in the lobby joins a game that is not in its final state. -/
theorem Booked.joins (hb : Booked w) (hs : w.lobby.sessions sid = some s) (hp : Located w sid s .lobby)
    (hplayer : s.playerData.isSome) (hgame : w.games gameId = some game) (hstate : game.state ≠ .final) :
    Moves w (w.moveSessionToGame enters sid s gameId) sid := by
  have hnot : sid ∉ w.lobby.gameSessionManager := by
    rw [hp.games]
    rintro ⟨_, h⟩
    cases h
  have hunlisted : Unlisted w sid := by
    intro id g hg
    rw [hp.listed id g hg]
    nofun
  have hj := joining_moveSessionToGame s gameId hnot
  have hin : sid ∈ (w.lobby.moveSessionToGame sid s gameId).gameSessionManager := by
    rw [hj.games]
    exact (List.mem_orderedInsert _).mpr (.inl rfl)
  have hothers : Others w { w with lobby := w.lobby.moveSessionToGame sid s gameId } sid := by
    refine ⟨hj.sessions, fun sid' hne => ?_, fun sid' hne => ?_, fun sid' hne id g hg => ⟨g, hg, Iff.rfl⟩, fun _ h => h⟩
    · dsimp only
      rw [hj.lobby]
      exact List.mem_erase_of_ne hne
    · dsimp only
      rw [hj.games]
      exact mem_orderedInsert_ne hne
  have hleaving : Leaving { w with lobby := w.lobby.moveSessionToGame sid s gameId } gameId sid
      { s with state := .game, game := some gameId } := by
    refine ⟨hj.session, nofun, hplayer, ?_, fun id g hg hmem => absurd hmem (hunlisted id g hg), ⟨?_, ?_⟩, hb.lists,
      ?_, hb.newGame⟩
    · dsimp only
      rw [hj.lobby]
      exact hb.managers.lobby.not_mem_erase
    · dsimp only
      rw [hj.lobby]
      exact hb.managers.lobby.erase sid
    · dsimp only
      rw [hj.games]
      exact nodup_orderedInsert hb.managers.games hnot
    · dsimp only
      rw [hj.counter]
      exact hb.newSession sid s hs
  have haccept := (hleaving.acceptNewSession hunlisted hgame rfl rfl hin).after hothers hj.counter
  have hback := hleaving.moveSessionToLobby.after hothers hj.counter
  simp only [Server.moveSessionToGame, if_neg hnot, handleNewPlayer, hgame]
  cases hgs : game.state with
  | init =>
      dsimp only
      split_ifs
      · exact haccept
      · exact hback
  | startGame => exact hback
  | running =>
      dsimp only
      split_ifs
      · exact haccept
      · exact hback
  | final => exact absurd hgs hstate

end PokerTH.Lobby.Server
