import PokerTH.Places

namespace PokerTH.Lobby.Server

open ServerLobbyThread

variable {w w' u : Server} {l l' : ServerLobbyThread} {sid sid' : SessionId} {s s' : SessionData} {gameId id : Nat}
  {game : ServerGame} {place : Place}

structure Others (w w' : Server) (sid : SessionId) : Prop where
  sessions : ∀ sid' ≠ sid, w'.lobby.sessions sid' = w.lobby.sessions sid'
  lobby : ∀ sid' ≠ sid, (sid' ∈ w'.lobby.sessionManager ↔ sid' ∈ w.lobby.sessionManager)
  games : ∀ sid' ≠ sid, (sid' ∈ w'.lobby.gameSessionManager ↔ sid' ∈ w.lobby.gameSessionManager)
  listed : ∀ sid' ≠ sid, ∀ id game', w'.games id = some game' →
    ∃ game, w.games id = some game ∧ (sid' ∈ game'.sessions ↔ sid' ∈ game.sessions)
  alive : ∀ id, (w.games id).isSome → (w'.games id).isSome

theorem Others.trans (h : Others w u sid) (h' : Others u w' sid) : Others w w' sid := by
  refine ⟨fun sid' hne => (h'.sessions sid' hne).trans (h.sessions sid' hne),
    fun sid' hne => (h'.lobby sid' hne).trans (h.lobby sid' hne),
    fun sid' hne => (h'.games sid' hne).trans (h.games sid' hne), fun sid' hne id game' hgame' => ?_,
    fun id hid => h'.alive id (h.alive id hid)⟩
  obtain ⟨between, hbetween, hmem'⟩ := h'.listed sid' hne id game' hgame'
  obtain ⟨game, hgame, hmem⟩ := h.listed sid' hne id between hbetween
  exact ⟨game, hgame, hmem'.trans hmem⟩

structure Moves (w w' : Server) (sid : SessionId) : Prop where
  others : Others w w' sid
  located : ∃ s' place, w'.lobby.sessions sid = some s' ∧ Located w' sid s' place
  managers : Managers w'.lobby
  lists : ∀ id game, w'.games id = some game → game.sessions.Nodup
  newSession : sid < w'.lobby.curSessionId ∧ w.lobby.curSessionId ≤ w'.lobby.curSessionId
  newGame : ∀ id game, w'.games id = some game → id ≤ w'.curGameId

theorem Located.others (hp : Located w sid' s place) (ho : Others w w' sid) (hne : sid' ≠ sid) :
    Located w' sid' s place := by
  refine ⟨hp.closed, hp.inGame, hp.pointer, (ho.lobby sid' hne).trans hp.lobby, (ho.games sid' hne).trans hp.games,
    fun id game' hgame' => ?_, fun id hid => ?_⟩
  · obtain ⟨game, hgame, hmem⟩ := ho.listed sid' hne id game' hgame'
    exact hmem.trans (hp.listed id game hgame)
  · obtain ⟨halive, hplayer⟩ := hp.alive id hid
    exact ⟨ho.alive id halive, hplayer⟩

theorem booked_moves (hb : Booked w) (hm : Moves w w' sid) : Booked w' := by
  obtain ⟨s', place, hs', hp⟩ := hm.located
  have ho := hm.others
  refine ⟨fun sid' t ht => ?_, fun sid' ht => ?_, hm.managers, hm.lists, fun sid' t ht => ?_, hm.newGame⟩
  · by_cases hsid : sid' = sid
    · subst hsid
      rw [hs'] at ht
      cases ht
      exact ⟨place, hp⟩
    · rw [ho.sessions sid' hsid] at ht
      obtain ⟨place', hp'⟩ := hb.located sid' t ht
      exact ⟨place', hp'.others ho hsid⟩
  · have hsid : sid' ≠ sid := by
      rintro rfl
      rw [hs'] at ht
      cases ht
    rw [ho.sessions sid' hsid] at ht
    obtain ⟨hlobby, hgames, hlists⟩ := hb.unknown sid' ht
    refine ⟨fun h => hlobby ((ho.lobby sid' hsid).mp h), fun h => hgames ((ho.games sid' hsid).mp h), ?_⟩
    intro id game' hgame' hmem
    obtain ⟨game, hgame, hiff⟩ := ho.listed sid' hsid id game' hgame'
    exact hlists id game hgame (hiff.mp hmem)
  · by_cases hsid : sid' = sid
    · subst hsid
      exact hm.newSession.1
    · rw [ho.sessions sid' hsid] at ht
      exact lt_of_lt_of_le (hb.newSession sid' t ht) hm.newSession.2

theorem final_moves (hopen : ∀ s, w.lobby.sessions sid = some s → s.state ≠ .closed) (ho : Others w w' sid) :
    Final w w' := by
  intro sid' s hs hclosed
  have hsid : sid' ≠ sid := by
    rintro rfl
    exact hopen s hs hclosed
  exact ⟨s, by rw [ho.sessions sid' hsid]; exact hs, hclosed⟩

/-- A handler of the lobby that changes one session only leaves the others in their games. -/
theorem others_lift (hsessions : ∀ sid' ≠ sid, l.sessions sid' = w.lobby.sessions sid')
    (hlobby : ∀ sid' ≠ sid, (sid' ∈ l.sessionManager ↔ sid' ∈ w.lobby.sessionManager))
    (hgames : ∀ sid' ≠ sid, (sid' ∈ l.gameSessionManager ↔ sid' ∈ w.lobby.gameSessionManager)) :
    Others w (w.lift l) sid := by
  refine ⟨hsessions, hlobby, hgames, fun sid' hne id game' hgame' => ?_, fun id hid => by rwa [isSome_lift]⟩
  obtain ⟨game, hgame, hmem⟩ := @mem_lift _ _ sid' _ _ hgame'
  refine ⟨game, hgame, hmem.trans (and_iff_left ?_)⟩
  simp only [closedIn, hsessions sid' hne]
  cases w.lobby.sessions sid' with
  | none => rfl
  | some s => cases hstate : s.state <;> simp [hstate]

theorem lists_lift (hl : ∀ id game, w.games id = some game → game.sessions.Nodup) :
    ∀ id game, (w.lift l).games id = some game → game.sessions.Nodup := by
  intro id game hgame
  obtain ⟨before, hbefore, hsessions⟩ := lift_games w l hgame
  rw [hsessions]
  exact (hl id before hbefore).filter _

theorem setGame_games (w : Server) (gameId : Nat) (game : ServerGame) (id : Nat) :
    (w.setGame gameId game).games id = if id = gameId then some game else w.games id :=
  Function.update_apply w.games gameId (some game) id

theorem others_setGame {game' : ServerGame} (hgame : w.games gameId = some game)
    (hmem : ∀ sid' ≠ sid, (sid' ∈ game'.sessions ↔ sid' ∈ game.sessions)) :
    Others w (w.setGame gameId game') sid := by
  refine ⟨fun _ _ => rfl, fun _ _ => Iff.rfl, fun _ _ => Iff.rfl, fun sid' hne id found hfound => ?_, fun id hid => ?_⟩
  · rw [setGame_games] at hfound
    split_ifs at hfound with hid
    · cases hfound
      subst hid
      exact ⟨game, hgame, hmem sid' hne⟩
    · exact ⟨found, hfound, Iff.rfl⟩
  · rw [setGame_games]
    split_ifs
    · rfl
    · exact hid

def Unlisted (w : Server) (sid : SessionId) : Prop := ∀ id game, w.games id = some game → sid ∉ game.sessions

theorem Unlisted.lift (h : Unlisted w sid) (l : ServerLobbyThread) : Unlisted (w.lift l) sid := by
  intro id game hgame hin
  obtain ⟨before, hbefore, hiff⟩ := @mem_lift _ _ sid _ _ hgame
  exact h id before hbefore (hiff.mp hin).1

theorem removeSession_lobby (w : Server) (gameId : Nat) (sid : SessionId) :
    (w.removeSession gameId sid).lobby = w.lobby := by
  simp only [removeSession]
  split <;> rfl

theorem removeSession_counter (w : Server) (gameId : Nat) (sid : SessionId) :
    (w.removeSession gameId sid).curGameId = w.curGameId := by
  simp only [removeSession]
  split <;> rfl

theorem removeSession_games (w : Server) (gameId : Nat) (sid : SessionId)
    (hgame : (w.removeSession gameId sid).games id = some game) : ∃ before, w.games id = some before ∧
      game.sessions = if id = gameId then before.sessions.erase sid else before.sessions := by
  simp only [removeSession] at hgame
  split at hgame
  · next hnone =>
      refine ⟨game, hgame, ?_⟩
      rw [if_neg]
      rintro rfl
      rw [hnone] at hgame
      cases hgame
  · next found hfound =>
      rw [setGame_games] at hgame
      split_ifs at hgame with hid
      · cases hgame
        exact ⟨found, by rw [hid]; exact hfound, by rw [if_pos hid]⟩
      · exact ⟨game, hgame, by rw [if_neg hid]⟩

theorem others_removeSession (w : Server) (gameId : Nat) (sid : SessionId) :
    Others w (w.removeSession gameId sid) sid := by
  simp only [removeSession]
  split
  · exact ⟨fun _ _ => rfl, fun _ _ => Iff.rfl, fun _ _ => Iff.rfl, fun _ _ _ game' h => ⟨game', h, Iff.rfl⟩, fun _ h => h⟩
  · next found hfound => exact others_setGame hfound fun sid' hne => List.mem_erase_of_ne hne

structure Leaving (w : Server) (gameId : Nat) (sid : SessionId) (s : SessionData) : Prop where
  session : w.lobby.sessions sid = some s
  opened : s.state ≠ .closed
  player : s.playerData.isSome
  lobby : sid ∉ w.lobby.sessionManager
  elsewhere : ∀ id game, w.games id = some game → sid ∈ game.sessions → id = gameId
  managers : Managers w.lobby
  lists : ∀ id game, w.games id = some game → game.sessions.Nodup
  newSession : sid < w.lobby.curSessionId
  newGame : ∀ id game, w.games id = some game → id ≤ w.curGameId

theorem Leaving.unlisted (h : Leaving w gameId sid s) : Unlisted (w.removeSession gameId sid) sid := by
  intro id game hgame hmem
  obtain ⟨before, hbefore, hsessions⟩ := removeSession_games w gameId sid hgame
  rw [hsessions] at hmem
  split_ifs at hmem with hid
  · exact (h.lists id before hbefore).not_mem_erase hmem
  · exact hid (h.elsewhere id before hbefore hmem)

theorem Leaving.lists_removeSession (h : Leaving w gameId sid s) :
    ∀ id game, (w.removeSession gameId sid).games id = some game → game.sessions.Nodup := by
  intro id game hgame
  obtain ⟨before, hbefore, hsessions⟩ := removeSession_games w gameId sid hgame
  rw [hsessions]
  split_ifs
  · exact (h.lists id before hbefore).erase sid
  · exact h.lists id before hbefore

structure Received (l l' : ServerLobbyThread) (sid : SessionId) : Prop where
  sessions : ∀ sid' ≠ sid, l'.sessions sid' = l.sessions sid'
  lobby : ∀ sid' ≠ sid, (sid' ∈ l'.sessionManager ↔ sid' ∈ l.sessionManager)
  games : ∀ sid' ≠ sid, (sid' ∈ l'.gameSessionManager ↔ sid' ∈ l.gameSessionManager)
  placed : ∃ s', l'.sessions sid = some s' ∧ s'.game = none ∧ sid ∉ l'.gameSessionManager ∧
    ((s'.state = .closed ∧ sid ∉ l'.sessionManager) ∨ (s'.state = .established ∧ sid ∈ l'.sessionManager))
  managers : Managers l'
  counter : l'.curSessionId = l.curSessionId

theorem Leaving.moves (h : Leaving w gameId sid s) (hr : Received w.lobby l' sid) :
    Moves w ((w.removeSession gameId sid).lift l') sid := by
  have hunlisted := h.unlisted.lift l'
  have hlobby := removeSession_lobby w gameId sid
  have hothers : Others (w.removeSession gameId sid) ((w.removeSession gameId sid).lift l') sid := by
    apply others_lift
    · rw [hlobby]
      exact hr.sessions
    · rw [hlobby]
      exact hr.lobby
    · rw [hlobby]
      exact hr.games
  obtain ⟨s', hs', hgame, hnot, hcases⟩ := hr.placed
  have hlocated : ∃ place, Located ((w.removeSession gameId sid).lift l') sid s' place := by
    rcases hcases with ⟨hclosed, hout⟩ | ⟨hestablished, hin⟩
    · refine ⟨.gone, iff_of_true hclosed rfl, iff_of_false (by rw [hclosed]; nofun) nofun,
        fun id => iff_of_false (by rw [hgame]; nofun) nofun, iff_of_false hout nofun, iff_of_false hnot nofun,
        fun id game hfound => iff_of_false (hunlisted id game hfound) nofun, nofun⟩
    · refine ⟨.lobby, iff_of_false (by rw [hestablished]; nofun) nofun, iff_of_false (by rw [hestablished]; nofun) nofun,
        fun id => iff_of_false (by rw [hgame]; nofun) nofun, iff_of_true hin rfl, iff_of_false hnot nofun,
        fun id game hfound => iff_of_false (hunlisted id game hfound) nofun, nofun⟩
  obtain ⟨place, hplace⟩ := hlocated
  refine ⟨(others_removeSession w gameId sid).trans hothers, ⟨s', place, hs', hplace⟩, hr.managers,
    lists_lift h.lists_removeSession, ?_, fun id game hfound => ?_⟩
  · change sid < l'.curSessionId ∧ w.lobby.curSessionId ≤ l'.curSessionId
    rw [hr.counter]
    exact ⟨h.newSession, le_refl _⟩
  · change id ≤ (w.removeSession gameId sid).curGameId
    obtain ⟨before, hbefore, _⟩ := lift_games _ l' hfound
    obtain ⟨first, hfirst, _⟩ := removeSession_games w gameId sid hbefore
    rw [removeSession_counter]
    exact h.newGame id first hfirst

end PokerTH.Lobby.Server
