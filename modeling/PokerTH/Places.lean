import PokerTH.Bookkeeping

namespace PokerTH.Lobby.Server

open ServerLobbyThread

variable {w w' u : Server} {l l' : ServerLobbyThread} {sid sid' : SessionId} {s s' : SessionData} {gameId id : Nat}
  {game : ServerGame}

inductive Place
  | lobby
  | game (gameId : Nat)
  | gone
  deriving DecidableEq, Repr

/-- What the server keeps of a session says that it is at the place. -/
structure Located (w : Server) (sid : SessionId) (s : SessionData) (place : Place) : Prop where
  closed : s.state = .closed ↔ place = .gone
  inGame : s.state = .game ↔ ∃ id, place = .game id
  pointer : ∀ id, s.game = some id ↔ place = .game id
  lobby : sid ∈ w.lobby.sessionManager ↔ place = .lobby
  games : sid ∈ w.lobby.gameSessionManager ↔ ∃ id, place = .game id
  listed : ∀ id game, w.games id = some game → (sid ∈ game.sessions ↔ place = .game id)
  alive : ∀ id, place = .game id → (w.games id).isSome ∧ s.playerData.isSome

structure Booked (w : Server) : Prop where
  located : ∀ sid s, w.lobby.sessions sid = some s → ∃ place, Located w sid s place
  unknown : ∀ sid, w.lobby.sessions sid = none → sid ∉ w.lobby.sessionManager ∧ sid ∉ w.lobby.gameSessionManager ∧
    ∀ id game, w.games id = some game → sid ∉ game.sessions
  managers : Managers w.lobby
  lists : ∀ id game, w.games id = some game → game.sessions.Nodup
  newSession : ∀ sid s, w.lobby.sessions sid = some s → sid < w.lobby.curSessionId
  newGame : ∀ id game, w.games id = some game → id ≤ w.curGameId

def Final (w w' : Server) : Prop :=
  ∀ sid s, w.lobby.sessions sid = some s → s.state = .closed → ∃ s', w'.lobby.sessions sid = some s' ∧ s'.state = .closed

theorem Final.refl (w : Server) : Final w w := fun _ s hs hclosed => ⟨s, hs, hclosed⟩

theorem Final.trans (h : Final w u) (h' : Final u w') : Final w w' := by
  intro sid s hs hclosed
  obtain ⟨t, ht, hclosed'⟩ := h sid s hs hclosed
  exact h' sid t ht hclosed'

theorem lift_games (w : Server) (l : ServerLobbyThread) (h : (w.lift l).games id = some game) :
    ∃ before, w.games id = some before ∧
      game.sessions = before.sessions.filter (fun sid => ¬ closedIn w.lobby l id sid) := by
  obtain ⟨before, hbefore, heq⟩ := Option.map_eq_some_iff.mp h
  exact ⟨before, hbefore, by rw [← heq]⟩

theorem isSome_lift (w : Server) (l : ServerLobbyThread) (id : Nat) :
    ((w.lift l).games id).isSome = (w.games id).isSome := Option.isSome_map

theorem mem_lift (h : (w.lift l).games id = some game) :
    ∃ before, w.games id = some before ∧
      (sid ∈ game.sessions ↔ sid ∈ before.sessions ∧ closedIn w.lobby l id sid = false) := by
  obtain ⟨before, hbefore, hsessions⟩ := lift_games w l h
  refine ⟨before, hbefore, ?_⟩
  rw [hsessions, List.mem_filter]
  simp

/-- A session that stays is at the same place after a handler of the lobby. -/
theorem Located.stays {place : Place} (hp : Located w sid s place) (hs : w.lobby.sessions sid = some s)
    (hs' : l.sessions sid = some s') (hstays : Stays w.lobby l sid s s') : Located (w.lift l) sid s' place := by
  refine ⟨hstays.closed.trans hp.closed, hstays.inGame.trans hp.inGame, fun id => ?_, hstays.lobby.trans hp.lobby,
    hstays.games.trans hp.games, fun id game hgame => ?_, fun id hid => ?_⟩
  · rw [hstays.game]
    exact hp.pointer id
  · obtain ⟨before, hbefore, hmem⟩ := @mem_lift _ _ sid _ _ hgame
    have hopen : closedIn w.lobby l id sid = false := by
      simp only [closedIn, hs, hs', Option.any_some]
      by_cases hclosed : s.state = .closed
      · simp [hclosed]
      · have hclosed' : s'.state ≠ .closed := fun h => hclosed (hstays.closed.mp h)
        simp [hclosed']
    rw [hmem, ← hp.listed id before hbefore]
    exact and_iff_left hopen
  · obtain ⟨halive, hplayer⟩ := hp.alive id hid
    exact ⟨by rwa [isSome_lift], hstays.player hplayer⟩

theorem Located.gone {place : Place} (hp : Located w sid s place) (hs : w.lobby.sessions sid = some s)
    (hs' : l.sessions sid = some s') (hgone : Gone l sid s') : Located (w.lift l) sid s' .gone := by
  refine ⟨iff_of_true hgone.closed rfl, ?_, fun id => ?_, iff_of_false hgone.lobby nofun, ?_, fun id game hgame => ?_, nofun⟩
  · rw [hgone.closed]
    exact iff_of_false nofun nofun
  · rw [hgone.game]
    exact iff_of_false nofun nofun
  · exact iff_of_false hgone.games nofun
  · obtain ⟨before, hbefore, hmem⟩ := @mem_lift _ _ sid _ _ hgame
    refine iff_of_false (fun hin => ?_) nofun
    obtain ⟨hlisted, hopen⟩ := hmem.mp hin
    have hplace := (hp.listed id before hbefore).mp hlisted
    have hnot : s.state ≠ .closed := by
      rw [ne_eq, hp.closed, hplace]
      nofun
    have hpointer := (hp.pointer id).mpr hplace
    simp [closedIn, hs, hs', hnot, hpointer, hgone.closed] at hopen

theorem booked_lift (hb : Booked w) (ht : Tidy w.lobby l) : Booked (w.lift l) := by
  refine ⟨fun sid s' hs' => ?_, fun sid hs' => ?_, ht.managers hb.managers, fun id game hgame => ?_, fun sid s' hs' => ?_,
    fun id game hgame => ?_⟩
  · cases hs : w.lobby.sessions sid with
    | none =>
        have hnone := (ht.unknown sid hs).1
        change l.sessions sid = some s' at hs'
        rw [hnone] at hs'
        cases hs'
    | some s =>
        obtain ⟨place, hp⟩ := hb.located sid s hs
        obtain ⟨t, ht', hcases⟩ := ht.session hb.managers sid s hs
        change l.sessions sid = some s' at hs'
        rw [hs'] at ht'
        cases ht'
        rcases hcases with hstays | hgone
        · exact ⟨place, hp.stays hs hs' hstays⟩
        · exact ⟨.gone, hp.gone hs hs' hgone⟩
  · have hs : w.lobby.sessions sid = none := by
      by_contra hsome
      obtain ⟨s, hs⟩ := Option.ne_none_iff_exists'.mp hsome
      obtain ⟨t, ht', _⟩ := ht.session hb.managers sid s hs
      change l.sessions sid = none at hs'
      rw [hs'] at ht'
      cases ht'
    obtain ⟨hlobby, hgames, hlists⟩ := hb.unknown sid hs
    obtain ⟨_, hlobby', hgames'⟩ := ht.unknown sid hs
    refine ⟨fun h => hlobby (hlobby' h), fun h => hgames (hgames' h), fun id game hgame hmem => ?_⟩
    obtain ⟨before, hbefore, hiff⟩ := @mem_lift _ _ sid _ _ hgame
    exact hlists id before hbefore (hiff.mp hmem).1
  · obtain ⟨before, hbefore, hsessions⟩ := lift_games w l hgame
    rw [hsessions]
    exact (hb.lists id before hbefore).filter _
  · change sid < l.curSessionId
    rw [ht.counter]
    cases hs : w.lobby.sessions sid with
    | none =>
        have hnone := (ht.unknown sid hs).1
        change l.sessions sid = some s' at hs'
        rw [hnone] at hs'
        cases hs'
    | some s => exact hb.newSession sid s hs
  · obtain ⟨before, hbefore, _⟩ := lift_games w l hgame
    exact hb.newGame id before hbefore

theorem final_lift (hb : Booked w) (ht : Tidy w.lobby l) : Final w (w.lift l) := by
  intro sid s hs hclosed
  obtain ⟨s', hs', hcases⟩ := ht.session hb.managers sid s hs
  refine ⟨s', hs', ?_⟩
  rcases hcases with hstays | hgone
  · exact hstays.closed.mpr hclosed
  · exact hgone.closed

end PokerTH.Lobby.Server
