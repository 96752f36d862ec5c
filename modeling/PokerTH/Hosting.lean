import PokerTH.ServerGame

namespace PokerTH.ServerGame

variable {g g' : ServerGame} {state : ServerState} {sid playerId id : Nat} {s : PlayerSession}

def curPlayerId (g : ServerGame) : Option Nat :=
  g.playing.bind fun p =>
    match p.betting.hand.getCurrentPlayer with
    | .ok r => some (p.betting.hand.uniqueID r)
    | .error _ => none

/-- The game stays where it is: only its sessions and its lists of players may change. -/
structure Stays (g g' : ServerGame) : Prop where
  state : g'.state = g.state
  playing : g'.playing.isSome = g.playing.isSome
  curPlayerId : g'.curPlayerId = g.curPlayerId
  gameData : g'.gameData = g.gameData
  timer1 : g.state ≠ .init → g'.timer1 = g.timer1

theorem stays_refl (g : ServerGame) : Stays g g := ⟨rfl, rfl, rfl, rfl, fun _ => rfl⟩

theorem Stays.trans {u : ServerGame} (h : Stays g g') (h' : Stays g' u) : Stays g u :=
  ⟨h'.state.trans h.state, h'.playing.trans h.playing, h'.curPlayerId.trans h.curPlayerId,
    h'.gameData.trans h.gameData, fun hne => (h'.timer1 (h.state ▸ hne)).trans (h.timer1 hne)⟩

theorem stays_foldl {β : Type} {f : ServerGame → β → ServerGame} (hf : ∀ g b, Stays g (f g b)) (l : List β) :
    Stays g (l.foldl f g) := by
  induction l generalizing g with
  | nil => exact stays_refl g
  | cons b l ih => exact (hf g b).trans ih

@[simp] theorem exit_gameData : g.exit.gameData = g.gameData := by
  simp only [exit]
  split <;> rfl

@[simp] theorem exit_playing : g.exit.playing = g.playing := by
  simp only [exit]
  split <;> rfl

@[simp] theorem exit_sessions : g.exit.sessions = g.sessions := by
  simp only [exit]
  split <;> rfl

@[simp] theorem registerAdminTimer_state : g.registerAdminTimer.state = g.state := by
  simp only [registerAdminTimer]
  split_ifs <;> rfl

@[simp] theorem registerAdminTimer_gameData : g.registerAdminTimer.gameData = g.gameData := by
  simp only [registerAdminTimer]
  split_ifs <;> rfl

@[simp] theorem enter_state : g.enter.state = g.state := by
  simp only [enter]
  split
  · exact registerAdminTimer_state
  · rfl
  · rfl
  · split_ifs <;> rfl
  · rfl
  · rfl

@[simp] theorem enter_gameData : g.enter.gameData = g.gameData := by
  simp only [enter]
  split
  · exact registerAdminTimer_gameData
  · rfl
  · rfl
  · split_ifs <;> rfl
  · rfl
  · rfl

@[simp] theorem setState_state : (g.setState state).state = state := by
  simp [setState]

@[simp] theorem setState_gameData : (g.setState state).gameData = g.gameData := by
  simp [setState]

/-- The wait for an action, with its timer if the thinking time is limited. -/
theorem setState_waitPlayerAction (g : ServerGame) :
    (g.setState .waitPlayerAction).playing = g.playing ∧ (g.setState .waitPlayerAction).sessions = g.sessions ∧
      (0 < g.gameData.playerActionTimeoutSec → (g.setState .waitPlayerAction).timer1 = some .playerTimeout) := by
  simp only [setState, enter, exit_gameData]
  split_ifs with hpos
  · exact ⟨exit_playing, exit_sessions, fun _ => rfl⟩
  · exact ⟨exit_playing, exit_sessions, fun h => absurd h hpos⟩

theorem stays_notifyGameAdminChanged (g : ServerGame) : Stays g g.notifyGameAdminChanged := by
  simp only [notifyGameAdminChanged]
  split_ifs with hinit
  · simp only [registerAdminTimer]
    split_ifs
    · exact ⟨rfl, rfl, rfl, rfl, fun hne => absurd hinit hne⟩
    · exact ⟨rfl, rfl, rfl, rfl, fun hne => absurd hinit hne⟩
  · exact stays_refl g

theorem stays_notifySessionRemoved (g : ServerGame) : Stays g g.notifySessionRemoved := by
  simp only [notifySessionRemoved]
  split_ifs
  · exact ⟨rfl, rfl, rfl, rfl, fun _ => rfl⟩
  · exact stays_refl g

theorem stays_removePlayerData (g : ServerGame) (s : PlayerSession) : Stays g (g.removePlayerData s) := by
  simp only [removePlayerData]
  refine Stays.trans ?_ (stays_notifySessionRemoved _)
  split_ifs
  · split
    · exact stays_refl g
    · next newAdmin _ =>
        have hset : Stays g (g.setAdmin newAdmin) := ⟨rfl, rfl, rfl, rfl, fun _ => rfl⟩
        exact hset.trans (stays_notifyGameAdminChanged _)
  · exact stays_refl g

theorem stays_removeSession (g : ServerGame) (sid : Nat) : Stays g (g.removeSession sid) := by
  simp only [removeSession]
  split
  · exact stays_refl g
  · have herase : Stays g (g.eraseSession sid) := ⟨rfl, rfl, rfl, rfl, fun _ => rfl⟩
    exact herase.trans (stays_removePlayerData _ _)

theorem stays_kickSession (g : ServerGame) (playerId : Nat) : Stays g (g.kickSession playerId) := by
  simp only [kickSession]
  split
  · exact stays_refl g
  · exact stays_removeSession g _

theorem stays_removePlayer (g : ServerGame) (playerId : Nat) : Stays g (g.removePlayer playerId) := by
  simp only [removePlayer]
  split
  · exact stays_refl g
  · exact stays_removeSession g _

theorem getCurrentPlayer_setPlayers (h : Hand) (players : Players)
    (hid : ∀ r, (players r).myUniqueID = (h.players r).myUniqueID) :
    (h.setPlayers players).getCurrentPlayer = h.getCurrentPlayer ∧
      ∀ r, (h.setPlayers players).uniqueID r = h.uniqueID r := by
  refine ⟨?_, hid⟩
  simp only [Hand.getCurrentPlayer, Hand.getPlayerByUniqueId, Hand.getSeatIt, findPlayer, Hand.setPlayers_players,
    Hand.setPlayers_seatsList, hid, Hand.getCurrentBeRo_setPlayers]

theorem stays_modifyTable (g : ServerGame) {f : Table → Players}
    (hid : ∀ t r, (f t r).myUniqueID = (t.players r).myUniqueID) : Stays g (g.modifyTable f) := by
  refine ⟨rfl, by simp [modifyTable], ?_, rfl, fun _ => rfl⟩
  simp only [curPlayerId, modifyTable]
  cases g.playing with
  | none => rfl
  | some p =>
      obtain ⟨hcur, huid⟩ := getCurrentPlayer_setPlayers p.betting.hand (f p.betting.hand.toTable)
        (hid _)
      simp only [Option.map_some, Option.bind_some, hcur, huid]

theorem updateByUniqueId_myUniqueID {f : Player → Player} (hf : ∀ p, (f p).myUniqueID = p.myUniqueID) (id : Nat)
    (t : Table) (r : Ref) : (updateByUniqueId id f t r).myUniqueID = (t.players r).myUniqueID := by
  simp only [updateByUniqueId]
  cases findPlayer t.players t.seatsList id with
  | none => rfl
  | some q =>
      by_cases hr : r = q
      · subst hr
        simp [updatePlayer, hf]
      · simp [updatePlayer, hr]

theorem stays_kickPlayer (g : ServerGame) (playerId : Nat) : Stays g (g.kickPlayer playerId) :=
  (stays_modifyTable g (@updateByUniqueId_myUniqueID markAsKicked (fun _ => rfl) playerId)).trans
    (stays_kickSession _ playerId)

theorem stays_handleNewPlayer (g : ServerGame) (s : PlayerSession) : Stays g (g.handleNewPlayer s) := by
  simp only [handleNewPlayer]
  split
  · split_ifs
    · exact stays_refl g
    · exact ⟨rfl, rfl, rfl, rfl, fun _ => rfl⟩
    · exact ⟨rfl, rfl, rfl, rfl, fun _ => rfl⟩
  iterate 3
    · split_ifs
      · exact ⟨rfl, rfl, rfl, rfl, fun _ => rfl⟩
      · exact stays_refl g
  · exact stays_refl g
  · exact stays_refl g

end PokerTH.ServerGame
