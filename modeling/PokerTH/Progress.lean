import PokerTH.Hosting
import PokerTH.EngineLoop
import PokerTH.HandStart
import PokerTH.Runs

namespace PokerTH.ServerGame

variable {g g' : ServerGame} {state : ServerState} {sid playerId id : Nat} {s : PlayerSession} {e : Event}

def Running (g : ServerGame) : Prop := g.state = .hand ∨ g.state = .waitPlayerAction ∨ g.state = .waitNextHand

def ActorConnected (g : ServerGame) : Prop := ∃ id, g.curPlayerId = some id ∧ g.isPlayerConnected id

/-- A handler of the current state is pending, or the game waits for a player who is connected. -/
def CanGoOn (g : ServerGame) : Prop :=
  (∃ t, g.timer1 = some t ∧ t.state = g.state) ∨ (g.state = .waitPlayerAction ∧ g.ActorConnected)

/-- A game that can always go on, whoever is still in it. -/
structure Alive (g : ServerGame) : Prop where
  timer : ∀ t, g.timer1 = some t → t.state = g.state
  runs : g.state = .hand ∨ g.state = .waitNextHand → g.timer1.isSome
  waits : g.state = .waitPlayerAction → g.timer1.isSome ∨ g.ActorConnected
  limited : g.state = .waitPlayerAction → 0 < g.gameData.playerActionTimeoutSec → g.timer1.isSome

theorem Alive.canGoOn (ha : Alive g) (hrunning : g.Running) : g.CanGoOn := by
  have hpending (hsome : g.timer1.isSome) : ∃ t, g.timer1 = some t ∧ t.state = g.state := by
    obtain ⟨t, ht⟩ := Option.isSome_iff_exists.mp hsome
    exact ⟨t, ht, ha.timer t ht⟩
  rcases hrunning with hs | hs | hs
  · exact .inl (hpending (ha.runs (.inl hs)))
  · rcases ha.waits hs with hsome | hactor
    · exact .inl (hpending hsome)
    · exact .inr ⟨hs, hactor⟩
  · exact .inl (hpending (ha.runs (.inr hs)))

theorem alive_of_not_running (htimer : ∀ t, g.timer1 = some t → t.state = g.state) (hs : ¬ g.Running) : Alive g where
  timer := htimer
  runs h := by
    rcases h with h | h
    · exact absurd (.inl h) hs
    · exact absurd (.inr (.inr h)) hs
  waits h := absurd (.inr (.inl h)) hs
  limited h := absurd (.inr (.inl h)) hs

theorem exit_timer1 (htimer : ∀ t, g.timer1 = some t → t.state = g.state) : g.exit.timer1 = none := by
  simp only [exit]
  split
  · next hfinal =>
      cases ht : g.timer1 with
      | none => rfl
      | some t =>
          have hstate := htimer t ht
          rw [hfinal] at hstate
          cases t <;> cases hstate
  · rfl
  · rfl

theorem alive_setState_hand (g : ServerGame) : Alive (g.setState .hand) where
  timer := by
    rintro t ⟨⟩
    rfl
  runs _ := rfl
  waits h := by cases h
  limited h := by cases h

theorem alive_setState_waitNextHand (g : ServerGame) : Alive (g.setState .waitNextHand) where
  timer := by
    rintro t ⟨⟩
    rfl
  runs _ := rfl
  waits h := by cases h
  limited h := by cases h

theorem alive_setState_startGame (g : ServerGame) : Alive (g.setState .startGame) :=
  alive_of_not_running (by rintro t ⟨⟩; rfl) (by simp [Running])

theorem alive_setState_final (htimer : ∀ t, g.timer1 = some t → t.state = g.state) : Alive (g.setState .final) := by
  apply alive_of_not_running
  · intro t ht
    change g.exit.timer1 = some t at ht
    rw [exit_timer1 htimer] at ht
    cases ht
  · simp [Running]

theorem registerAdminTimer_timer (hs : g.state = .init) (htimer : ∀ t, g.timer1 = some t → t.state = g.state) :
    ∀ t, g.registerAdminTimer.timer1 = some t → t.state = g.registerAdminTimer.state := by
  rw [registerAdminTimer_state]
  simp only [registerAdminTimer]
  split_ifs
  · rintro t ⟨⟩
    exact hs.symm
  · exact htimer

theorem alive_setState_init (htimer : ∀ t, g.timer1 = some t → t.state = g.state) : Alive (g.setState .init) := by
  apply alive_of_not_running
  · apply registerAdminTimer_timer rfl
    intro t ht
    change g.exit.timer1 = some t at ht
    rw [exit_timer1 htimer] at ht
    cases ht
  · simp [Running]

theorem alive_removeAllSessions (htimer : ∀ t, g.timer1 = some t → t.state = g.state) : Alive g.removeAllSessions :=
  alive_setState_final htimer

theorem alive_setState_waitPlayerAction (htimer : ∀ t, g.timer1 = some t → t.state = g.state)
    (hactor : g.ActorConnected) : Alive (g.setState .waitPlayerAction) := by
  obtain ⟨hplaying, hsessions, hlimited⟩ := setState_waitPlayerAction g
  refine ⟨?_, ?_, ?_, ?_⟩
  · intro t ht
    rw [setState_state]
    simp only [setState, enter] at ht
    split_ifs at ht
    · cases ht
      rfl
    · change g.exit.timer1 = some t at ht
      rw [exit_timer1 htimer] at ht
      cases ht
  · simp
  · intro _
    right
    obtain ⟨id, hcur, hconn⟩ := hactor
    exact ⟨id, by rw [curPlayerId, hplaying]; exact hcur, by simpa [isPlayerConnected, getSession, hsessions] using hconn⟩
  · intro _ hpos
    rw [hlimited (by simpa using hpos)]
    rfl

def Removes (g : ServerGame) : Event → PlayerSession → Prop
  | .packet sid .leaveGameRequest _, s | .removeSession sid, s => s.id = sid
  | .kickPlayer playerId, s => ∃ p, g.getSession playerId = some p ∧ s.id = p.id
  | _, _ => False

/-- Nobody whom the game waits for without a limit leaves it. -/
def Stuckless (g : ServerGame) (e : Event) : Prop :=
  0 < g.gameData.playerActionTimeoutSec ∨
    ∀ s ∈ g.sessions, g.state = .waitPlayerAction → g.curPlayerId = some s.uniqueId → ¬ Removes g e s

theorem isPlayerConnected_iff : g.isPlayerConnected id ↔ ∃ s ∈ g.sessions, s.uniqueId = id := by
  simp [isPlayerConnected, getSession]

def sessionIds (g : ServerGame) : List (Nat × Nat) := g.sessions.map fun s => (s.id, s.uniqueId)

theorem isPlayerConnected_iff_ids : g.isPlayerConnected id ↔ ∃ p ∈ g.sessionIds, p.2 = id := by
  rw [isPlayerConnected_iff]
  simp [sessionIds]

theorem sessionIds_removePlayerData (g : ServerGame) (s : PlayerSession) :
    (g.removePlayerData s).sessionIds = g.sessionIds := by
  have hsame (u v : ServerGame) (h : u.sessions = v.sessions) : u.sessionIds = v.sessionIds := by
    rw [sessionIds, h, sessionIds]
  have hremoved (u : ServerGame) : u.notifySessionRemoved.sessionIds = u.sessionIds := by
    simp only [notifySessionRemoved]
    split_ifs <;> rfl
  have hadmin (u : ServerGame) : u.notifyGameAdminChanged.sessionIds = u.sessionIds := by
    simp only [notifyGameAdminChanged, registerAdminTimer]
    split_ifs <;> rfl
  simp only [removePlayerData, hremoved]
  split_ifs
  · split
    · rfl
    · rw [hadmin]
      simp only [setAdmin, sessionIds, List.map_map]
      apply List.map_congr_left
      intro p _
      simp only [Function.comp_apply]
      split_ifs <;> rfl
  · rfl

theorem sessionIds_removeSession (g : ServerGame) (sid : Nat) :
    (g.removeSession sid).sessionIds = g.sessionIds.filter fun p => p.1 ≠ sid := by
  simp only [removeSession]
  split
  · next hnone =>
      symm
      rw [List.filter_eq_self]
      intro p hp
      simp only [sessionIds, List.mem_map] at hp
      obtain ⟨s, hs, rfl⟩ := hp
      simpa using List.find?_eq_none.mp hnone s hs
  · rw [sessionIds_removePlayerData]
    simp only [eraseSession, sessionIds, List.filter_map]
    rfl

theorem isPlayerConnected_removeSession (hother : ∀ s ∈ g.sessions, s.uniqueId = id → s.id ≠ sid)
    (hconn : g.isPlayerConnected id) : (g.removeSession sid).isPlayerConnected id := by
  obtain ⟨s, hs, hid⟩ := isPlayerConnected_iff.mp hconn
  rw [isPlayerConnected_iff_ids, sessionIds_removeSession]
  refine ⟨(s.id, s.uniqueId), List.mem_filter.mpr ⟨List.mem_map_of_mem hs, ?_⟩, hid⟩
  simpa using hother s hs hid

/-- What a step may not take away while the game waits for a player without a limit. -/
def Keeps (g g' : ServerGame) : Prop :=
  g.state = .waitPlayerAction → ¬ 0 < g.gameData.playerActionTimeoutSec → ∀ id,
    g.curPlayerId = some id → g.isPlayerConnected id → g'.isPlayerConnected id

theorem keeps_of_sessions (hs : g'.sessionIds = g.sessionIds) : Keeps g g' := by
  intro _ _ id _ hc
  rw [isPlayerConnected_iff_ids] at hc ⊢
  rwa [hs]

/-- A step that stays in its state and does not take the awaited player leaves the game alive. -/
theorem Alive.stays (ha : Alive g) (hs : Stays g g')
    (hinit : g.state = .init → ∀ t, g'.timer1 = some t → t.state = g'.state) (hconn : Keeps g g') : Alive g' := by
  by_cases hi : g.state = .init
  · apply alive_of_not_running (hinit hi)
    simp [Running, hs.state, hi]
  · have ht := hs.timer1 hi
    refine ⟨?_, ?_, ?_, ?_⟩
    · rw [ht, hs.state]
      exact ha.timer
    · rw [ht, hs.state]
      exact ha.runs
    · intro hw
      rw [hs.state] at hw
      by_cases hpos : 0 < g.gameData.playerActionTimeoutSec
      · exact .inl (ht ▸ ha.limited hw hpos)
      · rcases ha.waits hw with hsome | ⟨id, hcur, hc⟩
        · exact .inl (ht ▸ hsome)
        · exact .inr ⟨id, hs.curPlayerId.trans hcur, hconn hw hpos id hcur hc⟩
    · intro hw hpos
      rw [ht]
      exact ha.limited (hs.state ▸ hw) (hs.gameData ▸ hpos)

theorem Alive.same (ha : Alive g) (hs : Stays g g') (ht : g'.timer1 = g.timer1)
    (hids : g'.sessionIds = g.sessionIds) : Alive g' := by
  apply ha.stays hs _ (keeps_of_sessions hids)
  intro _ t h
  rw [hs.state]
  exact ha.timer t (ht ▸ h)

theorem timer_removePlayerData (htimer : ∀ t, g.timer1 = some t → t.state = g.state) (s : PlayerSession) :
    ∀ t, (g.removePlayerData s).timer1 = some t → t.state = (g.removePlayerData s).state := by
  have hremoved (u : ServerGame) (hu : ∀ t, u.timer1 = some t → t.state = u.state) :
      ∀ t, u.notifySessionRemoved.timer1 = some t → t.state = u.notifySessionRemoved.state := by
    simp only [notifySessionRemoved]
    split_ifs <;> exact hu
  apply hremoved
  split_ifs
  · split
    · exact htimer
    · next newAdmin _ =>
        simp only [notifyGameAdminChanged]
        split_ifs with hi
        · exact registerAdminTimer_timer hi (by rintro t ⟨⟩)
        · exact htimer
  · exact htimer

theorem timer_removeSession (htimer : ∀ t, g.timer1 = some t → t.state = g.state) (sid : Nat) :
    ∀ t, (g.removeSession sid).timer1 = some t → t.state = (g.removeSession sid).state := by
  simp only [removeSession]
  split
  · exact htimer
  · exact @timer_removePlayerData (g.eraseSession sid) htimer _

theorem alive_removeSession (ha : Alive g)
    (hother : g.state = .waitPlayerAction → ¬ 0 < g.gameData.playerActionTimeoutSec →
      ∀ s ∈ g.sessions, g.curPlayerId = some s.uniqueId → s.id ≠ sid) : Alive (g.removeSession sid) := by
  apply ha.stays (stays_removeSession g sid) fun _ => timer_removeSession ha.timer sid
  intro hw hpos id hcur hc
  apply isPlayerConnected_removeSession _ hc
  rintro s hs rfl
  exact hother hw hpos s hs hcur

theorem alive_kickSession (ha : Alive g)
    (hother : g.state = .waitPlayerAction → ¬ 0 < g.gameData.playerActionTimeoutSec →
      ∀ s ∈ g.sessions, g.curPlayerId = some s.uniqueId → ∀ p, g.getSession playerId = some p → s.id ≠ p.id) :
    Alive (g.kickSession playerId) := by
  simp only [kickSession]
  split
  · exact ha
  · next p hp => exact alive_removeSession ha fun hw hpos s hs hcur => hother hw hpos s hs hcur p hp

theorem alive_modifyTable (ha : Alive g) {f : Table → Players}
    (hid : ∀ t r, (f t r).myUniqueID = (t.players r).myUniqueID) : Alive (g.modifyTable f) :=
  ha.same (stays_modifyTable g hid) rfl rfl

theorem alive_kickPlayer (ha : Alive g)
    (hother : g.state = .waitPlayerAction → ¬ 0 < g.gameData.playerActionTimeoutSec →
      ∀ s ∈ g.sessions, g.curPlayerId = some s.uniqueId → ∀ p, g.getSession playerId = some p → s.id ≠ p.id) :
    Alive (g.kickPlayer playerId) := by
  have hid := @updateByUniqueId_myUniqueID markAsKicked (fun _ => rfl) playerId
  apply alive_kickSession (alive_modifyTable ha hid)
  rw [(stays_modifyTable g hid).curPlayerId]
  exact hother

theorem mem_acceptNewSession (hc : g.isPlayerConnected id) (s : PlayerSession) :
    (g.acceptNewSession s).isPlayerConnected id := by
  obtain ⟨p, hp, hid⟩ := isPlayerConnected_iff.mp hc
  exact isPlayerConnected_iff.mpr ⟨p, by simp [acceptNewSession, hp], hid⟩

theorem handleNewPlayer_timer1 (g : ServerGame) (s : PlayerSession) : (g.handleNewPlayer s).timer1 = g.timer1 := by
  simp only [handleNewPlayer]
  split
  · split_ifs <;> rfl
  iterate 3
    · split_ifs <;> rfl
  · rfl
  · rfl

theorem alive_handleNewPlayer (ha : Alive g) (s : PlayerSession) : Alive (g.handleNewPlayer s) := by
  apply ha.stays (stays_handleNewPlayer g s)
  · intro _ t ht
    rw [(stays_handleNewPlayer g s).state]
    exact ha.timer t (handleNewPlayer_timer1 g s ▸ ht)
  · intro hw _ id _ hc
    simp only [handleNewPlayer, hw]
    split_ifs
    · exact mem_acceptNewSession hc s
    · exact hc

theorem stays_removeAutoLeavePlayers (g : ServerGame) : Stays g g.removeAutoLeavePlayers := by
  have hclear : Stays g { g with autoLeavePlayers := [] } := ⟨rfl, rfl, rfl, rfl, fun _ => rfl⟩
  exact hclear.trans (stays_foldl stays_kickSession g.autoLeavePlayers)

theorem alive_reopen (hs : g.state ≠ .init) (htimer : ∀ t, g.timer1 = some t → t.state = g.state) :
    Alive g.reopen := by
  apply alive_setState_init
  intro t ht
  have hstays := stays_removeAutoLeavePlayers g
  change g.removeAutoLeavePlayers.timer1 = some t at ht
  change t.state = g.removeAutoLeavePlayers.state
  rw [hstays.timer1 hs] at ht
  rw [hstays.state]
  exact htimer t ht

theorem alive_doStart {d : Draws} (ha : Alive g) (hs : g.state = .startGame) (hrun : g.doStart d = .ok g') :
    Alive g' := by
  simp only [doStart] at hrun
  split_ifs at hrun
  · split at hrun
    · cases hrun
      exact ha
    · cases hrun
      apply alive_kickSession ha
      intro hw
      rw [hs] at hw
      cases hw
  · obtain ⟨v, -, hrun⟩ := Hand.bind_ok hrun
    obtain ⟨u, -, hrun⟩ := Hand.bind_ok hrun
    cases hrun
    exact alive_setState_hand u

theorem alive_endOfHand (hs : g.state = .hand) (htimer : ∀ t, g.timer1 = some t → t.state = g.state) (p : Playing)
    (h : Hand) : Alive (g.endOfHand p h) := by
  simp only [endOfHand]
  split
  · exact alive_reopen (by simp [internalEndGame, hs]) htimer
  · refine ⟨?_, fun _ => rfl, ?_, ?_⟩
    · rintro t ⟨⟩
      exact hs.symm
    · intro hw
      cases hs.symm.trans hw
    · intro hw
      cases hs.symm.trans hw
  · exact alive_setState_waitNextHand _

theorem alive_timer {t : Timer} (hs : g.state = .hand) (htimer : g.timer1 = some t) (ht : t.state = .hand) :
    Alive g where
  timer := by
    rintro u hu
    cases htimer.symm.trans hu
    exact ht.trans hs.symm
  runs _ := by
    rw [htimer]
    rfl
  waits hw := by cases hs.symm.trans hw
  limited hw := by cases hs.symm.trans hw

theorem alive_engineLoop {p : Playing} (hs : g.state = .hand) (htimer : ∀ t, g.timer1 = some t → t.state = g.state)
    (hrun : g.engineLoop p = .ok g') : Alive g' := by
  simp only [engineLoop] at hrun
  cases hloop : p.betting.hand.engineLoop MAX_NUMBER_OF_PLAYERS with
  | error e =>
      rw [hloop] at hrun
      cases hrun
  | ok out =>
      rw [hloop] at hrun
      obtain ⟨k, -, hcases⟩ := Hand.engineLoop_cases hloop
      cases hcases with
      | @nextRound showCards _ _ =>
          cases hrun
          exact alive_timer hs rfl (by split_ifs <;> rfl)
      | @playersTurn r _ _ _ hplayer _ =>
          dsimp only at hrun
          split_ifs at hrun with hcomputer hgone
          · cases hrun
            exact alive_timer hs rfl rfl
          · cases hrun
            exact alive_timer hs rfl rfl
          · cases hrun
            apply @alive_setState_waitPlayerAction (g.setHand p _) htimer
            refine ⟨k.uniqueID r, ?_, ?_⟩
            · simp [curPlayerId, setHand, hplayer]
            · push Not at hgone
              exact hgone.1
      | endOfHand _ _ =>
          cases hrun
          exact alive_endOfHand hs htimer p _

theorem alive_handleTimer {d : Draws} {timer : Timer} (ha : Alive g) (htimer : g.timer1 = some timer)
    (hrun : { g with timer1 := none }.handleTimer d timer = .ok g') : Alive g' := by
  have hstate := ha.timer timer htimer
  have hnone : ∀ t, { g with timer1 := none }.timer1 = some t → t.state = { g with timer1 := none }.state := by
    rintro t ⟨⟩
  have hidle (hs : ¬ g.Running) : Alive { g with timer1 := none } := alive_of_not_running hnone hs
  have hnot (hs : g.state = .init ∨ g.state = .startGame) : ¬ g.Running := by
    rcases hs with hs | hs <;> simp [Running, hs]
  simp only [handleTimer, hstate, ne_eq, not_true, if_false] at hrun
  cases timer with
  | adminWarning =>
      cases hrun
      exact alive_of_not_running (by rintro t ⟨⟩; exact hstate) (hnot (.inl hstate.symm))
  | adminTimeout =>
      cases hrun
      apply alive_kickSession (hidle (hnot (.inl hstate.symm)))
      intro hw
      cases hstate.trans hw
  | startTimeout =>
      exact alive_doStart (g := { g with timer1 := none }.resetAllReadyFlags)
        ((hidle (hnot (.inr hstate.symm))).same ⟨rfl, rfl, rfl, rfl, fun _ => rfl⟩ rfl
          (by simp [resetAllReadyFlags, sessionIds])) hstate.symm hrun
  | nextGame winner =>
      cases hrun
      apply alive_reopen _ hnone
      intro hi
      cases hstate.trans hi
  | loop =>
      cases hp : g.playing with
      | none => simp [hp] at hrun
      | some p =>
          simp only [hp] at hrun
          exact @alive_engineLoop { g with timer1 := none } g' _ hstate.symm hnone hrun
  | showCards =>
      cases hp : g.playing with
      | none => simp [hp] at hrun
      | some p =>
          simp only [hp] at hrun
          cases hrun
          exact alive_timer hstate.symm rfl rfl
  | computerAction =>
      cases hp : g.playing with
      | none => simp [hp] at hrun
      | some p =>
          simp only [hp] at hrun
          split at hrun
          · cases hrun
          · exact @alive_engineLoop { g with timer1 := none } g' _ hstate.symm hnone hrun
  | playerTimeout =>
      cases hp : g.playing with
      | none => simp [hp] at hrun
      | some p =>
          simp only [hp] at hrun
          split at hrun
          · cases hrun
          · cases hrun
            exact alive_setState_hand _
  | nextHand =>
      cases hp : g.playing with
      | none => simp [hp] at hrun
      | some p =>
          simp only [hp] at hrun
          obtain ⟨u, -, hrun⟩ := Hand.bind_ok hrun
          cases hrun
          exact alive_setState_hand u

theorem alive_fireTimer {d : Draws} {timer : Timer} (ha : Alive g) (htimer : g.timer1 = some timer) :
    Alive (g.fireTimer d timer) := by
  simp only [fireTimer]
  cases hrun : { g with timer1 := none }.handleTimer d timer with
  | error e => exact alive_removeAllSessions ha.timer
  | ok g' => exact alive_handleTimer ha htimer hrun

theorem alive_sendStartEvent {fill : Bool} (hrun : g.sendStartEvent fill = .ok g') : Alive g' := by
  simp only [sendStartEvent] at hrun
  cases hfill : (if fill then addComputerPlayers g.remainingSlots 1 g else .ok g) with
  | error e =>
      rw [hfill] at hrun
      cases hrun
  | ok u =>
      rw [hfill] at hrun
      cases hrun
      exact alive_setState_startGame u

theorem alive_removeInit (ha : Alive g) (hs : g.state = .init) (sid : Nat) : Alive (g.removeSession sid) :=
  alive_removeSession ha fun hw => by cases hs.symm.trans hw

theorem alive_internalProcessPacket {d : Draws} {msg : GameMsg} (ha : Alive g)
    (hrun : g.internalProcessPacket d s msg = .ok g') : Alive g' := by
  simp only [internalProcessPacket] at hrun
  split at hrun
  · next hs =>
      split_ifs at hrun
      · exact alive_sendStartEvent hrun
      · cases hrun
        exact alive_removeInit ha hs _
  iterate 3
    · cases hrun
      exact ha
  · next hs =>
      cases hrun
      split_ifs
      · exact alive_of_not_running (registerAdminTimer_timer hs ha.timer)
          (by simp [Running, registerAdminTimer_state, hs])
      · exact ha
  · next hs _ _ _ _ _ =>
      cases hrun
      exact alive_removeInit ha hs _
  · next hs =>
      have hready : Alive (g.setReadyFlag s.id) := by
        apply @Alive.same g (g.setReadyFlag s.id) ha ⟨rfl, rfl, rfl, rfl, fun _ => rfl⟩ rfl
        simp only [setReadyFlag, sessionIds, List.map_map]
        apply List.map_congr_left
        intro p _
        simp only [Function.comp_apply]
        split_ifs <;> rfl
      split_ifs at hrun
      · exact alive_doStart (g := (g.setReadyFlag s.id).resetAllReadyFlags)
          (hready.same ⟨rfl, rfl, rfl, rfl, fun _ => rfl⟩ rfl (by simp [resetAllReadyFlags, sessionIds])) hs hrun
      · cases hrun
        exact hready
  iterate 3
    · cases hrun
      exact ha.same ⟨rfl, rfl, rfl, rfl, fun _ => rfl⟩ rfl rfl
  · split_ifs at hrun
    · cases hrun
      exact ha
    · split at hrun
      · cases hrun
      · simp only [myAction] at hrun
        split at hrun
        · cases hrun
        · split at hrun
          · cases hrun
          · split_ifs at hrun
            · cases hrun
              exact alive_setState_hand _
            · cases hrun
              exact ha
  · split_ifs at hrun
    cases hrun
    exact ha
  · cases hrun
    exact ha

theorem alive_handlePacket {d : Draws} {msg : GameMsg} (ha : Alive g)
    (hstuck : Stuckless g (.packet s.id msg d)) (hrun : g.handlePacket d s msg = .ok g') : Alive g' := by
  simp only [handlePacket] at hrun
  split at hrun
  · cases hrun
    exact ha
  · cases hrun
    apply alive_removeSession ha
    intro hw hpos p hp hcur hsid
    rcases hstuck with hlimited | hstuck
    · exact hpos hlimited
    · exact hstuck p hp hw hcur hsid
  · split_ifs at hrun with hkick
    · cases hrun
      apply alive_kickPlayer ha
      intro _ _ p _ hcur
      have hnone := Option.isNone_iff_eq_none.mp hkick.2.1
      simp [curPlayerId, hnone] at hcur
    · cases hrun
      exact ha
  iterate 9
    · cases hrun
      exact ha
  · exact alive_internalProcessPacket ha hrun

theorem alive_fire (ha : Alive g) (hfire : g.fire e = some g') (hstuck : Stuckless g e) : Alive g' := by
  cases e with
  | packet sid msg d =>
      simp only [fire, Option.map_eq_some_iff] at hfire
      obtain ⟨s, hs, rfl⟩ := hfire
      have hsid : s.id = sid := by simpa using List.find?_some hs
      subst hsid
      simp only [dispatchPacket]
      cases hrun : g.handlePacket d s msg with
      | error e => exact alive_removeAllSessions ha.timer
      | ok g' => exact alive_handlePacket ha hstuck hrun
  | newPlayer s autoLeave =>
      simp only [fire] at hfire
      split_ifs at hfire
      · cases hfire
        exact (alive_handleNewPlayer ha s).same ⟨rfl, rfl, rfl, rfl, fun _ => rfl⟩ rfl rfl
      · cases hfire
        exact alive_handleNewPlayer ha s
  | removeSession sid =>
      cases hfire
      apply alive_removeSession ha
      intro hw hpos p hp hcur hsid
      rcases hstuck with hlimited | hstuck
      · exact hpos hlimited
      · exact hstuck p hp hw hcur hsid
  | kickPlayer playerId =>
      cases hfire
      apply alive_kickPlayer ha
      intro hw hpos p hp hcur q hq hsid
      rcases hstuck with hlimited | hstuck
      · exact hpos hlimited
      · exact hstuck p hp hw hcur ⟨q, hq, hsid⟩
  | markPlayerAsInactive playerId =>
      cases hfire
      exact alive_modifyTable ha
        (@updateByUniqueId_myUniqueID (fun p => { p with isSessionActive := false }) (fun _ => rfl) playerId)
  | timer1 d =>
      simp only [fire, Option.map_eq_some_iff] at hfire
      obtain ⟨timer, htimer, rfl⟩ := hfire
      exact alive_fireTimer ha htimer
  | timer2 =>
      simp only [fire] at hfire
      split_ifs at hfire
      split at hfire
      · next hrun =>
          cases hfire
          exact alive_sendStartEvent hrun
      · cases hfire
        exact alive_removeAllSessions ha.timer
  | newPlayerId =>
      cases hfire
      exact ha.same ⟨rfl, rfl, rfl, rfl, fun _ => rfl⟩ rfl rfl
  | removeAllSessions =>
      cases hfire
      exact alive_removeAllSessions ha.timer

theorem alive_create (id : Nat) (mode : ServerMode) (gameType : GameType) (gameData : GameData)
    (adminPlayerId curUniquePlayerId : Nat) : Alive (create id mode gameType gameData adminPlayerId curUniquePlayerId) := by
  apply alive_of_not_running
  · exact registerAdminTimer_timer rfl (by rintro t ⟨⟩)
  · simp [Running, create]

/-- As long as the game waits without a limit for nobody who leaves, it can go on in every state of a hand. -/
theorem game_goes_on {mode : ServerMode} {gameType : GameType} {gameData : GameData}
    {adminPlayerId curUniquePlayerId : Nat} {hist : List (ServerGame × Event)}
    (hrun : Runs.Trace fire Stuckless (create id mode gameType gameData adminPlayerId curUniquePlayerId) hist g)
    (hrunning : g.Running) : g.CanGoOn := by
  have ha : Alive g :=
    @Runs.Trace.invariant _ _ _ _ _ _ _ (fun _ g => Alive g) (alive_create _ _ _ _ _ _)
      (fun _ _ _ _ ha hfire hstuck => alive_fire ha hfire hstuck) hrun
  exact ha.canGoOn hrunning

def headsUp (playerActionTimeoutSec : Int) : GameData where
  maxNumberOfPlayers := 2
  startMoney := 100
  firstSmallBlind := 5
  raiseIntervalMode := .raiseOnHandNumber
  raiseSmallBlindEveryHandsValue := 11
  raiseSmallBlindEveryMinutesValue := 5
  raiseMode := .doubleBlinds
  manualBlindsList := []
  afterManualBlindsMode := .doubleBlinds
  afterMBAlwaysRaiseValue := 0
  delayBetweenHandsSec := 7
  playerActionTimeoutSec := playerActionTimeoutSec

def callingMind : Mind where
  engineVersion := 0
  first := ⟨.call, 0, 0⟩
  decision := ⟨.call, 0, 0⟩
  preflop3 := ⟨0, 0, 0, 1, 0⟩
  postflop3 := ⟨0, false, 0, 0, 1, 0, by decide⟩

def plainDraws : Draws where
  shuffle := fun l => l
  dealerPos := fun _ => 0
  cardsValueInt := fun r => r
  elapsedMinutes := 0
  secsSinceAction := fun _ => 0
  encrypts := fun _ => true
  mind := callingMind
  shuffle_perm := fun l => List.Perm.refl l
  dealerPos_lt := fun _ h => h

def guest (n : Nat) (name : String) : PlayerSession := ⟨n, n, name, name, "", false, false⟩

/-- Two players join the game of the first one, who starts it, and the blinds are posted. -/
def openingEvents : List Event :=
  [.newPlayer (guest 1 "a") false, .newPlayer (guest 2 "b") false,
    .packet 1 (.startEvent 1 false false) plainDraws, .packet 1 .startEventAck plainDraws,
    .packet 2 .startEventAck plainDraws, .timer1 plainDraws]

theorem game_goes_on_limited : ∃ hist g,
    Runs.Trace fire Stuckless (create 1 .lan .normal (headsUp 10) 1 2) hist g ∧ g.state = .waitPlayerAction ∧
      g.sessions.length = 2 ∧ g.CanGoOn := by
  obtain ⟨hist, g, hrun, htest⟩ := Runs.exists_trace fire Stuckless
    (fun g _ => decide (0 < g.gameData.playerActionTimeoutSec)) (create 1 .lan .normal (headsUp 10) 1 2)
    openingEvents (fun g => g.state == .waitPlayerAction && g.sessions.length == 2) (by decide +kernel)
    (fun g e hcheck => .inl (of_decide_eq_true hcheck))
  rw [Bool.and_eq_true, beq_iff_eq, beq_iff_eq] at htest
  exact ⟨hist, g, hrun, htest.1, htest.2, game_goes_on hrun (.inr (.inl htest.1))⟩

/-- The player to act leaves a game without a limit on the thinking time. -/
theorem game_gets_stuck : checkSettings .normal (headsUp 0) "" .lan = true ∧ ∃ hist g,
    Runs.Trace fire (fun _ _ => True) (create 1 .lan .normal (headsUp 0) 1 2) hist g ∧ g.Running ∧ g.sessions ≠ [] ∧
      ¬ g.CanGoOn := by
  refine ⟨by decide, ?_⟩
  obtain ⟨hist, g, hrun, htest⟩ := Runs.exists_trace fire (fun _ _ => True) (fun _ _ => true)
    (create 1 .lan .normal (headsUp 0) 1 2) (openingEvents ++ [.packet 1 .leaveGameRequest plainDraws])
    (fun g => g.state == .waitPlayerAction && g.sessions.length == 1 && g.timer1.isNone &&
      g.curPlayerId.all fun id => !g.isPlayerConnected id) (by decide +kernel) (fun _ _ _ => trivial)
  simp only [Bool.and_eq_true, beq_iff_eq, Option.isNone_iff_eq_none] at htest
  obtain ⟨⟨⟨hstate, hlen⟩, htimer⟩, hgone⟩ := htest
  refine ⟨hist, g, hrun, .inr (.inl hstate), ?_, ?_⟩
  · intro hnil
    rw [hnil] at hlen
    cases hlen
  · rintro (⟨t, ht, -⟩ | ⟨-, id, hcur, hconn⟩)
    · rw [htimer] at ht
      cases ht
    · rw [hcur, Option.all_some, hconn] at hgone
      cases hgone

end PokerTH.ServerGame
