import PokerTH.Progress
import PokerTH.NewHand

namespace PokerTH.ServerGame

variable {g g' : ServerGame} {state : ServerState} {s : PlayerSession} {e : Event} {d : Draws} {msg : GameMsg}

/-- A game whose waiting states have what they wait for. -/
structure Hosted (g : ServerGame) : Prop where
  waits : g.state = .waitPlayerAction → g.curPlayerId.isSome
  shows : g.state = .waitNextHand → g.playing.isSome
  money : 1 ≤ g.gameData.startMoney

theorem Hosted.stays (hh : Hosted g) (hs : Stays g g') : Hosted g' where
  waits h := by
    rw [hs.curPlayerId]
    exact hh.waits (hs.state ▸ h)
  shows h := by
    rw [hs.playing]
    exact hh.shows (hs.state ▸ h)
  money := by
    rw [hs.gameData]
    exact hh.money

theorem Hosted.setState (hmoney : 1 ≤ g.gameData.startMoney) (hwaits : state = .waitPlayerAction → g.curPlayerId.isSome)
    (hshows : state = .waitNextHand → g.playing.isSome) : Hosted (g.setState state) where
  waits h := by
    rw [setState_state] at h
    subst h
    rw [curPlayerId, (setState_waitPlayerAction g).1]
    exact hwaits rfl
  shows h := by
    rw [setState_state] at h
    subst h
    change (g.exit.playing).isSome
    rw [exit_playing]
    exact hshows rfl
  money := by
    rw [setState_gameData]
    exact hmoney

theorem Hosted.setState_plain (hmoney : 1 ≤ g.gameData.startMoney) (hw : state ≠ .waitPlayerAction)
    (hn : state ≠ .waitNextHand) : Hosted (g.setState state) :=
  Hosted.setState hmoney (fun h => absurd h hw) (fun h => absurd h hn)

theorem hosted_removeAllSessions (hh : Hosted g) : Hosted g.removeAllSessions :=
  @Hosted.setState_plain { g with sessions := [] } .final hh.money (by decide) (by decide)

theorem hosted_reopen (hmoney : 1 ≤ g.gameData.startMoney) : Hosted g.reopen := by
  apply Hosted.setState_plain _ (by decide) (by decide)
  change 1 ≤ g.removeAutoLeavePlayers.gameData.startMoney
  rwa [(stays_removeAutoLeavePlayers g).gameData]

theorem gameData_addComputerPlayers {n i : Nat} (hrun : addComputerPlayers n i g = .ok g') :
    g'.gameData = g.gameData := by
  induction n generalizing i g with
  | zero =>
      cases hrun
      rfl
  | succ n ih =>
      obtain ⟨u, hu, hrest⟩ := Hand.bind_ok hrun
      rw [ih hrest]
      simp only [addComputerPlayer] at hu
      split_ifs at hu
      cases hu
      rfl

theorem hosted_sendStartEvent {fill : Bool} (hh : Hosted g) (hrun : g.sendStartEvent fill = .ok g') : Hosted g' := by
  simp only [sendStartEvent] at hrun
  cases hfill : (if fill then addComputerPlayers g.remainingSlots 1 g else .ok g) with
  | error e =>
      rw [hfill] at hrun
      cases hrun
  | ok u =>
      rw [hfill] at hrun
      cases hrun
      apply Hosted.setState_plain _ (by decide) (by decide)
      split_ifs at hfill
      · rw [gameData_addComputerPlayers hfill]
        exact hh.money
      · cases hfill
        exact hh.money

namespace Interval

variable {v v' : Interval}

theorem stays_rejoin (v : Interval) (uniqueId : Nat) : Stays v.server (v.rejoin uniqueId).server := by
  simp only [rejoin]
  split
  · exact stays_refl _
  · simp only [performRejoin]
    split
    · exact stays_removeSession _ _
    · exact stays_refl _

theorem stays_initRejoiningPlayers (v : Interval) : Stays v.server v.initRejoiningPlayers.server := by
  have hclear : Stays v.server { v.server with rejoinPlayers := [] } := ⟨rfl, rfl, rfl, rfl, fun _ => rfl⟩
  exact List.foldlRecOn (motive := fun u : Interval => Stays v.server u.server) _ _ hclear
    fun u hu id _ => hu.trans (stays_rejoin u id)

theorem stays_checkTimeout (secs : Ref → Int) (v : Interval) (r : Ref) :
    Stays v.server (checkTimeout secs v r).server := by
  simp only [checkTimeout]
  split_ifs
  · exact stays_kickSession _ _
  · exact stays_refl _
  · exact stays_refl _

theorem stays_checkPlayerTimeouts (v : Interval) (secs : Ref → Int) :
    Stays v.server (v.checkPlayerTimeouts secs).server := by
  simp only [checkPlayerTimeouts]
  split_ifs
  · exact List.foldlRecOn (motive := fun u : Interval => Stays v.server u.server) _ _ (stays_refl _)
      fun u hu r _ => hu.trans (stays_checkTimeout secs u r)
  · exact stays_refl _

theorem stays_sendCards (encrypts : Nat → Bool) (g : ServerGame) (id : Nat) : Stays g (sendCards encrypts g id) := by
  simp only [sendCards]
  split
  · exact stays_refl g
  · split_ifs
    · exact stays_refl g
    · exact stays_removePlayer g id

theorem gameData_startNewHand (hrun : v.startNewHand d = .ok g') : g'.gameData = v.server.gameData := by
  simp only [startNewHand] at hrun
  split at hrun
  · cases hrun
  · cases hrun
    have hreact : Stays v.server v.reactivatePlayers.server := ⟨rfl, rfl, rfl, rfl, fun _ => rfl⟩
    exact (((hreact.trans (stays_initRejoiningPlayers _)).trans (stays_checkPlayerTimeouts _ d.secsSinceAction)).trans
      (stays_foldl (stays_sendCards d.encrypts) _)).gameData

end Interval

theorem hosted_doStart (hh : Hosted g) (hrun : g.doStart d = .ok g') : Hosted g' := by
  simp only [doStart] at hrun
  split_ifs at hrun
  · split at hrun
    · cases hrun
      exact hh
    · cases hrun
      exact hh.stays (stays_kickSession g _)
  · obtain ⟨v, hv, hrun⟩ := Hand.bind_ok hrun
    obtain ⟨u, hu, hrun⟩ := Hand.bind_ok hrun
    cases hrun
    apply Hosted.setState_plain _ (by decide) (by decide)
    rw [Interval.gameData_startNewHand hu]
    simp only [internalStartGame] at hv
    split_ifs at hv
    split at hv
    · cases hv
    · cases hv
      exact hh.money

theorem hosted_endOfHand (hmoney : 1 ≤ g.gameData.startMoney) (hs : g.state = .hand) (p : Playing) (h : Hand) :
    Hosted (g.endOfHand p h) := by
  simp only [endOfHand]
  split
  · exact hosted_reopen hmoney
  · refine ⟨?_, ?_, hmoney⟩
    · intro hw
      cases hs.symm.trans hw
    · intro hn
      cases hs.symm.trans hn
  · exact Hosted.setState hmoney (fun hw => by cases hw) fun _ => rfl

theorem hosted_of_hand (hmoney : 1 ≤ g.gameData.startMoney) (hs : g.state = .hand) : Hosted g where
  waits hw := by cases hs.symm.trans hw
  shows hn := by cases hs.symm.trans hn
  money := hmoney

theorem hosted_engineLoop {p : Playing} (hmoney : 1 ≤ g.gameData.startMoney) (hs : g.state = .hand)
    (hrun : g.engineLoop p = .ok g') : Hosted g' := by
  simp only [engineLoop] at hrun
  cases hloop : p.betting.hand.engineLoop MAX_NUMBER_OF_PLAYERS with
  | error e =>
      rw [hloop] at hrun
      cases hrun
  | ok out =>
      rw [hloop] at hrun
      obtain ⟨k, -, hcases⟩ := Hand.engineLoop_cases hloop
      cases hcases with
      | nextRound _ _ =>
          cases hrun
          exact hosted_of_hand hmoney hs
      | playersTurn _ _ _ hplayer _ =>
          dsimp only at hrun
          split_ifs at hrun
          · cases hrun
            exact hosted_of_hand hmoney hs
          · cases hrun
            exact hosted_of_hand hmoney hs
          · cases hrun
            apply @Hosted.setState (g.setHand p _) _ hmoney _ (fun hn => by cases hn)
            intro _
            simp [curPlayerId, setHand, hplayer]
      | endOfHand _ _ =>
          cases hrun
          exact hosted_endOfHand hmoney hs p _

theorem hosted_handleTimer {timer : Timer} (hh : Hosted g) (htimer : timer.state = g.state)
    (hrun : g.handleTimer d timer = .ok g') : Hosted g' := by
  simp only [handleTimer, htimer, ne_eq, not_true, if_false] at hrun
  split at hrun
  · cases hrun
    exact hh.stays ⟨rfl, rfl, rfl, rfl, fun hi => absurd htimer.symm hi⟩
  · cases hrun
    exact hh.stays (stays_kickSession g _)
  · exact @hosted_doStart g.resetAllReadyFlags _ d (hh.stays ⟨rfl, rfl, rfl, rfl, fun _ => rfl⟩) hrun
  · cases hrun
    exact hosted_reopen hh.money
  · cases hrun
  · exact hosted_engineLoop hh.money htimer.symm hrun
  · cases hrun
    exact hosted_of_hand hh.money htimer.symm
  · split at hrun
    · cases hrun
    · exact hosted_engineLoop hh.money htimer.symm hrun
  · split at hrun
    · cases hrun
    · cases hrun
      exact @Hosted.setState_plain (g.setHand _ _) .hand hh.money (by decide) (by decide)
  · obtain ⟨u, hu, hrun⟩ := Hand.bind_ok hrun
    cases hrun
    apply Hosted.setState_plain _ (by decide) (by decide)
    rw [Interval.gameData_startNewHand hu]
    exact hh.money

theorem hosted_internalProcessPacket (hh : Hosted g) (hrun : g.internalProcessPacket d s msg = .ok g') :
    Hosted g' := by
  simp only [internalProcessPacket] at hrun
  split at hrun
  · split_ifs at hrun
    · exact hosted_sendStartEvent hh hrun
    · cases hrun
      exact hh.stays (stays_removeSession g _)
  iterate 3
    · cases hrun
      exact hh
  · next hs =>
      cases hrun
      split_ifs
      · refine ⟨?_, ?_, ?_⟩
        · intro hw
          rw [registerAdminTimer_state, hs] at hw
          cases hw
        · intro hn
          rw [registerAdminTimer_state, hs] at hn
          cases hn
        · rw [registerAdminTimer_gameData]
          exact hh.money
      · exact hh
  · cases hrun
    exact hh.stays (stays_removeSession g _)
  · have hready : Hosted (g.setReadyFlag s.id) := hh.stays ⟨rfl, rfl, rfl, rfl, fun _ => rfl⟩
    split_ifs at hrun
    · exact @hosted_doStart (g.setReadyFlag s.id).resetAllReadyFlags _ d
        (hready.stays ⟨rfl, rfl, rfl, rfl, fun _ => rfl⟩) hrun
    · cases hrun
      exact hready
  iterate 3
    · cases hrun
      exact hh.stays ⟨rfl, rfl, rfl, rfl, fun _ => rfl⟩
  · split_ifs at hrun
    · cases hrun
      exact hh
    · split at hrun
      · cases hrun
      · simp only [myAction] at hrun
        split at hrun
        · cases hrun
        · split at hrun
          · cases hrun
          · split_ifs at hrun
            · cases hrun
              exact @Hosted.setState_plain (g.setHand _ _) .hand hh.money (by decide) (by decide)
            · cases hrun
              exact hh
  · split_ifs at hrun
    cases hrun
    exact hh
  · cases hrun
    exact hh

theorem hosted_handlePacket (hh : Hosted g) (hrun : g.handlePacket d s msg = .ok g') : Hosted g' := by
  simp only [handlePacket] at hrun
  split at hrun
  · cases hrun
    exact hh
  · cases hrun
    exact hh.stays (stays_removeSession g _)
  · split_ifs at hrun
    · cases hrun
      exact hh.stays (stays_kickPlayer g _)
    · cases hrun
      exact hh
  iterate 9
    · cases hrun
      exact hh
  · exact hosted_internalProcessPacket hh hrun

theorem hosted_fire (hh : Hosted g) (hfire : g.fire e = some g') : Hosted g' := by
  cases e with
  | packet sid msg d =>
      simp only [fire, Option.map_eq_some_iff] at hfire
      obtain ⟨s, -, rfl⟩ := hfire
      simp only [dispatchPacket]
      cases hrun : g.handlePacket d s msg with
      | error e => exact hosted_removeAllSessions hh
      | ok g' => exact hosted_handlePacket hh hrun
  | newPlayer s autoLeave =>
      simp only [fire] at hfire
      split_ifs at hfire
      · cases hfire
        exact (hh.stays (stays_handleNewPlayer g s)).stays ⟨rfl, rfl, rfl, rfl, fun _ => rfl⟩
      · cases hfire
        exact hh.stays (stays_handleNewPlayer g s)
  | removeSession sid =>
      cases hfire
      exact hh.stays (stays_removeSession g sid)
  | kickPlayer playerId =>
      cases hfire
      exact hh.stays (stays_kickPlayer g playerId)
  | markPlayerAsInactive playerId =>
      cases hfire
      exact hh.stays (stays_modifyTable g
        (@updateByUniqueId_myUniqueID (fun p => { p with isSessionActive := false }) (fun _ => rfl) playerId))
  | timer1 d =>
      simp only [fire, Option.map_eq_some_iff] at hfire
      obtain ⟨timer, -, rfl⟩ := hfire
      have hnone : Hosted { g with timer1 := none } := ⟨hh.waits, hh.shows, hh.money⟩
      simp only [fireTimer]
      cases hrun : { g with timer1 := none }.handleTimer d timer with
      | error e => exact hosted_removeAllSessions hh
      | ok g' =>
          by_cases htimer : timer.state = g.state
          · exact hosted_handleTimer hnone htimer hrun
          · simp only [handleTimer, ne_eq, htimer, not_false_eq_true, if_true] at hrun
            cases hrun
            exact hnone
  | timer2 =>
      simp only [fire] at hfire
      split_ifs at hfire
      split at hfire
      · next hrun =>
          cases hfire
          exact @hosted_sendStartEvent { g with timer2 := false } _ false ⟨hh.waits, hh.shows, hh.money⟩ hrun
      · cases hfire
        exact hosted_removeAllSessions hh
  | newPlayerId =>
      cases hfire
      exact hh.stays ⟨rfl, rfl, rfl, rfl, fun _ => rfl⟩
  | removeAllSessions =>
      cases hfire
      exact hosted_removeAllSessions hh

/-- What a packet may not be: the admin's fill of his game with more computer players than there are ids, the last
acknowledgement of a start when the game counter is used up or a player without a seat is drawn as dealer, or an action
of a session whose id no seat has. -/
def Harmless (g : ServerGame) (s : PlayerSession) (msg : GameMsg) (d : Draws) : Prop :=
  match g.state, msg with
  | .init, .startEvent gameId rejoin fill =>
      s.isGameAdmin ∧ gameId = g.id ∧ ¬ rejoin ∧
        (g.gameType ≠ .ranking ∨ g.gameData.maxNumberOfPlayers = g.players.length) → fill = true →
      g.remainingSlots = 0 ∨ g.curUniquePlayerId + g.remainingSlots ≤ MAX_SAFE_PLAYER_ID
  | .startGame, .startEventAck => (g.setReadyFlag s.id).allReady → 2 ≤ g.players.length →
      g.gameNum < MAX_SAFE_GAME_NUM ∧ d.dealerPos g.players.length < MAX_NUMBER_OF_PLAYERS
  | .waitPlayerAction, .myActionRequest req =>
      req.gameId = g.id → ∃ p, g.playing = some p ∧ (p.betting.hand.getPlayerByUniqueId s.uniqueId).isSome
  | _, _ => True

theorem addComputerPlayers_isOk {n i : Nat} (hroom : n = 0 ∨ g.curUniquePlayerId + n ≤ MAX_SAFE_PLAYER_ID) :
    ∃ g', addComputerPlayers n i g = .ok g' := by
  induction n generalizing i g with
  | zero => exact ⟨g, rfl⟩
  | succ n ih =>
      have hlt : ¬ g.curUniquePlayerId ≥ MAX_SAFE_PLAYER_ID := by omega
      obtain ⟨g', hg'⟩ := @ih { g with
        curUniquePlayerId := g.curUniquePlayerId + 1
        computerPlayers := g.computerPlayers ++ [⟨g.curUniquePlayerId + 1, .computer, "Computer" ++ toString i, ""⟩] }
        (i + 1) (by right; dsimp only; omega)
      refine ⟨g', ?_⟩
      simp only [addComputerPlayers, addComputerPlayer, if_neg hlt]
      exact hg'

theorem room_of_addComputerPlayers {n i : Nat} (hrun : addComputerPlayers n i g = .ok g') :
    n = 0 ∨ g.curUniquePlayerId + n ≤ MAX_SAFE_PLAYER_ID := by
  induction n generalizing i g with
  | zero => exact .inl rfl
  | succ n ih =>
      simp only [addComputerPlayers, addComputerPlayer] at hrun
      split_ifs at hrun with hfull
      · cases hrun
      · have hrest := ih hrun
        dsimp only at hrest
        omega

namespace Interval

variable {v : Interval}

def CanDeal (v : Interval) : Prop := Dealable v.table v.game.dealerPosition

/-- Players' objects may change as long as their cash stays and the dealer has a seat. -/
theorem CanDeal.players {players : Players} {game : Game} {server : ServerGame} (hd : v.CanDeal)
    (hdealer : ∃ r ∈ v.table.seatsList, (players r).myUniqueID = game.dealerPosition)
    (hcash : ∀ r, (players r).myCash = (v.table.players r).myCash) :
    CanDeal { v with server, game, table := { v.table with players } } :=
  ⟨hdealer, hd.nodup, hd.seated, hd.two, hd.deck, fun r hr => (hcash r) ▸ hd.cash r hr⟩

theorem updateByUniqueId_myCash {f : Player → Player} (hf : ∀ p, (f p).myCash = p.myCash) (id : Nat) (t : Table)
    (r : Ref) : (updateByUniqueId id f t r).myCash = (t.players r).myCash := by
  simp only [updateByUniqueId]
  cases findPlayer t.players t.seatsList id with
  | none => rfl
  | some q =>
      by_cases hr : r = q
      · subst hr
        simp [updatePlayer, hf]
      · simp [updatePlayer, hr]

theorem canDeal_reactivatePlayers (hd : v.CanDeal) : v.reactivatePlayers.CanDeal := by
  have hfold (l : List Nat) (t : Table) (ht : Dealable t v.game.dealerPosition) :
      Dealable (l.foldl (fun (t : Table) uniqueId =>
        { t with players := updateByUniqueId uniqueId (fun p => { p with isSessionActive := true }) t }) t)
        v.game.dealerPosition := by
    induction l generalizing t with
    | nil => exact ht
    | cons id l ih =>
        apply ih
        obtain ⟨r, hr, hid⟩ := ht.dealer
        have hids := @updateByUniqueId_myUniqueID (fun p => { p with isSessionActive := true }) (fun _ => rfl) id t
        have hcash := @updateByUniqueId_myCash (fun p => { p with isSessionActive := true }) (fun _ => rfl) id t
        exact ⟨⟨r, hr, (hids r).trans hid⟩, ht.nodup, ht.seated, ht.two, ht.deck, fun q hq => hcash q ▸ ht.cash q hq⟩
  exact hfold _ _ hd

theorem canDeal_rejoin (hd : v.CanDeal) (uniqueId : Nat) : (v.rejoin uniqueId).CanDeal := by
  simp only [rejoin]
  split
  · exact hd
  · next s _ =>
      simp only [performRejoin]
      split
      · exact hd
      · next r hname =>
          have hseat : r ∈ v.table.seatsList := by
            simp only [getPlayerByName] at hname
            split_ifs at hname
            exact List.mem_of_find?_eq_some hname
          apply hd.players
          · obtain ⟨q, hq, hid⟩ := hd.dealer
            by_cases hold : v.game.dealerPosition = (v.table.players r).myUniqueID
            · refine ⟨r, hseat, ?_⟩
              simp [Game.replaceDealer, hold, updatePlayer]
            · refine ⟨q, hq, ?_⟩
              have hne : q ≠ r := by
                rintro rfl
                exact hold hid.symm
              simp [Game.replaceDealer, hold, updatePlayer, hne, hid]
          · intro q
            by_cases hq : q = r
            · subst hq
              simp [updatePlayer]
            · simp [updatePlayer, hq]

theorem canDeal_initRejoiningPlayers (hd : v.CanDeal) : v.initRejoiningPlayers.CanDeal := by
  exact List.foldlRecOn (motive := CanDeal) v.server.rejoinPlayers rejoin hd fun _ hu id _ => canDeal_rejoin hu id

theorem canDeal_checkTimeout (secs : Ref → Int) (hd : v.CanDeal) (r : Ref) : (checkTimeout secs v r).CanDeal := by
  have hupdate (f : Player → Player) (hid : ∀ p, (f p).myUniqueID = p.myUniqueID) (hcash : ∀ p, (f p).myCash = p.myCash)
      (players : Players) (q p : Ref) : (updatePlayer players q f p).myUniqueID = (players p).myUniqueID ∧
        (updatePlayer players q f p).myCash = (players p).myCash := by
    by_cases hp : p = q
    · subst hp
      simp [updatePlayer, hid, hcash]
    · simp [updatePlayer, hp]
  have hinactive := hupdate (fun p => { p with isSessionActive := false }) (fun _ => rfl) (fun _ => rfl) v.table.players r
  obtain ⟨q, hq, hqid⟩ := hd.dealer
  simp only [checkTimeout]
  split_ifs
  · apply hd.players
    · refine ⟨q, hq, ?_⟩
      rw [@updateByUniqueId_myUniqueID markAsKicked (fun _ => rfl)]
      exact (hinactive q).1.trans hqid
    · intro p
      rw [@updateByUniqueId_myCash markAsKicked (fun _ => rfl)]
      exact (hinactive p).2
  · exact hd.players ⟨q, hq, (hinactive q).1.trans hqid⟩ fun p => (hinactive p).2
  · exact hd

theorem canDeal_checkPlayerTimeouts (secs : Ref → Int) (hd : v.CanDeal) : (v.checkPlayerTimeouts secs).CanDeal := by
  simp only [checkPlayerTimeouts]
  split_ifs
  · exact List.foldlRecOn (motive := CanDeal) _ _ hd fun _ hu r _ => canDeal_checkTimeout secs hu r
  · exact hd

theorem startNewHand_isOk (hd : v.CanDeal) (d : Draws) : ∃ g', v.startNewHand d = .ok g' := by
  obtain ⟨game, h, hrun⟩ := Game.initHand_isOk d.cardsValueInt d.elapsedMinutes _
    (canDeal_checkPlayerTimeouts d.secsSinceAction (canDeal_initRejoiningPlayers (canDeal_reactivatePlayers hd)))
  simp only [startNewHand, hrun]
  exact ⟨_, rfl⟩

end Interval

theorem internalStartGame_isOk (hmoney : 1 ≤ g.gameData.startMoney) (htwo : 2 ≤ g.players.length)
    (hnum : g.gameNum < MAX_SAFE_GAME_NUM) (hdealer : d.dealerPos g.players.length < MAX_NUMBER_OF_PLAYERS) :
    ∃ v, g.internalStartGame d = .ok v ∧ v.CanDeal := by
  have hlen : (d.shuffle g.players).length = g.players.length := (d.shuffle_perm g.players).length_eq
  have hpos : d.dealerPos (d.shuffle g.players).length < (d.shuffle g.players).length :=
    d.dealerPos_lt _ (by omega)
  obtain ⟨p, hp⟩ : ∃ p, (d.shuffle g.players)[d.dealerPos (d.shuffle g.players).length]? = some p :=
    ⟨_, List.getElem?_eq_getElem hpos⟩
  have hmem : p ∈ d.shuffle g.players := List.mem_of_getElem? hp
  have hany : ((d.shuffle g.players).map Participant.data).any (fun q => q.uniqueId == p.uniqueId) = true := by
    rw [List.any_map, List.any_eq_true]
    exact ⟨p, hmem, beq_self_eq_true _⟩
  have hactive : ((List.range MAX_NUMBER_OF_PLAYERS).filter fun i => (d.shuffle g.players).length > i) =
      List.range MAX_NUMBER_OF_PLAYERS := by
    rw [List.filter_eq_self]
    intro i hi
    rw [List.mem_range] at hi
    have hmax : MAX_NUMBER_OF_PLAYERS = 2 := rfl
    exact decide_eq_true (by omega)
  have hcash (i : Nat) : (Game.newPlayer g.gameData.startMoney (d.shuffle g.players).length
      ((d.shuffle g.players).map Participant.data) i).myCash = g.gameData.startMoney := by
    simp only [Game.newPlayer]
    split
    · rfl
    · next q hq =>
        rw [List.getElem?_map, Option.map_eq_some_iff] at hq
        obtain ⟨u, -, rfl⟩ := hq
        rfl
  simp only [internalStartGame, hp, Option.map_some, Option.getD_some, if_neg (Nat.not_le.mpr hnum), Game.create, hany,
    if_true]
  refine ⟨_, rfl, ⟨d.dealerPos (d.shuffle g.players).length, ?_, ?_⟩, ?_, ?_, ?_, ?_, ?_⟩
  · rw [List.mem_range, hlen]
    exact hdealer
  · simp only [Game.newPlayer, List.getElem?_map, hp, Option.map_some]
    rfl
  · dsimp only
    rw [hactive]
    exact List.nodup_range
  · intro r hr
    exact (List.mem_filter.mp hr).1
  · dsimp only
    rw [hactive]
    decide
  · dsimp only
    rw [hactive]
    decide
  · intro r _
    rw [hcash r]
    omega

theorem doStart_isOk (hmoney : 1 ≤ g.gameData.startMoney)
    (hstart : 2 ≤ g.players.length → g.gameNum < MAX_SAFE_GAME_NUM ∧ d.dealerPos g.players.length < MAX_NUMBER_OF_PLAYERS) :
    ∃ g', g.doStart d = .ok g' := by
  simp only [doStart]
  split_ifs with hlen
  · cases g.players.head? with
    | none => exact ⟨_, rfl⟩
    | some p => exact ⟨_, rfl⟩
  · have htwo : 2 ≤ g.players.length := by omega
    obtain ⟨hnum, hdealer⟩ := hstart htwo
    obtain ⟨v, hv, hdeal⟩ := internalStartGame_isOk hmoney htwo hnum hdealer
    obtain ⟨u, hu⟩ := Interval.startNewHand_isOk hdeal d
    rw [hv]
    exact ⟨u.setState .hand, by simp only [bind, Except.bind, hu]; rfl⟩

theorem players_ready (g : ServerGame) (sid : Nat) : (g.setReadyFlag sid).resetAllReadyFlags.players = g.players := by
  simp only [players, resetAllReadyFlags, setReadyFlag, List.map_map]
  congr 1
  apply List.map_congr_left
  intro p _
  simp only [Function.comp_apply]
  split_ifs <;> rfl

theorem handleMyAction_isOk {h : Hand} {r : Ref} (hplayer : h.getCurrentPlayer = .ok r) (q : Ref)
    (req : MyActionRequest) : ∃ out, h.handleMyAction q req = .ok out := by
  simp only [Hand.handleMyAction, hplayer]
  exact ⟨_, rfl⟩

theorem getCurrentPlayer_of_curPlayerId {p : Playing} (hp : g.playing = some p) (hcur : g.curPlayerId.isSome) :
    ∃ r, p.betting.hand.getCurrentPlayer = .ok r := by
  simp only [curPlayerId, hp, Option.bind_some] at hcur
  cases hr : p.betting.hand.getCurrentPlayer with
  | ok r => exact ⟨r, rfl⟩
  | error e => simp [hr] at hcur

theorem internalProcessPacket_isOk (hh : Hosted g) (hharmless : Harmless g s msg d) :
    ∃ g', g.internalProcessPacket d s msg = .ok g' := by
  simp only [internalProcessPacket]
  split
  · next gameId rejoin fill hs =>
      simp only [Harmless, hs] at hharmless
      split_ifs with hadmin
      · simp only [sendStartEvent]
        by_cases hfill : fill = true
        · obtain ⟨u, hu⟩ := @addComputerPlayers_isOk g g.remainingSlots 1 (hharmless hadmin hfill)
          rw [if_pos hfill, hu]
          exact ⟨_, rfl⟩
        · rw [if_neg hfill]
          exact ⟨_, rfl⟩
      · exact ⟨_, rfl⟩
  iterate 5
    · exact ⟨_, rfl⟩
  · next hs =>
      simp only [Harmless, hs] at hharmless
      split_ifs with hready
      · apply doStart_isOk
        · exact hh.money
        · rw [players_ready]
          exact hharmless hready
      · exact ⟨_, rfl⟩
  iterate 3
    · exact ⟨_, rfl⟩
  · next req hs =>
      simp only [Harmless, hs] at hharmless
      split_ifs with hgame
      · exact ⟨_, rfl⟩
      · obtain ⟨p, hp, hseat⟩ := hharmless (not_not.mp hgame)
        obtain ⟨q, hq⟩ := Option.isSome_iff_exists.mp hseat
        obtain ⟨r, hr⟩ := getCurrentPlayer_of_curPlayerId hp (hh.waits hs)
        obtain ⟨⟨code, filled, h⟩, hout⟩ := handleMyAction_isOk hr q req
        simp only [hp, myAction, hq, hout]
        split_ifs
        · exact ⟨_, rfl⟩
        · exact ⟨_, rfl⟩
  · next hs =>
      rw [if_pos (hh.shows hs)]
      exact ⟨_, rfl⟩
  · exact ⟨_, rfl⟩

theorem handlePacket_isOk (hh : Hosted g) (hharmless : Harmless g s msg d) : ∃ g', g.handlePacket d s msg = .ok g' := by
  simp only [handlePacket]
  split
  · exact ⟨_, rfl⟩
  · exact ⟨_, rfl⟩
  · split_ifs
    · exact ⟨_, rfl⟩
    · exact ⟨_, rfl⟩
  iterate 9
    · exact ⟨_, rfl⟩
  · exact internalProcessPacket_isOk hh hharmless

/-- Outside the start of a game a packet that is not harmless is an error. -/
theorem harmless_of_isOk (hs : g.state ≠ .startGame) (hrun : g.handlePacket d s msg = .ok g') : Harmless g s msg d := by
  simp only [Harmless]
  split
  · next gameId rejoin fill hstate =>
      intro hadmin hfill
      simp only [handlePacket, internalProcessPacket, hstate, if_pos hadmin, sendStartEvent, hfill, if_true] at hrun
      cases hadd : addComputerPlayers g.remainingSlots 1 g with
      | ok u => exact room_of_addComputerPlayers hadd
      | error e =>
          rw [hadd] at hrun
          cases hrun
  · next hstate => exact absurd hstate hs
  · next req hstate =>
      intro hgame
      simp only [handlePacket, internalProcessPacket, hstate, hgame, ne_eq, not_true, if_false] at hrun
      cases hp : g.playing with
      | none =>
          rw [hp] at hrun
          cases hrun
      | some p =>
          simp only [hp, myAction] at hrun
          refine ⟨p, rfl, ?_⟩
          cases hq : p.betting.hand.getPlayerByUniqueId s.uniqueId with
          | none =>
              rw [hq] at hrun
              cases hrun
          | some q => rfl
  · trivial

theorem hosted_create {id : Nat} {mode : ServerMode} {gameType : GameType} {gameData : GameData} {password : String}
    {adminPlayerId curUniquePlayerId : Nat} (hsettings : checkSettings gameType gameData password mode) :
    Hosted (create id mode gameType gameData adminPlayerId curUniquePlayerId) := by
  simp only [checkSettings, decide_eq_true_eq] at hsettings
  refine ⟨?_, ?_, ?_⟩
  · intro hw
    simp [create] at hw
  · intro hn
    simp [create] at hn
  · simp only [create, enter_gameData]
    exact hsettings.2.2.2.2.1

/-- No session of a game aborts it with a harmless packet. But for the acknowledgements of a start, the harmless packets
are exactly those that do not abort it. -/
theorem packet_does_not_abort {id : Nat} {mode : ServerMode} {gameType : GameType} {gameData : GameData}
    {password : String} {adminPlayerId curUniquePlayerId : Nat} {hist : List (ServerGame × Event)}
    (hsettings : checkSettings gameType gameData password mode)
    (hrun : Runs.Trace fire (fun _ _ => True) (create id mode gameType gameData adminPlayerId curUniquePlayerId) hist g)
    (s : PlayerSession) (msg : GameMsg) (d : Draws) :
    (Harmless g s msg d → ∃ g', g.handlePacket d s msg = .ok g' ∧ g.dispatchPacket d s msg = g') ∧
      (g.state ≠ .startGame → ((∃ g', g.handlePacket d s msg = .ok g') ↔ Harmless g s msg d)) := by
  have hh : Hosted g :=
    @Runs.Trace.invariant _ _ _ _ _ _ _ (fun _ g => Hosted g) (hosted_create hsettings)
      (fun _ _ _ _ hh hfire _ => hosted_fire hh hfire) hrun
  refine ⟨fun hharmless => ?_, fun hs => ⟨fun ⟨g', hg'⟩ => harmless_of_isOk hs hg', handlePacket_isOk hh⟩⟩
  obtain ⟨g', hg'⟩ := handlePacket_isOk hh hharmless
  refine ⟨g', hg', ?_⟩
  simp only [dispatchPacket, hg']

/-- The second player is away while the first one has to act, and his seat is not his own yet when he is back. His
request to leave is answered, and nothing but an action in the game is not. -/
theorem packet_does_not_abort_rejoined : ∃ hist g,
    Runs.Trace fire (fun _ _ => True) (create 1 .lan .normal (headsUp 10) 1 2) hist g ∧ g.state = .waitPlayerAction ∧
      ∃ s ∈ g.sessions, s.uniqueId = 3 ∧ (∃ g', g.handlePacket plainDraws s .leaveGameRequest = .ok g') ∧
        (∃ g', g.handlePacket plainDraws s (.myActionRequest ⟨2, 0, .fold, 0⟩) = .ok g') ∧
          ¬ ∃ g', g.handlePacket plainDraws s (.myActionRequest ⟨1, 0, .fold, 0⟩) = .ok g' := by
  obtain ⟨hist, g, hrun, htest⟩ := Runs.exists_trace fire (fun _ _ => True) (fun _ _ => true)
    (create 1 .lan .normal (headsUp 10) 1 2)
    (openingEvents ++ [.removeSession 2, .newPlayer ⟨3, 3, "b", "c", "b", false, false⟩ false])
    (fun g => g.state == .waitPlayerAction && g.id == 1 && (g.sessions.any fun s => s.uniqueId == 3) &&
      g.playing.all fun p => (p.betting.hand.getPlayerByUniqueId 3).isNone)
    (by decide +kernel) (fun _ _ _ => trivial)
  simp only [Bool.and_eq_true, beq_iff_eq, List.any_eq_true, Option.all_eq_true, Option.isNone_iff_eq_none] at htest
  obtain ⟨⟨⟨hstate, hid⟩, s, hs, hsid⟩, hseat⟩ := htest
  have hpackets (msg : GameMsg) := @packet_does_not_abort g 1 .lan .normal (headsUp 10) "" 1 2 hist (by decide) hrun s msg
    plainDraws
  have hiff (msg : GameMsg) := (hpackets msg).2 (by simp [hstate])
  refine ⟨hist, g, hrun, hstate, s, hs, hsid, (hiff _).mpr (by simp [Harmless, hstate]), (hiff _).mpr ?_, ?_⟩
  · simp [Harmless, hstate, hid]
  · rw [hiff]
    intro hharmless
    simp only [Harmless, hstate] at hharmless
    obtain ⟨p, hp, hseated⟩ := hharmless hid.symm
    rw [hsid, hseat p hp] at hseated
    cases hseated

/-- The second player comes back while the first one has to act, and acts before the next hand has given him his
seat. -/
theorem rejoined_session_aborts : ∃ hist g,
    Runs.Trace fire (fun _ _ => True) (create 1 .lan .normal (headsUp 10) 1 2) hist g ∧ ∃ s ∈ g.sessions,
      g.handlePacket plainDraws s (.myActionRequest ⟨1, 0, .fold, 0⟩) = .error .unknownPlayerId ∧
        (g.dispatchPacket plainDraws s (.myActionRequest ⟨1, 0, .fold, 0⟩)).sessions = [] := by
  obtain ⟨hist, g, hrun, htest⟩ := Runs.exists_trace fire (fun _ _ => True) (fun _ _ => true)
    (create 1 .lan .normal (headsUp 10) 1 2)
    (openingEvents ++ [.removeSession 2, .newPlayer ⟨3, 3, "b", "c", "b", false, false⟩ false])
    (fun g => g.sessions.any fun s =>
      match g.handlePacket plainDraws s (.myActionRequest ⟨1, 0, .fold, 0⟩) with
      | .error e => e == .unknownPlayerId
      | .ok _ => false)
    (by decide +kernel) (fun _ _ _ => trivial)
  obtain ⟨s, hs, haborts⟩ := List.any_eq_true.mp htest
  split at haborts
  · next e he =>
      rw [beq_iff_eq] at haborts
      subst haborts
      refine ⟨hist, g, hrun, s, hs, he, ?_⟩
      simp only [dispatchPacket, he]
      exact exit_sessions
  · cases haborts

end PokerTH.ServerGame
