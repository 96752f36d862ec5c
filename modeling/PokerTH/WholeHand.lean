import PokerTH.HandStart

namespace PokerTH.HandRun

open Board Hand PokerTH.Lists Relation

variable {maxPlayers : Nat} {total : Int} {h h' k : Hand} {s s' : State} {t : Table} {g : Game}

structure Settled (total : Int) (h : Hand) : Prop where
  cash_nonneg : ∀ r ∈ h.seatsList, 0 ≤ (h.players r).myCash
  cleared : Cleared h
  pot : h.board.pot = 0
  sum : h.sumCash = total
  spent : h.sumSpent = 0

inductive Conserved (maxPlayers : Nat) (total : Int) : State → Prop
  | loop {h : Hand} (hs : Seated maxPlayers h) (ho : InOrder total h) (hn : 1 ≤ h.nonFoldPlayerCounter)
      (hopen : h.currentRound ≠ .postRiver) : Conserved maxPlayers total ⟨h, .loop⟩
  | waitPlayerAction {h : Hand} {cur : Ref} (hs : Seated maxPlayers h) (ho : InOrder total h)
      (hn : 2 ≤ h.nonFoldPlayerCounter) (hopen : h.currentRound ≠ .postRiver)
      (hcur : h.getCurrentPlayer = .ok cur) (hactive : (h.players cur).myActiveStatus) :
      Conserved maxPlayers total ⟨h, .waitPlayerAction⟩
  | handOver {h : Hand} (hs : Seated maxPlayers h) (hset : Settled total h) :
      Conserved maxPlayers total ⟨h, .handOver⟩

theorem getCurrentPlayer_mem {r : Ref} (hcur : h.getCurrentPlayer = .ok r) : r ∈ h.seatsList := by
  simp only [getCurrentPlayer] at hcur
  split at hcur
  · cases hcur
  · next q hq =>
      cases hcur
      exact (findPlayer_some hq).1

theorem accepted_is_current (hs : Seated maxPlayers h) {cur r : Ref} {id : Nat} {req filled : MyActionRequest}
    (hcur : h.getCurrentPlayer = .ok cur) (hactive : (h.players cur).myActiveStatus)
    (hplayer : h.getPlayerByUniqueId id = some r)
    (hrun : h.handleMyAction r req = .ok (.valid, filled, h')) : r = cur := by
  obtain ⟨cur', hcur', hid, _⟩ := handleMyAction_accepted hrun
  rw [hcur] at hcur'
  cases hcur'
  exact hs.ids.eq_of_id cur (getCurrentPlayer_mem hcur) hactive r (findPlayer_some hplayer).1 hid.symm

theorem two_contenders (hn : 1 ≤ h.nonFoldPlayerCounter) (hrun : h.advance = .ok k)
    (hopen : k.currentRound ≠ .postRiver) : 2 ≤ h.nonFoldPlayerCounter := by
  by_contra hlt
  exact hopen (advance_of_last (by omega) hrun)

theorem waiting_nonFoldPlayerCounter (hn : 1 ≤ h.nonFoldPlayerCounter) (hrun : h.advance = .ok k)
    (hopen : k.currentRound ≠ .postRiver) : 2 ≤ k.nonFoldPlayerCounter :=
  advance_nonFoldPlayerCounter (two_contenders hn hrun hopen) hrun

theorem sumSpent_paidOut (hs : Seated maxPlayers h) (hp : PaidOut h h') :
    h'.sumSpent = h.sumSpent - h.board.pot := by
  obtain ⟨won, _, hwon, hsum, hw⟩ := hp.paid
  have hactive : (h.activePlayerList.map won).sum = h.board.pot := by
    rw [hs.active, sum_map_filter, ← hsum]
    apply sum_map_congr
    intro r hr
    by_cases hzero : won r = 0
    · simp [hzero]
    · have hc := contender_active (hwon r hzero).2
      simp only [resetMoneyWon, hr, if_true] at hc
      rw [if_pos hc]
  have hpoint (r : Ref) : (h'.players r).myRoundStartCash - (h'.players r).myCash + won r =
      (h.players r).myRoundStartCash - (h.players r).myCash := by
    have hcash : (h'.players r).myCash = (h.players r).myCash + won r := by
      rw [hw]
      simp only [gain, resetMoneyWon]
      split_ifs <;> rfl
    rw [hcash, frame_myRoundStartCash hp.frame]
    omega
  have hall : h'.sumSpent + (h.activePlayerList.map won).sum = h.sumSpent := by
    rw [sumSpent, frame_activePlayerList hp.frame, ← sum_map_add, sumSpent]
    exact sum_map_congr fun r _ => hpoint r
  omega

theorem settled_paidOut (hs : Seated maxPlayers h) (ho : InOrder total h)
    (hround : h.currentRound = .postRiver) (hp : PaidOut h h') : Settled total h' := by
  have hc := ho.cleared hround
  have hsum := ho.money.sum
  have hstakes := ho.money.stakes
  rw [cleared_sumSets hc] at hsum hstakes
  refine ⟨?_, ?_, hp.pot, ?_, ?_⟩
  · intro r hr
    rw [frame_seatsList hp.frame] at hr
    exact le_trans (ho.money.cash_nonneg r hr) (hp.myCash r)
  · intro r hr
    rw [frame_seatsList hp.frame] at hr
    rw [hp.mySet]
    exact hc r hr
  · have hcash := hp.sumCash
    omega
  · have hspent := sumSpent_paidOut hs hp
    omega

theorem Conserved.step (htotal : total < 2 ^ 31) (hc : Conserved maxPlayers total s)
    (hstep : Step maxPlayers s s') : Conserved maxPlayers total s' := by
  cases hstep with
  | nextRound hrun =>
      cases hc with
      | loop hs ho hn hopen =>
          obtain ⟨k, hk, hcases⟩ := engineLoop_cases hrun
          have hn' := advance_nonFoldPlayerCounter hn hk
          have hs' := hs.congr (frame_advance hk)
          have ho' := ho.advance hk
          cases hcases with
          | nextRound hlt hopen' =>
              exact .loop (hs'.congr rfl) (ho'.congr ⟨rfl, fun _ => rfl, fun _ => rfl, rfl, rfl⟩ fun hr => hr)
                hn' hopen'
  | playersTurn hrun =>
      cases hc with
      | loop hs ho hn hopen =>
          obtain ⟨k, hk, hcases⟩ := engineLoop_cases hrun
          cases hcases with
          | playersTurn hsame hopen' hall hplayer hactive =>
              exact .waitPlayerAction (hs.congr (frame_advance hk)) (ho.advance hk)
                (waiting_nonFoldPlayerCounter hn hk hopen') hopen' hplayer hactive
  | @foldDisconnected h h' r hrun =>
      cases hc with
      | loop hs ho hn hopen =>
          obtain ⟨k, hk, hcases⟩ := engineLoop_cases hrun
          have hs' := hs.congr (frame_advance hk)
          cases hcases with
          | playersTurn hsame hopen' hall hplayer hactive =>
              have hmem := hs'.mem_active.mpr ⟨getCurrentPlayer_mem hplayer, hactive⟩
              have htwo := waiting_nonFoldPlayerCounter hn hk hopen'
              have hlose := perform_nonFoldPlayerCounter hs' r .fold 0
              refine .loop (hs'.congr (frame_performPlayerAction _ _ _ _))
                ((ho.advance hk).perform hs' hmem hopen') (by omega) ?_
              rwa [perform_currentRound]
  | endOfHand hrun =>
      cases hc with
      | loop hs ho hn hopen =>
          obtain ⟨k, hk, hcases⟩ := engineLoop_cases hrun
          have hs' := hs.congr (frame_advance hk)
          have ho' := ho.advance hk
          cases hcases with
          | endOfHand hround hpost =>
              obtain ⟨h', hpost', hp⟩ := postRiverRun_spec hs' ho' htotal hround
                (advance_nonFoldPlayerCounter hn hk)
              rw [hpost] at hpost'
              cases hpost'
              exact .handOver (hs'.congr hp.frame) (settled_paidOut hs' ho' hround hp)
  | @accepted h h' id r req filled hplayer hrun =>
      cases hc with
      | waitPlayerAction hs ho hn hopen hcur hactive =>
          have hr := accepted_is_current hs hcur hactive hplayer hrun
          obtain ⟨_, _, _, _, _, _, rfl⟩ := handleMyAction_accepted hrun
          have hsame := sameChips_setIsSessionActive h r true
          have hs' := hs.congr (frame_setIsSessionActive h r true)
          have hmem : r ∈ (h.setIsSessionActive r true).activePlayerList :=
            hs.mem_active.mpr ⟨hr ▸ getCurrentPlayer_mem hcur, hr ▸ hactive⟩
          have hn' : 2 ≤ (h.setIsSessionActive r true).nonFoldPlayerCounter := by
            exact le_of_le_of_eq hn (List.countP_congr fun q _ => by rw [setIsSessionActive_myAction])
          have hlose := perform_nonFoldPlayerCounter hs' r filled.myAction filled.myRelativeBet.toInt
          refine .loop (hs'.congr (frame_performPlayerAction _ _ _ _))
            ((ho.congr hsame fun hp => hp).perform hs' hmem hopen) (by omega) ?_
          rwa [perform_currentRound]
  | @timeout h r hplayer =>
      cases hc with
      | waitPlayerAction hs ho hn hopen hcur hactive =>
          rw [hcur] at hplayer
          cases hplayer
          have hmem := hs.mem_active.mpr ⟨getCurrentPlayer_mem hcur, hactive⟩
          have hact (a : PlayerAction) : Conserved maxPlayers total ⟨h.performPlayerAction r a 0, .loop⟩ := by
            have hlose := perform_nonFoldPlayerCounter hs r a 0
            refine .loop (hs.congr (frame_performPlayerAction _ _ _ _)) (ho.perform hs hmem hopen) (by omega) ?_
            rwa [perform_currentRound]
          simp only [timeoutAction]
          split_ifs
          · exact hact .check
          · exact hact .fold

theorem Conserved.frame_step (htotal : total < 2 ^ 31) (hc : Conserved maxPlayers total s)
    (hstep : Step maxPlayers s s') : s'.hand.frame = s.hand.frame := by
  cases hstep with
  | nextRound hrun =>
      obtain ⟨k, hk, hcases⟩ := engineLoop_cases hrun
      cases hcases with
      | nextRound =>
          have hf := frame_advance hk
          exact hf
  | playersTurn hrun =>
      obtain ⟨k, hk, hcases⟩ := engineLoop_cases hrun
      cases hcases with
      | playersTurn => exact frame_advance hk
  | foldDisconnected hrun =>
      obtain ⟨k, hk, hcases⟩ := engineLoop_cases hrun
      cases hcases with
      | playersTurn => exact (frame_performPlayerAction _ _ _ _).trans (frame_advance hk)
  | endOfHand hrun =>
      cases hc with
      | loop hs ho hn hopen =>
          obtain ⟨k, hk, hcases⟩ := engineLoop_cases hrun
          cases hcases with
          | endOfHand hround hpost =>
              obtain ⟨h', hpost', hp⟩ := postRiverRun_spec (hs.congr (frame_advance hk)) (ho.advance hk) htotal hround
                (advance_nonFoldPlayerCounter hn hk)
              rw [hpost] at hpost'
              cases hpost'
              exact hp.frame.trans (frame_advance hk)
  | accepted hplayer hrun =>
      obtain ⟨_, _, _, _, _, _, rfl⟩ := handleMyAction_accepted hrun
      exact (frame_performPlayerAction _ _ _ _).trans (frame_setIsSessionActive _ _ true)
  | timeout hplayer =>
      simp only [timeoutAction]
      split_ifs
      · exact frame_performPlayerAction _ _ _ _
      · exact frame_performPlayerAction _ _ _ _

theorem conserved_start (hstart : Start maxPlayers g t s) : Conserved maxPlayers (tableCash t) s := by
  obtain ⟨hr, v, elapsed, g', h, hrun, rfl⟩ := hstart
  have hc := (initHand_spec hr hrun).1
  have hn : h.skipFirstRunGui.start.nonFoldPlayerCounter = h.nonFoldPlayerCounter := rfl
  refine .loop ((hc.seated hr).congr (frame_start h)) hc.inOrder (hn ▸ hc.nonFold) ?_
  change h.currentRound ≠ .postRiver
  rw [hc.opened.round]
  decide

theorem conserved_reachable (htotal : tableCash t < 2 ^ 31) (hstart : Start maxPlayers g t s)
    (hrun : Reachable maxPlayers s s') : Conserved maxPlayers (tableCash t) s' :=
  Runs.invariant (conserved_start hstart) (fun _ _ hc hstep => hc.step htotal hstep) hrun

theorem frame_reachable (htotal : total < 2 ^ 31) (hc : Conserved maxPlayers total s)
    (hrun : Reachable maxPlayers s s') : s'.hand.frame = s.hand.frame := by
  refine (@Runs.invariant _ _ (fun u => Conserved maxPlayers total u ∧ u.hand.frame = s.hand.frame) _ _
    ⟨hc, rfl⟩ (fun u v hu hstep => ?_) hrun).2
  exact ⟨hu.1.step htotal hstep, (hu.1.frame_step htotal hstep).trans hu.2⟩

/-- The hands on which `switchRounds` is about to collect the pot. -/
inductive SwitchCollects (h : Hand) : Hand → Prop
  | lastPlayer (hn : h.refreshRunningPlayerList.nonFoldPlayerCounter = 1) :
      SwitchCollects h h.refreshRunningPlayerList
  | allIn (hall : h.refreshRunningPlayerList.distributeOrDetect.allInCondition = true)
      (hn : 2 ≤ h.refreshRunningPlayerList.distributeOrDetect.nonFoldPlayerCounter) :
      SwitchCollects h h.refreshRunningPlayerList.distributeOrDetect

/-- The hands on which a betting round of `h` that closes collects the sets. -/
inductive RoundCloses (h : Hand) : Hand → Prop
  | afterFlop {k : Hand} (hgui : h.getCurrentBeRo.firstRunGui = false) (hk : h.restartTurn = .ok k)
      (hfirst : k.getCurrentBeRo.firstRound = false) (hset : k.allHighestSet = true) : RoundCloses h k
  | preflopStart {k : Hand} {last : Nat} (hgui : h.getCurrentBeRo.firstRunGui = true)
      (hk : (h.preflopStart last).turnToNext = .ok k) : RoundCloses h (k.setCurrentRound .flop)
  | preflop {k : Hand} (hgui : h.getCurrentBeRo.firstRunGui = false) (hk : h.turnToNext = .ok k) :
      RoundCloses h (k.setCurrentRound .flop)

/-- The hands on which the engine, running on `h`, is about to collect the pot. -/
inductive AboutToCollect (h : Hand) : Hand → Prop
  | switchRounds {k : Hand} (hk : SwitchCollects h k) : AboutToCollect h k
  | closeRound {k : Hand} (hk : RoundCloses h.switchRounds k) : AboutToCollect h k.clearActions.collectSets
  | closeSwitch {k k' : Hand} (hk : RoundCloses h.switchRounds k)
      (hk' : SwitchCollects k.clearActions.collectSets.collectPot k') : AboutToCollect h k'

theorem inOrder_switchCollects (ho : InOrder total h) (hk : SwitchCollects h k) : Collected k := by
  have hrefresh : InOrder total h.refreshRunningPlayerList :=
    ho.congr (sameChips_refresh h) fun hr => by rwa [refresh_currentRound] at hr
  cases hk with
  | lastPlayer => exact hrefresh.collected
  | allIn =>
      simp only [distributeOrDetect]
      split_ifs
      · exact (InOrder.collectPot hrefresh.money hrefresh.collected .postRiver).collected
      · exact hrefresh.collected
      · exact hrefresh.collected

theorem inOrder_roundCloses (ho : InOrder total h) (hk : RoundCloses h k) : Money total k := by
  have hbeRo (h : Hand) (b : BeRo) (hb : h.getCurrentBeRo.Moved b) (hm : Money total h) :
      Money total (h.setBeRo b) := hm.congr (sameChips_setBeRo (BeRo.fixed_of_limits hb.limits))
  cases hk with
  | afterFlop _ hk => exact restartTurn_keeps hbeRo ho.money hk
  | @preflopStart k last _ hk =>
      have hstart := startTurn_keeps hbeRo ho.money last
      have hgui := hbeRo _ { (getCurrentBeRo _) with firstRunGui := false } ⟨rfl, nofun, id⟩ hstart
      exact (turnToNext_keeps hbeRo hgui hk).congr (sameChips_setCurrentRound _ _)
  | preflop _ hk => exact (turnToNext_keeps hbeRo ho.money hk).congr (sameChips_setCurrentRound _ _)

theorem inOrder_aboutToCollect (ho : InOrder total h) (hk : AboutToCollect h k) : Collected k := by
  cases hk with
  | switchRounds hk => exact inOrder_switchCollects ho hk
  | closeRound => exact collectSets_collected _
  | closeSwitch hk hk' =>
      exact inOrder_switchCollects (collectRound_inOrder (inOrder_roundCloses ho.switchRounds hk)).1 hk'

/-- Chip conservation in one state of a hand that began with `total` chips on the table. -/
structure ChipsConserved (total : Int) (s : State) : Prop where
  cash_nonneg : ∀ r ∈ s.hand.seatsList, 0 ≤ (s.hand.players r).myCash
  set_nonneg : ∀ r ∈ s.hand.seatsList, 0 ≤ (s.hand.players r).mySet
  sum : s.hand.board.pot + s.hand.sumSets + s.hand.sumCash = total
  collected : ∀ k, s.phase = .loop → AboutToCollect s.hand k → k.board.sets = k.sumSets
  stakes : s.hand.board.pot + s.hand.sumSets = s.hand.sumSpent
  paid : s.phase = .handOver → s.hand.board.pot = 0 ∧ s.hand.sumCash = total

theorem InOrder.chipsConserved {p : Phase} (ho : InOrder total h) (hp : p ≠ .handOver) :
    ChipsConserved total ⟨h, p⟩ :=
  ⟨ho.money.cash_nonneg, ho.money.set_nonneg, ho.money.sum, fun _ _ hk => inOrder_aboutToCollect ho hk,
    ho.money.stakes, fun he => absurd he hp⟩

theorem Settled.chipsConserved (hset : Settled total h) : ChipsConserved total ⟨h, .handOver⟩ := by
  have hsets := cleared_sumSets hset.cleared
  have hpot := hset.pot
  have hsum := hset.sum
  have hspent := hset.spent
  refine ⟨hset.cash_nonneg, fun r hr => (hset.cleared r hr).ge, ?_, fun _ he => ?_, ?_,
    fun _ => ⟨hpot, hsum⟩⟩
  · dsimp only
    omega
  · cases he
  · dsimp only
    omega

theorem chips_conserved (htotal : tableCash t < 2 ^ 31) (hstart : Start maxPlayers g t s)
    (hrun : Reachable maxPlayers s s') : ChipsConserved (tableCash t) s' := by
  cases conserved_reachable htotal hstart hrun with
  | loop hs ho => exact InOrder.chipsConserved ho nofun
  | waitPlayerAction hs ho => exact InOrder.chipsConserved ho nofun
  | handOver hs hset => exact hset.chipsConserved

def twoPlayers : Table where
  players := fun r => Player.create (r + 1) .human "" 100 true
  seatsList := [0, 1]
  activePlayerList := [0, 1]
  runningPlayerList := [0, 1]
  board := Game.newBoard

def twoPlayersGame : Game where
  gameData := ⟨2, 100, 5, .raiseOnHandNumber, 8, 1, .doubleBlinds, [], .doubleBlinds, 0, 7, 20⟩
  startQuantityPlayers := 2
  startCash := 100
  currentSmallBlind := 5
  currentHandID := 0
  dealerPosition := 1
  lastHandBlindsRaised := 1
  lastTimeBlindsRaised := 0
  blindsList := []

theorem ready_twoPlayers : Ready 2 twoPlayers := by
  refine ⟨⟨by decide, ?_⟩, by decide, by decide, by decide, by decide, rfl⟩
  intro r _ _ q _ hid
  simpa [twoPlayers, Player.create] using hid

/-- Both players go all in before the flop, the board is run out and the pot paid. -/
theorem chips_conserved_twoPlayers : ∃ s s', Start 2 twoPlayersGame twoPlayers s ∧ Reachable 2 s s' ∧
    s'.phase = .handOver ∧ s'.hand.currentRound = .postRiver ∧ ChipsConserved 200 s' := by
  obtain ⟨s, s', hstart, hrun, hcheck⟩ := exists_reachable ready_twoPlayers twoPlayersGame (fun _ => 0)
    [.loopTimer, .request 1 ⟨1, 0, .allIn, 0⟩, .loopTimer, .request 2 ⟨1, 0, .allIn, 0⟩, .loopTimer, .loopTimer,
      .loopTimer, .loopTimer]
    (fun s => s.phase == .handOver && s.hand.currentRound == .postRiver) (by decide +kernel)
  simp only [Bool.and_eq_true, beq_iff_eq] at hcheck
  exact ⟨s, s', hstart, hrun, hcheck.1, hcheck.2, chips_conserved (by decide) hstart hrun⟩

theorem endOfHand_ok (htotal : tableCash t < 2 ^ 31) (hstart : Start maxPlayers g t s)
    (hrun : Reachable maxPlayers s ⟨h, .loop⟩) (hk : h.advance = .ok k)
    (hround : k.currentRound = .postRiver) : ∃ h', h.engineLoop maxPlayers = .ok (.endOfHand h') := by
  cases conserved_reachable htotal hstart hrun with
  | loop hs ho hn _ =>
      obtain ⟨h', hpost, _⟩ := postRiverRun_spec (hs.congr (frame_advance hk)) (ho.advance hk) htotal hround
        (advance_nonFoldPlayerCounter hn hk)
      exact ⟨h', by simp [engineLoop, hk, bind, Except.bind, hround, hpost, pure, Except.pure]⟩

theorem ready_handOver (htotal : tableCash t < 2 ^ 31) (hstart : Start maxPlayers g t s)
    (hrun : Reachable maxPlayers s ⟨h, .handOver⟩) : Ready maxPlayers h.toTable := by
  cases conserved_reachable htotal hstart hrun with
  | handOver hs hset => exact ⟨hs.ids, hs.seats, hs.active, hset.cash_nonneg, hset.cleared, hset.pot⟩

theorem ready_create {playerDataList : List PlayerData} {gameData : GameData} {startData : StartData}
    (hids : (playerDataList.map fun d => d.uniqueId).Nodup) (hpos : ∀ d ∈ playerDataList, d.uniqueId ≠ 0)
    (hlen : startData.numberOfPlayers ≤ playerDataList.length) (hcash : 0 ≤ gameData.startMoney)
    (hrun : Game.create maxPlayers playerDataList gameData startData = .ok (g, t)) : Ready maxPlayers t := by
  simp only [Game.create] at hrun
  split_ifs at hrun
  cases hrun
  have hactive (i : Nat) : (Game.newPlayer gameData.startMoney startData.numberOfPlayers playerDataList
      i).myActiveStatus = decide (startData.numberOfPlayers > i) := by
    simp only [Game.newPlayer]
    split <;> rfl
  have hid (i : Nat) : (Game.newPlayer gameData.startMoney startData.numberOfPlayers playerDataList
      i).myUniqueID = ((playerDataList.map fun d => d.uniqueId)[i]?).getD 0 := by
    simp only [Game.newPlayer, List.getElem?_map]
    split <;> next hd => rw [hd]; rfl
  refine ⟨⟨List.nodup_range, ?_⟩, by simp, ?_, ?_, ?_, rfl⟩
  · intro i _ hi j _ hij
    rw [hactive, decide_eq_true_iff] at hi
    rw [hid, hid] at hij
    have hlt : i < (playerDataList.map fun d => d.uniqueId).length := by
      rw [List.length_map]
      exact lt_of_lt_of_le hi hlen
    have hsome := List.getElem?_eq_getElem hlt
    have hne : (playerDataList.map fun d => d.uniqueId)[i] ≠ 0 := by
      rw [List.getElem_map]
      exact hpos _ (List.getElem_mem _)
    rw [hsome, Option.getD_some] at hij
    cases hj : (playerDataList.map fun d => d.uniqueId)[j]? with
    | none =>
        rw [hj] at hij
        exact absurd hij.symm hne
    | some id =>
        rw [hj, Option.getD_some] at hij
        exact ((List.getElem?_inj hlt hids).mp (by rw [hsome, hj, hij])).symm
  · simp only [hactive]
  · intro i _
    simp only [Game.newPlayer]
    split
    · exact hcash
    · simp only [Player.create]
      split_ifs <;> omega
  · intro i _
    simp only [Game.newPlayer]
    split <;> rfl

end PokerTH.HandRun
