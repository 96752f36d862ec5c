import PokerTH.Chips
import PokerTH.EngineLoop

namespace PokerTH.Hand

open PokerTH.Lists Board

variable {maxPlayers : Nat} {total : Int} {h h' k : Hand} {r : Ref} {action : PlayerAction} {bet : Int}

structure Seated (maxPlayers : Nat) (h : Hand) : Prop where
  ids : DistinctIDs h.seatsList h.players
  seats : h.seatsList.length ≤ maxPlayers
  active : h.activePlayerList = h.seatsList.filter fun r => (h.players r).myActiveStatus
  dealer : ∀ s, ∃ r ∈ h.seatsList, (h.players r).myUniqueID = (h.myBeRo s).dealerPosition
  value : ∀ r ∈ h.activePlayerList, 0 ≤ (h.players r).myCardsValueInt

theorem frame_dealerPosition (hf : h'.frame = h.frame) (s : GameState) :
    (h'.myBeRo s).dealerPosition = (h.myBeRo s).dealerPosition :=
  congrArg (fun h => (h.myBeRo s).dealerPosition) hf

theorem Seated.congr (hs : Seated maxPlayers h) (hf : h'.frame = h.frame) : Seated maxPlayers h' := by
  refine ⟨⟨?_, ?_⟩, ?_, ?_, ?_, ?_⟩
  · simpa only [frame_seatsList hf] using hs.ids.nodup
  · simpa only [frame_seatsList hf, frame_myUniqueID hf, frame_myActiveStatus hf] using hs.ids.eq_of_id
  · simpa only [frame_seatsList hf] using hs.seats
  · simpa only [frame_activePlayerList hf, frame_seatsList hf, frame_myActiveStatus hf] using hs.active
  · simpa only [frame_seatsList hf, frame_myUniqueID hf, frame_dealerPosition hf] using hs.dealer
  · simpa only [frame_activePlayerList hf, frame_myCardsValueInt hf] using hs.value

theorem Seated.mem_active (hs : Seated maxPlayers h) :
    r ∈ h.activePlayerList ↔ r ∈ h.seatsList ∧ (h.players r).myActiveStatus := by
  rw [hs.active, List.mem_filter]

theorem Seated.active_nodup (hs : Seated maxPlayers h) : h.activePlayerList.Nodup := by
  rw [hs.active]
  exact hs.ids.nodup.filter _

theorem bettor_myCash {p : Player} (hp : 0 ≤ p.myCash) :
    (bettor p action bet).myCash = p.myCash - Player.clampToCash p.myCash bet :=
  Player.setMySet_myCash (p := p.setMyAction action) hp bet

theorem Money.perform (hm : Money total h) (hs : Seated maxPlayers h) (hr : r ∈ h.activePlayerList)
    (hact : ¬ Passive action) : Money total (h.performPlayerAction r action bet) := by
  have hf := frame_performPlayerAction h r action bet
  have hp := perform_players_active h r action bet hact
  have hseat := (hs.mem_active.mp hr).1
  have hcash0 := hm.cash_nonneg r hseat
  have hc0 := Player.clampToCash_nonneg (h.players r).myCash bet
  have hc1 := Player.clampToCash_le hcash0 bet
  have hself : (h.performPlayerAction r action bet).players r = bettor (h.players r) action bet := by
    rw [hp]
    simp [updatePlayer]
  have hother (q : Ref) (hq : q ≠ r) : (h.performPlayerAction r action bet).players q = h.players q := by
    rw [hp]
    simp [updatePlayer, hq]
  have hsets : (h.performPlayerAction r action bet).sumSets =
      h.sumSets + Player.clampToCash (h.players r).myCash bet := by
    rw [sumSets, frame_seatsList hf, sum_map_change hs.ids.nodup hseat
      fun q hq => congrArg Player.mySet (hother q hq), hself, bettor_mySet, sumSets]
    omega
  have hcash : (h.performPlayerAction r action bet).sumCash =
      h.sumCash - Player.clampToCash (h.players r).myCash bet := by
    rw [sumCash, frame_seatsList hf, sum_map_change hs.ids.nodup hseat
      fun q hq => congrArg Player.myCash (hother q hq), hself, bettor_myCash hcash0, sumCash]
    omega
  have hspent : (h.performPlayerAction r action bet).sumSpent =
      h.sumSpent + Player.clampToCash (h.players r).myCash bet := by
    rw [sumSpent, frame_activePlayerList hf, sum_map_change hs.active_nodup hr
      fun q hq => by rw [hother q hq], hself, bettor_myCash hcash0, sumSpent]
    have hstart : (bettor (h.players r) action bet).myRoundStartCash = (h.players r).myRoundStartCash := rfl
    omega
  refine ⟨?_, ?_, ?_, ?_, ?_⟩
  · intro q hq
    rw [frame_seatsList hf] at hq
    by_cases hqr : q = r
    · subst hqr
      rw [hself, bettor_myCash hcash0]
      omega
    · rw [hother q hqr]
      exact hm.cash_nonneg q hq
  · intro q hq
    rw [frame_seatsList hf] at hq
    by_cases hqr : q = r
    · subst hqr
      rw [hself, bettor_mySet]
      have hset0 := hm.set_nonneg q hq
      omega
    · rw [hother q hqr]
      exact hm.set_nonneg q hq
  · intro q hq hactive
    rw [frame_seatsList hf] at hq
    rw [frame_myActiveStatus hf] at hactive
    rw [frame_myRoundStartCash hf]
    have hspent := hm.spent q hq hactive
    by_cases hqr : q = r
    · subst hqr
      rw [hself, bettor_myCash hcash0, bettor_mySet]
      omega
    · rw [hother q hqr]
      exact hspent
  · rw [perform_pot, hsets, hcash]
    have hsum := hm.sum
    omega
  · rw [perform_pot, hsets, hspent]
    have hstakes := hm.stakes
    omega

theorem InOrder.perform (ho : InOrder total h) (hs : Seated maxPlayers h) (hr : r ∈ h.activePlayerList)
    (hopen : h.currentRound ≠ .postRiver) : InOrder total (h.performPlayerAction r action bet) := by
  have hround : (h.performPlayerAction r action bet).currentRound ≠ .postRiver := by
    rwa [perform_currentRound]
  by_cases hact : Passive action
  · rw [performPlayerAction_passive h r action bet hact]
    exact ho.congr (sameChips_setMyAction h r action) fun hp => hp
  · refine ⟨ho.money.perform hs hr hact, ?_, fun hp => absurd hp hround⟩
    rw [performPlayerAction_active h r action bet hact]
    exact collectSets_collected _

theorem perform_nonFoldPlayerCounter (hs : Seated maxPlayers h) (r : Ref) (action : PlayerAction) (bet : Int) :
    h.nonFoldPlayerCounter ≤ (h.performPlayerAction r action bet).nonFoldPlayerCounter + 1 := by
  simp only [nonFoldPlayerCounter, perform_activePlayerList]
  exact countP_change hs.active_nodup fun q hq => by rw [perform_players_of_ne h r action bet hq]

theorem updateAll_none_ne_fold {l : List Ref} {q : Ref} (hq : (h.players q).myAction ≠ .fold) :
    (updateAll h.players l (fun p => p.setMyAction .none) q).myAction ≠ .fold := by
  simp only [updateAll]
  split_ifs
  · simp [Player.setMyAction]
  · exact hq

theorem advance_nonFoldPlayerCounter {n : Nat} (hn : n ≤ h.nonFoldPlayerCounter)
    (hrun : h.advance = .ok k) : n ≤ k.nonFoldPlayerCounter := by
  refine advance_keeps (P := fun k => n ≤ k.nonFoldPlayerCounter) ?_ ?_ ?_ ?_ ?_ ?_ ?_ ?_ hn hrun
  · exact fun _ _ _ hk => hk
  · intro k hk
    have hactive := frame_activePlayerList (frame_refresh k)
    simpa only [nonFoldPlayerCounter, hactive, refresh_players] using hk
  · exact fun _ hk => hk
  · intro k hk
    have haction (r : Ref) : (k.collectPot.players r).myAction = (k.players r).myAction := by
      simp only [collectPot, Board.collectPot]
      split_ifs <;> rfl
    simpa only [nonFoldPlayerCounter, frame_activePlayerList (frame_collectPot k), haction] using hk
  · exact fun _ _ hk => hk
  · exact fun _ _ hk => hk
  · intro k hk
    refine le_trans hk (List.countP_mono_left fun q _ hq => ?_)
    simp only [bne_iff_ne] at hq ⊢
    exact updateAll_none_ne_fold hq
  · exact fun _ hk => hk

theorem advance_of_last (hlast : h.nonFoldPlayerCounter = 1) (hrun : h.advance = .ok k) :
    k.currentRound = .postRiver := by
  have hcount : h.refreshRunningPlayerList.nonFoldPlayerCounter = 1 := by
    rw [← hlast]
    simp only [nonFoldPlayerCounter, frame_activePlayerList (frame_refresh h), refresh_players]
  have hswitch : h.switchRounds.currentRound = .postRiver := by
    have hdist : h.refreshRunningPlayerList.distributeOrDetect =
        h.refreshRunningPlayerList.collectPot.setCurrentRound .postRiver := by
      simp only [distributeOrDetect, hcount, if_true]
    have hadvance : (h.refreshRunningPlayerList.distributeOrDetect.advanceAllIn).currentRound = .postRiver := by
      rw [hdist, advanceAllIn]
      split_ifs <;> rfl
    rw [switchRounds, noteRound, if_neg (by simpa using hadvance), hadvance]
  simp only [advance] at hrun
  split_ifs at hrun
  · cases hrun
    exact hswitch
  · simp only [run, hswitch] at hrun
    cases hrun
    exact hswitch

theorem determinePlayerNeedToShowCards_pot (players : Players) (l : List Ref) (b : Board) :
    (determinePlayerNeedToShowCards players l b).pot = b.pot := by
  simp only [determinePlayerNeedToShowCards]
  split_ifs
  · rfl
  · split <;> rfl

theorem sumCash_nonneg (hm : Money total h) : 0 ≤ h.sumCash := sum_map_nonneg hm.cash_nonneg

/-- Once the sets are collected the pot is what `distributePot` expects it to be. -/
theorem pot_eq_stakes (hm : Money total h) (hs : Seated maxPlayers h) (hc : Cleared h) :
    h.board.pot = stakes h.seatsList h.players := by
  have hspent := hm.stakes
  rw [cleared_sumSets hc, add_zero, sumSpent, hs.active, sum_map_filter] at hspent
  rw [hspent, stakes]
  apply sum_map_congr
  intro r hr
  by_cases hactive : (h.players r).myActiveStatus
  · have hle := hm.spent r hr hactive
    have hzero := hc r hr
    simp only [hactive, if_true, stake]
    omega
  · simp [stake, hactive]

theorem exists_contender (hs : Seated maxPlayers h) (hn : 1 ≤ h.nonFoldPlayerCounter) :
    ∃ r ∈ h.seatsList, contender (h.players r) ∧ 0 ≤ (h.players r).myCardsValueInt := by
  obtain ⟨r, hr, hfold⟩ := List.countP_pos_iff.mp hn
  obtain ⟨hseat, hactive⟩ := hs.mem_active.mp hr
  exact ⟨r, hseat, by simp only [contender, hactive, hfold, Bool.and_self], hs.value r hr⟩

structure PaidOut (h h' : Hand) : Prop where
  paid : Paid h.seatsList h.board.pot (resetMoneyWon h.players h.seatsList) h'.players
  pot : h'.board.pot = 0
  rest : h' = { h with players := h'.players, board := h'.board }

theorem postRiverRun_spec (hs : Seated maxPlayers h) (ho : InOrder total h) (htotal : total < 2 ^ 31)
    (hround : h.currentRound = .postRiver) (hn : 1 ≤ h.nonFoldPlayerCounter) :
    ∃ h', h.postRiverRun maxPlayers = .ok h' ∧ PaidOut h h' := by
  have hc := ho.cleared hround
  have hshow : Showdown h.seatsList h.getCurrentBeRo.dealerPosition h.players :=
    ⟨hs.ids, hs.dealer _, exists_contender hs hn⟩
  have hpot := determinePlayerNeedToShowCards_pot h.players h.activePlayerList h.board
  have hstakes := pot_eq_stakes ho.money hs hc
  have hint : h.board.pot < 2 ^ 31 := by
    have hsum := ho.money.sum
    have hcash := sumCash_nonneg ho.money
    rw [cleared_sumSets hc] at hsum
    omega
  obtain ⟨players', winners', hrun, hpaid⟩ := distributePot_spec hs.seats hshow
    (hpot.trans hstakes) (by rwa [hpot])
  rw [hpot] at hpaid
  refine ⟨_, by rw [postRiverRun, hrun, Except.map], hpaid, rfl, rfl⟩

theorem PaidOut.mySet (hp : PaidOut h h') (r : Ref) : (h'.players r).mySet = (h.players r).mySet := by
  obtain ⟨won, _, _, _, hw⟩ := hp.paid
  rw [hw]
  simp only [gain, resetMoneyWon]
  split_ifs <;> rfl

theorem PaidOut.myCash (hp : PaidOut h h') (r : Ref) : (h.players r).myCash ≤ (h'.players r).myCash := by
  obtain ⟨won, hnonneg, _, _, hw⟩ := hp.paid
  have h0 := hnonneg r
  rw [hw]
  simp only [gain, resetMoneyWon]
  split_ifs <;> simpa using h0

theorem PaidOut.frame (hp : PaidOut h h') : h'.frame = h.frame := by
  have hfixed (r : Ref) : (h'.players r).fixed = (h.players r).fixed := by
    obtain ⟨won, _, _, _, hw⟩ := hp.paid
    rw [hw]
    simp only [gain, resetMoneyWon]
    split_ifs <;> rfl
  rw [hp.rest]
  exact frame_setPlayers hfixed

theorem PaidOut.sumCash (hp : PaidOut h h') : h'.sumCash = h.sumCash + h.board.pot := by
  have hreset : (h.seatsList.map fun r => (resetMoneyWon h.players h.seatsList r).myCash).sum = h.sumCash := by
    apply sum_map_congr
    intro r hr
    simp [resetMoneyWon, hr]
  rw [Hand.sumCash, frame_seatsList hp.frame, hp.paid.sum_myCash, hreset]

end PokerTH.Hand
