import PokerTH.HandRun

namespace PokerTH.Hand

open PokerTH.Lists

def sumSets (h : Hand) : Int := (h.seatsList.map fun r => (h.players r).mySet).sum

def sumCash (h : Hand) : Int := (h.seatsList.map fun r => (h.players r).myCash).sum

def sumSpent (h : Hand) : Int :=
  (h.activePlayerList.map fun r => (h.players r).myRoundStartCash - (h.players r).myCash).sum

/-- The chips of a hand add up to `total` and no player holds a negative amount. -/
structure Money (total : Int) (h : Hand) : Prop where
  cash_nonneg : ∀ r ∈ h.seatsList, 0 ≤ (h.players r).myCash
  set_nonneg : ∀ r ∈ h.seatsList, 0 ≤ (h.players r).mySet
  spent : ∀ r ∈ h.seatsList, (h.players r).myActiveStatus →
    (h.players r).myCash + (h.players r).mySet ≤ (h.players r).myRoundStartCash
  sum : h.board.pot + h.sumSets + h.sumCash = total
  stakes : h.board.pot + h.sumSets = h.sumSpent

def Collected (h : Hand) : Prop := h.board.sets = h.sumSets

def Cleared (h : Hand) : Prop := ∀ r ∈ h.seatsList, (h.players r).mySet = 0

structure InOrder (total : Int) (h : Hand) : Prop where
  money : Money total h
  collected : Collected h
  cleared : h.currentRound = .postRiver → Cleared h

structure SameChips (h h' : Hand) : Prop where
  frame : h'.frame = h.frame
  cash : ∀ r, (h'.players r).myCash = (h.players r).myCash
  set : ∀ r, (h'.players r).mySet = (h.players r).mySet
  pot : h'.board.pot = h.board.pot
  sets : h'.board.sets = h.board.sets

variable {total : Int} {h h' h'' : Hand}

theorem SameChips.trans (hs : SameChips h h') (hs' : SameChips h' h'') : SameChips h h'' :=
  ⟨hs'.frame.trans hs.frame, fun r => (hs'.cash r).trans (hs.cash r), fun r => (hs'.set r).trans (hs.set r),
    hs'.pot.trans hs.pot, hs'.sets.trans hs.sets⟩

theorem sumSets_congr (hf : h'.frame = h.frame) (hset : ∀ r, (h'.players r).mySet = (h.players r).mySet) :
    h'.sumSets = h.sumSets := by
  simp only [sumSets, frame_seatsList hf, hset]

theorem sumCash_congr (hf : h'.frame = h.frame) (hcash : ∀ r, (h'.players r).myCash = (h.players r).myCash) :
    h'.sumCash = h.sumCash := by
  simp only [sumCash, frame_seatsList hf, hcash]

theorem sumSpent_congr (hf : h'.frame = h.frame)
    (hcash : ∀ r, (h'.players r).myCash = (h.players r).myCash) : h'.sumSpent = h.sumSpent := by
  simp only [sumSpent, frame_activePlayerList hf, frame_myRoundStartCash hf, hcash]

theorem Money.congr (hm : Money total h) (hs : SameChips h h') : Money total h' := by
  have hsets := sumSets_congr hs.frame hs.set
  have hcash := sumCash_congr hs.frame hs.cash
  have hspent := sumSpent_congr hs.frame hs.cash
  refine ⟨?_, ?_, ?_, ?_, ?_⟩
  · simpa only [frame_seatsList hs.frame, hs.cash] using hm.cash_nonneg
  · simpa only [frame_seatsList hs.frame, hs.set] using hm.set_nonneg
  · simpa only [frame_seatsList hs.frame, frame_myActiveStatus hs.frame, frame_myRoundStartCash hs.frame,
      hs.cash, hs.set] using hm.spent
  · rw [hs.pot, hsets, hcash, hm.sum]
  · rw [hs.pot, hsets, hspent, hm.stakes]

theorem Collected.congr (hc : Collected h) (hs : SameChips h h') : Collected h' := by
  rw [Collected, hs.sets, sumSets_congr hs.frame hs.set]
  exact hc

theorem Cleared.congr (hc : Cleared h) (hs : SameChips h h') : Cleared h' := by
  simpa only [Cleared, frame_seatsList hs.frame, hs.set] using hc

theorem InOrder.congr (ho : InOrder total h) (hs : SameChips h h')
    (hround : h'.currentRound = .postRiver → h.currentRound = .postRiver) : InOrder total h' :=
  ⟨ho.money.congr hs, ho.collected.congr hs, fun hr => (ho.cleared (hround hr)).congr hs⟩

theorem sameChips_setBeRo {b : BeRo} (hb : b.fixed = h.getCurrentBeRo.fixed) : SameChips h (h.setBeRo b) :=
  ⟨frame_setBeRo hb, fun _ => rfl, fun _ => rfl, rfl, rfl⟩

theorem sameChips_setCurrentRound (h : Hand) (s : GameState) : SameChips h (h.setCurrentRound s) :=
  ⟨rfl, fun _ => rfl, fun _ => rfl, rfl, rfl⟩

theorem sameChips_updatePlayer (r : Ref) {f : Player → Player} (hfixed : ∀ p, (f p).fixed = p.fixed)
    (hcash : ∀ p, (f p).myCash = p.myCash) (hset : ∀ p, (f p).mySet = p.mySet) :
    SameChips h (h.setPlayers (updatePlayer h.players r f)) := by
  refine ⟨frame_setPlayers (fixed_updatePlayer hfixed), fun q => ?_, fun q => ?_, rfl, rfl⟩
  all_goals
    by_cases hq : q = r
    · subst hq
      simp [updatePlayer, hcash, hset]
    · simp [updatePlayer, hq]

theorem sameChips_updateAll (l : List Ref) {f : Player → Player} (hfixed : ∀ p, (f p).fixed = p.fixed)
    (hcash : ∀ p, (f p).myCash = p.myCash) (hset : ∀ p, (f p).mySet = p.mySet) :
    SameChips h (h.setPlayers (updateAll h.players l f)) := by
  refine ⟨frame_setPlayers (fixed_updateAll hfixed), fun q => ?_, fun q => ?_, rfl, rfl⟩
  all_goals
    simp only [setPlayers_players, updateAll]
    split_ifs
    · simp only [hcash, hset]
    · rfl

theorem sameChips_setMyAction (h : Hand) (r : Ref) (a : PlayerAction) : SameChips h (h.setMyAction r a) :=
  sameChips_updatePlayer r (fun _ => rfl) (fun _ => rfl) fun _ => rfl

theorem sameChips_setIsSessionActive (h : Hand) (r : Ref) (b : Bool) :
    SameChips h (h.setIsSessionActive r b) :=
  sameChips_updatePlayer r (fun _ => rfl) (fun _ => rfl) fun _ => rfl

theorem sameChips_clearActions (h : Hand) : SameChips h h.clearActions :=
  sameChips_updateAll _ (fun _ => rfl) (fun _ => rfl) fun _ => rfl

theorem sameChips_refresh (h : Hand) : SameChips h h.refreshRunningPlayerList :=
  ⟨frame_refresh h, fun r => by rw [refresh_players], fun r => by rw [refresh_players],
    by rw [refresh_board], by rw [refresh_board]⟩

theorem collectSets_collected (h : Hand) : Collected h.collectSets := rfl

theorem Money.collectSets (hm : Money total h) : Money total h.collectSets :=
  ⟨hm.cash_nonneg, hm.set_nonneg, hm.spent, hm.sum, hm.stakes⟩

theorem collectPot_mySet (h : Hand) (r : Ref) : (h.collectPot.players r).mySet =
    if r ∈ h.seatsList then 0 else (h.players r).mySet := by
  simp only [collectPot, Board.collectPot]
  split_ifs <;> rfl

theorem collectPot_myCash (h : Hand) (r : Ref) :
    (h.collectPot.players r).myCash = (h.players r).myCash := by
  simp only [collectPot, Board.collectPot]
  split_ifs <;> rfl

theorem collectPot_cleared (h : Hand) : Cleared h.collectPot := by
  intro r hr
  rw [frame_seatsList (frame_collectPot h)] at hr
  rw [collectPot_mySet, if_pos hr]

theorem cleared_sumSets (hc : Cleared h) : h.sumSets = 0 := sum_map_zero hc

theorem Money.collectPot (hm : Money total h) (hc : Collected h) : Money total h.collectPot := by
  have hf := frame_collectPot h
  have hzero := cleared_sumSets (collectPot_cleared h)
  have hcash := sumCash_congr hf (collectPot_myCash h)
  have hspent := sumSpent_congr hf (collectPot_myCash h)
  have hpot : h.collectPot.board.pot = h.board.pot + h.sumSets := by
    rw [← hc]
    rfl
  refine ⟨?_, ?_, ?_, ?_, ?_⟩
  · simpa only [frame_seatsList hf, collectPot_myCash] using hm.cash_nonneg
  · intro r hr
    rw [collectPot_cleared h r hr]
  · intro r hr hactive
    rw [frame_seatsList hf] at hr
    rw [frame_myActiveStatus hf] at hactive
    have hspent := hm.spent r hr hactive
    have hset := hm.set_nonneg r hr
    rw [collectPot_myCash, collectPot_mySet, frame_myRoundStartCash hf, if_pos hr]
    omega
  · rw [hpot, hzero, hcash, add_zero, hm.sum]
  · rw [hpot, hzero, hspent, add_zero, hm.stakes]

theorem InOrder.collectPot (hm : Money total h) (hc : Collected h) (s : GameState) :
    InOrder total (h.collectPot.setCurrentRound s) := by
  have hsame := sameChips_setCurrentRound h.collectPot s
  have hcollected : Collected h.collectPot := by
    rw [Collected, cleared_sumSets (collectPot_cleared h)]
    rfl
  exact ⟨(hm.collectPot hc).congr hsame, hcollected.congr hsame,
    fun _ => (collectPot_cleared h).congr hsame⟩

theorem InOrder.switchRounds (ho : InOrder total h) : InOrder total h.switchRounds := by
  refine switchRounds_keeps ?_ ?_ ?_ ?_ ho
  · exact fun k hk => hk.congr ⟨rfl, fun _ => rfl, fun _ => rfl, rfl, rfl⟩ fun hr => hr
  · exact fun k s hk => InOrder.collectPot hk.money hk.collected s
  · exact fun k s hk => hk.congr ⟨rfl, fun _ => rfl, fun _ => rfl, rfl, rfl⟩ fun hr => hr
  · exact fun k hk => hk.congr (sameChips_refresh k) fun hr => by rwa [refresh_currentRound] at hr

theorem Cleared.switchRounds (hc : Cleared h) : Cleared h.switchRounds := by
  refine switchRounds_keeps ?_ ?_ ?_ ?_ hc
  · exact fun k hk => hk.congr ⟨rfl, fun _ => rfl, fun _ => rfl, rfl, rfl⟩
  · exact fun k s _ => (collectPot_cleared k).congr (sameChips_setCurrentRound _ s)
  · exact fun k s hk => hk.congr ⟨rfl, fun _ => rfl, fun _ => rfl, rfl, rfl⟩
  · exact fun k hk => hk.congr (sameChips_refresh k)

theorem collectRound_inOrder (hm : Money total h) : InOrder total h.clearActions.collectSets.collectPot ∧
    Cleared h.clearActions.collectSets.collectPot := by
  have hm' : Money total h.clearActions.collectSets := (hm.congr (sameChips_clearActions h)).collectSets
  have ho := InOrder.collectPot hm' (collectSets_collected _) h.currentRound
  exact ⟨ho, collectPot_cleared _⟩

theorem InOrder.closeRound (ho : InOrder total h) : InOrder total h.closeRound := by
  obtain ⟨ho', hc'⟩ := collectRound_inOrder ho.money
  have hs := ho'.switchRounds
  simp only [Hand.closeRound]
  split_ifs
  · have hsame := sameChips_setCurrentRound h.clearActions.collectSets.collectPot.switchRounds
      h.getCurrentBeRo.myBeRoID.next
    exact ⟨hs.money.congr hsame, hs.collected.congr hsame, fun _ => hc'.switchRounds.congr hsame⟩
  · exact hs

theorem InOrder.closePreflop (ho : InOrder total h) : InOrder total h.closePreflop := by
  have hm := ho.money.congr (sameChips_setCurrentRound h .flop)
  exact (collectRound_inOrder hm).1.switchRounds

theorem InOrder.setBeRo (ho : InOrder total h) {b : BeRo} (hb : b.fixed = h.getCurrentBeRo.fixed) :
    InOrder total (h.setBeRo b) :=
  ho.congr (sameChips_setBeRo hb) fun hr => hr

theorem InOrder.run (ho : InOrder total h) (hrun : h.run = .ok h') : InOrder total h' :=
  run_keeps (fun _ _ hb hk => hk.setBeRo (BeRo.fixed_of_limits hb.limits)) (fun _ hk => hk.closeRound) (fun _ hk => hk.closePreflop) ho hrun

theorem InOrder.advance (ho : InOrder total h) (hrun : h.advance = .ok h') : InOrder total h' := by
  simp only [Hand.advance] at hrun
  split_ifs at hrun
  · cases hrun
    exact ho.switchRounds
  · exact ho.switchRounds.run hrun

end PokerTH.Hand
