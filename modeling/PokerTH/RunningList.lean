import PokerTH.WholeHand

namespace PokerTH.Hand

open HandRun

variable {maxPlayers : Nat} {t : Table} {h h' k : Hand} {r : Ref}

/-- The running players are active ones, and the others have folded or are all in. -/
structure Labelled (h : Hand) : Prop where
  sub : h.runningPlayerList.Sublist h.activePlayerList
  out : ∀ r ∈ h.activePlayerList, r ∉ h.runningPlayerList → leavesRunning (h.players r)

structure Refreshed (h : Hand) : Prop extends Labelled h where
  stays : ∀ r ∈ h.runningPlayerList, leavesRunning (h.players r) = false

def AllInLabels (h : Hand) : Prop :=
  ∀ r ∈ h.activePlayerList, (h.players r).myCash = 0 → (h.players r).myAction = .allIn

structure SameLabels (h h' : Hand) : Prop where
  active : h'.activePlayerList = h.activePlayerList
  running : h'.runningPlayerList = h.runningPlayerList
  action : ∀ r, (h'.players r).myAction = (h.players r).myAction
  cash : ∀ r, (h'.players r).myCash = (h.players r).myCash

theorem SameLabels.leavesRunning (hs : SameLabels h h') (r : Ref) :
    leavesRunning (h'.players r) = leavesRunning (h.players r) := by
  simp only [Hand.leavesRunning, hs.action]

theorem Labelled.congr (hl : Labelled h) (hs : SameLabels h h') : Labelled h' := by
  refine ⟨?_, ?_⟩
  · rw [hs.active, hs.running]
    exact hl.sub
  · intro r hr hout
    rw [hs.active] at hr
    rw [hs.running] at hout
    rw [hs.leavesRunning]
    exact hl.out r hr hout

theorem Refreshed.congr (hf : Refreshed h) (hs : SameLabels h h') : Refreshed h' := by
  refine ⟨hf.toLabelled.congr hs, fun r hr => ?_⟩
  rw [hs.running] at hr
  rw [hs.leavesRunning]
  exact hf.stays r hr

theorem AllInLabels.congr (ha : AllInLabels h) (hs : SameLabels h h') : AllInLabels h' := by
  intro r hr h0
  rw [hs.active] at hr
  rw [hs.cash] at h0
  rw [hs.action]
  exact ha r hr h0

theorem sameLabels_rfl (hp : h'.players = h.players) (ha : h'.activePlayerList = h.activePlayerList)
    (hr : h'.runningPlayerList = h.runningPlayerList) : SameLabels h h' :=
  ⟨ha, hr, fun r => by rw [hp], fun r => by rw [hp]⟩

theorem collectPot_myAction (h : Hand) (r : Ref) :
    (h.collectPot.players r).myAction = (h.players r).myAction := by
  simp only [collectPot, Board.collectPot]
  split_ifs <;> rfl

theorem sameLabels_collectPot (h : Hand) : SameLabels h h.collectPot :=
  ⟨frame_activePlayerList (frame_collectPot h), rfl, collectPot_myAction h, collectPot_myCash h⟩

theorem Labelled.refresh (hl : Labelled h) : Refreshed h.refreshRunningPlayerList := by
  have hactive := frame_activePlayerList (frame_refresh h)
  have hrunning := refresh_runningPlayerList h
  refine ⟨⟨?_, ?_⟩, ?_⟩
  · rw [hactive, hrunning]
    exact List.filter_sublist.trans hl.sub
  · intro r hr hout
    rw [hactive] at hr
    rw [hrunning, List.mem_filter] at hout
    rw [refresh_players]
    by_cases hrun : r ∈ h.runningPlayerList
    · by_contra hstay
      exact hout ⟨hrun, by simpa using hstay⟩
    · exact hl.out r hr hrun
  · intro r hr
    rw [hrunning, List.mem_filter] at hr
    rw [refresh_players]
    simpa using hr.2

theorem allInLabels_refresh (ha : AllInLabels h) : AllInLabels h.refreshRunningPlayerList := by
  intro r hr h0
  rw [frame_activePlayerList (frame_refresh h)] at hr
  rw [refresh_players] at h0 ⊢
  exact ha r hr h0

theorem clearActions_running (h : Hand) (hr : r ∈ h.runningPlayerList) :
    (h.clearActions.players r).myAction = .none := by
  simp [clearActions, updateAll, hr, Player.setMyAction]

theorem clearActions_idle (h : Hand) (hr : r ∉ h.runningPlayerList) : h.clearActions.players r = h.players r := by
  simp [clearActions, updateAll, hr]

theorem Refreshed.clearActions (hf : Refreshed h) : Refreshed h.clearActions := by
  refine ⟨⟨hf.sub, fun r hr hout => ?_⟩, fun r hr => ?_⟩
  · rw [clearActions_idle h hout]
    exact hf.out r hr hout
  · simp [leavesRunning, clearActions_running h hr]

/-- A running player has chips, so that it is safe to forget his action. -/
theorem allInLabels_clearActions (hf : Refreshed h) (ha : AllInLabels h) : AllInLabels h.clearActions := by
  intro r hr h0
  by_cases hrun : r ∈ h.runningPlayerList
  · have hcash : (h.clearActions.players r).myCash = (h.players r).myCash :=
      (sameChips_clearActions h).cash r
    rw [hcash] at h0
    have hstay := hf.stays r hrun
    simp [leavesRunning, ha r hr h0] at hstay
  · rw [clearActions_idle h hrun] at h0 ⊢
    exact ha r hr h0

theorem Refreshed.cash_ne_zero (hf : Refreshed h) (ha : AllInLabels h) (hr : r ∈ h.runningPlayerList) :
    (h.players r).myCash ≠ 0 := by
  intro h0
  have hstay := hf.stays r hr
  simp [leavesRunning, ha r (hf.sub.subset hr) h0] at hstay

theorem Labelled.switchRounds (hl : Labelled h) : Refreshed h.switchRounds :=
  switchRounds_of_refresh (P := Refreshed) (fun _ hk => hk.congr (sameLabels_rfl rfl rfl rfl))
    (fun _ _ hk => (hk.congr (sameLabels_collectPot _)).congr (sameLabels_rfl rfl rfl rfl))
    (fun _ _ hk => hk.congr (sameLabels_rfl rfl rfl rfl)) hl.refresh

theorem AllInLabels.switchRounds (ha : AllInLabels h) : AllInLabels h.switchRounds :=
  switchRounds_keeps (P := AllInLabels) (fun _ hk => hk.congr (sameLabels_rfl rfl rfl rfl))
    (fun _ _ hk => (hk.congr (sameLabels_collectPot _)).congr (sameLabels_rfl rfl rfl rfl))
    (fun _ _ hk => hk.congr (sameLabels_rfl rfl rfl rfl)) (fun _ hk => allInLabels_refresh hk) ha

theorem Labelled.advance (hl : Labelled h) (hrun : h.advance = .ok k) : Refreshed k :=
  advance_of_refresh (P := Refreshed) (fun _ _ _ hk => hk.congr (sameLabels_rfl rfl rfl rfl))
    (fun _ hk => hk.toLabelled.refresh) (fun _ hk => hk.congr (sameLabels_rfl rfl rfl rfl))
    (fun _ hk => hk.congr (sameLabels_collectPot _)) (fun _ _ hk => hk.congr (sameLabels_rfl rfl rfl rfl))
    (fun _ _ hk => hk.congr (sameLabels_rfl rfl rfl rfl)) (fun _ hk => hk.clearActions)
    (fun _ hk => hk.congr (sameLabels_rfl rfl rfl rfl)) hl.refresh hrun

theorem AllInLabels.advance (ha : AllInLabels h) (hl : Labelled h) (hrun : h.advance = .ok k) : AllInLabels k := by
  have hboth : Refreshed k ∧ AllInLabels k := by
    have hsame {h h' : Hand} (hh : Refreshed h ∧ AllInLabels h) (hs : SameLabels h h') :
        Refreshed h' ∧ AllInLabels h' := ⟨hh.1.congr hs, hh.2.congr hs⟩
    refine advance_of_refresh (P := fun h => Refreshed h ∧ AllInLabels h)
      (fun _ _ _ hk => hsame hk (sameLabels_rfl rfl rfl rfl)) ?_
      (fun _ hk => hsame hk (sameLabels_rfl rfl rfl rfl)) (fun _ hk => hsame hk (sameLabels_collectPot _))
      (fun _ _ hk => hsame hk (sameLabels_rfl rfl rfl rfl)) (fun _ _ hk => hsame hk (sameLabels_rfl rfl rfl rfl))
      ?_ (fun _ hk => hsame hk (sameLabels_rfl rfl rfl rfl)) ⟨hl.refresh, allInLabels_refresh ha⟩ hrun
    · exact fun _ hk => ⟨hk.1.toLabelled.refresh, allInLabels_refresh hk.2⟩
    · exact fun _ hk => ⟨hk.1.clearActions, allInLabels_clearActions hk.1 hk.2⟩
  exact hboth.2

end PokerTH.Hand
