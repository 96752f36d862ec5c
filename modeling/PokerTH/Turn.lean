import PokerTH.RunningList

namespace PokerTH.Hand

open HandRun

variable {maxPlayers : Nat} {t : Table} {h h' k : Hand} {r : Ref}

def GuiSkipped (h : Hand) : Prop :=
  ∀ s, s ≠ .preflop → s ≠ .postRiver → (h.myBeRo s).firstRunGui = false

structure Rounds (h : Hand) : Prop where
  id : ∀ s, (h.myBeRo s).myBeRoID = s
  smallBlind : ∀ s, ∃ r ∈ h.activePlayerList, h.uniqueID r = (h.myBeRo s).smallBlindPositionId
  blinds : h.activePlayerList.length ≤ 2 → ∀ s, ∀ r ∈ h.activePlayerList,
    h.uniqueID r = (h.myBeRo s).bigBlindPositionId ∨ h.uniqueID r = (h.myBeRo s).smallBlindPositionId
  gui : GuiSkipped h

theorem Rounds.congr (hr : Rounds h) (hf : h'.frame = h.frame) (hgui : GuiSkipped h') : Rounds h' := by
  have hfield {β : Type} (f : BeRo → β) (hfix : ∀ b, f b.fixed = f b) (s : GameState) :
      f (h'.myBeRo s) = f (h.myBeRo s) := by
    rw [← hfix, frame_beRo hf, hfix]
  have hid := hfield (fun b => b.myBeRoID) fun _ => rfl
  have hsmall := hfield (fun b => b.smallBlindPositionId) fun _ => rfl
  have hbig := hfield (fun b => b.bigBlindPositionId) fun _ => rfl
  have hunique (r : Ref) : h'.uniqueID r = h.uniqueID r := frame_myUniqueID hf r
  refine ⟨?_, ?_, ?_, hgui⟩
  · simpa only [hid] using hr.id
  · simpa only [frame_activePlayerList hf, hunique, hsmall] using hr.smallBlind
  · simpa only [frame_activePlayerList hf, hunique, hsmall, hbig] using hr.blinds

theorem guiSkipped_setBeRo {b : BeRo} (hb : b.firstRunGui = true → h.getCurrentBeRo.firstRunGui = true)
    (hg : GuiSkipped h) : GuiSkipped (h.setBeRo b) := by
  intro s hpre hpost
  have hold := hg s hpre hpost
  by_cases hs : s = h.currentRound
  · subst hs
    rw [setBeRo_myBeRo, Function.update_self]
    by_contra hgui
    rw [getCurrentBeRo, hold] at hb
    exact absurd (hb (by simpa using hgui)) (by decide)
  · rw [setBeRo_myBeRo, Function.update_of_ne hs]
    exact hold

theorem guiSkipped_refresh (hg : GuiSkipped h) : GuiSkipped h.refreshRunningPlayerList := by
  intro s hpre hpost
  rw [← hg s hpre hpost]
  refine eraseRunning_preserves (fun h => (h.myBeRo s).firstRunGui) (fun k id => ?_) (fun _ _ => rfl) h _ _
  by_cases hs : s = k.currentRound
  · subst hs
    simp [setCurrentPlayersTurnId, getCurrentBeRo]
  · simp [setCurrentPlayersTurnId, hs]

theorem guiSkipped_advance (hg : GuiSkipped h) (hrun : h.advance = .ok k) : GuiSkipped k :=
  advance_keeps (P := GuiSkipped) (fun _ _ hb hk => guiSkipped_setBeRo hb.gui hk)
    (fun _ hk => guiSkipped_refresh hk) (fun _ hk => hk) (fun _ hk => hk) (fun _ _ hk => hk) (fun _ _ hk => hk)
    (fun _ hk => hk) (fun _ hk => hk) hg hrun

theorem Rounds.advance (hr : Rounds h) (hrun : h.advance = .ok k) : Rounds k :=
  hr.congr (frame_advance hrun) (guiSkipped_advance hr.gui hrun)

theorem guiSkipped_perform (hg : GuiSkipped h) (r : Ref) (action : PlayerAction) (bet : Int) :
    GuiSkipped (h.performPlayerAction r action bet) := by
  intro s hpre hpost
  rw [← hg s hpre hpost]
  refine performPlayerAction_preserves h r action bet (fun h => (h.myBeRo s).firstRunGui) (fun _ _ => rfl)
    (fun k v => ?_) (fun _ _ => rfl) (fun k v => ?_) fun _ _ => rfl
  all_goals
    by_cases hs : s = k.currentRound
    · subst hs
      simp [setMinimumRaise, setHighestSet, getCurrentBeRo]
    · simp [setMinimumRaise, setHighestSet, hs]

theorem Rounds.perform (hr : Rounds h) (r : Ref) (action : PlayerAction) (bet : Int) :
    Rounds (h.performPlayerAction r action bet) :=
  hr.congr (frame_performPlayerAction h r action bet) (guiSkipped_perform hr.gui r action bet)

theorem getRunningPlayerIt_some {id : Nat} (hit : h.getRunningPlayerIt id = some r) :
    r ∈ h.runningPlayerList ∧ h.uniqueID r = id := findPlayer_some hit

theorem getRunningPlayerIt_ne_none {id : Nat} (hr : r ∈ h.runningPlayerList) (hid : h.uniqueID r = id) :
    h.getRunningPlayerIt id ≠ none := by
  intro hnone
  simp only [getRunningPlayerIt, findPlayer, List.find?_eq_none, beq_iff_eq] at hnone
  exact hnone r hr hid

def TurnRuns (h : Hand) : Prop := ∃ q ∈ h.runningPlayerList, h.uniqueID q = h.getCurrentBeRo.currentPlayersTurnId

theorem turnToNext_turnRuns (hrun : h.turnToNext = .ok k) : TurnRuns k ∧ k.currentRound = h.currentRound := by
  obtain ⟨it, hit, rfl⟩ := turnToNext_cases hrun
  have hmem := Cyclic.next_mem (getRunningPlayerIt_some hit).1
  refine ⟨⟨_, hmem, ?_⟩, rfl⟩
  simp [setCurrentPlayersTurnId]
  rfl

theorem TurnRuns.endFirstRound (ht : TurnRuns h) : TurnRuns h.endFirstRound := by
  obtain ⟨q, hq, hid⟩ := ht
  refine ⟨q, ?_, ?_⟩
  · simp only [Hand.endFirstRound]
    split_ifs
    · exact hq
    · exact hq
  · simp only [Hand.endFirstRound]
    split_ifs
    · rw [setFirstRound, getCurrentBeRo_setBeRo]
      exact hid
    · exact hid

theorem restartTurn_currentRound (hrun : h.restartTurn = .ok k) : k.currentRound = h.currentRound := by
  rcases restartTurn_cases hrun with ⟨_, _, rfl⟩ | ⟨_, _, _, _, rfl⟩ | ⟨_, rfl⟩ <;> rfl

theorem switchRounds_currentRound (h : Hand) : h.switchRounds.currentRound = h.currentRound ∨
    h.switchRounds.currentRound = .postRiver ∨
    h.switchRounds.currentRound = h.currentRound.next ∧ h.switchRounds.allInCondition = true := by
  have hnote (k : Hand) : k.noteRound.currentRound = k.currentRound ∧
      k.noteRound.allInCondition = k.allInCondition := by
    simp only [noteRound]
    split_ifs <;> exact ⟨rfl, rfl⟩
  have hdist : h.refreshRunningPlayerList.distributeOrDetect.currentRound = h.currentRound ∨
      h.refreshRunningPlayerList.distributeOrDetect.currentRound = .postRiver := by
    simp only [distributeOrDetect]
    split_ifs
    · exact .inr rfl
    · exact .inl (refresh_currentRound h)
    · exact .inl (refresh_currentRound h)
  rw [switchRounds, (hnote _).1, (hnote _).2, advanceAllIn]
  split_ifs with hall
  · rcases hdist with hd | hd
    · exact .inr (.inr ⟨congrArg GameState.next hd, hall.1⟩)
    · exact .inr (.inl (congrArg GameState.next hd))
  · rcases hdist with hd | hd
    · exact .inl hd
    · exact .inr (.inl hd)

theorem closeRound_currentRound (hid : h.getCurrentBeRo.myBeRoID = h.currentRound)
    (hopen : h.currentRound ≠ .postRiver) : h.closeRound.currentRound ≠ h.currentRound := by
  have hnext : h.currentRound.next ≠ h.currentRound := by
    intro he
    have hnat := GameState.next_toNat hopen
    rw [he] at hnat
    omega
  simp only [closeRound, hid]
  split_ifs with hpost
  · exact hnext
  · rw [ne_eq, not_not] at hpost
    rw [hpost]
    exact hopen.symm

theorem closePreflop_currentRound (h : Hand) : h.closePreflop.currentRound ≠ .preflop := by
  have hflop : (h.setCurrentRound .flop).clearActions.collectSets.collectPot.currentRound = .flop := rfl
  rw [closePreflop]
  rcases switchRounds_currentRound (h.setCurrentRound .flop).clearActions.collectSets.collectPot with
    hr | hr | ⟨hr, _⟩
  · rw [hr, hflop]
    decide
  · rw [hr]
    decide
  · rw [hr, hflop]
    decide

theorem preflopTurn_turnRuns (hrun : h.preflopTurn = .ok k) (hround : h.currentRound = .preflop)
    (hsame : k.currentRound = h.currentRound) : TurnRuns k := by
  obtain ⟨j, hj, rfl | rfl⟩ := preflopTurn_cases hrun
  · rw [hround] at hsame
    exact absurd hsame (closePreflop_currentRound j)
  · exact (turnToNext_turnRuns hj).1.endFirstRound

theorem preflopLast_ne_none (hr : Rounds h) (hsub : h.runningPlayerList.Sublist h.activePlayerList)
    (hne : h.runningPlayerList ≠ []) : h.preflopLast ≠ .ok none := by
  intro hlast
  obtain ⟨r, hrun⟩ := List.exists_mem_of_ne_nil _ hne
  simp only [preflopLast] at hlast
  split at hlast
  · cases hlast
  · cases hlast
  · next hbb hsb =>
      split_ifs at hlast with hlen
      · split at hlast
        · cases hlast
        · cases hlast
      · rcases hr.blinds (by omega) h.currentRound r (hsub.subset hrun) with hid | hid
        · exact getRunningPlayerIt_ne_none hrun hid hbb
        · exact getRunningPlayerIt_ne_none hrun hid hsb

/-- As long as the round stays open, a run gives the turn to a running player. -/
theorem run_turnRuns (hr : Rounds h) (hsub : h.runningPlayerList.Sublist h.activePlayerList)
    (hne : h.runningPlayerList ≠ []) (hrun : h.run = .ok k) (hsame : k.currentRound = h.currentRound)
    (hopen : h.currentRound ≠ .postRiver) : TurnRuns k := by
  simp only [Hand.run] at hrun
  split at hrun
  · next hround =>
      rcases preflopRun_cases hrun with ⟨_, hnone, _⟩ | ⟨_, last, hturn⟩ | ⟨_, hturn⟩
      · exact absurd hnone (preflopLast_ne_none hr hsub hne)
      · exact preflopTurn_turnRuns hturn hround hsame
      · exact preflopTurn_turnRuns hturn hround hsame
  · next hround => exact absurd hround hopen
  · next hpre hpost =>
      rcases localRun_cases hrun with ⟨hgui, _⟩ | ⟨j, hj, ⟨_, _, rfl⟩ | ⟨_, j', hj', rfl⟩⟩
      · rw [getCurrentBeRo, hr.gui h.currentRound hpre hopen] at hgui
        cases hgui
      · have hround := restartTurn_currentRound hj
        have hid : j.getCurrentBeRo.myBeRoID = j.currentRound := by
          have hf := restartTurn_keeps (P := fun k => k.frame = h.frame)
            (fun _ _ hb hk => (frame_setBeRo (BeRo.fixed_of_limits hb.limits)).trans hk) rfl hj
          have hfix := frame_beRo hf j.currentRound
          have hfield : (j.myBeRo j.currentRound).fixed.myBeRoID = (h.myBeRo j.currentRound).fixed.myBeRoID := by
            rw [hfix]
          exact hfield.trans (hr.id _)
        exact absurd (hsame.trans hround.symm) (closeRound_currentRound hid (by rwa [hround]))
      · exact (turnToNext_turnRuns hj').1.endFirstRound

theorem detectAllIn_of_nil (hl : Labelled h) (hnil : h.runningPlayerList = []) : h.detectAllIn = true := by
  have hcount : h.allInPlayersCounter = h.nonFoldPlayerCounter := by
    apply List.countP_congr
    intro r hr
    have hout := hl.out r hr (by simp [hnil])
    simp only [leavesRunning, Bool.or_eq_true, beq_iff_eq, bne_iff_ne] at hout ⊢
    rcases hout with hfold | hall
    · simp [hfold]
    · simp [hall]
  simp [detectAllIn, hcount]

theorem switchRounds_runningPlayerList (h : Hand) :
    h.switchRounds.runningPlayerList = h.refreshRunningPlayerList.runningPlayerList :=
  switchRounds_of_refresh (P := fun k => k.runningPlayerList = h.refreshRunningPlayerList.runningPlayerList)
    (fun _ hk => hk) (fun _ _ hk => hk) (fun _ _ hk => hk) rfl

theorem switchRounds_running_ne_nil (hl : Labelled h) (hn : 2 ≤ h.nonFoldPlayerCounter)
    (hall : h.switchRounds.allInCondition = false) : h.switchRounds.runningPlayerList ≠ [] := by
  rw [switchRounds_runningPlayerList]
  intro hnil
  have hdetect := detectAllIn_of_nil hl.refresh.toLabelled hnil
  have hcount : h.refreshRunningPlayerList.nonFoldPlayerCounter = h.nonFoldPlayerCounter := by
    simp only [nonFoldPlayerCounter, frame_activePlayerList (frame_refresh h), refresh_players]
  have hdist : h.refreshRunningPlayerList.distributeOrDetect = h.refreshRunningPlayerList.setAllInCondition := by
    rw [distributeOrDetect, if_neg (by omega), if_pos ⟨by omega, hdetect⟩]
  have htrue : h.switchRounds.allInCondition = true := by
    rw [switchRounds, hdist]
    simp only [noteRound, advanceAllIn]
    split_ifs <;> rfl
  rw [htrue] at hall
  cases hall

theorem advance_turnRuns (hr : Rounds h) (hl : Labelled h) (hn : 2 ≤ h.nonFoldPlayerCounter)
    (hrun : h.advance = .ok k) (hsame : k.currentRound = h.currentRound) (hopen : k.currentRound ≠ .postRiver)
    (hall : k.allInCondition = false) : TurnRuns k := by
  simp only [Hand.advance] at hrun
  split_ifs at hrun with hswitch
  · cases hrun
    rw [hall] at hswitch
    cases hswitch
  · have hround : h.switchRounds.currentRound = h.currentRound := by
      rcases switchRounds_currentRound h with hr' | hr' | hr'
      · exact hr'
      · simp only [Hand.run, hr', Except.ok.injEq] at hrun
        rw [← hrun, hr'] at hopen
        exact absurd rfl hopen
      · exact absurd hr'.2 hswitch
    have hready : Rounds h.switchRounds := hr.congr (frame_switchRounds h)
      (switchRounds_keeps (P := GuiSkipped) (fun _ hk => hk) (fun _ _ hk => hk) (fun _ _ hk => hk)
        (fun _ hk => guiSkipped_refresh hk) hr.gui)
    have hsub : h.switchRounds.runningPlayerList.Sublist h.switchRounds.activePlayerList := by
      rw [switchRounds_runningPlayerList, frame_activePlayerList (frame_switchRounds h),
        ← frame_activePlayerList (frame_refresh h)]
      exact hl.refresh.sub
    refine run_turnRuns hready hsub (switchRounds_running_ne_nil hl hn (by simpa using hswitch)) hrun ?_ ?_
    · rw [hsame, hround]
    · rwa [hround, ← hsame]

end PokerTH.Hand
