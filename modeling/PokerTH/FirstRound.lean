import PokerTH.Turn

namespace PokerTH.Hand

open HandRun

variable {maxPlayers : Nat} {t : Table} {h h' k : Hand} {r : Ref}

/-- After the flop, the first round of the betting lasts as long as two players are left to act. -/
def FirstRounds (h : Hand) : Prop :=
  ∀ s, s ≠ .preflop → s ≠ .postRiver → (h.myBeRo s).firstRound = false → h.runningPlayerList.length ≤ 1

theorem firstRounds_setBeRo {b : BeRo} (hf : FirstRounds h)
    (hb : b.firstRound = false → h.getCurrentBeRo.firstRound = false ∨ h.runningPlayerList.length ≤ 1) :
    FirstRounds (h.setBeRo b) := by
  intro s hpre hpost hfirst
  by_cases hs : s = h.currentRound
  · subst hs
    rw [setBeRo_myBeRo, Function.update_self] at hfirst
    rcases hb hfirst with hold | hlen
    · exact hf _ hpre hpost hold
    · exact hlen
  · rw [setBeRo_myBeRo, Function.update_of_ne hs] at hfirst
    exact hf s hpre hpost hfirst

theorem firstRounds_setBeRo_preflop (b : BeRo) (hround : h.currentRound = .preflop) (hf : FirstRounds h) :
    FirstRounds (h.setBeRo b) := by
  intro s hpre hpost hfirst
  rw [setBeRo_myBeRo, hround, Function.update_of_ne hpre] at hfirst
  exact hf s hpre hpost hfirst

theorem refresh_firstRound (h : Hand) (s : GameState) :
    (h.refreshRunningPlayerList.myBeRo s).firstRound = (h.myBeRo s).firstRound := by
  refine eraseRunning_preserves (fun h => (h.myBeRo s).firstRound) (fun k id => ?_) (fun _ _ => rfl) h _ _
  by_cases hs : s = k.currentRound
  · subst hs
    simp [setCurrentPlayersTurnId, getCurrentBeRo]
  · simp [setCurrentPlayersTurnId, hs]

theorem firstRounds_refresh (hf : FirstRounds h) : FirstRounds h.refreshRunningPlayerList := by
  intro s hpre hpost hfirst
  rw [refresh_firstRound] at hfirst
  rw [refresh_runningPlayerList]
  exact le_trans (List.length_filter_le _ _) (hf s hpre hpost hfirst)

theorem firstRounds_switchRounds (hf : FirstRounds h) : FirstRounds h.switchRounds :=
  switchRounds_keeps (P := FirstRounds) (fun _ hk => hk) (fun _ _ hk => hk) (fun _ _ hk => hk)
    (fun _ hk => firstRounds_refresh hk) hf

theorem firstRounds_closeRound (hf : FirstRounds h) : FirstRounds h.closeRound := by
  have hs : FirstRounds h.clearActions.collectSets.collectPot.switchRounds :=
    firstRounds_switchRounds (h := h.clearActions.collectSets.collectPot) hf
  simp only [closeRound]
  split_ifs
  · exact hs
  · exact hs

theorem firstRounds_closePreflop (hf : FirstRounds h) : FirstRounds h.closePreflop :=
  firstRounds_switchRounds (h := (h.setCurrentRound .flop).clearActions.collectSets.collectPot) hf

theorem firstRounds_preflopTurn (hf : FirstRounds h) (hround : h.currentRound = .preflop)
    (hrun : h.preflopTurn = .ok k) : FirstRounds k := by
  obtain ⟨j, hj, hk⟩ := preflopTurn_cases hrun
  obtain ⟨it, _, rfl⟩ := turnToNext_cases hj
  have hf' := firstRounds_setBeRo_preflop { h.getCurrentBeRo with
    currentPlayersTurnId := h.uniqueID (Cyclic.next h.runningPlayerList it) } hround hf
  rcases hk with rfl | rfl
  · exact firstRounds_closePreflop hf'
  · simp only [endFirstRound]
    split_ifs
    · exact firstRounds_setBeRo_preflop _ hround hf'
    · exact hf'

theorem firstRounds_preflopRun (hf : FirstRounds h) (hround : h.currentRound = .preflop)
    (hrun : h.preflopRun = .ok k) : FirstRounds k := by
  rcases preflopRun_cases hrun with ⟨_, _, rfl⟩ | ⟨_, last, hturn⟩ | ⟨_, hturn⟩
  · have hfirst : FirstRounds (h.setFirstRound false) := firstRounds_setBeRo_preflop _ hround hf
    exact firstRounds_setBeRo_preflop _ hround hfirst
  · have hlast : FirstRounds (h.setFirstRoundLastPlayersTurnId last) := firstRounds_setBeRo_preflop _ hround hf
    have hturn' : FirstRounds ((h.setFirstRoundLastPlayersTurnId last).setCurrentPlayersTurnId last) :=
      firstRounds_setBeRo_preflop _ hround hlast
    have hstart : FirstRounds (h.preflopStart last) := firstRounds_setBeRo_preflop _ hround hturn'
    exact firstRounds_preflopTurn hstart hround hturn
  · exact firstRounds_preflopTurn hf hround hturn

theorem uniqueID_inj (hs : Seated maxPlayers h) (hsub : h.runningPlayerList.Sublist h.activePlayerList)
    {q : Ref} (hr : r ∈ h.runningPlayerList) (hq : q ∈ h.runningPlayerList) (hid : h.uniqueID q = h.uniqueID r) :
    q = r := by
  obtain ⟨hseat, hactive⟩ := hs.mem_active.mp (hsub.subset hr)
  exact hs.ids.eq_of_id r hseat hactive q (hs.mem_active.mp (hsub.subset hq)).1 hid

/-- The turn comes back to the player before the first one only when nobody else is left. -/
theorem firstRounds_turn (hs : Seated maxPlayers h) (hsub : h.runningPlayerList.Sublist h.activePlayerList)
    (hf : FirstRounds h) (hlast : h.getCurrentBeRo.firstRound = true →
      h.getCurrentBeRo.firstRoundLastPlayersTurnId = h.getCurrentBeRo.currentPlayersTurnId)
    (hrun : h.turnToNext = .ok k) : FirstRounds k.endFirstRound := by
  obtain ⟨it, hit, rfl⟩ := turnToNext_cases hrun
  obtain ⟨hmem, hid⟩ := getRunningPlayerIt_some hit
  have hf' : FirstRounds (h.setCurrentPlayersTurnId (h.uniqueID (Cyclic.next h.runningPlayerList it))) :=
    firstRounds_setBeRo hf .inl
  simp only [endFirstRound]
  split_ifs with hend
  · refine firstRounds_setBeRo hf' fun _ => ?_
    by_cases hfirst : h.getCurrentBeRo.firstRound
    · right
      have hnext : h.uniqueID (Cyclic.next h.runningPlayerList it) = h.uniqueID it := by
        rw [hid, ← hlast hfirst]
        simpa [setCurrentPlayersTurnId] using hend
      have hself := uniqueID_inj hs hsub hmem (Cyclic.next_mem hmem) hnext
      have hone := Cyclic.eq_singleton_of_next (hsub.nodup hs.active_nodup) hmem hself
      change h.runningPlayerList.length ≤ 1
      rw [hone]
      exact le_refl 1
    · left
      rw [setCurrentPlayersTurnId, getCurrentBeRo_setBeRo]
      simpa using hfirst
  · exact hf'

theorem firstRounds_restartTurn (hf : FirstRounds h) (hall : h.allInCondition = false)
    (hrun : h.restartTurn = .ok k) : FirstRounds k ∧ (k.getCurrentBeRo.firstRound = true →
      k.getCurrentBeRo.firstRoundLastPlayersTurnId = k.getCurrentBeRo.currentPlayersTurnId) := by
  rcases restartTurn_cases hrun with ⟨_, htrue, _⟩ | ⟨_, _, last, _, rfl⟩ | ⟨hfirst, rfl⟩
  · rw [hall] at htrue
    cases htrue
  · have hlast : FirstRounds (h.setFirstRoundLastPlayersTurnId last) := firstRounds_setBeRo hf .inl
    refine ⟨firstRounds_setBeRo hlast .inl, fun _ => ?_⟩
    simp [setCurrentPlayersTurnId, setFirstRoundLastPlayersTurnId]
  · refine ⟨hf, fun hcontra => ?_⟩
    rw [hfirst] at hcontra
    cases hcontra

theorem firstRounds_localRun (hs : Seated maxPlayers h) (hsub : h.runningPlayerList.Sublist h.activePlayerList)
    (hf : FirstRounds h) (hall : h.allInCondition = false) (hrun : h.localRun = .ok k) : FirstRounds k := by
  rcases localRun_cases hrun with ⟨_, rfl⟩ | ⟨j, hj, ⟨_, _, rfl⟩ | ⟨_, j', hj', rfl⟩⟩
  · exact firstRounds_setBeRo hf .inl
  · exact firstRounds_closeRound (firstRounds_restartTurn hf hall hj).1
  · obtain ⟨hf', hlast⟩ := firstRounds_restartTurn hf hall hj
    have hkeep := restartTurn_keeps (P := fun k => k.frame = h.frame ∧ k.runningPlayerList = h.runningPlayerList)
      (fun _ _ hb hk => ⟨(frame_setBeRo (BeRo.fixed_of_limits hb.limits)).trans hk.1, hk.2⟩) ⟨rfl, rfl⟩ hj
    have hsub' : j.runningPlayerList.Sublist j.activePlayerList := by
      rw [hkeep.2, frame_activePlayerList hkeep.1]
      exact hsub
    exact firstRounds_turn (hs.congr hkeep.1) hsub' hf' hlast hj'

theorem firstRounds_advance (hs : Seated maxPlayers h) (hl : Labelled h) (hf : FirstRounds h)
    (hrun : h.advance = .ok k) : FirstRounds k := by
  have hf' := firstRounds_switchRounds hf
  simp only [advance] at hrun
  split_ifs at hrun with hall
  · cases hrun
    exact hf'
  · simp only [Hand.run] at hrun
    split at hrun
    · next hround => exact firstRounds_preflopRun hf' hround hrun
    · cases hrun
      exact hf'
    · exact firstRounds_localRun (hs.congr (frame_switchRounds h)) hl.switchRounds.sub hf' (by simpa using hall) hrun

theorem Refreshed.perform (hf : Refreshed h) (hr : r ∈ h.runningPlayerList) (action : PlayerAction) (bet : Int) :
    Labelled (h.performPlayerAction r action bet) := by
  have hactive := perform_activePlayerList h r action bet
  have hrunning := perform_runningPlayerList h r action bet
  refine ⟨?_, fun q hq hout => ?_⟩
  · rw [hactive, hrunning]
    exact hf.sub
  · rw [hactive] at hq
    rw [hrunning] at hout
    have hne : q ≠ r := fun he => hout (he ▸ hr)
    rw [perform_players_of_ne h r action bet hne]
    exact hf.out q hq hout

theorem sameLabels_setIsSessionActive (h : Hand) (r : Ref) (b : Bool) : SameLabels h (h.setIsSessionActive r b) :=
  ⟨rfl, rfl, fun q => setIsSessionActive_myAction h r q b, (sameChips_setIsSessionActive h r b).cash⟩

theorem currentPlayer_running (hs : Seated maxPlayers h) (hsub : h.runningPlayerList.Sublist h.activePlayerList)
    (ht : TurnRuns h) (hcur : h.getCurrentPlayer = .ok r) : r ∈ h.runningPlayerList := by
  obtain ⟨q, hq, hid⟩ := ht
  obtain ⟨hseat, hactive⟩ := hs.mem_active.mp (hsub.subset hq)
  have hr : h.uniqueID r = h.getCurrentBeRo.currentPlayersTurnId := by
    simp only [getCurrentPlayer] at hcur
    split at hcur
    · cases hcur
    · next p hp =>
        cases hcur
        exact (findPlayer_some hp).2
  have heq : r = q := hs.ids.eq_of_id q hseat hactive r (getCurrentPlayer_mem hcur) (hr.trans hid.symm)
  rw [heq]
  exact hq

theorem firstRounds_perform (hf : FirstRounds h) (r : Ref) (action : PlayerAction) (bet : Int) :
    FirstRounds (h.performPlayerAction r action bet) := by
  intro s hpre hpost hfirst
  rw [perform_runningPlayerList]
  apply hf s hpre hpost
  rw [← hfirst]
  refine (performPlayerAction_preserves h r action bet (fun h => (h.myBeRo s).firstRound) (fun _ _ => rfl)
    (fun k v => ?_) (fun _ _ => rfl) (fun k v => ?_) fun _ _ => rfl).symm
  all_goals
    by_cases hs : s = k.currentRound
    · subst hs
      simp [setMinimumRaise, setHighestSet, getCurrentBeRo]
    · simp [setMinimumRaise, setHighestSet, hs]

end PokerTH.Hand

namespace PokerTH.HandRun

open Hand

variable {maxPlayers : Nat} {total : Int} {t : Table} {g : Game} {h : Hand} {s s' : State} {r : Ref}

inductive Ordered : State → Prop
  | loop {h : Hand} (hl : Labelled h) (hr : Rounds h) (hf : FirstRounds h) : Ordered ⟨h, .loop⟩
  | waitPlayerAction {h : Hand} (hl : Refreshed h) (hr : Rounds h) (hf : FirstRounds h) (ht : TurnRuns h) :
      Ordered ⟨h, .waitPlayerAction⟩
  | handOver {h : Hand} : Ordered ⟨h, .handOver⟩

theorem ordered_perform (hl : Refreshed h) (hr : Rounds h) (hf : FirstRounds h) (hmem : r ∈ h.runningPlayerList)
    (action : PlayerAction) (bet : Int) : Ordered ⟨h.performPlayerAction r action bet, .loop⟩ :=
  .loop (hl.perform hmem action bet) (hr.perform r action bet) (firstRounds_perform hf r action bet)

theorem ordered_step (hc : Conserved maxPlayers total s) (ho : Ordered s) (hstep : Step maxPlayers s s') :
    Ordered s' := by
  have hloop {h k : Hand} (hs : Seated maxPlayers h) (ho : Ordered ⟨h, .loop⟩) (hk : h.advance = .ok k) :
      Refreshed k ∧ Rounds k ∧ FirstRounds k := by
    cases ho with
    | loop hl hr hf => exact ⟨hl.advance hk, hr.advance hk, firstRounds_advance hs hl hf hk⟩
  have hturn {h k : Hand} (hn : 1 ≤ h.nonFoldPlayerCounter) (ho : Ordered ⟨h, .loop⟩) (hk : h.advance = .ok k)
      (hsame : k.currentRound = h.currentRound) (hopen : k.currentRound ≠ .postRiver)
      (hall : k.allInCondition = false) : TurnRuns k := by
    cases ho with
    | loop hl hr _ => exact advance_turnRuns hr hl (two_contenders hn hk hopen) hk hsame hopen hall
  cases hstep with
  | nextRound hrun =>
      cases hc with
      | loop hs _ hn _ =>
          obtain ⟨k, hk, hcases⟩ := engineLoop_cases hrun
          obtain ⟨hl, hr, hf⟩ := hloop hs ho hk
          cases hcases with
          | nextRound =>
              exact .loop (hl.toLabelled.congr (sameLabels_rfl rfl rfl rfl)) ⟨hr.id, hr.smallBlind, hr.blinds, hr.gui⟩ hf
  | playersTurn hrun =>
      cases hc with
      | loop hs _ hn _ =>
          obtain ⟨k, hk, hcases⟩ := engineLoop_cases hrun
          obtain ⟨hl, hr, hf⟩ := hloop hs ho hk
          cases hcases with
          | playersTurn hsame hopen hall _ _ => exact .waitPlayerAction hl hr hf (hturn hn ho hk hsame hopen hall)
  | foldDisconnected hrun =>
      cases hc with
      | loop hs _ hn _ =>
          obtain ⟨k, hk, hcases⟩ := engineLoop_cases hrun
          obtain ⟨hl, hr, hf⟩ := hloop hs ho hk
          cases hcases with
          | playersTurn hsame hopen hall hplayer _ =>
              have ht := hturn hn ho hk hsame hopen hall
              have hs' := hs.congr (frame_advance hk)
              exact ordered_perform hl hr hf (currentPlayer_running hs' hl.sub ht hplayer) .fold 0
  | endOfHand => exact .handOver
  | @accepted h h' id r req filled hplayer hrun =>
      cases hc with
      | waitPlayerAction hs _ _ _ hcur hactive =>
          cases ho with
          | waitPlayerAction hl hr hf ht =>
              have hcurrent := accepted_is_current hs hcur hactive hplayer hrun
              have hmem : r ∈ h.runningPlayerList := hcurrent ▸ currentPlayer_running hs hl.sub ht hcur
              obtain ⟨_, _, _, _, _, _, rfl⟩ := handleMyAction_accepted hrun
              exact ordered_perform (hl.congr (sameLabels_setIsSessionActive h r true))
                (hr.congr (frame_setIsSessionActive h r true) hr.gui) hf hmem _ _
  | @timeout h r hplayer =>
      cases hc with
      | waitPlayerAction hs =>
          cases ho with
          | waitPlayerAction hl hr hf ht =>
              have hmem := currentPlayer_running hs hl.sub ht hplayer
              simp only [timeoutAction]
              split_ifs
              · exact ordered_perform hl hr hf hmem .check 0
              · exact ordered_perform hl hr hf hmem .fold 0

theorem eq_or_eq_of_length {l : List Ref} (hlen : l.length ≤ 2) {a b c : Ref} (ha : a ∈ l)
    (hb : b ∈ l) (hab : a ≠ b) (hc : c ∈ l) : c = a ∨ c = b := by
  by_contra hne
  rw [not_or] at hne
  have hsub : [c, a, b].Subperm l := by
    refine List.subperm_of_subset ?_ ?_
    · simp [hne.1, hne.2, hab]
    · simp [hc, ha, hb]
  have hle := hsub.length_le
  simp at hle
  omega

theorem rounds_start (hc : Created t h) : Rounds h.skipFirstRunGui.start := by
  have hgui : GuiSkipped h.skipFirstRunGui.start := by
    intro s hpre hpost
    have hs : s = .flop ∨ s = .turn ∨ s = .river := by
      cases s <;> simp at hpre hpost ⊢
    simp [start, collectSets, skipFirstRunGui, hs]
  have hrounds : Rounds { h with myBeRo := h.skipFirstRunGui.myBeRo } := by
    have hfield {β : Type} (f : BeRo → β) (hfix : ∀ b, f b.fixed = f b) (s : GameState) :
        f (h.skipFirstRunGui.myBeRo s) = f (h.myBeRo s) := by
      rw [← hfix, frame_beRo (frame_skipFirstRunGui h), hfix]
    have hid := hfield (fun b => b.myBeRoID) fun _ => rfl
    have hsmall := hfield (fun b => b.smallBlindPositionId) fun _ => rfl
    have hbig := hfield (fun b => b.bigBlindPositionId) fun _ => rfl
    refine ⟨fun s => ?_, fun s => ?_, fun hlen s r hactive => ?_, hgui⟩
    · rw [hid]
      exact (newBeRo_spec (hc.beRo s)).1
    · obtain ⟨_, _, _, _, _, _, bb, _, sb, hsb, _, _, hpos⟩ := newBeRo_spec (hc.beRo s)
      exact ⟨sb, hsb, hpos.symm.trans (hsmall s).symm⟩
    · obtain ⟨_, _, _, _, _, _, bb, hbb, sb, hsb, hne, hposb, hposs⟩ := newBeRo_spec (hc.beRo s)
      rw [hbig, hsmall, hposb, hposs]
      rcases eq_or_eq_of_length hlen hbb hsb hne hactive with rfl | rfl
      · exact .inl rfl
      · exact .inr rfl
  exact ⟨hrounds.id, hrounds.smallBlind, hrounds.blinds, hgui⟩

theorem ordered_start (hstart : Start maxPlayers g t s) : Ordered s := by
  obtain ⟨hr, v, elapsed, g', h, hrun, rfl⟩ := hstart
  have hc := (initHand_spec hr hrun).1
  have ho := hc.opened
  refine .loop ⟨?_, fun r hactive hout => ?_⟩ (rounds_start hc) fun s _ _ hfirst => ?_
  · change h.runningPlayerList.Sublist h.activePlayerList
    rw [ho.running]
  · change r ∈ h.activePlayerList at hactive
    change r ∉ h.runningPlayerList at hout
    rw [ho.running] at hout
    exact absurd hactive hout
  · obtain ⟨_, _, _, _, htrue, _⟩ := newBeRo_spec (hc.beRo s)
    have hsame : (h.skipFirstRunGui.start.myBeRo s).firstRound = (h.myBeRo s).firstRound := by
      simp only [start, collectSets, setBoard_myBeRo, skipFirstRunGui]
      split_ifs <;> rfl
    rw [hsame, htrue] at hfirst
    cases hfirst

theorem ordered_reachable (htotal : tableCash t < 2 ^ 31) (hstart : Start maxPlayers g t s)
    (hrun : Reachable maxPlayers s s') : Conserved maxPlayers (tableCash t) s' ∧ Ordered s' :=
  @Runs.invariant _ _ (fun s => Conserved maxPlayers (tableCash t) s ∧ Ordered s) _ _
    ⟨conserved_start hstart, ordered_start hstart⟩
    (fun _ _ hi hstep => ⟨hi.1.step htotal hstep, ordered_step hi.1 hi.2 hstep⟩) hrun

end PokerTH.HandRun
