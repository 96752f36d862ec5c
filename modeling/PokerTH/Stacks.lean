import PokerTH.FirstRound
import PokerTH.LimitsRun

namespace PokerTH.Hand

open HandRun

variable {maxPlayers : Nat} {t : Table} {g : Game} {h h' k : Hand} {r : Ref} {req : MyActionRequest}

def ExactStack (h : Hand) (r : Ref) (req : MyActionRequest) : Prop :=
  (req.myAction = .call ∨ req.myAction = .bet ∨ req.myAction = .raise) ∧
    (h.players r).myCash ≤ req.myRelativeBet.toInt

theorem toInt_ofInt_le {v : Int} (h0 : 0 ≤ v) : (BitVec.ofInt 32 v).toInt ≤ v := by
  rw [BitVec.toInt_ofInt, Int.bmod_def]
  split_ifs <;> omega

/-- The amounts that are filled in for a call leave chips to the player. -/
theorem fillIn_lt_cash (hs : BettingState h) (hr : r ∈ h.seatsList)
    (hnot : ¬ ExactStack h r req) (hlabel : (h.fillIn r req).myAction = .call ∨
      (h.fillIn r req).myAction = .bet ∨ (h.fillIn r req).myAction = .raise) :
    (h.fillIn r req).myRelativeBet.toInt < (h.players r).myCash := by
  by_cases hcall : req.myAction = .call ∧ req.myRelativeBet = 0
  · by_cases hshort : h.getCurrentBeRo.highestSet ≥ (h.players r).mySet + (h.players r).myCash
    · rw [fillIn_myAction, fillInCall, if_pos hcall, if_pos hshort] at hlabel
      simp at hlabel
    · have hset := hs.set_le r hr
      rw [fillIn, fillInCall, if_pos hcall, if_neg hshort, fillInAllIn_of_ne (by simp [hcall.1])]
      have hle := toInt_ofInt_le (v := h.getCurrentBeRo.highestSet - (h.players r).mySet) (by omega)
      dsimp only
      omega
  · have hne : req.myAction ≠ .allIn := by
      intro hall
      rw [fillIn_myAction, fillInCall, if_neg hcall, hall] at hlabel
      simp at hlabel
    rw [fillIn_of_ne h r hne hcall] at hlabel ⊢
    by_contra hle
    exact hnot ⟨hlabel, by omega⟩

/-- An action that leaves the player chips, or says that it does not, keeps the labels honest. -/
theorem AllInLabels.perform (ha : AllInLabels h) {action : PlayerAction} {bet : Int}
    (hleft : ((h.performPlayerAction r action bet).players r).myCash = 0 → action = .allIn) :
    AllInLabels (h.performPlayerAction r action bet) := by
  intro q hq h0
  rw [perform_activePlayerList] at hq
  by_cases hqr : q = r
  · subst hqr
    rw [perform_myAction]
    exact hleft h0
  · rw [perform_players_of_ne h r action bet hqr] at h0 ⊢
    exact ha q hq h0

theorem passive_myCash (hact : Passive action) (bet : Int) :
    ((h.performPlayerAction r action bet).players r).myCash = (h.players r).myCash := by
  rw [performPlayerAction_passive h r action bet hact]
  exact (sameChips_setMyAction h r action).cash r

/-- An accepted request that is not a call, bet or raise of everything leaves chips or is an all-in. -/
theorem accepted_leaves_chips (hs : BettingState h) (hr : r ∈ h.seatsList) (hpos : 0 < (h.players r).myCash)
    (hnot : ¬ ExactStack h r req)
    (hcheck : h.checkMyAction r (h.fillIn r req) = 0) (h0 : ((h.performPlayerAction r (h.fillIn r req).myAction
      (h.fillIn r req).myRelativeBet.toInt).players r).myCash = 0) : (h.fillIn r req).myAction = .allIn := by
  by_cases hact : Passive (h.fillIn r req).myAction
  · rw [passive_myCash hact] at h0
    omega
  · by_contra hall
    have hlabel : (h.fillIn r req).myAction = .call ∨ (h.fillIn r req).myAction = .bet ∨
        (h.fillIn r req).myAction = .raise := by
      cases ha : (h.fillIn r req).myAction with
      | none => simp [checkMyAction, ha, Player.checkMyAction] at hcheck
      | fold | check => simp [ha, Passive] at hact
      | call | bet | raise => simp
      | allIn => exact absurd ha hall
    have hlt := Player.clampToCash_lt hpos (fillIn_lt_cash hs hr hnot hlabel)
    rw [perform_players_active h r _ _ hact] at h0
    simp only [updatePlayer, Function.update_self] at h0
    rw [bettor_myCash hpos.le] at h0
    omega

end PokerTH.Hand

namespace PokerTH.HandRun

open Hand

variable {maxPlayers : Nat} {t : Table} {g : Game} {h h' : Hand} {s s' : State} {r : Ref}

def Honest (s : State) : Prop := s.phase ≠ .handOver → AllInLabels s.hand

structure Solvent (maxPlayers : Nat) (s : State) : Prop where
  switched : s.phase = .loop → ∀ r ∈ s.hand.switchRounds.runningPlayerList,
    0 < (s.hand.switchRounds.players r).myCash
  broke : s.phase = .loop → ∀ r ∈ s.hand.switchRounds.activePlayerList,
    (s.hand.switchRounds.players r).myCash = 0 →
      (s.hand.switchRounds.players r).myAction = .allIn ∧ r ∉ s.hand.switchRounds.runningPlayerList
  advanced : s.phase = .loop → ∀ k, s.hand.advance = .ok k → ∀ r ∈ k.runningPlayerList, 0 < (k.players r).myCash
  asked : s.phase = .loop → ∀ h' r, s.hand.engineLoop maxPlayers = .ok (.playersTurn h' r) →
    0 < (h'.players r).myCash
  waiting : s.phase = .waitPlayerAction → ∀ r, s.hand.getCurrentPlayer = .ok r → 0 < (s.hand.players r).myCash

theorem running_cash_pos {total : Int} (hs : Seated maxPlayers h) (ho : InOrder total h) (hf : Refreshed h)
    (ha : AllInLabels h) (hr : r ∈ h.runningPlayerList) : 0 < (h.players r).myCash := by
  have hne := hf.cash_ne_zero ha hr
  have hnonneg := ho.money.cash_nonneg r (hs.mem_active.mp (hf.sub.subset hr)).1
  omega

theorem solvent_loop {total : Int} (hs : Seated maxPlayers h) (ho : InOrder total h)
    (hn : 1 ≤ h.nonFoldPlayerCounter) (hl : Labelled h) (ha : AllInLabels h) (hr : Rounds h) :
    Solvent maxPlayers ⟨h, .loop⟩ := by
  have hs' := hs.congr (frame_switchRounds h)
  refine ⟨fun _ r hrun => running_cash_pos hs' ho.switchRounds hl.switchRounds ha.switchRounds hrun,
    fun _ r hactive h0 => ?_, fun _ k hk r hrun => ?_, fun _ h' r hrun => ?_, nofun⟩
  · refine ⟨ha.switchRounds r hactive h0, fun hrun => ?_⟩
    exact hl.switchRounds.cash_ne_zero ha.switchRounds hrun h0
  · exact running_cash_pos (hs.congr (frame_advance hk)) (ho.advance hk) (hl.advance hk) (ha.advance hl hk) hrun
  · obtain ⟨k, hk, hcases⟩ := engineLoop_cases hrun
    cases hcases with
    | playersTurn hsame hopen hall hplayer _ =>
        have hs' := hs.congr (frame_advance hk)
        have ht := advance_turnRuns hr hl (two_contenders hn hk hopen) hk hsame hopen hall
        have hmem := currentPlayer_running hs' (hl.advance hk).sub ht hplayer
        exact running_cash_pos hs' (ho.advance hk) (hl.advance hk) (ha.advance hl hk) hmem

theorem solvent_of_honest {total : Int} (hc : Conserved maxPlayers total s) (ho : Ordered s) (hh : Honest s) :
    Solvent maxPlayers s := by
  cases hc with
  | loop hs hm hn _ =>
      cases ho with
      | loop hl hr _ => exact solvent_loop hs hm hn hl (hh nofun) hr
  | waitPlayerAction hs hm =>
      cases ho with
      | waitPlayerAction hl _ _ ht =>
          refine ⟨nofun, nofun, nofun, nofun, fun _ r hcur => ?_⟩
          exact running_cash_pos hs hm hl (hh nofun) (currentPlayer_running hs hl.sub ht hcur)
  | handOver => exact ⟨nofun, nofun, nofun, nofun, nofun⟩

theorem honest_passive {total : Int} (hs : Seated maxPlayers h) (hm : InOrder total h) (hl : Refreshed h)
    (ha : AllInLabels h) (hmem : r ∈ h.runningPlayerList) {action : PlayerAction} (hact : Passive action) :
    AllInLabels (h.performPlayerAction r action 0) := by
  have hpos := running_cash_pos hs hm hl ha hmem
  refine ha.perform fun h0 => ?_
  rw [passive_myCash hact] at h0
  omega

theorem honest_engine {total : Int} (hc : Conserved maxPlayers total ⟨h, .loop⟩) (ho : Ordered ⟨h, .loop⟩)
    (ha : AllInLabels h) (hstep : Step maxPlayers ⟨h, .loop⟩ s') : Honest s' := by
  intro hopen
  cases hc with
  | loop hs hm hn _ =>
      cases ho with
      | loop hl hr _ =>
          cases hstep with
          | nextRound hrun =>
              obtain ⟨k, hk, hcases⟩ := engineLoop_cases hrun
              cases hcases with
              | nextRound => exact (ha.advance hl hk).congr (sameLabels_rfl rfl rfl rfl)
          | playersTurn hrun =>
              obtain ⟨k, hk, hcases⟩ := engineLoop_cases hrun
              cases hcases with
              | playersTurn => exact ha.advance hl hk
          | foldDisconnected hrun =>
              obtain ⟨k, hk, hcases⟩ := engineLoop_cases hrun
              cases hcases with
              | playersTurn hsame hround hall hplayer _ =>
                  have hs' := hs.congr (frame_advance hk)
                  have ht := advance_turnRuns hr hl (two_contenders hn hk hround) hk hsame hround hall
                  exact honest_passive hs' (hm.advance hk) (hl.advance hk) (ha.advance hl hk)
                    (currentPlayer_running hs' (hl.advance hk).sub ht hplayer) (.inl rfl)
          | endOfHand => exact absurd rfl hopen

theorem honest_step {total : Int} (hc : Conserved maxPlayers total s) (hlim : s.phase ≠ .handOver → InLimits s.hand)
    (ho : Ordered s) (hh : Honest s)
    (hstep : StepWhere (fun h r req => ¬ ExactStack h r req) maxPlayers s s') : Honest s' := by
  cases hstep with
  | @engine s s' hloop hstep =>
      obtain ⟨h, phase⟩ := s
      cases hloop
      exact honest_engine hc ho (hh nofun) hstep
  | @accepted h h' id r req filled hplayer hrun hnot =>
      cases hc with
      | waitPlayerAction hs hm _ _ hcur hactive =>
          cases ho with
          | waitPlayerAction hl _ _ ht =>
              have ha : AllInLabels h := hh nofun
              have hcurrent := accepted_is_current hs hcur hactive hplayer hrun
              have hmem : r ∈ h.runningPlayerList := hcurrent ▸ currentPlayer_running hs hl.sub ht hcur
              have hpos := running_cash_pos hs hm hl ha hmem
              have hseat := (findPlayer_some hplayer).1
              obtain ⟨_, _, _, _, rfl, hcheck, rfl⟩ := handleMyAction_accepted hrun
              have hsame := sameLabels_setIsSessionActive h r true
              have hs' := bettingState_setIsSessionActive ((hlim nofun).bettingState hm) r true
              have hfill := fillIn_setIsSessionActive h r r true req
              rw [← hfill, ← checkMyAction_setIsSessionActive h r r true] at hcheck
              rw [← hfill]
              intro _
              refine (ha.congr hsame).perform (accepted_leaves_chips hs' hseat ?_ ?_ hcheck)
              · rwa [setIsSessionActive_myCash]
              · rwa [ExactStack, setIsSessionActive_myCash]
  | @timeout h r hplayer =>
      cases hc with
      | waitPlayerAction hs hm =>
          cases ho with
          | waitPlayerAction hl _ _ ht =>
              have hmem := currentPlayer_running hs hl.sub ht hplayer
              intro _
              simp only [timeoutAction]
              split_ifs
              · exact honest_passive hs hm hl (hh nofun) hmem (.inr rfl)
              · exact honest_passive hs hm hl (hh nofun) hmem (.inl rfl)

theorem honest_start (hstart : Start maxPlayers g t s) : Honest s := by
  obtain ⟨hr, v, elapsed, g', h, hrun, rfl⟩ := hstart
  have hc := (initHand_spec hr hrun).1
  intro _ r hactive h0
  change r ∈ h.activePlayerList at hactive
  obtain ⟨hseat, hstatus⟩ := hc.opened.mem_active.mp hactive
  exact (hc.opened.players r hseat).broke hstatus h0

/-- As long as nobody calls, bets or raises all his chips without saying so, nobody without chips is in
the betting. -/
theorem solvent_reachable (htotal : tableCash t < 2 ^ 31) (hv : ValidBlinds g) (hstart : Start maxPlayers g t s)
    (hrun : ReachableWhere (fun h r req => ¬ ((req.myAction = .call ∨ req.myAction = .bet ∨ req.myAction = .raise) ∧
      (h.players r).myCash ≤ req.myRelativeBet.toInt)) maxPlayers s s') : Solvent maxPlayers s' := by
  have hinv : ((Conserved maxPlayers (tableCash t) s' ∧ (s'.phase ≠ .handOver → InLimits s'.hand)) ∧
      Ordered s') ∧ Honest s' := by
    refine @Runs.invariant _ _ (fun s => ((Conserved maxPlayers (tableCash t) s ∧
      (s.phase ≠ .handOver → InLimits s.hand)) ∧ Ordered s) ∧ Honest s) _ _ ?_ (fun u v hu hstep => ?_) hrun
    · exact ⟨⟨⟨conserved_start hstart, fun _ => inLimits_start hv hstart⟩, ordered_start hstart⟩, honest_start hstart⟩
    · obtain ⟨⟨⟨hc, hlim⟩, ho⟩, hh⟩ := hu
      exact ⟨⟨⟨hc.step htotal hstep.step, inLimits_step hc hlim hstep.step⟩, ordered_step hc ho hstep.step⟩,
        honest_step hc hlim ho hh hstep⟩
  exact solvent_of_honest hinv.1.1.1 hinv.1.2 hinv.2

/-- The small blind calls, the big blind goes all in, and the small blind calls again without naming
the amount. Both have put in everything and are out of the betting. -/
theorem solvent_reachable_twoPlayers : ∃ s s', Start 2 twoPlayersGame twoPlayers s ∧ Reachable 2 s s' ∧
    s'.phase = .loop ∧ (s'.hand.players 0).myCash = 0 ∧ (s'.hand.players 1).myCash = 0 ∧ Solvent 2 s' := by
  obtain ⟨s, s', hstart, hrun, hcheck⟩ := exists_reachableWhere
    (fun h r req => ¬ ((req.myAction = .call ∨ req.myAction = .bet ∨ req.myAction = .raise) ∧
      (h.players r).myCash ≤ req.myRelativeBet.toInt)) ready_twoPlayers twoPlayersGame (fun _ => 0)
    [.loopTimer, .request 1 ⟨1, 0, .call, 5⟩, .loopTimer, .request 2 ⟨1, 0, .allIn, 90⟩, .loopTimer,
      .request 1 ⟨1, 0, .call, 0⟩]
    (fun h r req => decide (¬ ((req.myAction = .call ∨ req.myAction = .bet ∨ req.myAction = .raise) ∧
      (h.players r).myCash ≤ req.myRelativeBet.toInt))) (fun _ _ _ hc => of_decide_eq_true hc)
    (fun s => s.phase == .loop && (s.hand.players 0).myCash == 0 && (s.hand.players 1).myCash == 0)
    (by decide +kernel)
  simp only [Bool.and_eq_true, beq_iff_eq] at hcheck
  obtain ⟨⟨hphase, h0⟩, h1⟩ := hcheck
  exact ⟨s, s', hstart, Relation.ReflTransGen.mono (fun _ _ hstep => hstep.step) _ _ hrun, hphase, h0, h1,
    solvent_reachable (by decide) validBlinds_twoPlayersGame hstart hrun⟩

def asksBroke (s : State) : Bool :=
  match s.phase, s.hand.engineLoop 2 with
  | .loop, .ok (.playersTurn h' r) => s.hand.switchRounds.runningPlayerList.contains r &&
      (s.hand.switchRounds.players r).myCash == 0 && (h'.players r).myCash == 0
  | _, _ => false

/-- The big blind raises all his 90 chips, the small blind calls them: both run on without chips, and
one of them is asked to act on the flop. -/
theorem broke_player_asked : ∃ s h h' r, Start 2 twoPlayersGame twoPlayers s ∧ Reachable 2 s ⟨h, .loop⟩ ∧
    h.engineLoop 2 = .ok (.playersTurn h' r) ∧ r ∈ h.switchRounds.runningPlayerList ∧
    (h.switchRounds.players r).myCash = 0 ∧ (h'.players r).myCash = 0 := by
  obtain ⟨s, s', hstart, hrun, hcheck⟩ := exists_reachable ready_twoPlayers twoPlayersGame (fun _ => 0)
    [.loopTimer, .request 1 ⟨1, 0, .call, 5⟩, .loopTimer, .request 2 ⟨1, 0, .raise, 90⟩, .loopTimer,
      .request 1 ⟨1, 0, .call, 90⟩, .loopTimer]
    asksBroke (by decide +kernel)
  obtain ⟨h, phase⟩ := s'
  dsimp only [asksBroke] at hcheck
  split at hcheck
  · next hrun' =>
      simp only [Bool.and_eq_true, beq_iff_eq, List.contains_iff_mem] at hcheck
      exact ⟨s, h, _, _, hstart, hrun, hrun', hcheck.1.1, hcheck.1.2, hcheck.2⟩
  · cases hcheck

end PokerTH.HandRun
