import PokerTH.BettingLimits
import PokerTH.WholeHand

namespace PokerTH.Hand

open HandRun

variable {maxPlayers : Nat} {t : Table} {g g' : Game} {h h' k : Hand} {r : Ref} {action : PlayerAction} {bet : Int}

def SameLimits (h h' : Hand) : Prop := ∀ s, (h'.myBeRo s).limits = (h.myBeRo s).limits

theorem SameLimits.trans (hl : SameLimits h h') (hl' : SameLimits h' k) : SameLimits h k :=
  fun s => (hl' s).trans (hl s)

theorem SameLimits.highestSet (hl : SameLimits h h') (s : GameState) :
    (h'.myBeRo s).highestSet = (h.myBeRo s).highestSet := by
  have he : (h'.myBeRo s).limits.highestSet = (h.myBeRo s).limits.highestSet := by rw [hl s]
  exact he

theorem SameLimits.minimumRaise (hl : SameLimits h h') (s : GameState) :
    (h'.myBeRo s).minimumRaise = (h.myBeRo s).minimumRaise := by
  have he : (h'.myBeRo s).limits.minimumRaise = (h.myBeRo s).limits.minimumRaise := by rw [hl s]
  exact he

theorem sameLimits_setBeRo {b : BeRo} (hb : b.limits = h.getCurrentBeRo.limits) : SameLimits h (h.setBeRo b) := by
  intro s
  by_cases hs : s = h.currentRound
  · subst hs
    rw [setBeRo_myBeRo, Function.update_self]
    exact hb
  · rw [setBeRo_myBeRo, Function.update_of_ne hs]

theorem sameLimits_refresh (h : Hand) : SameLimits h h.refreshRunningPlayerList := by
  intro s
  refine eraseRunning_preserves (fun h => (h.myBeRo s).limits) (fun k id => ?_) (fun _ _ => rfl) h _ _
  exact sameLimits_setBeRo (b := { k.getCurrentBeRo with currentPlayersTurnId := id }) rfl s

theorem advance_sameLimits (hrun : h.advance = .ok k) : SameLimits h k :=
  advance_keeps (P := SameLimits h) (fun _ _ hb hk => hk.trans (sameLimits_setBeRo hb.limits))
    (fun _ hk => hk.trans (sameLimits_refresh _)) (fun _ hk => hk) (fun _ hk => hk) (fun _ _ hk => hk)
    (fun _ _ hk => hk) (fun _ hk => hk) (fun _ hk => hk) (fun _ => rfl) hrun

theorem closeRound_cleared (h : Hand) : Cleared h.closeRound := by
  have hc : Cleared h.clearActions.collectSets.collectPot.switchRounds :=
    (collectPot_cleared _).switchRounds
  simp only [closeRound]
  split_ifs
  · exact hc
  · exact hc

theorem closePreflop_cleared (h : Hand) : Cleared h.closePreflop := (collectPot_cleared _).switchRounds

theorem advance_sets (hrun : h.advance = .ok k) :
    Cleared k ∨ k.currentRound = h.currentRound ∧ ∀ q, (k.players q).mySet = (h.players q).mySet := by
  have hswitch : Cleared h.switchRounds ∨
      h.switchRounds.currentRound = h.currentRound ∧
        ∀ q, (h.switchRounds.players q).mySet = (h.players q).mySet := by
    refine switchRounds_keeps (P := fun k => Cleared k ∨ k.currentRound = h.currentRound ∧
      ∀ q, (k.players q).mySet = (h.players q).mySet) (fun _ hk => hk)
      (fun k s _ => .inl (collectPot_cleared k)) (fun _ _ hk => hk) ?_ (.inr ⟨rfl, fun _ => rfl⟩)
    rintro k (hc | hk)
    · exact .inl (hc.congr (sameChips_refresh k))
    · right
      rwa [refresh_currentRound, refresh_players]
  simp only [advance] at hrun
  split_ifs at hrun
  · cases hrun
    exact hswitch
  · exact run_keeps (P := fun k => Cleared k ∨ k.currentRound = h.currentRound ∧
      ∀ q, (k.players q).mySet = (h.players q).mySet) (fun _ _ _ hk => hk)
      (fun k _ => .inl (closeRound_cleared k)) (fun k _ => .inl (closePreflop_cleared k)) hswitch hrun

theorem perform_myBeRo_of_ne (h : Hand) (r : Ref) (action : PlayerAction) (bet : Int) {s : GameState}
    (hs : s ≠ h.currentRound) : (h.performPlayerAction r action bet).myBeRo s = h.myBeRo s := by
  have hkeep := performPlayerAction_preserves h r action bet
    (fun h => if s = h.currentRound then noBeRo else h.myBeRo s) (fun _ _ => rfl) (fun k v => ?_) (fun _ _ => rfl)
    (fun k v => ?_) (fun _ _ => rfl)
  · simpa only [perform_currentRound, if_neg hs] using hkeep
  · by_cases hk : s = k.currentRound
    · simp [setMinimumRaise, hk]
    · simp [setMinimumRaise, hk]
  · by_cases hk : s = k.currentRound
    · simp [setHighestSet, hk]
    · simp [setHighestSet, hk]

/-- The minimum raise in force after an action that lifted the player's set by `raise` over the
highest one. -/
def raisedMinimum (action : PlayerAction) (bet raise minimumRaise : Int) : Int :=
  match action with
  | .bet => bet
  | .raise => if raise > 0 then raise else minimumRaise
  | .allIn => if raise > minimumRaise then raise else minimumRaise
  | _ => minimumRaise

theorem perform_minimumRaise_active (h : Hand) (r : Ref) (action : PlayerAction) (bet : Int)
    (hact : ¬ Passive action) : (h.performPlayerAction r action bet).getCurrentBeRo.minimumRaise =
      raisedMinimum action bet ((bettor (h.players r) action bet).mySet - h.getCurrentBeRo.highestSet)
        h.getCurrentBeRo.minimumRaise := by
  have hplayer := bettor_player h r action bet
  rw [performPlayerAction_active h r action bet hact, collectSets, getCurrentBeRo_setBoard,
    raiseHighestSet_preserves _ _ (fun h => h.getCurrentBeRo.minimumRaise) fun _ _ => by simp [setHighestSet]]
  cases action with
  | none | fold | check | call => rfl
  | bet => simp [noteRaise, raisedMinimum, setMinimumRaise]
  | raise =>
      simp only [noteRaise, raisedMinimum, hplayer, setMySet_getCurrentBeRo, setMyAction_getCurrentBeRo,
        getCurrentBeRo_setLastActionPlayerID]
      split_ifs
      · simp [setMinimumRaise]
      · rfl
  | allIn =>
      simp only [noteRaise, raisedMinimum, hplayer, setMySet_getCurrentBeRo, setMyAction_getCurrentBeRo]
      split_ifs <;> simp [setMinimumRaise]

/-- The limits of all betting rounds of a hand, and the sets under the highest set. -/
structure InLimits (h : Hand) : Prop where
  blind_pos : 0 < h.smallBlind
  highest_nonneg : ∀ s, 0 ≤ (h.myBeRo s).highestSet
  raise_ge : ∀ s, 2 * h.smallBlind ≤ (h.myBeRo s).minimumRaise
  opening : ∀ s, (h.myBeRo s).highestSet = 0 → (h.myBeRo s).minimumRaise = 2 * h.smallBlind
  set_le : ∀ r ∈ h.seatsList, (h.players r).mySet ≤ h.getCurrentBeRo.highestSet

theorem InLimits.bettingState {total : Int} (hl : InLimits h) (ho : InOrder total h) : BettingState h :=
  ⟨ho.money.cash_nonneg, ho.money.set_nonneg, hl.set_le, hl.blind_pos, hl.raise_ge _, hl.opening _⟩

theorem InLimits.advance (hl : InLimits h) (hrun : h.advance = .ok k) : InLimits k := by
  have hf := frame_advance hrun
  have hlim := advance_sameLimits hrun
  have hblind := frame_smallBlind hf
  refine ⟨?_, fun s => ?_, fun s => ?_, fun s h0 => ?_, fun r hr => ?_⟩
  · rw [hblind]
    exact hl.blind_pos
  · rw [hlim.highestSet]
    exact hl.highest_nonneg s
  · rw [hlim.minimumRaise, hblind]
    exact hl.raise_ge s
  · rw [hlim.highestSet] at h0
    rw [hlim.minimumRaise, hblind]
    exact hl.opening s h0
  · rw [getCurrentBeRo, hlim.highestSet]
    rcases advance_sets hrun with hc | ⟨hround, hset⟩
    · rw [hc r hr]
      exact hl.highest_nonneg _
    · rw [frame_seatsList hf] at hr
      rw [hround, hset]
      exact hl.set_le r hr

/-- What an action does to the limits of its own round. -/
structure RaisesWithin (h h' : Hand) : Prop where
  highest : h.getCurrentBeRo.highestSet ≤ h'.getCurrentBeRo.highestSet
  minimum : 2 * h.smallBlind ≤ h'.getCurrentBeRo.minimumRaise
  opening : h'.getCurrentBeRo.highestSet = 0 → h'.getCurrentBeRo.minimumRaise = 2 * h.smallBlind

theorem InLimits.perform_of (hl : InLimits h) (hraise : RaisesWithin h (h.performPlayerAction r action bet)) :
    InLimits (h.performPlayerAction r action bet) := by
  have hf := frame_performPlayerAction h r action bet
  have hround := perform_currentRound h r action bet
  have hblind := frame_smallBlind hf
  have hother (s : GameState) (hs : s ≠ h.currentRound) := perform_myBeRo_of_ne h r action bet hs
  have hcur : (h.performPlayerAction r action bet).getCurrentBeRo =
      (h.performPlayerAction r action bet).myBeRo h.currentRound := by
    rw [getCurrentBeRo, hround]
  obtain ⟨hhigh, hmin, hopen⟩ := hraise
  have hhs := hl.highest_nonneg h.currentRound
  refine ⟨?_, fun s => ?_, fun s => ?_, fun s h0 => ?_, fun q hq => ?_⟩
  · rw [hblind]
    exact hl.blind_pos
  · by_cases hs : s = h.currentRound
    · subst hs
      rw [← hcur]
      exact le_trans hhs hhigh
    · rw [hother s hs]
      exact hl.highest_nonneg s
  · rw [hblind]
    by_cases hs : s = h.currentRound
    · subst hs
      rw [← hcur]
      exact hmin
    · rw [hother s hs]
      exact hl.raise_ge s
  · rw [hblind]
    by_cases hs : s = h.currentRound
    · subst hs
      rw [← hcur] at h0 ⊢
      exact hopen h0
    · rw [hother s hs] at h0 ⊢
      exact hl.opening s h0
  · rw [frame_seatsList hf] at hq
    have hset := hl.set_le q hq
    by_cases hact : Passive action
    · have hsame := (sameChips_setMyAction h r action).set q
      rw [performPlayerAction_passive h r action bet hact] at hhigh ⊢
      rw [hsame]
      exact le_trans hset hhigh
    · rw [perform_highestSet_active h r action bet hact, perform_players_active h r action bet hact]
      by_cases hqr : q = r
      · subst hqr
        simp only [updatePlayer, Function.update_self]
        exact le_max_right _ _
      · simp only [updatePlayer, Function.update_of_ne hqr]
        exact le_trans hset (le_max_left _ _)

theorem raisesWithin_passive (hl : InLimits h) (hact : Passive action) :
    RaisesWithin h (h.performPlayerAction r action bet) := by
  rw [performPlayerAction_passive h r action bet hact]
  exact ⟨le_refl _, hl.raise_ge _, hl.opening _⟩

/-- An accepted action keeps the minimum raise at least at the big blind. -/
theorem raisesWithin_check {req : MyActionRequest} (hs : BettingState h) (hr : r ∈ h.seatsList)
    (hl : InLimits h) (hcheck : h.checkMyAction r req = 0) :
    RaisesWithin h (h.performPlayerAction r req.myAction req.myRelativeBet.toInt) := by
  by_cases hact : Passive req.myAction
  · exact raisesWithin_passive hl hact
  · have hhs := perform_highestSet_active h r req.myAction req.myRelativeBet.toInt hact
    have hmin := perform_minimumRaise_active h r req.myAction req.myRelativeBet.toInt hact
    have hset := hs.set_le r hr
    have hset0 := hs.set_nonneg r hr
    have hblind := hs.blind_pos
    have hge := hs.raise_ge
    have hopening := hs.opening
    have hgain := Player.clampToCash_nonneg (h.players r).myCash req.myRelativeBet.toInt
    rw [bettor_mySet] at hhs hmin
    simp only [checkMyAction] at hcheck
    cases ha : req.myAction with
    | none => simp [ha, Player.checkMyAction] at hcheck
    | fold | check => simp [ha, Passive] at hact
    | call =>
        rw [ha] at hhs hmin
        simp only [raisedMinimum] at hmin
        exact ⟨by omega, by omega, by omega⟩
    | bet =>
        rw [ha] at hhs hmin hcheck
        rw [Player.checkMyAction_bet] at hcheck
        rw [Player.clampToCash_of_le (by omega) hcheck.2.1] at hhs
        simp only [raisedMinimum] at hmin
        exact ⟨by omega, by omega, by omega⟩
    | raise =>
        rw [ha] at hhs hmin hcheck
        rw [Player.checkMyAction_raise] at hcheck
        rw [Player.clampToCash_of_le (by omega) hcheck.2.2] at hmin
        simp only [raisedMinimum] at hmin
        refine ⟨by omega, ?_, by omega⟩
        split_ifs at hmin <;> omega
    | allIn =>
        rw [ha] at hhs hmin
        simp only [raisedMinimum] at hmin
        refine ⟨by omega, ?_, ?_⟩
        · split_ifs at hmin <;> omega
        · split_ifs at hmin <;> omega

/-- Settings whose blinds stay positive, as the validated ones do. -/
structure ValidBlinds (g : Game) : Prop where
  current : 0 < g.currentSmallBlind
  chips : 2 ≤ g.startQuantityPlayers * g.startCash
  manual : ∀ blind ∈ g.blindsList, 0 < blind
  about : 0 ≤ g.gameData.afterMBAlwaysRaiseValue

theorem ValidBlinds.raiseBlinds (hv : ValidBlinds g) (elapsed : Int) : ValidBlinds (g.raiseBlinds elapsed) := by
  have hmax : 1 ≤ g.maxBlind := by
    have hchips := hv.chips
    simp only [Game.maxBlind, Game.INT_MAX]
    omega
  have hcur := hv.current
  have habout := hv.about
  have hdouble : 0 < g.doubledBlind := by
    simp only [Game.doubledBlind]
    split_ifs <;> omega
  have hraised : 0 < g.raisedBlind.1 ∧ ∀ blind ∈ g.raisedBlind.2, 0 < blind := by
    have hmanual := hv.manual
    simp only [Game.raisedBlind]
    split
    · exact ⟨hdouble, hmanual⟩
    · split
      · next blind rest hlist =>
          rw [hlist] at hmanual
          exact ⟨hmanual blind List.mem_cons_self, fun b hb => hmanual b (List.mem_cons_of_mem _ hb)⟩
      · split
        · exact ⟨hdouble, by simp⟩
        · refine ⟨?_, by simp⟩
          dsimp only
          split_ifs <;> omega
        · exact ⟨hcur, by simp⟩
  have hset (h l : Int) : ValidBlinds ({ g with lastHandBlindsRaised := h, lastTimeBlindsRaised := l }).setRaisedBlind :=
    ⟨lt_min hraised.1 hmax, hv.chips, hraised.2, hv.about⟩
  simp only [Game.raiseBlinds]
  split
  · split_ifs
    · exact hset _ g.lastTimeBlindsRaised
    · exact hv
  · split_ifs
    · exact hset g.lastHandBlindsRaised _
    · exact hv

theorem Created.inLimits (hc : Created t h) (hsb : 0 < h.smallBlind) : InLimits h.skipFirstRunGui.start := by
  have hlimits (s : GameState) : (h.skipFirstRunGui.start.myBeRo s).highestSet =
      (if s = .preflop then 2 * h.smallBlind else 0) ∧
      (h.skipFirstRunGui.start.myBeRo s).minimumRaise = 2 * h.smallBlind := by
    obtain ⟨_, _, hhigh, hmin, _⟩ := newBeRo_spec (hc.beRo s)
    have hlim : (h.skipFirstRunGui.start.myBeRo s).limits = (h.myBeRo s).limits := by
      simp only [start, skipFirstRunGui, collectSets, setBoard_myBeRo]
      split_ifs <;> rfl
    have h1 := congrArg BeRo.highestSet hlim
    have h2 := congrArg BeRo.minimumRaise hlim
    exact ⟨h1.trans hhigh, h2.trans hmin⟩
  refine ⟨hsb, fun s => ?_, fun s => (hlimits s).2.ge, fun s _ => (hlimits s).2, fun r hr => ?_⟩
  · rw [(hlimits s).1]
    split_ifs <;> omega
  · have hround : h.skipFirstRunGui.start.currentRound = .preflop := hc.opened.round
    rw [getCurrentBeRo, hround, (hlimits .preflop).1, if_pos rfl]
    have hseat : r ∈ h.seatsList := hr
    rw [hc.opened.seatsList] at hseat
    exact hc.set_le hsb.le r hseat

end PokerTH.Hand

namespace PokerTH.HandRun

open Hand

variable {maxPlayers : Nat} {t : Table} {g : Game} {h h' : Hand} {s s' : State} {id : Nat} {r : Ref}
  {req filled : MyActionRequest}

theorem inLimits_start (hv : ValidBlinds g) (hstart : Start maxPlayers g t s) : InLimits s.hand := by
  obtain ⟨hr, v, elapsed, g', h, hrun, rfl⟩ := hstart
  obtain ⟨hc, hsb⟩ := initHand_spec hr hrun
  have hv' : ValidBlinds { g with currentHandID := g.currentHandID + 1 } := ⟨hv.current, hv.chips, hv.manual, hv.about⟩
  refine hc.inLimits ?_
  rw [hsb]
  exact (hv'.raiseBlinds elapsed).current

theorem inLimits_setIsSessionActive (hl : InLimits h) (r : Ref) (b : Bool) :
    InLimits (h.setIsSessionActive r b) :=
  ⟨hl.blind_pos, hl.highest_nonneg, hl.raise_ge, hl.opening, fun q hq => by
    rw [setIsSessionActive_mySet]
    exact hl.set_le q hq⟩

theorem inLimits_passive (hl : InLimits h) {action : PlayerAction} (hact : Passive action) (r : Ref) (bet : Int) :
    InLimits (h.performPlayerAction r action bet) :=
  hl.perform_of (raisesWithin_passive hl hact)

theorem inLimits_timeoutAction (hl : InLimits h) (r : Ref) : InLimits (h.timeoutAction r) := by
  simp only [Hand.timeoutAction]
  split_ifs
  · exact inLimits_passive hl (.inr rfl) r 0
  · exact inLimits_passive hl (.inl rfl) r 0

theorem inLimits_step {total : Int} (hc : Conserved maxPlayers total s)
    (hl : s.phase ≠ .handOver → InLimits s.hand) (hstep : Step maxPlayers s s') :
    s'.phase ≠ .handOver → InLimits s'.hand := by
  intro hopen
  cases hstep with
  | nextRound hrun =>
      obtain ⟨k, hk, hcases⟩ := engineLoop_cases hrun
      have hl' := (hl nofun).advance hk
      cases hcases with
      | nextRound => exact ⟨hl'.blind_pos, hl'.highest_nonneg, hl'.raise_ge, hl'.opening, hl'.set_le⟩
  | playersTurn hrun =>
      obtain ⟨k, hk, hcases⟩ := engineLoop_cases hrun
      cases hcases with
      | playersTurn => exact (hl nofun).advance hk
  | foldDisconnected hrun =>
      obtain ⟨k, hk, hcases⟩ := engineLoop_cases hrun
      cases hcases with
      | playersTurn => exact inLimits_passive ((hl nofun).advance hk) (.inl rfl) _ 0
  | endOfHand => exact absurd rfl hopen
  | @accepted h h' id r req filled hplayer hrun =>
      cases hc with
      | waitPlayerAction hs ho =>
          obtain ⟨_, _, _, _, _, hcheck, rfl⟩ := handleMyAction_accepted hrun
          have hl' := inLimits_setIsSessionActive (hl nofun) r true
          have hs' := bettingState_setIsSessionActive ((hl nofun).bettingState ho) r true
          rw [← checkMyAction_setIsSessionActive h r r true] at hcheck
          exact hl'.perform_of (raisesWithin_check hs' (findPlayer_some hplayer).1 hl' hcheck)
  | timeout => exact inLimits_timeoutAction (hl nofun) _

theorem inLimits_reachable (htotal : tableCash t < 2 ^ 31) (hv : ValidBlinds g)
    (hstart : Start maxPlayers g t s) (hrun : Reachable maxPlayers s s') :
    Conserved maxPlayers (tableCash t) s' ∧ (s'.phase ≠ .handOver → InLimits s'.hand) :=
  @Runs.invariant _ _ (fun s => Conserved maxPlayers (tableCash t) s ∧ (s.phase ≠ .handOver → InLimits s.hand)) _ _
    ⟨conserved_start hstart, fun _ => inLimits_start hv hstart⟩
    (fun _ _ hi hstep => ⟨hi.1.step htotal hstep, inLimits_step hi.1 hi.2 hstep⟩) hrun

/-- Exactly the accepted calls of a positive amount by players who owe nothing break the limits. -/
theorem accepted_withinLimits_iff (htotal : tableCash t < 2 ^ 31) (hv : ValidBlinds g)
    (hstart : Start maxPlayers g t s) (hrun : Reachable maxPlayers s ⟨h, .waitPlayerAction⟩)
    (hplayer : h.getPlayerByUniqueId id = some r)
    (haccept : h.handleMyAction r req = .ok (.valid, filled, h')) :
    WithinLimits h h' r filled.myAction ↔ ¬ (req.myAction = .call ∧
      (h.players r).mySet = h.getCurrentBeRo.highestSet ∧ 0 < req.myRelativeBet.toInt) := by
  obtain ⟨hc, hl⟩ := inLimits_reachable htotal hv hstart hrun
  cases hc with
  | waitPlayerAction hs ho =>
      exact handleMyAction_withinLimits_iff ((hl nofun).bettingState ho) (findPlayer_some hplayer).1 haccept

theorem validBlinds_twoPlayersGame : ValidBlinds twoPlayersGame := by
  refine ⟨by decide, by decide, ?_, by decide⟩
  simp [twoPlayersGame]

def answers (seat : Ref) (req : MyActionRequest) (good : Hand → MyActionRequest → Hand → Bool) (s : State) : Bool :=
  match s.phase, s.hand.handleMyAction seat req with
  | .waitPlayerAction, .ok (.valid, filled, h') => good s.hand filled h'
  | _, _ => false

theorem answers_spec {seat : Ref} {good : Hand → MyActionRequest → Hand → Bool}
    (ha : answers seat req good s) : ∃ h filled h', s = ⟨h, .waitPlayerAction⟩ ∧
      h.handleMyAction seat req = .ok (.valid, filled, h') ∧ good h filled h' := by
  obtain ⟨h, phase⟩ := s
  simp only [answers] at ha
  split at ha
  · next hrun => exact ⟨_, _, _, rfl, hrun, ha⟩
  · cases ha

/-- The small blind completes his bet to the big blind. -/
theorem accepted_withinLimits_iff_call : ∃ h filled h',
    h.handleMyAction 0 ⟨1, 0, .call, 5⟩ = .ok (.valid, filled, h') ∧
    (WithinLimits h h' 0 filled.myAction ↔ ¬ (PlayerAction.call = .call ∧
      (h.players 0).mySet = h.getCurrentBeRo.highestSet ∧ 0 < (5 : BitVec 32).toInt)) := by
  obtain ⟨s, s', hstart, hrun, hcheck⟩ := exists_reachable ready_twoPlayers twoPlayersGame (fun _ => 0)
    [.loopTimer] (answers 0 ⟨1, 0, .call, 5⟩ fun h _ _ => h.getPlayerByUniqueId 1 == some 0) (by decide +kernel)
  obtain ⟨h, filled, h', rfl, haccept, hplayer⟩ := answers_spec hcheck
  exact ⟨h, filled, h', haccept, accepted_withinLimits_iff (by decide) validBlinds_twoPlayersGame hstart hrun
    (by simpa using hplayer) haccept⟩

/-- The big blind, who owes nothing, calls 20 chips: his call raises the highest set. -/
theorem call_raises_highestSet : ∃ s h filled h', Start 2 twoPlayersGame twoPlayers s ∧
    Reachable 2 s ⟨h, .waitPlayerAction⟩ ∧ h.getPlayerByUniqueId 2 = some 1 ∧
    h.handleMyAction 1 ⟨1, 0, .call, 20⟩ = .ok (.valid, filled, h') ∧ filled.myAction = .call ∧
    h.getCurrentBeRo.highestSet < h'.getCurrentBeRo.highestSet := by
  obtain ⟨s, s', hstart, hrun, hcheck⟩ := exists_reachable ready_twoPlayers twoPlayersGame (fun _ => 0)
    [.loopTimer, .request 1 ⟨1, 0, .call, 5⟩, .loopTimer]
    (answers 1 ⟨1, 0, .call, 20⟩ fun h filled h' => h.getPlayerByUniqueId 2 == some 1 &&
      filled.myAction == .call && decide (h.getCurrentBeRo.highestSet < h'.getCurrentBeRo.highestSet))
    (by decide +kernel)
  obtain ⟨h, filled, h', rfl, haccept, hgood⟩ := answers_spec hcheck
  simp only [Bool.and_eq_true, beq_iff_eq, decide_eq_true_eq] at hgood
  exact ⟨s, h, filled, h', hstart, hrun, hgood.1.1, haccept, hgood.1.2, hgood.2⟩

end PokerTH.HandRun
