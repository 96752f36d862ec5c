import PokerTH.ComputerEngines
import PokerTH.LimitsRun
import PokerTH.RunOut

namespace PokerTH.Hand

variable {h h' k : Hand} {r : Ref} {action : PlayerAction} {bet : Int}

structure Limited (h : Hand) : Prop where
  blind_pos : 0 < h.smallBlind
  highest_nonneg : ∀ s, 0 ≤ (h.myBeRo s).highestSet
  raise_ge : ∀ s, 2 * h.smallBlind ≤ (h.myBeRo s).minimumRaise
  opening : ∀ s, (h.myBeRo s).highestSet = 0 → (h.myBeRo s).minimumRaise = 2 * h.smallBlind

structure Solvent (h : Hand) : Prop where
  cash_nonneg : ∀ r ∈ h.seatsList, 0 ≤ (h.players r).myCash
  set_nonneg : ∀ r ∈ h.seatsList, 0 ≤ (h.players r).mySet

/-- No minimum raise shrinks, and a round that is still without a bet has the one it had. -/
structure Steady (h h' : Hand) : Prop where
  smallBlind : h'.smallBlind = h.smallBlind
  minimum : ∀ s, (h.myBeRo s).minimumRaise ≤ (h'.myBeRo s).minimumRaise
  highest : ∀ s, 0 ≤ (h.myBeRo s).highestSet → 0 ≤ (h'.myBeRo s).highestSet
  opening : ∀ s, 0 ≤ (h.myBeRo s).highestSet → (h'.myBeRo s).highestSet = 0 →
    (h.myBeRo s).highestSet = 0 ∧ (h'.myBeRo s).minimumRaise = (h.myBeRo s).minimumRaise

theorem Limited.steady (hl : Limited h) (hs : Steady h h') : Limited h' := by
  refine ⟨?_, fun s => hs.highest s (hl.highest_nonneg s), fun s => ?_, fun s h0 => ?_⟩
  · rw [hs.smallBlind]
    exact hl.blind_pos
  · rw [hs.smallBlind]
    exact le_trans (hl.raise_ge s) (hs.minimum s)
  · obtain ⟨hclosed, hmin⟩ := hs.opening s (hl.highest_nonneg s) h0
    rw [hmin, hs.smallBlind, hl.opening s hclosed]

theorem Steady.trans (hs : Steady h h') (hs' : Steady h' k) : Steady h k := by
  refine ⟨hs'.smallBlind.trans hs.smallBlind, fun s => le_trans (hs.minimum s) (hs'.minimum s),
    fun s h0 => hs'.highest s (hs.highest s h0), fun s h0 hopen => ?_⟩
  obtain ⟨hopen', hmin'⟩ := hs'.opening s (hs.highest s h0) hopen
  obtain ⟨hopen'', hmin⟩ := hs.opening s h0 hopen'
  exact ⟨hopen'', hmin'.trans hmin⟩

theorem SameLimits.steady (hs : SameLimits h h') (hblind : h'.smallBlind = h.smallBlind) : Steady h h' :=
  ⟨hblind, fun s => (hs.minimumRaise s).ge, fun s h0 => (hs.highestSet s).symm ▸ h0,
    fun s _ hopen => ⟨(hs.highestSet s).symm.trans hopen, hs.minimumRaise s⟩⟩

theorem steady_advance (hrun : h.advance = .ok k) : Steady h k :=
  (advance_sameLimits hrun).steady (frame_smallBlind (frame_advance hrun))

theorem Solvent.advance (hs : Solvent h) (hrun : h.advance = .ok k) : Solvent k := by
  have hseats := frame_seatsList (frame_advance hrun)
  constructor
  · intro r hr
    rw [HandRun.advance_myCash hrun]
    exact hs.cash_nonneg r (hseats ▸ hr)
  · intro r hr
    rcases advance_sets hrun with hc | ⟨_, hset⟩
    · rw [hc r hr]
    · rw [hset]
      exact hs.set_nonneg r (hseats ▸ hr)

theorem Steady.of_round (hround : h'.currentRound = h.currentRound) (hblind : h'.smallBlind = h.smallBlind)
    (hother : ∀ s, s ≠ h.currentRound → h'.myBeRo s = h.myBeRo s)
    (hmin : h.getCurrentBeRo.minimumRaise ≤ h'.getCurrentBeRo.minimumRaise)
    (hhighest : 0 ≤ h.getCurrentBeRo.highestSet → 0 ≤ h'.getCurrentBeRo.highestSet)
    (hopen : 0 ≤ h.getCurrentBeRo.highestSet → h'.getCurrentBeRo.highestSet = 0 →
      h.getCurrentBeRo.highestSet = 0 ∧ h'.getCurrentBeRo.minimumRaise = h.getCurrentBeRo.minimumRaise) :
    Steady h h' := by
  have hcur : h'.getCurrentBeRo = h'.myBeRo h.currentRound := by rw [getCurrentBeRo, hround]
  rw [hcur] at hmin hhighest hopen
  refine ⟨hblind, fun s => ?_, fun s => ?_, fun s => ?_⟩
  all_goals by_cases hs : s = h.currentRound
  · rw [hs]
    exact hmin
  · rw [hother s hs]
  · rw [hs]
    exact hhighest
  · rw [hother s hs]
    exact id
  · rw [hs]
    exact hopen
  · rw [hother s hs]
    exact fun _ h0 => ⟨h0, rfl⟩

theorem steady_passive (hact : Passive action) : Steady h (h.performPlayerAction r action bet) := by
  rw [performPlayerAction_passive h r action bet hact]
  exact ⟨rfl, fun _ => le_refl _, fun _ h0 => h0, fun _ _ hopen => ⟨hopen, rfl⟩⟩

/-- The player who acts keeps both his cash and his set from going below zero. -/
theorem Solvent.update (hs : Solvent h) {f : Player → Player} (hseats : h'.seatsList = h.seatsList)
    (hplayers : h'.players = updatePlayer h.players r f)
    (hf : r ∈ h.seatsList → 0 ≤ (f (h.players r)).myCash ∧ 0 ≤ (f (h.players r)).mySet) : Solvent h' := by
  constructor
  all_goals
    intro q hq
    rw [hseats] at hq
    rw [hplayers]
    by_cases hqr : q = r
  · subst hqr
    simpa [updatePlayer] using (hf hq).1
  · simpa [updatePlayer, hqr] using hs.cash_nonneg q hq
  · subst hqr
    simpa [updatePlayer] using (hf hq).2
  · simpa [updatePlayer, hqr] using hs.set_nonneg q hq

theorem solvent_perform (hs : Solvent h) (r : Ref) (action : PlayerAction) (bet : Int) :
    Solvent (h.performPlayerAction r action bet) := by
  have hseats := perform_seatsList h r action bet
  by_cases hact : Passive action
  · exact hs.update hseats (perform_players_passive h r action bet hact) fun hr =>
      ⟨hs.cash_nonneg r hr, hs.set_nonneg r hr⟩
  · exact hs.update hseats (perform_players_active h r action bet hact) fun hr =>
      @Betting.setMySet_nonneg ((h.players r).setMyAction action) (hs.cash_nonneg r hr) (hs.set_nonneg r hr) bet

theorem steady_check {req : MyActionRequest} (hl : Limited h) (hs : Solvent h) (hr : r ∈ h.seatsList)
    (hcheck : h.checkMyAction r req = 0) :
    Steady h (h.performPlayerAction r req.myAction req.myRelativeBet.toInt) := by
  by_cases hact : Passive req.myAction
  · exact steady_passive hact
  have hhs := perform_highestSet_active h r req.myAction req.myRelativeBet.toInt hact
  have hmin := perform_minimumRaise_active h r req.myAction req.myRelativeBet.toInt hact
  have hset := hs.set_nonneg r hr
  have hblind := hl.blind_pos
  have hge := hl.raise_ge h.currentRound
  have hopening := hl.opening h.currentRound
  rw [bettor_mySet] at hhs hmin
  simp only [checkMyAction] at hcheck
  change 2 * h.smallBlind ≤ h.getCurrentBeRo.minimumRaise at hge
  change h.getCurrentBeRo.highestSet = 0 → h.getCurrentBeRo.minimumRaise = 2 * h.smallBlind at hopening
  refine .of_round (perform_currentRound _ _ _ _) (frame_smallBlind (frame_performPlayerAction _ _ _ _))
    (fun s => perform_myBeRo_of_ne _ _ _ _) ?_ (fun h0 => by omega) fun h0 hopen => ⟨by omega, ?_⟩
  · cases ha : req.myAction with
    | none => simp [ha, Player.checkMyAction] at hcheck
    | fold | check => simp [ha, Passive] at hact
    | call =>
        rw [ha] at hmin
        exact hmin.ge
    | bet =>
        rw [ha] at hcheck hmin
        rw [Player.checkMyAction_bet] at hcheck
        simp only [raisedMinimum] at hmin
        omega
    | raise =>
        rw [ha] at hcheck hmin
        rw [Player.checkMyAction_raise] at hcheck
        have hpaid : req.myRelativeBet.toInt ≤ Player.clampToCash (h.players r).myCash req.myRelativeBet.toInt := by
          simp only [Player.clampToCash]
          split_ifs <;> omega
        simp only [raisedMinimum] at hmin
        split_ifs at hmin <;> omega
    | allIn =>
        rw [ha] at hmin
        simp only [raisedMinimum] at hmin
        split_ifs at hmin <;> omega
  · cases ha : req.myAction with
    | none => simp [ha, Player.checkMyAction] at hcheck
    | fold | check => simp [ha, Passive] at hact
    | call =>
        rw [ha] at hmin
        exact hmin
    | bet =>
        rw [ha] at hhs hcheck hopen
        rw [Player.checkMyAction_bet] at hcheck
        rw [Player.clampToCash_of_le (by omega) hcheck.2.1] at hhs
        omega
    | raise =>
        rw [ha] at hmin hhs hopen
        simp only [raisedMinimum] at hmin
        split_ifs at hmin <;> omega
    | allIn =>
        rw [ha] at hmin hhs hopen
        simp only [raisedMinimum] at hmin
        split_ifs at hmin <;> omega

end PokerTH.Hand

namespace PokerTH.ComputerRun

open Hand HandRun Betting

structure State where
  betting : Betting
  phase : Phase

/-- The handlers of the server, with the actions of computer players that are allowed. -/
inductive StepWhere (allowed : Betting → Ref → Mind → Prop) (maxPlayers : Nat) : State → State → Prop
  | human {s s' : HandRun.State} {fullBetRule : GameState → Bool}
      (hhuman : ∀ h r, s.phase = .loop → s.hand.engineLoop maxPlayers = .ok (.playersTurn h r) →
        (h.players r).myType ≠ .computer)
      (hstep : HandRun.Step maxPlayers s s') :
      StepWhere allowed maxPlayers ⟨⟨s.hand, fullBetRule⟩, s.phase⟩ ⟨⟨s'.hand, fullBetRule⟩, s'.phase⟩
  | computer {t : Betting} {h : Hand} {r : Ref} {m : Mind}
      (hrun : t.hand.engineLoop maxPlayers = .ok (.playersTurn h r)) (htype : (h.players r).myType = .computer)
      (hallowed : allowed { t with hand := h } r m) :
      StepWhere allowed maxPlayers ⟨t, .loop⟩ ⟨({ t with hand := h } : Betting).action r m, .loop⟩

def Step : Nat → State → State → Prop := StepWhere fun _ _ _ => True

def ReachableWhere (allowed : Betting → Ref → Mind → Prop) (maxPlayers : Nat) (s t : State) : Prop :=
  Relation.ReflTransGen (StepWhere allowed maxPlayers) s t

def first (s : HandRun.State) : State := ⟨⟨s.hand, fun _ => false⟩, s.phase⟩

variable {maxPlayers : Nat} {t : Table} {g : Game} {s : HandRun.State} {u u' : State} {b b' : Betting} {h : Hand}
  {r : Ref} {m : Mind} {minimum : Int}

structure Playable (s : State) : Prop where
  limited : Limited s.betting.hand
  solvent : s.phase ≠ .handOver → Solvent s.betting.hand

theorem playable_first (hv : ValidBlinds g) (hstart : Start maxPlayers g t s) : Playable (first s) := by
  have hl := inLimits_start hv hstart
  refine ⟨⟨hl.blind_pos, hl.highest_nonneg, hl.raise_ge, hl.opening⟩, fun hopen => ?_⟩
  cases conserved_start hstart with
  | loop _ ho => exact ⟨ho.money.cash_nonneg, ho.money.set_nonneg⟩
  | waitPlayerAction _ ho => exact ⟨ho.money.cash_nonneg, ho.money.set_nonneg⟩
  | handOver => exact absurd rfl hopen

theorem able_of_playable (hl : Limited b.hand) (hs : Solvent b.hand) (hr : r ∈ b.hand.seatsList) : Able b r :=
  ⟨hs.cash_nonneg r hr, hs.set_nonneg r hr, hl.highest_nonneg _, by
    have hge := hl.raise_ge b.hand.currentRound
    have hblind := hl.blind_pos
    simp only [Betting.minimumRaise, getCurrentBeRo]
    omega⟩

theorem Outcome.steady (ho : Outcome b b' r minimum) (hle : b.minimumRaise ≤ minimum) : Steady b.hand b'.hand := by
  refine .of_round ho.acts.currentRound ho.acts.smallBlind ho.acts.rounds ?_ ho.highest_nonneg fun _ hopen => ?_
  · exact le_trans hle ho.minimum_eq.ge
  · rcases ho.highest with ⟨hsame, hmin⟩ | hpos
    · exact ⟨hsame.symm.trans hopen, ho.minimum_eq.trans hmin⟩
    · exact absurd hopen hpos.ne'

theorem Outcome.solvent (ho : Outcome b b' r minimum) (hs : Solvent b.hand) : Solvent b'.hand := by
  have hother (q : Ref) (hq : q ≠ r) : b'.hand.players q = b.hand.players q := ho.acts.players q hq
  constructor
  all_goals
    intro q hq
    rw [ho.acts.seatsList] at hq
    by_cases hqr : q = r
  · rw [hqr]
    exact ho.cash_nonneg
  · rw [hother q hqr]
    exact hs.cash_nonneg q hq
  · rw [hqr]
    exact ho.set_nonneg
  · rw [hother q hqr]
    exact hs.set_nonneg q hq

/-- The turn is with a player of the table, whom the engine has not touched. -/
theorem playersTurn_playable (hl : Limited b.hand) (hs : Solvent b.hand)
    (hrun : b.hand.engineLoop maxPlayers = .ok (.playersTurn h r)) :
    Steady b.hand h ∧ Limited h ∧ Solvent h ∧ r ∈ h.seatsList := by
  obtain ⟨k, hk, hcases⟩ := engineLoop_cases hrun
  cases hcases with
  | playersTurn _ _ _ hplayer =>
      have hsteady := steady_advance hk
      exact ⟨hsteady, hl.steady hsteady, hs.advance hk, getCurrentPlayer_mem hplayer⟩

theorem steady_timeoutAction (h : Hand) (r : Ref) : Steady h (h.timeoutAction r) := by
  simp only [Hand.timeoutAction]
  split_ifs
  · exact steady_passive (.inr rfl)
  · exact steady_passive (.inl rfl)

theorem solvent_timeoutAction (hs : Solvent h) (r : Ref) : Solvent (h.timeoutAction r) := by
  simp only [Hand.timeoutAction]
  split_ifs
  · exact solvent_perform hs r .check 0
  · exact solvent_perform hs r .fold 0

theorem steady_postRiverRun {k : Hand} (hrun : k.postRiverRun maxPlayers = .ok h) : Steady k h := by
  obtain ⟨players, board, rfl⟩ := postRiverRun_cases hrun
  exact ⟨rfl, fun _ => le_refl _, fun _ h0 => h0, fun _ _ hopen => ⟨hopen, rfl⟩⟩

theorem human_step {s s' : HandRun.State} (hl : Limited s.hand) (hs : s.phase ≠ .handOver → Solvent s.hand)
    (hstep : HandRun.Step maxPlayers s s') :
    Steady s.hand s'.hand ∧ (s'.phase ≠ .handOver → Solvent s'.hand) := by
  cases hstep with
  | nextRound hrun =>
      obtain ⟨k, hk, hcases⟩ := engineLoop_cases hrun
      have hsteady := steady_advance hk
      have hsolvent := (hs nofun).advance hk
      cases hcases with
      | nextRound =>
          exact ⟨⟨hsteady.smallBlind, hsteady.minimum, hsteady.highest, hsteady.opening⟩, fun _ =>
            ⟨hsolvent.cash_nonneg, hsolvent.set_nonneg⟩⟩
  | playersTurn hrun =>
      obtain ⟨hsteady, _, hsolvent, _⟩ := @playersTurn_playable _ ⟨_, fun _ => false⟩ _ _ hl (hs nofun) hrun
      exact ⟨hsteady, fun _ => hsolvent⟩
  | foldDisconnected hrun =>
      obtain ⟨hsteady, _, hsolvent, _⟩ := @playersTurn_playable _ ⟨_, fun _ => false⟩ _ _ hl (hs nofun) hrun
      exact ⟨hsteady.trans (@steady_passive _ _ .fold 0 (.inl rfl)), fun _ => solvent_perform hsolvent _ .fold 0⟩
  | endOfHand hrun =>
      obtain ⟨k, hk, hcases⟩ := engineLoop_cases hrun
      cases hcases with
      | endOfHand _ hpost => exact ⟨(steady_advance hk).trans (steady_postRiverRun hpost), fun hopen => absurd rfl hopen⟩
  | @accepted h h' id r req filled hplayer hrun =>
      obtain ⟨_, _, _, _, _, hcheck, rfl⟩ := handleMyAction_accepted hrun
      have hl' : Limited (h.setIsSessionActive r true) := ⟨hl.blind_pos, hl.highest_nonneg, hl.raise_ge, hl.opening⟩
      have hs' : Solvent (h.setIsSessionActive r true) :=
        @Solvent.update h _ r (hs nofun) (fun p => { p with isSessionActive := true }) rfl rfl fun hr =>
          ⟨(hs nofun).cash_nonneg r hr, (hs nofun).set_nonneg r hr⟩
      have hsteady : Steady h (h.setIsSessionActive r true) :=
        ⟨rfl, fun _ => le_refl _, fun _ h0 => h0, fun _ _ hopen => ⟨hopen, rfl⟩⟩
      rw [← checkMyAction_setIsSessionActive h r r true] at hcheck
      exact ⟨hsteady.trans (steady_check hl' hs' (findPlayer_some hplayer).1 hcheck), fun _ =>
        solvent_perform hs' r _ _⟩
  | timeout => exact ⟨steady_timeoutAction _ _, fun _ => solvent_timeoutAction (hs nofun) _⟩

theorem full_step (hp : Playable u) (hstep : StepWhere FullEngine maxPlayers u u') :
    Steady u.betting.hand u'.betting.hand ∧ (u'.phase ≠ .handOver → Solvent u'.betting.hand) := by
  cases hstep with
  | human _ hstep => exact human_step hp.limited hp.solvent hstep
  | @computer b h r m hrun _ hfull =>
      obtain ⟨hsteady, hl, hs, hr⟩ := playersTurn_playable hp.limited (hp.solvent nofun) hrun
      have hable := @able_of_playable { b with hand := h } r hl hs hr
      have ho := action_outcome hable hl.blind_pos.le hfull
      exact ⟨hsteady.trans (Outcome.steady ho (le_engineMinimum_iff.mpr hfull)), fun _ => Outcome.solvent ho hs⟩

theorem playable_reachable (hv : ValidBlinds g) (hstart : Start maxPlayers g t s)
    (hrun : ReachableWhere FullEngine maxPlayers (first s) u) : Playable u := by
  refine Runs.invariant (playable_first hv hstart) (fun u u' hp hstep => ?_) hrun
  obtain ⟨hsteady, hsolvent⟩ := full_step hp hstep
  exact ⟨hp.limited.steady hsteady, hsolvent⟩

/-- As long as computer players bet and raise in full, no action makes the next raise cheaper. The
first of them that does not is the first that does. -/
theorem minimumRaise_keeps (hv : ValidBlinds g) (hstart : Start maxPlayers g t s)
    (hrun : ReachableWhere FullEngine maxPlayers (first s) u) :
    (∀ round, 2 * u.betting.hand.smallBlind ≤ (u.betting.hand.myBeRo round).minimumRaise) ∧
    (∀ u', StepWhere FullEngine maxPlayers u u' → ∀ round,
      (u.betting.hand.myBeRo round).minimumRaise ≤ (u'.betting.hand.myBeRo round).minimumRaise) ∧
    ∀ h r m, u.phase = .loop → u.betting.hand.engineLoop maxPlayers = .ok (.playersTurn h r) →
      (h.getCurrentBeRo.minimumRaise ≤
        (({ u.betting with hand := h } : Betting).action r m).hand.getCurrentBeRo.minimumRaise ↔
        ({ u.betting with hand := h } : Betting).FullEngine r m) := by
  have hp := playable_reachable hv hstart hrun
  refine ⟨hp.limited.raise_ge, fun u' hstep round => (full_step hp hstep).1.minimum round, ?_⟩
  intro h r m hphase hturn
  obtain ⟨_, hl, hs, hr⟩ := playersTurn_playable hp.limited (hp.solvent (by simp [hphase])) hturn
  exact action_minimumRaise_iff (able_of_playable hl hs hr) hl.blind_pos.le m

def shortComputer : Table where
  players r := if r = 0 then Player.create 1 .computer "" 15 true else Player.create (r + 1) .human "" 185 true
  seatsList := [0, 1]
  activePlayerList := [0, 1]
  runningPlayerList := [0, 1]
  board := Game.newBoard

theorem ready_shortComputer : Ready 2 shortComputer := by
  refine ⟨⟨by decide, ?_⟩, by decide, by decide, by decide, by decide, rfl⟩
  intro r hr _ q hq hid
  have hseats : (r = 0 ∨ r = 1) ∧ (q = 0 ∨ q = 1) := by simpa [shortComputer] using And.intro hr hq
  obtain ⟨rfl | rfl, rfl | rfl⟩ := hseats <;> first | rfl | exact absurd hid (by decide)

/-- An engine of version 0 that takes the same decision before and after it thinks of a bluff. -/
def decides (d : Decision) : Mind where
  engineVersion := 0
  first := d
  decision := d
  preflop3 := ⟨0, 0, 0, 100, 0⟩
  postflop3 := ⟨0, true, 0, 0, 100, 0, by decide⟩

def opens (maxPlayers : Nat) (s : HandRun.State) : Option (Hand × Ref) :=
  match s.phase, s.hand.engineLoop maxPlayers with
  | .loop, .ok (.playersTurn h r) => if (h.players r).myType = .computer then some (h, r) else none
  | _, _ => none

theorem opens_spec (ho : opens maxPlayers s = some (h, r)) : s.phase = .loop ∧
    s.hand.engineLoop maxPlayers = .ok (.playersTurn h r) ∧ (h.players r).myType = .computer := by
  simp only [opens] at ho
  split at ho
  · next hphase hrun =>
      split_ifs at ho with htype
      cases ho
      exact ⟨hphase, hrun, htype⟩
  · cases ho

theorem exists_opens (check : Hand × Ref → Bool)
    (hrun : ((deal twoPlayersGame (fun _ => 0) 0 shortComputer).bind (opens 2)).any check) :
    ∃ s h r, Start 2 twoPlayersGame shortComputer s ∧ opens 2 s = some (h, r) ∧ check (h, r) := by
  obtain ⟨⟨h, r⟩, hopens, hcheck⟩ := (Option.any_eq_true _ _).mp hrun
  obtain ⟨s, hs, hopens⟩ := Option.bind_eq_some_iff.mp hopens
  exact ⟨s, h, r, deal_start ready_shortComputer hs, hopens, hcheck⟩

/-- The computer player calls, and no action that follows makes the next raise cheaper than 10. -/
theorem minimumRaise_keeps_call : ∃ s u, Start 2 twoPlayersGame shortComputer s ∧ Step 2 (first s) u ∧
    u.betting.hand.currentRound = .preflop ∧
    (∀ round, 10 ≤ (u.betting.hand.myBeRo round).minimumRaise) ∧
    ∀ u', StepWhere FullEngine 2 u u' → ∀ round,
      (u.betting.hand.myBeRo round).minimumRaise ≤ (u'.betting.hand.myBeRo round).minimumRaise := by
  obtain ⟨⟨k, phase⟩, h, r, hstart, hopens, hcheck⟩ := exists_opens (fun p =>
    let t := (⟨p.1, fun _ => false⟩ : Betting).action p.2 (decides ⟨.call, 0, 0⟩)
    t.hand.smallBlind == 5 && t.hand.currentRound == .preflop &&
      decide (p.1.getCurrentBeRo.minimumRaise ≤ t.hand.getCurrentBeRo.minimumRaise)) (by decide +kernel)
  obtain ⟨hphase, hturn, htype⟩ := opens_spec hopens
  simp only [Bool.and_eq_true, beq_iff_eq, decide_eq_true_eq] at hcheck
  cases hphase
  have hfull := ((minimumRaise_keeps validBlinds_twoPlayersGame hstart .refl).2.2 h r _ rfl hturn).mp hcheck.2
  have hcall := minimumRaise_keeps validBlinds_twoPlayersGame hstart
    (.single (.computer (t := ⟨k, fun _ => false⟩) hturn htype hfull))
  refine ⟨_, _, hstart, .computer (t := ⟨k, fun _ => false⟩) hturn htype trivial, hcheck.1.2, fun round => ?_, hcall.2.1⟩
  have hge := hcall.1 round
  rw [hcheck.1.1] at hge
  exact hge

/-- The computer player raises all in with 15 chips over a big blind of 10: the next raise costs 5. -/
theorem shortAllIn_shrinks : ∃ s h r, Start 2 twoPlayersGame shortComputer s ∧
    Step 2 (first s) ⟨(⟨h, fun _ => false⟩ : Betting).action r (decides ⟨.raise, 0, 10⟩), .loop⟩ ∧
    h.currentRound = .preflop ∧ h.getCurrentBeRo.minimumRaise = 10 ∧
    ((⟨h, fun _ => false⟩ : Betting).action r (decides ⟨.raise, 0, 10⟩)).hand.getCurrentBeRo.minimumRaise = 5 := by
  obtain ⟨s, h, r, hstart, hopens, hcheck⟩ := exists_opens (fun p =>
    p.1.currentRound == .preflop && p.1.getCurrentBeRo.minimumRaise == 10 &&
      ((⟨p.1, fun _ => false⟩ : Betting).action p.2 (decides ⟨.raise, 0, 10⟩)).hand.getCurrentBeRo.minimumRaise == 5)
    (by decide +kernel)
  obtain ⟨hphase, hturn, htype⟩ := opens_spec hopens
  simp only [Bool.and_eq_true, beq_iff_eq] at hcheck
  refine ⟨s, h, r, hstart, ?_, hcheck.1.1, hcheck.1.2, hcheck.2⟩
  obtain ⟨k, phase⟩ := s
  cases hphase
  exact .computer (t := ⟨k, fun _ => false⟩) hturn htype trivial

end PokerTH.ComputerRun
