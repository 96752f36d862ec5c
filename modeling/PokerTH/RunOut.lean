import PokerTH.EngineReturns

namespace PokerTH.HandRun

open Hand PokerTH.Lists

variable {maxPlayers : Nat} {total : Int} {t : Table} {g : Game} {h h' k u : Hand} {s s' : State} {r c sb bb : Ref}
  {action : PlayerAction} {bet : Int}

def AllInBroke (h : Hand) : Prop :=
  ∀ r ∈ h.activePlayerList, (h.players r).myAction = .allIn → (h.players r).myCash = 0

/-- Before the flop, the small blind has been posted in full unless it took the last chips. -/
def SmallPosted (h : Hand) : Prop :=
  h.currentRound = .preflop → ∀ r ∈ h.activePlayerList, (h.players r).myButton = .smallBlind →
    h.smallBlind ≤ (h.players r).mySet ∨ (h.players r).myCash = 0

structure BlindsPaid (h : Hand) : Prop where
  seats : ∃ sb bb, BlindSeats h sb bb
  broke : AllInBroke h
  posted : SmallPosted h

theorem advance_myCash (hrun : h.advance = .ok k) (r : Ref) : (k.players r).myCash = (h.players r).myCash :=
  advance_keeps (P := fun k => (k.players r).myCash = (h.players r).myCash) (fun _ _ _ hk => hk)
    (fun k hk => by rwa [refresh_players]) (fun _ hk => hk) (fun k hk => (collectPot_myCash k r).trans hk)
    (fun _ _ hk => hk) (fun _ _ hk => hk) (fun k hk => ((sameChips_clearActions k).cash r).trans hk)
    (fun _ hk => hk) rfl hrun

theorem advance_allInAction (hrun : h.advance = .ok k) (hall : (k.players r).myAction = .allIn) :
    (h.players r).myAction = .allIn :=
  advance_keeps (P := fun k => (k.players r).myAction = .allIn → (h.players r).myAction = .allIn)
    (fun _ _ _ hk => hk) (fun k hk => by rwa [refresh_players]) (fun _ hk => hk)
    (fun k hk => by rwa [collectPot_myAction]) (fun _ _ hk => hk) (fun _ _ hk => hk)
    (fun k hk => by
      simp only [clearActions, setPlayers_players, updateAll]
      split_ifs
      · simp [Player.setMyAction]
      · exact hk) (fun _ hk => hk) id hrun hall

theorem BlindsPaid.advance (hb : BlindsPaid h) (hrun : h.advance = .ok k)
    (hpre : k.currentRound = .preflop → h.currentRound = .preflop ∧ ∀ r, (k.players r).mySet = (h.players r).mySet) :
    BlindsPaid k := by
  have hf := frame_advance hrun
  have hactive := frame_activePlayerList hf
  obtain ⟨sb, bb, hseats⟩ := hb.seats
  refine ⟨⟨sb, bb, hseats.congr hf⟩, fun r hr hall => ?_, fun hround r hr hbutton => ?_⟩
  · rw [advance_myCash hrun]
    exact hb.broke r (hactive ▸ hr) (advance_allInAction hrun hall)
  · obtain ⟨hround', hset⟩ := hpre hround
    rw [hactive] at hr
    rw [frame_myButton hf] at hbutton
    rw [frame_smallBlind hf, advance_myCash hrun, hset]
    exact hb.posted hround' r hr hbutton

theorem BlindsPaid.congr (hb : BlindsPaid h) (hf : h'.frame = h.frame) (hround : h'.currentRound = h.currentRound)
    (hset : ∀ r, (h'.players r).mySet = (h.players r).mySet)
    (hcash : ∀ r, (h'.players r).myCash = (h.players r).myCash)
    (haction : ∀ r, (h'.players r).myAction = (h.players r).myAction) : BlindsPaid h' := by
  obtain ⟨sb, bb, hseats⟩ := hb.seats
  refine ⟨⟨sb, bb, hseats.congr hf⟩, ?_, ?_⟩
  · simpa only [AllInBroke, frame_activePlayerList hf, hcash, haction] using hb.broke
  · simpa only [SmallPosted, frame_activePlayerList hf, frame_smallBlind hf, frame_myButton hf, hcash, hset, hround]
      using hb.posted

/-- An action keeps the blinds paid, as long as who goes all in bets all he has. -/
theorem BlindsPaid.perform (hb : BlindsPaid h) (hcash : ∀ q ∈ h.activePlayerList, 0 ≤ (h.players q).myCash)
    (hallIn : action = .allIn → (h.players r).myCash ≤ bet) : BlindsPaid (h.performPlayerAction r action bet) := by
  have hf := frame_performPlayerAction h r action bet
  have hactive := frame_activePlayerList hf
  obtain ⟨sb, bb, hseats⟩ := hb.seats
  refine ⟨⟨sb, bb, hseats.congr hf⟩, fun q hq hall => ?_, fun hround q hq hbutton => ?_⟩
  · rw [hactive] at hq
    have hnonneg := hcash q hq
    by_cases hqr : q = r
    · subst hqr
      rw [perform_myAction] at hall
      have hle := hallIn hall
      rw [hall, perform_players_active _ _ _ _ (by decide)]
      simp only [updatePlayer, Function.update_self]
      rw [bettor_myCash hnonneg, Player.clampToCash]
      split_ifs <;> omega
    · rw [perform_players_of_ne _ _ _ _ hqr] at hall ⊢
      exact hb.broke q hq hall
  · rw [hactive] at hq
    rw [frame_myButton hf] at hbutton
    rw [perform_currentRound] at hround
    have hposted := hb.posted hround q hq hbutton
    have hnonneg := hcash q hq
    rw [frame_smallBlind hf]
    by_cases hqr : q = r
    · subst hqr
      by_cases hact : Passive action
      · rw [perform_players_passive _ _ _ _ hact]
        simpa [updatePlayer, Player.setMyAction] using hposted
      · rw [perform_players_active _ _ _ _ hact]
        simp only [updatePlayer, Function.update_self]
        rw [bettor_mySet, bettor_myCash hnonneg]
        have hclamp := Player.clampToCash_nonneg (h.players q).myCash bet
        have hle := Player.clampToCash_le hnonneg bet
        omega
    · rw [perform_players_of_ne _ _ _ _ hqr]
      exact hposted

/-- Before the flop, the engine that asks somebody leaves the players as they are. -/
theorem preflop_asks_players (hb : Betted maxPlayers h) (hp : Poised h) (hk : h.advance = .ok k)
    (hround : k.currentRound = .preflop) : h.currentRound = .preflop ∧ k.players = h.players := by
  cases betting_engine hb hp with
  | last hk' hround' =>
      rw [hk] at hk'
      cases hk'
      rw [hround'] at hround
      cases hround
  | runOut _ hk' hout =>
      rw [hk] at hk'
      cases hk'
      rw [hout.round] at hround
      cases hh : h.currentRound <;> rw [hh] at hround <;> cases hround
  | preflop hpre hu _ _ hv he =>
      cases he with
      | closes _ _ _ _ hk' _ _ hflop =>
          rw [hk] at hk'
          cases hk'
          rw [hflop] at hround
          cases hround
      | asks _ hasks _ hk' =>
          rw [hk] at hk'
          cases hk'
          refine ⟨hpre, ?_⟩
          have hsame : SameTable h.refreshRunningPlayerList h.switchRounds := hu ▸ sameTable_noteRound _
          rw [(asks_endFirstRound hasks).players, hv.turning.same.players, hsame.players, refresh_players]
  | postFlop hpre _ hloop =>
      obtain ⟨k', hk', hcases⟩ := engineLoop_cases hloop
      rw [hk] at hk'
      cases hk'
      cases hcases with
      | playersTurn hsame =>
          rw [hsame] at hround
          exact absurd hround hpre

theorem blindsPaid_engine (hc : Conserved maxPlayers total ⟨h, .loop⟩) (ho : Ordered ⟨h, .loop⟩)
    (hg : Going ⟨h, .loop⟩) (hb : BlindsPaid h) (hk : h.advance = .ok k) : BlindsPaid k := by
  refine hb.advance hk fun hround => ?_
  cases hg with
  | betting hall hp =>
      obtain ⟨hpre, hplayers⟩ := preflop_asks_players (betted_of_loop hc ho hall) hp hk hround
      exact ⟨hpre, fun r => by rw [hplayers]⟩
  | runOut hall hn _ =>
      have hout := runsOut_of_detected hn (.inr hall)
      have hk' := advance_allIn hout.all
      rw [hk] at hk'
      cases hk'
      rw [hout.round] at hround
      cases hh : h.currentRound <;> rw [hh] at hround <;> cases hround

theorem blindsPaid_step (hc : Conserved maxPlayers total s) (ho : Ordered s) (hg : Going s)
    (hb : s.phase ≠ .handOver → BlindsPaid s.hand) (hstep : Step maxPlayers s s') :
    s'.phase ≠ .handOver → BlindsPaid s'.hand := by
  have hcash {h : Hand} (hs : Seated maxPlayers h) (hm : InOrder total h) :
      ∀ q ∈ h.activePlayerList, 0 ≤ (h.players q).myCash :=
    fun q hq => hm.money.cash_nonneg q (hs.mem_active.mp hq).1
  intro hopen
  cases hstep with
  | nextRound hrun =>
      obtain ⟨k, hk, hcases⟩ := engineLoop_cases hrun
      cases hcases with
      | nextRound => exact (blindsPaid_engine hc ho hg (hb (by simp)) hk).congr rfl rfl (fun _ => rfl) (fun _ => rfl) fun _ => rfl
  | playersTurn hrun =>
      obtain ⟨k, hk, hcases⟩ := engineLoop_cases hrun
      cases hcases with
      | playersTurn => exact blindsPaid_engine hc ho hg (hb (by simp)) hk
  | foldDisconnected hrun =>
      obtain ⟨k, hk, hcases⟩ := engineLoop_cases hrun
      cases hcases with
      | playersTurn =>
          have hk' := blindsPaid_engine hc ho hg (hb (by simp)) hk
          cases hc with
          | loop hs hm =>
              exact @BlindsPaid.perform _ _ .fold 0 hk' (hcash (hs.congr (frame_advance hk)) (hm.advance hk)) (by simp)
  | endOfHand => exact absurd rfl hopen
  | @accepted h h' id r req filled hplayer hrun =>
      cases hc with
      | waitPlayerAction hs hm =>
          obtain ⟨_, _, _, _, rfl, hcheck, rfl⟩ := handleMyAction_accepted hrun
          have hsame := hm.congr (sameChips_setIsSessionActive h r true) fun hround => hround
          have hf := frame_setIsSessionActive h r true
          refine BlindsPaid.perform ((hb (by simp)).congr hf rfl (setIsSessionActive_mySet h r · true)
            (setIsSessionActive_myCash h r · true) (setIsSessionActive_myAction h r · true))
            (hcash (hs.congr hf) hsame) fun hall => ?_
          rw [checkMyAction, hall, Player.checkMyAction_allIn] at hcheck
          rw [setIsSessionActive_myCash, hcheck.1]
  | @timeout h r hplayer =>
      cases hc with
      | waitPlayerAction hs hm =>
          have hpassive (a : PlayerAction) (ha : a ≠ .allIn) : BlindsPaid (h.performPlayerAction r a 0) :=
            (hb (by simp)).perform (hcash hs hm) fun hall => absurd hall ha
          simp only [timeoutAction]
          split_ifs
          · exact hpassive .check (by simp)
          · exact hpassive .fold (by simp)

theorem blindsPaid_start (hstart : Start maxPlayers g t s) : BlindsPaid s.hand := by
  obtain ⟨hr, v, elapsed, g', h, hrun, rfl⟩ := hstart
  obtain ⟨k, hk, hrun⟩ := bind_ok hrun
  obtain ⟨d, _, hrun⟩ := bind_ok hrun
  cases hrun
  obtain ⟨⟨sb, bb, hseats⟩, hposted⟩ := created_blinds hr hk
  exact ⟨⟨sb, bb, hseats.congr (frame_start h)⟩, hposted.broke, fun _ => hposted.small⟩

structure Played (maxPlayers : Nat) (total : Int) (s : State) : Prop where
  conserved : Conserved maxPlayers total s
  ordered : Ordered s
  going : Going s
  blinds : s.phase ≠ .handOver → BlindsPaid s.hand

theorem played_step (htotal : total < 2 ^ 31) (hp : Played maxPlayers total s) (hstep : Step maxPlayers s s') :
    Played maxPlayers total s' :=
  ⟨hp.conserved.step htotal hstep, ordered_step hp.conserved hp.ordered hstep,
    going_step hp.conserved hp.ordered hp.going hstep,
    blindsPaid_step hp.conserved hp.ordered hp.going hp.blinds hstep⟩

theorem played_start (hstart : Start maxPlayers g t s) : Played maxPlayers (tableCash t) s :=
  ⟨conserved_start hstart, ordered_start hstart, going_start hstart, fun _ => blindsPaid_start hstart⟩

theorem played_reachable (htotal : tableCash t < 2 ^ 31) (hstart : Start maxPlayers g t s)
    (hrun : Reachable maxPlayers s s') : Played maxPlayers (tableCash t) s' :=
  Runs.invariant (played_start hstart) (fun _ _ hp hstep => played_step htotal hp hstep) hrun

inductive Closes (h : Hand) : Hand → Prop
  | afterFlop {k : Hand} (hpre : h.currentRound ≠ .preflop) (hopen : h.currentRound ≠ .postRiver)
      (hgui : h.getCurrentBeRo.firstRunGui = false) (hk : h.restartTurn = .ok k)
      (hfirst : k.getCurrentBeRo.firstRound = false) (hset : k.allHighestSet = true) :
      Closes h k.clearActions.collectSets.collectPot
  | preflopStart {k : Hand} {last : Nat} (hround : h.currentRound = .preflop)
      (hgui : h.getCurrentBeRo.firstRunGui = true) (hlast : h.preflopLast = .ok (some last))
      (hfirst : h.getCurrentBeRo.firstRound = false) (hset : h.allHighestSet = true)
      (hk : (h.preflopStart last).turnToNext = .ok k) :
      Closes h (k.setCurrentRound .flop).clearActions.collectSets.collectPot
  | preflop {k : Hand} (hround : h.currentRound = .preflop) (hgui : h.getCurrentBeRo.firstRunGui = false)
      (hfirst : h.getCurrentBeRo.firstRound = false) (hset : h.allHighestSet = true) (hk : h.turnToNext = .ok k) :
      Closes h (k.setCurrentRound .flop).clearActions.collectSets.collectPot

/-- The hands on which one call of the engine loop on `h` calls `switchRounds`. -/
inductive SwitchCall (h : Hand) : Hand → Prop
  | loop : SwitchCall h h
  | closes {k : Hand} (hall : h.switchRounds.allInCondition = false) (hk : Closes h.switchRounds k) : SwitchCall h k

/-- Nobody is run out while owing chips. -/
structure RunOutFair (h : Hand) : Prop where
  two : 2 ≤ h.nonFoldPlayerCounter
  chips : ∀ p ∈ h.activePlayerList, ∀ q ∈ h.activePlayerList, (h.players p).myAction ≠ .fold →
    (h.players q).myAction ≠ .fold → 0 < (h.players p).myCash → 0 < (h.players q).myCash → p = q
  owes : ∀ p ∈ h.activePlayerList, ∀ q ∈ h.activePlayerList, (h.players p).myAction ≠ .fold →
    (h.players q).myAction ≠ .fold → 0 < (h.players p).myCash → (h.players q).mySet ≤ (h.players p).mySet

inductive RunOutStep (maxPlayers : Nat) (h : Hand) : Prop
  | nextRound {h' : Hand} {showCards : Bool} (hnorun : h.advance = .ok h.switchRounds)
      (hloop : h.engineLoop maxPlayers = .ok (.nextRound h' showCards))
      (hround : h'.currentRound.toNat = h.currentRound.toNat + 1) (hall : h'.allInCondition = true)
      (hpot : h'.board.pot = h.board.pot) (hcash : ∀ r, (h'.players r).myCash = (h.players r).myCash) :
      RunOutStep maxPlayers h
  | endOfHand {h' : Hand} (hnorun : h.advance = .ok h.switchRounds) (hriver : h.currentRound = .river)
      (hround : h.switchRounds.currentRound = .postRiver) (hloop : h.engineLoop maxPlayers = .ok (.endOfHand h'))
      (hpot : h.switchRounds.board.pot = h.board.pot)
      (hcash : ∀ r, (h.switchRounds.players r).myCash = (h.players r).myCash) : RunOutStep maxPlayers h

end PokerTH.HandRun
