import PokerTH.RunOutFair
import PokerTH.TurnHistory

namespace PokerTH.HandRun

open Hand PokerTH.Lists

variable {maxPlayers : Nat} {total : Int} {t : Table} {g : Game} {h h' k u v : Hand} {s s' : State}
  {r p c : Ref} {hist notes : List Note}

theorem setIsSessionActive_onTurn {b : Bool} (ho : OnTurn hist h c) : OnTurn hist (h.setIsSessionActive r b) c :=
  ho.congr rfl (setIsSessionActive_uniqueID h r · b) rfl (setIsSessionActive_mySet h r · b)

theorem onTurn_current (hs : Seated maxPlayers h) (hl : Refreshed h) (ht : TurnRuns h) (ho : OnTurn hist h c)
    (hcur : h.getCurrentPlayer = .ok r) : r = c := by
  have hmem := currentPlayer_running hs hl.sub ht hcur
  refine uniqueID_inj hs hl.sub ho.mem hmem ?_
  rw [← ho.turn]
  simp only [getCurrentPlayer] at hcur
  split at hcur
  · cases hcur
  · next hfind =>
      cases hcur
      exact (findPlayer_some hfind).2

theorem given_perform (hg : Given hist ⟨h, .waitPlayerAction⟩) (hs : Seated maxPlayers h) (hl : Refreshed h)
    (ht : TurnRuns h) (hlim : InLimits h) (hcur : h.getCurrentPlayer = .ok r) (action : PlayerAction) (bet : Int) :
    Given (hist ++ raised h (h.performPlayerAction r action bet) r) ⟨h.performPlayerAction r action bet, .loop⟩ := by
  cases hg with
  | waiting hround hgui ho hhad =>
      have hrc := onTurn_current hs hl ht ho hcur
      subst hrc
      refine Given.acted (c := r) ((perform_currentRound _ _ _ _).trans hround) ((perform_firstRunGui _ _ _ _).trans hgui) ?_
      exact onTurn_perform ho hhad (fun p hp => hlim.set_le p (hs.mem_active.mp (hl.sub.subset hp)).1) action bet
  | later hround => exact .later (by rwa [perform_currentRound])

theorem given_playersTurn (hp : Played maxPlayers total ⟨h, .loop⟩) (hg : Given hist ⟨h, .loop⟩)
    (hloop : h.engineLoop maxPlayers = .ok (.playersTurn k r)) :
    Given (hist ++ [.turn r]) ⟨k, .waitPlayerAction⟩ := by
  by_cases hround : k.currentRound = .preflop
  · obtain ⟨hgui, ho, hhad⟩ := onTurn_engine hp hg hloop hround
    exact .waiting hround hgui ho hhad
  · exact .later hround

theorem given_step (hp : Played maxPlayers total s) (hlim : s.phase ≠ .handOver → InLimits s.hand)
    (hg : Given hist s) (hn : Noted maxPlayers s notes s') : Given (hist ++ notes) s' := by
  cases hn with
  | nextRound hrun =>
      obtain ⟨k, hk, hcases⟩ := engineLoop_cases hrun
      cases hcases with
      | nextRound hlt _ =>
          refine .later fun hpre => ?_
          change k.currentRound = .preflop at hpre
          rw [hpre] at hlt
          simp [GameState.toNat] at hlt
  | playersTurn hrun => exact given_playersTurn hp hg hrun
  | @foldDisconnected h k r hrun =>
      have hwait := given_playersTurn hp hg hrun
      obtain ⟨hc, ho, hgo, _⟩ := hp
      obtain ⟨k', hk, hcases⟩ := engineLoop_cases hrun
      cases hcases with
      | playersTurn hsame hopen hall hplayer _ =>
          cases hc with
          | loop hs _ hn' _ =>
              cases ho with
              | loop hl hr _ =>
                  have ht := advance_turnRuns hr hl (two_contenders hn' hk hopen) hk hsame hopen hall
                  rw [← List.append_assoc]
                  exact given_perform hwait (hs.congr (frame_advance hk)) (hl.advance hk) ht
                    (InLimits.advance (hlim (by simp)) hk) hplayer .fold 0
  | endOfHand hrun =>
      obtain ⟨k, hk, hcases⟩ := engineLoop_cases hrun
      cases hcases with
      | endOfHand hround hpost =>
          refine .later fun hpre => ?_
          have hsame := postRiverRun_currentRound hpost
          rw [hround, hpre] at hsame
          cases hsame
  | @accepted h h' id r req filled hplayer hrun =>
      cases hp.conserved with
      | waitPlayerAction hs _ _ _ hcur hactive =>
          cases hp.ordered with
          | waitPlayerAction hl _ _ ht =>
              have hr := accepted_is_current hs hcur hactive hplayer hrun
              subst hr
              obtain ⟨_, _, _, _, _, _, rfl⟩ := handleMyAction_accepted hrun
              have hg' : Given hist ⟨h.setIsSessionActive r true, .waitPlayerAction⟩ := by
                cases hg with
                | waiting hround hgui ho hhad => exact .waiting hround hgui (setIsSessionActive_onTurn ho) hhad
                | later hround => exact .later hround
              exact given_perform hg' (hs.congr (frame_setIsSessionActive h r true))
                (hl.congr (sameLabels_setIsSessionActive h r true)) (turnRuns_setIsSessionActive ht r true)
                (inLimits_setIsSessionActive (hlim (by simp)) r true) (getCurrentPlayer_setIsSessionActive hcur r true) _ _
  | @timeout h r hplayer =>
      cases hp.conserved with
      | waitPlayerAction hs =>
          cases hp.ordered with
          | waitPlayerAction hl _ _ ht =>
              have hperform := given_perform hg hs hl ht (hlim (by simp)) hplayer
              simp only [timeoutAction]
              split_ifs
              · exact hperform .check 0
              · exact hperform .fold 0

theorem given_start (hstart : Start maxPlayers g t s) : Given [] s := by
  have hgo := going_start hstart
  have hround : s.hand.currentRound = .preflop := by
    obtain ⟨hr, _, _, _, h, hrun, rfl⟩ := hstart
    exact (initHand_spec hr hrun).1.opened.round
  obtain ⟨hr, v, elapsed, g', h, hrun, rfl⟩ := hstart
  refine .dealt rfl hround ?_
  have hc := (initHand_spec hr hrun).1
  obtain ⟨_, _, _, _, _, hgui, _⟩ := newBeRo_spec (hc.beRo .preflop)
  have hpre : (h.skipFirstRunGui.start.myBeRo .preflop) = h.myBeRo .preflop := by
    simp [start, collectSets, skipFirstRunGui]
  rw [getCurrentBeRo, hround, hpre]
  exact hgui

theorem given_history (htotal : tableCash t < 2 ^ 31) (hv : ValidBlinds g) (hstart : Start maxPlayers g t s)
    (hrun : Runs.History (Noted maxPlayers) s hist s') : Given hist s' := by
  have hinv : (Played maxPlayers (tableCash t) s' ∧ (s'.phase ≠ .handOver → InLimits s'.hand)) ∧ Given hist s' := by
    refine @Runs.History.invariant _ _ _ _ _ _ (fun hist s' => (Played maxPlayers (tableCash t) s' ∧
      (s'.phase ≠ .handOver → InLimits s'.hand)) ∧ Given hist s') ?_ (fun hist notes u v hi hn => ?_) hrun
    · exact ⟨⟨played_start hstart, fun _ => inLimits_start hv hstart⟩, given_start hstart⟩
    · obtain ⟨⟨hp, hlim⟩, hg⟩ := hi
      exact ⟨⟨played_step htotal hp hn.step, inLimits_step hp.conserved hlim hn.step⟩, given_step hp hlim hg hn⟩
  exact hinv.2

/-- The players to act when a betting round closes: they have all put in the highest set, and each of
them has been given the turn since somebody else raised it. -/
structure ClosedInOrder (hist : List Note) (u : Hand) : Prop where
  set : ∀ r ∈ u.runningPlayerList, (u.players r).mySet = u.getCurrentBeRo.highestSet
  turn : ∀ r ∈ u.runningPlayerList, HadTurn hist r

theorem closedInOrder_of_ahead (ha : Ahead hist v c) (hfirst : v.getCurrentBeRo.firstRound = false)
    (hset : v.allHighestSet = true) (hu : SameTable u v) : ClosedInOrder hist u := by
  have hrunning := hu.running
  have hequal (r : Ref) (hr : r ∈ u.runningPlayerList) : (v.players r).mySet = v.getCurrentBeRo.highestSet := by
    simp only [allHighestSet, List.all_eq_true, beq_iff_eq] at hset
    exact (hset r (by rwa [hrunning])).symm
  refine ⟨fun r hr => ?_, fun r hr => ?_⟩
  · rw [← hu.players, ← hu.highestSet]
    exact hequal r hr
  · have hr' : r ∈ v.runningPlayerList := by rwa [hrunning]
    rcases ha.kept r hr' (ha.done hfirst r hr') with hhad | hlt
    · exact hhad
    · rw [hequal r hr] at hlt
      exact absurd hlt (lt_irrefl _)

/-- A betting round that a run leaves has not been closed early: the big blind has had his option too. (From the flop on
no run leaves its round: there the turn passes by folds and all-ins alone, and the hand is over or run out then.) -/
theorem round_closes_in_order (htotal : tableCash t < 2 ^ 31) (hv : ValidBlinds g) (hstart : Start maxPlayers g t s)
    (hrun : Runs.History (Noted maxPlayers) s hist ⟨h, .loop⟩) (hall : h.switchRounds.allInCondition = false)
    (hround : h.switchRounds.run = .ok k) (hleft : k.currentRound ≠ h.switchRounds.currentRound) :
    ClosedInOrder hist h.switchRounds := by
  have hreach := Runs.History.reachable (fun _ _ _ hn => Noted.step hn) hrun
  have hp := played_reachable htotal hstart hreach
  have hg := given_history htotal hv hstart hrun
  have hb := betted_of_loop hp.conserved hp.ordered (switchRounds_allInCondition hall)
  have hadvance : h.advance = .ok k := by
    rw [advance, if_neg (by simp [hall]), hround]
  cases hp.going with
  | runOut htrue =>
      rw [switchRounds_allInCondition hall] at htrue
      cases htrue
  | betting _ hpoised =>
      cases betting_engine hb hpoised with
      | last hk hpost =>
          rw [hadvance] at hk
          cases hk
          exact absurd rfl hleft
      | runOut _ _ hout =>
          rw [hout.all] at hall
          cases hall
      | @preflop c v hpre hu _ hmem hturn he =>
          cases he with
          | closes _ _ hfirst hset =>
              exact closedInOrder_of_ahead (ahead_turn hb.seated hb.labelled hg hpre hu hmem hturn) hfirst hset
                hturn.turning.same
          | asks _ hasks _ hk =>
              rw [hadvance] at hk
              cases hk
              exact absurd ((asks_endFirstRound hasks).round.trans hturn.turning.same.round) hleft
      | postFlop _ _ hloop =>
          obtain ⟨k', hk, hcases⟩ := engineLoop_cases hloop
          rw [hadvance] at hk
          cases hk
          cases hcases with
          | playersTurn hsame hopen =>
              rcases switchRounds_currentRound h with hr | hr | ⟨_, htrue⟩
              · exact absurd (hsame.trans hr.symm) hleft
              · rw [Hand.run, hr] at hround
                cases hround
                exact absurd rfl hleft
              · rw [htrue] at hall
                cases hall

def closesPreflop (s : State) : Bool :=
  match s.phase, s.hand.switchRounds.run with
  | .loop, .ok k => s.hand.currentRound == .preflop && s.hand.switchRounds.currentRound == .preflop &&
      s.hand.switchRounds.allInCondition == false && k.currentRound == .flop
  | _, _ => false

/-- The small blind calls, the big blind checks. -/
theorem round_closes_in_order_check : ∃ (h k : Hand) (hist : List Note), h.currentRound = .preflop ∧
    h.switchRounds.run = .ok k ∧ k.currentRound = .flop ∧ ClosedInOrder hist h.switchRounds := by
  obtain ⟨s, s', hstart, hrun, hcheck⟩ := exists_reachable ready_twoPlayers twoPlayersGame (fun _ => 0)
    [.loopTimer, .request 1 ⟨1, 0, .call, 5⟩, .loopTimer, .request 2 ⟨1, 0, .check, 0⟩]
    closesPreflop (by decide +kernel)
  obtain ⟨h, phase⟩ := s'
  dsimp only [closesPreflop] at hcheck
  split at hcheck
  · next _ _ k hk =>
      simp only [Bool.and_eq_true, beq_iff_eq] at hcheck
      obtain ⟨⟨⟨hround, hsame⟩, hall⟩, hleft⟩ := hcheck
      obtain ⟨hist, hhist⟩ := Runs.exists_history (fun _ _ hstep => noted_of_step hstep) hrun
      exact ⟨h, k, hist, hround, hk, hleft, round_closes_in_order (by decide) validBlinds_twoPlayersGame hstart hhist
        hall hk (by rw [hleft, hsame]; decide)⟩
  · cases hcheck

end PokerTH.HandRun
