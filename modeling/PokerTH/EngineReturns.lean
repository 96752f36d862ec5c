import PokerTH.LoopReturns

namespace PokerTH.HandRun

open Hand PokerTH.Lists

variable {maxPlayers : Nat} {total : Int} {t : Table} {g : Game} {h h' k : Hand} {s s' : State} {r c : Ref}
  {action : PlayerAction} {bet : Int}

inductive Going : State → Prop
  | betting {h : Hand} (hall : h.allInCondition = false) (hp : Poised h) : Going ⟨h, .loop⟩
  | runOut {h : Hand} (hall : h.allInCondition = true) (hn : 2 ≤ h.nonFoldPlayerCounter) (hc : Cleared h) :
      Going ⟨h, .loop⟩
  | waiting {h : Hand} (hall : h.allInCondition = false)
      (hpre : h.currentRound = .preflop → h.getCurrentBeRo.firstRunGui = false ∧ Unopened h)
      (hpost : h.currentRound ≠ .preflop → Opening h) : Going ⟨h, .waitPlayerAction⟩
  | over {h : Hand} : Going ⟨h, .handOver⟩

theorem engineLoop_nextRound (hend : k.currentRound = .postRiver → ∃ h', h.engineLoop maxPlayers = .ok (.endOfHand h'))
    (hk : h.advance = .ok k) (hround : k.currentRound = h.currentRound.next) (hopen : h.currentRound ≠ .postRiver) :
    ∃ out, h.engineLoop maxPlayers = .ok out := by
  obtain ⟨out, hloop, _⟩ := engineLoop_close hend hk hround hopen
  exact ⟨out, hloop⟩

theorem endOfHand_of_postRiver (hs : Seated maxPlayers h) (ho : InOrder total h) (htotal : total < 2 ^ 31)
    (hn : 1 ≤ h.nonFoldPlayerCounter) (hk : h.advance = .ok k) (hround : k.currentRound = .postRiver) :
    ∃ h', h.engineLoop maxPlayers = .ok (.endOfHand h') := by
  obtain ⟨h', hpost, _⟩ := postRiverRun_spec (hs.congr (frame_advance hk)) (ho.advance hk) htotal hround
    (advance_nonFoldPlayerCounter hn hk)
  exact ⟨h', by simp [engineLoop, hk, bind, Except.bind, hround, hpost, pure, Except.pure]⟩

inductive BettingEngine (maxPlayers : Nat) (h : Hand) : Prop
  | last (hk : h.advance = .ok h.switchRounds) (hround : h.switchRounds.currentRound = .postRiver) :
      BettingEngine maxPlayers h
  | runOut (hn : 2 ≤ h.nonFoldPlayerCounter) (hk : h.advance = .ok h.switchRounds)
      (hout : RunsOut h h.switchRounds) : BettingEngine maxPlayers h
  | preflop {c : Ref} {v : Hand} (hround : h.currentRound = .preflop)
      (hu : h.switchRounds = h.refreshRunningPlayerList.noteRound) (hall : h.switchRounds.allInCondition = false)
      (hmem : c ∈ h.switchRounds.runningPlayerList) (hv : PreflopTurn h h.switchRounds c v)
      (he : PreflopEngine maxPlayers h h.switchRounds v c) : BettingEngine maxPlayers h
  | postFlop {k : Hand} {r : Ref} (hround : h.currentRound ≠ .preflop)
      (hall : h.switchRounds.allInCondition = false) (hloop : h.engineLoop maxPlayers = .ok (.playersTurn k r)) :
      BettingEngine maxPlayers h

theorem betting_engine (hb : Betted maxPlayers h) (hp : Poised h) : BettingEngine maxPlayers h := by
  cases switchRounds_cases hb.nonFold hb.all with
  | last hn hround _ => exact .last (advance_last hround) hround
  | allIn hdetect _ hall =>
      have hn := switchRounds_two hb.all hall
      exact .runOut hn (advance_allIn hall) (runsOut_of_detected hn (.inl hdetect))
  | betting hn hdetect hu =>
      have hsame : SameTable h.refreshRunningPlayerList h.switchRounds := hu ▸ sameTable_noteRound _
      have hall : h.switchRounds.allInCondition = false := (hsame.all.trans (refresh_allInCondition h)).trans hb.all
      by_cases hround : h.currentRound = .preflop
      · obtain ⟨c, hc, v, hv, he⟩ := engine_preflop hb hp hround hn hdetect hu
        exact .preflop hround hu hall hc hv he
      · have hacted := hb.acted hround
        obtain ⟨k, r, hloop⟩ := engine_postFlop hacted hb.firstRounds hp (betting_of_cases hacted hdetect hu)
        exact .postFlop hround hall hloop

theorem betted_of_loop (hc : Conserved maxPlayers total ⟨h, .loop⟩) (ho : Ordered ⟨h, .loop⟩)
    (hall : h.allInCondition = false) : Betted maxPlayers h := by
  cases hc with
  | loop hs _ hn hopen =>
      cases ho with
      | loop hl hr hf => exact ⟨hs, hl, hr, hf, hn, hopen, hall⟩

theorem engineLoop_ok (htotal : total < 2 ^ 31) (hc : Conserved maxPlayers total ⟨h, .loop⟩) (ho : Ordered ⟨h, .loop⟩)
    (hg : Going ⟨h, .loop⟩) : ∃ out, h.engineLoop maxPlayers = .ok out := by
  have hend (k : Hand) (hk : h.advance = .ok k) (hround : k.currentRound = .postRiver) :
      ∃ h', h.engineLoop maxPlayers = .ok (.endOfHand h') := by
    cases hc with
    | loop hs hm hn _ => exact endOfHand_of_postRiver hs hm htotal hn hk hround
  have hopen : h.currentRound ≠ .postRiver := by
    cases hc with
    | loop _ _ _ hopen => exact hopen
  cases hg with
  | betting hall hp =>
      cases betting_engine (betted_of_loop hc ho hall) hp with
      | last hk hround =>
          obtain ⟨h', hloop⟩ := hend _ hk hround
          exact ⟨_, hloop⟩
      | runOut _ hk hout => exact engineLoop_nextRound (hend _ hk) hk hout.round hopen
      | preflop hround _ _ _ _ he =>
          cases he with
          | closes _ _ _ _ hrun _ _ hflop =>
              exact engineLoop_nextRound (hend _ hrun) hrun (by rw [hflop, hround]; rfl) hopen
          | asks _ _ _ _ hloop => exact ⟨_, hloop⟩
      | postFlop _ _ hloop => exact ⟨_, hloop⟩
  | runOut hall hn _ =>
      have hout := runsOut_of_detected hn (.inr hall)
      exact engineLoop_nextRound (hend _ (advance_allIn hout.all)) (advance_allIn hout.all) hout.round hopen

theorem actedBy_perform (hs : Seated maxPlayers h) (hl : Refreshed h) (ht : TurnRuns h)
    (hcur : h.getCurrentPlayer = .ok c) (action : PlayerAction) (bet : Int) :
    ActedBy (h.performPlayerAction c action bet) c := by
  have hmem := currentPlayer_running hs hl.sub ht hcur
  refine ⟨?_, ?_, fun q hq hne => ?_⟩
  · rwa [perform_runningPlayerList]
  · rw [perform_currentPlayersTurnId, uniqueID, frame_myUniqueID (frame_performPlayerAction h c action bet)]
    simp only [getCurrentPlayer] at hcur
    split at hcur
    · cases hcur
    · next hfind =>
        cases hcur
        exact (findPlayer_some hfind).2.symm
  · rw [perform_runningPlayerList] at hq
    rw [perform_players_of_ne h c action bet hne]
    exact hl.stays q hq

theorem unopened_perform (hu : Unopened h) (r : Ref) (action : PlayerAction) (bet : Int) :
    Unopened (h.performPlayerAction r action bet) := by
  refine ⟨(perform_currentRound h r action bet).trans hu.1, fun s hs => ?_⟩
  rw [perform_myBeRo_of_ne h r action bet (by rwa [hu.1])]
  exact hu.2 s hs

theorem perform_firstRunGui (h : Hand) (r : Ref) (action : PlayerAction) (bet : Int) :
    (h.performPlayerAction r action bet).getCurrentBeRo.firstRunGui = h.getCurrentBeRo.firstRunGui :=
  performPlayerAction_preserves h r action bet (fun h => h.getCurrentBeRo.firstRunGui) (fun _ _ => rfl)
    (fun _ _ => by simp [setMinimumRaise]) (fun _ _ => rfl) (fun _ _ => by simp [setHighestSet]) fun _ _ => rfl

theorem getCurrentPlayer_setIsSessionActive (hcur : h.getCurrentPlayer = .ok c) (r : Ref) (b : Bool) :
    (h.setIsSessionActive r b).getCurrentPlayer = .ok c := by
  have hid (q : Ref) : ((h.setIsSessionActive r b).players q).myUniqueID = (h.players q).myUniqueID :=
    frame_myUniqueID (frame_setIsSessionActive h r b) q
  rw [← hcur]
  simp only [getCurrentPlayer, getPlayerByUniqueId, getSeatIt, findPlayer, hid]
  rfl

theorem turnRuns_setIsSessionActive (ht : TurnRuns h) (r : Ref) (b : Bool) : TurnRuns (h.setIsSessionActive r b) := by
  obtain ⟨q, hq, hid⟩ := ht
  exact ⟨q, hq, (setIsSessionActive_uniqueID h r q b).trans hid⟩

theorem opening_setIsSessionActive (ho : Opening h) (r : Ref) (b : Bool) : Opening (h.setIsSessionActive r b) := by
  have hid (q : Ref) : (h.setIsSessionActive r b).uniqueID q = h.uniqueID q := setIsSessionActive_uniqueID h r q b
  refine ⟨ho.all, fun htwo => ?_, fun q hone => ?_⟩
  · obtain ⟨hfirst, last, hmem, hlast, hturn⟩ := ho.first htwo
    refine ⟨hfirst, last, hmem, ?_, ?_⟩
    · rw [hid, ← hlast]
      simp only [lastBeforeSmallBlind, getActivePlayerIt, getRunningPlayerIt, findPlayer, hid,
        frame_myUniqueID (frame_setIsSessionActive h r b)]
      rfl
    · rw [hid]
      exact hturn
  · obtain ⟨hfirst, hset⟩ := ho.alone q hone
    refine ⟨hfirst, ?_⟩
    rw [setIsSessionActive_mySet]
    exact hset

theorem poised_perform (hs : Seated maxPlayers h) (hl : Refreshed h) (ht : TurnRuns h)
    (hpre : h.currentRound = .preflop → h.getCurrentBeRo.firstRunGui = false ∧ Unopened h)
    (hpost : h.currentRound ≠ .preflop → Opening h) (hcur : h.getCurrentPlayer = .ok c)
    (action : PlayerAction) (bet : Int) : Poised (h.performPlayerAction c action bet) := by
  have hacted := actedBy_perform hs hl ht hcur action bet
  have hround := perform_currentRound h c action bet
  have hfirst := perform_firstRound h c action bet
  by_cases hflop : h.currentRound = .preflop
  · obtain ⟨hgui, hu⟩ := hpre hflop
    exact .preflop hacted ((perform_firstRunGui h c action bet).trans hgui) (unopened_perform hu c action bet)
  · have hopening := hpost hflop
    have hmem := currentPlayer_running hs hl.sub ht hcur
    by_cases htwo : 2 ≤ h.runningPlayerList.length
    · obtain ⟨htrue, last, hlast, hok, hturn⟩ := hopening.first htwo
      have hne : last ≠ c := by
        rintro rfl
        have hid : h.getCurrentBeRo.currentPlayersTurnId = h.uniqueID last := by
          have hturn' := hacted.turn
          rw [perform_currentPlayersTurnId, uniqueID, frame_myUniqueID (frame_performPlayerAction h last action bet)]
            at hturn'
          exact hturn'
        have hnext := uniqueID_inj hs hl.sub hlast (Cyclic.next_mem hlast) (hturn.symm.trans hid)
        rw [Cyclic.eq_singleton_of_next (running_nodup hs hl.sub) hlast hnext] at htwo
        simp at htwo
      have hok' := lastBeforeSmallBlind_shrink (u := h.performPlayerAction c action bet) hs hl.sub
        (by rw [perform_runningPlayerList]) (by rwa [perform_runningPlayerList])
        (frame_performPlayerAction h c action bet) hround hok
      exact .acted hacted (by rwa [hround]) (hfirst.trans htrue) (by rwa [perform_runningPlayerList]) hne hok'
    · have hone : h.runningPlayerList = [c] := by
        have hpos := List.length_pos_of_mem hmem
        obtain ⟨p, hp⟩ := List.length_eq_one_iff.mp (by omega : h.runningPlayerList.length = 1)
        rw [hp] at hmem
        rw [hp, List.mem_singleton.mp hmem]
      exact .alone hacted (by rwa [hround]) (hfirst.trans (hopening.alone c hone).1)

theorem going_shown {b : Bool} (hg : Going ⟨k, .loop⟩) (hround : k.currentRound ≠ .preflop)
    (hp : k.allInCondition = false → Poised k) : Going ⟨{ k with cardsShown := b }, .loop⟩ := by
  cases hg with
  | betting hall _ =>
      refine .betting hall ?_
      cases hp hall with
      | dealt _ _ _ _ _ hu => exact absurd hu.1 hround
      | preflop _ _ hu => exact absurd hu.1 hround
      | opened hl hpre hfirst htwo => exact .opened (hl.congr (sameLabels_rfl rfl rfl rfl)) hpre hfirst htwo
      | acted ha hpre hfirst hmem hne hlast => exact .acted ⟨ha.running, ha.turn, ha.stays⟩ hpre hfirst hmem hne hlast
      | alone ha hpre hfirst => exact .alone ⟨ha.running, ha.turn, ha.stays⟩ hpre hfirst
  | runOut hall hn hcl => exact .runOut hall hn hcl

theorem RunsOut.nonFold (hout : RunsOut h k) : k.nonFoldPlayerCounter = h.nonFoldPlayerCounter := by
  simp only [nonFoldPlayerCounter, frame_activePlayerList hout.frame, hout.action]

theorem going_nextRound (hc : Conserved maxPlayers total ⟨h, .loop⟩) (ho : Ordered ⟨h, .loop⟩) (hg : Going ⟨h, .loop⟩)
    (hk : h.advance = .ok k) (hlt : h.currentRound.toNat < k.currentRound.toNat) (hopen : k.currentRound ≠ .postRiver) :
    Going ⟨k, .loop⟩ := by
  cases hg with
  | betting hall hp =>
      cases betting_engine (betted_of_loop hc ho hall) hp with
      | last hk' hround =>
          rw [hk] at hk'
          cases hk'
          exact absurd hround hopen
      | runOut hn hk' hout =>
          rw [hk] at hk'
          cases hk'
          exact .runOut hout.all (by rwa [hout.nonFold]) hout.cleared
      | preflop hround _ _ _ _ he =>
          cases he with
          | closes _ _ _ _ hk' hp' hall' _ =>
              rw [hk] at hk'
              cases hk'
              exact .betting hall' hp'
          | asks _ _ _ hk' _ hround' =>
              rw [hk] at hk'
              cases hk'
              rw [hround', hround] at hlt
              omega
      | postFlop _ _ hloop =>
          obtain ⟨k', hk', hcases⟩ := engineLoop_cases hloop
          rw [hk] at hk'
          cases hk'
          cases hcases with
          | playersTurn hsame _ _ _ _ =>
              rw [hsame] at hlt
              omega
  | runOut hall hn _ =>
      have hout := runsOut_of_detected hn (.inr hall)
      have hk' := advance_allIn hout.all
      rw [hk] at hk'
      cases hk'
      exact .runOut hout.all (by rwa [hout.nonFold]) hout.cleared

theorem going_playersTurn (hc : Conserved maxPlayers total ⟨h, .loop⟩) (ho : Ordered ⟨h, .loop⟩) (hg : Going ⟨h, .loop⟩)
    (hk : h.advance = .ok k) (hsame : k.currentRound = h.currentRound) (hopen : k.currentRound ≠ .postRiver)
    (hall : k.allInCondition = false) :
    (k.currentRound = .preflop → k.getCurrentBeRo.firstRunGui = false ∧ Unopened k) ∧
      (k.currentRound ≠ .preflop → Opening k) := by
  refine ⟨fun hpre => ?_, fun hpre => ?_⟩
  · cases hg with
    | betting hall' hp =>
        cases betting_engine (betted_of_loop hc ho hall') hp with
        | last hk' hround =>
            rw [hk] at hk'
            cases hk'
            exact absurd hround hopen
        | runOut _ hk' hout =>
            rw [hk] at hk'
            cases hk'
            rw [hout.all] at hall
            cases hall
        | preflop _ _ _ _ _ he =>
            cases he with
            | closes _ _ _ _ hk' _ _ hflop =>
                rw [hk] at hk'
                cases hk'
                rw [hflop] at hpre
                cases hpre
            | asks _ _ _ hk' _ _ _ hgui hu =>
                rw [hk] at hk'
                cases hk'
                exact ⟨hgui, hu⟩
        | postFlop hround =>
            rw [hsame] at hpre
            exact absurd hpre hround
    | runOut hall' hn _ =>
        have hout := runsOut_of_detected hn (.inr hall')
        have hk' := advance_allIn hout.all
        rw [hk] at hk'
        cases hk'
        rw [hout.all] at hall
        cases hall
  · cases hc with
    | loop hs _ hn _ =>
        cases ho with
        | loop hl hr hf => exact advance_opening hs hl hr hf hn hk hsame hpre hopen hall

theorem going_step (hc : Conserved maxPlayers total s) (ho : Ordered s) (hg : Going s)
    (hstep : Step maxPlayers s s') : Going s' := by
  cases hstep with
  | nextRound hrun =>
      obtain ⟨k, hk, hcases⟩ := engineLoop_cases hrun
      cases hcases with
      | nextRound hlt hopen =>
          have hgk := going_nextRound hc ho hg hk hlt hopen
          refine going_shown hgk (fun hpre => ?_) fun hall => ?_
          · rw [hpre] at hlt
            simp [GameState.toNat] at hlt
          · cases hgk with
            | betting _ hp => exact hp
            | runOut htrue =>
                rw [hall] at htrue
                cases htrue
  | playersTurn hrun =>
      obtain ⟨k, hk, hcases⟩ := engineLoop_cases hrun
      cases hcases with
      | playersTurn hsame hopen hall _ _ =>
          obtain ⟨hpre, hpost⟩ := going_playersTurn hc ho hg hk hsame hopen hall
          exact .waiting hall hpre hpost
  | foldDisconnected hrun =>
      obtain ⟨k, hk, hcases⟩ := engineLoop_cases hrun
      cases hcases with
      | playersTurn hsame hopen hall hplayer _ =>
          obtain ⟨hpre, hpost⟩ := going_playersTurn hc ho hg hk hsame hopen hall
          refine .betting ((perform_allInCondition _ _ _ _).trans hall) ?_
          cases hc with
          | loop hs _ hn _ =>
              cases ho with
              | loop hl hr _ =>
                  have ht := advance_turnRuns hr hl (two_contenders hn hk hopen) hk hsame hopen hall
                  exact poised_perform (hs.congr (frame_advance hk)) (hl.advance hk) ht hpre hpost hplayer .fold 0
  | endOfHand => exact .over
  | @accepted h h' id r req filled hplayer hrun =>
      cases hg with
      | waiting hall hpre hpost =>
          cases hc with
          | waitPlayerAction hs _ _ _ hcur hactive =>
              cases ho with
              | waitPlayerAction hl _ _ ht =>
                  have hcurrent := accepted_is_current hs hcur hactive hplayer hrun
                  subst hcurrent
                  obtain ⟨_, _, _, _, _, _, rfl⟩ := handleMyAction_accepted hrun
                  have hsame := sameLabels_setIsSessionActive h r true
                  refine .betting ((perform_allInCondition _ _ _ _).trans hall) ?_
                  exact poised_perform (hs.congr (frame_setIsSessionActive h r true)) (hl.congr hsame)
                    (turnRuns_setIsSessionActive ht r true) hpre
                    (fun hround => opening_setIsSessionActive (hpost hround) r true)
                    (getCurrentPlayer_setIsSessionActive hcur r true) _ _
  | @timeout h r hplayer =>
      cases hg with
      | waiting hall hpre hpost =>
          cases hc with
          | waitPlayerAction hs =>
              cases ho with
              | waitPlayerAction hl _ _ ht =>
                  have hpoised := poised_perform hs hl ht hpre hpost hplayer
                  simp only [timeoutAction]
                  split_ifs
                  · exact .betting ((perform_allInCondition _ _ _ _).trans hall) (hpoised .check 0)
                  · exact .betting ((perform_allInCondition _ _ _ _).trans hall) (hpoised .fold 0)

theorem going_start (hstart : Start maxPlayers g t s) : Going s := by
  obtain ⟨hr, v, elapsed, g', h, hrun, rfl⟩ := hstart
  have hc := (initHand_spec hr hrun).1
  obtain ⟨k, hk, hrun⟩ := bind_ok hrun
  obtain ⟨d, _, hrun⟩ := bind_ok hrun
  cases hrun
  obtain ⟨⟨sb, bb, hseats⟩, hposted⟩ := created_blinds hr hk
  obtain ⟨_, _, _, _, hfirst, hgui, _⟩ := newBeRo_spec (hc.beRo .preflop)
  have hpre : (h.skipFirstRunGui.start.myBeRo .preflop) = h.myBeRo .preflop := by
    simp [start, collectSets, skipFirstRunGui]
  have hround : h.skipFirstRunGui.start.currentRound = .preflop := hc.opened.round
  refine .betting hc.opened.allIn (.dealt (hseats.congr (frame_start h)) ⟨hposted.leaves, hposted.small, hposted.broke⟩
    hc.opened.running ?_ ?_ ⟨hround, fun s _ => ?_⟩)
  · rw [getCurrentBeRo, hround, hpre]
    exact hgui
  · rw [getCurrentBeRo, hround, hpre]
    exact hfirst
  · obtain ⟨_, _, _, _, htrue, _⟩ := newBeRo_spec (hc.beRo s)
    rw [← htrue]
    simp only [start, collectSets, setBoard_myBeRo, skipFirstRunGui]
    split_ifs <;> rfl

theorem going_reachable (htotal : tableCash t < 2 ^ 31) (hstart : Start maxPlayers g t s)
    (hrun : Reachable maxPlayers s s') :
    (Conserved maxPlayers (tableCash t) s' ∧ Ordered s') ∧ Going s' :=
  @Runs.invariant _ _ (fun s => (Conserved maxPlayers (tableCash t) s ∧ Ordered s) ∧ Going s) _ _
    ⟨⟨conserved_start hstart, ordered_start hstart⟩, going_start hstart⟩
    (fun _ _ hi hstep => ⟨⟨hi.1.1.step htotal hstep, ordered_step hi.1.1 hi.1.2 hstep⟩,
      going_step hi.1.1 hi.1.2 hi.2 hstep⟩) hrun

/-- No call of the engine loop fails. -/
theorem engineLoop_returns (htotal : tableCash t < 2 ^ 31) (hstart : Start maxPlayers g t s)
    (hrun : Reachable maxPlayers s ⟨h, .loop⟩) : ∃ out, h.engineLoop maxPlayers = .ok out := by
  obtain ⟨⟨hc, ho⟩, hg⟩ := going_reachable htotal hstart hrun
  exact engineLoop_ok htotal hc ho hg

/-- The blinds are called, both players go all in on the flop, and the engine is called on the river. -/
theorem engineLoop_returns_twoPlayers : ∃ s h out, Start 2 twoPlayersGame twoPlayers s ∧ Reachable 2 s ⟨h, .loop⟩ ∧
    h.currentRound = .river ∧ h.engineLoop 2 = .ok out := by
  obtain ⟨s, s', hstart, hrun, hcheck⟩ := exists_reachable ready_twoPlayers twoPlayersGame (fun _ => 0)
    [.loopTimer, .request 1 ⟨1, 0, .call, 5⟩, .loopTimer, .request 2 ⟨1, 0, .check, 0⟩, .loopTimer, .loopTimer,
      .request 2 ⟨1, 1, .allIn, 0⟩, .loopTimer, .request 1 ⟨1, 1, .allIn, 0⟩, .loopTimer, .loopTimer]
    (fun s => s.phase == .loop && s.hand.currentRound == .river) (by decide +kernel)
  obtain ⟨h, phase⟩ := s'
  simp only [Bool.and_eq_true, beq_iff_eq] at hcheck
  obtain ⟨rfl, hround⟩ := hcheck
  obtain ⟨out, hout⟩ := engineLoop_returns (by decide) hstart hrun
  exact ⟨s, h, out, hstart, hrun, hround, hout⟩

end PokerTH.HandRun
