import PokerTH.RunOut

namespace PokerTH.HandRun

open Hand PokerTH.Lists

variable {maxPlayers : Nat} {total : Int} {t : Table} {g : Game} {h h' k u : Hand} {s s' : State} {p q r : Ref}

/-- A player who has chips and has not folded is on the refreshed running list. -/
theorem running_of_chips (hl : Refreshed u) (hb : AllInBroke u) (hp : p ∈ u.activePlayerList)
    (hfold : (u.players p).myAction ≠ .fold) (hcash : 0 < (u.players p).myCash) : p ∈ u.runningPlayerList := by
  by_contra hout
  have hleave := hl.out p hp hout
  simp only [leavesRunning, Bool.or_eq_true, beq_iff_eq, hfold, false_or] at hleave
  rw [hb p hp hleave] at hcash
  omega

theorem allIn_of_out (hl : Refreshed u) (hp : p ∈ u.activePlayerList) (hfold : (u.players p).myAction ≠ .fold)
    (hout : p ∉ u.runningPlayerList) : (u.players p).myAction = .allIn := by
  have hleave := hl.out p hp hout
  simpa only [leavesRunning, Bool.or_eq_true, beq_iff_eq, hfold, false_or] using hleave

/-- The first exception: the small blind already has as much as anybody who is all in. -/
theorem owes_shortBigBlind (hs : Seated maxPlayers u) (hl : Refreshed u) (hb : BlindsPaid u)
    (hone : u.runningPlayerList = [p]) (hcash : 0 < (u.players p).myCash) (hshort : u.shortBigBlind = true)
    (hq : q ∈ u.activePlayerList) (hfold : (u.players q).myAction ≠ .fold) :
    (u.players q).mySet ≤ (u.players p).mySet := by
  obtain ⟨sb, bb, hseats⟩ := hb.seats
  simp only [shortBigBlind] at hshort
  split at hshort
  · next x y hx hy =>
      simp only [Bool.and_eq_true, beq_iff_eq, decide_eq_true_eq] at hshort
      obtain ⟨⟨⟨hround, _⟩, _⟩, hcount⟩ := hshort
      obtain ⟨hxmem, hxid⟩ := getRunningPlayerIt_some hx
      rw [hone, List.mem_singleton] at hxmem
      subst hxmem
      have hxrun : x ∈ u.runningPlayerList := by simp [hone]
      have hxactive := hl.sub.subset hxrun
      have hxsb : x = sb := by
        have hx' := hs.mem_active.mp hxactive
        have hsb' := hs.mem_active.mp hseats.small_mem
        refine hs.ids.eq_of_id sb hsb'.1 hsb'.2 x hx'.1 (hxid.trans ?_)
        rw [getCurrentBeRo, hseats.smallId]
        rfl
      have hposted : u.smallBlind ≤ (u.players x).mySet := by
        rcases hb.posted hround x hxactive ((hseats.small x hxactive).mpr hxsb) with hle | hzero
        · exact hle
        · omega
      by_cases hqx : q = x
      · rw [hqx]
      · have hqout : q ∉ u.runningPlayerList := by
          rw [hone, List.mem_singleton]
          exact hqx
        have hall := allIn_of_out hl hq hfold hqout
        have hset := of_countP_and (p := fun r => (u.players r).myAction == .allIn)
          (q := fun r => decide ((u.players r).mySet ≤ u.smallBlind)) hcount hq (by simpa using hall)
        rw [decide_eq_true_eq] at hset
        omega
  · cases hshort

/-- The second exception: in heads up the small blind has at least what the big blind could set. -/
theorem owes_shortHeadsUp (hl : Refreshed u) (hb : BlindsPaid u) (hone : u.runningPlayerList = [p])
    (hcash : 0 < (u.players p).myCash) (hshort : u.shortHeadsUpBigBlind = true) (hq : q ∈ u.activePlayerList) :
    (u.players q).mySet ≤ (u.players p).mySet := by
  obtain ⟨sb, bb, hseats⟩ := hb.seats
  simp only [shortHeadsUpBigBlind, List.any_eq_true, Bool.and_eq_true, beq_iff_eq, decide_eq_true_eq] at hshort
  obtain ⟨x, hx, ⟨⟨⟨hlen, hall⟩, hbutton⟩, hset⟩, hround⟩ := hshort
  have hxbb : x = bb := (hseats.big x hx).mp hbutton
  have hprun : p ∈ u.runningPlayerList := by simp [hone]
  have hpactive := hl.sub.subset hprun
  have hpx : p ≠ x := by
    rintro rfl
    have hstay := hl.stays p hprun
    simp [leavesRunning, hall] at hstay
  have hpair (r : Ref) (hr : r ∈ u.activePlayerList) : r = sb ∨ r = x :=
    hxbb ▸ eq_or_eq_of_length (by omega) hseats.small_mem hseats.big_mem hseats.ne hr
  have hpsb : p = sb := (hpair p hpactive).resolve_right hpx
  have hposted : u.smallBlind ≤ (u.players p).mySet := by
    rcases hb.posted hround p hpactive ((hseats.small p hpactive).mpr hpsb) with hle | hzero
    · exact hle
    · omega
  rcases hpair q hq with hqsb | hqx
  · rw [hqsb, hpsb]
  · rw [hqx]
    omega

theorem runOutFair_refreshed (hs : Seated maxPlayers u) (hl : Refreshed u) (hb : BlindsPaid u) (hlim : InLimits u)
    (hn : 2 ≤ u.nonFoldPlayerCounter) (hdetect : u.detectAllIn = true) : RunOutFair u := by
  have hcount := hl.nonFold hs
  simp only [detectAllIn, Bool.or_eq_true, Bool.and_eq_true, beq_iff_eq] at hdetect
  have hlen : u.runningPlayerList.length ≤ 1 := by
    rcases hdetect with hall | ⟨hone, _⟩
    · omega
    · omega
  have hrun (p : Ref) (hp : p ∈ u.activePlayerList) (hfold : (u.players p).myAction ≠ .fold)
      (hcash : 0 < (u.players p).myCash) : u.runningPlayerList = [p] := by
    have hmem := running_of_chips hl hb.broke hp hfold hcash
    have hpos := List.length_pos_of_mem hmem
    obtain ⟨x, hx⟩ := List.length_eq_one_iff.mp (by omega : u.runningPlayerList.length = 1)
    rw [hx] at hmem
    rw [hx, List.mem_singleton.mp hmem]
  refine ⟨hn, fun p hp q hq hfp hfq hcp hcq => ?_, fun p hp q hq hfp hfq hcp => ?_⟩
  · have hpq := (hrun p hp hfp hcp).symm.trans (hrun q hq hfq hcq)
    simpa using hpq
  · have hone := hrun p hp hfp hcp
    rcases hdetect with hall | ⟨_, (hset | hshort) | hshort⟩
    · rw [hone] at hcount
      simp only [List.length_singleton] at hcount
      omega
    · simp only [hone, List.any_cons, List.any_nil, Bool.or_false, decide_eq_true_eq] at hset
      exact le_trans (hlim.set_le q (hs.mem_active.mp hq).1) hset
    · exact owes_shortBigBlind hs hl hb hone hcp hshort hq hfq
    · exact owes_shortHeadsUp hl hb hone hcp hshort hq

theorem inLimits_refresh (hl : InLimits h) : InLimits h.refreshRunningPlayerList := by
  have hlim := sameLimits_refresh h
  have hf := frame_refresh h
  refine ⟨?_, fun s => ?_, fun s => ?_, fun s h0 => ?_, fun r hr => ?_⟩
  · rw [frame_smallBlind hf]
    exact hl.blind_pos
  · rw [hlim.highestSet]
    exact hl.highest_nonneg s
  · rw [hlim.minimumRaise, frame_smallBlind hf]
    exact hl.raise_ge s
  · rw [hlim.highestSet] at h0
    rw [hlim.minimumRaise, frame_smallBlind hf]
    exact hl.opening s h0
  · rw [frame_seatsList hf] at hr
    rw [getCurrentBeRo, hlim.highestSet, refresh_currentRound, refresh_players]
    exact hl.set_le r hr

theorem runOutFair_of_detected (hs : Seated maxPlayers h) (hl : Labelled h) (hb : BlindsPaid h) (hlim : InLimits h)
    (hn : 2 ≤ h.nonFoldPlayerCounter) (hdetect : h.refreshRunningPlayerList.detectAllIn = true) : RunOutFair h := by
  have hplayers := refresh_players h
  have hactive := frame_activePlayerList (frame_refresh h)
  have hb' : BlindsPaid h.refreshRunningPlayerList := hb.congr (frame_refresh h) (refresh_currentRound h)
    (fun r => by rw [hplayers]) (fun r => by rw [hplayers]) fun r => by rw [hplayers]
  have hfair := runOutFair_refreshed (hs.congr (frame_refresh h)) hl.refresh hb' (inLimits_refresh hlim)
    (by rwa [refresh_nonFoldPlayerCounter]) hdetect
  refine ⟨hn, ?_, ?_⟩
  · simpa only [hplayers, hactive] using hfair.chips
  · simpa only [hplayers, hactive] using hfair.owes

theorem closes_not_allIn (hbe : Betted maxPlayers h) (hp : Poised h) (hall : h.switchRounds.allInCondition = false)
    (hk : Closes h.switchRounds k) : k.switchRounds.allInCondition = false := by
  cases betting_engine hbe hp with
  | last _ hround =>
      cases hk with
      | afterFlop _ hopen => exact absurd hround hopen
      | preflopStart hround' =>
          rw [hround'] at hround
          cases hround
      | preflop hround' =>
          rw [hround'] at hround
          cases hround
  | runOut _ _ hout =>
      rw [hout.all] at hall
      cases hall
  | @preflop c v hround hu _ _ hv he =>
      have hsame : SameTable h.refreshRunningPlayerList h.switchRounds := hu ▸ sameTable_noteRound _
      have hpre : h.switchRounds.currentRound = .preflop := (hsame.round.trans (refresh_currentRound h)).trans hround
      cases hk with
      | afterFlop hne => exact absurd hpre hne
      | preflopStart _ hgui _ hfirst =>
          cases hv with
          | start _ hfirst' =>
              rw [hfirst] at hfirst'
              cases hfirst'
          | later hgui' =>
              rw [hgui] at hgui'
              cases hgui'
      | preflop _ hgui hfirst hset hk =>
          cases hv with
          | start hgui' =>
              rw [hgui] at hgui'
              cases hgui'
          | later =>
              cases he with
              | closes hj _ _ _ _ _ hall' =>
                  rw [hk] at hj
                  cases hj
                  exact hall'
              | asks _ _ hnot => exact absurd ⟨hfirst, hset⟩ hnot
  | postFlop hround _ hloop =>
      cases hk with
      | preflopStart hpre =>
          rcases switchRounds_currentRound h with hr | hr | ⟨_, htrue⟩
          · exact absurd (hr.symm.trans hpre) hround
          · rw [hr] at hpre
            cases hpre
          · rw [htrue] at hall
            cases hall
      | preflop hpre =>
          rcases switchRounds_currentRound h with hr | hr | ⟨_, htrue⟩
          · exact absurd (hr.symm.trans hpre) hround
          · rw [hr] at hpre
            cases hpre
          · rw [htrue] at hall
            cases hall
      | @afterFlop k _ hopen hgui hk hfirst hset =>
          have hr : h.switchRounds.currentRound = h.currentRound := by
            rcases switchRounds_currentRound h with hr | hr | ⟨_, htrue⟩
            · exact hr
            · exact absurd hr hopen
            · rw [htrue] at hall
              cases hall
          have hrun : h.advance = .ok k.closeRound := by
            rw [advance, if_neg (by simp [hall]), run_of_postFlop (by rwa [hr]) hopen]
            simp [localRun, hgui, hk, hfirst, hset, bind, Except.bind, pure, Except.pure]
          have hid : k.getCurrentBeRo.myBeRoID = k.currentRound := by
            have hf := restartTurn_keeps (P := fun k => k.frame = h.frame)
              (fun _ _ hb hk => (frame_setBeRo (BeRo.fixed_of_limits hb.limits)).trans hk) (frame_switchRounds h) hk
            exact (congrArg (fun b => b.myBeRoID) (frame_beRo hf k.currentRound)).trans (hbe.rounds.id _)
          have hkround := restartTurn_currentRound hk
          obtain ⟨k', hk', hcases⟩ := engineLoop_cases hloop
          rw [hrun] at hk'
          cases hk'
          cases hcases with
          | playersTurn hsame =>
              refine absurd ?_ (closeRound_currentRound hid (by rwa [hkround]))
              rw [hsame, hkround, hr]

theorem runOut_step (htotal : total < 2 ^ 31) (hp : Played maxPlayers total ⟨h, .loop⟩) (hall : h.allInCondition = true) :
    RunOutStep maxPlayers h := by
  obtain ⟨hc, ho, hg, _⟩ := hp
  cases hg with
  | betting hfalse =>
      rw [hall] at hfalse
      cases hfalse
  | runOut _ hn hcl =>
      cases hc with
      | loop hs hm hn1 hopen =>
          have hout := runsOut_of_detected hn (.inr hall)
          have hk := advance_allIn hout.all
          have hsets : h.board.sets = 0 := hm.collected.trans (cleared_sumSets hcl)
          have hpot : h.switchRounds.board.pot = h.board.pot := by
            rw [hout.pot, hsets, add_zero]
          have hnat := GameState.next_toNat hopen
          rw [← hout.round] at hnat
          by_cases hriver : h.currentRound = .river
          · have hround : h.switchRounds.currentRound = .postRiver := by rw [hout.round, hriver]; rfl
            obtain ⟨h', hloop⟩ := endOfHand_of_postRiver hs hm htotal hn1 hk hround
            exact .endOfHand hk hriver hround hloop hpot hout.cash
          · have hround : h.switchRounds.currentRound ≠ .postRiver := by
              rw [hout.round]
              intro hpost
              cases hr : h.currentRound <;> rw [hr] at hpost hriver hopen <;> simp [GameState.next] at hpost hriver hopen
            obtain ⟨out, hloop⟩ := engineLoop_ok htotal (.loop hs hm hn1 hopen) ho (.runOut hall hn hcl)
            obtain ⟨k, hk', hcases⟩ := engineLoop_cases hloop
            rw [hk] at hk'
            cases hk'
            cases hcases with
            | nextRound => exact .nextRound hk hloop hnat hout.all hpot hout.cash
            | playersTurn _ _ hfalse =>
                rw [hout.all] at hfalse
                cases hfalse
            | endOfHand hpost => exact absurd hpost hround

/-- From an all-in hand on, the loop timer alone brings the hand to its end. -/
theorem runOut_reaches (htotal : total < 2 ^ 31) (n : Nat) (hn : n + h.currentRound.toNat = 4)
    (hp : Played maxPlayers total ⟨h, .loop⟩) (hall : h.allInCondition = true) :
    ∃ h', play maxPlayers ⟨h, .loop⟩ (List.replicate n .loopTimer) = some ⟨h', .handOver⟩ ∧
      h'.currentRound = .postRiver := by
  have hopen : h.currentRound ≠ .postRiver := by
    cases hp.conserved with
    | loop _ _ _ hopen => exact hopen
  induction n generalizing h with
  | zero =>
      cases hr : h.currentRound <;> simp [hr, GameState.toNat] at hn hopen
  | succ n ih =>
      cases runOut_step htotal hp hall with
      | @nextRound h' _ _ hloop hround hall' =>
          have hfire : fire maxPlayers ⟨h, .loop⟩ .loopTimer = some ⟨h', .loop⟩ := by
            simp only [fire, hloop]
          have hp' := played_step htotal hp (fire_step hfire)
          have hopen' : h'.currentRound ≠ .postRiver := by
            cases hp'.conserved with
            | loop _ _ _ hopen => exact hopen
          obtain ⟨k, hplay, hk⟩ := ih (by omega) hp' hall' hopen'
          refine ⟨k, ?_, hk⟩
          rw [List.replicate_succ, play, hfire]
          exact hplay
      | @endOfHand h' _ hriver hround hloop =>
          have hzero : n = 0 := by
            rw [hriver] at hn
            simp only [GameState.toNat] at hn
            omega
          subst hzero
          refine ⟨h', ?_, ?_⟩
          · simp [play, fire, hloop]
          · obtain ⟨k, hk, hcases⟩ := engineLoop_cases hloop
            cases hcases with
            | endOfHand hpost hrun => rw [postRiverRun_currentRound hrun, hpost]

/-- The rules of all-in detection and run-out for one call of the engine loop. -/
structure RunOutRules (maxPlayers : Nat) (h : Hand) : Prop where
  fair : ∀ k, SwitchCall h k → k.allInCondition = false → k.switchRounds.allInCondition = true → RunOutFair k
  step : h.allInCondition = true → RunOutStep maxPlayers h
  reaches : h.allInCondition = true → ∃ n ≤ 4, ∃ h',
    play maxPlayers ⟨h, .loop⟩ (List.replicate n .loopTimer) = some ⟨h', .handOver⟩ ∧ h'.currentRound = .postRiver

theorem runOut_rules (htotal : tableCash t < 2 ^ 31) (hv : ValidBlinds g) (hstart : Start maxPlayers g t s)
    (hrun : Reachable maxPlayers s ⟨h, .loop⟩) : RunOutRules maxPlayers h := by
  have hp := played_reachable htotal hstart hrun
  have hlim : InLimits h := (inLimits_reachable htotal hv hstart hrun).2 nofun
  refine ⟨fun k hk hfalse htrue => ?_, runOut_step htotal hp, fun hall => ⟨4 - h.currentRound.toNat, by omega, ?_⟩⟩
  · cases hk with
    | loop =>
        have hb := betted_of_loop hp.conserved hp.ordered hfalse
        have hn := switchRounds_two hfalse htrue
        cases switchRounds_cases hb.nonFold hfalse with
        | last _ _ hall =>
            rw [hall] at htrue
            cases htrue
        | allIn hdetect => exact runOutFair_of_detected hb.seated hb.labelled (hp.blinds nofun) hlim hn hdetect
        | betting _ _ hu =>
            have hsame : SameTable h.refreshRunningPlayerList h.switchRounds := hu ▸ sameTable_noteRound _
            rw [hsame.all, refresh_allInCondition, hfalse] at htrue
            cases htrue
    | closes hall hk =>
        have hfalse' := switchRounds_allInCondition hall
        have hb := betted_of_loop hp.conserved hp.ordered hfalse'
        cases hp.going with
        | betting _ hpoised =>
            rw [closes_not_allIn hb hpoised hall hk] at htrue
            cases htrue
        | runOut hall' =>
            rw [hall'] at hfalse'
            cases hfalse'
  · exact runOut_reaches htotal _ (by
      have hle : h.currentRound.toNat ≤ 4 := by cases h.currentRound <;> decide
      omega) hp hall

/-- Both players go all in before the flop, and two cards are still to come. -/
theorem runOut_rules_twoPlayers : ∃ s h h', Start 2 twoPlayersGame twoPlayers s ∧ Reachable 2 s ⟨h, .loop⟩ ∧
    h.allInCondition = true ∧ h.currentRound = .flop ∧ RunOutRules 2 h ∧ RunOutStep 2 h ∧
    play 2 ⟨h, .loop⟩ (List.replicate 3 .loopTimer) = some ⟨h', .handOver⟩ := by
  obtain ⟨s, s', hstart, hrun, hcheck⟩ := exists_reachable ready_twoPlayers twoPlayersGame (fun _ => 0)
    [.loopTimer, .request 1 ⟨1, 0, .allIn, 0⟩, .loopTimer, .request 2 ⟨1, 0, .allIn, 0⟩, .loopTimer]
    (fun s => s.phase == .loop && s.hand.allInCondition && s.hand.currentRound == .flop &&
      (play 2 s (List.replicate 3 .loopTimer)).any fun u => u.phase == .handOver) (by decide +kernel)
  obtain ⟨h, phase⟩ := s'
  simp only [Bool.and_eq_true, beq_iff_eq] at hcheck
  obtain ⟨⟨⟨rfl, hall⟩, hround⟩, hend⟩ := hcheck
  obtain ⟨⟨h', phase⟩, hplay, hover⟩ := (Option.any_eq_true _ _).mp hend
  obtain rfl := beq_iff_eq.mp hover
  have hrules := runOut_rules (by decide) validBlinds_twoPlayersGame hstart hrun
  exact ⟨s, h, h', hstart, hrun, hall, hround, hrules, hrules.step hall, hplay⟩

def paysAtEnd (s : State) : Bool :=
  match s.phase, s.hand.engineLoop 2 with
  | .loop, .ok (.endOfHand h') => s.hand.allInCondition && h'.board.pot != s.hand.board.pot &&
      (h'.players 0).myCash != (s.hand.players 0).myCash
  | _, _ => false

/-- Both players go all in before the flop. The engine call on the river of this hand still pays out the pot. -/
theorem runOut_pays : ∃ s h h', Start 2 twoPlayersGame twoPlayers s ∧ Reachable 2 s ⟨h, .loop⟩ ∧
    h.allInCondition = true ∧ h.engineLoop 2 = .ok (.endOfHand h') ∧ h'.board.pot ≠ h.board.pot ∧
    ∃ r, (h'.players r).myCash ≠ (h.players r).myCash := by
  obtain ⟨s, s', hstart, hrun, hcheck⟩ := exists_reachable ready_twoPlayers twoPlayersGame (fun _ => 0)
    [.loopTimer, .request 1 ⟨1, 0, .allIn, 0⟩, .loopTimer, .request 2 ⟨1, 0, .allIn, 0⟩, .loopTimer, .loopTimer,
      .loopTimer]
    paysAtEnd (by decide +kernel)
  obtain ⟨h, phase⟩ := s'
  dsimp only [paysAtEnd] at hcheck
  split at hcheck
  · next hloop =>
      simp only [Bool.and_eq_true, bne_iff_ne] at hcheck
      exact ⟨s, h, _, hstart, hrun, hcheck.1.1, hloop, hcheck.1.2, 0, hcheck.2⟩
  · cases hcheck

end PokerTH.HandRun
