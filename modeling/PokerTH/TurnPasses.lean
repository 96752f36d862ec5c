import PokerTH.TurnOrderRun

namespace PokerTH.HandRun

open Hand PokerTH.Lists Relation

variable {maxPlayers : Nat} {t : Table} {g : Game} {h h' h₀ k k' u : Hand} {s s' : State} {r r' last cur : Ref}
  {id n q : Nat} {req filled : MyActionRequest} {action : PlayerAction} {bet : Int}

/-- An action of `r` that led from `h` to `k` and neither raised the highest set nor took `r` out. -/
def Quiet (h k : Hand) (r : Ref) : Prop :=
  k.getCurrentBeRo.highestSet = h.getCurrentBeRo.highestSet ∧ leavesRunning (k.players r) = false

/-- A betting round, seen from `h₀` on, in which the server waits for an action on `h` after `q`
quiet actions in a row. -/
inductive BettingRun (allowed : Hand → Ref → MyActionRequest → Prop) (maxPlayers : Nat) (h₀ : Hand) :
    Hand → Nat → Prop
  | start : BettingRun allowed maxPlayers h₀ h₀ 0
  | quiet {h k h' : Hand} {id q : Nat} {r r' : Ref} {req filled : MyActionRequest}
      (hrun : BettingRun allowed maxPlayers h₀ h q) (hplayer : h.getPlayerByUniqueId id = some r)
      (haccept : h.handleMyAction r req = .ok (.valid, filled, k)) (hallowed : allowed h r req)
      (hloop : k.engineLoop maxPlayers = .ok (.playersTurn h' r')) (hquiet : Quiet h k r) :
      BettingRun allowed maxPlayers h₀ h' (q + 1)
  | loud {h k h' : Hand} {id q : Nat} {r r' : Ref} {req filled : MyActionRequest}
      (hrun : BettingRun allowed maxPlayers h₀ h q) (hplayer : h.getPlayerByUniqueId id = some r)
      (haccept : h.handleMyAction r req = .ok (.valid, filled, k)) (hallowed : allowed h r req)
      (hloop : k.engineLoop maxPlayers = .ok (.playersTurn h' r')) (hloud : ¬ Quiet h k r) :
      BettingRun allowed maxPlayers h₀ h' 0

/-- The engine after an action of `r` that led from `h` to `k`: it gives the turn to the next running
player in seat order, and after `n` quiet actions in a row it closes the round. -/
structure TurnPasses (maxPlayers n : Nat) (h k : Hand) (r : Ref) (q : Nat) : Prop where
  runs : ∃ out, k.engineLoop maxPlayers = .ok out
  turn : ∀ h' r', k.engineLoop maxPlayers = .ok (.playersTurn h' r') →
    (Cyclic.after h.activePlayerList r).find? (fun p => decide (p ∈ h'.runningPlayerList)) = some r'
  closes : Quiet h k r → n ≤ q + 1 → ∃ out, k.engineLoop maxPlayers = .ok out ∧ ClosesRound k out

structure Waiting (maxPlayers : Nat) (h : Hand) (r : Ref) : Prop where
  seated : Seated maxPlayers h
  refreshed : Refreshed h
  opening : Opening h
  betting : BettingState h
  running : r ∈ h.runningPlayerList
  turn : h.getCurrentBeRo.currentPlayersTurnId = h.uniqueID r

theorem opening_reachable (htotal : tableCash t < 2 ^ 31) (hstart : Start maxPlayers g t s)
    (hrun : Reachable maxPlayers s ⟨h, .waitPlayerAction⟩) (hpre : h.currentRound ≠ .preflop) : Opening h := by
  rcases ReflTransGen.cases_tail hrun with heq | ⟨s₁, hrun₁, hstep⟩
  · obtain ⟨_, _, _, _, _, _, rfl⟩ := hstart
    cases heq
  · obtain ⟨hc, ho⟩ := ordered_reachable htotal hstart hrun₁
    cases hstep with
    | playersTurn hloop =>
        cases hc with
        | loop hs _ hn _ =>
            cases ho with
            | loop hl hr hf =>
                obtain ⟨k, hk, hcases⟩ := engineLoop_cases hloop
                cases hcases with
                | playersTurn hsame hopen hall _ _ => exact advance_opening hs hl hr hf hn hk hsame hpre hopen hall

theorem waiting_reachable (htotal : tableCash t < 2 ^ 31) (hv : ValidBlinds g) (hstart : Start maxPlayers g t s)
    (hrun : Reachable maxPlayers s ⟨h, .waitPlayerAction⟩) (hpre : h.currentRound ≠ .preflop)
    (hplayer : h.getPlayerByUniqueId id = some r) (haccept : h.handleMyAction r req = .ok (.valid, filled, k)) :
    Waiting maxPlayers h r := by
  have hopening := opening_reachable htotal hstart hrun hpre
  obtain ⟨hc, ho⟩ := ordered_reachable htotal hstart hrun
  have hlim := (inLimits_reachable htotal hv hstart hrun).2 nofun
  cases hc with
  | waitPlayerAction hs hm _ _ hcur hactive =>
      cases ho with
      | waitPlayerAction hl _ _ ht =>
          have hr := accepted_is_current hs hcur hactive hplayer haccept
          have hmem := currentPlayer_running hs hl.sub ht hcur
          subst hr
          refine ⟨hs, hl, hopening, hlim.bettingState hm, hmem, ?_⟩
          obtain ⟨p, hp, hid⟩ := ht
          simp only [getCurrentPlayer] at hcur
          split at hcur
          · cases hcur
          · next hfind =>
              cases hcur
              exact (findPlayer_some hfind).2.symm

theorem acted_reachable (htotal : tableCash t < 2 ^ 31) (hstart : Start maxPlayers g t s)
    (hrun : Reachable maxPlayers s ⟨k, .loop⟩) (hall : k.allInCondition = false) (hpre : k.currentRound ≠ .preflop) :
    Acted maxPlayers k := by
  obtain ⟨hc, ho⟩ := ordered_reachable htotal hstart hrun
  cases hc with
  | loop hs _ hn hopen =>
      cases ho with
      | loop hl hr _ => exact ⟨hs, hl, hr, hall, hn, hpre, hopen⟩

structure After (h k : Hand) (r : Ref) (action : PlayerAction) : Prop where
  frame : k.frame = h.frame
  running : k.runningPlayerList = h.runningPlayerList
  round : k.currentRound = h.currentRound
  all : k.allInCondition = h.allInCondition
  first : k.getCurrentBeRo.firstRound = h.getCurrentBeRo.firstRound
  turn : k.getCurrentBeRo.currentPlayersTurnId = h.getCurrentBeRo.currentPlayersTurnId
  others : ∀ p, p ≠ r → (k.players p).myAction = (h.players p).myAction
  action : (k.players r).myAction = action

theorem after_accepted (haccept : h.handleMyAction r req = .ok (.valid, filled, k)) :
    After h k r (h.fillIn r req).myAction := by
  obtain ⟨_, _, _, _, rfl, _, rfl⟩ := handleMyAction_accepted haccept
  refine ⟨(frame_performPlayerAction _ _ _ _).trans (frame_setIsSessionActive h r true),
    perform_runningPlayerList _ _ _ _, perform_currentRound _ _ _ _, perform_allInCondition _ _ _ _,
    perform_firstRound _ _ _ _, perform_currentPlayersTurnId _ _ _ _, fun p hp => ?_, perform_myAction _ _ _ _⟩
  rw [perform_players_of_ne _ _ _ _ hp, setIsSessionActive_myAction]

def leavingAction (action : PlayerAction) : Bool := action == .fold || action == .allIn

theorem After.leaves (ha : After h k r action) : leavesRunning (k.players r) = leavingAction action := by
  rw [leavesRunning, ha.action, leavingAction]

theorem After.refresh (ha : After h k r action) (hl : Refreshed h) :
    (k.runningPlayerList.filter fun p => !leavesRunning (k.players p)) =
      if leavingAction action then h.runningPlayerList.filter (fun p => decide (p ≠ r))
      else h.runningPlayerList := by
  rw [ha.running]
  have hother (p : Ref) (hp : p ∈ h.runningPlayerList) (hne : p ≠ r) : leavesRunning (k.players p) = false := by
    have hstay := hl.stays p hp
    rwa [leavesRunning, ha.others p hne]
  split_ifs with hleave
  · apply List.filter_congr
    intro p hp
    by_cases hpr : p = r
    · subst hpr
      simp [ha.leaves, hleave]
    · simp [hother p hp hpr, hpr]
  · rw [List.filter_eq_self]
    intro p hp
    by_cases hpr : p = r
    · subst hpr
      simpa [ha.leaves] using hleave
    · simp [hother p hp hpr]


theorem asked_betting (ha : Acted maxPlayers k) (hloop : k.engineLoop maxPlayers = .ok (.playersTurn h' r')) :
    Betting k k.switchRounds := by
  obtain ⟨u, hu, hcases⟩ := engineLoop_cases hloop
  cases hcases with
  | playersTurn hsame hopen _ _ _ =>
      cases engine_cases ha with
      | betting _ hb => exact hb
      | last _ hk hround =>
          rw [hk] at hu
          cases hu
          exact absurd hround hopen
      | allIn _ hk hround =>
          rw [hk] at hu
          cases hu
          have hnext := GameState.next_toNat ha.betting
          rw [← hround, hsame] at hnext
          omega

theorem quiet_call (hw : Waiting maxPlayers h r) (howes : (h.players r).mySet < h.getCurrentBeRo.highestSet)
    (haccept : h.handleMyAction r req = .ok (.valid, filled, k))
    (hstay : leavingAction (h.fillIn r req).myAction = false) (hquiet : Quiet h k r) :
    0 < (h.players r).myCash ∧
      ((k.players r).mySet < k.getCurrentBeRo.highestSet → (k.players r).myCash = 0) := by
  obtain ⟨_, _, _, _, rfl, hcheck, rfl⟩ := handleMyAction_accepted haccept
  have hhigh := hquiet.1
  have hb := hw.betting
  have hseat := (hw.seated.mem_active.mp (hw.refreshed.sub.subset hw.running)).1
  have hset0 := hb.set_nonneg r hseat
  have hcash0 := hb.cash_nonneg r hseat
  have hblind := hb.blind_pos
  have hraise := hb.raise_ge
  simp only [checkMyAction] at hcheck
  cases ha : (h.fillIn r req).myAction with
  | none => simp [ha, Player.checkMyAction] at hcheck
  | fold | allIn => simp [ha, leavingAction] at hstay
  | check =>
      rw [ha, Player.checkMyAction_check] at hcheck
      omega
  | bet =>
      rw [ha, Player.checkMyAction_bet] at hcheck
      omega
  | raise =>
      rw [ha, Player.checkMyAction_raise] at hcheck
      rw [ha, perform_highestSet_active _ _ _ _ (by decide), bettor_mySet, setIsSessionActive_mySet,
        setIsSessionActive_myCash, Player.clampToCash_of_le (by omega) hcheck.2.2] at hhigh
      simp only [setIsSessionActive_getCurrentBeRo] at hhigh
      omega
  | call =>
      rw [ha] at hcheck
      obtain ⟨hpos, howed⟩ := Player.checkMyAction_call hcheck
      refine ⟨hpos, fun hlt => ?_⟩
      rw [ha] at hhigh
      rw [hhigh, perform_players_active _ _ _ _ (by decide)] at hlt
      rw [perform_players_active _ _ _ _ (by decide)]
      simp only [updatePlayer, Function.update_self] at hlt ⊢
      rw [bettor_mySet, setIsSessionActive_mySet, setIsSessionActive_myCash,
        Player.clampToCash_of_le (by omega) (by omega)] at hlt
      rw [bettor_myCash (by simpa using hcash0), setIsSessionActive_myCash,
        Player.clampToCash_of_le (by omega) (by omega)]
      omega

/-- With two players left to act, the turn was given to the one after the last before the small blind. -/
theorem Waiting.follows (hw : Waiting maxPlayers h r) (htwo : 2 ≤ h.runningPlayerList.length) :
    h.getCurrentBeRo.firstRound = true ∧ ∃ last ∈ h.runningPlayerList,
      h.lastBeforeSmallBlind = .ok (h.uniqueID last) ∧ Cyclic.next h.runningPlayerList last = r ∧ last ≠ r := by
  obtain ⟨hfirst, last, hmem, hlast, hturn⟩ := hw.opening.first htwo
  have hnext := uniqueID_inj hw.seated hw.refreshed.sub hw.running (Cyclic.next_mem hmem) (hturn.symm.trans hw.turn)
  refine ⟨hfirst, last, hmem, hlast, hnext, ?_⟩
  rintro rfl
  rw [Cyclic.eq_singleton_of_next (running_nodup hw.seated hw.refreshed.sub) hmem hnext] at htwo
  simp at htwo

theorem After.lastPlayer (ha : After h k r action) (hw : Waiting maxPlayers h r) (hmem : last ∈ h.runningPlayerList)
    (hlast : h.lastBeforeSmallBlind = .ok (h.uniqueID last)) : k.lastBeforeSmallBlind = .ok (k.uniqueID last) := by
  have hsame := ha.running
  exact lastBeforeSmallBlind_shrink hw.seated hw.refreshed.sub (by rw [hsame]) (by rwa [hsame]) ha.frame ha.round hlast

/-- The next running player in seat order, by his place in the running list. -/
theorem next_in_seat_order (hs : Seated maxPlayers h) {l : List Ref} (hsub : l.Sublist h.activePlayerList)
    (hmem : r ∈ l) : (Cyclic.after h.activePlayerList r).find? (fun p => decide (p ∈ l)) = some (Cyclic.next l r) := by
  have hfilter := filter_mem_of_sublist hsub hs.active_nodup
  rw [Cyclic.next_filter (hsub.subset hmem) (by simpa using hmem), hfilter]

theorem Betting.running_after (hb : Betting k u) (ha : After h k r action) (hw : Waiting maxPlayers h r) :
    u.runningPlayerList = if leavingAction action then h.runningPlayerList.filter (fun p => decide (p ≠ r))
      else h.runningPlayerList := by
  rw [hb.running, ha.refresh hw.refreshed]

theorem leaving_asks (hw : Waiting maxPlayers h r) (htwo : 2 ≤ h.runningPlayerList.length)
    (ha : After h k r action) (hact : Acted maxPlayers k) (hleave : leavingAction action = true)
    (hb : Betting k u) : ∃ k' r', k.engineLoop maxPlayers = .ok (.playersTurn k' r') ∧
      (Cyclic.after h.activePlayerList r).find? (fun p => decide (p ∈ k'.runningPlayerList)) = some r' := by
  obtain ⟨hfirst, last, hmem, hlast, hnext, hne⟩ := hw.follows htwo
  have hrunning := hb.running_after ha hw
  rw [if_pos hleave] at hrunning
  have hmem' : last ∈ u.runningPlayerList := by
    rw [hrunning]
    simpa using ⟨hmem, hne⟩
  have hsub : u.runningPlayerList.Sublist h.activePlayerList := by
    rw [hrunning]
    exact List.filter_sublist.trans hw.refreshed.sub
  obtain ⟨k', hloop, hsame⟩ := Betting.first_asks hact hb (ha.first.trans hfirst) hmem' (ha.lastPlayer hw hmem hlast)
  refine ⟨k', _, hloop, ?_⟩
  have hturn := next_in_seat_order hw.seated hw.refreshed.sub hmem
  rw [hnext] at hturn
  rw [hsame, ← next_in_seat_order hw.seated hsub hmem']
  refine Cyclic.find_after_next hw.seated.active_nodup (hw.refreshed.sub.subset hmem) hturn (fun p hp => ?_) ?_ ?_
  · rw [hrunning] at hp
    simp only [List.mem_filter, decide_eq_true_eq] at hp ⊢
    exact hp.1
  · rw [hrunning]
    simp
  · simpa using hmem'

theorem staying_asks (hw : Waiting maxPlayers h r) (htwo : 2 ≤ h.runningPlayerList.length)
    (ha : After h k r action) (hact : Acted maxPlayers k) (hstay : leavingAction action = false) :
    ∃ k', k.engineLoop maxPlayers = .ok (.playersTurn k' r) ∧ k'.runningPlayerList = h.runningPlayerList := by
  obtain ⟨hfirst, last, hmem, hlast, hnext, hne⟩ := hw.follows htwo
  have hrefresh : k.refreshRunningPlayerList.runningPlayerList = h.runningPlayerList := by
    rw [refresh_runningPlayerList, ha.refresh hw.refreshed, hstay]
    rfl
  have hb := engine_betting hact (by rwa [hrefresh])
  have hrunning := hb.running_after ha hw
  simp only [hstay, Bool.false_eq_true, if_false] at hrunning
  obtain ⟨k', hloop, hsame⟩ := Betting.first_asks hact hb (ha.first.trans hfirst) (by rwa [hrunning])
    (ha.lastPlayer hw hmem hlast)
  rw [hrunning, hnext] at hloop
  exact ⟨k', hloop, hsame.trans hrunning⟩

/-- Nobody is asked once the last player to act has folded or is all in. -/
theorem alone_leaves (hw : Waiting maxPlayers h r) (hone : h.runningPlayerList = [r]) (ha : After h k r action)
    (hact : Acted maxPlayers k) (hleave : leavingAction action = true) : ¬ Betting k u := by
  intro hb
  have hnil : k.refreshRunningPlayerList.runningPlayerList = [] := by
    rw [refresh_runningPlayerList, ha.refresh hw.refreshed, hleave, hone]
    simp
  have hdetect := detectAllIn_of_nil hact.labelled.refresh.toLabelled hnil
  rw [hb.detect] at hdetect
  cases hdetect

theorem alone_stays (hw : Waiting maxPlayers h r) (hone : h.runningPlayerList = [r]) (ha : After h k r action)
    (hact : Acted maxPlayers k) (hstay : leavingAction action = false) (hb : Betting k u) :
    (k.players r).mySet < k.getCurrentBeRo.highestSet ∧ ∃ k', k.engineLoop maxPlayers = .ok (.playersTurn k' r) ∧
      k'.runningPlayerList = [r] ∧ k'.players = k.players := by
  refine Betting.alone_asks hact hb (ha.first.trans (hw.opening.alone r hone).1) (ha.running.trans hone) ?_ ?_
  · rw [ha.leaves, hstay]
  · rw [ha.turn, hw.turn]
    exact (frame_myUniqueID ha.frame r).symm

theorem Waiting.alone (hw : Waiting maxPlayers h r) (hlen : h.runningPlayerList.length ≤ 1) :
    h.runningPlayerList = [r] := by
  have hr := hw.running
  match h.runningPlayerList, hlen, hr with
  | [p], _, hr => rw [List.mem_singleton.mp hr]

def LeavesRound (h : Hand) (r : Ref) (req : MyActionRequest) : Prop :=
  (h.fillIn r req).myAction = .fold ∨ (h.fillIn r req).myAction = .allIn ∨ h.runningPlayerList.length ≤ 1

theorem leavesRound_iff : LeavesRound h r req ↔
    leavingAction (h.fillIn r req).myAction = true ∨ h.runningPlayerList.length ≤ 1 := by
  simp [LeavesRound, leavingAction, or_assoc]

/-- At most one quiet action is counted, by which the last player to act spent his last chips. -/
def Counted (h : Hand) (q : Nat) : Prop := q = 0 ∨ q = 1 ∧ ∀ p ∈ h.runningPlayerList, (h.players p).myCash = 0

structure Answered (maxPlayers : Nat) (h k : Hand) (r : Ref) (req : MyActionRequest) : Prop where
  waiting : Waiting maxPlayers h r
  after : After h k r (h.fillIn r req).myAction
  acted : Acted maxPlayers k

theorem answered_reachable (htotal : tableCash t < 2 ^ 31) (hv : ValidBlinds g) (hstart : Start maxPlayers g t s)
    (hrun : Reachable maxPlayers s ⟨h, .waitPlayerAction⟩) (hpre : h.currentRound ≠ .preflop)
    (hplayer : h.getPlayerByUniqueId id = some r) (haccept : h.handleMyAction r req = .ok (.valid, filled, k)) :
    Reachable maxPlayers s ⟨k, .loop⟩ ∧ Answered maxPlayers h k r req := by
  have hw := waiting_reachable htotal hv hstart hrun hpre hplayer haccept
  have ha := after_accepted haccept
  have hrun' : Reachable maxPlayers s ⟨k, .loop⟩ := hrun.tail (.accepted hplayer haccept)
  have hall : k.allInCondition = false := ha.all.trans hw.opening.all
  exact ⟨hrun', hw, ha, acted_reachable htotal hstart hrun' hall (by rwa [ha.round])⟩

/-- A quiet action after which the round stays open was the first one in a row. -/
theorem Answered.counted (ha : Answered maxPlayers h k r req) (hleaves : LeavesRound h r req)
    (haccept : h.handleMyAction r req = .ok (.valid, filled, k)) (hcount : Counted h q) (hquiet : Quiet h k r)
    (hloop : k.engineLoop maxPlayers = .ok (.playersTurn h' r')) : Counted h' (q + 1) := by
  have hstay : leavingAction (h.fillIn r req).myAction = false := by
    rw [← ha.after.leaves]
    exact hquiet.2
  have hone := ha.waiting.alone ((leavesRound_iff.mp hleaves).resolve_left (by simp [hstay]))
  obtain ⟨hpos, hshort⟩ := quiet_call ha.waiting (ha.waiting.opening.alone r hone).2 haccept hstay hquiet
  obtain ⟨howes, k', hloop', hrunning, hplayers⟩ :=
    alone_stays ha.waiting hone ha.after ha.acted hstay (asked_betting ha.acted hloop)
  rw [hloop] at hloop'
  cases hloop'
  rcases hcount with rfl | ⟨_, hbroke⟩
  · refine .inr ⟨rfl, fun p hp => ?_⟩
    rw [hrunning, List.mem_singleton] at hp
    rw [hp, hplayers]
    exact hshort howes
  · have h0 := hbroke r ha.waiting.running
    omega

theorem bettingRun_reachable (htotal : tableCash t < 2 ^ 31) (hv : ValidBlinds g) (hstart : Start maxPlayers g t s)
    (hrun₀ : Reachable maxPlayers s ⟨h₀, .waitPlayerAction⟩) (hpre : h₀.currentRound ≠ .preflop)
    (hturns : BettingRun LeavesRound maxPlayers h₀ h q) :
    Reachable maxPlayers s ⟨h, .waitPlayerAction⟩ ∧ h.currentRound = h₀.currentRound ∧ Counted h q := by
  have hround {k h' : Hand} {r' : Ref} (hloop : k.engineLoop maxPlayers = .ok (.playersTurn h' r')) :
      h'.currentRound = k.currentRound := by
    obtain ⟨_, _, hcases⟩ := engineLoop_cases hloop
    cases hcases with
    | playersTurn hsame => exact hsame
  induction hturns with
  | start => exact ⟨hrun₀, rfl, .inl rfl⟩
  | quiet _ hplayer haccept hleaves hloop hquiet ih =>
      obtain ⟨hrun, hsame, hcount⟩ := ih
      obtain ⟨hrun', ha⟩ := answered_reachable htotal hv hstart hrun (by rwa [hsame]) hplayer haccept
      exact ⟨hrun'.tail (.playersTurn hloop), (hround hloop).trans (ha.after.round.trans hsame),
        ha.counted hleaves haccept hcount hquiet hloop⟩
  | loud _ hplayer haccept _ hloop _ ih =>
      obtain ⟨hrun, hsame, _⟩ := ih
      obtain ⟨hrun', ha⟩ := answered_reachable htotal hv hstart hrun (by rwa [hsame]) hplayer haccept
      exact ⟨hrun'.tail (.playersTurn hloop), (hround hloop).trans (ha.after.round.trans hsame), .inl rfl⟩

/-- The engine never fails after an action, provided that it asks somebody when the betting goes on. -/
theorem engine_returns (htotal : tableCash t < 2 ^ 31) (hstart : Start maxPlayers g t s)
    (hrun : Reachable maxPlayers s ⟨k, .loop⟩) (ha : Acted maxPlayers k)
    (hasks : Betting k k.switchRounds → ∃ k' r', k.engineLoop maxPlayers = .ok (.playersTurn k' r')) :
    ∃ out, k.engineLoop maxPlayers = .ok out := by
  cases engine_cases ha with
  | last _ hk hround =>
      obtain ⟨h', hloop⟩ := endOfHand_ok htotal hstart hrun hk hround
      exact ⟨_, hloop⟩
  | allIn _ hk hround =>
      obtain ⟨out, hloop, _⟩ := engineLoop_close (endOfHand_ok htotal hstart hrun hk) hk hround ha.betting
      exact ⟨out, hloop⟩
  | betting _ hb =>
      obtain ⟨k', r', hloop⟩ := hasks hb
      exact ⟨_, hloop⟩

/-- What the engine does when the betting goes on decides whether the turn passes. -/
theorem turnPasses_of_asks {n : Nat} (htotal : tableCash t < 2 ^ 31) (hstart : Start maxPlayers g t s)
    (hrun : Reachable maxPlayers s ⟨k, .loop⟩) (ha : Acted maxPlayers k)
    (hasks : Betting k k.switchRounds → ∃ k' r', k.engineLoop maxPlayers = .ok (.playersTurn k' r') ∧
      (Cyclic.after h.activePlayerList r).find? (fun p => decide (p ∈ k'.runningPlayerList)) = some r')
    (hcount : Quiet h k r → q + 1 < n) : TurnPasses maxPlayers n h k r q := by
  refine ⟨engine_returns htotal hstart hrun ha fun hb => ?_, fun h' r' hloop => ?_, fun hquiet hle => ?_⟩
  · obtain ⟨k', r', hloop, _⟩ := hasks hb
    exact ⟨k', r', hloop⟩
  · obtain ⟨k', r'', hloop', hturn⟩ := hasks (asked_betting ha hloop)
    rw [hloop] at hloop'
    cases hloop'
    exact hturn
  · have hlt := hcount hquiet
    omega

/-- After the flop the turn passes in seat order, and the round closes in time, as long as every player
who acts leaves the round or is the last one to act; any other action hands the turn to the same player. -/
theorem turnPasses_iff (htotal : tableCash t < 2 ^ 31) (hv : ValidBlinds g) (hstart : Start maxPlayers g t s)
    (hrun₀ : Reachable maxPlayers s ⟨h₀, .waitPlayerAction⟩) (hpre : h₀.currentRound ≠ .preflop)
    (htwo : 2 ≤ h₀.runningPlayerList.length) (hturns : BettingRun LeavesRound maxPlayers h₀ h q)
    (hplayer : h.getPlayerByUniqueId id = some r) (haccept : h.handleMyAction r req = .ok (.valid, filled, k)) :
    TurnPasses maxPlayers h₀.runningPlayerList.length h k r q ↔ LeavesRound h r req := by
  obtain ⟨hrun, hround, hcount⟩ := bettingRun_reachable htotal hv hstart hrun₀ hpre hturns
  obtain ⟨hrun', hw, ha, hact⟩ := answered_reachable htotal hv hstart hrun (by rwa [hround]) hplayer haccept
  rw [leavesRound_iff]
  by_cases hlen : h.runningPlayerList.length ≤ 1
  · have hone := hw.alone hlen
    refine iff_of_true (turnPasses_of_asks htotal hstart hrun' hact (fun hb => ?_) fun hquiet => ?_) (.inr hlen)
    · by_cases hleave : leavingAction (h.fillIn r req).myAction = true
      · exact absurd hb (alone_leaves hw hone ha hact hleave)
      · rw [Bool.not_eq_true] at hleave
        obtain ⟨_, k', hloop, hrunning, _⟩ := alone_stays hw hone ha hact hleave hb
        refine ⟨k', r, hloop, ?_⟩
        rw [hrunning, ← hone, next_in_seat_order hw.seated hw.refreshed.sub hw.running, hone]
        simp [Cyclic.next, Cyclic.after]
    · have hstay : leavingAction (h.fillIn r req).myAction = false := by
        rw [← ha.leaves]
        exact hquiet.2
      have hpos := (quiet_call hw (hw.opening.alone r hone).2 haccept hstay hquiet).1
      rcases hcount with rfl | ⟨_, hbroke⟩
      · omega
      · have h0 := hbroke r hw.running
        omega
  · by_cases hleave : leavingAction (h.fillIn r req).myAction = true
    · refine iff_of_true (turnPasses_of_asks htotal hstart hrun' hact (fun hb => ?_) fun hquiet => ?_) (.inl hleave)
      · exact leaving_asks hw (by omega) ha hact hleave hb
      · have hstay := hquiet.2
        rw [ha.leaves, hleave] at hstay
        cases hstay
    · rw [Bool.not_eq_true] at hleave
      refine iff_of_false (fun hpass => ?_) (by simp [hleave, hlen])
      obtain ⟨k', hloop, hrunning⟩ := staying_asks hw (by omega) ha hact hleave
      have hturn := hpass.turn k' r hloop
      rw [hrunning, next_in_seat_order hw.seated hw.refreshed.sub hw.running, Option.some.injEq] at hturn
      rw [Cyclic.eq_singleton_of_next (running_nodup hw.seated hw.refreshed.sub) hw.running hturn] at hlen
      simp at hlen

def asksOther (k : Hand) : Bool :=
  match k.engineLoop 2 with
  | .ok (.playersTurn _ r) => r == 0
  | _ => false

/-- The big blind, first to act on the flop, goes all in, and the small blind is asked. -/
theorem turnPasses_iff_allIn : ∃ h k filled h', h.currentRound = .flop ∧
    h.handleMyAction 1 ⟨1, 1, .allIn, 0⟩ = .ok (.valid, filled, k) ∧ k.engineLoop 2 = .ok (.playersTurn h' 0) ∧
    TurnPasses 2 h.runningPlayerList.length h k 1 0 := by
  obtain ⟨s, s', hstart, hrun, hcheck⟩ := exists_reachable ready_twoPlayers twoPlayersGame (fun _ => 0)
    [.loopTimer, .request 1 ⟨1, 0, .call, 5⟩, .loopTimer, .request 2 ⟨1, 0, .check, 0⟩, .loopTimer, .loopTimer]
    (answers 1 ⟨1, 1, .allIn, 0⟩ fun h _ k => h.getPlayerByUniqueId 2 == some 1 && h.currentRound == .flop &&
      h.runningPlayerList.length == 2 && (h.fillIn 1 ⟨1, 1, .allIn, 0⟩).myAction == .allIn && asksOther k)
    (by decide +kernel)
  obtain ⟨h, filled, k, rfl, haccept, hgood⟩ := answers_spec hcheck
  simp only [Bool.and_eq_true, beq_iff_eq] at hgood
  obtain ⟨⟨⟨⟨hplayer, hround⟩, hlen⟩, hallIn⟩, hasked⟩ := hgood
  simp only [asksOther] at hasked
  split at hasked
  · next h' r hloop =>
      cases beq_iff_eq.mp hasked
      have hiff := turnPasses_iff (by decide) validBlinds_twoPlayersGame hstart hrun (by simp [hround]) hlen.ge .start
        hplayer haccept
      exact ⟨h, k, filled, h', hround, haccept, hloop, hiff.mpr (.inr (.inl hallIn))⟩
  · cases hasked

/-- The player on seat 1 is asked next, though the player on seat 0 comes after him. -/
def asksAgain (h k : Hand) : Bool :=
  match k.engineLoop 2 with
  | .ok (.playersTurn h' r) => r == 1 &&
      (Cyclic.after h.activePlayerList 1).find? (fun p => decide (p ∈ h'.runningPlayerList)) == some 0
  | _ => false

/-- The big blind, first to act on the flop, checks, and is asked again. -/
theorem checker_asked_again : ∃ s h k filled h', Start 2 twoPlayersGame twoPlayers s ∧
    Reachable 2 s ⟨h, .waitPlayerAction⟩ ∧ h.currentRound = .flop ∧ h.allInCondition = false ∧
    h.runningPlayerList.length = 2 ∧ h.getPlayerByUniqueId 2 = some 1 ∧
    h.handleMyAction 1 ⟨1, 1, .check, 0⟩ = .ok (.valid, filled, k) ∧
    k.engineLoop 2 = .ok (.playersTurn h' 1) ∧
    (Cyclic.after h.activePlayerList 1).find? (fun p => decide (p ∈ h'.runningPlayerList)) = some 0 := by
  obtain ⟨s, s', hstart, hrun, hcheck⟩ := exists_reachable ready_twoPlayers twoPlayersGame (fun _ => 0)
    [.loopTimer, .request 1 ⟨1, 0, .call, 5⟩, .loopTimer, .request 2 ⟨1, 0, .check, 0⟩, .loopTimer, .loopTimer]
    (answers 1 ⟨1, 1, .check, 0⟩ fun h _ k => h.getPlayerByUniqueId 2 == some 1 && h.currentRound == .flop &&
      h.runningPlayerList.length == 2 && h.allInCondition == false && asksAgain h k) (by decide +kernel)
  obtain ⟨h, filled, k, rfl, haccept, hgood⟩ := answers_spec hcheck
  simp only [Bool.and_eq_true, beq_iff_eq] at hgood
  obtain ⟨⟨⟨⟨hplayer, hround⟩, hlen⟩, hall⟩, hasked⟩ := hgood
  simp only [asksAgain] at hasked
  split at hasked
  · next h' r hloop =>
      simp only [Bool.and_eq_true, beq_iff_eq] at hasked
      obtain ⟨rfl, hturn⟩ := hasked
      exact ⟨s, h, k, filled, h', hstart, hrun, hround, hall, hlen, hplayer, haccept, hloop, hturn⟩
  · cases hasked

end PokerTH.HandRun
