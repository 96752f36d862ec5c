import PokerTH.ServerHand

namespace PokerTH

def Player.fixed (p : Player) : Player :=
  { p with
    isSessionActive := true
    myCash := 0
    mySet := 0
    myLastRelativeSet := 0
    myAction := .none
    lastMoneyWon := 0 }

def BeRo.fixed (b : BeRo) : BeRo :=
  { b with
    highestSet := 0
    minimumRaise := 0
    firstRound := true
    firstRunGui := true
    currentPlayersTurnId := 0
    firstRoundLastPlayersTurnId := 0 }

def BeRo.limits (b : BeRo) : BeRo :=
  { b with
    firstRound := true
    firstRunGui := true
    currentPlayersTurnId := 0
    firstRoundLastPlayersTurnId := 0 }

/-- What a run of the betting round may do to its object: move the turn and leave the first round. -/
structure BeRo.Moved (b b' : BeRo) : Prop where
  limits : b'.limits = b.limits
  gui : b'.firstRunGui = true → b.firstRunGui = true
  first : b'.firstRound = true → b.firstRound = true

theorem BeRo.fixed_of_limits {b b' : BeRo} (hb : b'.limits = b.limits) : b'.fixed = b.fixed := by
  have hf : b'.limits.fixed = b.limits.fixed := congrArg BeRo.fixed hb
  exact hf

namespace Hand

def frame (h : Hand) : Hand :=
  { h with
    players := fun r => (h.players r).fixed
    runningPlayerList := []
    board := ⟨0, 0, false, 0, [], []⟩
    myBeRo := fun s => (h.myBeRo s).fixed
    currentRound := .preflop
    roundBeforePostRiver := .preflop
    lastActionPlayerID := 0
    allInCondition := false
    cardsShown := false }

variable {h h' : Hand}

theorem frame_seatsList (hf : h'.frame = h.frame) : h'.seatsList = h.seatsList :=
  congrArg (fun h => h.seatsList) hf

theorem frame_activePlayerList (hf : h'.frame = h.frame) : h'.activePlayerList = h.activePlayerList :=
  congrArg (fun h => h.activePlayerList) hf

theorem frame_smallBlind (hf : h'.frame = h.frame) : h'.smallBlind = h.smallBlind :=
  congrArg (fun h => h.smallBlind) hf

theorem frame_fixed (hf : h'.frame = h.frame) (r : Ref) : (h'.players r).fixed = (h.players r).fixed :=
  congrArg (fun h => h.players r) hf

theorem frame_myUniqueID (hf : h'.frame = h.frame) (r : Ref) :
    (h'.players r).myUniqueID = (h.players r).myUniqueID :=
  congrArg (fun h => (h.players r).myUniqueID) hf

theorem frame_myActiveStatus (hf : h'.frame = h.frame) (r : Ref) :
    (h'.players r).myActiveStatus = (h.players r).myActiveStatus :=
  congrArg (fun h => (h.players r).myActiveStatus) hf

theorem frame_myCardsValueInt (hf : h'.frame = h.frame) (r : Ref) :
    (h'.players r).myCardsValueInt = (h.players r).myCardsValueInt :=
  congrArg (fun h => (h.players r).myCardsValueInt) hf

theorem frame_myRoundStartCash (hf : h'.frame = h.frame) (r : Ref) :
    (h'.players r).myRoundStartCash = (h.players r).myRoundStartCash :=
  congrArg (fun h => (h.players r).myRoundStartCash) hf

theorem frame_beRo (hf : h'.frame = h.frame) (s : GameState) : (h'.myBeRo s).fixed = (h.myBeRo s).fixed :=
  congrArg (fun h => h.myBeRo s) hf

theorem frame_setPlayers {players : Players} (hp : ∀ r, (players r).fixed = (h.players r).fixed) :
    (h.setPlayers players).frame = h.frame := by
  have he : (fun r => (players r).fixed) = fun r => (h.players r).fixed := funext hp
  simp only [frame, setPlayers, he]

theorem frame_setBeRo {b : BeRo} (hb : b.fixed = h.getCurrentBeRo.fixed) : (h.setBeRo b).frame = h.frame := by
  have he : (fun s => (Function.update h.myBeRo h.currentRound b s).fixed) = fun s => (h.myBeRo s).fixed := by
    funext s
    by_cases hs : s = h.currentRound
    · subst hs
      rw [Function.update_self]
      exact hb
    · rw [Function.update_of_ne hs]
  simp only [frame, setBeRo, he]

@[simp] theorem frame_setCurrentPlayersTurnId (h : Hand) (uniqueId : Nat) :
    (h.setCurrentPlayersTurnId uniqueId).frame = h.frame := frame_setBeRo rfl

@[simp] theorem frame_setFirstRoundLastPlayersTurnId (h : Hand) (uniqueId : Nat) :
    (h.setFirstRoundLastPlayersTurnId uniqueId).frame = h.frame := frame_setBeRo rfl

@[simp] theorem frame_setFirstRound (h : Hand) (b : Bool) : (h.setFirstRound b).frame = h.frame :=
  frame_setBeRo rfl

@[simp] theorem frame_setFirstRunGui (h : Hand) (b : Bool) : (h.setFirstRunGui b).frame = h.frame :=
  frame_setBeRo rfl

theorem fixed_updatePlayer {players : Players} {r : Ref} {f : Player → Player}
    (hf : ∀ p, (f p).fixed = p.fixed) (q : Ref) : (updatePlayer players r f q).fixed = (players q).fixed := by
  by_cases hq : q = r
  · subst hq
    simp [updatePlayer, hf]
  · simp [updatePlayer, hq]

theorem fixed_updateAll {players : Players} {l : List Ref} {f : Player → Player}
    (hf : ∀ p, (f p).fixed = p.fixed) (q : Ref) : (updateAll players l f q).fixed = (players q).fixed := by
  simp only [updateAll]
  split_ifs
  · exact hf _
  · rfl

theorem frame_collectPot (h : Hand) : h.collectPot.frame = h.frame := by
  have he : (fun r => (h.collectPot.players r).fixed) = fun r => (h.players r).fixed :=
    funext (fixed_updateAll fun _ => rfl)
  simp only [frame, collectPot, Board.collectPot] at he ⊢
  rw [he]

theorem eraseRunning_preserves {β : Type} (f : Hand → β)
    (hturn : ∀ h id, f (h.setCurrentPlayersTurnId id) = f h)
    (hrunning : ∀ (h : Hand) l, f { h with runningPlayerList := l } = f h)
    (h : Hand) (kept rest : List Ref) : f (h.eraseRunning kept rest) = f h := by
  induction rest generalizing h kept with
  | nil => exact hrunning h kept
  | cons r rest ih =>
      simp only [eraseRunning]
      split_ifs
      · split
        · exact ih h kept
        · rw [ih, hturn]
      · exact ih h _

theorem eraseRunning_runningPlayerList (h : Hand) (kept rest : List Ref) :
    (h.eraseRunning kept rest).runningPlayerList =
      kept ++ rest.filter fun r => !leavesRunning (h.players r) := by
  induction rest generalizing h kept with
  | nil => simp [eraseRunning]
  | cons r rest ih =>
      by_cases hr : leavesRunning (h.players r)
      · simp only [eraseRunning, hr, if_true]
        split
        · rw [ih]
          simp [hr]
        · rw [ih]
          simp [hr, setCurrentPlayersTurnId]
      · simp [eraseRunning, hr, ih]

theorem refresh_runningPlayerList (h : Hand) : h.refreshRunningPlayerList.runningPlayerList =
    h.runningPlayerList.filter fun r => !leavesRunning (h.players r) :=
  eraseRunning_runningPlayerList h [] _

theorem refresh_players (h : Hand) : h.refreshRunningPlayerList.players = h.players :=
  eraseRunning_preserves (fun h => h.players) (fun _ _ => rfl) (fun _ _ => rfl) h _ _

theorem refresh_board (h : Hand) : h.refreshRunningPlayerList.board = h.board :=
  eraseRunning_preserves (fun h => h.board) (fun _ _ => rfl) (fun _ _ => rfl) h _ _

theorem refresh_currentRound (h : Hand) : h.refreshRunningPlayerList.currentRound = h.currentRound :=
  eraseRunning_preserves (fun h => h.currentRound) (fun _ _ => rfl) (fun _ _ => rfl) h _ _

theorem refresh_allInCondition (h : Hand) : h.refreshRunningPlayerList.allInCondition = h.allInCondition :=
  eraseRunning_preserves (fun h => h.allInCondition) (fun _ _ => rfl) (fun _ _ => rfl) h _ _

theorem frame_refresh (h : Hand) : h.refreshRunningPlayerList.frame = h.frame :=
  eraseRunning_preserves frame (fun _ _ => frame_setBeRo rfl) (fun _ _ => rfl) h _ _

section

variable {P : Hand → Prop} (hall : ∀ h, P h → P (setAllInCondition h))
  (hpot : ∀ h s, P h → P ((collectPot h).setCurrentRound s))
  (hnote : ∀ h s, P h → P { h with roundBeforePostRiver := s })

include hall hpot hnote

/-- What holds once the running list is refreshed and is kept by the other pieces of `switchRounds`. -/
theorem switchRounds_of_refresh (h0 : P h.refreshRunningPlayerList) : P h.switchRounds := by
  have hdistribute (h : Hand) (hh : P h) : P h.distributeOrDetect := by
    simp only [distributeOrDetect]
    split_ifs
    · exact hpot h _ hh
    · exact hall h hh
    · exact hh
  have hadvance (h : Hand) (hh : P h) : P h.advanceAllIn := by
    simp only [advanceAllIn]
    split_ifs
    · exact hpot h _ hh
    · exact hh
  have hlast (h : Hand) (hh : P h) : P h.noteRound := by
    simp only [noteRound]
    split_ifs
    · exact hnote h _ hh
    · exact hh
  exact hlast _ (hadvance _ (hdistribute _ h0))

theorem switchRounds_keeps (hrefresh : ∀ h, P h → P (refreshRunningPlayerList h)) (h0 : P h) :
    P h.switchRounds :=
  switchRounds_of_refresh hall hpot hnote (hrefresh _ h0)

end

theorem frame_switchRounds (h : Hand) : h.switchRounds.frame = h.frame := by
  apply switchRounds_keeps (P := fun k => k.frame = h.frame) (fun k hk => hk)
    (fun k s hk => (frame_collectPot k).trans hk) (fun k s hk => hk) (fun k hk => (frame_refresh k).trans hk) rfl

theorem frame_clearActions (h : Hand) : h.clearActions.frame = h.frame :=
  frame_setPlayers (fixed_updateAll fun _ => rfl)

theorem frame_closeRound (h : Hand) : h.closeRound.frame = h.frame := by
  have hcollect : h.clearActions.collectSets.collectPot.switchRounds.frame = h.frame := by
    rw [frame_switchRounds, frame_collectPot]
    exact frame_clearActions h
  simp only [closeRound]
  split_ifs
  · exact hcollect
  · exact hcollect

theorem frame_closePreflop (h : Hand) : h.closePreflop.frame = h.frame := by
  rw [closePreflop, frame_switchRounds, frame_collectPot]
  exact frame_clearActions _

theorem turnToNext_cases (hrun : h.turnToNext = .ok h') : ∃ it,
    h.getRunningPlayerIt h.getCurrentBeRo.currentPlayersTurnId = some it ∧
    h' = h.setCurrentPlayersTurnId (h.uniqueID (Cyclic.next h.runningPlayerList it)) := by
  simp only [turnToNext] at hrun
  split at hrun
  · cases hrun
  · next it hit =>
      cases hrun
      exact ⟨it, hit, rfl⟩

theorem restartTurn_cases (hrun : h.restartTurn = .ok h') :
    (h.getCurrentBeRo.firstRound = true ∧ h.allInCondition = true ∧ h' = h.setFirstRound false) ∨
    (h.getCurrentBeRo.firstRound = true ∧ h.allInCondition = false ∧ ∃ last,
      h.lastBeforeSmallBlind = .ok last ∧
      h' = (h.setFirstRoundLastPlayersTurnId last).setCurrentPlayersTurnId last) ∨
    (h.getCurrentBeRo.firstRound = false ∧ h' = h) := by
  by_cases hfirst : h.getCurrentBeRo.firstRound
  · by_cases hall : h.allInCondition
    · simp only [restartTurn, hfirst, hall, if_true, Except.ok.injEq] at hrun
      exact .inl ⟨hfirst, hall, hrun.symm⟩
    · cases hl : h.lastBeforeSmallBlind with
      | error e => simp [restartTurn, hfirst, hall, hl, Except.map] at hrun
      | ok last =>
          simp [restartTurn, hfirst, hall, hl, Except.map] at hrun
          exact .inr (.inl ⟨hfirst, by simpa using hall, last, rfl, hrun.symm⟩)
  · simp [restartTurn, hfirst] at hrun
    exact .inr (.inr ⟨by simpa using hfirst, hrun.symm⟩)

theorem localRun_cases (hrun : h.localRun = .ok h') :
    (h.getCurrentBeRo.firstRunGui = true ∧ h' = h.setFirstRunGui false) ∨
    ∃ k, h.restartTurn = .ok k ∧
      ((k.getCurrentBeRo.firstRound = false ∧ k.allHighestSet = true ∧ h' = k.closeRound) ∨
       (¬ (k.getCurrentBeRo.firstRound = false ∧ k.allHighestSet = true) ∧
          ∃ k', k.turnToNext = .ok k' ∧ h' = k'.endFirstRound)) := by
  by_cases hgui : h.getCurrentBeRo.firstRunGui
  · simp only [localRun, hgui, if_true, Except.ok.injEq] at hrun
    exact .inl ⟨hgui, hrun.symm⟩
  · right
    cases hk : h.restartTurn with
    | error e => simp [localRun, hgui, hk, bind, Except.bind] at hrun
    | ok k =>
        refine ⟨k, rfl, ?_⟩
        simp only [localRun, hgui, hk, bind, Except.bind, Bool.not_eq_true] at hrun
        by_cases hclose : k.getCurrentBeRo.firstRound = false ∧ k.allHighestSet = true
        · simp only [hclose] at hrun
          cases hrun
          exact .inl ⟨hclose.1, hclose.2, rfl⟩
        · right
          refine ⟨hclose, ?_⟩
          cases hk' : k.turnToNext with
          | error e => simp [hclose, hk'] at hrun
          | ok k' =>
              simp only [hclose, hk'] at hrun
              cases hrun
              exact ⟨k', rfl, rfl⟩

theorem preflopTurn_cases (hrun : h.preflopTurn = .ok h') :
    ∃ k, h.turnToNext = .ok k ∧ (h' = k.closePreflop ∨ h' = k.endFirstRound) := by
  cases hk : h.turnToNext with
  | error e => simp [preflopTurn, hk, Except.map] at hrun
  | ok k =>
      simp only [preflopTurn, hk, Except.map, Except.ok.injEq] at hrun
      refine ⟨k, rfl, ?_⟩
      split_ifs at hrun
      · exact .inl hrun.symm
      · exact .inr hrun.symm

/-- The preflop hand on which the turn is given: with the starting turn set in the first run. -/
def preflopStart (h : Hand) (last : Nat) : Hand :=
  ((h.setFirstRoundLastPlayersTurnId last).setCurrentPlayersTurnId last).setFirstRunGui false

theorem preflopRun_cases (hrun : h.preflopRun = .ok h') :
    (h.getCurrentBeRo.firstRunGui = true ∧ h.preflopLast = .ok none ∧
      h' = (h.setFirstRound false).setFirstRunGui false) ∨
    (h.getCurrentBeRo.firstRunGui = true ∧ ∃ last, (h.preflopStart last).preflopTurn = .ok h') ∨
    (h.getCurrentBeRo.firstRunGui = false ∧ h.preflopTurn = .ok h') := by
  by_cases hgui : h.getCurrentBeRo.firstRunGui
  · cases hl : h.preflopLast with
    | error e => simp [preflopRun, hgui, hl, bind, Except.bind] at hrun
    | ok last =>
        simp only [preflopRun, hgui, hl, bind, Except.bind, if_true] at hrun
        cases last with
        | none =>
            cases hrun
            exact .inl ⟨hgui, rfl, rfl⟩
        | some last => exact .inr (.inl ⟨hgui, last, hrun⟩)
  · simp only [preflopRun, hgui] at hrun
    exact .inr (.inr ⟨by simpa using hgui, hrun⟩)

section

variable {P : Hand → Prop}
  (hbeRo : ∀ h b, (getCurrentBeRo h).Moved b → P h → P (setBeRo h b))
  (hclose : ∀ h, P h → P (closeRound h)) (hpreflop : ∀ h, P h → P (closePreflop h))

include hbeRo

theorem endFirstRound_keeps (h0 : P h) : P h.endFirstRound := by
  simp only [endFirstRound]
  split_ifs
  · exact hbeRo h { h.getCurrentBeRo with firstRound := false } ⟨rfl, id, nofun⟩ h0
  · exact h0

theorem turnToNext_keeps (h0 : P h) (hrun : h.turnToNext = .ok h') : P h' := by
  obtain ⟨it, _, rfl⟩ := turnToNext_cases hrun
  exact hbeRo h { h.getCurrentBeRo with currentPlayersTurnId := _ } ⟨rfl, id, id⟩ h0

theorem startTurn_keeps (h0 : P h) (last : Nat) :
    P ((h.setFirstRoundLastPlayersTurnId last).setCurrentPlayersTurnId last) := by
  have hlast : P (h.setFirstRoundLastPlayersTurnId last) :=
    hbeRo h { h.getCurrentBeRo with firstRoundLastPlayersTurnId := last } ⟨rfl, id, id⟩ h0
  exact hbeRo _ { (getCurrentBeRo _) with currentPlayersTurnId := last } ⟨rfl, id, id⟩ hlast

theorem restartTurn_keeps (h0 : P h) (hrun : h.restartTurn = .ok h') : P h' := by
  rcases restartTurn_cases hrun with ⟨_, _, rfl⟩ | ⟨_, _, last, _, rfl⟩ | ⟨_, rfl⟩
  · exact hbeRo h { h.getCurrentBeRo with firstRound := false } ⟨rfl, id, nofun⟩ h0
  · exact startTurn_keeps hbeRo h0 last
  · exact h0

include hclose in
theorem localRun_keeps (h0 : P h) (hrun : h.localRun = .ok h') : P h' := by
  rcases localRun_cases hrun with ⟨_, rfl⟩ | ⟨k, hk, ⟨_, _, rfl⟩ | ⟨_, k', hk', rfl⟩⟩
  · exact hbeRo h { h.getCurrentBeRo with firstRunGui := false } ⟨rfl, nofun, id⟩ h0
  · exact hclose k (restartTurn_keeps hbeRo h0 hk)
  · exact endFirstRound_keeps hbeRo (turnToNext_keeps hbeRo (restartTurn_keeps hbeRo h0 hk) hk')

include hpreflop in
theorem preflopTurn_keeps (h0 : P h) (hrun : h.preflopTurn = .ok h') : P h' := by
  obtain ⟨k, hk, rfl | rfl⟩ := preflopTurn_cases hrun
  · exact hpreflop k (turnToNext_keeps hbeRo h0 hk)
  · exact endFirstRound_keeps hbeRo (turnToNext_keeps hbeRo h0 hk)

include hpreflop in
theorem preflopRun_keeps (h0 : P h) (hrun : h.preflopRun = .ok h') : P h' := by
  rcases preflopRun_cases hrun with ⟨_, _, rfl⟩ | ⟨_, last, ht⟩ | ⟨_, ht⟩
  · have hfirst : P (h.setFirstRound false) := hbeRo h { h.getCurrentBeRo with firstRound := false } ⟨rfl, id, nofun⟩ h0
    exact hbeRo _ { (getCurrentBeRo _) with firstRunGui := false } ⟨rfl, nofun, id⟩ hfirst
  · have hstart := startTurn_keeps hbeRo h0 last
    exact preflopTurn_keeps hbeRo hpreflop
      (hbeRo _ { (getCurrentBeRo _) with firstRunGui := false } ⟨rfl, nofun, id⟩ hstart) ht
  · exact preflopTurn_keeps hbeRo hpreflop h0 ht

include hclose hpreflop in
theorem run_keeps (h0 : P h) (hrun : h.run = .ok h') : P h' := by
  simp only [run] at hrun
  split at hrun
  · exact preflopRun_keeps hbeRo hpreflop h0 hrun
  · cases hrun
    exact h0
  · exact localRun_keeps hbeRo hclose h0 hrun

end

theorem frame_run (hrun : h.run = .ok h') : h'.frame = h.frame :=
  run_keeps (P := fun k => k.frame = h.frame) (fun _ _ hb hk => (frame_setBeRo (BeRo.fixed_of_limits hb.limits)).trans hk)
    (fun k hk => (frame_closeRound k).trans hk) (fun k hk => (frame_closePreflop k).trans hk) rfl hrun

theorem frame_advance (hrun : h.advance = .ok h') : h'.frame = h.frame := by
  simp only [advance] at hrun
  split_ifs at hrun
  · cases hrun
    exact frame_switchRounds h
  · rw [frame_run hrun, frame_switchRounds]

end Hand

end PokerTH
