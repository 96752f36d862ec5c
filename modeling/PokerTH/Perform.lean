import PokerTH.Frame

namespace PokerTH.Hand

variable (h : Hand) (player : Ref) (action : PlayerAction) (bet : Int)

def Passive (action : PlayerAction) : Prop := action = .fold ∨ action = .check

instance : DecidablePred Passive := fun action => inferInstanceAs (Decidable (action = .fold ∨ action = .check))

@[simp] theorem setMyAction_getCurrentBeRo : (h.setMyAction player action).getCurrentBeRo = h.getCurrentBeRo :=
  rfl

@[simp] theorem setMySet_getCurrentBeRo : (h.setMySet player bet).getCurrentBeRo = h.getCurrentBeRo := rfl

def bettor (p : Player) (action : PlayerAction) (bet : Int) : Player := (p.setMyAction action).setMySet bet

@[simp] theorem bettor_mySet (p : Player) :
    (bettor p action bet).mySet = p.mySet + Player.clampToCash p.myCash bet := rfl

@[simp] theorem bettor_myAction (p : Player) : (bettor p action bet).myAction = action := rfl

theorem bettor_player : ((h.setMyAction player action).setMySet player bet).players player =
    bettor (h.players player) action bet := by
  simp [setMySet, setMyAction, updatePlayer, bettor]

section

variable (r q : Ref) (b : Bool)

@[simp] theorem setIsSessionActive_getCurrentBeRo : (h.setIsSessionActive r b).getCurrentBeRo = h.getCurrentBeRo :=
  rfl

@[simp] theorem setIsSessionActive_mySet :
    ((h.setIsSessionActive r b).players q).mySet = (h.players q).mySet := by
  by_cases hq : q = r <;> simp [setIsSessionActive, updatePlayer, hq]

@[simp] theorem setIsSessionActive_myCash :
    ((h.setIsSessionActive r b).players q).myCash = (h.players q).myCash := by
  by_cases hq : q = r <;> simp [setIsSessionActive, updatePlayer, hq]

@[simp] theorem setIsSessionActive_uniqueID : (h.setIsSessionActive r b).uniqueID q = h.uniqueID q := by
  by_cases hq : q = r <;> simp [setIsSessionActive, uniqueID, updatePlayer, hq]

@[simp] theorem setIsSessionActive_myAction :
    ((h.setIsSessionActive r b).players q).myAction = (h.players q).myAction := by
  by_cases hq : q = r <;> simp [setIsSessionActive, updatePlayer, hq]

theorem checkMyAction_setIsSessionActive (req : MyActionRequest) :
    (h.setIsSessionActive r b).checkMyAction q req = h.checkMyAction q req := by
  have hset := setIsSessionActive_mySet h r q b
  have hcash := setIsSessionActive_myCash h r q b
  simp only [checkMyAction, Player.checkMyAction, hset, hcash, setIsSessionActive_getCurrentBeRo]
  rfl

theorem fillIn_setIsSessionActive (req : MyActionRequest) :
    (h.setIsSessionActive r b).fillIn q req = h.fillIn q req := by
  have hset := setIsSessionActive_mySet h r q b
  have hcash := setIsSessionActive_myCash h r q b
  have hcall : fillInCall h.getCurrentBeRo.highestSet ((h.setIsSessionActive r b).players q) req =
      fillInCall h.getCurrentBeRo.highestSet (h.players q) req := by
    simp only [fillInCall, hset, hcash]
  simp only [fillIn, setIsSessionActive_getCurrentBeRo, hcall, fillInAllIn, hcash]

theorem frame_setIsSessionActive : (h.setIsSessionActive r b).frame = h.frame :=
  frame_setPlayers (fixed_updatePlayer fun _ => rfl)

end

theorem noteRaise_preserves {β : Type} (f : Hand → β) (hmin : ∀ h v, f (setMinimumRaise h v) = f h)
    (hlast : ∀ h id, f (setLastActionPlayerID h id) = f h) : f (h.noteRaise player action bet) = f h := by
  cases action with
  | none | fold | check | call => rfl
  | bet => rw [noteRaise, hlast, hmin]
  | raise =>
      simp only [noteRaise, hlast]
      split_ifs
      · rw [hmin]
      · rfl
  | allIn =>
      simp only [noteRaise]
      split_ifs
      · rw [hlast, hmin]
      · rw [hlast]
      · rw [hmin]
      · rfl

theorem raiseHighestSet_preserves {β : Type} (f : Hand → β) (hset : ∀ h v, f (setHighestSet h v) = f h) :
    f (h.raiseHighestSet player) = f h := by
  simp only [raiseHighestSet]
  split_ifs
  · exact hset h _
  · rfl

theorem performPlayerAction_passive (hp : Passive action) :
    h.performPlayerAction player action bet = h.setMyAction player action := by
  rcases hp with rfl | rfl <;> rfl

theorem performPlayerAction_active (hp : ¬ Passive action) :
    h.performPlayerAction player action bet =
      ((((h.setMyAction player action).setMySet player bet).noteRaise player action bet).raiseHighestSet
        player).collectSets := by
  have hne : action ≠ .fold ∧ action ≠ .check := by
    simpa only [Passive, not_or] using hp
  simp only [performPlayerAction, if_pos hne]

/-- What an action does not touch: only the sets, the raise and the last player change. -/
theorem performPlayerAction_preserves {β : Type} (f : Hand → β)
    (hplayers : ∀ h players, f (setPlayers h players) = f h) (hmin : ∀ h v, f (setMinimumRaise h v) = f h)
    (hlast : ∀ h id, f (setLastActionPlayerID h id) = f h) (hset : ∀ h v, f (setHighestSet h v) = f h)
    (hboard : ∀ h board, f (setBoard h board) = f h) :
    f (h.performPlayerAction player action bet) = f h := by
  by_cases hp : Passive action
  · rw [performPlayerAction_passive h player action bet hp, setMyAction, hplayers]
  · rw [performPlayerAction_active h player action bet hp, collectSets, hboard,
      raiseHighestSet_preserves _ _ f hset, noteRaise_preserves _ _ _ _ f hmin hlast, setMySet, hplayers,
      setMyAction, hplayers]

theorem perform_seatsList : (h.performPlayerAction player action bet).seatsList = h.seatsList :=
  performPlayerAction_preserves h player action bet (fun h => h.seatsList) (fun _ _ => rfl) (fun _ _ => rfl)
    (fun _ _ => rfl) (fun _ _ => rfl) fun _ _ => rfl

theorem perform_activePlayerList :
    (h.performPlayerAction player action bet).activePlayerList = h.activePlayerList :=
  performPlayerAction_preserves h player action bet (fun h => h.activePlayerList) (fun _ _ => rfl)
    (fun _ _ => rfl) (fun _ _ => rfl) (fun _ _ => rfl) fun _ _ => rfl

theorem perform_runningPlayerList :
    (h.performPlayerAction player action bet).runningPlayerList = h.runningPlayerList :=
  performPlayerAction_preserves h player action bet (fun h => h.runningPlayerList) (fun _ _ => rfl)
    (fun _ _ => rfl) (fun _ _ => rfl) (fun _ _ => rfl) fun _ _ => rfl

theorem perform_currentRound : (h.performPlayerAction player action bet).currentRound = h.currentRound :=
  performPlayerAction_preserves h player action bet (fun h => h.currentRound) (fun _ _ => rfl)
    (fun _ _ => rfl) (fun _ _ => rfl) (fun _ _ => rfl) fun _ _ => rfl

theorem perform_allInCondition :
    (h.performPlayerAction player action bet).allInCondition = h.allInCondition :=
  performPlayerAction_preserves h player action bet (fun h => h.allInCondition) (fun _ _ => rfl)
    (fun _ _ => rfl) (fun _ _ => rfl) (fun _ _ => rfl) fun _ _ => rfl

theorem perform_firstRound :
    (h.performPlayerAction player action bet).getCurrentBeRo.firstRound = h.getCurrentBeRo.firstRound :=
  performPlayerAction_preserves h player action bet (fun h => h.getCurrentBeRo.firstRound) (fun _ _ => rfl)
    (fun _ _ => by simp [setMinimumRaise]) (fun _ _ => rfl) (fun _ _ => by simp [setHighestSet]) fun _ _ => rfl

theorem perform_currentPlayersTurnId :
    (h.performPlayerAction player action bet).getCurrentBeRo.currentPlayersTurnId =
      h.getCurrentBeRo.currentPlayersTurnId :=
  performPlayerAction_preserves h player action bet (fun h => h.getCurrentBeRo.currentPlayersTurnId)
    (fun _ _ => rfl) (fun _ _ => by simp [setMinimumRaise]) (fun _ _ => rfl)
    (fun _ _ => by simp [setHighestSet]) fun _ _ => rfl

theorem perform_players_passive (hp : Passive action) :
    (h.performPlayerAction player action bet).players =
      updatePlayer h.players player fun p => p.setMyAction action := by
  rw [performPlayerAction_passive h player action bet hp]
  rfl

theorem perform_players_active (hp : ¬ Passive action) :
    (h.performPlayerAction player action bet).players =
      updatePlayer h.players player fun p => bettor p action bet := by
  rw [performPlayerAction_active h player action bet hp, collectSets, setBoard_players,
    raiseHighestSet_preserves _ _ (fun h => h.players) (fun _ _ => rfl),
    noteRaise_preserves _ _ _ _ (fun h => h.players) (fun _ _ => rfl) (fun _ _ => rfl)]
  simp [setMySet, setMyAction, updatePlayer, bettor]

theorem perform_players_of_ne {q : Ref} (hq : q ≠ player) :
    (h.performPlayerAction player action bet).players q = h.players q := by
  by_cases hp : Passive action
  · rw [perform_players_passive h player action bet hp]
    simp [updatePlayer, hq]
  · rw [perform_players_active h player action bet hp]
    simp [updatePlayer, hq]

theorem perform_myAction : ((h.performPlayerAction player action bet).players player).myAction = action := by
  by_cases hp : Passive action
  · rw [perform_players_passive h player action bet hp]
    simp [updatePlayer, Player.setMyAction]
  · rw [perform_players_active h player action bet hp]
    simp [updatePlayer]

theorem perform_highestSet_active (hp : ¬ Passive action) :
    (h.performPlayerAction player action bet).getCurrentBeRo.highestSet =
      max h.getCurrentBeRo.highestSet (bettor (h.players player) action bet).mySet := by
  have hset (k : Hand) : (k.raiseHighestSet player).getCurrentBeRo.highestSet =
      max k.getCurrentBeRo.highestSet (k.players player).mySet := by
    simp only [raiseHighestSet]
    split_ifs with hlt
    · simp only [setHighestSet, getCurrentBeRo_setBeRo]
      omega
    · omega
  rw [performPlayerAction_active h player action bet hp, collectSets, getCurrentBeRo_setBoard, hset,
    noteRaise_preserves _ _ _ _ (fun h => h.getCurrentBeRo.highestSet)
      (fun _ _ => by simp [setMinimumRaise]) (fun _ _ => rfl),
    noteRaise_preserves _ _ _ _ (fun h => h.players) (fun _ _ => rfl) (fun _ _ => rfl)]
  simp [setMySet, setMyAction, updatePlayer, bettor]

theorem perform_pot : (h.performPlayerAction player action bet).board.pot = h.board.pot := by
  by_cases hp : Passive action
  · rw [performPlayerAction_passive h player action bet hp]
    rfl
  · rw [performPlayerAction_active h player action bet hp]
    change (raiseHighestSet _ player).board.pot = _
    rw [raiseHighestSet_preserves _ _ (fun h => h.board.pot) (fun _ _ => rfl),
      noteRaise_preserves _ _ _ _ (fun h => h.board.pot) (fun _ _ => rfl) (fun _ _ => rfl)]
    rfl

theorem noteRaise_lastActionPlayerID :
    (h.noteRaise player action bet).lastActionPlayerID =
      if action = .bet ∨ action = .raise ∨
        action = .allIn ∧ h.getCurrentBeRo.highestSet < (h.players player).mySet then h.uniqueID player
      else h.lastActionPlayerID := by
  cases action with
  | none | fold | check | call | bet => simp [noteRaise, setLastActionPlayerID]
  | raise => simp [noteRaise, setLastActionPlayerID]
  | allIn =>
      simp only [noteRaise]
      by_cases hraise : (h.players player).mySet - h.getCurrentBeRo.highestSet > 0
      · have hlt : h.getCurrentBeRo.highestSet < (h.players player).mySet := by omega
        simp only [if_pos hraise, hlt, and_true, or_true, if_true]
        rfl
      · have hle : ¬ h.getCurrentBeRo.highestSet < (h.players player).mySet := by omega
        simp only [if_neg hraise, hle, and_false, or_false, reduceCtorEq, if_false]
        split_ifs <;> rfl

theorem perform_lastActionPlayerID_active (hp : ¬ Passive action) :
    (h.performPlayerAction player action bet).lastActionPlayerID =
      if action = .bet ∨ action = .raise ∨ action = .allIn ∧
        h.getCurrentBeRo.highestSet < (bettor (h.players player) action bet).mySet then h.uniqueID player
      else h.lastActionPlayerID := by
  rw [performPlayerAction_active h player action bet hp]
  change (raiseHighestSet _ player).lastActionPlayerID = _
  rw [raiseHighestSet_preserves _ _ (fun h => h.lastActionPlayerID) (fun _ _ => rfl),
    noteRaise_lastActionPlayerID, uniqueID, bettor_player]
  rfl

theorem handleMyAction_accepted {h h' : Hand} {r : Ref} {req filled : MyActionRequest}
    (hrun : h.handleMyAction r req = .ok (.valid, filled, h')) :
    ∃ cur, h.getCurrentPlayer = .ok cur ∧ h.uniqueID cur = h.uniqueID r ∧
      h.currentRound.toNat = req.gameState ∧ filled = h.fillIn r req ∧ h.checkMyAction r filled = 0 ∧
      h' = (h.setIsSessionActive r true).performPlayerAction r filled.myAction filled.myRelativeBet.toInt := by
  cases hcur : h.getCurrentPlayer with
  | error e => simp [handleMyAction, hcur, Except.map] at hrun
  | ok cur =>
      simp only [handleMyAction, hcur, Except.map, Except.ok.injEq] at hrun
      by_cases hround : h.currentRound.toNat = req.gameState
      · by_cases hturn : h.uniqueID cur = h.uniqueID r
        · by_cases hcheck : h.checkMyAction r (h.fillIn r req) = 0
          · simp only [myActionCode, hround, hturn, hcheck, ne_eq, not_true, if_false, if_true,
              Prod.mk.injEq, true_and] at hrun
            obtain ⟨rfl, rfl⟩ := hrun
            exact ⟨cur, rfl, hturn, hround, rfl, hcheck, rfl⟩
          · simp [myActionCode, hround, hturn, hcheck] at hrun
        · simp [myActionCode, hround, hturn] at hrun
      · simp [myActionCode, hround] at hrun

theorem frame_setMyAction : (h.setMyAction player action).frame = h.frame :=
  frame_setPlayers (fixed_updatePlayer fun _ => rfl)

theorem frame_setMySet : (h.setMySet player bet).frame = h.frame :=
  frame_setPlayers (fixed_updatePlayer fun _ => rfl)

theorem frame_performPlayerAction : (h.performPlayerAction player action bet).frame = h.frame := by
  by_cases hp : Passive action
  · rw [performPlayerAction_passive h player action bet hp]
    exact frame_setMyAction h player action
  · rw [performPlayerAction_active h player action bet hp]
    change (raiseHighestSet _ player).frame = _
    rw [raiseHighestSet_preserves _ _ frame (fun _ _ => frame_setBeRo rfl),
      noteRaise_preserves _ _ _ _ frame (fun _ _ => frame_setBeRo rfl) (fun _ _ => rfl)]
    exact (frame_setMySet _ player bet).trans (frame_setMyAction h player action)

end PokerTH.Hand
