import PokerTH.HandMessages
import PokerTH.Kin
import PokerTH.RunningList
import PokerTH.SeatIds

namespace PokerTH

open Table

variable {t t' t'' : Table} {r : Ref}

structure SameFolds (t t' : Table) : Prop extends SameIds t t' where
  folds : ∀ r, hasFolded (t'.players r) = hasFolded (t.players r)

/-- Only the player `r` may have folded, or have taken his fold back. -/
structure ActsOn (t t' : Table) (r : Ref) : Prop extends SameIds t t' where
  others : ∀ q, q ≠ r → hasFolded (t'.players q) = hasFolded (t.players q)

theorem SameFolds.refl (t : Table) : SameFolds t t := ⟨SameIds.refl t, fun _ => rfl⟩

theorem SameFolds.trans (h : SameFolds t t') (h' : SameFolds t' t'') : SameFolds t t'' :=
  ⟨h.toSameIds.trans h'.toSameIds, fun r => (h'.folds r).trans (h.folds r)⟩

theorem SameFolds.foldedIds (h : SameFolds t t') : t'.foldedIds = t.foldedIds := h.toSameIds.idsOf fun r _ => h.folds r

theorem SameFolds.actsOn (h : SameFolds t t') (h' : ActsOn t' t'' r) : ActsOn t t'' r :=
  ⟨h.toSameIds.trans h'.toSameIds, fun q hq => (h'.others q hq).trans (h.folds q)⟩

namespace Hand

variable {h h' k : Hand}

theorem sameIds_of_frame (hf : h'.frame = h.frame) : SameIds h.toTable h'.toTable :=
  ⟨frame_seatsList hf, frame_activePlayerList hf, frame_myUniqueID hf, frame_myActiveStatus hf⟩

theorem sameFolds_collectPot (h : Hand) : SameFolds h.toTable h.collectPot.toTable := by
  refine ⟨sameIds_of_frame (frame_collectPot h), fun r => ?_⟩
  simp only [hasFolded, collectPot_myAction]

theorem sameFolds_refresh (h : Hand) : SameFolds h.toTable h.refreshRunningPlayerList.toTable := by
  refine ⟨sameIds_of_frame (frame_refresh h), fun r => ?_⟩
  rw [refresh_players]

def RunningInHand (h : Hand) : Prop := ∀ r ∈ h.runningPlayerList, hasFolded (h.players r) = false

theorem runningInHand_refresh (h : Hand) : RunningInHand h.refreshRunningPlayerList := by
  intro r hr
  rw [refresh_runningPlayerList, List.mem_filter] at hr
  rw [refresh_players]
  have hstays := hr.2
  simp only [leavesRunning, Bool.not_eq_true', Bool.or_eq_false_iff] at hstays
  exact hstays.1

theorem sameFolds_clearActions (hin : RunningInHand h) : SameFolds h.toTable h.clearActions.toTable := by
  refine ⟨sameIds_of_frame (frame_clearActions h), fun r => ?_⟩
  by_cases hr : r ∈ h.runningPlayerList
  · have hclear : h.clearActions.players r = (h.players r).setMyAction .none := by
      simp only [clearActions, setPlayers, updateAll, if_pos hr]
    rw [hclear, hin r hr]
    rfl
  · have hsame : h.clearActions.players r = h.players r := by
      simp only [clearActions, setPlayers, updateAll, if_neg hr]
    rw [hsame]

theorem runningInHand_clearActions (h : Hand) : RunningInHand h.clearActions := by
  intro r hr
  have hclear : h.clearActions.players r = (h.players r).setMyAction .none := by
    have hmem : r ∈ h.runningPlayerList := hr
    simp only [clearActions, setPlayers, updateAll, if_pos hmem]
  rw [hclear]
  rfl

theorem RunningInHand.same (hin : RunningInHand h) (hs : SameFolds h.toTable h'.toTable)
    (hrunning : h'.runningPlayerList = h.runningPlayerList) : RunningInHand h' := by
  intro r hr
  rw [hrunning] at hr
  exact (hs.folds r).trans (hin r hr)

theorem sameFolds_advance (hrun : h.advance = .ok k) : SameFolds h.toTable k.toTable := by
  refine And.left (advance_of_refresh (P := fun k => SameFolds h.toTable k.toTable ∧ RunningInHand k) ?_ ?_ ?_ ?_ ?_ ?_ ?_ ?_
    ?_ hrun)
  · exact fun _ _ _ hk => hk
  · exact fun k hk => ⟨hk.1.trans (sameFolds_refresh k), runningInHand_refresh k⟩
  · exact fun _ hk => ⟨⟨⟨hk.1.seatsList, hk.1.activePlayerList, hk.1.id, hk.1.status⟩, hk.1.folds⟩, hk.2⟩
  · exact fun k hk => ⟨hk.1.trans (sameFolds_collectPot k), hk.2.same (sameFolds_collectPot k) rfl⟩
  · exact fun _ _ hk => hk
  · exact fun _ _ hk => hk
  · exact fun k hk => ⟨hk.1.trans (sameFolds_clearActions hk.2), runningInHand_clearActions k⟩
  · exact fun _ hk => ⟨⟨⟨hk.1.seatsList, hk.1.activePlayerList, hk.1.id, hk.1.status⟩, hk.1.folds⟩, hk.2⟩
  · exact ⟨sameFolds_refresh h, runningInHand_refresh h⟩

theorem sameFolds_postRiverRun {maxPlayers : Nat} (hrun : h.postRiverRun maxPlayers = .ok h') :
    SameFolds h.toTable h'.toTable := by
  simp only [postRiverRun] at hrun
  cases hd : Board.distributePot h.players h.seatsList maxPlayers h.getCurrentBeRo.dealerPosition
      (Board.determinePlayerNeedToShowCards h.players h.activePlayerList h.board) with
  | error e =>
      rw [hd] at hrun
      cases hrun
  | ok paid =>
      rw [hd] at hrun
      cases hrun
      exact ⟨⟨rfl, rfl, Board.distributePot_field Player.myUniqueID (fun _ _ _ => rfl) hd,
        Board.distributePot_field Player.myActiveStatus (fun _ _ _ => rfl) hd⟩,
        Board.distributePot_field hasFolded (fun _ _ _ => rfl) hd⟩

theorem sameFolds_engineLoop {maxPlayers : Nat} {out : EngineOutcome} (hrun : h.engineLoop maxPlayers = .ok out) :
    match out with
    | .nextRound h' _ | .playersTurn h' _ | .endOfHand h' => SameFolds h.toTable h'.toTable := by
  obtain ⟨k, hk, hcases⟩ := engineLoop_cases hrun
  have hsame := sameFolds_advance hk
  cases hcases with
  | nextRound _ _ => exact ⟨⟨hsame.seatsList, hsame.activePlayerList, hsame.id, hsame.status⟩, hsame.folds⟩
  | playersTurn _ _ _ _ _ => exact hsame
  | endOfHand _ hpost => exact hsame.trans (sameFolds_postRiverRun hpost)

theorem actsOn_performPlayerAction (h : Hand) (r : Ref) (action : PlayerAction) (bet : Int) :
    ActsOn h.toTable (h.performPlayerAction r action bet).toTable r :=
  ⟨sameIds_of_frame (frame_performPlayerAction h r action bet),
    fun q hq => by rw [perform_players_of_ne h r action bet hq]⟩

theorem actsOn_handleMyAction {req filled : MyActionRequest}
    (hrun : h.handleMyAction r req = .ok (.valid, filled, h')) : ActsOn h.toTable h'.toTable r := by
  obtain ⟨_, _, _, _, _, _, rfl⟩ := handleMyAction_accepted hrun
  have hactive : SameFolds h.toTable (h.setIsSessionActive r true).toTable :=
    ⟨sameIds_of_frame (frame_setIsSessionActive h r true), fun q => by
      simp only [hasFolded, setIsSessionActive_myAction]⟩
  exact hactive.actsOn (actsOn_performPlayerAction _ _ _ _)

theorem actsOn_timeoutAction (h : Hand) (r : Ref) : ActsOn h.toTable (h.timeoutAction r).toTable r := by
  simp only [timeoutAction]
  split_ifs
  · exact actsOn_performPlayerAction h r .check 0
  · exact actsOn_performPlayerAction h r .fold 0

end Hand

theorem Betting.actsOn_action (t : Betting) (r : Ref) (m : Mind) :
    ActsOn t.hand.toTable (t.action r m).hand.toTable r := by
  have hkeep {u v : Betting} (h : ActsOn t.hand.toTable u.hand.toTable r) (hs : v.hand.seatsList = u.hand.seatsList)
      (ha : v.hand.activePlayerList = u.hand.activePlayerList) (hp : v.hand.players = u.hand.players) :
      ActsOn t.hand.toTable v.hand.toTable r := by
    refine ⟨⟨hs.trans h.seatsList, ha.trans h.activePlayerList, fun q => ?_, fun q => ?_⟩, fun q hq => ?_⟩
    · exact (congrArg (fun players : Players => (players q).myUniqueID) hp).trans (h.id q)
    · rw [hp]
      exact h.status q
    · rw [hp]
      exact h.others q hq
  have hc : Betting.Closed (fun u => ActsOn t.hand.toTable u.hand.toTable r) r := by
    refine ⟨fun u f hf h => ?_, fun _ _ h => h, fun _ h => hkeep h rfl rfl rfl, fun _ _ h => hkeep h rfl rfl rfl,
      fun _ _ h => hkeep h rfl rfl rfl, fun _ h => hkeep h rfl rfl rfl⟩
    have hid (q : Ref) := congrArg Player.myUniqueID (Betting.modify_fixed u r hf q)
    have hstatus (q : Ref) := congrArg Player.myActiveStatus (Betting.modify_fixed u r hf q)
    refine ⟨⟨h.seatsList, h.activePlayerList, fun q => Eq.trans (hid q) (h.id q),
      fun q => Eq.trans (hstatus q) (h.status q)⟩, fun q hq => ?_⟩
    have hsame : (u.modify r f).hand.players q = u.hand.players q := by
      simp [Betting.modify, updatePlayer, hq]
    rw [hsame]
    exact h.others q hq
  exact hc.action ⟨SameIds.refl _, fun _ _ => rfl⟩ m

end PokerTH
