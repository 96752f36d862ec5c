import PokerTH.ComputerRaise
import PokerTH.EngineLoop
import PokerTH.RankingRun

namespace PokerTH

/-- Who sits on a seat: what no hand changes of a player. -/
def Player.kin (p : Player) : Nat × String × PlayerType × Bool := (p.myUniqueID, p.myGuid, p.myType, p.isKicked)

/-- The same players sit on the same seats. -/
structure SameSeats (t t' : Table) : Prop where
  seatsList : t'.seatsList = t.seatsList
  kin : ∀ r, (t'.players r).kin = (t.players r).kin

variable {t t' : Table}

theorem SameSeats.refl (t : Table) : SameSeats t t := ⟨rfl, fun _ => rfl⟩

theorem SameSeats.trans {u : Table} (h : SameSeats t t') (h' : SameSeats t' u) : SameSeats t u :=
  ⟨h'.seatsList.trans h.seatsList, fun r => (h'.kin r).trans (h.kin r)⟩

theorem sameSeats_of_frame {h h' : Hand} (hf : h'.frame = h.frame) : SameSeats h.toTable h'.toTable := by
  refine ⟨Hand.frame_seatsList hf, fun r => ?_⟩
  have hkin := congrArg Player.kin (Hand.frame_fixed hf r)
  exact hkin

namespace Board

variable {players : Players} {seatsList : List Ref} {P : Players → Prop}

section

variable (haward : ∀ players r amount, P players → P (award players r amount))

include haward

theorem payEqual_award {share : Nat} {ids : List Nat} {winners : List Nat} {paid : Players × List Nat} (h0 : P players)
    (hrun : payEqual seatsList share ids players winners = .ok paid) : P paid.1 := by
  induction ids generalizing players winners with
  | nil =>
      cases hrun
      exact h0
  | cons id ids ih =>
      simp only [payEqual] at hrun
      split at hrun
      · cases hrun
      · next r _ => exact ih (haward players r share h0) hrun

theorem payOddChips_award {maxPlayers share mod : Nat} {ids winners : List Nat} {todo j pos : Nat} (h0 : P players) :
    P (payOddChips seatsList maxPlayers share mod ids todo j pos players winners).1 := by
  induction todo generalizing j pos players winners with
  | zero => exact h0
  | succ todo ih =>
      simp only [payOddChips]
      split
      · exact ih h0
      · split
        · exact ih h0
        · exact ih (haward _ _ _ h0)

theorem payWinners_award {maxPlayers dealerPosition levelSum : Nat} {ids winners : List Nat} {paid : Players × List Nat}
    (h0 : P players)
    (hrun : payWinners seatsList maxPlayers dealerPosition levelSum ids players winners = .ok paid) : P paid.1 := by
  simp only [payWinners] at hrun
  split_ifs at hrun
  · exact payEqual_award haward h0 hrun
  · split at hrun
    · cases hrun
    · cases hrun
      exact payOddChips_award haward h0

theorem levelStep_award {maxPlayers dealerPosition i : Nat} {st st' : PotState} (h0 : P st.players)
    (hrun : levelStep seatsList maxPlayers dealerPosition st i = .ok st') : P st'.players := by
  have hpaid (levelSum : Nat) (ids : List Nat) (u : PotState)
      (hpay : (payWinners seatsList maxPlayers dealerPosition levelSum ids st.players st.winners).map
        (payOut levelSum st) = .ok u) : P u.players := by
    cases hw : payWinners seatsList maxPlayers dealerPosition levelSum ids st.players st.winners with
    | error e =>
        rw [hw] at hpay
        cases hpay
    | ok paid =>
        rw [hw] at hpay
        cases hpay
        exact payWinners_award haward h0 hw
  simp only [levelStep] at hrun
  split_ifs at hrun
  · cases hsettle : settleLevel seatsList maxPlayers dealerPosition (st.playerSetsSort.getD i 0)
        (toUnsigned ((st.playerSetsSort.length - i) * st.playerSetsSort.getD i 0 + st.potCarryOver)) st with
    | error e =>
        rw [hsettle] at hrun
        cases hrun
    | ok u =>
        rw [hsettle] at hrun
        cases hrun
        simp only [settleLevel] at hsettle
        split_ifs at hsettle
        · exact hpaid _ _ u hsettle
        · exact hpaid _ _ u hsettle
        · cases hsettle
          exact h0
  · cases hrun
    exact h0

/-- What a payment to a player keeps, the distribution of the pot keeps. -/
theorem distributePot_award {maxPlayers dealerPosition : Nat} {b b' : Board} {players' : Players}
    (h0 : P (resetMoneyWon players seatsList))
    (hrun : distributePot players seatsList maxPlayers dealerPosition b = .ok (players', b')) : P players' := by
  have hloop (l : List Nat) (st st' : PotState) (hst : P st.players)
      (hfold : l.foldlM (levelStep seatsList maxPlayers dealerPosition) st = .ok st') : P st'.players := by
    induction l generalizing st with
    | nil =>
        cases hfold
        exact hst
    | cons i l ih =>
        obtain ⟨u, hu, hfold⟩ := Hand.bind_ok hfold
        exact ih u (levelStep_award haward hst hu) hfold
  simp only [distributePot] at hrun
  cases hlevels : levelLoop players seatsList maxPlayers dealerPosition b with
  | error e =>
      rw [hlevels] at hrun
      cases hrun
  | ok st =>
      rw [hlevels] at hrun
      have hst : P st.players := hloop _ _ st h0 hlevels
      have hrepair (u : PotState) (hu : P u.players) : P (repairPot seatsList u).players := by
        simp only [repairPot]
        split_ifs
        · split
          · exact hu
          · split
            · exact hu
            · exact haward _ _ _ hu
        · exact hu
        · exact hu
      cases hrun
      exact hrepair _ hst

end

/-- Paying out the pot changes nothing of a player but his cash and what he has won. -/
theorem distributePot_field {β : Type} (f : Player → β)
    (hf : ∀ p cash won, f { p with myCash := cash, lastMoneyWon := won } = f p) {maxPlayers dealerPosition : Nat}
    {b b' : Board} {players' : Players}
    (hrun : distributePot players seatsList maxPlayers dealerPosition b = .ok (players', b')) (r : Ref) :
    f (players' r) = f (players r) := by
  refine distributePot_award (P := fun u => ∀ r, f (u r) = f (players r)) ?_ ?_ hrun r
  · intro u q amount hu r
    by_cases hr : r = q
    · subst hr
      simp only [award, Function.update_self, hf]
      exact hu r
    · simp only [award, Function.update_of_ne hr]
      exact hu r
  · intro r
    simp only [resetMoneyWon]
    split_ifs
    · exact hf _ _ _
    · rfl

end Board

namespace Hand

variable {h h' : Hand}

theorem sameSeats_postRiverRun {maxPlayers : Nat} (hrun : h.postRiverRun maxPlayers = .ok h') :
    SameSeats h.toTable h'.toTable := by
  simp only [postRiverRun] at hrun
  cases hd : Board.distributePot h.players h.seatsList maxPlayers h.getCurrentBeRo.dealerPosition
      (Board.determinePlayerNeedToShowCards h.players h.activePlayerList h.board) with
  | error e =>
      rw [hd] at hrun
      cases hrun
  | ok paid =>
      rw [hd] at hrun
      cases hrun
      exact ⟨rfl, Board.distributePot_field Player.kin (fun _ _ _ => rfl) hd⟩

theorem sameSeats_engineLoop {maxPlayers : Nat} {out : EngineOutcome} (hrun : h.engineLoop maxPlayers = .ok out) :
    match out with
    | .nextRound h' _ | .playersTurn h' _ | .endOfHand h' => SameSeats h.toTable h'.toTable := by
  obtain ⟨k, hk, hcases⟩ := engineLoop_cases hrun
  have hsame : SameSeats h.toTable k.toTable := sameSeats_of_frame (frame_advance hk)
  cases hcases with
  | nextRound _ _ => exact ⟨hsame.seatsList, hsame.kin⟩
  | playersTurn _ _ _ _ _ => exact hsame
  | endOfHand _ hpost => exact hsame.trans (sameSeats_postRiverRun hpost)

theorem sameSeats_handleMyAction {r : Ref} {req filled : MyActionRequest}
    (hrun : h.handleMyAction r req = .ok (.valid, filled, h')) : SameSeats h.toTable h'.toTable := by
  obtain ⟨_, _, _, _, _, _, rfl⟩ := handleMyAction_accepted hrun
  exact sameSeats_of_frame ((frame_performPlayerAction _ _ _ _).trans (frame_setIsSessionActive _ _ true))

theorem sameSeats_timeoutAction (h : Hand) (r : Ref) : SameSeats h.toTable (h.timeoutAction r).toTable := by
  simp only [timeoutAction]
  split_ifs
  · exact sameSeats_of_frame (frame_performPlayerAction _ _ _ _)
  · exact sameSeats_of_frame (frame_performPlayerAction _ _ _ _)

theorem postBlind_kin (b : Button) (amount : Int) (p : Player) : (postBlind b amount p).kin = p.kin := by
  simp only [postBlind]
  split_ifs <;> rfl

theorem sameSeats_initHand {g g' : Game} {v : Nat → Nat} {elapsed : Int} {t : Table}
    (hrun : g.initHand v elapsed t = .ok (g', h)) : SameSeats t h.toTable := by
  refine ⟨(initHand_lists hrun).2.1, fun r => ?_⟩
  exact RankedGame.initHand_field Player.kin (fun _ _ => rfl) postBlind_kin (fun _ _ _ => rfl) (fun _ => rfl)
    (fun _ => rfl) hrun r

end Hand

namespace Betting

/-- A property of the betting that no piece of an action of `r` takes away. -/
structure Closed (P : Betting → Prop) (r : Ref) : Prop where
  modify : ∀ t (f : Player → Player), (∀ p, (f p).fixed = p.fixed) → P t → P (t.modify r f)
  setFullBetRule : ∀ t b, P t → P (t.setFullBetRule b)
  setLastActionPlayerID : ∀ t, P t → P (t.setLastActionPlayerID r)
  setMinimumRaise : ∀ t v, P t → P (t.setMinimumRaise v)
  setHighestSet : ∀ t v, P t → P (t.setHighestSet v)
  collectSets : ∀ t, P t → P { t with hand := t.hand.collectSets }

variable {P : Betting → Prop} {r : Ref} {t : Betting}

theorem Closed.setMySet (hc : Closed P r) (h : P t) (v : Int) : P (t.setMySet r v) := hc.modify _ _ (fun _ => rfl) h

theorem Closed.setMyAction (hc : Closed P r) (h : P t) (a : PlayerAction) : P (t.setMyAction r a) :=
  hc.modify _ _ (fun _ => rfl) h

theorem Closed.noteHighestSet (hc : Closed P r) (h : P t) : P (t.noteHighestSet r) := by
  simp only [Betting.noteHighestSet]
  split_ifs
  · exact hc.setMinimumRaise _ _ (hc.setHighestSet _ _ h)
  · exact hc.setHighestSet _ _ h

theorem Closed.carryOut (hc : Closed P r) (h : P t) (m : Move) : P (t.carryOut r m) := by
  cases m with
  | fold => exact hc.setMyAction h .fold
  | check => exact hc.setMyAction h .check
  | call =>
      simp only [Betting.carryOut, call]
      split_ifs
      · exact hc.modify _ _ (fun _ => rfl) h
      · exact hc.modify _ _ (fun _ => rfl) h
  | bet amount =>
      apply hc.noteHighestSet
      apply hc.modify _ _ _ h
      intro p
      simp only [betSet]
      split_ifs <;> rfl
  | raise amount =>
      simp only [Betting.carryOut, raiseBy]
      split_ifs
      · apply hc.noteHighestSet
        exact hc.modify _ _ (fun _ => rfl) h
      · exact hc.modify _ _ (fun _ => rfl) h
      · apply hc.setMyAction
        apply hc.noteHighestSet
        exact hc.modify _ _ (fun _ => rfl) h
  | nothing => exact h

theorem Closed.evaluateCall (hc : Closed P r) (h : P t) (a : PlayerAction) : P (t.evaluateCall r a) := by
  simp only [Betting.evaluateCall]
  split_ifs
  · exact hc.setMyAction (hc.setMySet h _) _
  · exact hc.setMyAction (hc.setMySet h _) _

theorem Closed.evaluateAllIn (hc : Closed P r) (h : P t) : P (t.evaluateAllIn r) := by
  have hset := hc.setMySet (hc.setLastActionPlayerID _ h) (t.player r).myCash
  simp only [Betting.evaluateAllIn]
  split_ifs
  · exact hc.setHighestSet _ _ (hc.setMyAction (hc.setMinimumRaise _ _ hset) _)
  · exact hc.setHighestSet _ _ (hc.setMyAction hset _)

theorem Closed.evaluateBet (hc : Closed P r) (h : P t) (bet : Int) : P (t.evaluateBet r bet) := by
  have hnote {u : Betting} (hu : P u) (v : Int) : P ((u.setLastActionPlayerID r).setHighestSet v) :=
    hc.setHighestSet _ _ (hc.setLastActionPlayerID _ hu)
  simp only [Betting.evaluateBet]
  split_ifs
  · apply hnote
    apply hc.setMyAction
    apply hc.setMySet
    exact hc.setMinimumRaise _ _ (hc.setFullBetRule _ _ h)
  · apply hnote
    apply hc.setMyAction
    apply hc.setMySet
    exact hc.setMinimumRaise _ _ h
  · apply hnote
    apply hc.setMySet
    exact hc.setMinimumRaise _ _ h

theorem Closed.evaluateRaise (hc : Closed P r) (h : P t) (raise : Int) : P (t.evaluateRaise r raise) := by
  have hshort : P ((t.setMySet r (t.player r).myCash).setMyAction r .allIn) := hc.setMyAction (hc.setMySet h _) _
  have hfull : P ((t.setFullBetRule true).evaluateAllIn r) := hc.evaluateAllIn (hc.setFullBetRule _ _ h)
  have hraise (v set highest : Int) :
      P ((((t.setMinimumRaise v).setMySet r set).setHighestSet highest).setLastActionPlayerID r) := by
    apply hc.setLastActionPlayerID
    apply hc.setHighestSet
    apply hc.setMySet
    exact hc.setMinimumRaise _ _ h
  simp only [Betting.evaluateRaise]
  split_ifs
  · exact hc.evaluateCall h .call
  · exact hshort
  · exact hfull
  · exact hc.evaluateAllIn h
  · exact hraise _ _ _
  · exact hshort
  · exact hfull
  · exact hc.evaluateAllIn h
  · exact hraise _ _ _

theorem Closed.evaluation (hc : Closed P r) (h : P t) (bet raise : Int) : P (t.evaluation r bet raise) := by
  simp only [Betting.evaluation]
  split
  iterate 4
    · exact h
  · exact hc.evaluateCall h .call
  · exact hc.evaluateBet h bet
  · exact hc.evaluateRaise h raise

theorem settle_fixed (oldMySet raise highestSet : Int) (p : Player) :
    (settle oldMySet raise highestSet p).fixed = p.fixed := by
  simp only [settle]
  split
  · split_ifs <;> rfl
  · split_ifs <;> rfl
  · rfl
  · rfl
  · rfl

theorem prepay_fixed (highestSet smallBlind raise : Int) (p : Player) :
    (prepay highestSet smallBlind raise p).fixed = p.fixed := by
  simp only [prepay]
  split
  · split_ifs <;> rfl
  · split_ifs <;> rfl
  · rfl
  · rfl
  · rfl

theorem Closed.settle (hc : Closed P r) (h : P t) (oldMySet raise highestSet : Int) :
    P (t.modify r (Betting.settle oldMySet raise highestSet)) := hc.modify _ _ (settle_fixed _ _ _) h

theorem Closed.finish (hc : Closed P r) (h : P t) (oldMySet : Int) : P (t.finish r oldMySet) :=
  hc.modify _ _ (fun _ => rfl) h

theorem Closed.decided (hc : Closed P r) (h : P t) (d : Decision) : P (t.decided r d) :=
  hc.evaluation (hc.setMyAction h d.myAction) d.bet d.raise

theorem Closed.engine (hc : Closed P r) (h : P t) (m : Mind) : P (t.engine r m) := by
  simp only [Betting.engine]
  split
  · split_ifs
    · exact hc.finish (hc.carryOut h _) _
    · have hprepaid : P (t.prepaid r m.first) := by
        apply hc.modify _ _ _ h
        intro p
        exact (prepay_fixed _ _ _ _).trans rfl
      exact hc.finish (hc.settle (hc.decided hprepaid m.decision) _ _ _) _
  · split_ifs
    · exact hc.finish (hc.settle (hc.evaluation (hc.carryOut h _) _ _) _ _ _) _
    · exact hc.decided h m.decision
  · split_ifs
    · exact hc.finish (hc.carryOut h _) _
    · exact hc.decided h m.decision
  · split_ifs
    · exact hc.finish (hc.carryOut h _) _
    · exact hc.decided h m.decision
  · exact h

/-- What every piece of an action of a computer player keeps, the action keeps. -/
theorem Closed.action (hc : Closed P r) (h : P t) (m : Mind) : P (t.action r m) :=
  hc.collectSets _ (hc.modify _ (fun p => { p with myLastRelativeSet := p.mySet - (t.player r).mySet }) (fun _ => rfl)
    (hc.engine h m))

theorem modify_fixed (t : Betting) (r : Ref) {f : Player → Player} (hf : ∀ p, (f p).fixed = p.fixed) (q : Ref) :
    ((t.modify r f).hand.players q).fixed = (t.hand.players q).fixed :=
  Hand.fixed_updatePlayer hf q

theorem sits_action (t : Betting) (r : Ref) (m : Mind) : SameSeats t.hand.toTable (t.action r m).hand.toTable := by
  have hc : Closed (fun u => SameSeats t.hand.toTable u.hand.toTable) r := by
    refine ⟨fun u f hf h => ⟨h.seatsList, fun q => ?_⟩, fun _ _ h => ⟨h.seatsList, h.kin⟩, fun _ h => ⟨h.seatsList, h.kin⟩,
      fun _ _ h => ⟨h.seatsList, h.kin⟩, fun _ _ h => ⟨h.seatsList, h.kin⟩, fun _ h => ⟨h.seatsList, h.kin⟩⟩
    have hkin := congrArg Player.kin (modify_fixed u r hf q)
    exact Eq.trans hkin (h.kin q)
  exact hc.action (SameSeats.refl _) m

end Betting

end PokerTH
