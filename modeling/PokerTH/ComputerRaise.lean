import PokerTH.Computer
import PokerTH.Perform

namespace PokerTH.Betting

variable {t t' u : Betting} {r q : Ref} {v bet raise : Int}

@[simp] theorem minimumRaise_setMinimumRaise : (t.setMinimumRaise v).minimumRaise = v := by
  simp [minimumRaise, setMinimumRaise, Hand.setMinimumRaise]

@[simp] theorem highestSet_setMinimumRaise : (t.setMinimumRaise v).highestSet = t.highestSet := by
  simp [highestSet, setMinimumRaise, Hand.setMinimumRaise]

@[simp] theorem player_setMinimumRaise : (t.setMinimumRaise v).player q = t.player q := rfl

@[simp] theorem minimumRaise_setHighestSet : (t.setHighestSet v).minimumRaise = t.minimumRaise := by
  simp [minimumRaise, setHighestSet, Hand.setHighestSet]

@[simp] theorem highestSet_setHighestSet : (t.setHighestSet v).highestSet = v := by
  simp [highestSet, setHighestSet, Hand.setHighestSet]

@[simp] theorem player_setHighestSet : (t.setHighestSet v).player q = t.player q := rfl

@[simp] theorem minimumRaise_setLastActionPlayerID : (t.setLastActionPlayerID r).minimumRaise = t.minimumRaise := rfl

@[simp] theorem highestSet_setLastActionPlayerID : (t.setLastActionPlayerID r).highestSet = t.highestSet := rfl

@[simp] theorem player_setLastActionPlayerID : (t.setLastActionPlayerID r).player q = t.player q := rfl

@[simp] theorem minimumRaise_setFullBetRule {b : Bool} : (t.setFullBetRule b).minimumRaise = t.minimumRaise := rfl

@[simp] theorem highestSet_setFullBetRule {b : Bool} : (t.setFullBetRule b).highestSet = t.highestSet := rfl

@[simp] theorem player_setFullBetRule {b : Bool} : (t.setFullBetRule b).player q = t.player q := rfl

@[simp] theorem minimumRaise_modify {f : Player → Player} : (t.modify r f).minimumRaise = t.minimumRaise := rfl

@[simp] theorem highestSet_modify {f : Player → Player} : (t.modify r f).highestSet = t.highestSet := rfl

@[simp] theorem player_modify {f : Player → Player} : (t.modify r f).player r = f (t.player r) := by
  simp [player, modify, updatePlayer]

@[simp] theorem minimumRaise_setMySet : (t.setMySet r v).minimumRaise = t.minimumRaise := rfl

@[simp] theorem highestSet_setMySet : (t.setMySet r v).highestSet = t.highestSet := rfl

@[simp] theorem player_setMySet : (t.setMySet r v).player r = (t.player r).setMySet v := player_modify

@[simp] theorem minimumRaise_setMyAction {a : PlayerAction} : (t.setMyAction r a).minimumRaise = t.minimumRaise := rfl

@[simp] theorem highestSet_setMyAction {a : PlayerAction} : (t.setMyAction r a).highestSet = t.highestSet := rfl

@[simp] theorem player_setMyAction {a : PlayerAction} : (t.setMyAction r a).player r = (t.player r).setMyAction a :=
  player_modify

@[simp] theorem myCash_setMyAction {p : Player} {a : PlayerAction} : (p.setMyAction a).myCash = p.myCash := rfl

@[simp] theorem mySet_setMyAction {p : Player} {a : PlayerAction} : (p.setMyAction a).mySet = p.mySet := rfl

structure Acts (t t' : Betting) (r : Ref) : Prop where
  seatsList : t'.hand.seatsList = t.hand.seatsList
  smallBlind : t'.hand.smallBlind = t.hand.smallBlind
  currentRound : t'.hand.currentRound = t.hand.currentRound
  players : ∀ q, q ≠ r → t'.player q = t.player q
  rounds : ∀ s, s ≠ t.hand.currentRound → t'.hand.myBeRo s = t.hand.myBeRo s

theorem acts_refl (t : Betting) (r : Ref) : Acts t t r :=
  ⟨rfl, rfl, rfl, fun _ _ => rfl, fun _ _ => rfl⟩

theorem Acts.trans (h : Acts t t' r) (h' : Acts t' u r) : Acts t u r :=
  ⟨h'.seatsList.trans h.seatsList, h'.smallBlind.trans h.smallBlind, h'.currentRound.trans h.currentRound,
    fun q hq => (h'.players q hq).trans (h.players q hq),
    fun s hs => (h'.rounds s (h.currentRound ▸ hs)).trans (h.rounds s hs)⟩

theorem Acts.modify (h : Acts t t' r) (f : Player → Player) : Acts t (t'.modify r f) r := by
  refine h.trans ⟨rfl, rfl, rfl, fun q hq => ?_, fun _ _ => rfl⟩
  simp [player, Betting.modify, updatePlayer, hq]

theorem Acts.setMySet (h : Acts t t' r) (v : Int) : Acts t (t'.setMySet r v) r := h.modify _

theorem Acts.setMyAction (h : Acts t t' r) (a : PlayerAction) : Acts t (t'.setMyAction r a) r := h.modify _

theorem Acts.setFullBetRule (h : Acts t t' r) (b : Bool) : Acts t (t'.setFullBetRule b) r :=
  h.trans ⟨rfl, rfl, rfl, fun _ _ => rfl, fun _ _ => rfl⟩

theorem Acts.setLastActionPlayerID (h : Acts t t' r) : Acts t (t'.setLastActionPlayerID r) r :=
  h.trans ⟨rfl, rfl, rfl, fun _ _ => rfl, fun _ _ => rfl⟩

theorem Acts.setBeRo (h : Acts t t' r) (b : BeRo) : Acts t { t' with hand := t'.hand.setBeRo b } r :=
  h.trans ⟨rfl, rfl, rfl, fun _ _ => rfl, fun _ hs => Function.update_of_ne hs _ _⟩

theorem Acts.setMinimumRaise (h : Acts t t' r) (v : Int) : Acts t (t'.setMinimumRaise v) r := h.setBeRo _

theorem Acts.setHighestSet (h : Acts t t' r) (v : Int) : Acts t (t'.setHighestSet v) r := h.setBeRo _

theorem Acts.noteHighestSet (h : Acts t t' r) : Acts t (t'.noteHighestSet r) r := by
  simp only [Betting.noteHighestSet]
  split_ifs
  · exact (h.setHighestSet _).setMinimumRaise _
  · exact h.setHighestSet _

theorem acts_evaluateCall (t : Betting) (r : Ref) (a : PlayerAction) : Acts t (t.evaluateCall r a) r := by
  simp only [evaluateCall]
  split_ifs
  · exact ((acts_refl t r).setMySet _).setMyAction _
  · exact ((acts_refl t r).setMySet _).setMyAction _

theorem Acts.evaluateAllIn (h : Acts t t' r) : Acts t (t'.evaluateAllIn r) r := by
  have hset := h.setLastActionPlayerID.setMySet (t'.player r).myCash
  simp only [Betting.evaluateAllIn]
  split_ifs
  · exact ((hset.setMinimumRaise _).setMyAction _).setHighestSet _
  · exact (hset.setMyAction _).setHighestSet _

structure Outcome (t t' : Betting) (r : Ref) (minimum : Int) : Prop where
  acts : Acts t t' r
  cash_nonneg : 0 ≤ (t'.player r).myCash
  set_nonneg : 0 ≤ (t'.player r).mySet
  minimum_eq : t'.minimumRaise = minimum
  highest : t'.highestSet = t.highestSet ∧ minimum = t.minimumRaise ∨ 0 < t'.highestSet

/-- A player who has not lost count of his chips, in a round with positive limits. -/
structure Able (t : Betting) (r : Ref) : Prop where
  cash_nonneg : 0 ≤ (t.player r).myCash
  set_nonneg : 0 ≤ (t.player r).mySet
  highest_nonneg : 0 ≤ t.highestSet
  minimum_pos : 0 < t.minimumRaise

theorem setMySet_nonneg {p : Player} (hcash : 0 ≤ p.myCash) (hset : 0 ≤ p.mySet) (v : Int) :
    0 ≤ (p.setMySet v).myCash ∧ 0 ≤ (p.setMySet v).mySet := by
  have hclamp := Player.clampToCash_nonneg p.myCash v
  rw [Player.setMySet_myCash hcash]
  have hle := Player.clampToCash_le hcash v
  have hmySet : (p.setMySet v).mySet = p.mySet + Player.clampToCash p.myCash v := rfl
  omega

theorem evaluateCall_outcome (h : Able t r) (a : PlayerAction) :
    Outcome t (t.evaluateCall r a) r t.minimumRaise := by
  have hchips := setMySet_nonneg h.cash_nonneg h.set_nonneg
  refine ⟨acts_evaluateCall t r a, ?_, ?_, ?_, ?_⟩
  all_goals
    simp only [evaluateCall]
    split_ifs
  · simpa using (hchips _).1
  · simpa using (hchips _).1
  · simpa using (hchips _).2
  · simpa using (hchips _).2
  · simp
  · simp
  · simp
  · simp

/-- The least raise after `evaluateAllIn`, by a player with more chips than a call takes. -/
theorem evaluateAllIn_outcome (h : Able t r)
    (hmore : t.highestSet < (t.player r).myCash + (t.player r).mySet) :
    Outcome t (t.evaluateAllIn r) r ((t.player r).myCash + (t.player r).mySet - t.highestSet) := by
  have hclamp : Player.clampToCash (t.player r).myCash (t.player r).myCash = (t.player r).myCash :=
    Player.clampToCash_of_le h.cash_nonneg (le_refl _)
  have hset : (((t.player r).setMySet (t.player r).myCash)).mySet = (t.player r).mySet + (t.player r).myCash :=
    congrArg ((t.player r).mySet + ·) hclamp
  have hchips := setMySet_nonneg h.cash_nonneg h.set_nonneg (t.player r).myCash
  have hpos : ((t.player r).setMySet (t.player r).myCash).mySet - t.highestSet > 0 := by omega
  have hhighest := h.highest_nonneg
  refine ⟨(acts_refl t r).evaluateAllIn, ?_, ?_, ?_, .inr ?_⟩
  all_goals simp only [evaluateAllIn, player_setMySet, player_setLastActionPlayerID, if_pos hpos]
  · simpa using hchips.1
  · simpa using hchips.2
  · simp
    omega
  · simp
    omega

def raisedMinimum (t : Betting) (r : Ref) (raise : Int) : Int :=
  if t.getFullBetRule = false ∧ t.highestSet < (t.player r).myCash + (t.player r).mySet then
    min (max raise t.minimumRaise) ((t.player r).myCash + (t.player r).mySet - t.highestSet)
  else t.minimumRaise

theorem evaluateRaise_part (h : Able t r) {raise : Int} (hraise : t.minimumRaise ≤ raise)
    (hpart : t.highestSet + raise < (t.player r).myCash + (t.player r).mySet) :
    Outcome t (((t.setMinimumRaise raise).setMySet r (t.highestSet + raise - (t.player r).mySet)).setHighestSet
      (((t.setMinimumRaise raise).setMySet r (t.highestSet + raise - (t.player r).mySet)).player r).mySet
      |>.setLastActionPlayerID r) r raise := by
  have hchips := setMySet_nonneg h.cash_nonneg h.set_nonneg (t.highestSet + raise - (t.player r).mySet)
  have hmin := h.minimum_pos
  have hhighest := h.highest_nonneg
  have hset : ((t.player r).setMySet (t.highestSet + raise - (t.player r).mySet)).mySet =
      (t.player r).mySet + Player.clampToCash (t.player r).myCash (t.highestSet + raise - (t.player r).mySet) := rfl
  have hclamp : t.highestSet + raise - (t.player r).mySet ≤
      Player.clampToCash (t.player r).myCash (t.highestSet + raise - (t.player r).mySet) := by
    simp only [Player.clampToCash]
    split_ifs <;> omega
  refine ⟨((((acts_refl t r).setMinimumRaise _).setMySet _).setHighestSet _).setLastActionPlayerID, ?_, ?_, ?_, .inr ?_⟩
  · simpa using hchips.1
  · simpa using hchips.2
  · simp
  · simp
    omega

theorem evaluateRaise_outcome (h : Able t r) (raise : Int) :
    Outcome t (t.evaluateRaise r raise) r (t.raisedMinimum r raise) := by
  have hmin := h.minimum_pos
  have hcash := h.cash_nonneg
  have hraise : (if raise < t.minimumRaise then t.minimumRaise else raise) = max raise t.minimumRaise := by
    split_ifs <;> omega
  simp only [evaluateRaise, raisedMinimum, hraise]
  cases hfull : t.getFullBetRule with
  | true => simpa using evaluateCall_outcome h .call
  | false =>
      simp only [Bool.false_eq_true, if_false, true_and]
      by_cases hmore : t.highestSet < (t.player r).myCash + (t.player r).mySet
      · rw [if_pos hmore]
        by_cases hcovers : t.highestSet + max raise t.minimumRaise ≥ (t.player r).myCash + (t.player r).mySet
        · rw [if_pos hcovers, Int.min_eq_right (by omega)]
          by_cases hshort : t.highestSet + t.minimumRaise > (t.player r).myCash + (t.player r).mySet
          · have hall := @evaluateAllIn_outcome (t.setFullBetRule true) r
              ⟨h.cash_nonneg, h.set_nonneg, h.highest_nonneg, h.minimum_pos⟩ hmore
            rw [if_pos hshort, if_neg (by omega)]
            exact ⟨((acts_refl t r).setFullBetRule true).evaluateAllIn, hall.cash_nonneg, hall.set_nonneg,
              hall.minimum_eq, hall.highest⟩
          · rw [if_neg hshort]
            exact evaluateAllIn_outcome h hmore
        · rw [if_neg hcovers, Int.min_eq_left (by omega)]
          exact evaluateRaise_part h (le_max_right _ _) (by omega)
      · rw [if_neg hmore, if_pos (by omega), if_pos (by omega), if_pos (by omega)]
        have hchips := setMySet_nonneg h.cash_nonneg h.set_nonneg (t.player r).myCash
        refine ⟨((acts_refl t r).setMySet _).setMyAction _, ?_, ?_, rfl, .inl ⟨rfl, rfl⟩⟩
        · simpa using hchips.1
        · simpa using hchips.2

theorem evaluateBet_minimumRaise (t : Betting) (r : Ref) (bet : Int) :
    (t.evaluateBet r bet).minimumRaise = min bet (t.player r).myCash := by
  simp only [evaluateBet, minimumRaise_setHighestSet, minimumRaise_setLastActionPlayerID]
  split_ifs
  · simp
    omega
  · simp
    omega
  · simp
    omega

theorem evaluateBet_outcome (h : Able t r) (bet : Int) (hbet : 0 < min bet (t.player r).myCash) :
    Outcome t (t.evaluateBet r bet) r (min bet (t.player r).myCash) := by
  have hset := h.set_nonneg
  have hchips := setMySet_nonneg h.cash_nonneg h.set_nonneg
  have hgrow (v : Int) (hv : 0 < v) : 0 < ((t.player r).setMySet v).mySet := by
    have hclamp := Player.clampToCash_pos (c := (t.player r).myCash) (v := v) (by omega) hv
    have hmySet : ((t.player r).setMySet v).mySet = (t.player r).mySet + Player.clampToCash (t.player r).myCash v := rfl
    omega
  refine ⟨?_, ?_, ?_, evaluateBet_minimumRaise t r bet, .inr ?_⟩
  all_goals
    simp only [evaluateBet]
    split_ifs
  · exact ((((((acts_refl t r).setFullBetRule _).setMinimumRaise _).setMySet _).setMyAction
      _).setLastActionPlayerID).setHighestSet _
  · exact (((((acts_refl t r).setMinimumRaise _).setMySet _).setMyAction _).setLastActionPlayerID).setHighestSet _
  · exact ((((acts_refl t r).setMinimumRaise _).setMySet _).setLastActionPlayerID).setHighestSet _
  · simpa using (hchips _).1
  · simpa using (hchips _).1
  · simpa using (hchips _).1
  · simpa using (hchips _).2
  · simpa using (hchips _).2
  · simpa using (hchips _).2
  · simpa using hgrow _ (by omega)
  · simpa using hgrow _ (by omega)
  · simpa using hgrow _ (by omega)

def evaluatedMinimum (t : Betting) (r : Ref) (bet raise : Int) : Int :=
  match (t.player r).myAction with
  | .bet => min bet (t.player r).myCash
  | .raise => t.raisedMinimum r raise
  | _ => t.minimumRaise

theorem evaluation_minimumRaise (h : Able t r) :
    (t.evaluation r bet raise).minimumRaise = t.evaluatedMinimum r bet raise := by
  simp only [evaluation, evaluatedMinimum]
  cases (t.player r).myAction with
  | none | fold | check | allIn => rfl
  | call => exact (evaluateCall_outcome h .call).minimum_eq
  | bet => exact evaluateBet_minimumRaise t r bet
  | raise => exact (evaluateRaise_outcome h raise).minimum_eq

theorem evaluation_outcome (h : Able t r) (hpos : 0 < t.evaluatedMinimum r bet raise) :
    Outcome t (t.evaluation r bet raise) r (t.evaluatedMinimum r bet raise) := by
  have hstay : Outcome t t r t.minimumRaise :=
    ⟨acts_refl t r, h.cash_nonneg, h.set_nonneg, rfl, .inl ⟨rfl, rfl⟩⟩
  simp only [evaluatedMinimum] at hpos
  simp only [evaluation, evaluatedMinimum]
  cases haction : (t.player r).myAction with
  | none | fold | check | allIn => exact hstay
  | call => exact evaluateCall_outcome h .call
  | bet =>
      rw [haction] at hpos
      exact evaluateBet_outcome h bet hpos
  | raise => exact evaluateRaise_outcome h raise

/-- What `evaluation` bets or raises, as far as the player's chips go, is at least `least`. -/
def FullEvaluation (t : Betting) (r : Ref) (least bet raise : Int) : Prop :=
  match (t.player r).myAction with
  | .bet => least ≤ bet ∧ least ≤ (t.player r).myCash
  | .raise =>
      if t.getFullBetRule = false ∧ t.highestSet < (t.player r).myCash + (t.player r).mySet then
        (least ≤ raise ∨ least ≤ t.minimumRaise) ∧
          t.highestSet + least ≤ (t.player r).myCash + (t.player r).mySet
      else least ≤ t.minimumRaise
  | _ => least ≤ t.minimumRaise

theorem le_evaluatedMinimum_iff {least : Int} :
    least ≤ t.evaluatedMinimum r bet raise ↔ t.FullEvaluation r least bet raise := by
  simp only [evaluatedMinimum, FullEvaluation]
  cases (t.player r).myAction with
  | none | fold | check | call | allIn => rfl
  | bet => exact le_min_iff
  | raise =>
      simp only [raisedMinimum]
      split_ifs
      · rw [le_min_iff, le_max_iff]
        exact and_congr_right fun _ => by omega
      · rfl

def movedMinimum (t : Betting) (r : Ref) (m : Move) : Int :=
  match m with
  | .bet amount => if 0 < min amount (t.player r).myCash then min amount (t.player r).myCash else t.minimumRaise
  | .raise amount =>
      if 0 < amount ∧ t.highestSet < (t.player r).myCash + (t.player r).mySet then
        min amount ((t.player r).myCash + (t.player r).mySet - t.highestSet)
      else t.minimumRaise
  | _ => t.minimumRaise

def LegalMove (m : Move) (highestSet : Int) : Prop :=
  match m with
  | .bet amount => 0 ≤ amount ∧ highestSet = 0
  | .raise amount => 0 ≤ amount
  | _ => True

theorem Outcome.modify {minimum : Int} (h : Outcome t t' r minimum) {f : Player → Player}
    (hcash : 0 ≤ (f (t'.player r)).myCash) (hset : 0 ≤ (f (t'.player r)).mySet) :
    Outcome t (t'.modify r f) r minimum :=
  ⟨h.acts.modify f, by simpa using hcash, by simpa using hset, h.minimum_eq, h.highest⟩

theorem outcome_modify {f : Player → Player} (hcash : 0 ≤ (f (t.player r)).myCash)
    (hset : 0 ≤ (f (t.player r)).mySet) : Outcome t (t.modify r f) r t.minimumRaise :=
  ⟨(acts_refl t r).modify f, by simpa using hcash, by simpa using hset, rfl, .inl ⟨rfl, rfl⟩⟩

/-- The player has put in as much as the highest set or more, and the round takes note of it. -/
theorem noteHighestSet_outcome (h : Able t r) {f : Player → Player} (hcash : 0 ≤ (f (t.player r)).myCash)
    (hset : t.highestSet ≤ (f (t.player r)).mySet) : Outcome t ((t.modify r f).noteHighestSet r) r
      (if (f (t.player r)).mySet > t.highestSet then (f (t.player r)).mySet - t.highestSet else t.minimumRaise) := by
  have hhighest := h.highest_nonneg
  refine ⟨((acts_refl t r).modify f).noteHighestSet, ?_, ?_, ?_, ?_⟩
  all_goals
    simp only [noteHighestSet, player_modify, highestSet_modify]
    split_ifs with hraised
  · simpa using hcash
  · simpa using hcash
  · simp
    omega
  · simp
    omega
  · simp
  · simp
  · simp
    omega
  · simp
    omega

theorem raiseBy_outcome (h : Able t r) {amount : Int} (hamount : 0 ≤ amount) : Outcome t (t.raiseBy r amount) r
    (t.movedMinimum r (.raise amount)) := by
  have hcash := h.cash_nonneg
  have hset := h.set_nonneg
  have hhighest := h.highest_nonneg
  simp only [raiseBy, movedMinimum, player_modify, highestSet_modify]
  by_cases hcovers : t.highestSet + amount ≥ (t.player r).myCash + (t.player r).mySet
  · rw [if_pos hcovers]
    by_cases hmore : (allIn (t.player r)).mySet > t.highestSet
    · have hnote := noteHighestSet_outcome h (f := allIn) (le_refl 0) hmore.le
      rw [if_pos hmore] at hnote ⊢
      simp only [allIn] at hmore hnote
      rw [if_pos ⟨by omega, by omega⟩, Int.min_eq_right (by omega), Int.add_comm (t.player r).myCash]
      exact hnote
    · rw [if_neg hmore]
      simp only [allIn] at hmore
      rw [if_neg (by omega)]
      exact outcome_modify (le_refl 0) (by simp only [allIn]; omega)
  · rw [if_neg hcovers]
    have hnote := @noteHighestSet_outcome t r h (fun p =>
      { p with myCash := p.myCash + p.mySet - t.highestSet - amount, mySet := t.highestSet + amount })
      (by dsimp only; omega) (by dsimp only; omega)
    dsimp only at hnote
    refine Outcome.modify ?_ ?_ ?_
    · by_cases hpos : 0 < amount
      · rw [if_pos (by omega)] at hnote
        rw [if_pos ⟨hpos, by omega⟩, Int.min_eq_left (by omega)]
        rwa [add_sub_cancel_left] at hnote
      · rw [if_neg (by omega)] at hnote
        rw [if_neg (by omega)]
        exact hnote
    · exact hnote.cash_nonneg
    · exact hnote.set_nonneg

theorem betOf_outcome (h : Able t r) {amount : Int} (hamount : 0 ≤ amount) (hopen : t.highestSet = 0) :
    Outcome t (t.betOf r amount) r (t.movedMinimum r (.bet amount)) := by
  have hcash := h.cash_nonneg
  have hbet : (betSet amount (t.player r)).mySet = min amount (t.player r).myCash ∧
      0 ≤ (betSet amount (t.player r)).myCash := by
    simp only [betSet]
    split_ifs with hall
    · exact ⟨by dsimp only; omega, le_refl 0⟩
    · exact ⟨by dsimp only; omega, by dsimp only; omega⟩
  have hnote := noteHighestSet_outcome h (f := betSet amount) hbet.2 (by omega)
  rw [hbet.1, hopen, sub_zero] at hnote
  exact hnote

theorem carryOut_outcome (h : Able t r) {m : Move} (hm : LegalMove m t.highestSet) :
    Outcome t (t.carryOut r m) r (t.movedMinimum r m) := by
  have hcash := h.cash_nonneg
  have hset := h.set_nonneg
  have hhighest := h.highest_nonneg
  cases m with
  | fold | check => exact outcome_modify hcash hset
  | call =>
      simp only [carryOut, call]
      split_ifs with hall
      · exact outcome_modify (le_refl 0) (by simp only [allIn]; omega)
      · exact outcome_modify (by dsimp only; omega) hhighest
  | bet amount => exact betOf_outcome h hm.1 hm.2
  | raise amount => exact raiseBy_outcome h hm
  | nothing => exact ⟨acts_refl t r, hcash, hset, rfl, .inl ⟨rfl, rfl⟩⟩

/-- What a version 3 engine bets or raises, as far as the player's chips go, is at least the minimum raise. -/
def FullMove (t : Betting) (r : Ref) (m : Move) : Prop :=
  match m with
  | .bet amount => 0 < min amount (t.player r).myCash → t.minimumRaise ≤ amount ∧ t.minimumRaise ≤ (t.player r).myCash
  | .raise amount => 0 < amount → t.highestSet < (t.player r).myCash + (t.player r).mySet →
      t.minimumRaise ≤ amount ∧ t.highestSet + t.minimumRaise ≤ (t.player r).myCash + (t.player r).mySet
  | _ => True

theorem le_movedMinimum_iff {m : Move} : t.minimumRaise ≤ t.movedMinimum r m ↔ t.FullMove r m := by
  cases m with
  | fold | check | call | nothing => simp [movedMinimum, FullMove]
  | bet amount =>
      simp only [movedMinimum, FullMove]
      split_ifs with hpos
      · rw [le_min_iff]
        exact ⟨fun hle _ => hle, fun hle => hle hpos⟩
      · exact ⟨fun _ h => absurd h hpos, fun _ => le_refl _⟩
  | raise amount =>
      simp only [movedMinimum, FullMove]
      split_ifs with hmore
      · rw [le_min_iff]
        exact ⟨fun hle _ _ => ⟨hle.1, by omega⟩, fun hle => ⟨(hle hmore.1 hmore.2).1, by
          have hchips := (hle hmore.1 hmore.2).2
          omega⟩⟩
      · exact ⟨fun _ hpos hlt => absurd ⟨hpos, hlt⟩ hmore, fun _ => le_refl _⟩

theorem movedMinimum_pos (h : Able t r) (m : Move) : 0 < t.movedMinimum r m := by
  have hmin := h.minimum_pos
  cases m with
  | fold | check | call | nothing => exact hmin
  | bet amount =>
      simp only [movedMinimum]
      split_ifs with hpos
      · exact hpos
      · exact hmin
  | raise amount =>
      simp only [movedMinimum]
      split_ifs with hmore
      · omega
      · exact hmin

end PokerTH.Betting
