import Mathlib.Algebra.Order.Ring.Int
import PokerTH.ClientHand
import PokerTH.ComputerRaise

namespace PokerTH

variable {t t' : Betting} {r : Ref}

/-- The turn of a computer player with chips, as the betting has left it to him. -/
structure OnTurn (t : Betting) (r : Ref) : Prop where
  set_nonneg : 0 ≤ (t.player r).mySet
  set_le : (t.player r).mySet ≤ t.highestSet
  cash_pos : 0 < (t.player r).myCash
  smallBlind_pos : 0 < t.hand.smallBlind

/-- The player has acted, has kept his chips, and has made a move that would be accepted of a player
at a client. -/
structure MovedLegally (t t' : Betting) (r : Ref) : Prop where
  acted : (t'.player r).myAction ≠ .none
  chips : (t'.player r).myCash + (t'.player r).mySet = (t.player r).myCash + (t.player r).mySet
  cash_nonneg : 0 ≤ (t'.player r).myCash
  accepted : (t.player r).checkMyAction (t'.player r).myAction ((t'.player r).mySet - (t.player r).mySet)
    t.highestSet t.minimumRaise t.hand.smallBlind = 0
  highest : t'.highestSet = max t.highestSet (t'.player r).mySet

theorem Player.checkMyAction_call_rest {p : Player} {highestSet minimumRaise smallBlind : Int} (hcash : 0 < p.myCash)
    (hrest : highestSet < p.myCash + p.mySet) :
    p.checkMyAction .call (highestSet - p.mySet) highestSet minimumRaise smallBlind = 0 := by
  simp only [checkMyAction]
  by_cases hset : p.mySet ≥ highestSet
  · rw [if_pos ⟨hset, hcash⟩]
  · rw [if_neg (fun hin => hset hin.1), if_pos ⟨hcash, by omega⟩, if_pos ⟨by omega, trivial⟩]

namespace Betting

@[simp] theorem highestSet_finish {oldMySet : Int} : (t.finish r oldMySet).highestSet = t.highestSet := rfl

@[simp] theorem player_finish {oldMySet : Int} : (t.finish r oldMySet).player r =
    { t.player r with
      myCash := max 0 (t.player r).myCash
      myLastRelativeSet := (t.player r).mySet - oldMySet } := player_modify

@[simp] theorem player_noteHighestSet : (t.noteHighestSet r).player r = t.player r := by
  simp only [noteHighestSet]
  split_ifs
  · rfl
  · rfl

@[simp] theorem highestSet_noteHighestSet : (t.noteHighestSet r).highestSet = (t.player r).mySet := by
  simp only [noteHighestSet]
  split_ifs
  · simp
  · simp

def moves (t : Betting) (r : Ref) (m : Move) : Betting := (t.carryOut r m).finish r (t.player r).mySet

theorem moves_fold (h : OnTurn t r) : MovedLegally t (t.moves r .fold) r := by
  have hcash := h.cash_pos
  have hle := h.set_le
  refine ⟨?_, ?_, ?_, ?_, ?_⟩
  all_goals simp only [moves, carryOut, player_finish, player_setMyAction, highestSet_finish, highestSet_setMyAction,
    myCash_setMyAction, mySet_setMyAction]
  · simp [Player.setMyAction]
  · omega
  · omega
  · rfl
  · omega

theorem moves_check (h : OnTurn t r) (hset : t.highestSet ≤ (t.player r).mySet) :
    MovedLegally t (t.moves r .check) r := by
  have hcash := h.cash_pos
  have hle := h.set_le
  refine ⟨?_, ?_, ?_, ?_, ?_⟩
  all_goals simp only [moves, carryOut, player_finish, player_setMyAction, highestSet_finish, highestSet_setMyAction,
    myCash_setMyAction, mySet_setMyAction]
  · simp [Player.setMyAction]
  · omega
  · omega
  · exact Player.checkMyAction_check.mpr hset
  · omega

theorem moves_call (h : OnTurn t r) : MovedLegally t (t.moves r .call) r := by
  have hcash := h.cash_pos
  have hle := h.set_le
  simp only [moves, carryOut, call]
  by_cases hcovers : t.highestSet ≥ (t.player r).myCash + (t.player r).mySet
  · rw [if_pos hcovers]
    refine ⟨?_, ?_, ?_, ?_, ?_⟩
    all_goals simp only [player_finish, player_modify, highestSet_finish, highestSet_modify, allIn]
    · simp
    · omega
    · omega
    · exact Player.checkMyAction_allIn.mpr ⟨by omega, hcash⟩
    · omega
  · rw [if_neg hcovers]
    refine ⟨?_, ?_, ?_, ?_, ?_⟩
    all_goals simp only [player_finish, player_modify, highestSet_finish, highestSet_modify]
    · simp
    · omega
    · omega
    · exact Player.checkMyAction_call_rest hcash (by omega)
    · omega

theorem moves_bet (h : OnTurn t r) {amount : Int} (hopen : t.highestSet = 0)
    (hamount : 2 * t.hand.smallBlind ≤ amount) : MovedLegally t (t.moves r (.bet amount)) r := by
  have hcash := h.cash_pos
  have hset := h.set_nonneg
  have hle := h.set_le
  have hblind := h.smallBlind_pos
  simp only [moves, carryOut, betOf]
  by_cases hall : amount ≥ (t.player r).myCash
  · have hbet : betSet amount (t.player r) =
        { t.player r with mySet := (t.player r).myCash, myCash := 0, myAction := .allIn } := if_pos hall
    refine ⟨?_, ?_, ?_, ?_, ?_⟩
    all_goals simp only [player_finish, highestSet_finish, player_noteHighestSet, highestSet_noteHighestSet,
      player_modify, hbet]
    · simp
    · omega
    · omega
    · exact Player.checkMyAction_allIn.mpr ⟨by omega, hcash⟩
    · omega
  · have hbet : betSet amount (t.player r) =
        { t.player r with mySet := amount, myCash := (t.player r).myCash - amount, myAction := .bet } := if_neg hall
    refine ⟨?_, ?_, ?_, ?_, ?_⟩
    all_goals simp only [player_finish, highestSet_finish, player_noteHighestSet, highestSet_noteHighestSet,
      player_modify, hbet]
    · simp
    · omega
    · omega
    · exact Player.checkMyAction_bet.mpr ⟨hopen, by omega, by omega⟩
    · omega

/-- A raise by `amount` that leaves the player chips, and is less than the minimum raise. -/
def RaisesShort (t : Betting) (r : Ref) (amount : Int) : Prop :=
  amount < t.minimumRaise ∧ t.highestSet + amount < (t.player r).myCash + (t.player r).mySet

theorem moves_raise_allIn (h : OnTurn t r) {amount : Int}
    (hcovers : t.highestSet + amount ≥ (t.player r).myCash + (t.player r).mySet) :
    MovedLegally t (t.moves r (.raise amount)) r := by
  have hcash := h.cash_pos
  have hle := h.set_le
  simp only [moves, carryOut, raiseBy, if_pos hcovers, player_modify, highestSet_modify, allIn]
  by_cases hmore : (t.player r).mySet + (t.player r).myCash > t.highestSet
  · rw [if_pos hmore]
    refine ⟨?_, ?_, ?_, ?_, ?_⟩
    all_goals simp only [player_finish, highestSet_finish, player_noteHighestSet, highestSet_noteHighestSet,
      player_modify, allIn]
    · simp
    · omega
    · omega
    · exact Player.checkMyAction_allIn.mpr ⟨by omega, hcash⟩
    · omega
  · rw [if_neg hmore]
    refine ⟨?_, ?_, ?_, ?_, ?_⟩
    all_goals simp only [player_finish, highestSet_finish, player_modify, highestSet_modify, allIn]
    · simp
    · omega
    · omega
    · exact Player.checkMyAction_allIn.mpr ⟨by omega, hcash⟩
    · omega

theorem moves_raise_iff (h : OnTurn t r) {amount : Int} (hopen : 0 < t.highestSet) (hamount : 0 ≤ amount) :
    MovedLegally t (t.moves r (.raise amount)) r ↔ ¬ t.RaisesShort r amount := by
  have hcash := h.cash_pos
  have hset := h.set_nonneg
  have hle := h.set_le
  by_cases hcovers : t.highestSet + amount ≥ (t.player r).myCash + (t.player r).mySet
  · exact ⟨fun _ hshort => absurd hshort.2 (by omega), fun _ => moves_raise_allIn h hcovers⟩
  · -- the player keeps chips, so that the move is a raise and has to be a full one
    have hplayer : (t.moves r (.raise amount)).player r =
        { t.player r with
          myCash := max 0 ((t.player r).myCash + (t.player r).mySet - t.highestSet - amount)
          mySet := t.highestSet + amount
          myAction := .raise
          myLastRelativeSet := t.highestSet + amount - (t.player r).mySet } := by
      simp only [moves, carryOut, raiseBy, if_neg hcovers, player_finish, player_setMyAction, player_noteHighestSet,
        player_modify, Player.setMyAction]
    have hhighest : (t.moves r (.raise amount)).highestSet = t.highestSet + amount := by
      simp only [moves, carryOut, raiseBy, if_neg hcovers, highestSet_finish, highestSet_setMyAction,
        highestSet_noteHighestSet, player_modify]
    constructor
    · intro hmoved hshort
      have haccepted := hmoved.accepted
      rw [hplayer] at haccepted
      have hfull : t.highestSet + t.minimumRaise ≤
          (t.player r).mySet + (t.highestSet + amount - (t.player r).mySet) :=
        (Player.checkMyAction_raise.mp haccepted).2.1
      have hless := hshort.1
      omega
    · intro hshort
      have hfull : t.minimumRaise ≤ amount := by
        by_contra hless
        exact hshort ⟨by omega, by omega⟩
      refine ⟨?_, ?_, ?_, ?_, ?_⟩
      all_goals simp only [hplayer, hhighest]
      · simp
      · omega
      · omega
      · exact Player.checkMyAction_raise.mpr ⟨hopen, by omega, by omega⟩
      · omega

end Betting

namespace Preflop3

variable {d : Preflop3} {highestSet smallBlind amount : Int}

def ShortRaise (d : Preflop3) (t : Betting) (r : Ref) : Prop :=
  d.folds t.hand.smallBlind (t.highestSet - (t.player r).mySet) = false ∧
    d.raises t.highestSet t.hand.smallBlind = true ∧
    ∃ amount, d.raise t.highestSet t.hand.smallBlind = some amount ∧ t.RaisesShort r amount

theorem highestSet_le_raise (hhighest : 0 ≤ highestSet) (hraises : d.raises highestSet smallBlind = true)
    (hraise : d.raise highestSet smallBlind = some amount) : highestSet ≤ amount := by
  simp only [raises, decide_eq_true_eq] at hraises
  simp only [raise] at hraise
  split_ifs at hraise with hhigh hbluff _ hsmall hbluff _ hsmall
  · cases hraise
    omega
  · cases hraise
    have hpotential : 1 ≤ (d.potential - 4) * 2 := by omega
    have htimes := le_mul_of_one_le_left hhighest hpotential
    omega
  · cases hraise
    omega
  · cases hraise
    have hpotential : 1 ≤ d.potential - 3 := by omega
    have htimes := le_mul_of_one_le_left hhighest hpotential
    omega

/-- Where the minimum raise is not above the highest set, no raise is short. -/
theorem not_shortRaise (h : OnTurn t r) (hminimum : t.minimumRaise ≤ t.highestSet) : ¬ d.ShortRaise t r := by
  rintro ⟨_, hraises, amount, hraise, hshort, _⟩
  have hset := h.set_nonneg
  have hle := h.set_le
  have hmultiple := highestSet_le_raise (by omega) hraises hraise
  omega

end Preflop3

namespace Street

variable {s : Street} {d : Postflop3}

def ShortRaise (s : Street) (d : Postflop3) (t : Betting) (r : Ref) : Prop :=
  s.folds d (s.potential d.percent d.tempRand - d.myDude) (t.highestSet - (t.player r).mySet) t.hand.smallBlind = false ∧
    t.highestSet ≠ 0 ∧
    s.raises (s.potential d.percent d.tempRand - d.myDude) d.bluff d.tempFold t.highestSet t.hand.smallBlind = true ∧
    t.RaisesShort r (s.raise (s.potential d.percent d.tempRand - d.myDude) d.bluff t.highestSet)

/-- Bets are of two small blinds or more, and raises are by the highest set or more. -/
structure Plays (s : Street) : Prop where
  bets : ∀ potential bluff smallBlind, 1 ≤ bluff → 0 < smallBlind → s.checks potential bluff = false →
    2 * smallBlind ≤ s.bet potential bluff smallBlind
  raises : ∀ potential bluff tempFold highestSet smallBlind, 1 ≤ bluff → 0 ≤ highestSet →
    s.raises potential bluff tempFold highestSet smallBlind = true → highestSet ≤ s.raise potential bluff highestSet

theorem turnStreet_plays : turnStreet.Plays where
  bets potential bluff smallBlind hbluff hblind hchecks := by
    simp only [turnStreet, decide_eq_false_iff_not] at hchecks ⊢
    split_ifs
    · exact Int.mul_le_mul_of_nonneg_right (by omega) (by omega)
    · rw [Int.tdiv_eq_ediv_of_nonneg (by omega)]
      exact Int.mul_le_mul_of_nonneg_right (by omega) (by omega)
    · have htimes : 2 * smallBlind ≤ (potential - 1) * 3 * smallBlind :=
        Int.mul_le_mul_of_nonneg_right (by omega) (by omega)
      omega
  raises potential bluff tempFold highestSet smallBlind hbluff hhighest hraises := by
    simp only [turnStreet, decide_eq_true_eq] at hraises ⊢
    split_ifs
    · rw [Int.tdiv_eq_ediv_of_nonneg (by omega)]
      exact le_mul_of_one_le_left hhighest (by omega)
    · exact (le_mul_of_one_le_left hhighest (by omega)).trans (le_max_right _ _)

theorem riverStreet_plays : riverStreet.Plays where
  bets potential bluff smallBlind hbluff hblind hchecks := by
    simp only [riverStreet, decide_eq_false_iff_not] at hchecks ⊢
    split_ifs
    · exact Int.mul_le_mul_of_nonneg_right (by omega) (by omega)
    · rw [Int.tdiv_eq_ediv_of_nonneg (by omega)]
      exact Int.mul_le_mul_of_nonneg_right (by omega) (by omega)
    · have htimes : 2 * smallBlind ≤ (potential - 1) * 4 * smallBlind :=
        Int.mul_le_mul_of_nonneg_right (by omega) (by omega)
      omega
  raises potential bluff tempFold highestSet smallBlind hbluff hhighest hraises := by
    simp only [riverStreet, decide_eq_true_eq] at hraises ⊢
    split_ifs
    · exact le_mul_of_one_le_left hhighest hbluff
    · exact (le_mul_of_one_le_left hhighest (by omega)).trans (le_max_right _ _)

/-- Where the minimum raise is not above the highest set, no raise is short. -/
theorem not_shortRaise (hs : s.Plays) (h : OnTurn t r) (hminimum : t.minimumRaise ≤ t.highestSet) :
    ¬ s.ShortRaise d t r := by
  rintro ⟨_, _, hraises, hshort, _⟩
  have hset := h.set_nonneg
  have hle := h.set_le
  have hraise := hs.raises _ _ _ _ _ d.bluff_pos (by omega) hraises
  omega

theorem moves_legally_iff (hs : s.Plays) (h : OnTurn t r) :
    MovedLegally t (t.moves r (s.move d (t.player r).mySet t.highestSet t.hand.smallBlind)) r ↔ ¬ s.ShortRaise d t r := by
  have hset := h.set_nonneg
  have hle := h.set_le
  simp only [move, ShortRaise]
  generalize s.potential d.percent d.tempRand - d.myDude = potential
  split_ifs with hfolds hopen hchecks hraises
  · exact iff_of_true (Betting.moves_fold h) (fun hshort => by simp [hshort.1] at hfolds)
  · exact iff_of_true (Betting.moves_check h (by omega)) (fun hshort => hshort.2.1 hopen)
  · have hbet := hs.bets potential d.bluff t.hand.smallBlind d.bluff_pos h.smallBlind_pos (by simpa using hchecks)
    exact iff_of_true (Betting.moves_bet h hopen hbet) (fun hshort => hshort.2.1 hopen)
  · have hraise := hs.raises potential d.bluff d.tempFold t.highestSet t.hand.smallBlind d.bluff_pos (by omega) hraises
    rw [Betting.moves_raise_iff h (by omega) (by omega), not_iff_not]
    exact ⟨fun hshort => ⟨by simpa using hfolds, hopen, hraises, hshort⟩, fun hshort => hshort.2.2.2⟩
  · exact iff_of_true (Betting.moves_call h) (fun hshort => hraises hshort.2.2.1)

end Street

namespace Betting

theorem preflop3_moves_legally_iff {d : Preflop3} (h : OnTurn t r) (hpreflop : 0 < t.highestSet) :
    MovedLegally t (t.moves r (d.move (t.player r).mySet t.highestSet t.hand.smallBlind)) r ↔ ¬ d.ShortRaise t r := by
  simp only [Preflop3.move, Preflop3.ShortRaise]
  split_ifs with hfolds hraises hset
  · exact iff_of_true (moves_fold h) (fun hshort => by simp [hshort.1] at hfolds)
  · cases hraise : d.raise t.highestSet t.hand.smallBlind with
    | none => exact iff_of_true (moves_call h) (fun ⟨_, _, _, hsome, _⟩ => by cases hsome)
    | some amount =>
        have hle := Preflop3.highestSet_le_raise hpreflop.le hraises hraise
        dsimp only
        rw [if_pos (by omega), moves_raise_iff h hpreflop (by omega), not_iff_not]
        constructor
        · intro hshort
          exact ⟨by simpa using hfolds, hraises, amount, rfl, hshort⟩
        · rintro ⟨_, _, _, hsome, hshort⟩
          cases hsome
          exact hshort
  · exact iff_of_true (moves_check h (by omega)) (fun hshort => hraises hshort.2.1)
  · exact iff_of_true (moves_call h) (fun hshort => hraises hshort.2.1)

/-- A version 3 engine makes a legal move, and keeps the player's chips, unless it raises by less than the
minimum raise and leaves chips behind. -/
theorem engines3_moveLegally_iff (t : Betting) (r : Ref) (h : OnTurn t r) :
    (2 * t.hand.smallBlind ≤ t.highestSet → ∀ d,
      MovedLegally t (t.preflopEngine3 r d) r ↔ ¬ d.ShortRaise t r) ∧
    (∀ d, MovedLegally t (t.turnEngine3 r d) r ↔ ¬ turnStreet.ShortRaise d t r) ∧
    ∀ d, MovedLegally t (t.riverEngine3 r d) r ↔ ¬ riverStreet.ShortRaise d t r := by
  have hblind := h.smallBlind_pos
  exact ⟨fun hpreflop _ => preflop3_moves_legally_iff h (by omega),
    fun _ => Street.moves_legally_iff Street.turnStreet_plays h,
    fun _ => Street.moves_legally_iff Street.riverStreet_plays h⟩

/-- On the turn, blinds 10/20, the big blind has gone all in with his last 10 chips. -/
def shortAllIn : Betting where
  hand := Hand.performPlayerAction
    { players := fun r => Player.create (r + 1) (if r = 1 then .computer else .human) "" (if r = 0 then 10 else 1000) true
      seatsList := [0, 1]
      activePlayerList := [0, 1]
      runningPlayerList := [0, 1]
      board := Game.newBoard
      myBeRo := ClientHand.newBeRo 2 10
      dealerPosition := 2
      smallBlindPosition := 2
      bigBlindPosition := 1
      currentRound := .turn
      roundBeforePostRiver := .preflop
      smallBlind := 10
      lastActionPlayerID := 0
      allInCondition := false
      cardsShown := false } 0 .allIn 10
  fullBetRule := fun _ => false

theorem onTurn_shortAllIn : OnTurn shortAllIn 1 := ⟨by decide, by decide, by decide, by decide⟩

def goodCards (percent tempRand : Int) : Postflop3 := ⟨percent, true, 3, tempRand, 50, 3, by decide⟩

/-- With better cards the computer player raises by 30, more than the minimum raise of 20. -/
theorem engines3_moveLegally_raise : MovedLegally shortAllIn (shortAllIn.turnEngine3 1 (goodCards 85 10)) 1 :=
  ((engines3_moveLegally_iff shortAllIn 1 onTurn_shortAllIn).2.1 (goodCards 85 10)).mpr
    (fun hshort => absurd hshort.2.2.2.1 (by decide))

/-- The computer player raises by 10 where the minimum raise is 20. -/
theorem turnEngine3_raises_short : OnTurn shortAllIn 1 ∧
    ¬ MovedLegally shortAllIn (shortAllIn.turnEngine3 1 (goodCards 70 9)) 1 :=
  ⟨onTurn_shortAllIn, fun hmoved => absurd hmoved.accepted (by decide)⟩

end Betting

end PokerTH
