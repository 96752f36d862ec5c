import PokerTH.PreflopChips

namespace PokerTH

/-- What `preflopEngine` looks at beyond the table: the odds of the hole cards, the player's own number, what
it makes of the only human player's aggression, the random draw, and the bluff drawn for the hand. -/
structure Preflop0 where
  myOdds : Rat
  myDude4 : Int
  aggValue : Int
  cBluff : Int
  mySBluff : Int
  mySBluffStatus : Bool
  mySBluff_pos : 1 ≤ mySBluff

namespace Preflop0

variable (o : Preflop0) (t : Betting) (r : Ref) (p : Player)

def reaches (level : Int) : Bool := (level : Rat) ≤ o.myOdds

/-- The conversion of the odds to an integer cuts off the fraction. -/
def truncated : Int := if 0 ≤ o.myOdds then o.myOdds.floor else o.myOdds.ceil

def activePlayers : Int := t.hand.activePlayerList.length

def players : Int :=
  let players := if activePlayers t > 5 then 5 else activePlayers t
  if players < 2 then 2 else players

def individualHighestSet : Int :=
  if t.highestSet > (t.player r).myCash then (t.player r).myCash else t.highestSet

/-- How much the human players lower the levels. -/
def humans : Int :=
  let humans := t.hand.activePlayerList.filter fun q => (t.hand.players q).myType == .human
  if humans.length = 0 then 0
  else if humans.length = 1 then
    if humans.any fun q => (t.hand.players q).myAction != .fold then o.aggValue else 0
  else 3

/-- `myNiveau[0]`: fold or call. -/
def myNiveau0 : Int :=
  let ratio := (t.player r).myCash.tdiv (individualHighestSet t r)
  let level := 43 + o.myDude4 - 6 * (players t - 2)
  let level :=
    if individualHighestSet t r > 0 then
      if ratio ≥ 25 then level + (25 - ratio).tdiv 10 else level + (25 - ratio).tdiv 3
    else level
  level - o.humans t

/-- `myNiveau[2]`: call or raise. -/
def myNiveau2 : Int :=
  let ratio := (t.player r).myCash.tdiv (individualHighestSet t r)
  let level := 54 + o.myDude4 - 7 * (players t - 2)
  let level := if individualHighestSet t r > 0 ∧ ratio < 11 then level + (21 - ratio).tdiv 2 else level
  level - o.humans t

def bigBlindChecks : Bool := p.myButton = .bigBlind ∧ p.mySet = t.highestSet

def closeCall (parts : Int) : Bool := p.myCash - t.highestSet ≤ (p.myCash * 1).tdiv parts

def raiseAll : Decision := ⟨.raise, 0, p.myCash⟩

/-- The raise becomes all in with few chips, or when it is close to that. -/
def raiseBy (raise : Int) : Decision :=
  ⟨.raise, 0,
    if p.myCash.tdiv (2 * t.hand.smallBlind) ≤ 6 ∨ raise ≥ (p.myCash * 4).tdiv 5 then p.myCash else raise⟩

def callOrCheck : PlayerAction := if bigBlindChecks t p then .check else .call

def high : Decision :=
  if t.highestSet ≥ 12 * t.hand.smallBlind then
    if o.reaches (o.myNiveau2 t r + 8) then raiseAll (t.player r)
    else if closeCall t (t.player r) 5 then raiseAll (t.player r)
    else ⟨.call, 0, 0⟩
  else raiseBy t (t.player r) ((o.truncated - o.myNiveau2 t r).tdiv 2 * 2 * t.hand.smallBlind)

/-- `cBluff` has the player call, or check, instead of raise. -/
def slows : Bool :=
  o.cBluff > 90 ∨ (o.cBluff > 80 ∧ o.reaches (o.myNiveau2 t r + 4)) ∨
    (o.cBluff > 70 ∧ o.reaches (o.myNiveau2 t r + 8)) ∨ (o.cBluff > 60 ∧ o.reaches (o.myNiveau2 t r + 12))

/-- The first choice, which the player pays for at once. -/
def first : Decision :=
  if o.reaches (o.myNiveau2 t r) then
    if o.slows t r then { o.high t r with myAction := callOrCheck t (t.player r) } else o.high t r
  else if o.reaches (o.myNiveau0 t r) ∨
      ((t.player r).mySet ≥ t.highestSet.tdiv 2 ∧ o.reaches (o.myNiveau0 t r - 8)) then
    if bigBlindChecks t (t.player r) then ⟨.check, 0, 0⟩
    else if closeCall t (t.player r) 5 then raiseAll (t.player r)
    else ⟨.call, 0, 0⟩
  else if bigBlindChecks t (t.player r) then ⟨.check, 0, 0⟩
  else ⟨.fold, 0, 0⟩

def bluffThreshold : Int :=
  if activePlayers t > 2 then (100 : Int).tdiv ((activePlayers t - 2) * 6) + 3 else 2147483647

def bluffs : Bool :=
  (o.mySBluff < bluffThreshold t ∧ ¬ o.reaches (o.myNiveau2 t r) ∧ t.highestSet = 2 * t.hand.smallBlind ∧
    ¬ o.mySBluffStatus) ∨ o.mySBluffStatus

def bluffing : Decision :=
  if t.highestSet ≥ 4 * t.hand.smallBlind then
    if closeCall t p 6 then raiseAll p else { o.first t r with myAction := callOrCheck t p }
  else raiseBy t p (o.mySBluff.tdiv (8 - min 7 (activePlayers t)) * t.hand.smallBlind)

/-- A bluff ends against a high set. -/
def endsBluff : Bool :=
  (t.highestSet ≥ 12 * t.hand.smallBlind ∧ ¬ o.reaches (o.myNiveau0 t r)) ∨
    (t.highestSet ≥ 20 * t.hand.smallBlind ∧ ¬ o.reaches (o.myNiveau2 t r))

def bluff : Decision :=
  if o.endsBluff t r then { o.bluffing t r p with myAction := .fold } else o.bluffing t r p

/-- The choice that `evaluation` carries out. -/
def second : Decision :=
  if o.bluffs t r then o.bluff t r ((t.prepaid r (o.first t r)).player r) else o.first t r

def preflopEngine : Betting := t.preflopEngine r (o.first t r) (o.second t r)

variable {o t r p}

theorem le_truncated {level : Int} (hreaches : o.reaches level = true) : level ≤ o.truncated := by
  simp only [reaches, decide_eq_true_eq] at hreaches
  simp only [truncated]
  split_ifs
  · exact Rat.le_floor_iff.mpr hreaches
  · exact Rat.intCast_le_intCast.mp (Rat.le_trans hreaches Rat.le_ceil)

theorem raiseAll_preflop (hcash : 0 ≤ p.myCash) : (raiseAll p).Preflop :=
  ⟨by simp [raiseAll], by simp [raiseAll], by simp [raiseAll], hcash⟩

theorem raiseBy_preflop (hcash : 0 ≤ p.myCash) {raise : Int} (hraise : 0 ≤ raise) : (raiseBy t p raise).Preflop := by
  refine ⟨by simp [raiseBy], by simp [raiseBy], by simp [raiseBy], ?_⟩
  simp only [raiseBy]
  split_ifs
  · exact hcash
  · exact hraise

theorem callOrCheck_preflop {d : Decision} (hd : d.Preflop) :
    ({ d with myAction := callOrCheck t p } : Decision).Preflop := by
  simp only [callOrCheck]
  split_ifs
  · exact ⟨by simp, by simp, by simp, hd.raise_nonneg⟩
  · exact ⟨by simp, by simp, by simp, hd.raise_nonneg⟩

theorem high_preflop (h : InRound t r) (hreaches : o.reaches (o.myNiveau2 t r) = true) : (o.high t r).Preflop := by
  have hblind := h.smallBlind_pos
  simp only [high]
  split_ifs
  · exact raiseAll_preflop h.cash_nonneg
  · exact raiseAll_preflop h.cash_nonneg
  · exact ⟨by simp, by simp, by simp, le_refl 0⟩
  · have hlevel := le_truncated hreaches
    have hsteps : 0 ≤ (o.truncated - o.myNiveau2 t r).tdiv 2 := Int.tdiv_nonneg (by omega) (by omega)
    exact raiseBy_preflop h.cash_nonneg (Int.mul_nonneg (by omega) hblind.le)

theorem first_preflop (h : InRound t r) : (o.first t r).Preflop := by
  simp only [first]
  split_ifs with hhigh
  · exact callOrCheck_preflop (high_preflop h hhigh)
  · exact high_preflop h hhigh
  · exact ⟨by simp, by simp, by simp, le_refl 0⟩
  · exact raiseAll_preflop h.cash_nonneg
  · exact ⟨by simp, by simp, by simp, le_refl 0⟩
  · exact ⟨by simp, by simp, by simp, le_refl 0⟩
  · exact ⟨by simp, by simp, by simp, le_refl 0⟩

theorem bluffing_preflop (h : InRound t r) (hcash : 0 ≤ p.myCash) : (o.bluffing t r p).Preflop := by
  have hblind := h.smallBlind_pos
  have hpos := o.mySBluff_pos
  have hsteps : 0 ≤ o.mySBluff.tdiv (8 - min 7 (activePlayers t)) := Int.tdiv_nonneg (by omega) (by omega)
  simp only [bluffing]
  split_ifs
  · exact raiseAll_preflop hcash
  · exact callOrCheck_preflop (first_preflop h)
  · exact raiseBy_preflop hcash (Int.mul_nonneg hsteps hblind.le)

theorem bluff_preflop (h : InRound t r) (hcash : 0 ≤ p.myCash) : (o.bluff t r p).Preflop := by
  have hchoice : (o.bluffing t r p).Preflop := bluffing_preflop h hcash
  simp only [bluff]
  split_ifs
  · exact ⟨by simp, by simp, by simp, hchoice.raise_nonneg⟩
  · exact hchoice

theorem second_preflop (h : InRound t r) : (o.second t r).Preflop := by
  have hfirst : (o.first t r).Preflop := first_preflop h
  have hpaid := Betting.paid_prepaid h hfirst
  have hcash := hpaid.cash
  have hle := hpaid.paid_le
  simp only [second]
  split_ifs
  · exact bluff_preflop h (by omega)
  · exact hfirst

/-- The engine has the player pay once if and only if its two choices do. -/
theorem preflopEngine_paysOnce_iff (o : Preflop0) (t : Betting) (r : Ref) (h : InRound t r) :
    PaidOnce t (o.preflopEngine t r) r ↔ (o.first t r).PaysOnce (o.second t r) t r :=
  Betting.preflopEngine_paidOnce_iff h (first_preflop h) (second_preflop h)

/-- Before the flop, blinds 10/20, the small blind has raised to 40, and the big blind has some chips left. -/
def smallBlindRaised (chips : Int) : Betting where
  hand :=
    { players := fun q =>
        if q = 0 then { Player.create 1 .human "" 960 true with mySet := 40, myButton := .smallBlind }
        else { Player.create 2 .computer "" chips true with mySet := 20, myButton := .bigBlind }
      seatsList := [0, 1]
      activePlayerList := [0, 1]
      runningPlayerList := [0, 1]
      board := Game.newBoard
      myBeRo := fun gS => { ClientHand.newBeRo 1 10 gS with highestSet := 40 }
      dealerPosition := 1
      smallBlindPosition := 1
      bigBlindPosition := 2
      currentRound := .preflop
      roundBeforePostRiver := .preflop
      smallBlind := 10
      lastActionPlayerID := 0
      allInCondition := false
      cardsShown := false }
  fullBetRule := fun _ => false

theorem one_le_sBluff : (1 : Int) ≤ 50 := by decide

def cards (myOdds : Rat) : Preflop0 := ⟨myOdds, 0, 0, 50, 50, false, one_le_sBluff⟩

/-- With fair cards and his last 10 chips the player goes all in, and pays them once. -/
theorem paidOnce_allIn : PaidOnce (smallBlindRaised 10) ((cards 45).preflopEngine (smallBlindRaised 10) 1) 1 ∧
    (((cards 45).preflopEngine (smallBlindRaised 10) 1).player 1).myAction = .allIn ∧
    (((cards 45).preflopEngine (smallBlindRaised 10) 1).player 1).mySet = 30 := by
  have hround : InRound (smallBlindRaised 10) 1 := ⟨by decide, by decide, by decide, by decide⟩
  refine ⟨(preflopEngine_paysOnce_iff (cards 45) (smallBlindRaised 10) 1 hround).mpr ?_, by decide, by decide⟩
  have hraise : ((cards 45).second (smallBlindRaised 10) 1).myAction = .raise := by decide
  have hpays : ((cards 45).first (smallBlindRaised 10) 1).pays (smallBlindRaised 10) 1 = 10 := by decide
  have hrule : (smallBlindRaised 10).getFullBetRule = false := by decide
  simp only [Decision.PaysOnce, hraise, hpays, hrule]
  decide

/-- With 980 chips the player calls the raise of 20, and 40 of his chips are gone. -/
theorem call_paid_twice : InRound (smallBlindRaised 980) 1 ∧
    (((cards 45).preflopEngine (smallBlindRaised 980) 1).player 1).myAction = .call ∧
    (((cards 45).preflopEngine (smallBlindRaised 980) 1).player 1).myCash = 940 ∧
    (((cards 45).preflopEngine (smallBlindRaised 980) 1).player 1).mySet = 40 ∧
    ¬ PaidOnce (smallBlindRaised 980) ((cards 45).preflopEngine (smallBlindRaised 980) 1) 1 :=
  ⟨⟨by decide, by decide, by decide, by decide⟩, by decide, by decide, by decide, fun hpaid => absurd hpaid.chips (by decide)⟩

end Preflop0

end PokerTH
