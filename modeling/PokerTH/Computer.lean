import PokerTH.ServerHand

namespace PokerTH

/-- A hand with the full bet rule of its betting rounds, which only computer players look at. -/
structure Betting where
  hand : Hand
  fullBetRule : GameState → Bool

namespace Betting

variable (t : Betting) (r : Ref)

def highestSet : Int := t.hand.getCurrentBeRo.highestSet

def minimumRaise : Int := t.hand.getCurrentBeRo.minimumRaise

def player : Player := t.hand.players r

def getFullBetRule : Bool := t.fullBetRule t.hand.currentRound

def setFullBetRule (v : Bool) : Betting :=
  { t with fullBetRule := Function.update t.fullBetRule t.hand.currentRound v }

def setMinimumRaise (v : Int) : Betting := { t with hand := t.hand.setMinimumRaise v }

def setHighestSet (v : Int) : Betting := { t with hand := t.hand.setHighestSet v }

def setLastActionPlayerID : Betting := { t with hand := t.hand.setLastActionPlayerID (t.hand.uniqueID r) }

def modify (f : Player → Player) : Betting :=
  { t with hand := t.hand.setPlayers (updatePlayer t.hand.players r f) }

def setMySet (theValue : Int) : Betting := t.modify r fun p => p.setMySet theValue

def setMyAction (action : PlayerAction) : Betting := t.modify r fun p => p.setMyAction action

/-- The call of `evaluation`, all in when the stack does not cover it. -/
def evaluateCall (action : PlayerAction) : Betting :=
  if t.highestSet ≥ (t.player r).myCash + (t.player r).mySet then
    (t.setMySet r (t.player r).myCash).setMyAction r .allIn
  else (t.setMySet r (t.highestSet - (t.player r).mySet)).setMyAction r action

def evaluateBet (bet : Int) : Betting :=
  let t' :=
    if bet ≥ (t.player r).myCash then
      let u := if (t.player r).myCash < 2 * t.hand.smallBlind then t.setFullBetRule true else t
      ((u.setMinimumRaise (t.player r).myCash).setMySet r (t.player r).myCash).setMyAction r .allIn
    else (t.setMinimumRaise bet).setMySet r bet
  (t'.setLastActionPlayerID r).setHighestSet (t'.player r).mySet

/-- The raise of `evaluation` with all chips. -/
def evaluateAllIn : Betting :=
  let t' := (t.setLastActionPlayerID r).setMySet r (t.player r).myCash
  let raised := (t'.player r).mySet - t.highestSet
  let t' := if raised > 0 then t'.setMinimumRaise raised else t'
  (t'.setMyAction r .allIn).setHighestSet (t'.player r).mySet

def evaluateRaise (raise : Int) : Betting :=
  if t.getFullBetRule then t.evaluateCall r .call
  else
    let raise := if raise < t.minimumRaise then t.minimumRaise else raise
    let chips := (t.player r).myCash + (t.player r).mySet
    if t.highestSet + raise ≥ chips then
      if t.highestSet + t.minimumRaise > chips then
        if t.highestSet ≥ chips then (t.setMySet r (t.player r).myCash).setMyAction r .allIn
        else (t.setFullBetRule true).evaluateAllIn r
      else t.evaluateAllIn r
    else
      let t' := (t.setMinimumRaise raise).setMySet r (t.highestSet + raise - (t.player r).mySet)
      (t'.setHighestSet (t'.player r).mySet).setLastActionPlayerID r

/-- `LocalPlayer::evaluation`: carries out the action the player has chosen. -/
def evaluation (bet raise : Int) : Betting :=
  match (t.player r).myAction with
  | .none | .fold | .check | .allIn => t
  | .call => t.evaluateCall r .call
  | .bet => t.evaluateBet r bet
  | .raise => t.evaluateRaise r raise

def allIn (p : Player) : Player := { p with mySet := p.mySet + p.myCash, myCash := 0, myAction := .allIn }

def call : Betting :=
  if t.highestSet ≥ (t.player r).myCash + (t.player r).mySet then t.modify r allIn
  else t.modify r fun p =>
    { p with myCash := p.myCash - t.highestSet + p.mySet, mySet := t.highestSet, myAction := .call }

/-- The highest set of the version 3 engines, and the minimum raise that follows from it. -/
def noteHighestSet : Betting :=
  let t' := t.setHighestSet (t.player r).mySet
  if (t.player r).mySet > t.highestSet then t'.setMinimumRaise ((t.player r).mySet - t.highestSet) else t'

def raiseBy (raise : Int) : Betting :=
  if t.highestSet + raise ≥ (t.player r).myCash + (t.player r).mySet then
    let t' := t.modify r allIn
    if (t'.player r).mySet > t'.highestSet then t'.noteHighestSet r else t'
  else
    let t' := t.modify r fun p =>
      { p with myCash := p.myCash + p.mySet - t.highestSet - raise, mySet := t.highestSet + raise }
    (t'.noteHighestSet r).setMyAction r .raise

def betSet (bet : Int) (p : Player) : Player :=
  if bet ≥ p.myCash then { p with mySet := p.myCash, myCash := 0, myAction := .allIn }
  else { p with mySet := bet, myCash := p.myCash - bet, myAction := .bet }

def betOf (bet : Int) : Betting := (t.modify r (betSet bet)).noteHighestSet r

def finish (oldMySet : Int) : Betting :=
  t.modify r fun p => { p with myCash := max 0 p.myCash, myLastRelativeSet := p.mySet - oldMySet }

end Betting

/-- What `preflopEngine3` looks at beyond the chips: the class of the hole cards, the player's own
number, and the random draws. -/
structure Preflop3 where
  holeCardsClass : Int
  myDude : Int
  tempRand : Int
  bluff : Int
  tempFold : Int

namespace Preflop3

variable (d : Preflop3) (highestSet smallBlind : Int)

def potential : Int := (10 * (4 * d.holeCardsClass + 1 * d.tempRand)).tdiv 50 - d.myDude

def folds (setToHighest : Int) : Bool :=
  (d.potential * setToHighest < 0 ∨ (setToHighest > d.tempFold * smallBlind ∧ d.potential < 1) ∨
    (setToHighest > 2 * d.tempFold * smallBlind ∧ d.potential < 2) ∨
    (setToHighest > 4 * d.tempFold * smallBlind ∧ d.potential < 3) ∨
    (setToHighest > 10 * d.tempFold * smallBlind ∧ d.potential < 4)) ∧
  d.holeCardsClass < 9 ∧ d.bluff > 15

def raises : Bool := (d.potential ≥ 4 ∧ 6 * smallBlind ≥ highestSet) ∨ d.bluff ≤ 6

/-- The raise, `none` when a player about to raise calls instead. -/
def raise : Option Int :=
  if d.potential ≥ 6 ∨ d.bluff ≤ 2 then
    if d.bluff ≤ 2 ∧ 4 * smallBlind > highestSet then some (3 * highestSet)
    else if d.bluff ≥ 98 then none
    else if ¬ 4 * smallBlind > highestSet then none
    else some (max 0 ((d.potential - 4) * 2 * highestSet))
  else
    if d.bluff ≤ 6 ∧ 4 * smallBlind > highestSet then some (2 * highestSet)
    else if d.bluff ≥ 93 then none
    else if ¬ 4 * smallBlind > highestSet then none
    else some (max 0 ((d.potential - 3) * highestSet))

end Preflop3

/-- What the later version 3 engines look at beyond the chips: the odds of the cards in percent, and
whether they are below 90 percent, the player's own number, and the random draws. -/
structure Postflop3 where
  percent : Int
  below90 : Bool
  myDude : Int
  tempRand : Int
  bluff : Int
  tempFold : Int
  bluff_pos : 1 ≤ bluff

/-- What differs between the version 3 engines of flop, turn and river. -/
structure Street where
  potential : (percent tempRand : Int) → Int
  foldBluff : Int
  checks : (potential bluff : Int) → Bool
  bet : (potential bluff smallBlind : Int) → Int
  raises : (potential bluff tempFold highestSet smallBlind : Int) → Bool
  raise : (potential bluff highestSet : Int) → Int

def flopStreet : Street where
  potential percent tempRand := (10 * (5 * percent + 10 * tempRand * 2)).tdiv 700
  foldBluff := 18
  checks potential bluff := (potential < 3 ∨ bluff ≥ 80) ∧ bluff > 15
  bet potential bluff smallBlind :=
    if bluff ≤ 5 then (bluff + 1) * smallBlind
    else if bluff ≤ 15 then 4 * smallBlind
    else max 0 ((potential - 1) * 2 * smallBlind)
  raises potential bluff tempFold highestSet smallBlind :=
    (potential ≥ 4 ∧ 2 * tempFold * smallBlind ≥ highestSet) ∨
      (bluff ≤ 5 ∧ 4 * tempFold * smallBlind ≥ highestSet)
  raise potential bluff highestSet :=
    if bluff ≤ 5 then (bluff + 1).tdiv 2 * highestSet else max 0 ((potential - 2).tdiv 2 * highestSet)

def turnStreet : Street where
  potential percent tempRand := (10 * (5 * percent + 10 * tempRand * 2)).tdiv 700
  foldBluff := 15
  checks potential bluff := (potential < 2 ∨ bluff ≥ 80) ∧ bluff > 10
  bet potential bluff smallBlind :=
    if bluff ≤ 3 then bluff * 2 * smallBlind
    else if bluff ≤ 10 then (bluff + 2).tdiv 3 * smallBlind
    else max 0 ((potential - 1) * 3 * smallBlind)
  raises potential bluff tempFold highestSet smallBlind :=
    (potential ≥ 4 ∧ 2 * tempFold * smallBlind ≥ highestSet) ∨
      (bluff ≤ 4 ∧ 3 * tempFold * smallBlind ≥ highestSet)
  raise potential bluff highestSet :=
    if bluff ≤ 4 then (bluff + 1).tdiv 2 * highestSet else max 0 ((potential - 3) * highestSet)

def riverStreet : Street where
  potential percent tempRand := (10 * (5 * percent + 10 * tempRand * 1)).tdiv 600
  foldBluff := 15
  checks potential bluff := (potential < 2 ∨ bluff ≥ 92) ∧ bluff > 15
  bet potential bluff smallBlind :=
    if bluff ≤ 5 then (bluff + 3) * smallBlind
    else if bluff ≤ 15 then (bluff - 1).tdiv 5 * 2 * smallBlind
    else max 0 ((potential - 1) * 4 * smallBlind)
  raises potential bluff tempFold highestSet smallBlind :=
    (potential ≥ 4 ∧ 2 * tempFold * smallBlind ≥ highestSet) ∨
      (bluff ≤ 2 ∧ 4 * tempFold * smallBlind ≥ highestSet)
  raise potential bluff highestSet :=
    if bluff ≤ 2 then bluff * highestSet else max 0 ((potential - 3) * highestSet)

def Street.folds (s : Street) (d : Postflop3) (potential setToHighest smallBlind : Int) : Bool :=
  (potential * setToHighest < 0 ∨ (setToHighest > d.tempFold * smallBlind ∧ potential < 1) ∨
    (setToHighest > 3 * d.tempFold * smallBlind ∧ potential < 2) ∨
    (setToHighest > 9 * d.tempFold * smallBlind ∧ potential < 3) ∨
    (setToHighest > 20 * d.tempFold * smallBlind ∧ potential < 4) ∨
    (setToHighest > 40 * d.tempFold * smallBlind ∧ potential < 5)) ∧
  d.below90 ∧ d.bluff > s.foldBluff

/-- What a version 3 engine does with its chips. -/
inductive Move
  | fold | check | call
  | bet (amount : Int)
  | raise (amount : Int)
  | nothing
  deriving DecidableEq

def Preflop3.move (d : Preflop3) (mySet highestSet smallBlind : Int) : Move :=
  if d.folds smallBlind (highestSet - mySet) then .fold
  else if d.raises highestSet smallBlind then
    match d.raise highestSet smallBlind with
    | none => .call
    | some raise => if raise > 0 then .raise raise else .nothing
  else if mySet = highestSet then .check
  else .call

def Street.move (s : Street) (d : Postflop3) (mySet highestSet smallBlind : Int) : Move :=
  let potential := s.potential d.percent d.tempRand - d.myDude
  if s.folds d potential (highestSet - mySet) smallBlind then .fold
  else if highestSet = 0 then
    if s.checks potential d.bluff then .check else .bet (s.bet potential d.bluff smallBlind)
  else if s.raises potential d.bluff d.tempFold highestSet smallBlind then
    .raise (s.raise potential d.bluff highestSet)
  else .call

namespace Betting

variable (t : Betting) (r : Ref)

def carryOut : Move → Betting
  | .fold => t.setMyAction r .fold
  | .check => t.setMyAction r .check
  | .call => t.call r
  | .bet amount => t.betOf r amount
  | .raise amount => t.raiseBy r amount
  | .nothing => t

def preflopEngine3 (d : Preflop3) : Betting :=
  (t.carryOut r (d.move (t.player r).mySet t.highestSet t.hand.smallBlind)).finish r (t.player r).mySet

/-- The switch after the call of `evaluation` in `preflopEngine` and `flopEngine3`. -/
def settle (oldMySet raise : Int) (highestSet : Int) (p : Player) : Player :=
  match p.myAction with
  | .call =>
      if highestSet - oldMySet > 0 then
        { p with myCash := p.myCash - (highestSet - oldMySet), mySet := highestSet }
      else p
  | .raise =>
      if highestSet - oldMySet + raise > 0 then
        if highestSet - oldMySet + raise > p.myCash then { p with mySet := p.mySet + p.myCash, myCash := 0 }
        else { p with myCash := p.myCash - (highestSet - oldMySet + raise), mySet := highestSet + raise }
      else p
  | .allIn => { p with mySet := p.mySet + p.myCash, myCash := 0 }
  | .bet => { p with myCash := p.myCash - oldMySet }
  | _ => p

/-- `flopEngine3` hands a `bet` and a `raise` to `evaluation` that it does not declare. -/
def flopEngine3 (d : Postflop3) (bet raise : Int) : Betting :=
  let t' := (t.carryOut r (flopStreet.move d (t.player r).mySet t.highestSet t.hand.smallBlind)).evaluation r bet raise
  (t'.modify r (settle (t.player r).mySet raise t'.highestSet)).finish r (t.player r).mySet

def turnEngine3 (d : Postflop3) : Betting :=
  (t.carryOut r (turnStreet.move d (t.player r).mySet t.highestSet t.hand.smallBlind)).finish r (t.player r).mySet

def riverEngine3 (d : Postflop3) : Betting :=
  (t.carryOut r (riverStreet.move d (t.player r).mySet t.highestSet t.hand.smallBlind)).finish r (t.player r).mySet

end Betting

structure Decision where
  myAction : PlayerAction
  bet : Int
  raise : Int

namespace Betting

variable (t : Betting) (r : Ref)

def decided (d : Decision) : Betting := (t.setMyAction r d.myAction).evaluation r d.bet d.raise

/-- The switch of `preflopEngine` after its first choice of an action. -/
def prepay (highestSet smallBlind raise : Int) (p : Player) : Player :=
  match p.myAction with
  | .call =>
      if highestSet - p.mySet > 0 then
        if highestSet - p.mySet > p.myCash then { p with mySet := p.mySet + p.myCash, myCash := 0 }
        else { p with myCash := p.myCash - (highestSet - p.mySet), mySet := highestSet }
      else p
  | .raise =>
      if highestSet - p.mySet + raise > 0 then
        if highestSet - p.mySet + raise > p.myCash then { p with mySet := p.mySet + p.myCash, myCash := 0 }
        else { p with myCash := p.myCash - (highestSet - p.mySet + raise), mySet := highestSet + raise }
      else p
  | .allIn => { p with mySet := p.mySet + p.myCash, myCash := 0 }
  | .bet => { p with myCash := p.myCash - p.mySet, mySet := if p.mySet < smallBlind then smallBlind else p.mySet }
  | _ => p

/-- The player pays for the first choice of `preflopEngine`, before it thinks of a bluff. -/
def prepaid (first : Decision) : Betting :=
  t.modify r fun p =>
    let p := prepay t.highestSet t.hand.getCurrentBeRo.smallBlind first.raise (p.setMyAction first.myAction)
    { p with myCash := if p.myCash < 0 then 0 else p.myCash }

def preflopEngine (first d : Decision) : Betting :=
  let t' := (t.prepaid r first).decided r d
  (t'.modify r (settle (t.player r).mySet d.raise t'.highestSet)).finish r (t.player r).mySet

def flopEngine (d : Decision) : Betting := t.decided r d

def turnEngine (d : Decision) : Betting := t.decided r d

def riverEngine (d : Decision) : Betting := t.decided r d

end Betting

structure Mind where
  engineVersion : Int
  first : Decision
  decision : Decision
  preflop3 : Preflop3
  postflop3 : Postflop3

namespace Betting

variable (t : Betting) (r : Ref) (m : Mind)

def engine : Betting :=
  match t.hand.currentRound with
  | .preflop => if m.engineVersion ≠ 0 then t.preflopEngine3 r m.preflop3 else t.preflopEngine r m.first m.decision
  | .flop =>
      if m.engineVersion ≠ 0 then t.flopEngine3 r m.postflop3 m.decision.bet m.decision.raise
      else t.flopEngine r m.decision
  | .turn => if m.engineVersion ≠ 0 then t.turnEngine3 r m.postflop3 else t.turnEngine r m.decision
  | .river => if m.engineVersion ≠ 0 then t.riverEngine3 r m.postflop3 else t.riverEngine r m.decision
  | .postRiver => t

/-- `LocalPlayer::action` -/
def action : Betting :=
  let t' := (t.engine r m).modify r fun p => { p with myLastRelativeSet := p.mySet - (t.player r).mySet }
  { t' with hand := t'.hand.collectSets }

end Betting

end PokerTH
