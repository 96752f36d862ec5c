import PokerTH.Defs
import Mathlib.Tactic.SplitIfs

namespace PokerTH

/-- The address of a seat's player object. The three player lists of a hand share the objects. -/
abbrev Ref := Nat

structure Player where
  myUniqueID : Nat
  myGuid : String
  myType : PlayerType
  myActiveStatus : Bool
  isSessionActive : Bool
  isKicked : Bool
  myCardsValueInt : Int
  myRoundStartCash : Int
  myCash : Int
  mySet : Int
  myLastRelativeSet : Int
  myAction : PlayerAction
  myButton : Button
  lastMoneyWon : Int
  deriving DecidableEq, Repr

abbrev Players := Ref → Player

namespace Player

def create (uniqueId : Nat) (type : PlayerType) (guid : String) (startCash : Int) (activeStatus : Bool) :
    Player where
  myUniqueID := uniqueId
  myGuid := guid
  myType := type
  myActiveStatus := activeStatus
  isSessionActive := true
  isKicked := false
  myCardsValueInt := 0
  myRoundStartCash := 0
  myCash := startCash
  mySet := 0
  myLastRelativeSet := 0
  myAction := .none
  myButton := .none
  lastMoneyWon := 0

def clampToCash (myCash theValue : Int) : Int :=
  let theValue := if theValue > myCash then myCash else theValue
  if theValue < 0 then 0 else theValue

def setMySet (p : Player) (theValue : Int) : Player :=
  let theValue := clampToCash p.myCash theValue
  let myCash := p.myCash - theValue
  { p with
    myLastRelativeSet := theValue
    mySet := p.mySet + theValue
    myCash := if myCash < 0 then 0 else myCash }

def setMySetNull (p : Player) : Player := { p with mySet := 0, myLastRelativeSet := 0 }

def setMySetAbsolute (p : Player) (theValue : Int) : Player := { p with mySet := theValue }

def setMyAction (p : Player) (theValue : PlayerAction) : Player := { p with myAction := theValue }

def setMyButton (p : Player) (theValue : Button) : Player := { p with myButton := theValue }

/-- Returns 0 exactly when the action is allowed. -/
def checkMyAction (p : Player) (targetAction : PlayerAction)
    (targetBet highestSet minimumRaise smallBlind : Int) : Nat :=
  match targetAction with
  | .fold => 0
  | .check => if p.mySet ≥ highestSet then 0 else 1
  | .call =>
      if p.mySet ≥ highestSet ∧ p.myCash > 0 then 0
      else if p.myCash > 0 ∧ targetBet ≤ p.myCash then
        if p.myCash + p.mySet ≥ highestSet ∧ targetBet = highestSet - p.mySet then 0
        else if p.myCash + p.mySet ≤ highestSet ∧ targetBet = p.myCash then 0
        else 1
      else 1
  | .bet => if highestSet = 0 ∧ targetBet ≤ p.myCash ∧ targetBet ≥ 2 * smallBlind then 0 else 1
  | .raise =>
      if highestSet > 0 ∧ p.mySet + targetBet ≥ highestSet + minimumRaise ∧ targetBet ≤ p.myCash
      then 0 else 1
  | .allIn => if targetBet = p.myCash ∧ p.myCash > 0 then 0 else 1
  | .none => 1

section

variable {p : Player} {b hs mr sb : Int}

theorem checkMyAction_check : p.checkMyAction .check b hs mr sb = 0 ↔ hs ≤ p.mySet := by
  simp [checkMyAction]

theorem checkMyAction_call (h : p.checkMyAction .call b hs mr sb = 0) :
    0 < p.myCash ∧ (hs ≤ p.mySet ∨ b ≤ p.myCash ∧
      (b = hs - p.mySet ∧ hs ≤ p.myCash + p.mySet ∨ b = p.myCash ∧ p.myCash + p.mySet ≤ hs)) := by
  simp only [checkMyAction] at h
  split_ifs at h <;> omega

theorem checkMyAction_bet : p.checkMyAction .bet b hs mr sb = 0 ↔ hs = 0 ∧ b ≤ p.myCash ∧ 2 * sb ≤ b := by
  simp [checkMyAction]

theorem checkMyAction_raise : p.checkMyAction .raise b hs mr sb = 0 ↔
    0 < hs ∧ hs + mr ≤ p.mySet + b ∧ b ≤ p.myCash := by
  simp [checkMyAction]

theorem checkMyAction_allIn : p.checkMyAction .allIn b hs mr sb = 0 ↔ b = p.myCash ∧ 0 < p.myCash := by
  simp [checkMyAction]

end

theorem clampToCash_nonneg (c v : Int) : 0 ≤ clampToCash c v := by
  simp only [clampToCash]
  split_ifs <;> omega

theorem clampToCash_le {c : Int} (hc : 0 ≤ c) (v : Int) : clampToCash c v ≤ c := by
  simp only [clampToCash]
  split_ifs <;> omega

theorem clampToCash_of_le {c v : Int} (h0 : 0 ≤ v) (h : v ≤ c) : clampToCash c v = v := by
  simp only [clampToCash]
  split_ifs <;> omega

theorem clampToCash_of_nonpos {c v : Int} (hc : 0 ≤ c) (h : v ≤ 0) : clampToCash c v = 0 := by
  simp only [clampToCash]
  split_ifs <;> omega

theorem clampToCash_pos {c v : Int} (hc : 0 < c) (h : 0 < v) : 0 < clampToCash c v := by
  simp only [clampToCash]
  split_ifs <;> omega

theorem clampToCash_lt {c v : Int} (hc : 0 < c) (h : v < c) : clampToCash c v < c := by
  simp only [clampToCash]
  split_ifs <;> omega

@[simp] theorem setMySet_mySet (p : Player) (v : Int) :
    (p.setMySet v).mySet = p.mySet + clampToCash p.myCash v := rfl

theorem setMySet_myCash {p : Player} (hp : 0 ≤ p.myCash) (v : Int) :
    (p.setMySet v).myCash = p.myCash - clampToCash p.myCash v := by
  have h := clampToCash_le hp v
  simp only [setMySet]
  split_ifs <;> omega

theorem setMySet_myCash_nonneg (p : Player) (v : Int) : 0 ≤ (p.setMySet v).myCash := by
  simp only [setMySet]
  split_ifs <;> omega

theorem setMySet_cash_add_set {p : Player} (hp : 0 ≤ p.myCash) (v : Int) :
    (p.setMySet v).myCash + (p.setMySet v).mySet = p.myCash + p.mySet := by
  rw [setMySet_myCash hp, setMySet_mySet]
  omega

end Player

end PokerTH
