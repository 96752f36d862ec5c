import PokerTH.Cyclic
import PokerTH.Lists
import PokerTH.Player

namespace PokerTH

structure Board where
  pot : Int
  sets : Int
  allInCondition : Bool
  lastActionPlayerID : Nat
  winners : List Nat
  playerNeedToShowCards : List Nat
  deriving DecidableEq, Repr

namespace Board

variable (players : Players) (seatsList activePlayerList : List Ref)

def collectSets (b : Board) : Board :=
  { b with sets := (seatsList.map fun r => (players r).mySet).sum }

def collectPot (b : Board) : Players × Board :=
  (fun r => if r ∈ seatsList then (players r).setMySetNull else players r,
    { b with pot := b.pot + b.sets, sets := 0 })

/-- The conversion `static_cast<unsigned>`. -/
def toUnsigned (n : Nat) : Nat := n % 2 ^ 32

def contribution (p : Player) : Nat := (max 0 (p.myRoundStartCash - p.myCash)).toNat

structure PotState where
  players : Players
  pot : Int
  winners : List Nat
  playerSets : List Nat
  playerSetsSort : List Nat
  potCarryOver : Nat

def contender (p : Player) : Bool := p.myActiveStatus && p.myAction != .fold

/-- The strongest positive hand among the contenders of `zs`, zero when there is none. -/
def highestCardsValue (zs : List Ref) : Int :=
  zs.foldl (fun hi r =>
    if contender (players r) ∧ (players r).myCardsValueInt > hi then (players r).myCardsValueInt else hi) 0

def bestHands (zs : List Ref) : List Nat :=
  (zs.filter fun r =>
    contender (players r) ∧ highestCardsValue players zs = (players r).myCardsValueInt).map
    fun r => (players r).myUniqueID

def reaching (playerSets : List Nat) (amount : Nat) : List Ref :=
  ((seatsList.zip playerSets).filter fun s => amount ≤ s.2).map Prod.fst

def finalPot (playerSets : List Nat) (amount : Nat) (ids : List Nat) : Bool :=
  ids.any fun id => (seatsList.zip playerSets).any fun s => (players s.1).myUniqueID == id && amount == s.2

def award (r : Ref) (amount : Int) : Players :=
  Function.update players r
    { players r with
      myCash := (players r).myCash + amount
      lastMoneyWon := (players r).lastMoneyWon + amount }

def payEqual (share : Nat) : List Nat → Players → List Nat → Except EngineError (Players × List Nat)
  | [], players, winners => .ok (players, winners)
  | id :: ids, players, winners =>
      match seatsList.find? fun r => (players r).myUniqueID == id with
      | none => .error .seatNotFound
      | some r => payEqual share ids (award players r share) (winners ++ [(players r).myUniqueID])

def nextSeat (pos : Nat) : Nat := if pos + 1 = seatsList.length then 0 else pos + 1

def isWinner (ids : List Nat) (pos : Nat) : Bool :=
  seatsList[pos]?.any fun r => (players r).myActiveStatus && ids.contains (players r).myUniqueID

/-- Steps the iterator at most `fuel` times, until it stands on a winner. -/
def walkToWinner (ids : List Nat) : Nat → Nat → Nat × Bool
  | 0, pos => (pos, false)
  | fuel + 1, pos =>
      let pos := nextSeat seatsList pos
      if isWinner players seatsList ids pos then (pos, true) else walkToWinner ids fuel pos

/-- The distribution after the small blind: the first `mod` winners found get one chip more.
`todo` counts the winners still to be paid, `j` those already paid. -/
def payOddChips (maxPlayers share mod : Nat) (ids : List Nat) :
    Nat → Nat → Nat → Players → List Nat → Players × List Nat
  | 0, _, _, players, winners => (players, winners)
  | todo + 1, j, pos, players, winners =>
      match walkToWinner players seatsList ids maxPlayers pos with
      | (pos, false) => payOddChips maxPlayers share mod ids todo (j + 1) pos players winners
      | (pos, true) =>
          match seatsList[pos]? with
          | none => payOddChips maxPlayers share mod ids todo (j + 1) pos players winners
          | some r =>
              payOddChips maxPlayers share mod ids todo (j + 1) pos
                (award players r (share + if j < mod then 1 else 0))
                (winners ++ [(players r).myUniqueID])

/-- Distribution of one level sum to the level's winners. -/
def payWinners (maxPlayers dealerPosition levelSum : Nat) (ids : List Nat)
    (players : Players) (winners : List Nat) : Except EngineError (Players × List Nat) :=
  let winnerCount := ids.length
  let mod := levelSum % winnerCount
  if mod = 0 then payEqual seatsList (levelSum / winnerCount) ids players winners
  else
    match seatsList.findIdx? fun r => (players r).myUniqueID == dealerPosition with
    | none => .error .seatNotFound
    | some pos =>
        .ok (payOddChips seatsList maxPlayers (levelSum / winnerCount) mod ids winnerCount 0 pos players winners)

def payOut (levelSum : Nat) (st : PotState) (paid : Players × List Nat) : PotState :=
  { st with
    players := paid.1
    winners := paid.2
    potCarryOver := 0
    pot := st.pot - levelSum }

def settleLevel (maxPlayers dealerPosition amount levelSum : Nat) (st : PotState) :
    Except EngineError PotState :=
  let ids := bestHands st.players (reaching seatsList st.playerSets amount)
  if ids = [] then
    let ids := bestHands st.players seatsList
    if ids = [] then .error .noWinner
    else (payWinners seatsList maxPlayers dealerPosition levelSum ids st.players st.winners).map
      (payOut levelSum st)
  else if finalPot st.players seatsList st.playerSets amount ids then
    (payWinners seatsList maxPlayers dealerPosition levelSum ids st.players st.winners).map
      (payOut levelSum st)
  else .ok { st with potCarryOver := levelSum }

def reevaluate (amount : Nat) (st : PotState) : PotState :=
  let playerSets := st.playerSets.map fun s => if s > 0 then s - min s amount else s
  { st with playerSets, playerSetsSort := Lists.sort playerSets }

def levelStep (maxPlayers dealerPosition : Nat) (st : PotState) (i : Nat) : Except EngineError PotState :=
  let amount := st.playerSetsSort.getD i 0
  if amount > 0 then
    let levelSum := toUnsigned ((st.playerSetsSort.length - i) * amount + st.potCarryOver)
    (settleLevel seatsList maxPlayers dealerPosition amount levelSum st).map (reevaluate amount)
  else .ok st

def resetMoneyWon : Players :=
  fun r => if r ∈ seatsList then { players r with lastMoneyWon := 0 } else players r

def potStart (b : Board) : PotState :=
  let playerSets := seatsList.map fun r =>
    if (players r).myActiveStatus then toUnsigned (contribution (players r)) else 0
  ⟨resetMoneyWon players seatsList, b.pot, [], playerSets, Lists.sort playerSets, 0⟩

def levelLoop (maxPlayers dealerPosition : Nat) (b : Board) : Except EngineError PotState :=
  (List.range seatsList.length).foldlM (levelStep seatsList maxPlayers dealerPosition)
    (potStart players seatsList b)

def sortUnique (ids : List Nat) : List Nat := (Lists.sort ids).eraseReps

/-- What is left over after the level loop goes to the first winner. -/
def repairPot (st : PotState) : PotState :=
  if st.pot > 0 then
    match st.winners.head? with
    | none => { st with pot := 0 }
    | some id =>
        match seatsList.find? fun r => (st.players r).myUniqueID == id with
        | none => { st with pot := 0 }
        | some r => { st with players := award st.players r st.pot, pot := 0 }
  else if st.pot < 0 then { st with pot := 0 }
  else st

def distributePot (maxPlayers dealerPosition : Nat) (b : Board) : Except EngineError (Players × Board) :=
  (levelLoop players seatsList maxPlayers dealerPosition b).map fun st =>
    let st := repairPot seatsList { st with winners := sortUnique st.winners }
    (st.players, { b with pot := st.pot, winners := st.winners })

def stakeOf (p : Player) : Int := max 0 (p.myRoundStartCash - p.myCash)

/-- The search for the level at which a player shows: the list of those who show, the levels, and `playerAdded`. -/
def showLevel (id : Nat) (value set : Int) (ids : List Nat) :
    List (Int × Int) → List Nat × List (Int × Int) × Bool
  | [] => (ids, [], false)
  | level :: rest =>
      if value > level.1 then
        match rest with
        | [] => (ids ++ [id], [level, (value, set)], true)
        | _ :: _ =>
            let found := showLevel id value set ids rest
            (found.1, level :: found.2.1, found.2.2)
      else if value = level.1 then
        match rest with
        | [] => (ids ++ [id], (if set > level.2 then (level.1, set) else level) :: rest, true)
        | next :: _ =>
            if set > next.2 then (ids ++ [id], (if set > level.2 then (level.1, set) else level) :: rest, true)
            else (ids, level :: rest, false)
      else if set > level.2 then (ids ++ [id], (value, set) :: level :: rest, true)
      else
        let found := showLevel id value set ids rest
        (found.1, level :: found.2.1, found.2.2)

/-- The players after the one who shows first. Whom the search has not added is added after it. -/
def showRest (ids : List Nat) : List (Int × Int) → List Ref → List Nat
  | _, [] => ids
  | levels, r :: rest =>
      if (players r).myAction != .fold then
        let (ids, levels, playerAdded) :=
          showLevel (players r).myUniqueID (players r).myCardsValueInt (stakeOf (players r)) ids levels
        showRest (if playerAdded then ids else ids ++ [(players r).myUniqueID]) levels rest
      else showRest ids levels rest

def firstToShow (b : Board) : Option Ref :=
  (activePlayerList.find? fun r =>
    (players r).myUniqueID == b.lastActionPlayerID && (players r).myAction != .fold).or
  (activePlayerList.find? fun r => (players r).myAction != .fold)

def determinePlayerNeedToShowCards (b : Board) : Board :=
  if b.allInCondition then
    { b with playerNeedToShowCards := sortUnique ((activePlayerList.filter fun r =>
        (players r).myAction != .fold).map fun r => (players r).myUniqueID) }
  else
    match firstToShow players activePlayerList b with
    | none => { b with playerNeedToShowCards := [] }
    | some r =>
        { b with playerNeedToShowCards := sortUnique (showRest players [(players r).myUniqueID]
            [((players r).myCardsValueInt, stakeOf (players r))] (Cyclic.after activePlayerList r)) }

end Board

end PokerTH
