import Mathlib.Data.List.Infix
import PokerTH.Lists

namespace PokerTH.CardsValue

/-- A row of the array of `cardsValue`: the suit and the rank of a card, and its index among the seven cards. -/
structure Card where
  suit : Nat
  rank : Nat
  pos : Nat
  deriving DecidableEq, Repr

/-- The value of seven cards, and the indices of the five cards it is reported for. -/
structure Evaluation where
  value : Nat
  position : List Nat
  deriving DecidableEq, Repr

def array (cards : List Nat) : List Card := cards.mapIdx fun i card => ⟨card / 13, card % 13, i⟩

/-- One pass of a sort: the card in front changes places with every greater card of its group behind it. -/
def exchange (group key : Card → Nat) (front : Card) : List Card → Card × List Card
  | [] => (front, [])
  | c :: cards =>
      if group front = group c ∧ key front < key c then
        ((exchange group key c cards).1, front :: (exchange group key c cards).2)
      else ((exchange group key front cards).1, c :: (exchange group key front cards).2)

def exchangeSort (group key : Card → Nat) : Nat → List Card → List Card
  | 0, cards => cards
  | _, [] => []
  | k + 1, c :: cards => (exchange group key c cards).1 :: exchangeSort group key k (exchange group key c cards).2

def bySuit (cards : List Card) : List Card :=
  exchangeSort Card.suit Card.rank 7 (exchangeSort (fun _ => 0) Card.suit 7 cards)

def byRank (cards : List Card) : List Card :=
  exchangeSort Card.rank Card.pos 7 (exchangeSort (fun _ => 0) Card.rank 7 cards)

def made (value : Nat) (cards : List Card) : Evaluation := ⟨value, cards.map Card.pos⟩

def consecutive : List Card → Bool
  | c :: d :: cards => c.rank == d.rank + 1 && consecutive (d :: cards)
  | _ => true

def highStraightFlush (cards : List Card) : Option Evaluation :=
  cards.tails.findSome? fun
    | c1 :: c2 :: c3 :: c4 :: c5 :: _ =>
        if consecutive [c1, c2, c3, c4, c5] then
          some (made (if c1.rank = 12 then 900000000 else 800000000 + c1.rank * 1000000) [c1, c2, c3, c4, c5])
        else none
    | _ => none

/-- The ace goes below the five. -/
def lowStraightFlush (cards : List Card) : Option Evaluation :=
  cards.findSome? fun ace =>
    if ace.rank ≠ 12 then none
    else cards.tails.findSome? fun
      | c2 :: c3 :: c4 :: c5 :: _ =>
          if ace.rank = c2.rank + 9 ∧ consecutive [c2, c3, c4, c5] then
            some (made (800000000 + 3 * 1000000) [ace, c2, c3, c4, c5])
          else none
      | _ => none

def suitStraightFlush (cards : List Card) : Option Evaluation :=
  if cards.length ≥ 5 then (highStraightFlush cards).or (lowStraightFlush cards) else none

def straightFlush : Nat → List Card → Option Evaluation
  | 0, _ => none
  | _, [] => none
  | k + 1, c :: cards =>
      (suitStraightFlush (c :: cards.takeWhile fun d => d.suit == c.suit)).or
        (straightFlush k (cards.dropWhile fun d => d.suit == c.suit))

def flush (cards : List Card) : Option Evaluation :=
  cards.tails.findSome? fun
    | c1 :: c2 :: c3 :: c4 :: c5 :: _ =>
        if c1.suit = c2.suit ∧ c1.suit = c3.suit ∧ c1.suit = c4.suit ∧ c1.suit = c5.suit then
          some (made (500000000 + c1.rank * 1000000 + c2.rank * 10000 + c3.rank * 100 + c4.rank * 10 + c5.rank)
            [c1, c2, c3, c4, c5])
        else none
    | _ => none

section

variable (a : List Card)

def card (i : Nat) : Card := a.getD i ⟨0, 0, 0⟩

def rank (i : Nat) : Nat := (card a i).rank

def found (value : Nat) (js : List Nat) : Evaluation := made value (js.map (card a))

def fourOfAKind : Option Evaluation :=
  [0, 1, 2, 3].findSome? fun j =>
    if rank a j = rank a (j + 1) ∧ rank a j = rank a (j + 2) ∧ rank a j = rank a (j + 3) then
      if j = 0 then some (found a (700000000 + rank a j * 1000000 + rank a (j + 4) * 10000) [0, 1, 2, 3, 4])
      else some (found a (700000000 + rank a j * 1000000 + rank a 0 * 10000) [j, j + 1, j + 2, j + 3, 0])
    else none

/-- The choices of `k` of the indices, in the order of nested loops. -/
def choices : Nat → List Nat → List (List Nat)
  | 0, _ => [[]]
  | _ + 1, [] => []
  | k + 1, i :: is => (choices k is).map (i :: ·) ++ choices (k + 1) is

def straightOrFullHouse : Option Evaluation :=
  (choices 5 (List.range 7)).findSome? fun
    | [j1, j2, j3, j4, j5] =>
        if consecutive ([j1, j2, j3, j4, j5].map (card a)) then
          some (found a (400000000 + rank a j1 * 1000000) [j1, j2, j3, j4, j5])
        else if (rank a j1 = rank a j2 ∧ rank a j1 = rank a j3 ∧ rank a j4 = rank a j5) ∨
            (rank a j3 = rank a j4 ∧ rank a j3 = rank a j5 ∧ rank a j1 = rank a j2) then
          let drei := if rank a j3 = rank a j1 then rank a j1 else rank a j4
          let zwei := if rank a j3 = rank a j1 then rank a j4 else rank a j1
          some (found a (600000000 + drei * 1000000 + zwei * 10000) [j1, j2, j3, j4, j5])
        else none
    | _ => none

def lowStraight : Option Evaluation :=
  (choices 5 (List.range 7)).findSome? fun
    | [j1, j2, j3, j4, j5] =>
        if rank a j1 = rank a j2 + 9 ∧ consecutive ([j2, j3, j4, j5].map (card a)) then
          some (found a (400000000 + rank a j2 * 1000000) [j1, j2, j3, j4, j5])
        else none
    | _ => none

def threeOfAKind : Option Evaluation :=
  [0, 1, 2, 3, 4].findSome? fun j =>
    if rank a j = rank a (j + 1) ∧ rank a j = rank a (j + 2) then
      if j = 0 then
        some (found a (300000000 + rank a j * 1000000 + rank a (j + 3) * 10000 + rank a (j + 4) * 100) [0, 1, 2, 3, 4])
      else if j = 1 then
        some (found a (300000000 + rank a j * 1000000 + rank a (j - 1) * 10000 + rank a (j + 3) * 100) [0, 1, 2, 3, 4])
      else some (found a (300000000 + rank a j * 1000000 + rank a 0 * 10000 + rank a 1 * 100) [j, j + 1, j + 2, 0, 1])
    else none

def twoPairs : Option Evaluation :=
  [0, 1, 2, 3].findSome? fun j =>
    (List.range' (j + 2) (6 - (j + 2))).findSome? fun i =>
      if rank a j = rank a (j + 1) ∧ rank a i = rank a (i + 1) then
        let kicker := if j = 0 then if i = 2 then i + 2 else j + 2 else 0
        some (found a (200000000 + rank a j * 1000000 + rank a i * 10000 + rank a kicker * 100)
          [j, j + 1, i, i + 1, kicker])
      else none

def pair : Option Evaluation :=
  [0, 1, 2, 3, 4, 5].findSome? fun j =>
    if rank a j = rank a (j + 1) then
      if j = 0 then
        some (found a (100000000 + rank a j * 1000000 + rank a (j + 2) * 10000 + rank a (j + 3) * 100 + rank a (j + 4))
          [0, 1, 2, 3, 4])
      else if j = 1 then
        some (found a (100000000 + rank a j * 1000000 + rank a (j - 1) * 10000 + rank a (j + 2) * 100 + rank a (j + 3))
          [0, 1, 2, 3, 4])
      else if j = 2 then
        some (found a (100000000 + rank a j * 1000000 + rank a (j - 2) * 10000 + rank a (j - 1) * 100 + rank a (j + 2))
          [0, 1, 2, 3, 4])
      else
        some (found a (100000000 + rank a j * 1000000 + rank a 0 * 10000 + rank a 1 * 100 + rank a 2)
          [j, j + 1, 0, 1, 2])
    else none

def highCard : Evaluation :=
  found a (rank a 0 * 1000000 + rank a 1 * 10000 + rank a 2 * 100 + rank a 3 * 10 + rank a 4) [0, 1, 2, 3, 4]

end

/-- `CardsValue::cardsValue` of seven cards. -/
def cardsValue (cards : List Nat) : Evaluation :=
  let suits := bySuit (array cards)
  let ranks := byRank suits
  ((straightFlush 7 suits).or <| (flush suits).or <| (fourOfAKind ranks).or <| (straightOrFullHouse ranks).or <|
    (lowStraight ranks).or <| (threeOfAKind ranks).or <| (twoPairs ranks).or <| pair ranks).getD (highCard ranks)

/-- The value of a hand of five cards, with the ranks `a` down to `e`, as the game counts it. -/
def fiveValue (oneSuit : Bool) (a b c d e : Nat) : Nat :=
  let straight := a = b + 1 ∧ b = c + 1 ∧ c = d + 1 ∧ d = e + 1
  let low := a = 12 ∧ b = 3 ∧ c = 2 ∧ d = 1 ∧ e = 0
  if oneSuit ∧ straight then if a = 12 then 900000000 else 800000000 + a * 1000000
  else if oneSuit ∧ low then 800000000 + 3 * 1000000
  else if a = d then 700000000 + a * 1000000 + e * 10000
  else if b = e then 700000000 + b * 1000000 + a * 10000
  else if a = c ∧ d = e then 600000000 + a * 1000000 + d * 10000
  else if a = b ∧ c = e then 600000000 + c * 1000000 + a * 10000
  else if oneSuit then 500000000 + a * 1000000 + b * 10000 + c * 100 + d * 10 + e
  else if straight then 400000000 + a * 1000000
  else if low then 400000000 + 3 * 1000000
  else if a = c then 300000000 + a * 1000000 + d * 10000 + e * 100
  else if b = d then 300000000 + b * 1000000 + a * 10000 + e * 100
  else if c = e then 300000000 + c * 1000000 + a * 10000 + b * 100
  else if a = b ∧ c = d then 200000000 + a * 1000000 + c * 10000 + e * 100
  else if a = b ∧ d = e then 200000000 + a * 1000000 + d * 10000 + c * 100
  else if b = c ∧ d = e then 200000000 + b * 1000000 + d * 10000 + a * 100
  else if a = b then 100000000 + a * 1000000 + c * 10000 + d * 100 + e
  else if b = c then 100000000 + b * 1000000 + a * 10000 + d * 100 + e
  else if c = d then 100000000 + c * 1000000 + a * 10000 + b * 100 + e
  else if d = e then 100000000 + d * 1000000 + a * 10000 + b * 100 + c
  else a * 1000000 + b * 10000 + c * 100 + d * 10 + e

def handValue (cards : List Nat) : Nat :=
  match Lists.sort (cards.map (· % 13)) with
  | [e, d, c, b, a] => fiveValue (decide (∀ x ∈ cards, ∀ y ∈ cards, x / 13 = y / 13)) a b c d e
  | _ => 0

end PokerTH.CardsValue
