import PokerTH.Player

namespace PokerTH.CardsValue

def ranks : List String :=
  ["Deuce", "Three", "Four", "Five", "Six", "Seven", "Eight", "Nine", "Ten", "Jack", "Queen", "King", "Ace"]

def pluralRanks : List String :=
  ["Deuces", "Threes", "Fours", "Fives", "Sixes", "Sevens", "Eights", "Nines", "Tens", "Jacks", "Queens", "Kings",
    "Aces"]

/-- What a `switch` over a part of the code adds, with the names for the parts from `first` on. -/
def switch (names : List String) (first : Nat) (part : Int) : String :=
  if part < first then "ERROR" else names.getD (part - first).toNat "ERROR"

def cardString (firstPart secondPart thirdPart fourthPart fifthPart fifthPartA fifthPartB : Int) : List String :=
  let high := ranks.map (· ++ " high")
  if firstPart = 9 then ["Royal Flush"]
  else if firstPart = 8 then ["Straight Flush, ", switch ((high.take 12).drop 3) 3 secondPart]
  else if firstPart = 7 then ["Four of a Kind, ", switch pluralRanks 0 secondPart, switch ranks 0 thirdPart]
  else if firstPart = 6 then
    ["Full House, ", switch (pluralRanks.map (· ++ " full of ")) 0 secondPart, switch pluralRanks 0 thirdPart]
  else if firstPart = 5 then
    ["Flush, ", switch (high.drop 4) 4 secondPart, switch ranks 0 thirdPart, switch ranks 0 fourthPart,
      switch (ranks.take 10) 0 fifthPartA, switch (ranks.take 10) 0 fifthPartB]
  else if firstPart = 4 then ["Straight, ", switch (high.drop 3) 3 secondPart]
  else if firstPart = 3 then
    ["Three of a Kind, ", switch pluralRanks 0 secondPart, switch ranks 0 thirdPart, switch ranks 0 fourthPart]
  else if firstPart = 2 then
    ["Two Pair, ", switch (pluralRanks.map (· ++ " and ")) 0 secondPart, switch pluralRanks 0 thirdPart,
      switch ranks 0 fourthPart]
  else if firstPart = 1 then
    ["One Pair, ", switch pluralRanks 0 secondPart, switch ranks 0 thirdPart, switch ranks 0 fourthPart,
      switch ranks 0 fifthPart]
  else if firstPart = 0 then
    -- the deuce alone is in the plural here
    ["High Card, ", switch ("Deuces" :: ranks.drop 1) 0 secondPart, switch ranks 0 thirdPart,
      switch ranks 0 fourthPart, switch (ranks.take 10) 0 fifthPartA, switch (ranks.take 10) 0 fifthPartB]
  else ["ERROR"]

/-- The digits of the code are the kind of hand, and below it the ranks that decide between hands of a kind. -/
def translateCardsValueCode (cardsValueCode : Int) : List String :=
  let firstPart := cardsValueCode.tdiv 100000000
  let secondPart := cardsValueCode.tdiv 1000000 - firstPart * 100
  let thirdPart := cardsValueCode.tdiv 10000 - firstPart * 10000 - secondPart * 100
  let fourthPart := cardsValueCode.tdiv 100 - firstPart * 1000000 - secondPart * 10000 - thirdPart * 100
  let fifthPart := cardsValueCode - firstPart * 100000000 - secondPart * 1000000 - thirdPart * 10000 - fourthPart * 100
  let fifthPartA := cardsValueCode.tdiv 10 - firstPart * 10000000 - secondPart * 100000 - thirdPart * 1000 -
    fourthPart * 10
  let fifthPartB := cardsValueCode - firstPart * 100000000 - secondPart * 1000000 - thirdPart * 10000 -
    fourthPart * 100 - fifthPartA * 10
  cardString firstPart secondPart thirdPart fourthPart fifthPart fifthPartA fifthPartB

/-- The first `k` of the strings, one after the other; none where the iterator runs past the last. -/
def titled (k : Nat) (cardString : List String) : Option String :=
  if k ≤ cardString.length then some (String.join (cardString.take k)) else none

/-- The kickers that are named. A kicker decides between the hands that are the same up to it, and those that it
does not tell apart go on to the next one. -/
def kickers (myCardsValueInt : Int) : List (Int × String) → List Int → List String → Option String
  | [], _, _ => some ""
  | (divisor, words) :: levels, sameHandCardsValueInt, cardString => do
      if sameHandCardsValueInt = [] then return ""
      let equal := sameHandCardsValueInt.filter fun v => v.tdiv divisor = myCardsValueInt.tdiv divisor
      let different := sameHandCardsValueInt.any fun v => v.tdiv divisor ≠ myCardsValueInt.tdiv divisor
      let rest ← kickers myCardsValueInt levels equal cardString.tail
      if different then
        let card ← cardString.head?
        return words ++ card ++ rest
      return rest

/-- A name of `k` strings, and the kickers against the shown hands that are the same in front of `divisor`. -/
def named (myCardsValueInt : Int) (shownCardsValueInt : List Int) (cardString : List String) (k : Nat)
    (divisor : Int) (levels : List (Int × String)) : Option String := do
  let title ← titled k cardString
  let rest ← kickers myCardsValueInt levels
    (shownCardsValueInt.filter fun v => v.tdiv divisor = myCardsValueInt.tdiv divisor) (cardString.drop k)
  return title ++ rest

/-- None stands for a string read past the end of the decoded code. -/
def determineHandName (myCardsValueInt : Int) (activePlayerList : List Player) : Option String :=
  let shown := (activePlayerList.filter fun p => p.myAction ≠ .fold).map Player.myCardsValueInt
  let shownCardsValueInt := shown.erase myCardsValueInt
  let cardString := translateCardsValueCode myCardsValueInt
  let kind := myCardsValueInt.tdiv 100000000
  let name := named myCardsValueInt shownCardsValueInt cardString
  if kind = 9 then titled 1 cardString
  else if kind = 8 then titled 2 cardString
  else if kind = 7 then name 2 1000000 [(10000, ", fifth card ")]
  else if kind = 6 then titled 3 cardString
  else if kind = 5 then
    name 2 1000000
      [(10000, ", second card "), (100, ", third card "), (10, ", fourth card "), (1, ", fifth card ")]
  else if kind = 4 then titled 2 cardString
  else if kind = 3 then name 2 1000000 [(10000, ", fourth card "), (100, ", fifth card ")]
  else if kind = 2 then name 3 10000 [(100, ", fifth card ")]
  else if kind = 1 then
    name 2 1000000 [(10000, ", third card "), (100, ", fourth card "), (1, ", fifth card ")]
  else if kind = 0 then
    name 2 1000000
      [(10000, ", second card "), (100, ", third card "), (10, ", fourth card "), (1, ", fifth card ")]
  else some ""

end PokerTH.CardsValue
