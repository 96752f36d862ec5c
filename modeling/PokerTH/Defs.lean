import Mathlib.Logic.Function.Basic

namespace PokerTH

inductive GameState
  | preflop | flop | turn | river | postRiver
  deriving DecidableEq, Repr

def GameState.toNat : GameState → Nat
  | .preflop => 0
  | .flop => 1
  | .turn => 2
  | .river => 3
  | .postRiver => 4

/-- `currentRound + 1`, never beyond the post-river state. -/
def GameState.next : GameState → GameState
  | .preflop => .flop
  | .flop => .turn
  | .turn => .river
  | .river => .postRiver
  | .postRiver => .postRiver

inductive PlayerAction
  | none | fold | check | call | bet | raise | allIn
  deriving DecidableEq, Repr

inductive Button
  | none | dealer | smallBlind | bigBlind
  deriving DecidableEq, Repr

inductive PlayerType
  | computer | human
  deriving DecidableEq, Repr

inductive PlayerActionCode
  | valid | invalidState | notYourTurn | notAllowed
  deriving DecidableEq, Repr

/-- The codes a `LocalException` or `ServerException` of the hand engine carries. -/
inductive EngineError
  | seatNotFound | activePlayerNotFound | runningPlayerNotFound | dealerNotFound
  | currentPlayerNotFound | handNotFound | beRoNotFound
  | nextDealerNotFound | nextActivePlayerNotFound | formerRunningPlayerNotFound
  | noWinner | noCurrentPlayer | playerNotActive | internalGameError | unknownPlayerId
  deriving DecidableEq, Repr

theorem GameState.next_toNat {s : GameState} (h : s ≠ .postRiver) : s.next.toNat = s.toNat + 1 := by
  cases s <;> first | rfl | exact absurd rfl h

end PokerTH
