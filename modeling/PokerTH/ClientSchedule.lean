import PokerTH.RejoinHand

namespace PokerTH

/-- What a game counts for its blinds, by its settings, the hands and its clock alone. -/
structure BlindCount where
  handID : Int
  lastHandBlindsRaised : Int
  lastTimeBlindsRaised : Int
  raises : Nat
  deriving DecidableEq, Repr

def BlindCount.next (d : GameData) (b : BlindCount) (elapsed : Int) : BlindCount :=
  let handID := b.handID + 1
  match d.raiseIntervalMode with
  | .raiseOnHandNumber =>
      if b.lastHandBlindsRaised + d.raiseSmallBlindEveryHandsValue ≤ handID then
        ⟨handID, handID, b.lastTimeBlindsRaised, b.raises + 1⟩
      else { b with handID := handID }
  | .raiseOnMinutes =>
      if b.lastTimeBlindsRaised + d.raiseSmallBlindEveryMinutesValue ≤ elapsed then
        ⟨handID, b.lastHandBlindsRaised, elapsed, b.raises + 1⟩
      else { b with handID := handID }

/-- The count of a game that was started after hand `handID`, when hands have started at `times`. -/
def blindCount (d : GameData) (handID : Int) (times : List Int) : BlindCount :=
  times.foldl (BlindCount.next d) ⟨handID, 1, 0, 0⟩

section

variable {d : GameData} {handID elapsed : Int} {times before rest clocks : List Int} {b : BlindCount}

theorem blindCount_snoc : blindCount d handID (times ++ [elapsed]) = (blindCount d handID times).next d elapsed := by
  rw [blindCount, List.foldl_append]
  rfl

variable (hmode : d.raiseIntervalMode = .raiseOnHandNumber)

include hmode

theorem foldl_next_hands (b : BlindCount) (hlength : clocks.length = times.length) :
    clocks.foldl (BlindCount.next d) b = times.foldl (BlindCount.next d) b := by
  induction clocks generalizing b times with
  | nil => rw [List.length_eq_zero_iff.mp hlength.symm]
  | cons clock clocks ih =>
      cases times with
      | nil => cases hlength
      | cons elapsed times =>
          have hnext : b.next d clock = b.next d elapsed := by simp only [BlindCount.next, hmode]
          rw [List.foldl_cons, List.foldl_cons, hnext]
          exact ih _ (Nat.succ_injective hlength)

theorem blindCount_first (hfew : (before.length : Int) ≤ d.raiseSmallBlindEveryHandsValue) :
    blindCount d 0 before = ⟨before.length, 1, 0, 0⟩ := by
  induction before using List.reverseRecOn with
  | nil => rfl
  | append_singleton before elapsed ih =>
      rw [List.length_append, List.length_singleton] at hfew ⊢
      rw [blindCount_snoc, ih (by omega)]
      simp only [BlindCount.next, hmode]
      rw [if_neg (by omega)]
      simp

/-- A client that has been there from the start, or that has come back within the first interval, raises its blinds as
often as the server. -/
theorem raises_eq (hfew : (before.length : Int) ≤ d.raiseSmallBlindEveryHandsValue)
    (hlength : clocks.length = rest.length) :
    (blindCount d before.length clocks).raises = (blindCount d 0 (before ++ rest)).raises := by
  have hsplit : blindCount d 0 (before ++ rest) = rest.foldl (BlindCount.next d) (blindCount d 0 before) :=
    List.foldl_append
  rw [hsplit, blindCount_first hmode hfew, blindCount, foldl_next_hands hmode _ hlength]

end

namespace RejoinTable

open HandRun Hand HandServer

def raisedTimes (d : GameData) (n : Nat) : Nat → Game
  | 0 => ⟨d, n, d.startMoney, d.firstSmallBlind, 0, 0, 1, 0, d.manualBlindsList⟩
  | k + 1 => (raisedTimes d n k).setRaisedBlind

/-- A game whose blinds are what its settings and its count make of them. -/
structure OnSchedule (d : GameData) (n : Nat) (b : BlindCount) (g : Game) : Prop where
  gameData : g.gameData = d
  quantity : g.startQuantityPlayers = n
  cash : g.startCash = d.startMoney
  handID : g.currentHandID = b.handID
  lastHand : g.lastHandBlindsRaised = b.lastHandBlindsRaised
  lastTime : g.lastTimeBlindsRaised = b.lastTimeBlindsRaised
  blind : g.currentSmallBlind = (raisedTimes d n b.raises).currentSmallBlind
  list : g.blindsList = (raisedTimes d n b.raises).blindsList

/-- The game of the server after the hands that have started at `times`. Between them players come back. -/
inductive Hands (g₀ : Game) : List Int → Game → Prop
  | start : Hands g₀ [] g₀
  | back {times : List Int} {g : Game} (hhands : Hands g₀ times g) (oldId newId : Nat) :
      Hands g₀ times (g.replaceDealer oldId newId)
  | hand {times : List Int} {g g' : Game} {h : Hand} {t : Table} {v : Nat → Nat} {elapsed : Int}
      (hhands : Hands g₀ times g) (hrun : g.initHand v elapsed t = .ok (g', h)) : Hands g₀ (times ++ [elapsed]) g'

variable {d : GameData} {n k maxPlayers : Nat} {b : BlindCount} {g g' g₀ : Game} {elapsed clock : Int} {times : List Int}
  {t : Table}

theorem raisedTimes_same (d : GameData) (n k : Nat) : (raisedTimes d n k).gameData = d ∧
    (raisedTimes d n k).startQuantityPlayers = n ∧ (raisedTimes d n k).startCash = d.startMoney := by
  induction k with
  | zero => exact ⟨rfl, rfl, rfl⟩
  | succ k ih => exact ih

theorem OnSchedule.setRaisedBlind (h : OnSchedule d n b g) :
    g.setRaisedBlind.currentSmallBlind = (raisedTimes d n (b.raises + 1)).currentSmallBlind ∧
      g.setRaisedBlind.blindsList = (raisedTimes d n (b.raises + 1)).blindsList := by
  obtain ⟨hdata, hquantity, hcash⟩ := raisedTimes_same d n b.raises
  have hmax : g.maxBlind = (raisedTimes d n b.raises).maxBlind := by
    rw [Game.maxBlind, Game.maxBlind, h.quantity, h.cash, hquantity, hcash]
  have hraised : g.raisedBlind = (raisedTimes d n b.raises).raisedBlind := by
    simp only [Game.raisedBlind, Game.doubledBlind, hmax, h.gameData, hdata, h.blind, h.list]
  simp only [raisedTimes, Game.setRaisedBlind, hraised, hmax, and_self]

theorem OnSchedule.dealer (h : OnSchedule d n b g) (x : Nat) : OnSchedule d n b { g with dealerPosition := x } :=
  ⟨h.gameData, h.quantity, h.cash, h.handID, h.lastHand, h.lastTime, h.blind, h.list⟩

theorem OnSchedule.replaceDealer (h : OnSchedule d n b g) (oldId newId : Nat) :
    OnSchedule d n b (g.replaceDealer oldId newId) := by
  rw [Game.replaceDealer]
  split_ifs
  · exact h.dealer newId
  · exact h

theorem OnSchedule.raisedGame (h : OnSchedule d n b g) (elapsed : Int) :
    OnSchedule d n (b.next d elapsed) (raisedGame elapsed g) := by
  have hset := h.setRaisedBlind
  obtain ⟨rfl, hquantity, hcash, hid, hlast, htime, hblind, hlist⟩ := h
  simp only [RejoinTable.raisedGame, Game.raiseBlinds, BlindCount.next, hid, hlast, htime]
  cases hmode : g.gameData.raiseIntervalMode with
  | raiseOnHandNumber =>
      dsimp only
      split_ifs
      · exact ⟨rfl, hquantity, hcash, rfl, rfl, rfl, hset.1, hset.2⟩
      · exact ⟨rfl, hquantity, hcash, rfl, rfl, rfl, hblind, hlist⟩
  | raiseOnMinutes =>
      dsimp only
      split_ifs
      · exact ⟨rfl, hquantity, hcash, rfl, rfl, rfl, hset.1, hset.2⟩
      · exact ⟨rfl, hquantity, hcash, rfl, rfl, rfl, hblind, hlist⟩

theorem onSchedule_create {list : List PlayerData} {dealer : Nat}
    (hrun : Game.create maxPlayers list d ⟨dealer, n⟩ = .ok (g, t)) (handID : Int) :
    OnSchedule d n ⟨handID, 1, 0, 0⟩ { g with currentHandID := handID } := by
  simp only [Game.create] at hrun
  split_ifs at hrun
  cases hrun
  exact ⟨rfl, rfl, rfl, rfl, rfl, rfl, rfl, rfl⟩

theorem OnSchedule.initHand {v : Nat → Nat} {h : Hand} (hs : OnSchedule d n b g)
    (hrun : g.initHand v elapsed t = .ok (g', h)) : OnSchedule d n (b.next d elapsed) g' := by
  obtain ⟨_, x, rfl, _, _, rfl⟩ := initHand_cases hrun
  exact (hs.raisedGame elapsed).dealer x

theorem OnSchedule.hands (hs : OnSchedule d n ⟨0, 1, 0, 0⟩ g₀) (hhands : Hands g₀ times g) :
    OnSchedule d n (blindCount d 0 times) g := by
  induction hhands with
  | start => exact hs
  | back _ oldId newId ih => exact ih.replaceDealer oldId newId
  | hand _ hrun ih =>
      rw [blindCount_snoc]
      exact ih.initHand hrun

end RejoinTable

end PokerTH
