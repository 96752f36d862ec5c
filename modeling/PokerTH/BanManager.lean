import Mathlib.Algebra.Group.Int.Defs
import Mathlib.Algebra.Group.Nat.Defs
import Mathlib.Data.List.Nodup
import PokerTH.Runs

namespace PokerTH

structure TimedPlayerBan (Regex : Type) where
  timer : Option Int
  nameStr : String
  nameRegex : Regex
  deriving DecidableEq, Repr

structure TimedIPBan where
  timer : Option Int
  ipAddress : String
  deriving DecidableEq, Repr

/-- The bans of the server, with the timers that the io context waits for and the handlers of those that are over.
Times are in nanoseconds. -/
structure BanManager (Regex : Type) where
  banPlayerNameMap : List (Nat × TimedPlayerBan Regex)
  banIPAddressMap : List (Nat × TimedIPBan)
  curBanId : Nat
  waits : List (Nat × Int)
  handlers : List Nat
  now : Int

namespace BanManager

variable {Regex : Type}

def start (now : Int) : BanManager Regex := ⟨[], [], 0, [], [], now⟩

section

variable (m : BanManager Regex)

def used (id : Nat) : Bool := m.banPlayerNameMap.any (fun b => b.1 == id) || m.banIPAddressMap.any fun b => b.1 == id

/-- The counter of the bans goes round without the zero. -/
def nextId (curBanId : Nat) : Nat := if curBanId + 1 = 2 ^ 32 then 1 else curBanId + 1

/-- The counter when the loop ends, and whether it has found an id: the last pass does not look. -/
def getNextBanId (used : Nat → Bool) : Nat → Nat → Nat × Bool
  | 0, curBanId => (nextId curBanId, false)
  | checks + 1, curBanId =>
      if used (nextId curBanId) then getNextBanId used checks (nextId curBanId) else (nextId curBanId, true)

/-- `hours` as a duration of the clock, which has 64 bits. -/
def duration (durationHours : Nat) : Int := (BitVec.ofNat 64 (durationHours * 3600000000000)).toInt

def expiry (durationHours : Nat) : Option Int :=
  if durationHours = 0 then none else some (min (m.now + duration durationHours) (2 ^ 63 - 1))

def internalRegisterTimedBan (banId durationHours : Nat) : BanManager Regex :=
  match m.expiry durationHours with
  | none => m
  | some t => { m with waits := m.waits ++ [(banId, t)] }

/-- A new ban under the next id. Without a free id the function throws. -/
def addBan (durationHours : Nat) (insert : Nat → Option Int → BanManager Regex → BanManager Regex) : BanManager Regex :=
  match getNextBanId m.used (2 ^ 32 - 1) m.curBanId with
  | (curBanId, false) => { m with curBanId }
  | (curBanId, true) =>
      insert curBanId (m.expiry durationHours) ({ m with curBanId }.internalRegisterTimedBan curBanId durationHours)

def banPlayerName (noRegex : Regex) (playerName : String) (durationHours : Nat) : BanManager Regex :=
  m.addBan durationHours fun banId timer m =>
    { m with banPlayerNameMap := m.banPlayerNameMap ++ [(banId, ⟨timer, playerName, noRegex⟩)] }

/-- An expression that does not compile is left out. -/
def banPlayerRegex (compile : String → Option Regex) (playerRegex : String) (durationHours : Nat) : BanManager Regex :=
  match compile playerRegex with
  | none => m
  | some nameRegex => m.addBan durationHours fun banId timer m =>
      { m with banPlayerNameMap := m.banPlayerNameMap ++ [(banId, ⟨timer, "", nameRegex⟩)] }

def banIPAddress (ipAddress : String) (durationHours : Nat) : BanManager Regex :=
  m.addBan durationHours fun banId timer m =>
    { m with banIPAddressMap := m.banIPAddressMap ++ [(banId, ⟨timer, ipAddress⟩)] }

/-- A wait that is cancelled comes back with an error. A handler that is queued already runs. -/
def cancel (banId : Nat) : Option Int → List (Nat × Int)
  | none => m.waits
  | some _ => m.waits.filter fun w => w.1 != banId

def unBan (banId : Nat) : BanManager Regex × Bool :=
  match m.banPlayerNameMap.find? fun b => b.1 == banId with
  | some b => ({ m with
      waits := m.cancel banId b.2.timer
      banPlayerNameMap := m.banPlayerNameMap.filter fun b => b.1 != banId }, true)
  | none =>
      match m.banIPAddressMap.find? fun b => b.1 == banId with
      | some b => ({ m with
          waits := m.cancel banId b.2.timer
          banIPAddressMap := m.banIPAddressMap.filter fun b => b.1 != banId }, true)
      | none => (m, false)

def bans : List (Nat × Option Int) :=
  (m.banPlayerNameMap.map fun b => (b.1, b.2.timer)) ++ m.banIPAddressMap.map fun b => (b.1, b.2.timer)

def clearBanList : BanManager Regex :=
  { m with
    waits := m.waits.filter fun w => !m.bans.any fun b => b.1 == w.1 && b.2.isSome
    banPlayerNameMap := []
    banIPAddressMap := [] }

/-- An expression counts where no name is set. -/
def isPlayerBanned (regexMatch : String → Regex → Bool) (name : String) : Bool :=
  m.banPlayerNameMap.any fun b => if b.2.nameStr = "" then regexMatch name b.2.nameRegex else name == b.2.nameStr

def isIPAddressBanned (ipAddress : String) : Bool := m.banIPAddressMap.any fun b => ipAddress == b.2.ipAddress

end

/-- What happens to the bans: the calls, the clock, a timer that the io context finds over, and its handler. -/
inductive Event
  | banPlayerName (playerName : String) (durationHours : Nat)
  | banPlayerRegex (playerRegex : String) (durationHours : Nat)
  | banIPAddress (ipAddress : String) (durationHours : Nat)
  | unBan (banId : Nat)
  | clearBanList
  | clock (elapsed : Nat)
  | timeout (banId : Nat) (t : Int)
  | timerRemoveBan (banId : Nat)

def fire (noRegex : Regex) (compile : String → Option Regex) (m : BanManager Regex) : Event → Option (BanManager Regex)
  | .banPlayerName playerName durationHours => some (m.banPlayerName noRegex playerName durationHours)
  | .banPlayerRegex playerRegex durationHours => some (m.banPlayerRegex compile playerRegex durationHours)
  | .banIPAddress ipAddress durationHours => some (m.banIPAddress ipAddress durationHours)
  | .unBan banId => some (m.unBan banId).1
  | .clearBanList => some m.clearBanList
  | .clock elapsed => some { m with now := m.now + elapsed }
  | .timeout banId t =>
      if (banId, t) ∈ m.waits ∧ t ≤ m.now then
        some { m with waits := m.waits.erase (banId, t), handlers := m.handlers ++ [banId] }
      else none
  | .timerRemoveBan banId =>
      if banId ∈ m.handlers then some ({ m with handlers := m.handlers.erase banId }.unBan banId).1 else none

section

variable {used : Nat → Bool} {curBanId checks : Nat}

theorem nextId_eq (hcur : curBanId < 2 ^ 32) : nextId curBanId = curBanId % (2 ^ 32 - 1) + 1 := by
  rw [nextId]
  split_ifs with hlast
  · rw [show curBanId = 2 ^ 32 - 1 by omega, Nat.mod_self]
  · rw [Nat.mod_eq_of_lt (by omega)]

theorem nextId_lt (curBanId : Nat) (hcur : curBanId < 2 ^ 32) : nextId curBanId < 2 ^ 32 := by
  rw [nextId]
  split_ifs <;> omega

theorem getNextBanId_found (hcur : curBanId < 2 ^ 32) : (getNextBanId used checks curBanId).2 = true ↔
    ∃ k < checks, used ((curBanId + k) % (2 ^ 32 - 1) + 1) = false := by
  induction checks generalizing curBanId with
  | zero => simp [getNextBanId]
  | succ checks ih =>
      have hshift (k : Nat) : (nextId curBanId + k) % (2 ^ 32 - 1) = (curBanId + (k + 1)) % (2 ^ 32 - 1) := by
        rw [nextId_eq hcur, Nat.add_assoc, Nat.mod_add_mod, Nat.add_comm 1 k]
      rw [getNextBanId]
      split_ifs with hused
      · rw [ih (nextId_lt curBanId hcur)]
        constructor
        · rintro ⟨k, hk, hfree⟩
          exact ⟨k + 1, by omega, by rwa [← hshift]⟩
        · rintro ⟨k, hk, hfree⟩
          cases k with
          | zero =>
              change used (curBanId % (2 ^ 32 - 1) + 1) = false at hfree
              rw [← nextId_eq hcur, hused] at hfree
              cases hfree
          | succ k => exact ⟨k, by omega, by rwa [hshift]⟩
      · refine iff_of_true rfl ⟨0, by omega, ?_⟩
        change used (curBanId % (2 ^ 32 - 1) + 1) = false
        rwa [← nextId_eq hcur, ← Bool.not_eq_true]

theorem getNextBanId_free (hcur : curBanId < 2 ^ 32) (hfound : (getNextBanId used checks curBanId).2 = true) :
    0 < (getNextBanId used checks curBanId).1 ∧ (getNextBanId used checks curBanId).1 < 2 ^ 32 ∧
      used (getNextBanId used checks curBanId).1 = false := by
  induction checks generalizing curBanId with
  | zero => simp [getNextBanId] at hfound
  | succ checks ih =>
      rw [getNextBanId] at hfound ⊢
      split_ifs at hfound ⊢ with hused
      · exact ih (nextId_lt curBanId hcur) hfound
      · refine ⟨?_, nextId_lt curBanId hcur, by simpa using hused⟩
        rw [nextId_eq hcur]
        omega

/-- The next ban gets an id that no other has, unless all ids have a ban, and then the server refuses it. -/
theorem getNextBanId_spec (hcur : curBanId < 2 ^ 32) :
    ((getNextBanId used (2 ^ 32 - 1) curBanId).2 = true ↔ ∃ id, 0 < id ∧ id < 2 ^ 32 ∧ used id = false) ∧
      ((getNextBanId used (2 ^ 32 - 1) curBanId).2 = true →
        0 < (getNextBanId used (2 ^ 32 - 1) curBanId).1 ∧ (getNextBanId used (2 ^ 32 - 1) curBanId).1 < 2 ^ 32 ∧
          used (getNextBanId used (2 ^ 32 - 1) curBanId).1 = false) := by
  refine ⟨⟨fun hfound => ⟨_, getNextBanId_free hcur hfound⟩, ?_⟩, getNextBanId_free hcur⟩
  rintro ⟨id, hpos, hlt, hfree⟩
  rw [getNextBanId_found hcur]
  -- how far the id is ahead of the counter, round the end
  refine ⟨(id - 1 + (2 ^ 32 - 1 - curBanId)) % (2 ^ 32 - 1), Nat.mod_lt _ (by omega), ?_⟩
  have hround : (curBanId + (id - 1 + (2 ^ 32 - 1 - curBanId)) % (2 ^ 32 - 1)) % (2 ^ 32 - 1) = id - 1 := by
    rw [Nat.add_mod_mod, show curBanId + (id - 1 + (2 ^ 32 - 1 - curBanId)) = id - 1 + (2 ^ 32 - 1) by omega,
      Nat.add_mod_right, Nat.mod_eq_of_lt (by omega)]
  rw [hround, show id - 1 + 1 = id by omega]
  exact hfree

theorem getNextBanId_round : (getNextBanId (fun id => id == 1) (2 ^ 32 - 1) (2 ^ 32 - 1)).2 = true :=
  (getNextBanId_spec (by decide)).1.mpr ⟨2, by decide, by decide, rfl⟩

end

end BanManager

end PokerTH
