import PokerTH.Perform

namespace PokerTH.Hand

structure BettingState (h : Hand) : Prop where
  cash_nonneg : ∀ r ∈ h.seatsList, 0 ≤ (h.players r).myCash
  set_nonneg : ∀ r ∈ h.seatsList, 0 ≤ (h.players r).mySet
  set_le : ∀ r ∈ h.seatsList, (h.players r).mySet ≤ h.getCurrentBeRo.highestSet
  blind_pos : 0 < h.smallBlind
  raise_ge : 2 * h.smallBlind ≤ h.getCurrentBeRo.minimumRaise
  opening : h.getCurrentBeRo.highestSet = 0 → h.getCurrentBeRo.minimumRaise = 2 * h.smallBlind

structure WithinLimits (h h' : Hand) (player : Ref) (action : PlayerAction) : Prop where
  highest : h'.getCurrentBeRo.highestSet = max h.getCurrentBeRo.highestSet (h'.players player).mySet
  flat : action = .fold ∨ action = .check ∨ action = .call →
    h'.getCurrentBeRo.highestSet = h.getCurrentBeRo.highestSet
  bet : action = .bet → h.getCurrentBeRo.highestSet = 0 ∧ 2 * h.smallBlind ≤ h'.getCurrentBeRo.highestSet
  raise : action = .raise →
    h.getCurrentBeRo.highestSet + h.getCurrentBeRo.minimumRaise ≤ h'.getCurrentBeRo.highestSet
  short : h.getCurrentBeRo.highestSet < h'.getCurrentBeRo.highestSet →
    h'.getCurrentBeRo.highestSet < h.getCurrentBeRo.highestSet + h.getCurrentBeRo.minimumRaise →
    action = .allIn
  last : h.getCurrentBeRo.highestSet < h'.getCurrentBeRo.highestSet →
    h'.lastActionPlayerID = h.uniqueID player

def OverCall (h : Hand) (player : Ref) (req : MyActionRequest) : Prop :=
  req.myAction = .call ∧ (h.players player).mySet = h.getCurrentBeRo.highestSet ∧
    0 < req.myRelativeBet.toInt

variable {h h' : Hand} {player : Ref} {req filled : MyActionRequest}

theorem fillInAllIn_myAction (p : Player) (req : MyActionRequest) :
    (fillInAllIn p req).myAction = req.myAction := by
  simp only [fillInAllIn]
  split_ifs <;> rfl

theorem fillInAllIn_of_ne {p : Player} (hne : req.myAction ≠ .allIn) : fillInAllIn p req = req := by
  simp only [fillInAllIn, hne, false_and, if_false]

theorem fillIn_myAction (h : Hand) (player : Ref) (req : MyActionRequest) : (h.fillIn player req).myAction =
    (fillInCall h.getCurrentBeRo.highestSet (h.players player) req).myAction :=
  fillInAllIn_myAction _ _

/-- Unless it is a call without an amount or an all-in, a request is checked as it came. -/
theorem fillIn_of_ne (h : Hand) (player : Ref) (hall : req.myAction ≠ .allIn)
    (hcall : ¬ (req.myAction = .call ∧ req.myRelativeBet = 0)) : h.fillIn player req = req := by
  rw [fillIn, fillInCall, if_neg hcall, fillInAllIn_of_ne hall]

/-- A request that is still a call after the fill-in was one before, with what is owed if it had no
amount. -/
theorem fillIn_call (h : Hand) (player : Ref) (req : MyActionRequest)
    (hcall : (h.fillIn player req).myAction = .call) :
    req.myAction = .call ∧ (req.myRelativeBet = 0 → (h.fillIn player req).myRelativeBet =
      BitVec.ofInt 32 (h.getCurrentBeRo.highestSet - (h.players player).mySet)) := by
  by_cases hopen : req.myAction = .call ∧ req.myRelativeBet = 0
  · refine ⟨hopen.1, fun _ => ?_⟩
    by_cases hshort : h.getCurrentBeRo.highestSet ≥ (h.players player).mySet + (h.players player).myCash
    · rw [fillIn_myAction, fillInCall, if_pos hopen, if_pos hshort] at hcall
      cases hcall
    · rw [fillIn, fillInCall, if_pos hopen, if_neg hshort]
      rw [fillInAllIn_of_ne (by simp [hopen.1])]
  · have hreq : req.myAction = .call := by
      rw [fillIn_myAction, fillInCall, if_neg hopen] at hcall
      exact hcall
    exact ⟨hreq, fun h0 => absurd ⟨hreq, h0⟩ hopen⟩

theorem overCall_iff (h : Hand) (player : Ref) (req : MyActionRequest) :
    OverCall h player req ↔ OverCall h player (h.fillIn player req) := by
  constructor
  · intro hover
    have hne : ¬ (req.myAction = .call ∧ req.myRelativeBet = 0) := by
      rintro ⟨_, h0⟩
      simpa [h0] using hover.2.2
    rw [fillIn_of_ne h player (by simp [hover.1]) hne]
    exact hover
  · rintro ⟨hcall, hset, hbet⟩
    obtain ⟨hreq, hfill⟩ := fillIn_call h player req hcall
    have hne : req.myRelativeBet ≠ 0 := by
      intro h0
      rw [hfill h0, hset, sub_self] at hbet
      exact absurd hbet (by decide)
    rw [fillIn_of_ne h player (by simp [hreq]) (fun hz => hne hz.2)] at hbet
    exact ⟨hreq, hset, hbet⟩

theorem perform_mySet_active (h : Hand) (player : Ref) {action : PlayerAction} (bet : Int)
    (hp : ¬ Passive action) : ((h.performPlayerAction player action bet).players player).mySet =
      (h.players player).mySet + Player.clampToCash (h.players player).myCash bet := by
  rw [perform_players_active h player action bet hp]
  simp [updatePlayer]

theorem withinLimits_passive {action : PlayerAction} {bet : Int} (hp : Passive action)
    (hset : (h.players player).mySet ≤ h.getCurrentBeRo.highestSet) :
    WithinLimits h (h.performPlayerAction player action bet) player action := by
  have hsame : (h.performPlayerAction player action bet).getCurrentBeRo.highestSet =
      h.getCurrentBeRo.highestSet := by
    rw [performPlayerAction_passive h player action bet hp, setMyAction_getCurrentBeRo]
  have hset' : ((h.performPlayerAction player action bet).players player).mySet =
      (h.players player).mySet := by
    rw [perform_players_passive h player action bet hp]
    simp [updatePlayer, Player.setMyAction]
  refine ⟨by omega, fun _ => hsame, ?_, ?_, by omega, by omega⟩
  · rintro rfl
    simp [Passive] at hp
  · rintro rfl
    simp [Passive] at hp

/-- An action that has passed the check stays within the limits, unless it is a call of too much. -/
theorem withinLimits_of_check (hs : BettingState h) (hp : player ∈ h.seatsList)
    (hcheck : h.checkMyAction player req = 0) (hover : ¬ OverCall h player req) :
    WithinLimits h (h.performPlayerAction player req.myAction req.myRelativeBet.toInt) player
      req.myAction := by
  have hcash := hs.cash_nonneg player hp
  have hset0 := hs.set_nonneg player hp
  have hset := hs.set_le player hp
  have hblind := hs.blind_pos
  have hraise := hs.raise_ge
  simp only [checkMyAction] at hcheck
  cases ha : req.myAction with
  | none => simp [ha, Player.checkMyAction] at hcheck
  | fold => exact withinLimits_passive (.inl rfl) hset
  | check => exact withinLimits_passive (.inr rfl) hset
  | call =>
      have hact : ¬ Passive .call := by decide
      have hhs := perform_highestSet_active h player .call req.myRelativeBet.toInt hact
      have hset' := perform_mySet_active h player req.myRelativeBet.toInt hact
      rw [bettor_mySet] at hhs
      rw [ha] at hcheck
      have hle : (h.players player).mySet + Player.clampToCash (h.players player).myCash
          req.myRelativeBet.toInt ≤ h.getCurrentBeRo.highestSet := by
        obtain ⟨hpos, howed⟩ := Player.checkMyAction_call hcheck
        by_cases hnothing : (h.players player).mySet = h.getCurrentBeRo.highestSet
        · have hb : req.myRelativeBet.toInt ≤ 0 := by
            by_contra hb
            exact hover ⟨ha, hnothing, by omega⟩
          rw [Player.clampToCash_of_nonpos hcash hb]
          omega
        · rw [Player.clampToCash_of_le (by omega) (by omega)]
          omega
      exact ⟨by omega, by omega, by simp, by simp, by omega, by omega⟩
  | bet =>
      have hact : ¬ Passive .bet := by decide
      have hhs := perform_highestSet_active h player .bet req.myRelativeBet.toInt hact
      have hset' := perform_mySet_active h player req.myRelativeBet.toInt hact
      rw [ha, Player.checkMyAction_bet] at hcheck
      have hopening := hs.opening hcheck.1
      rw [bettor_mySet, Player.clampToCash_of_le (by omega) hcheck.2.1] at hhs
      rw [Player.clampToCash_of_le (by omega) hcheck.2.1] at hset'
      refine ⟨by omega, by simp, by omega, by simp, by omega, fun _ => ?_⟩
      rw [perform_lastActionPlayerID_active h player .bet _ hact, if_pos (.inl rfl)]
  | raise =>
      have hact : ¬ Passive .raise := by decide
      have hhs := perform_highestSet_active h player .raise req.myRelativeBet.toInt hact
      have hset' := perform_mySet_active h player req.myRelativeBet.toInt hact
      rw [ha, Player.checkMyAction_raise] at hcheck
      rw [bettor_mySet, Player.clampToCash_of_le (by omega) hcheck.2.2] at hhs
      rw [Player.clampToCash_of_le (by omega) hcheck.2.2] at hset'
      refine ⟨by omega, by simp, by simp, by omega, by omega, fun _ => ?_⟩
      rw [perform_lastActionPlayerID_active h player .raise _ hact, if_pos (.inr (.inl rfl))]
  | allIn =>
      have hact : ¬ Passive .allIn := by decide
      have hhs := perform_highestSet_active h player .allIn req.myRelativeBet.toInt hact
      have hset' := perform_mySet_active h player req.myRelativeBet.toInt hact
      refine ⟨by rw [hhs, hset', bettor_mySet], by simp, by simp, by simp, by simp, fun hlt => ?_⟩
      rw [perform_lastActionPlayerID_active h player .allIn _ hact, if_pos]
      exact .inr (.inr ⟨rfl, by omega⟩)

theorem not_withinLimits_of_overCall (hcheck : h.checkMyAction player req = 0)
    (hover : OverCall h player req) :
    ¬ WithinLimits h (h.performPlayerAction player req.myAction req.myRelativeBet.toInt) player
      req.myAction := by
  obtain ⟨ha, hset, hbet⟩ := hover
  intro hlim
  simp only [checkMyAction, ha] at hcheck
  have hpos := (Player.checkMyAction_call hcheck).1
  have hhs := perform_highestSet_active h player .call req.myRelativeBet.toInt (by decide)
  have hflat := hlim.flat (.inr (.inr ha))
  rw [ha, hhs, bettor_mySet] at hflat
  have hgrow := Player.clampToCash_pos hpos hbet
  omega

theorem bettingState_setIsSessionActive (hs : BettingState h) (r : Ref) (b : Bool) :
    BettingState (h.setIsSessionActive r b) := by
  refine ⟨?_, ?_, ?_, hs.blind_pos, hs.raise_ge, hs.opening⟩ <;> intro q hq
  · simpa using hs.cash_nonneg q hq
  · simpa using hs.set_nonneg q hq
  · simpa using hs.set_le q hq

/-- Exactly the accepted calls of a positive amount by players who owe nothing break the limits. -/
theorem handleMyAction_withinLimits_iff (hs : BettingState h) (hp : player ∈ h.seatsList)
    (hrun : h.handleMyAction player req = .ok (.valid, filled, h')) :
    WithinLimits h h' player filled.myAction ↔ ¬ (req.myAction = .call ∧
      (h.players player).mySet = h.getCurrentBeRo.highestSet ∧ 0 < req.myRelativeBet.toInt) := by
  obtain ⟨cur, _, _, _, rfl, hcheck, rfl⟩ := handleMyAction_accepted hrun
  have hs' := bettingState_setIsSessionActive hs player true
  have hover : OverCall h player req ↔
      OverCall (h.setIsSessionActive player true) player (h.fillIn player req) := by
    rw [overCall_iff]
    simp only [OverCall, setIsSessionActive_mySet, setIsSessionActive_getCurrentBeRo]
  rw [← checkMyAction_setIsSessionActive h player player true] at hcheck
  change _ ↔ ¬ OverCall h player req
  rw [hover]
  constructor
  · intro hlim hbad
    refine not_withinLimits_of_overCall hcheck hbad ⟨hlim.highest, hlim.flat, hlim.bet, hlim.raise,
      hlim.short, ?_⟩
    simpa using hlim.last
  · intro hgood
    have hlim := withinLimits_of_check hs' hp hcheck hgood
    exact ⟨hlim.highest, hlim.flat, hlim.bet, hlim.raise, hlim.short, by simpa using hlim.last⟩

end PokerTH.Hand
