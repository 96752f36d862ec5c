import PokerTH.ComputerMoves

namespace PokerTH

variable {t t' w : Betting} {r : Ref} {first d : Decision} {paid raise old : Int} {p : Player}

/-- The round of a computer player, who may have no chips left. -/
structure InRound (t : Betting) (r : Ref) : Prop where
  set_nonneg : 0 ≤ (t.player r).mySet
  set_le : (t.player r).mySet ≤ t.highestSet
  cash_nonneg : 0 ≤ (t.player r).myCash
  smallBlind_pos : 0 < t.hand.smallBlind

structure PaidOnce (t t' : Betting) (r : Ref) : Prop where
  chips : (t'.player r).myCash + (t'.player r).mySet = (t.player r).myCash + (t.player r).mySet
  cash_nonneg : 0 ≤ (t'.player r).myCash
  still : (t'.player r).myAction = .fold ∨ (t'.player r).myAction = .check →
    (t'.player r).myCash = (t.player r).myCash ∧ (t'.player r).mySet = (t.player r).mySet ∧
      t'.highestSet = t.highestSet ∧ t'.minimumRaise = t.minimumRaise
  called : (t'.player r).myAction = .call → (t'.player r).mySet = t'.highestSet
  wentAllIn : (t'.player r).myAction = .allIn → (t'.player r).myCash = 0
  highest : t'.highestSet = max t.highestSet (t'.player r).mySet
  relative : (t'.player r).myLastRelativeSet = (t'.player r).mySet - (t.player r).mySet

/-- What the engine may choose before the flop, with the blinds on the table. -/
structure Decision.Preflop (d : Decision) : Prop where
  not_none : d.myAction ≠ .none
  not_bet : d.myAction ≠ .bet
  not_allIn : d.myAction ≠ .allIn
  raise_nonneg : 0 ≤ d.raise

def Decision.pays (d : Decision) (t : Betting) (r : Ref) : Int :=
  match d.myAction with
  | .call => min (t.highestSet - (t.player r).mySet) (t.player r).myCash
  | .raise => min (t.highestSet - (t.player r).mySet + d.raise) (t.player r).myCash
  | _ => 0

def Player.closed (old raise highestSet : Int) (p : Player) : Player :=
  { Betting.settle old raise highestSet p with
    myCash := max 0 (Betting.settle old raise highestSet p).myCash
    myLastRelativeSet := (Betting.settle old raise highestSet p).mySet - old }

namespace Betting

structure Paid (t w : Betting) (r : Ref) (paid : Int) : Prop where
  highest : w.highestSet = t.highestSet
  minimum : w.minimumRaise = t.minimumRaise
  fullBetRule : w.getFullBetRule = t.getFullBetRule
  cash : (w.player r).myCash = (t.player r).myCash - paid
  set : (w.player r).mySet = (t.player r).mySet + paid
  paid_nonneg : 0 ≤ paid
  paid_le : paid ≤ (t.player r).myCash

theorem pays_bounds (h : InRound t r) (hfirst : first.Preflop) :
    0 ≤ first.pays t r ∧ first.pays t r ≤ (t.player r).myCash := by
  have hle := h.set_le
  have hcash := h.cash_nonneg
  have hraise := hfirst.raise_nonneg
  simp only [Decision.pays]
  cases first.myAction with
  | none | bet | allIn | fold | check => exact ⟨le_refl 0, hcash⟩
  | call | raise =>
      dsimp only
      omega

theorem payment {amount newSet : Int} (hcash : 0 ≤ p.myCash) (hamount : 0 ≤ amount)
    (hset : newSet = p.mySet + amount) {q : Player}
    (hq : q = if amount > 0 then
        if amount > p.myCash then { p with mySet := p.mySet + p.myCash, myCash := 0 }
        else { p with myCash := p.myCash - amount, mySet := newSet }
      else p) :
    q.myCash = p.myCash - min amount p.myCash ∧ q.mySet = p.mySet + min amount p.myCash ∧ 0 ≤ q.myCash := by
  split_ifs at hq with hsome hmore
  · subst hq
    dsimp only
    omega
  · subst hq
    dsimp only
    omega
  · subst hq
    omega

theorem prepay_paid (h : InRound t r) (hfirst : first.Preflop) {smallBlind : Int} {q : Player}
    (hq : q = prepay t.highestSet smallBlind first.raise ((t.player r).setMyAction first.myAction)) :
    q.myCash = (t.player r).myCash - first.pays t r ∧ q.mySet = (t.player r).mySet + first.pays t r ∧ 0 ≤ q.myCash := by
  have hle := h.set_le
  have hcash := h.cash_nonneg
  have hraise := hfirst.raise_nonneg
  simp only [Decision.pays]
  cases haction : first.myAction with
  | none => exact absurd haction hfirst.not_none
  | bet => exact absurd haction hfirst.not_bet
  | allIn => exact absurd haction hfirst.not_allIn
  | fold | check =>
      rw [haction] at hq
      subst hq
      exact ⟨(sub_zero _).symm, (add_zero _).symm, hcash⟩
  | call =>
      rw [haction] at hq
      exact payment (p := (t.player r).setMyAction .call) hcash (sub_nonneg.mpr hle)
        (by rw [mySet_setMyAction]; omega) hq
  | raise =>
      rw [haction] at hq
      exact payment (p := (t.player r).setMyAction .raise) hcash (by omega)
        (by rw [mySet_setMyAction]; omega) hq

theorem paid_prepaid (h : InRound t r) (hfirst : first.Preflop) :
    Paid t (t.prepaid r first) r (first.pays t r) := by
  have hbounds := pays_bounds h hfirst
  have hpaid := @prepay_paid t r first h hfirst t.hand.getCurrentBeRo.smallBlind _ rfl
  refine ⟨rfl, rfl, rfl, ?_, ?_, hbounds.1, hbounds.2⟩
  · simp only [prepaid, player_modify]
    rw [if_neg (by omega)]
    exact hpaid.1
  · simp only [prepaid, player_modify]
    exact hpaid.2.1

def closing (w : Betting) (r : Ref) (old raise : Int) : Betting :=
  (w.modify r (settle old raise w.highestSet)).finish r old

@[simp] theorem highestSet_closing : (w.closing r old raise).highestSet = w.highestSet := rfl

@[simp] theorem minimumRaise_closing : (w.closing r old raise).minimumRaise = w.minimumRaise := rfl

@[simp] theorem player_closing :
    (w.closing r old raise).player r = (w.player r).closed old raise w.highestSet := by
  simp only [closing, player_finish, player_modify, Player.closed]

theorem paidOnce_iff {q : Player} (hq : t'.player r = q)
    (hrelative : q.myLastRelativeSet = q.mySet - (t.player r).mySet) :
    PaidOnce t t' r ↔ q.myCash + q.mySet = (t.player r).myCash + (t.player r).mySet ∧ 0 ≤ q.myCash ∧
      t'.highestSet = max t.highestSet q.mySet ∧
      (q.myAction = .fold ∨ q.myAction = .check → q.myCash = (t.player r).myCash ∧ q.mySet = (t.player r).mySet ∧
        t'.highestSet = t.highestSet ∧ t'.minimumRaise = t.minimumRaise) ∧
      (q.myAction = .call → q.mySet = t'.highestSet) ∧ (q.myAction = .allIn → q.myCash = 0) := by
  subst hq
  exact ⟨fun h => ⟨h.chips, h.cash_nonneg, h.highest, h.still, h.called, h.wentAllIn⟩,
    fun ⟨hchips, hnonneg, hhighest, hstill, hcalled, hallIn⟩ =>
      ⟨hchips, hnonneg, hstill, hcalled, hallIn, hhighest, hrelative⟩⟩

theorem closing_still (h : InRound t r) (hw : Paid t w r paid)
    (haction : (w.player r).myAction = .fold ∨ (w.player r).myAction = .check) :
    PaidOnce t (w.closing r (t.player r).mySet raise) r ↔ paid = 0 := by
  have hcash := hw.cash
  have hset := hw.set
  have hle := hw.paid_le
  have hin := h.set_le
  have hclosed : (w.player r).closed (t.player r).mySet raise w.highestSet =
      { w.player r with
        myCash := max 0 (w.player r).myCash
        myLastRelativeSet := (w.player r).mySet - (t.player r).mySet } := by
    rcases haction with hfold | hcheck
    · simp only [Player.closed, settle, hfold]
    · simp only [Player.closed, settle, hcheck]
  rw [paidOnce_iff (player_closing.trans hclosed) rfl, highestSet_closing, minimumRaise_closing, hw.highest, hw.minimum]
  dsimp only
  constructor
  · intro hpaid
    have hkept := (hpaid.2.2.2.1 haction).1
    omega
  · intro hpaid
    exact ⟨by omega, by omega, by omega, fun _ => ⟨by omega, by omega, rfl, rfl⟩,
      fun hcall => by simp [hcall] at haction, fun hall => by simp [hall] at haction⟩

theorem closing_allIn {u : Betting} (haction : (u.player r).myAction = .allIn) (hcash : (u.player r).myCash = 0)
    (hset : (u.player r).mySet = (t.player r).myCash + (t.player r).mySet) :
    PaidOnce t (u.closing r (t.player r).mySet raise) r ↔
      u.highestSet = max t.highestSet ((t.player r).myCash + (t.player r).mySet) := by
  have hclosed : (u.player r).closed (t.player r).mySet raise u.highestSet =
      { u.player r with
        myCash := 0
        mySet := (t.player r).myCash + (t.player r).mySet
        myLastRelativeSet := (t.player r).myCash + (t.player r).mySet - (t.player r).mySet } := by
    simp only [Player.closed, settle, haction, hcash, hset, add_zero, max_self]
  rw [paidOnce_iff (player_closing.trans hclosed) rfl, highestSet_closing]
  dsimp only
  simp [haction]

theorem Player.closed_call {highestSet : Int} (haction : p.myAction = .call) (hmissing : highestSet - old > 0) :
    p.closed old raise highestSet =
      { p with
        myCash := max 0 (p.myCash - (highestSet - old))
        mySet := highestSet
        myLastRelativeSet := highestSet - old } := by
  simp only [Player.closed, settle, haction, if_pos hmissing]

theorem closing_evaluateCall (h : InRound t r) (hw : Paid t w r paid) :
    PaidOnce t ((w.evaluateCall r .call).closing r (t.player r).mySet raise) r ↔
      (t.player r).myCash + (t.player r).mySet ≤ t.highestSet ∨ (t.player r).mySet = t.highestSet ∧ paid = 0 := by
  have hcash := hw.cash
  have hset := hw.set
  have hpaid := hw.paid_nonneg
  have hle := hw.paid_le
  have hhighest := hw.highest
  have hin := h.set_le
  have hleft : 0 ≤ (w.player r).myCash := by omega
  by_cases hcovers : w.highestSet ≥ (w.player r).myCash + (w.player r).mySet
  · have hclamp : Player.clampToCash (w.player r).myCash (w.player r).myCash = (w.player r).myCash :=
      Player.clampToCash_of_le hleft (le_refl _)
    simp only [evaluateCall, if_pos hcovers]
    rw [closing_allIn (by simp [Player.setMyAction]) (by simp [Player.setMySet_myCash hleft, hclamp])
      (by simp [hclamp]; omega)]
    simp only [highestSet_setMyAction, highestSet_setMySet]
    omega
  · have hclamp : Player.clampToCash (w.player r).myCash (w.highestSet - (w.player r).mySet) =
        max 0 (w.highestSet - (w.player r).mySet) := by
      simp only [Player.clampToCash]
      split_ifs <;> omega
    simp only [evaluateCall, if_neg hcovers]
    generalize hu : (w.setMySet r (w.highestSet - (w.player r).mySet)).setMyAction r .call = u
    have huHighest : u.highestSet = w.highestSet := by rw [← hu]; rfl
    have huAction : (u.player r).myAction = .call := by rw [← hu]; simp [Player.setMyAction]
    have huCash : (u.player r).myCash = (w.player r).myCash - max 0 (w.highestSet - (w.player r).mySet) := by
      rw [← hu]
      simp [Player.setMySet_myCash hleft, hclamp]
    have huSet : (u.player r).mySet = (w.player r).mySet + max 0 (w.highestSet - (w.player r).mySet) := by
      rw [← hu]
      simp [hclamp]
    by_cases hmissing : u.highestSet - (t.player r).mySet > 0
    · -- the call is paid a second time, and the chips of the first payment are lost
      rw [paidOnce_iff (player_closing.trans (Player.closed_call huAction hmissing)) rfl]
      dsimp only
      exact ⟨fun hkept => by omega, fun hkept => by omega⟩
    · have hclosed : (u.player r).closed (t.player r).mySet raise u.highestSet =
          { u.player r with
            myCash := max 0 (u.player r).myCash
            myLastRelativeSet := (u.player r).mySet - (t.player r).mySet } := by
        simp only [Player.closed, settle, huAction, if_neg hmissing]
      rw [paidOnce_iff (player_closing.trans hclosed) rfl, highestSet_closing]
      dsimp only
      constructor
      · intro hkept
        have hcalled := hkept.2.2.2.2.1 huAction
        omega
      · intro hkept
        exact ⟨by omega, by omega, by omega, fun hstill => by simp [huAction] at hstill, fun _ => by omega,
          fun hall => by simp [huAction] at hall⟩

theorem evaluateAllIn_spec (hleft : 0 ≤ (w.player r).myCash) :
    ((w.evaluateAllIn r).player r).myAction = .allIn ∧ ((w.evaluateAllIn r).player r).myCash = 0 ∧
      ((w.evaluateAllIn r).player r).mySet = (w.player r).mySet + (w.player r).myCash ∧
      (w.evaluateAllIn r).highestSet = (w.player r).mySet + (w.player r).myCash := by
  have hclamp : Player.clampToCash (w.player r).myCash (w.player r).myCash = (w.player r).myCash :=
    Player.clampToCash_of_le hleft (le_refl _)
  simp only [evaluateAllIn]
  split_ifs
  · simp [Player.setMyAction, Player.setMySet_myCash hleft, hclamp]
  · simp [Player.setMyAction, Player.setMySet_myCash hleft, hclamp]

theorem closing_evaluateAllIn (hleft : 0 ≤ (w.player r).myCash)
    (hchips : (t.player r).myCash + (t.player r).mySet = (w.player r).myCash + (w.player r).mySet) :
    PaidOnce t ((w.evaluateAllIn r).closing r (t.player r).mySet raise) r ↔
      t.highestSet ≤ (t.player r).myCash + (t.player r).mySet := by
  have hspec := evaluateAllIn_spec hleft
  rw [closing_allIn hspec.1 hspec.2.1 (by omega), hspec.2.2.2]
  omega

theorem closing_raise (h : InRound t r) (hw : Paid t w r paid) (haction : (w.player r).myAction = .raise)
    (hraise : 0 ≤ raise) {u : Betting} {full : Int} (hfull : full = max raise w.minimumRaise)
    (hpart : w.highestSet + full < (w.player r).myCash + (w.player r).mySet)
    (hu : u.player r = (w.player r).setMySet (w.highestSet + full - (w.player r).mySet))
    (huHighest : u.highestSet = (u.player r).mySet) :
    PaidOnce t (u.closing r (t.player r).mySet raise) r ↔
      paid = (t.player r).myCash ∨
        (t.player r).mySet = t.highestSet ∧ raise = 0 ∧ t.minimumRaise ≤ 0 ∧ paid = 0 := by
  have hcash := hw.cash
  have hset := hw.set
  have hpaid := hw.paid_nonneg
  have hle := hw.paid_le
  have hhighest := hw.highest
  have hminimum := hw.minimum
  have hin := h.set_le
  have hleft : 0 ≤ (w.player r).myCash := by omega
  have hclamp : Player.clampToCash (w.player r).myCash (w.highestSet + full - (w.player r).mySet) =
      max 0 (w.highestSet + full - (w.player r).mySet) := by
    simp only [Player.clampToCash]
    split_ifs <;> omega
  have huAction : (u.player r).myAction = .raise := by
    rw [hu]
    exact haction
  have huCash : (u.player r).myCash =
      (w.player r).myCash - max 0 (w.highestSet + full - (w.player r).mySet) := by
    rw [hu, Player.setMySet_myCash hleft, hclamp]
  have huSet : (u.player r).mySet =
      (w.player r).mySet + max 0 (w.highestSet + full - (w.player r).mySet) := by
    rw [hu, Player.setMySet_mySet, hclamp]
  by_cases hsome : u.highestSet - (t.player r).mySet + raise > 0
  · by_cases hmore : u.highestSet - (t.player r).mySet + raise > (u.player r).myCash
    · have hclosed : (u.player r).closed (t.player r).mySet raise u.highestSet =
          { u.player r with
            myCash := 0
            mySet := (u.player r).mySet + (u.player r).myCash
            myLastRelativeSet := (u.player r).mySet + (u.player r).myCash - (t.player r).mySet } := by
        simp only [Player.closed, settle, huAction, if_pos hsome, if_pos hmore, max_self]
      rw [paidOnce_iff (player_closing.trans hclosed) rfl, highestSet_closing]
      dsimp only
      constructor
      · intro hkept
        have hraised := hkept.2.2.1
        omega
      · intro hkept
        exact ⟨by omega, le_refl 0, by omega, fun hstill => by simp [huAction] at hstill,
          fun hcall => by simp [huAction] at hcall, fun _ => rfl⟩
    · have hclosed : (u.player r).closed (t.player r).mySet raise u.highestSet =
          { u.player r with
            myCash := max 0 ((u.player r).myCash - (u.highestSet - (t.player r).mySet + raise))
            mySet := u.highestSet + raise
            myLastRelativeSet := u.highestSet + raise - (t.player r).mySet } := by
        simp only [Player.closed, settle, huAction, if_pos hsome, if_neg hmore]
      rw [paidOnce_iff (player_closing.trans hclosed) rfl, highestSet_closing]
      dsimp only
      exact ⟨fun hkept => by omega, fun hkept => by omega⟩
  · have hclosed : (u.player r).closed (t.player r).mySet raise u.highestSet =
        { u.player r with
          myCash := max 0 (u.player r).myCash
          myLastRelativeSet := (u.player r).mySet - (t.player r).mySet } := by
      simp only [Player.closed, settle, huAction, if_neg hsome]
    rw [paidOnce_iff (player_closing.trans hclosed) rfl, highestSet_closing]
    dsimp only
    constructor
    · intro hkept
      omega
    · intro hkept
      exact ⟨by omega, by omega, by omega, fun hstill => by simp [huAction] at hstill,
        fun hcall => by simp [huAction] at hcall, fun hall => by simp [huAction] at hall⟩

theorem closing_evaluateRaise (h : InRound t r) (hw : Paid t w r paid) (haction : (w.player r).myAction = .raise)
    (hraise : 0 ≤ raise) (hrule : w.getFullBetRule = false) :
    PaidOnce t ((w.evaluateRaise r raise).closing r (t.player r).mySet raise) r ↔
      if (t.player r).myCash + (t.player r).mySet ≤ t.highestSet + max raise t.minimumRaise then
        (t.player r).myCash + (t.player r).mySet < t.highestSet + t.minimumRaise ∨
          t.highestSet ≤ (t.player r).myCash + (t.player r).mySet
      else paid = (t.player r).myCash ∨
        (t.player r).mySet = t.highestSet ∧ raise = 0 ∧ t.minimumRaise ≤ 0 ∧ paid = 0 := by
  have hcash := hw.cash
  have hset := hw.set
  have hle := hw.paid_le
  have hhighest := hw.highest
  have hminimum := hw.minimum
  have hleft : 0 ≤ (w.player r).myCash := by omega
  have hfull : (if raise < w.minimumRaise then w.minimumRaise else raise) = max raise w.minimumRaise := by
    split_ifs <;> omega
  have hchips : (t.player r).myCash + (t.player r).mySet = (w.player r).myCash + (w.player r).mySet := by omega
  simp only [evaluateRaise, hrule, Bool.false_eq_true, if_false, hfull]
  rw [hchips, ← hhighest, ← hminimum]
  by_cases hcovers : w.highestSet + max raise w.minimumRaise ≥ (w.player r).myCash + (w.player r).mySet
  · rw [if_pos hcovers, if_pos hcovers]
    by_cases hshort : w.highestSet + w.minimumRaise > (w.player r).myCash + (w.player r).mySet
    · rw [if_pos hshort]
      by_cases hcall : w.highestSet ≥ (w.player r).myCash + (w.player r).mySet
      · have hclamp : Player.clampToCash (w.player r).myCash (w.player r).myCash = (w.player r).myCash :=
          Player.clampToCash_of_le hleft (le_refl _)
        rw [if_pos hcall, closing_allIn (by simp [Player.setMyAction])
          (by simp [Player.setMySet_myCash hleft, hclamp]) (by simp [hclamp]; omega)]
        simp only [highestSet_setMyAction, highestSet_setMySet]
        omega
      · rw [if_neg hcall, @closing_evaluateAllIn t (w.setFullBetRule true) r raise hleft hchips]
        omega
    · rw [if_neg hshort, closing_evaluateAllIn hleft hchips]
      omega
  · rw [if_neg hcovers, if_neg hcovers, closing_raise h hw haction hraise rfl (by omega) ?_ ?_, hhighest, hminimum]
    · simp
    · simp

end Betting

/-- The condition on the two choices of `preflopEngine` for the player's chips to be paid once. -/
def Decision.PaysOnce (first d : Decision) (t : Betting) (r : Ref) : Prop :=
  let chips := (t.player r).myCash + (t.player r).mySet
  match d.myAction with
  | .call => chips ≤ t.highestSet ∨ (t.player r).mySet = t.highestSet ∧ first.pays t r = 0
  | .raise =>
      if t.getFullBetRule then chips ≤ t.highestSet ∨ (t.player r).mySet = t.highestSet ∧ first.pays t r = 0
      else if chips ≤ t.highestSet + max d.raise t.minimumRaise then
        chips < t.highestSet + t.minimumRaise ∨ t.highestSet ≤ chips
      else first.pays t r = (t.player r).myCash ∨
        (t.player r).mySet = t.highestSet ∧ d.raise = 0 ∧ t.minimumRaise ≤ 0 ∧ first.pays t r = 0
  | _ => first.pays t r = 0

namespace Betting

theorem Paid.setMyAction (hw : Paid t w r paid) (a : PlayerAction) : Paid t (w.setMyAction r a) r paid := by
  refine ⟨hw.highest, hw.minimum, hw.fullBetRule, ?_, ?_, hw.paid_nonneg, hw.paid_le⟩
  · simpa using hw.cash
  · simpa using hw.set

theorem preflopEngine_paidOnce_iff (h : InRound t r) (hfirst : first.Preflop) (hd : d.Preflop) :
    PaidOnce t (t.preflopEngine r first d) r ↔ first.PaysOnce d t r := by
  have hw := (paid_prepaid h hfirst).setMyAction d.myAction
  have haction : (((t.prepaid r first).setMyAction r d.myAction).player r).myAction = d.myAction := by
    simp [Player.setMyAction]
  show PaidOnce t ((((t.prepaid r first).setMyAction r d.myAction).evaluation r d.bet d.raise).closing r
    (t.player r).mySet d.raise) r ↔ _
  generalize (t.prepaid r first).setMyAction r d.myAction = w at hw haction
  simp only [evaluation, haction, Decision.PaysOnce]
  cases hchoice : d.myAction with
  | none => exact absurd hchoice hd.not_none
  | bet => exact absurd hchoice hd.not_bet
  | allIn => exact absurd hchoice hd.not_allIn
  | fold => exact closing_still h hw (.inl (haction.trans hchoice))
  | check => exact closing_still h hw (.inr (haction.trans hchoice))
  | call => exact closing_evaluateCall h hw
  | raise =>
      dsimp only
      rw [← hw.fullBetRule]
      cases hrule : w.getFullBetRule with
      | true =>
          simp only [evaluateRaise, hrule, if_true]
          exact closing_evaluateCall h hw
      | false => exact closing_evaluateRaise h hw (haction.trans hchoice) hd.raise_nonneg hrule

end Betting

end PokerTH
