import PokerTH.ComputerRaise

namespace PokerTH

/-- The bets and raises of a street are never negative. -/
structure Street.Sound (s : Street) : Prop where
  bet_nonneg : ∀ {potential bluff smallBlind : Int}, 1 ≤ bluff → 0 ≤ smallBlind → 0 ≤ s.bet potential bluff smallBlind
  raise_nonneg : ∀ {potential bluff highestSet : Int}, 1 ≤ bluff → 0 ≤ highestSet →
    0 ≤ s.raise potential bluff highestSet

theorem flopStreet_sound : flopStreet.Sound := by
  constructor
  · intro potential bluff smallBlind hbluff hsb
    simp only [flopStreet]
    split_ifs
    · exact Int.mul_nonneg (by omega) hsb
    · omega
    · exact le_max_left _ _
  · intro potential bluff highestSet hbluff hset
    simp only [flopStreet]
    split_ifs
    · exact Int.mul_nonneg (Int.tdiv_nonneg (by omega) (by omega)) hset
    · exact le_max_left _ _

theorem turnStreet_sound : turnStreet.Sound := by
  constructor
  · intro potential bluff smallBlind hbluff hsb
    simp only [turnStreet]
    split_ifs
    · exact Int.mul_nonneg (by omega) hsb
    · exact Int.mul_nonneg (Int.tdiv_nonneg (by omega) (by omega)) hsb
    · exact le_max_left _ _
  · intro potential bluff highestSet hbluff hset
    simp only [turnStreet]
    split_ifs
    · exact Int.mul_nonneg (Int.tdiv_nonneg (by omega) (by omega)) hset
    · exact le_max_left _ _

theorem riverStreet_sound : riverStreet.Sound := by
  constructor
  · intro potential bluff smallBlind hbluff hsb
    simp only [riverStreet]
    split_ifs
    · exact Int.mul_nonneg (by omega) hsb
    · have hdraw : 0 ≤ (bluff - 1).tdiv 5 := Int.tdiv_nonneg (by omega) (by omega)
      exact Int.mul_nonneg (by omega) hsb
    · exact le_max_left _ _
  · intro potential bluff highestSet hbluff hset
    simp only [riverStreet]
    split_ifs
    · exact Int.mul_nonneg (by omega) hset
    · exact le_max_left _ _

namespace Betting

variable {t t' : Betting} {r : Ref} {minimum : Int}

theorem legalMove_preflop3 (d : Preflop3) (mySet highestSet smallBlind : Int) :
    LegalMove (d.move mySet highestSet smallBlind) highestSet := by
  simp only [Preflop3.move]
  split
  · trivial
  · split
    · split
      · trivial
      · next raise _ =>
          split
          · next hpos => exact hpos.le
          · trivial
    · split
      · trivial
      · trivial

theorem legalMove_street {s : Street} (hs : s.Sound) (d : Postflop3) {mySet highestSet smallBlind : Int}
    (hset : 0 ≤ highestSet) (hsb : 0 ≤ smallBlind) :
    LegalMove (s.move d mySet highestSet smallBlind) highestSet := by
  simp only [Street.move]
  split
  · trivial
  · split
    · next hopen =>
        split
        · trivial
        · exact ⟨hs.bet_nonneg d.bluff_pos hsb, hopen⟩
    · split
      · exact hs.raise_nonneg d.bluff_pos hset
      · trivial

theorem Outcome.highest_nonneg (h : Outcome t t' r minimum) (hhighest : 0 ≤ t.highestSet) : 0 ≤ t'.highestSet := by
  rcases h.highest with ⟨hsame, _⟩ | hpos
  · omega
  · exact hpos.le

theorem Outcome.able (h : Outcome t t' r minimum) (ht : Able t r) (hpos : 0 < minimum) : Able t' r :=
  ⟨h.cash_nonneg, h.set_nonneg, h.highest_nonneg ht.highest_nonneg, by
    rw [h.minimum_eq]
    exact hpos⟩

/-- An action on top of another one that left the minimum raise alone, or raised the highest set. -/
theorem Outcome.trans {u : Betting} {minimum' : Int} (h : Outcome t t' r minimum) (h' : Outcome t' u r minimum') :
    Outcome t u r minimum' := by
  refine ⟨h.acts.trans h'.acts, h'.cash_nonneg, h'.set_nonneg, h'.minimum_eq, ?_⟩
  rcases h'.highest with ⟨hsame, hmin⟩ | hpos
  · rcases h.highest with ⟨hsame', hmin'⟩ | hpos
    · exact .inl ⟨hsame.trans hsame', by rw [hmin, h.minimum_eq, hmin']⟩
    · right
      omega
  · exact .inr hpos

theorem Outcome.finish (h : Outcome t t' r minimum) (oldMySet : Int) : Outcome t (t'.finish r oldMySet) r minimum :=
  h.modify (le_max_left _ _) h.set_nonneg

theorem settle_mySet {oldMySet raise highestSet : Int} {p : Player} (hold : 0 ≤ oldMySet) (hcash : 0 ≤ p.myCash)
    (hset : 0 ≤ p.mySet) (hhighest : 0 ≤ highestSet) : 0 ≤ (settle oldMySet raise highestSet p).mySet := by
  simp only [settle]
  split
  · split_ifs
    · exact hhighest
    · exact hset
  · split_ifs
    · dsimp only
      omega
    · dsimp only
      omega
    · exact hset
  · dsimp only
    omega
  · exact hset
  · exact hset

theorem Outcome.settle_finish (h : Outcome t t' r minimum) (hhighest : 0 ≤ t.highestSet) {oldMySet : Int}
    (hold : 0 ≤ oldMySet) (raise : Int) :
    Outcome t ((t'.modify r (settle oldMySet raise t'.highestSet)).finish r oldMySet) r minimum := by
  have hset := @settle_mySet oldMySet raise t'.highestSet _ hold h.cash_nonneg h.set_nonneg (h.highest_nonneg hhighest)
  refine ⟨(h.acts.modify _).modify _, ?_, ?_, h.minimum_eq, h.highest⟩
  · simp only [Betting.finish, player_modify]
    exact le_max_left _ _
  · simpa only [Betting.finish, player_modify] using hset

theorem Able.setMyAction (h : Able t r) (a : PlayerAction) : Able (t.setMyAction r a) r :=
  ⟨by simpa using h.cash_nonneg, by simpa using h.set_nonneg, h.highest_nonneg, h.minimum_pos⟩

theorem prepay_mySet {highestSet smallBlind raise : Int} {p : Player} (hcash : 0 ≤ p.myCash) (hset : 0 ≤ p.mySet) :
    0 ≤ (prepay highestSet smallBlind raise p).mySet := by
  simp only [prepay]
  split
  · split_ifs
    · dsimp only
      omega
    · dsimp only
      omega
    · exact hset
  · split_ifs
    · dsimp only
      omega
    · dsimp only
      omega
    · exact hset
  · dsimp only
    omega
  · dsimp only
    split_ifs <;> omega
  · exact hset

theorem prepaid_outcome (h : Able t r) (first : Decision) :
    Outcome t (t.prepaid r first) r t.minimumRaise := by
  refine outcome_modify ?_ ?_
  · dsimp only
    split_ifs <;> omega
  · exact prepay_mySet h.cash_nonneg h.set_nonneg

def decidedMinimum (t : Betting) (r : Ref) (d : Decision) : Int :=
  (t.setMyAction r d.myAction).evaluatedMinimum r d.bet d.raise

theorem decided_minimumRaise (h : Able t r) (d : Decision) :
    (t.decided r d).minimumRaise = t.decidedMinimum r d :=
  evaluation_minimumRaise (h.setMyAction d.myAction)

theorem decided_outcome (h : Able t r) {d : Decision} (hpos : 0 < t.decidedMinimum r d) :
    Outcome t (t.decided r d) r (t.decidedMinimum r d) := by
  have hset : Outcome t (t.setMyAction r d.myAction) r t.minimumRaise := outcome_modify h.cash_nonneg h.set_nonneg
  exact hset.trans (evaluation_outcome (h.setMyAction d.myAction) hpos)

def FullDecision (t : Betting) (r : Ref) (least : Int) (d : Decision) : Prop :=
  (t.setMyAction r d.myAction).FullEvaluation r least d.bet d.raise

def move3 (t : Betting) (r : Ref) (m : Mind) : Move :=
  match t.hand.currentRound with
  | .preflop => m.preflop3.move (t.player r).mySet t.highestSet t.hand.smallBlind
  | .flop => flopStreet.move m.postflop3 (t.player r).mySet t.highestSet t.hand.smallBlind
  | .turn => turnStreet.move m.postflop3 (t.player r).mySet t.highestSet t.hand.smallBlind
  | .river => riverStreet.move m.postflop3 (t.player r).mySet t.highestSet t.hand.smallBlind
  | .postRiver => .nothing

theorem legalMove_move3 (h : Able t r) (hsb : 0 ≤ t.hand.smallBlind) (m : Mind) :
    LegalMove (t.move3 r m) t.highestSet := by
  simp only [move3]
  split
  · exact legalMove_preflop3 m.preflop3 _ _ _
  · exact legalMove_street flopStreet_sound m.postflop3 h.highest_nonneg hsb
  · exact legalMove_street turnStreet_sound m.postflop3 h.highest_nonneg hsb
  · exact legalMove_street riverStreet_sound m.postflop3 h.highest_nonneg hsb
  · trivial

/-- What the engine bets or raises, as far as the player's chips go, is at least the minimum raise. -/
def FullEngine (t : Betting) (r : Ref) (m : Mind) : Prop :=
  match t.hand.currentRound with
  | .preflop =>
      if m.engineVersion ≠ 0 then t.FullMove r (t.move3 r m)
      else (t.prepaid r m.first).FullDecision r t.minimumRaise m.decision
  | .flop =>
      if m.engineVersion ≠ 0 then
        (t.carryOut r (t.move3 r m)).FullEvaluation r t.minimumRaise m.decision.bet m.decision.raise
      else t.FullDecision r t.minimumRaise m.decision
  | .turn | .river =>
      if m.engineVersion ≠ 0 then t.FullMove r (t.move3 r m) else t.FullDecision r t.minimumRaise m.decision
  | .postRiver => True

def engineMinimum (t : Betting) (r : Ref) (m : Mind) : Int :=
  match t.hand.currentRound with
  | .preflop =>
      if m.engineVersion ≠ 0 then t.movedMinimum r (t.move3 r m)
      else (t.prepaid r m.first).decidedMinimum r m.decision
  | .flop =>
      if m.engineVersion ≠ 0 then
        (t.carryOut r (t.move3 r m)).evaluatedMinimum r m.decision.bet m.decision.raise
      else t.decidedMinimum r m.decision
  | .turn | .river =>
      if m.engineVersion ≠ 0 then t.movedMinimum r (t.move3 r m) else t.decidedMinimum r m.decision
  | .postRiver => t.minimumRaise

theorem le_engineMinimum_iff {m : Mind} : t.minimumRaise ≤ t.engineMinimum r m ↔ t.FullEngine r m := by
  simp only [engineMinimum, FullEngine]
  split
  · split_ifs
    · exact le_movedMinimum_iff
    · exact le_evaluatedMinimum_iff
  · split_ifs
    · exact le_evaluatedMinimum_iff
    · exact le_evaluatedMinimum_iff
  · split_ifs
    · exact le_movedMinimum_iff
    · exact le_evaluatedMinimum_iff
  · split_ifs
    · exact le_movedMinimum_iff
    · exact le_evaluatedMinimum_iff
  · exact ⟨fun _ => trivial, fun _ => le_refl _⟩

theorem prepaid_able (h : Able t r) (first : Decision) : Able (t.prepaid r first) r :=
  (prepaid_outcome h first).able h h.minimum_pos

theorem carryOut_able (h : Able t r) (hsb : 0 ≤ t.hand.smallBlind) (m : Mind) :
    Able (t.carryOut r (t.move3 r m)) r :=
  (carryOut_outcome h (legalMove_move3 h hsb m)).able h (movedMinimum_pos h _)

theorem moved_finish (h : Able t r) (hsb : 0 ≤ t.hand.smallBlind) (m : Mind) (oldMySet : Int) :
    Outcome t ((t.carryOut r (t.move3 r m)).finish r oldMySet) r (t.movedMinimum r (t.move3 r m)) :=
  (carryOut_outcome h (legalMove_move3 h hsb m)).finish oldMySet

theorem engine_minimumRaise (h : Able t r) (hsb : 0 ≤ t.hand.smallBlind) (m : Mind) :
    (t.engine r m).minimumRaise = t.engineMinimum r m := by
  have hmoved := (moved_finish h hsb m (t.player r).mySet).minimum_eq
  have hcarried := @evaluation_minimumRaise _ _ m.decision.bet m.decision.raise (carryOut_able h hsb m)
  have hdecided := decided_minimumRaise h m.decision
  have hprepaid := decided_minimumRaise (prepaid_able h m.first) m.decision
  simp only [move3] at hmoved hcarried
  simp only [engine, engineMinimum, move3]
  cases hround : t.hand.currentRound with
  | preflop =>
      simp only [hround] at hmoved
      split_ifs
      · exact hmoved
      · exact hprepaid
  | flop =>
      simp only [hround] at hcarried
      split_ifs
      · exact hcarried
      · exact hdecided
  | turn =>
      simp only [hround] at hmoved
      split_ifs
      · exact hmoved
      · exact hdecided
  | river =>
      simp only [hround] at hmoved
      split_ifs
      · exact hmoved
      · exact hdecided
  | postRiver => rfl

theorem engine_outcome (h : Able t r) (hsb : 0 ≤ t.hand.smallBlind) {m : Mind} (hpos : 0 < t.engineMinimum r m) :
    Outcome t (t.engine r m) r (t.engineMinimum r m) := by
  have hmoved := moved_finish h hsb m (t.player r).mySet
  have hcarry := carryOut_outcome h (legalMove_move3 h hsb m)
  have hcarried := @evaluation_outcome _ _ m.decision.bet m.decision.raise (carryOut_able h hsb m)
  have hdecided := @decided_outcome _ _ h m.decision
  have hprepaid := @decided_outcome _ _ (prepaid_able h m.first) m.decision
  simp only [move3] at hmoved hcarry hcarried
  simp only [engineMinimum, move3] at hpos
  simp only [engine, engineMinimum, move3]
  cases hround : t.hand.currentRound with
  | preflop =>
      simp only [hround] at hmoved hpos
      split_ifs at hpos ⊢
      · exact hmoved
      · exact ((prepaid_outcome h m.first).trans (hprepaid hpos)).settle_finish h.highest_nonneg h.set_nonneg _
  | flop =>
      simp only [hround] at hcarry hcarried hpos
      split_ifs at hpos ⊢
      · exact (hcarry.trans (hcarried hpos)).settle_finish h.highest_nonneg h.set_nonneg _
      · exact hdecided hpos
  | turn =>
      simp only [hround] at hmoved hpos
      split_ifs at hpos ⊢
      · exact hmoved
      · exact hdecided hpos
  | river =>
      simp only [hround] at hmoved hpos
      split_ifs at hpos ⊢
      · exact hmoved
      · exact hdecided hpos
  | postRiver => exact ⟨acts_refl t r, h.cash_nonneg, h.set_nonneg, rfl, .inl ⟨rfl, rfl⟩⟩

theorem action_minimumRaise (t : Betting) (r : Ref) (m : Mind) :
    (t.action r m).minimumRaise = (t.engine r m).minimumRaise := rfl

/-- A computer player keeps the minimum raise exactly when its engine bets and raises in full. -/
theorem action_minimumRaise_iff (h : Able t r) (hsb : 0 ≤ t.hand.smallBlind) (m : Mind) :
    t.minimumRaise ≤ (t.action r m).minimumRaise ↔ t.FullEngine r m := by
  rw [action_minimumRaise, engine_minimumRaise h hsb, le_engineMinimum_iff]

theorem action_outcome (h : Able t r) (hsb : 0 ≤ t.hand.smallBlind) {m : Mind} (hfull : t.FullEngine r m) :
    Outcome t (t.action r m) r (t.engineMinimum r m) := by
  have hpos : 0 < t.engineMinimum r m := lt_of_lt_of_le h.minimum_pos (le_engineMinimum_iff.mpr hfull)
  have hout := engine_outcome h hsb hpos
  have hnote := @Outcome.modify _ _ _ _ hout
    (fun p => { p with myLastRelativeSet := p.mySet - (t.player r).mySet }) hout.cash_nonneg hout.set_nonneg
  exact ⟨⟨hnote.acts.seatsList, hnote.acts.smallBlind, hnote.acts.currentRound, hnote.acts.players,
    hnote.acts.rounds⟩, hnote.cash_nonneg, hnote.set_nonneg, hnote.minimum_eq, hnote.highest⟩

end Betting

end PokerTH
