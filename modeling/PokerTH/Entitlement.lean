import PokerTH.Splitting

namespace PokerTH.Board

open PokerTH.Lists SidePots

variable {players players' : Players} {seatsList : List Ref} {maxPlayers dealerPosition i seen amount : Nat}
  {b : Board} {st : PotState}

def sidePotStakes (seatsList : List Ref) (players : Players) : Stakes Ref where
  seats := seatsList
  stake := fun r => (stake (players r)).toNat
  live := fun r => contender (players r)
  value := fun r => (players r).myCardsValueInt

def distributes (seatsList : List Ref) (st : PotState) (i : Nat) : Bool :=
  let amount := st.playerSetsSort.getD i 0
  let ids := bestHands st.players (reaching seatsList st.playerSets amount)
  decide (amount > 0) && (ids.isEmpty || finalPot st.players seatsList st.playerSets amount ids)

def levelsDistributed (players : Players) (seatsList : List Ref) (maxPlayers dealerPosition : Nat) (b : Board) :
    Nat → Nat
  | 0 => 0
  | i + 1 =>
      levelsDistributed players seatsList maxPlayers dealerPosition b i +
        match (List.range i).foldlM (levelStep seatsList maxPlayers dealerPosition)
          (potStart players seatsList b) with
        | .error _ => 0
        | .ok st => if distributes seatsList st i then 1 else 0

theorem zip_map_self (l : List Ref) (f : Ref → Nat) : l.zip (l.map f) = l.map fun r => (r, f r) := by
  induction l with
  | nil => rfl
  | cons r l ih => rw [List.map_cons, List.zip_cons_cons, ih, List.map_cons]

theorem reaching_map (seatsList : List Ref) (f : Ref → Nat) (amount : Nat) :
    reaching seatsList (seatsList.map f) amount = seatsList.filter fun r => amount ≤ f r := by
  rw [reaching, zip_map_self, List.filter_map, List.map_map]
  exact List.map_id _

theorem bestHands_eq {zs : List Ref} (hvalues : ∀ r ∈ zs, contender (players r) → 0 ≤ (players r).myCardsValueInt) :
    bestHands players zs = (zs.filter fun r => contender (players r) ∧
      ∀ s ∈ zs, contender (players s) → (players s).myCardsValueInt ≤ (players r).myCardsValueInt).map
      fun r => (players r).myUniqueID := by
  rw [bestHands]
  congr 1
  apply List.filter_congr
  intro r hr
  rw [decide_eq_decide, highestCardsValue_eq]
  constructor
  · rintro ⟨hc, hbest⟩
    refine ⟨hc, fun s hs hsc => ?_⟩
    rw [← hbest]
    exact le_foldl_raisedValue hsc hs 0
  · rintro ⟨hc, hbest⟩
    refine ⟨hc, le_antisymm ?_ (le_foldl_raisedValue hc hr 0)⟩
    rcases @foldl_raisedValue_attained players zs 0 with hzero | ⟨s, hs, hsc, hsv⟩
    · rw [hzero]
      exact hvalues r hr hc
    · rw [← hsv]
      exact hbest s hs hsc

theorem bestHands_reaching {won : Ref → Int} (hamount : 0 < amount)
    (hvalues : ∀ r ∈ seatsList, contender (players r) → 0 ≤ (players r).myCardsValueInt) :
    bestHands (fun r => gain (players r) (won r))
      (reaching seatsList (seatsList.map fun r => (sidePotStakes seatsList players).stake r - seen) amount) =
    ((sidePotStakes seatsList players).winners (seen + amount)).map fun r => (players r).myUniqueID := by
  rw [reaching_map, @bestHands_eq (fun r => gain (players r) (won r)) _
    fun r hr => hvalues r (List.mem_filter.mp hr).1, List.filter_filter]
  refine congrArg _ (List.filter_congr fun r _ => ?_)
  have hreach (s : Ref) : amount ≤ (sidePotStakes seatsList players).stake s - seen ↔
      seen + amount ≤ (sidePotStakes seatsList players).stake s := by omega
  rw [← Bool.decide_and, decide_eq_decide]
  simp only [contender_gain, gain_myCardsValueInt, List.mem_filter, decide_eq_true_eq, hreach, and_imp]
  constructor
  · rintro ⟨⟨hc, hbest⟩, hr⟩
    exact ⟨hc, hr, fun s hs hsc hsr => hbest s hs hsr hsc⟩
  · rintro ⟨hc, hr, hbest⟩
    exact ⟨⟨hc, fun s hs hsr hsc => hbest s hs hsc hsr⟩, hr⟩

theorem finalPot_iff {won : Ref → Int} {f : Ref → Nat} {ws : List Ref} (hids : DistinctIDs seatsList players)
    (hws : ∀ r ∈ ws, r ∈ seatsList ∧ contender (players r)) :
    finalPot (fun r => gain (players r) (won r)) seatsList (seatsList.map f) amount
      (ws.map fun r => (players r).myUniqueID) ↔ ∃ r ∈ ws, f r = amount := by
  simp only [finalPot, zip_map_self, List.any_map, List.any_eq_true, Function.comp_apply, gain_myUniqueID,
    Bool.and_eq_true, beq_iff_eq]
  constructor
  · rintro ⟨r, hr, s, hs, hid, heq⟩
    obtain ⟨hseat, hc⟩ := hws r hr
    exact ⟨r, hr, by rw [← hids.eq_of_id r hseat (contender_active hc) s hs hid, heq]⟩
  · rintro ⟨r, hr, heq⟩
    exact ⟨r, hr, r, (hws r hr).1, rfl, heq.symm⟩

/-- What the passes so far have paid out, chip height by chip height. -/
structure Shares (players : Players) (seatsList : List Ref) (maxPlayers dealerPosition : Nat) (b : Board)
    (i : Nat) (st : PotState) (won : Ref → Int) (paid seen : Nat) : Prop where
  run : (List.range i).foldlM (levelStep seatsList maxPlayers dealerPosition) (potStart players seatsList b) = .ok st
  gains : st.players = fun r => gain (resetMoneyWon players seatsList r) (won r)
  sets : st.playerSets = seatsList.map fun r => (sidePotStakes seatsList players).stake r - seen
  carry : st.potCarryOver = (sidePotStakes seatsList players).between paid seen
  settling : Settling (sidePotStakes seatsList players) won
    (levelsDistributed players seatsList maxPlayers dealerPosition b i) paid seen

variable {won : Ref → Int} {paid : Nat}

theorem Shares.run_succ {st' : PotState} (h : Shares players seatsList maxPlayers dealerPosition b i st won paid seen)
    (hstep : levelStep seatsList maxPlayers dealerPosition st i = .ok st') :
    (List.range (i + 1)).foldlM (levelStep seatsList maxPlayers dealerPosition) (potStart players seatsList b) =
      .ok st' := by
  rw [List.range_succ, List.foldlM_append, h.run]
  simp [bind, Except.bind, hstep, pure, Except.pure]

theorem Shares.distributed_succ (h : Shares players seatsList maxPlayers dealerPosition b i st won paid seen) :
    levelsDistributed players seatsList maxPlayers dealerPosition b (i + 1) =
      levelsDistributed players seatsList maxPlayers dealerPosition b i +
        if distributes seatsList st i then 1 else 0 := by
  rw [levelsDistributed, h.run]

theorem Shares.gap {pot : Int} (h : Shares players seatsList maxPlayers dealerPosition b i st won paid seen)
    (hinv : LevelInv seatsList players' pot i st) : ∀ r ∈ seatsList,
    (sidePotStakes seatsList players).stake r ≤ seen ∨
      seen + st.playerSetsSort.getD i 0 ≤ (sidePotStakes seatsList players).stake r := by
  intro r hr
  have hmem : (sidePotStakes seatsList players).stake r - seen ∈ st.playerSetsSort := by
    rw [hinv.sorted, (sort_perm _).mem_iff, h.sets]
    exact List.mem_map_of_mem hr
  rw [← List.take_append_drop i st.playerSetsSort] at hmem
  rcases List.mem_append.mp hmem with htake | hdrop
  · have hzero := hinv.exhausted _ htake
    omega
  · have hsorted : st.playerSetsSort.Pairwise (· ≤ ·) := hinv.sorted ▸ sort_sorted st.playerSets
    have hle := sorted_le_of_mem_drop hsorted hdrop
    omega

theorem Shares.levelSum {pot : Int} (h : Shares players seatsList maxPlayers dealerPosition b i st won paid seen)
    (hinv : LevelInv seatsList players' pot i st) :
    (st.playerSetsSort.length - i) * st.playerSetsSort.getD i 0 + st.potCarryOver =
      (sidePotStakes seatsList players).between paid (seen + st.playerSetsSort.getD i 0) := by
  have hsorted : st.playerSetsSort.Pairwise (· ≤ ·) := hinv.sorted ▸ sort_sorted st.playerSets
  have hperm : st.playerSetsSort.Perm st.playerSets := hinv.sorted ▸ sort_perm st.playerSets
  have hmin := sum_min_of_sorted hsorted hinv.exhausted
  rw [(hperm.map _).sum_eq, h.sets, List.map_map] at hmin
  have hadd := upTo_add (t := sidePotStakes seatsList players) seen (st.playerSetsSort.getD i 0)
  have hseen := upTo_between (t := sidePotStakes seatsList players) h.settling.le
  have hnext := upTo_between (t := sidePotStakes seatsList players)
    (Nat.le_add_right_of_le h.settling.le (k := st.playerSetsSort.getD i 0))
  rw [h.carry, ← hmin]
  have hsame : ((sidePotStakes seatsList players).seats.map fun a =>
      min ((sidePotStakes seatsList players).stake a - seen) (st.playerSetsSort.getD i 0)).sum =
      (seatsList.map ((fun x => min x (st.playerSetsSort.getD i 0)) ∘ fun r =>
        (sidePotStakes seatsList players).stake r - seen)).sum := rfl
  omega

/-- A level has a winner as long as a stake that reaches it does not exceed every live one. -/
theorem Shares.exists_winner {pot : Int} (h : Shares players seatsList maxPlayers dealerPosition b i st won paid seen)
    (hinv : LevelInv seatsList players' pot i st) (hi : i < seatsList.length)
    (hcovered : ∀ q ∈ seatsList, ∃ r ∈ seatsList, contender (players r) ∧ stake (players q) ≤ stake (players r))
    (hamount : 0 < st.playerSetsSort.getD i 0) :
    ∃ w, w ∈ (sidePotStakes seatsList players).winners (seen + st.playerSetsSort.getD i 0) := by
  have hlen : i < st.playerSetsSort.length := by rwa [hinv.sorted, sort_length, hinv.length]
  have hmem : st.playerSetsSort.getD i 0 ∈ st.playerSets := by
    rw [List.getD_eq_getElem?_getD, List.getElem?_eq_getElem hlen, Option.getD_some, ← (sort_perm _).mem_iff, ← hinv.sorted]
    exact List.getElem_mem hlen
  rw [h.sets] at hmem
  obtain ⟨q, hq, hstake⟩ := List.mem_map.mp hmem
  obtain ⟨r, hr, hc, hle⟩ := hcovered q hq
  refine SidePots.exists_winner (a := r) hr hc ?_
  have hreach : (sidePotStakes seatsList players).stake q ≤ (sidePotStakes seatsList players).stake r :=
    Int.toNat_le_toNat hle
  omega

theorem sidePotStakes_resetMoneyWon (players : Players) (seatsList : List Ref) :
    sidePotStakes seatsList (resetMoneyWon players seatsList) = sidePotStakes seatsList players := by
  have hfields (r : Ref) : stake (resetMoneyWon players seatsList r) = stake (players r) ∧
      contender (resetMoneyWon players seatsList r) = contender (players r) ∧
      (resetMoneyWon players seatsList r).myCardsValueInt = (players r).myCardsValueInt := by
    simp only [resetMoneyWon]
    split_ifs <;> exact ⟨rfl, rfl, rfl⟩
  simp only [sidePotStakes, hfields]

theorem Shares.bestHands (h : Shares players seatsList maxPlayers dealerPosition b i st won paid seen)
    (hvalues : ∀ r ∈ seatsList, contender (players r) → 0 ≤ (players r).myCardsValueInt)
    (hamount : 0 < st.playerSetsSort.getD i 0) :
    bestHands st.players (reaching seatsList st.playerSets (st.playerSetsSort.getD i 0)) =
      ((sidePotStakes seatsList players).winners (seen + st.playerSetsSort.getD i 0)).map
        fun r => (st.players r).myUniqueID := by
  have hvalues' : ∀ r ∈ seatsList, contender (resetMoneyWon players seatsList r) →
      0 ≤ (resetMoneyWon players seatsList r).myCardsValueInt := by
    intro r hr
    simp only [resetMoneyWon, if_pos hr]
    exact hvalues r hr
  rw [h.sets, h.gains, ← sidePotStakes_resetMoneyWon, bestHands_reaching hamount hvalues']
  rfl

theorem Shares.contender_winner (h : Shares players seatsList maxPlayers dealerPosition b i st won paid seen)
    (height : Nat) : ∀ r ∈ (sidePotStakes seatsList players).winners height,
    r ∈ seatsList ∧ contender (st.players r) := by
  intro r hr
  obtain ⟨hseat, hlive, _⟩ := mem_winners.mp hr
  rw [← sidePotStakes_resetMoneyWon] at hlive
  rw [h.gains]
  exact ⟨hseat, hlive⟩

theorem Shares.finalPot_iff (h : Shares players seatsList maxPlayers dealerPosition b i st won paid seen)
    (hids : DistinctIDs seatsList (resetMoneyWon players seatsList)) (hamount : 0 < st.playerSetsSort.getD i 0)
    (height : Nat) :
    finalPot st.players seatsList st.playerSets (st.playerSetsSort.getD i 0)
      (((sidePotStakes seatsList players).winners height).map fun r => (st.players r).myUniqueID) ↔
    ∃ r ∈ (sidePotStakes seatsList players).winners height,
      (sidePotStakes seatsList players).stake r = seen + st.playerSetsSort.getD i 0 := by
  have hws := h.contender_winner height
  rw [h.sets]
  rw [h.gains] at hws ⊢
  refine (Board.finalPot_iff hids hws).trans (exists_congr fun r => and_congr_right fun _ => ?_)
  omega

theorem Shares.playerSets_succ {st' : PotState}
    (h : Shares players seatsList maxPlayers dealerPosition b i st won paid seen)
    (hsame : st'.playerSets = st.playerSets) :
    (reevaluate (st.playerSetsSort.getD i 0) st').playerSets = seatsList.map fun r =>
      (sidePotStakes seatsList players).stake r - (seen + st.playerSetsSort.getD i 0) := by
  rw [reevaluate_playerSets, hsame, h.sets, List.map_map]
  exact List.map_congr_left fun r _ => Nat.sub_sub _ _ _

theorem Shares.distributes_iff (h : Shares players seatsList maxPlayers dealerPosition b i st won paid seen)
    (hids : DistinctIDs seatsList (resetMoneyWon players seatsList))
    (hvalues : ∀ r ∈ seatsList, contender (players r) → 0 ≤ (players r).myCardsValueInt)
    (hamount : 0 < st.playerSetsSort.getD i 0)
    (hne : ((sidePotStakes seatsList players).winners (seen + st.playerSetsSort.getD i 0)).map
      (fun r => (st.players r).myUniqueID) ≠ []) :
    distributes seatsList st i ↔
      ∃ r ∈ (sidePotStakes seatsList players).winners (seen + st.playerSetsSort.getD i 0),
        (sidePotStakes seatsList players).stake r = seen + st.playerSetsSort.getD i 0 := by
  rw [← h.finalPot_iff hids hamount]
  simp only [distributes]
  rw [h.bestHands hvalues hamount, decide_eq_true hamount, Bool.true_and, List.isEmpty_eq_false_iff.mpr hne,
    Bool.false_or]

/-- A pass of the level loop pays what the side pots below the level entitle to, or carries it over. -/
theorem levelStep_shares (hmax : seatsList.length ≤ maxPlayers) {pot : Int} (hpot : pot < 2 ^ 32)
    (hs : Showdown seatsList dealerPosition (resetMoneyWon players seatsList))
    (hvalues : ∀ r ∈ seatsList, contender (players r) → 0 ≤ (players r).myCardsValueInt)
    (hcovered : ∀ q ∈ seatsList, ∃ r ∈ seatsList, contender (players r) ∧ stake (players q) ≤ stake (players r))
    (hi : i < seatsList.length) (hinv : LevelInv seatsList (resetMoneyWon players seatsList) pot i st)
    (h : Shares players seatsList maxPlayers dealerPosition b i st won paid seen) :
    ∃ st' won' paid' seen', levelStep seatsList maxPlayers dealerPosition st i = .ok st' ∧
      Shares players seatsList maxPlayers dealerPosition b (i + 1) st' won' paid' seen' := by
  have hcount := h.distributed_succ
  by_cases hamount : 0 < st.playerSetsSort.getD i 0
  · obtain ⟨w, hw⟩ := h.exists_winner hinv hi hcovered hamount
    have hne := List.ne_nil_of_mem (List.mem_map_of_mem (f := fun r => (st.players r).myUniqueID) hw)
    have hids := h.bestHands hvalues hamount
    have hdist := h.distributes_iff hs.distinct hvalues hamount hne
    have hfinal := h.finalPot_iff hs.distinct hamount (seen + st.playerSetsSort.getD i 0)
    have hsum := hinv.toUnsigned_levelSum hpot
    rw [h.levelSum hinv] at hsum
    have hlt : seen < seen + st.playerSetsSort.getD i 0 := by omega
    by_cases hexhausted : ∃ r ∈ (sidePotStakes seatsList players).winners (seen + st.playerSetsSort.getD i 0),
        (sidePotStakes seatsList players).stake r = seen + st.playerSetsSort.getD i 0
    · obtain ⟨d, winners', hpay, hsplit⟩ := payWinners_splits hmax
        ((sidePotStakes seatsList players).between paid (seen + st.playerSetsSort.getD i 0))
        (winners_sublist (sidePotStakes seatsList players) (seen + st.playerSetsSort.getD i 0))
        (fun r hr => (h.contender_winner _ r hr).2) st.winners (hinv.paid.distinctIDs hs.distinct)
        (hinv.paid.showdown hs).dealer
      have hstep : levelStep seatsList maxPlayers dealerPosition st i = .ok (reevaluate
          (st.playerSetsSort.getD i 0)
          (payOut ((sidePotStakes seatsList players).between paid (seen + st.playerSetsSort.getD i 0)) st
            (fun r => gain (st.players r) (d r), winners'))) := by
        simp only [levelStep, if_pos hamount, settleLevel, h.levelSum hinv, hsum, hids, if_neg hne,
          if_pos (hfinal.mpr hexhausted)]
        rw [hpay]
        rfl
      refine ⟨_, fun r => won r + d r, seen + st.playerSetsSort.getD i 0, seen + st.playerSetsSort.getD i 0, hstep,
        h.run_succ hstep, ?_, h.playerSets_succ rfl, (Nat.sub_self _).symm, ?_⟩
      · simp only [reevaluate, payOut, h.gains, gain_gain]
      · rw [hcount, if_pos (hdist.mpr hexhausted)]
        exact h.settling.pay hs.distinct.nodup hlt (h.gap hinv) hsplit
    · have hstep : levelStep seatsList maxPlayers dealerPosition st i = .ok (reevaluate
          (st.playerSetsSort.getD i 0) { st with
            potCarryOver := (sidePotStakes seatsList players).between paid (seen + st.playerSetsSort.getD i 0) }) := by
        simp only [levelStep, if_pos hamount, settleLevel, h.levelSum hinv, hsum, hids, if_neg hne,
          if_neg (hexhausted ∘ hfinal.mp)]
        rfl
      refine ⟨_, won, paid, seen + st.playerSetsSort.getD i 0, hstep, h.run_succ hstep, h.gains,
        h.playerSets_succ rfl, rfl, ?_⟩
      rw [hcount, if_neg (hexhausted ∘ hdist.mp), Nat.add_zero]
      exact h.settling.carry hlt (h.gap hinv) fun r hr heq => hexhausted ⟨r, hr, heq⟩
  · have hstep : levelStep seatsList maxPlayers dealerPosition st i = .ok st := by
      simp only [levelStep, if_neg hamount]
    have hdist : distributes seatsList st i = false := by
      simp only [distributes, decide_eq_false hamount, Bool.false_and]
    refine ⟨st, won, paid, seen, hstep, h.run_succ hstep, h.gains, h.sets, h.carry, ?_⟩
    rw [hcount, hdist]
    exact h.settling

theorem shares_start (hpot : stakes seatsList players < 2 ^ 32) :
    Shares players seatsList maxPlayers dealerPosition b 0 (potStart players seatsList b) (fun _ => 0) 0 0 := by
  refine ⟨rfl, ?_, ?_, (Nat.sub_self _).symm, settling_start _⟩
  · funext r
    rw [gain_zero]
    rfl
  · apply List.map_congr_left
    intro r hr
    have hset := potStart_set hpot hr
    have htable : (sidePotStakes seatsList players).stake r = (stake (players r)).toNat := rfl
    omega

theorem levelLoop_shares (hmax : seatsList.length ≤ maxPlayers) (hs : Showdown seatsList dealerPosition players)
    (hpot : b.pot = stakes seatsList players) (hint : b.pot < 2 ^ 31)
    (hvalues : ∀ r ∈ seatsList, contender (players r) → 0 ≤ (players r).myCardsValueInt)
    (hcovered : ∀ q ∈ seatsList, ∃ r ∈ seatsList, contender (players r) ∧ stake (players q) ≤ stake (players r)) :
    ∃ st won paid seen, levelLoop players seatsList maxPlayers dealerPosition b = .ok st ∧
      LevelInv seatsList (resetMoneyWon players seatsList) b.pot seatsList.length st ∧
      Shares players seatsList maxPlayers dealerPosition b seatsList.length st won paid seen := by
  have hreset := resetMoneyWon_showdown hs
  have hstart : ∃ won paid seen, Shares players seatsList maxPlayers dealerPosition b 0
      (potStart players seatsList b) won paid seen := ⟨_, 0, 0, shares_start (by omega)⟩
  have hstep : ∀ i st, i < seatsList.length →
      (LevelInv seatsList (resetMoneyWon players seatsList) b.pot i st ∧
        ∃ won paid seen, Shares players seatsList maxPlayers dealerPosition b i st won paid seen) →
      ∃ st', levelStep seatsList maxPlayers dealerPosition st i = .ok st' ∧
        LevelInv seatsList (resetMoneyWon players seatsList) b.pot (i + 1) st' ∧
        ∃ won paid seen, Shares players seatsList maxPlayers dealerPosition b (i + 1) st' won paid seen := by
    rintro i st hi ⟨hinv, won, paid, seen, hshares⟩
    obtain ⟨st', hrun, hinv'⟩ := levelStep_keeps hmax (by omega) hreset i st hi hinv
    obtain ⟨st'', won', paid', seen', hrun', hshares'⟩ :=
      levelStep_shares hmax (by omega) hreset hvalues hcovered hi hinv hshares
    obtain rfl : st' = st'' := Except.ok.inj (hrun.symm.trans hrun')
    exact ⟨st', hrun, hinv', won', paid', seen', hshares'⟩
  obtain ⟨st, hrun, hinv, won, paid, seen, hshares⟩ :=
    foldlM_range_invariant ⟨levelInv_start hpot hint, hstart⟩ hstep
  exact ⟨st, won, paid, seen, hrun, hinv, hshares⟩

theorem Shares.covered (h : Shares players seatsList maxPlayers dealerPosition b seatsList.length st won paid seen)
    {pot : Int} (hinv : LevelInv seatsList players' pot seatsList.length st) :
    ∀ r ∈ seatsList, (sidePotStakes seatsList players).stake r ≤ paid := by
  have hzero := hinv.playerSets_zero
  have hseen : ∀ r ∈ seatsList, (sidePotStakes seatsList players).stake r ≤ seen := by
    intro r hr
    have hset := hzero _ (h.sets ▸ List.mem_map_of_mem hr)
    omega
  have hsame : (sidePotStakes seatsList players).upTo seen = (sidePotStakes seatsList players).upTo paid := by
    have hcarry := h.carry.symm.trans (hinv.carry hzero)
    have hbetween := upTo_between (t := sidePotStakes seatsList players) h.settling.le
    omega
  exact fun r hr => le_of_upTo_eq hsame h.settling.le hr (hseen r hr)

theorem upTo_stake (players : Players) (seatsList : List Ref) (p : Ref) :
    (((sidePotStakes seatsList players).upTo ((sidePotStakes seatsList players).stake p) : Nat) : Int) =
      (seatsList.map fun q => min (stake (players q)) (stake (players p))).sum := by
  rw [Stakes.upTo, cast_sum_map]
  apply sum_map_congr
  intro q _
  have hp := stake_nonneg (players p)
  have hq := stake_nonneg (players q)
  have htable (r : Ref) : (sidePotStakes seatsList players).stake r = (stake (players r)).toNat := rfl
  rw [htable, htable]
  omega

theorem contender_iff {p : Player} : contender p ↔ p.myActiveStatus = true ∧ p.myAction ≠ .fold := by
  simp [contender]

/-- Side-pot entitlement of the pot distribution. -/
theorem distributePot_entitles (maxPlayers dealerPosition : Nat) (seatsList : List Ref)
    (players : Players) (b : Board) (hmax : seatsList.length ≤ maxPlayers)
    (hids : (seatsList.map fun r => (players r).myUniqueID).Nodup)
    (hdealer : dealerPosition ∈ seatsList.map fun r => (players r).myUniqueID)
    (hcontestant : ∃ r ∈ seatsList, (players r).myActiveStatus = true ∧ (players r).myAction ≠ .fold)
    (hvalues : ∀ r ∈ seatsList, (players r).myActiveStatus = true → (players r).myAction ≠ .fold →
      0 ≤ (players r).myCardsValueInt)
    (hpot : b.pot = ((seatsList.filter fun r => (players r).myActiveStatus).map fun r =>
      max 0 ((players r).myRoundStartCash - (players r).myCash)).sum)
    (hint : b.pot < 2 ^ 31)
    (hfolded : ∀ q ∈ seatsList, (players q).myAction = .fold → ∃ r ∈ seatsList,
      (players r).myActiveStatus = true ∧ (players r).myAction ≠ .fold ∧ stake (players q) ≤ stake (players r)) :
    ∃ players' b', distributePot players seatsList maxPlayers dealerPosition b = .ok (players', b') ∧
      ∀ p ∈ seatsList, (players' p).myCash = (players p).myCash + (players' p).lastMoneyWon ∧
        ((players p).myActiveStatus = false ∨ (players p).myAction = .fold → (players' p).lastMoneyWon = 0) ∧
        ((players p).myActiveStatus = true → (players p).myAction ≠ .fold →
          (players' p).lastMoneyWon ≤ (seatsList.map fun q => min (stake (players q)) (stake (players p))).sum ∧
          ((∀ q ∈ seatsList, (players q).myActiveStatus = true → (players q).myAction ≠ .fold → q ≠ p →
              (players q).myCardsValueInt < (players p).myCardsValueInt) →
            (players' p).lastMoneyWon = (seatsList.map fun q => min (stake (players q)) (stake (players p))).sum)) ∧
        (((players' p).lastMoneyWon : ℚ) = (sidePotStakes seatsList players).share p ∨
          |((players' p).lastMoneyWon : ℚ) - (sidePotStakes seatsList players).share p| <
            levelsDistributed players seatsList maxPlayers dealerPosition b seatsList.length) := by
  obtain ⟨c, hc, hcactive, hcfold⟩ := hcontestant
  have hs : Showdown seatsList dealerPosition players :=
    ⟨distinctIDs_of_nodup hids, by simpa [List.mem_map] using hdealer,
      c, hc, contender_iff.mpr ⟨hcactive, hcfold⟩, hvalues c hc hcactive hcfold⟩
  have hstakes : b.pot = stakes seatsList players := by
    rw [hpot, sum_map_filter]
    rfl
  have hvalues' : ∀ r ∈ seatsList, contender (players r) → 0 ≤ (players r).myCardsValueInt :=
    fun r hr hcr => hvalues r hr (contender_iff.mp hcr).1 (contender_iff.mp hcr).2
  have hcovered : ∀ q ∈ seatsList, ∃ r ∈ seatsList, contender (players r) ∧ stake (players q) ≤ stake (players r) := by
    intro q hq
    by_cases hactive : (players q).myActiveStatus = true
    · by_cases hfold : (players q).myAction = .fold
      · obtain ⟨r, hr, hractive, hrfold, hle⟩ := hfolded q hq hfold
        exact ⟨r, hr, contender_iff.mpr ⟨hractive, hrfold⟩, hle⟩
      · exact ⟨q, hq, contender_iff.mpr ⟨hactive, hfold⟩, le_refl _⟩
    · have hzero : stake (players q) = 0 := if_neg hactive
      exact ⟨c, hc, contender_iff.mpr ⟨hcactive, hcfold⟩, hzero ▸ stake_nonneg _⟩
  obtain ⟨st, hloop, hpot0, hpaid⟩ := levelLoop_spec hmax hs hstakes hint
  obtain ⟨st', won, paid, seen, hloop', hinv, hshares⟩ := levelLoop_shares hmax hs hstakes hint hvalues' hcovered
  obtain rfl : st = st' := Except.ok.inj (hloop.symm.trans hloop')
  refine ⟨st.players, { b with pot := 0, winners := sortUnique st.winners }, ?_, fun p hp => ?_⟩
  · simp [distributePot, hloop, Except.map, repairPot, hpot0]
  obtain ⟨hbound, hsole, hshare⟩ := hshares.settling.entitled (hshares.covered hinv) hp
  rw [upTo_stake] at hbound hsole
  have hwon : (st.players p).lastMoneyWon = won p := by
    rw [hshares.gains]
    simp [gain, resetMoneyWon, hp]
  have hcash : (st.players p).myCash = (players p).myCash + won p := by
    rw [hshares.gains]
    simp [gain, resetMoneyWon, hp]
  rw [hwon]
  refine ⟨hcash, fun hout => ?_, fun hactive hfold => ⟨hbound, fun hbest => ?_⟩, hshare⟩
  · obtain ⟨won', _, hcontender, _, hplayers⟩ := hpaid
    have hwon' : won' p = won p := by
      rw [← hwon, hplayers]
      simp [gain, resetMoneyWon, hp]
    by_contra hne
    obtain ⟨hpactive, hpfold⟩ := contender_iff.mp (hcontender p (hwon' ▸ hne)).2
    simp only [resetMoneyWon, if_pos hp] at hpactive hpfold
    rcases hout with hinactive | hfold
    · exact absurd (hinactive.symm.trans hpactive) Bool.false_ne_true
    · exact hpfold hfold
  · exact hsole (contender_iff.mpr ⟨hactive, hfold⟩) fun q hq hqc hne =>
      hbest q hq (contender_iff.mp hqc).1 (contender_iff.mp hqc).2 hne

/-- Seat 0 folded after one chip, seat 1 is all in with three and has the best hand, seat 2 put in five. -/
def shortAllInTable : Players
  | 0 => { Player.create 1 .human "" 19 true with myRoundStartCash := 20, myAction := .fold }
  | 1 => { Player.create 2 .human "" 0 true with
      myRoundStartCash := 3
      myAction := .allIn
      myCardsValueInt := 300000000 }
  | r => { Player.create (r + 1) .human "" 15 true with
      myRoundStartCash := 20
      myAction := .call
      myCardsValueInt := 200000000 }

theorem distributePot_entitles_shortAllIn :
    ∃ players' b', distributePot shortAllInTable [0, 1, 2] 10 2 (boardWithPot 9) = .ok (players', b') ∧
      (players' 0).lastMoneyWon = 0 ∧ (players' 1).lastMoneyWon = 7 ∧ (players' 2).lastMoneyWon ≤ 9 := by
  obtain ⟨players', b', hrun, hall⟩ := distributePot_entitles 10 2 [0, 1, 2] shortAllInTable (boardWithPot 9)
    (by decide) (by decide) (by decide) ⟨1, by decide, by decide, by decide⟩ (by decide) (by decide) (by decide)
    (by decide)
  obtain ⟨_, hfolded, _, _⟩ := hall 0 (by decide)
  obtain ⟨_, _, hbest, _⟩ := hall 1 (by decide)
  obtain ⟨_, _, hsecond, _⟩ := hall 2 (by decide)
  exact ⟨players', b', hrun, hfolded (by decide), ((hbest (by decide) (by decide)).2 (by decide)).trans (by decide),
    (hsecond (by decide) (by decide)).1.trans (by decide)⟩

/-- Seat 1 has put in more than seat 0, but his hand has been given a value below zero. -/
def negativeTable : Players
  | 0 => { Player.create 1 .human "" 0 true with
      myRoundStartCash := 5
      myAction := .allIn
      myCardsValueInt := 100 }
  | r => { Player.create (r + 1) .human "" 0 true with
      myRoundStartCash := 10
      myAction := .allIn
      myCardsValueInt := -1 }

/-- Seat 1 is out of the game, and has less cash than at the start of his last round. -/
def inactiveTable : Players
  | 0 => { Player.create 1 .human "" 0 true with
      myRoundStartCash := 5
      myAction := .allIn
      myCardsValueInt := 100 }
  | r => { Player.create (r + 1) .human "" 0 false with myRoundStartCash := 5 }

/-- A hand worth less than zero wins nothing back, and nobody wins from an inactive seat. -/
theorem distributePot_beyond_stake :
    ((boardWithPot 15).pot = (([0, 1].filter fun r => (negativeTable r).myActiveStatus).map fun r =>
        max 0 ((negativeTable r).myRoundStartCash - (negativeTable r).myCash)).sum ∧
      (∀ q ∈ [0, 1], (negativeTable q).myAction ≠ .fold) ∧
      ∃ players' b', distributePot negativeTable [0, 1] 10 1 (boardWithPot 15) = .ok (players', b') ∧
        ([0, 1].map fun q => min (max 0 ((negativeTable q).myRoundStartCash - (negativeTable q).myCash))
          (max 0 ((negativeTable 0).myRoundStartCash - (negativeTable 0).myCash))).sum < (players' 0).lastMoneyWon) ∧
    (boardWithPot 5).pot = (([0, 1].filter fun r => (inactiveTable r).myActiveStatus).map fun r =>
      max 0 ((inactiveTable r).myRoundStartCash - (inactiveTable r).myCash)).sum ∧
    ∃ players' b', distributePot inactiveTable [0, 1] 10 1 (boardWithPot 5) = .ok (players', b') ∧
      (players' 0).lastMoneyWon < ([0, 1].map fun q =>
        min (max 0 ((inactiveTable q).myRoundStartCash - (inactiveTable q).myCash))
          (max 0 ((inactiveTable 0).myRoundStartCash - (inactiveTable 0).myCash))).sum :=
  ⟨⟨by decide, by decide, _, _, rfl, by decide⟩, by decide, _, _, rfl, by decide⟩

end PokerTH.Board
