import PokerTH.Entitlement

namespace PokerTH.Board

open PokerTH.Lists

variable {players : Players} {seatsList : List Ref} {maxPlayers dealerPosition i : Nat} {p q : Ref} {b : Board}
  {st st' : PotState}

/-- Player `q` has not folded, holds a better hand than player `p`, and has put in at least as much. -/
structure Beaten (seatsList : List Ref) (players : Players) (p q : Ref) : Prop where
  seat : q ∈ seatsList
  contender : contender (players q)
  value : (players p).myCardsValueInt < (players q).myCardsValueInt
  stake : stake (players p) ≤ stake (players q)

theorem not_best (hc : contender (players q)) (hless : (players p).myCardsValueInt < (players q).myCardsValueInt)
    {zs : List Ref} (hq : q ∈ zs) : p ∉ zs.filter fun r =>
      contender (players r) ∧ highestCardsValue players zs = (players r).myCardsValueInt := by
  rw [List.mem_filter, decide_eq_true_eq]
  rintro ⟨-, -, hbest⟩
  have hle := le_foldl_raisedValue hc hq 0
  rw [highestCardsValue_eq] at hbest
  omega

/-- What the beaten player has before each pass of the level loop: nothing won, and no more left than the other. -/
structure LeftBehind (seatsList : List Ref) (players : Players) (p q : Ref) (st : PotState) : Prop where
  gains : ∃ won : Ref → Int, won p = 0 ∧ st.players = fun r => gain (resetMoneyWon players seatsList r) (won r)
  sets : ∃ left : Ref → Nat, left p ≤ left q ∧ st.playerSets = seatsList.map left

theorem resetMoneyWon_fields (r : Ref) :
    contender (resetMoneyWon players seatsList r) = contender (players r) ∧
      (resetMoneyWon players seatsList r).myCardsValueInt = (players r).myCardsValueInt := by
  simp only [resetMoneyWon]
  split_ifs <;> exact ⟨rfl, rfl⟩

theorem LeftBehind.beaten (hb : Beaten seatsList players p q) (h : LeftBehind seatsList players p q st) :
    contender (st.players q) ∧ (st.players p).myCardsValueInt < (st.players q).myCardsValueInt := by
  obtain ⟨won, -, hplayers⟩ := h.gains
  have hq := @resetMoneyWon_fields players seatsList q
  have hp := @resetMoneyWon_fields players seatsList p
  rw [hplayers]
  simp only [gain_myCardsValueInt, hp.2, hq.2]
  exact ⟨hq.1.trans hb.contender, hb.value⟩

/-- Nobody pays the beaten player, not even where nobody who has not folded reaches the level. -/
theorem LeftBehind.pay (hb : Beaten seatsList players p q) (h : LeftBehind seatsList players p q st)
    (hmax : seatsList.length ≤ maxPlayers) (hs : Showdown seatsList dealerPosition st.players) (levelSum : Nat)
    {zs : List Ref} (hzs : zs.Sublist seatsList) (hq : p ∈ zs → q ∈ zs) :
    ∃ players' winners', payWinners seatsList maxPlayers dealerPosition levelSum (bestHands st.players zs) st.players
        st.winners = .ok (players', winners') ∧
      LeftBehind seatsList players p q (payOut levelSum st (players', winners')) := by
  obtain ⟨won, hwon, hplayers⟩ := h.gains
  obtain ⟨hcontender, hless⟩ := h.beaten hb
  have hlive : ∀ r ∈ zs.filter fun r => contender (st.players r) ∧
      highestCardsValue st.players zs = (st.players r).myCardsValueInt, contender (st.players r) := fun r hr => by
    rw [List.mem_filter, decide_eq_true_eq] at hr
    exact hr.2.1
  obtain ⟨d, winners', hpay, hsplit⟩ :=
    payWinners_splits hmax levelSum (List.filter_sublist.trans hzs) hlive st.winners hs.distinct hs.dealer
  refine ⟨_, winners', hpay, ⟨fun r => won r + d r, ?_, ?_⟩, h.sets⟩
  · dsimp only
    rw [hwon, zero_add]
    refine hsplit.outside p fun hbest => ?_
    exact not_best hcontender hless (hq (List.mem_of_mem_filter hbest)) hbest
  · simp only [payOut, hplayers, gain_gain]

theorem LeftBehind.reevaluate (h : LeftBehind seatsList players p q st) (amount : Nat) :
    LeftBehind seatsList players p q (reevaluate amount st) := by
  obtain ⟨left, hle, hsets⟩ := h.sets
  refine ⟨h.gains, fun r => left r - amount, Nat.sub_le_sub_right hle amount, ?_⟩
  rw [reevaluate_playerSets, hsets, List.map_map]
  rfl

theorem levelStep_leftBehind (hb : Beaten seatsList players p q) (h : LeftBehind seatsList players p q st)
    (hmax : seatsList.length ≤ maxPlayers) (hs : Showdown seatsList dealerPosition st.players)
    (hrun : levelStep seatsList maxPlayers dealerPosition st i = .ok st') : LeftBehind seatsList players p q st' := by
  obtain ⟨left, hle, hsets⟩ := h.sets
  simp only [levelStep] at hrun
  split_ifs at hrun with hamount
  · cases hsettle : settleLevel seatsList maxPlayers dealerPosition (st.playerSetsSort.getD i 0)
        (toUnsigned ((st.playerSetsSort.length - i) * st.playerSetsSort.getD i 0 + st.potCarryOver)) st with
    | error e =>
        rw [hsettle] at hrun
        cases hrun
    | ok u =>
        rw [hsettle] at hrun
        cases hrun
        refine LeftBehind.reevaluate ?_ _
        simp only [settleLevel] at hsettle
        split_ifs at hsettle with hnobody hnone hfinal
        · -- the level goes to the best hand of all
          obtain ⟨players', winners', hpay, hleft⟩ := h.pay hb hmax hs
            (toUnsigned ((st.playerSetsSort.length - i) * st.playerSetsSort.getD i 0 + st.potCarryOver))
            (.refl seatsList) fun _ => hb.seat
          rw [hpay] at hsettle
          cases hsettle
          exact hleft
        · have hreaching : reaching seatsList st.playerSets (st.playerSetsSort.getD i 0) =
              seatsList.filter fun r => st.playerSetsSort.getD i 0 ≤ left r := by
            rw [hsets, reaching_map]
          obtain ⟨players', winners', hpay, hleft⟩ := h.pay hb hmax hs
            (toUnsigned ((st.playerSetsSort.length - i) * st.playerSetsSort.getD i 0 + st.potCarryOver))
            (hreaching ▸ List.filter_sublist) fun hp => by
              rw [hreaching, List.mem_filter, decide_eq_true_eq] at hp ⊢
              exact ⟨hb.seat, hp.2.trans hle⟩
          rw [hpay] at hsettle
          cases hsettle
          exact hleft
        · cases hsettle
          exact ⟨h.gains, h.sets⟩
  · cases hrun
    exact h

theorem leftBehind_start (hb : Beaten seatsList players p q) (hp : p ∈ seatsList)
    (hpot : stakes seatsList players < 2 ^ 32) : LeftBehind seatsList players p q (potStart players seatsList b) := by
  refine ⟨⟨fun _ => 0, rfl, ?_⟩, _, ?_, rfl⟩
  · funext r
    rw [gain_zero]
    rfl
  · have hsetp := potStart_set hpot hp
    have hsetq := potStart_set hpot hb.seat
    have hle := hb.stake
    omega

/-- A player with a worse hand than another one who has put in as much wins nothing. -/
theorem levelLoop_beaten (hmax : seatsList.length ≤ maxPlayers) (hs : Showdown seatsList dealerPosition players)
    (hpot : b.pot = stakes seatsList players) (hint : b.pot < 2 ^ 31) (hb : Beaten seatsList players p q)
    (hp : p ∈ seatsList) :
    ∃ st, levelLoop players seatsList maxPlayers dealerPosition b = .ok st ∧ LeftBehind seatsList players p q st := by
  have hstep : ∀ i st, i < seatsList.length →
      LevelInv seatsList (resetMoneyWon players seatsList) b.pot i st ∧ LeftBehind seatsList players p q st →
      ∃ st', levelStep seatsList maxPlayers dealerPosition st i = .ok st' ∧
        LevelInv seatsList (resetMoneyWon players seatsList) b.pot (i + 1) st' ∧
          LeftBehind seatsList players p q st' := by
    rintro i st hi ⟨hinv, hleft⟩
    obtain ⟨st', hrun, hinv'⟩ := levelStep_keeps hmax (by omega) (resetMoneyWon_showdown hs) i st hi hinv
    exact ⟨st', hrun, hinv', levelStep_leftBehind hb hleft hmax (hinv.paid.showdown (resetMoneyWon_showdown hs)) hrun⟩
  obtain ⟨st, hrun, -, hleft⟩ :=
    foldlM_range_invariant ⟨levelInv_start hpot hint, leftBehind_start hb hp (by omega)⟩ hstep
  exact ⟨st, hrun, hleft⟩

theorem distributePot_beaten (hmax : seatsList.length ≤ maxPlayers) (hs : Showdown seatsList dealerPosition players)
    (hpot : b.pot = stakes seatsList players) (hint : b.pot < 2 ^ 31) {players' : Players} {b' : Board}
    (hrun : distributePot players seatsList maxPlayers dealerPosition b = .ok (players', b')) (hp : p ∈ seatsList)
    (hwon : (players' p).lastMoneyWon ≠ 0) :
    contender (players p) ∧ (∀ q, ¬ Beaten seatsList players p q) ∧
      b'.playerNeedToShowCards = b.playerNeedToShowCards := by
  obtain ⟨st, hloop, hzero, won, -, hlive, -, hplayers⟩ := levelLoop_spec hmax hs hpot hint
  simp only [distributePot, hloop, Except.map, repairPot, hzero, lt_irrefl, if_false, Except.ok.injEq,
    Prod.mk.injEq] at hrun
  obtain ⟨rfl, rfl⟩ := hrun
  refine ⟨?_, fun q hb => ?_, rfl⟩
  · have hgain : won p ≠ 0 := by
      rw [hplayers] at hwon
      simpa [gain, resetMoneyWon, hp] using hwon
    exact resetMoneyWon_fields p |>.1 ▸ (hlive p hgain).2
  · obtain ⟨st', hloop', hleft⟩ := levelLoop_beaten hmax hs hpot hint hb hp
    obtain rfl : st = st' := Except.ok.inj (hloop.symm.trans hloop')
    obtain ⟨won', hnone, hplayers'⟩ := hleft.gains
    rw [hplayers'] at hwon
    simp [gain, resetMoneyWon, hp, hnone] at hwon

theorem showLevel_ids (id : Nat) (value set : Int) (ids : List Nat) (levels : List (Int × Int)) :
    (showLevel id value set ids levels).1 =
      if (showLevel id value set ids levels).2.2 then ids ++ [id] else ids := by
  fun_induction showLevel id value set ids levels with
  | case1 => rfl
  | case2 | case4 | case5 | case6 | case7 => rfl
  -- the search goes on behind a level that is lower, or higher with at least as much put in
  | case3 _ _ _ _ ih => exact ih
  | case8 _ _ _ _ _ _ ih => exact ih

theorem showRest_cons {ids : List Nat} {levels : List (Int × Int)} {r : Ref} {l : List Ref}
    (hlive : (players r).myAction ≠ .fold) : ∃ levels', showRest players ids levels (r :: l) =
      showRest players (ids ++ [(players r).myUniqueID]) levels' l := by
  refine ⟨(showLevel (players r).myUniqueID (players r).myCardsValueInt (stakeOf (players r)) ids levels).2.1, ?_⟩
  have hids := showLevel_ids (players r).myUniqueID (players r).myCardsValueInt (stakeOf (players r)) ids levels
  rw [showRest, if_pos (by simpa using hlive)]
  dsimp only
  split_ifs with hadded
  · rw [hids, if_pos hadded]
  · rw [hids, if_neg hadded]

theorem mem_showRest {ids : List Nat} {levels : List (Int × Int)} {l : List Ref} {id : Nat} :
    id ∈ showRest players ids levels l ↔
      id ∈ ids ∨ ∃ r ∈ l, (players r).myAction ≠ .fold ∧ (players r).myUniqueID = id := by
  induction l generalizing ids levels with
  | nil => simp [showRest]
  | cons r l ih =>
      by_cases hfold : (players r).myAction = .fold
      · simp [showRest, hfold, ih]
      · obtain ⟨levels', hstep⟩ := @showRest_cons players ids levels r l hfold
        rw [hstep, ih]
        simp [hfold, or_assoc, @eq_comm _ id]

theorem mem_shown {l : List Ref} {id : Nat} :
    id ∈ (l.filter fun r => (players r).myAction != .fold).map (fun r => (players r).myUniqueID) ↔
      ∃ r ∈ l, (players r).myAction ≠ .fold ∧ (players r).myUniqueID = id := by
  simp [List.mem_map, and_assoc]

theorem mem_sortUnique {l : List Nat} {x : Nat} : x ∈ sortUnique l ↔ x ∈ l := by
  rw [sortUnique, (eraseReps_sorted (sort_sorted l)).2, (sort_perm l).mem_iff]

theorem sortUnique_eq {l m : List Nat} (h : ∀ x, x ∈ l ↔ x ∈ m) : sortUnique l = sortUnique m := by
  have hl := (eraseReps_sorted (sort_sorted l)).1
  have hm := (eraseReps_sorted (sort_sorted m)).1
  have hmem : ∀ x, x ∈ sortUnique l ↔ x ∈ sortUnique m := fun x => by
    rw [mem_sortUnique, mem_sortUnique]
    exact h x
  have hperm := (List.perm_ext_iff_of_nodup (hl.imp ne_of_lt) (hm.imp ne_of_lt)).mpr hmem
  exact hperm.eq_of_pairwise (fun _ _ _ _ hxy hyx => absurd hxy (Nat.lt_asymm hyx)) hl hm

/-- The order of showing decides nothing: whether all are in or not, everybody who has not folded shows. -/
theorem playerNeedToShowCards_eq (players : Players) (l : List Ref) (b : Board) :
    (determinePlayerNeedToShowCards players l b).playerNeedToShowCards =
      sortUnique ((l.filter fun r => (players r).myAction != .fold).map fun r => (players r).myUniqueID) := by
  simp only [determinePlayerNeedToShowCards]
  split_ifs
  · rfl
  · cases hfirst : firstToShow players l b with
    | none =>
        have hnone := List.find?_eq_none.mp (Option.or_eq_none_iff.mp hfirst).2
        have hempty : (l.filter fun r => (players r).myAction != .fold) = [] := List.filter_eq_nil_iff.mpr hnone
        rw [hempty]
        rfl
    | some first =>
        have hmem : first ∈ l ∧ (players first).myAction ≠ .fold := by
          rcases Option.or_eq_some_iff.mp hfirst with hlast | ⟨-, hsome⟩
          · have hfound := List.find?_some hlast
            simp only [Bool.and_eq_true, bne_iff_ne] at hfound
            exact ⟨List.mem_of_find?_eq_some hlast, hfound.2⟩
          · have hfound := List.find?_some hsome
            exact ⟨List.mem_of_find?_eq_some hsome, by simpa using hfound⟩
        refine sortUnique_eq fun id => ?_
        rw [mem_showRest, mem_shown]
        constructor
        · rintro (hid | ⟨r, hr, hlive, hid⟩)
          · exact ⟨first, hmem.1, hmem.2, (List.mem_singleton.mp hid).symm⟩
          · exact ⟨r, (Cyclic.mem_after hmem.1).mp hr, hlive, hid⟩
        · rintro ⟨r, hr, hlive, hid⟩
          exact .inr ⟨r, (Cyclic.mem_after hmem.1).mpr hr, hlive, hid⟩

/-- The list of those who show their cards, with each id once. -/
theorem shown_exactly (players : Players) (l : List Ref) (b : Board) :
    (determinePlayerNeedToShowCards players l b).playerNeedToShowCards.Pairwise (· < ·) ∧
      ∀ id, id ∈ (determinePlayerNeedToShowCards players l b).playerNeedToShowCards ↔
        ∃ r ∈ l, (players r).myAction ≠ .fold ∧ (players r).myUniqueID = id := by
  rw [playerNeedToShowCards_eq]
  refine ⟨(eraseReps_sorted (sort_sorted _)).1, fun id => ?_⟩
  rw [mem_sortUnique, mem_shown]

end PokerTH.Board
