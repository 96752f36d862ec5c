import PokerTH.Payment

namespace PokerTH.Board

open PokerTH.Lists

variable {players players' : Players} {seatsList : List Ref} {maxPlayers dealerPosition : Nat}

def stake (p : Player) : Int := if p.myActiveStatus then max 0 (p.myRoundStartCash - p.myCash) else 0

def stakes (seatsList : List Ref) (players : Players) : Int :=
  (seatsList.map fun r => stake (players r)).sum

structure Showdown (seatsList : List Ref) (dealerPosition : Nat) (players : Players) : Prop where
  distinct : DistinctIDs seatsList players
  dealer : ∃ r ∈ seatsList, (players r).myUniqueID = dealerPosition
  contestant : ∃ r ∈ seatsList, contender (players r) ∧ 0 ≤ (players r).myCardsValueInt

theorem Paid.showdown {a : Int} (h : Paid seatsList a players players')
    (hs : Showdown seatsList dealerPosition players) : Showdown seatsList dealerPosition players' := by
  obtain ⟨won, _, _, _, rfl⟩ := h
  exact ⟨⟨hs.distinct.nodup, hs.distinct.eq_of_id⟩, hs.dealer, hs.contestant⟩

theorem Paid.amount_nonneg {a : Int} (h : Paid seatsList a players players') : 0 ≤ a := by
  obtain ⟨won, hnonneg, _, rfl, _⟩ := h
  exact sum_map_nonneg fun r _ => hnonneg r

theorem stake_nonneg (p : Player) : 0 ≤ stake p := by
  simp only [stake]
  split_ifs
  · exact le_max_left _ _
  · exact le_refl 0

def raisedValue (players : Players) (hi : Int) (r : Ref) : Int :=
  if contender (players r) ∧ (players r).myCardsValueInt > hi then (players r).myCardsValueInt else hi

theorem foldl_raisedValue_le (zs : List Ref) (hi : Int) : hi ≤ zs.foldl (raisedValue players) hi := by
  induction zs generalizing hi with
  | nil => exact le_refl hi
  | cons r zs ih =>
      refine le_trans ?_ (ih _)
      simp only [raisedValue]
      split_ifs <;> omega

theorem le_foldl_raisedValue {r : Ref} (hc : contender (players r)) {zs : List Ref} (hr : r ∈ zs)
    (hi : Int) : (players r).myCardsValueInt ≤ zs.foldl (raisedValue players) hi := by
  induction zs generalizing hi with
  | nil => simp at hr
  | cons s zs ih =>
      rcases List.mem_cons.mp hr with rfl | hr
      · refine le_trans ?_ (foldl_raisedValue_le zs _)
        simp only [raisedValue, hc, true_and]
        split_ifs <;> omega
      · exact ih hr _

theorem foldl_raisedValue_attained (zs : List Ref) (hi : Int) :
    zs.foldl (raisedValue players) hi = hi ∨
      ∃ r ∈ zs, contender (players r) ∧ (players r).myCardsValueInt = zs.foldl (raisedValue players) hi := by
  induction zs generalizing hi with
  | nil => exact .inl rfl
  | cons s zs ih =>
      rcases ih (raisedValue players hi s) with h | ⟨r, hr, hc, hv⟩
      · by_cases hs : contender (players s) ∧ (players s).myCardsValueInt > hi
        · refine .inr ⟨s, by simp, hs.1, ?_⟩
          rw [List.foldl_cons, h, raisedValue, if_pos hs]
        · left
          rw [List.foldl_cons, h, raisedValue, if_neg hs]
      · exact .inr ⟨r, by simp [hr], hc, hv⟩

theorem highestCardsValue_eq (zs : List Ref) :
    highestCardsValue players zs = zs.foldl (raisedValue players) 0 := rfl

theorem bestHands_winnerID {zs : List Ref} (hzs : zs ⊆ seatsList) {id : Nat}
    (hid : id ∈ bestHands players zs) : WinnerID seatsList players id := by
  obtain ⟨r, hr, rfl⟩ := List.mem_map.mp hid
  rw [List.mem_filter, decide_eq_true_eq] at hr
  exact ⟨r, hzs hr.1, hr.2.1, rfl⟩

theorem bestHands_ne_nil (hs : ∃ r ∈ seatsList, contender (players r) ∧ 0 ≤ (players r).myCardsValueInt) :
    bestHands players seatsList ≠ [] := by
  have hbest : ∃ r ∈ seatsList, contender (players r) ∧
      highestCardsValue players seatsList = (players r).myCardsValueInt := by
    obtain ⟨r, hr, hc, hv⟩ := hs
    rw [highestCardsValue_eq]
    rcases @foldl_raisedValue_attained players seatsList 0 with h | ⟨s, hs, hsc, hsv⟩
    · have hle := le_foldl_raisedValue hc hr 0
      exact ⟨r, hr, hc, by omega⟩
    · exact ⟨s, hs, hsc, hsv.symm⟩
  obtain ⟨r, hr, hc, hv⟩ := hbest
  apply List.ne_nil_of_mem (a := (players r).myUniqueID)
  exact List.mem_map.mpr ⟨r, by simp [hr, hc, hv], rfl⟩

theorem mem_reaching {playerSets : List Nat} {amount : Nat} {r : Ref} :
    r ∈ reaching seatsList playerSets amount ↔ ∃ s, (r, s) ∈ seatsList.zip playerSets ∧ amount ≤ s := by
  simp [reaching]

theorem reaching_subset (playerSets : List Nat) (amount : Nat) :
    reaching seatsList playerSets amount ⊆ seatsList := by
  intro r hr
  obtain ⟨s, hs, _⟩ := mem_reaching.mp hr
  exact (List.of_mem_zip hs).1

/-- A level that is carried over leaves one of its winners with chips in a later level. -/
theorem carried_of_not_finalPot {playerSets : List Nat} {amount : Nat}
    (hne : bestHands players (reaching seatsList playerSets amount) ≠ [])
    (hfinal : ¬ finalPot players seatsList playerSets amount
      (bestHands players (reaching seatsList playerSets amount))) :
    ∃ s ∈ playerSets, amount < s := by
  obtain ⟨id, hid⟩ := List.exists_mem_of_ne_nil _ hne
  obtain ⟨r, hr, rfl⟩ := List.mem_map.mp hid
  obtain ⟨s, hzip, hs⟩ := mem_reaching.mp (List.mem_filter.mp hr).1
  refine ⟨s, (List.of_mem_zip hzip).2, lt_of_le_of_ne hs ?_⟩
  intro heq
  apply hfinal
  simp only [finalPot, List.any_eq_true]
  exact ⟨_, hid, (r, s), hzip, by simp [heq]⟩

inductive Settled (seatsList : List Ref) (amount levelSum : Nat) (st st' : PotState) : Prop
  | paid (hpaid : Paid seatsList levelSum st.players st'.players)
      (hpot : st'.pot = st.pot - levelSum) (hcarry : st'.potCarryOver = 0)
  | carried (hplayers : st'.players = st.players) (hpot : st'.pot = st.pot)
      (hcarry : st'.potCarryOver = levelSum) (hopen : ∃ s ∈ st.playerSets, amount < s)

theorem settleLevel_spec (hmax : seatsList.length ≤ maxPlayers) (amount levelSum : Nat) (st : PotState)
    (hs : Showdown seatsList dealerPosition st.players) :
    ∃ st', settleLevel seatsList maxPlayers dealerPosition amount levelSum st = .ok st' ∧
      st'.playerSets = st.playerSets ∧ Settled seatsList amount levelSum st st' := by
  by_cases hne : bestHands st.players (reaching seatsList st.playerSets amount) = []
  · have hfb := bestHands_ne_nil hs.contestant
    obtain ⟨players', winners', hrun, hpaid⟩ := payWinners_spec hmax levelSum hfb st.winners hs.distinct
      (fun id hid => bestHands_winnerID (List.Subset.refl _) hid) hs.dealer
    refine ⟨payOut levelSum st (players', winners'), ?_, rfl, .paid hpaid rfl rfl⟩
    simp only [settleLevel, hne, if_pos, hfb, if_false, hrun]
    rfl
  · by_cases hfinal : finalPot st.players seatsList st.playerSets amount
        (bestHands st.players (reaching seatsList st.playerSets amount))
    · obtain ⟨players', winners', hrun, hpaid⟩ := payWinners_spec hmax levelSum hne st.winners hs.distinct
        (fun id hid => bestHands_winnerID (reaching_subset _ _) hid) hs.dealer
      refine ⟨payOut levelSum st (players', winners'), ?_, rfl, .paid hpaid rfl rfl⟩
      simp only [settleLevel, hne, if_false, hfinal, if_true, hrun]
      rfl
    · refine ⟨{ st with potCarryOver := levelSum }, ?_, rfl,
        .carried rfl rfl rfl (carried_of_not_finalPot hne hfinal)⟩
      simp [settleLevel, hne, hfinal]

/-- What holds before pass `i` of the level loop that started from `players` and `pot`. -/
structure LevelInv (seatsList : List Ref) (players : Players) (pot : Int) (i : Nat) (st : PotState) :
    Prop where
  length : st.playerSets.length = seatsList.length
  sorted : st.playerSetsSort = Lists.sort st.playerSets
  exhausted : ∀ x ∈ st.playerSetsSort.take i, x = 0
  balance : st.pot = st.playerSets.sum + st.potCarryOver
  carry : (∀ x ∈ st.playerSets, x = 0) → st.potCarryOver = 0
  paid : Paid seatsList (pot - st.pot) players st.players

theorem reevaluate_playerSets (amount : Nat) (st : PotState) :
    (reevaluate amount st).playerSets = st.playerSets.map (· - amount) := by
  simp only [reevaluate]
  apply List.map_congr_left
  intro s _
  split_ifs <;> omega

theorem reevaluate_playerSetsSort (amount : Nat) (st : PotState) :
    (reevaluate amount st).playerSetsSort = (Lists.sort st.playerSets).map (· - amount) := by
  have hsort : (reevaluate amount st).playerSetsSort = Lists.sort (reevaluate amount st).playerSets := rfl
  rw [hsort, reevaluate_playerSets, sort_map (fun a b hab => Nat.sub_le_sub_right hab amount)]

/-- Each of the `n - i` seats that are not exhausted puts the level's amount into the level. -/
theorem LevelInv.levelSum {pot : Int} {i : Nat} {st : PotState} (h : LevelInv seatsList players pot i st) :
    (st.playerSets.map (· - st.playerSetsSort.getD i 0)).sum +
      (st.playerSetsSort.length - i) * st.playerSetsSort.getD i 0 = st.playerSets.sum := by
  have hperm := sort_perm st.playerSets
  rw [← h.sorted] at hperm
  have hsorted : st.playerSetsSort.Pairwise (· ≤ ·) := h.sorted ▸ sort_sorted st.playerSets
  rw [← sum_min_of_sorted hsorted h.exhausted, (hperm.map _).sum_eq]
  exact sum_sub_min _ _

theorem LevelInv.toUnsigned_levelSum {pot : Int} (hpot : pot < 2 ^ 32) {i : Nat} {st : PotState}
    (h : LevelInv seatsList players pot i st) :
    toUnsigned ((st.playerSetsSort.length - i) * st.playerSetsSort.getD i 0 + st.potCarryOver) =
      (st.playerSetsSort.length - i) * st.playerSetsSort.getD i 0 + st.potCarryOver := by
  apply Nat.mod_eq_of_lt
  have hsum := h.levelSum
  have hpaid := h.paid.amount_nonneg
  have hbalance := h.balance
  omega

theorem exhausted_succ {l : List Nat} {i : Nat} (hi : i < l.length) (h : ∀ x ∈ l.take i, x = 0) :
    ∀ x ∈ (l.map (· - l.getD i 0)).take (i + 1), x = 0 := by
  intro x hx
  rw [← List.map_take, List.take_add_one, List.getElem?_eq_getElem hi] at hx
  obtain ⟨y, hy, rfl⟩ := List.mem_map.mp hx
  rcases List.mem_append.mp hy with hy | hy
  · simp [h y hy]
  · have hyi : y = l.getD i 0 := by simpa [hi] using hy
    simp [hyi]

theorem levelStep_keeps (hmax : seatsList.length ≤ maxPlayers) {pot : Int} (hpot : pot < 2 ^ 32)
    (hs : Showdown seatsList dealerPosition players) (i : Nat) (st : PotState)
    (hi : i < seatsList.length) (h : LevelInv seatsList players pot i st) :
    ∃ st', levelStep seatsList maxPlayers dealerPosition st i = .ok st' ∧
      LevelInv seatsList players pot (i + 1) st' := by
  have hlen : i < st.playerSetsSort.length := by
    rw [h.sorted, sort_length, h.length]
    exact hi
  have hnext := exhausted_succ hlen h.exhausted
  by_cases hamount : st.playerSetsSort.getD i 0 > 0
  · have hsum := h.levelSum
    obtain ⟨st', hrun, hsets, hsettled⟩ := settleLevel_spec hmax (st.playerSetsSort.getD i 0)
      (toUnsigned ((st.playerSetsSort.length - i) * st.playerSetsSort.getD i 0 + st.potCarryOver))
      st (h.paid.showdown hs)
    rw [h.toUnsigned_levelSum hpot] at hsettled
    refine ⟨reevaluate (st.playerSetsSort.getD i 0) st', by simp only [levelStep, if_pos hamount, hrun, Except.map], ?_⟩
    have hsets' := reevaluate_playerSets (st.playerSetsSort.getD i 0) st'
    have hsort' := reevaluate_playerSetsSort (st.playerSetsSort.getD i 0) st'
    rw [hsets] at hsets' hsort'
    have hb := h.balance
    refine ⟨by rw [hsets', List.length_map, h.length], rfl, ?_, ?_, ?_, ?_⟩
    · rw [hsort', ← h.sorted]
      exact hnext
    · rw [hsets']
      cases hsettled with
      | paid hpaid hp hc =>
          change st'.pot = _ + (st'.potCarryOver : Int)
          rw [hp, hc]
          omega
      | carried hplayers hp hc hopen =>
          change st'.pot = _ + (st'.potCarryOver : Int)
          rw [hp, hc]
          omega
    · intro hz
      cases hsettled with
      | paid hpaid hp hc => exact hc
      | carried hplayers hp hc hopen =>
          obtain ⟨s, hs, hlt⟩ := hopen
          have hs0 := hz (s - st.playerSetsSort.getD i 0) (by rw [hsets']; exact List.mem_map.mpr ⟨s, hs, rfl⟩)
          omega
    · cases hsettled with
      | paid hpaid hp hc =>
          have htotal := h.paid.trans hpaid
          change Paid seatsList (pot - st'.pot) players st'.players
          rw [hp]
          convert htotal using 1
          omega
      | carried hplayers hp hc hopen =>
          change Paid seatsList (pot - st'.pot) players st'.players
          rw [hp, hplayers]
          exact h.paid
  · refine ⟨st, by simp only [levelStep, if_neg hamount], ?_⟩
    refine ⟨h.length, h.sorted, ?_, h.balance, h.carry, h.paid⟩
    have hzero : st.playerSetsSort.getD i 0 = 0 := by omega
    rw [hzero] at hnext
    simpa only [Nat.sub_zero, List.map_id'] using hnext

theorem resetMoneyWon_showdown (hs : Showdown seatsList dealerPosition players) :
    Showdown seatsList dealerPosition (resetMoneyWon players seatsList) := by
  have hfield (r : Ref) : (resetMoneyWon players seatsList r).myUniqueID = (players r).myUniqueID ∧
      (resetMoneyWon players seatsList r).myActiveStatus = (players r).myActiveStatus ∧
      contender (resetMoneyWon players seatsList r) = contender (players r) ∧
      (resetMoneyWon players seatsList r).myCardsValueInt = (players r).myCardsValueInt := by
    simp only [resetMoneyWon]
    split_ifs <;> exact ⟨rfl, rfl, rfl, rfl⟩
  refine ⟨?_, ?_, ?_⟩
  · exact ⟨hs.distinct.nodup, by simpa only [hfield] using hs.distinct.eq_of_id⟩
  · simpa only [hfield] using hs.dealer
  · simpa only [hfield] using hs.contestant

theorem le_sum_of_mem {l : List Ref} {f : Ref → Int} (hf : ∀ r, 0 ≤ f r) {r : Ref} (hr : r ∈ l) :
    f r ≤ (l.map f).sum :=
  List.single_le_sum (fun x hx => by obtain ⟨q, _, rfl⟩ := List.mem_map.mp hx; exact hf q) _
    (List.mem_map_of_mem hr)

theorem potStart_set (hpot : stakes seatsList players < 2 ^ 32) {r : Ref} (hr : r ∈ seatsList) :
    ((if (players r).myActiveStatus then toUnsigned (contribution (players r)) else 0 : Nat) : Int) =
      stake (players r) := by
  have hle := le_sum_of_mem (fun r => stake_nonneg (players r)) hr
  have hlt : stake (players r) < 2 ^ 32 := lt_of_le_of_lt hle hpot
  simp only [stake] at hlt ⊢
  split_ifs at hlt ⊢
  · have hsmall : contribution (players r) < 2 ^ 32 := by
      simp only [contribution]
      omega
    rw [toUnsigned, Nat.mod_eq_of_lt hsmall, contribution]
    omega
  · rfl

theorem potStart_playerSets {b : Board} (hpot : stakes seatsList players < 2 ^ 32) :
    ((potStart players seatsList b).playerSets.sum : Int) = stakes seatsList players := by
  simp only [potStart, stakes, cast_sum_map]
  exact sum_map_congr fun _ hr => potStart_set hpot hr

theorem levelInv_start {b : Board} (hpot : b.pot = stakes seatsList players) (hint : b.pot < 2 ^ 31) :
    LevelInv seatsList (resetMoneyWon players seatsList) b.pot 0 (potStart players seatsList b) := by
  have hsets := @potStart_playerSets players seatsList b (by omega)
  refine ⟨by simp [potStart], rfl, by simp, ?_, fun _ => rfl, ?_⟩
  · change b.pot = _ + ((0 : Nat) : Int)
    rw [hsets]
    omega
  · have hz : b.pot - (potStart players seatsList b).pot = 0 := sub_self b.pot
    rw [hz]
    exact paid_refl _ _

theorem LevelInv.playerSets_zero {pot : Int} {st : PotState}
    (h : LevelInv seatsList players pot seatsList.length st) : ∀ x ∈ st.playerSets, x = 0 := by
  intro x hx
  apply h.exhausted
  have hlen : st.playerSetsSort.length = seatsList.length := by
    rw [h.sorted, sort_length, h.length]
  rw [← hlen, List.take_length, h.sorted]
  exact (sort_perm _).mem_iff.mpr hx

theorem levelLoop_spec (hmax : seatsList.length ≤ maxPlayers) {b : Board}
    (hs : Showdown seatsList dealerPosition players) (hpot : b.pot = stakes seatsList players)
    (hint : b.pot < 2 ^ 31) :
    ∃ st, levelLoop players seatsList maxPlayers dealerPosition b = .ok st ∧ st.pot = 0 ∧
      Paid seatsList b.pot (resetMoneyWon players seatsList) st.players := by
  obtain ⟨st, hrun, hinv⟩ := foldlM_range_invariant (levelInv_start hpot hint)
    (levelStep_keeps hmax (by omega) (resetMoneyWon_showdown hs))
  have hzero := hinv.playerSets_zero
  have hpot0 : st.pot = 0 := by
    rw [hinv.balance, hinv.carry hzero, List.sum_eq_zero hzero]
    rfl
  refine ⟨st, hrun, hpot0, ?_⟩
  simpa only [hpot0, sub_zero] using hinv.paid

theorem distributePot_spec (hmax : seatsList.length ≤ maxPlayers) {b : Board}
    (hs : Showdown seatsList dealerPosition players) (hpot : b.pot = stakes seatsList players)
    (hint : b.pot < 2 ^ 31) :
    ∃ players' winners', distributePot players seatsList maxPlayers dealerPosition b =
        .ok (players', { b with pot := 0, winners := winners' }) ∧
      Paid seatsList b.pot (resetMoneyWon players seatsList) players' := by
  obtain ⟨st, hrun, hpot0, hpaid⟩ := levelLoop_spec hmax hs hpot hint
  refine ⟨st.players, sortUnique st.winners, ?_, hpaid⟩
  simp [distributePot, hrun, Except.map, repairPot, hpot0]

theorem Paid.sum_myCash {a : Int} (h : Paid seatsList a players players') :
    (seatsList.map fun r => (players' r).myCash).sum =
      (seatsList.map fun r => (players r).myCash).sum + a := by
  obtain ⟨won, _, _, rfl, rfl⟩ := h
  exact sum_map_add seatsList _ won

/-- Chip conservation of the pot distribution. -/
theorem distributePot_conserves (maxPlayers dealerPosition : Nat) (seatsList : List Ref)
    (players : Players) (b : Board) (hmax : seatsList.length ≤ maxPlayers)
    (hids : (seatsList.map fun r => (players r).myUniqueID).Nodup)
    (hdealer : dealerPosition ∈ seatsList.map fun r => (players r).myUniqueID)
    (hcontestant : ∃ r ∈ seatsList, (players r).myActiveStatus = true ∧
      (players r).myAction ≠ .fold ∧ 0 ≤ (players r).myCardsValueInt)
    (hpot : b.pot = ((seatsList.filter fun r => (players r).myActiveStatus).map fun r =>
      max 0 ((players r).myRoundStartCash - (players r).myCash)).sum)
    (hint : b.pot < 2 ^ 31) :
    (∃ st, levelLoop players seatsList maxPlayers dealerPosition b = .ok st ∧ st.pot = 0) ∧
    ∃ players' b', distributePot players seatsList maxPlayers dealerPosition b = .ok (players', b') ∧
      b'.pot = 0 ∧
      (seatsList.map fun r => (players' r).myCash).sum =
        (seatsList.map fun r => (players r).myCash).sum + b.pot ∧
      ∀ r ∈ seatsList, (players' r).myCash = (players r).myCash + (players' r).lastMoneyWon := by
  have hcontender : ∃ r ∈ seatsList, contender (players r) ∧ 0 ≤ (players r).myCardsValueInt := by
    obtain ⟨r, hr, hactive, hfold, hv⟩ := hcontestant
    exact ⟨r, hr, by simp [contender, hactive, hfold], hv⟩
  have hs : Showdown seatsList dealerPosition players :=
    ⟨distinctIDs_of_nodup hids, by simpa [List.mem_map] using hdealer, hcontender⟩
  have hstakes : b.pot = stakes seatsList players := by
    rw [hpot, sum_map_filter]
    rfl
  obtain ⟨st, hrun, hpot0, _⟩ := levelLoop_spec hmax hs hstakes hint
  obtain ⟨players', winners', hdist, hpaid⟩ := distributePot_spec hmax hs hstakes hint
  have hcash : (seatsList.map fun r => (resetMoneyWon players seatsList r).myCash).sum =
      (seatsList.map fun r => (players r).myCash).sum := by
    apply sum_map_congr
    intro r hr
    simp [resetMoneyWon, hr]
  refine ⟨⟨st, hrun, hpot0⟩, players', _, hdist, rfl, ?_, ?_⟩
  · rw [hpaid.sum_myCash, hcash]
  · obtain ⟨won, _, _, _, rfl⟩ := hpaid
    intro r hr
    simp [gain, resetMoneyWon, hr]

/-- Seat 0 folded after 5 chips, seats 1 and 2 are tied for 3 chips each. -/
def tiedTable : Players
  | 0 => { Player.create 1 .human "" 15 true with myRoundStartCash := 20, myAction := .fold }
  | r => { Player.create (r + 1) .human "" 0 true with
      myRoundStartCash := 3
      myAction := .allIn
      myCardsValueInt := 200000000 }

def boardWithPot (pot : Int) : Board := ⟨pot, 0, false, 0, [], []⟩

theorem distributePot_conserves_tied :
    ∃ players' b', distributePot tiedTable [0, 1, 2] 10 2 (boardWithPot 11) = .ok (players', b') ∧
      b'.pot = 0 ∧ ([0, 1, 2].map fun r => (players' r).myCash).sum = 26 := by
  obtain ⟨_, players', b', hrun, hpot, hsum, _⟩ := distributePot_conserves 10 2 [0, 1, 2] tiedTable
    (boardWithPot 11) (by decide) (by decide) (by decide)
    ⟨1, by decide, by decide, by decide, by decide⟩ (by decide) (by decide)
  exact ⟨players', b', hrun, hpot, hsum.trans (by decide)⟩

/-- One player all in whose hand has been given a value below zero. -/
def worthlessTable : Players := fun r =>
  { Player.create (r + 1) .human "" 0 true with
    myRoundStartCash := 3
    myAction := .allIn
    myCardsValueInt := -1 }

/-- Nobody wins with a negative value, not even the last player who has not folded. -/
theorem distributePot_negative_value :
    ([0].map fun r => (worthlessTable r).myUniqueID).Nodup ∧
    1 ∈ ([0].map fun r => (worthlessTable r).myUniqueID) ∧
    (∃ r ∈ [0], (worthlessTable r).myActiveStatus = true ∧ (worthlessTable r).myAction ≠ .fold) ∧
    (boardWithPot 3).pot = (([0].filter fun r => (worthlessTable r).myActiveStatus).map fun r =>
      max 0 ((worthlessTable r).myRoundStartCash - (worthlessTable r).myCash)).sum ∧
    distributePot worthlessTable [0] 10 1 (boardWithPot 3) = .error .noWinner :=
  ⟨by decide, by decide, ⟨0, by decide, by decide, by decide⟩, by decide, rfl⟩

end PokerTH.Board
