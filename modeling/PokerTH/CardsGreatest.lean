import PokerTH.CardsBounds

namespace PokerTH.CardsValue

variable {a : List Card} {e : Evaluation} {i j value : Nat} {j1 j2 j3 j4 j5 k1 k2 k3 k4 k5 : Nat}
  {c1 c2 c3 c4 c5 d1 d2 d3 d4 d5 : Card}

theorem found_value (js : List Nat) : (found a value js).value = value := rfl

theorem Ranked.lt_of_rank (ha : Ranked a) (hi : i < 7) (hrank : rank a j < rank a i) : i < j := by
  by_contra hle
  have hfall := ha.rank_le (i := j) (j := i) (by omega) hi
  omega

theorem Ranked.five_fall (ha : Ranked a) (hsub : [k1, k2, k3, k4, k5].Sublist (List.range 7)) :
    rank a k2 ≤ rank a k1 ∧ rank a k3 ≤ rank a k2 ∧ rank a k4 ≤ rank a k3 ∧ rank a k5 ≤ rank a k4 := by
  obtain ⟨h12, h23, h34, h45, h5⟩ := rises hsub
  exact ⟨ha.rank_le (by omega) (by omega), ha.rank_le (by omega) (by omega), ha.rank_le (by omega) (by omega),
    ha.rank_le (by omega) (by omega)⟩

theorem sublist_range (h12 : k1 < k2) (h23 : k2 < k3) (h34 : k3 < k4) (h45 : k4 < k5) (h5 : k5 < 7) :
    [k1, k2, k3, k4, k5].Sublist (List.range 7) := by
  refine List.sublist_of_subperm_of_pairwise (r := (· ≤ ·)) (List.subperm_of_subset ?_ fun k hk => ?_) ?_ ?_
  · simp only [List.nodup_cons, List.mem_cons, List.not_mem_nil, or_false, not_or, List.nodup_nil, and_true,
      not_false_eq_true]
    omega
  · simp only [List.mem_cons, List.not_mem_nil, or_false] at hk
    exact List.mem_range.mpr (by omega)
  · simp only [List.pairwise_cons, List.mem_cons, List.not_mem_nil, or_false, forall_eq_or_imp, forall_eq,
      List.Pairwise.nil, and_true, false_imp_iff, implies_true]
    omega
  · exact List.pairwise_lt_range.imp le_of_lt

theorem mem_choices_five (hsub : [k1, k2, k3, k4, k5].Sublist (List.range 7)) :
    [k1, k2, k3, k4, k5] ∈ choices 5 (List.range 7) := choices_of_sublist hsub

/-- Five cards with two ranks at most leave too few cards for five ranks. -/
theorem not_two_ranks {F S : List Card} (ha : a.length = 7) (hnodup : S.Nodup) (hS : S.length = 5) (hsub : S ⊆ a)
    (hF : (F.map Card.rank).Nodup) (hlength : F.length = 5) (hmem : F ⊆ a) {x y : Nat}
    (htwo : ∀ c ∈ S, c.rank = x ∨ c.rank = y) : False := by
  have hinside : S.length ≤ (a.filter fun c => decide (c ∈ S)).length := by
    refine (List.subperm_of_subset hnodup fun c hc => ?_).length_le
    exact List.mem_filter.mpr ⟨hsub hc, decide_eq_true hc⟩
  have hparts := List.length_eq_length_filter_add (l := a) fun c => decide (c ∈ S)
  have hranks : F.map Card.rank ⊆ x :: y :: (a.filter fun c => !decide (c ∈ S)).map Card.rank := by
    intro r hr
    obtain ⟨c, hc, rfl⟩ := List.mem_map.mp hr
    by_cases hcS : c ∈ S
    · rcases htwo c hcS with hx | hy
      · simp [hx]
      · simp [hy]
    · have hrest : c ∈ a.filter fun c => !decide (c ∈ S) := List.mem_filter.mpr ⟨hmem hc, by simpa using hcS⟩
      exact List.mem_cons_of_mem _ (List.mem_cons_of_mem _ (List.mem_map_of_mem hrest))
  have hle := (List.subperm_of_subset hF hranks).length_le
  simp only [List.length_map, List.length_cons] at hle
  omega

def Run (a : List Card) (j1 j2 j3 j4 j5 : Nat) : Prop :=
  rank a j1 = rank a j2 + 1 ∧ rank a j2 = rank a j3 + 1 ∧ rank a j3 = rank a j4 + 1 ∧ rank a j4 = rank a j5 + 1

def HighThree (a : List Card) (j1 j2 j3 j4 j5 : Nat) : Prop :=
  rank a j1 = rank a j2 ∧ rank a j1 = rank a j3 ∧ rank a j4 = rank a j5

def LowThree (a : List Card) (j1 j2 j3 j4 j5 : Nat) : Prop :=
  rank a j3 = rank a j4 ∧ rank a j3 = rank a j5 ∧ rank a j1 = rank a j2

def NotAfter (j1 j2 j3 j4 j5 k1 k2 k3 k4 k5 : Nat) : Prop :=
  j1 < k1 ∨ j1 = k1 ∧ (j2 < k2 ∨ j2 = k2 ∧ (j3 < k3 ∨ j3 = k3 ∧ (j4 < k4 ∨ j4 = k4 ∧ j5 ≤ k5)))

theorem notAfter_of_lt (h : [j1, j2, j3, j4, j5] < [k1, k2, k3, k4, k5]) : NotAfter j1 j2 j3 j4 j5 k1 k2 k3 k4 k5 := by
  simp only [List.cons_lt_cons_iff, List.not_lt_nil, and_false, or_false] at h
  simp only [NotAfter]
  omega

/-- A straight or a full house is found at the first choice with one of them. -/
theorem straightOrFullHouse_first (h : straightOrFullHouse a = some e) : ∃ j1 j2 j3 j4 j5,
    [j1, j2, j3, j4, j5].Sublist (List.range 7) ∧
    (Run a j1 j2 j3 j4 j5 ∧ e.value = 400000000 + rank a j1 * 1000000 ∨
      HighThree a j1 j2 j3 j4 j5 ∧ e.value = 600000000 + rank a j1 * 1000000 + rank a j4 * 10000 ∨
      LowThree a j1 j2 j3 j4 j5 ∧ rank a j3 ≠ rank a j1 ∧
        e.value = 600000000 + rank a j3 * 1000000 + rank a j1 * 10000) ∧
    ∀ k1 k2 k3 k4 k5, [k1, k2, k3, k4, k5].Sublist (List.range 7) →
      Run a k1 k2 k3 k4 k5 ∨ HighThree a k1 k2 k3 k4 k5 ∨ LowThree a k1 k2 k3 k4 k5 →
      NotAfter j1 j2 j3 j4 j5 k1 k2 k3 k4 k5 := by
  obtain ⟨js, hjs, h, hfirst⟩ := findSome_first (choices_sorted List.pairwise_lt_range) h
  obtain ⟨j1, j2, j3, j4, j5, rfl, hsub⟩ := exists_five hjs
  refine ⟨j1, j2, j3, j4, j5, hsub, ?_, fun k1 k2 k3 k4 k5 hk hwhich => ?_⟩
  · dsimp only at h
    by_cases hrun : consecutive ([j1, j2, j3, j4, j5].map (card a)) = true
    · rw [if_pos hrun] at h
      cases h
      exact .inl ⟨consecutive_ranks.mp hrun, rfl⟩
    · rw [if_neg hrun] at h
      by_cases hfull : (rank a j1 = rank a j2 ∧ rank a j1 = rank a j3 ∧ rank a j4 = rank a j5) ∨
          (rank a j3 = rank a j4 ∧ rank a j3 = rank a j5 ∧ rank a j1 = rank a j2)
      · rw [if_pos hfull] at h
        cases h
        by_cases hthree : rank a j3 = rank a j1
        · refine .inr (.inl ⟨?_, by simp only [found_value, if_pos hthree]⟩)
          rcases hfull with hfull | hfull
          · exact hfull
          · exact ⟨hfull.2.2, hthree.symm, hfull.1.symm.trans hfull.2.1⟩
        · rcases hfull with hfull | hfull
          · exact absurd hfull.2.1.symm hthree
          · exact .inr (.inr ⟨hfull, hthree, by simp only [found_value, if_neg hthree]; rw [hfull.1]⟩)
      · rw [if_neg hfull] at h
        cases h
  · have hle := hfirst _ (mem_choices_five hk) (by
      dsimp only
      by_cases hrun : consecutive ([k1, k2, k3, k4, k5].map (card a)) = true
      · rw [if_pos hrun]
        rfl
      · have hfull : (rank a k1 = rank a k2 ∧ rank a k1 = rank a k3 ∧ rank a k4 = rank a k5) ∨
            (rank a k3 = rank a k4 ∧ rank a k3 = rank a k5 ∧ rank a k1 = rank a k2) :=
          hwhich.resolve_left fun hranks => hrun (consecutive_ranks.mpr hranks)
        rw [if_neg hrun, if_pos hfull]
        rfl)
    rcases hle with heq | hlt
    · simp only [List.cons.injEq, and_true] at heq
      simp only [NotAfter]
      omega
    · exact notAfter_of_lt hlt

theorem three_unique (ha : Ranked a) (hfour : NoFour a) (hfull : straightOrFullHouse a = none)
    (hi : rank a i = rank a (i + 2)) (hj : rank a j = rank a (j + 2)) (hi7 : i + 2 < 7) (hij : i < j)
    (hj7 : j + 2 < 7) : False := by
  by_cases hnear : j ≤ i + 2
  · have hbetween := ha.rank_le (i := i) (j := j) (by omega) (by omega)
    have hbetween' := ha.rank_le (i := j) (j := i + 2) (by omega) (by omega)
    exact hfour.apart ha (i := i) (j := j + 2) (by omega) (by omega) (by omega)
  · have hi1 := ha.rank_le (i := i) (j := i + 1) (by omega) (by omega)
    have hi2 := ha.rank_le (i := i + 1) (j := i + 2) (by omega) (by omega)
    have hj1 := ha.rank_le (i := j) (j := j + 1) (by omega) (by omega)
    have hj2 := ha.rank_le (i := j + 1) (j := j + 2) (by omega) (by omega)
    have hsub := @sublist_range i (i + 1) (i + 2) j (j + 1) (by omega) (by omega) (by omega) (by omega) (by omega)
    exact (straightOrFullHouse_none hfull (mem_choices_five hsub)).2.1 ⟨by omega, by omega, by omega⟩

section

variable (ha : Ranked a) (hsub : [k1, k2, k3, k4, k5].Sublist (List.range 7))

include ha hsub

theorem four_greatest (h : fourOfAKind a = some e) :
    fiveValue false (rank a k1) (rank a k2) (rank a k3) (rank a k4) (rank a k5) ≤ e.value := by
  obtain ⟨h12, h23, h34, h45, h5⟩ := rises hsub
  obtain ⟨hf1, hf2, hf3, hf4, hf5, hf6⟩ := ha.falls
  have hfall := ha.five_fall hsub
  have hace := ha.rank_le_twelve (i := k1) (by omega)
  -- every run of four has the middle card
  have hmiddle1 := ha.rank_le (i := k1) (j := 3) (by omega) (by omega)
  have hmiddle2 := ha.rank_le (i := k2) (j := 3) (by omega) (by omega)
  have hmiddle4 := ha.rank_le (i := 3) (j := k4) (by omega) (by omega)
  have hmiddle5 := ha.rank_le (i := 3) (j := k5) (by omega) (by omega)
  have hfirst := ha.rank_le (i := 0) (j := k1) (by omega) (by omega)
  have hlast := ha.rank_le (i := 4) (j := k5) (by omega) (by omega)
  obtain ⟨j, hj, h⟩ := List.exists_of_findSome?_eq_some h
  simp only [List.mem_cons, List.not_mem_nil, or_false] at hj
  have hj3 := ha.rank_le (i := j) (j := 3) (by omega) (by omega)
  have hj3' := ha.rank_le (i := 3) (j := j + 3) (by omega) (by omega)
  split_ifs at h with hfour hzero
  · cases h
    subst hzero
    simp only [Nat.zero_add] at hfour hj3'
    refine le_four hfall hace (fun hq => ?_) (fun hq => ?_) ?_
    all_goals simp only [found_value, Nat.zero_add]
    all_goals omega
  · cases h
    refine le_four hfall hace (fun hq => ?_) (fun hq => ?_) ?_
    all_goals rw [found_value]
    all_goals omega

theorem not_full_of_run (hj : [j1, j2, j3, j4, j5].Sublist (List.range 7)) (hrun : Run a j1 j2 j3 j4 j5)
    (hfull : HighThree a k1 k2 k3 k4 k5 ∨ LowThree a k1 k2 k3 k4 k5) : False := by
  obtain ⟨h12, h23, h34, h45⟩ := hrun
  have hpicks := ha.picks hsub
  have hpicks' := ha.picks hj
  refine not_two_ranks (x := rank a k1) (y := rank a k5) ha.length (ha.nodup.sublist hpicks) rfl hpicks.subset ?_ rfl
    hpicks'.subset ?_
  · change [rank a j1, rank a j2, rank a j3, rank a j4, rank a j5].Nodup
    simp only [List.nodup_cons, List.mem_cons, List.not_mem_nil, or_false, not_or, List.nodup_nil, and_true,
      not_false_eq_true]
    omega
  · intro c hc
    simp only [List.map_cons, List.map_nil, List.mem_cons, List.not_mem_nil, or_false] at hc
    rcases hfull with ⟨h1, h2, h3⟩ | ⟨h1, h2, h3⟩
    · rcases hc with rfl | rfl | rfl | rfl | rfl
      · exact .inl rfl
      · exact .inl h1.symm
      · exact .inl h2.symm
      · exact .inr h3
      · exact .inr rfl
    · rcases hc with rfl | rfl | rfl | rfl | rfl
      · exact .inl rfl
      · exact .inl h3.symm
      · exact .inr h2
      · exact .inr (h1.symm.trans h2)
      · exact .inr rfl

theorem run_greatest (hfour : NoFour a) (hj : [j1, j2, j3, j4, j5].Sublist (List.range 7)) (hrun : Run a j1 j2 j3 j4 j5)
    (hfirst : Run a k1 k2 k3 k4 k5 → j1 ≤ k1) :
    fiveValue false (rank a k1) (rank a k2) (rank a k3) (rank a k4) (rank a k5) ≤ 400000000 + rank a j1 * 1000000 := by
  obtain ⟨h12, h23, h34, h45, h5⟩ := rises hsub
  have hnot := not_full_of_run ha hsub hj hrun
  refine le_straight (ha.five_fall hsub) (ha.rank_le_twelve (by omega)) (hfour.apart ha (by omega) (by omega))
    (hfour.apart ha (by omega) (by omega)) (fun hfull => hnot (.inl ⟨?_, hfull.1, hfull.2⟩))
    (fun hfull => hnot (.inr ⟨?_, hfull.2, hfull.1⟩)) (fun hk => ?_) (fun _ => ?_) (by omega)
  · have hfall := ha.five_fall hsub
    omega
  · have hfall := ha.five_fall hsub
    omega
  · have hle := ha.rank_le (hfirst hk) (show k1 < 7 by omega)
    omega
  · obtain ⟨hr1, hr2, hr3, hr4⟩ := hrun
    omega

/-- The first full house has the greatest three of a kind, and with it the greatest pair. -/
theorem highThree_greatest (hfour : NoFour a) (hj : [j1, j2, j3, j4, j5].Sublist (List.range 7))
    (hthree : HighThree a j1 j2 j3 j4 j5)
    (hfirst : HighThree a k1 k2 k3 k4 k5 ∨ LowThree a k1 k2 k3 k4 k5 → NotAfter j1 j2 j3 j4 j5 k1 k2 k3 k4 k5) :
    fiveValue false (rank a k1) (rank a k2) (rank a k3) (rank a k4) (rank a k5) ≤
      600000000 + rank a j1 * 1000000 + rank a j4 * 10000 := by
  obtain ⟨h12, h23, h34, h45, h5⟩ := rises hsub
  obtain ⟨g12, g23, g34, g45, g5⟩ := rises hj
  obtain ⟨hj2, hj3, hj5⟩ := hthree
  have hfall := ha.five_fall hsub
  have hace := ha.rank_le_twelve (i := k1) (by omega)
  have hlast := ha.rank_le_twelve (i := k5) (by omega)
  have hhigh := hfour.apart ha (i := k1) (j := k4) (by omega) (by omega)
  have hlow := hfour.apart ha (i := k2) (j := k5) (by omega) (by omega)
  refine le_full hfall hace hhigh hlow (fun h13 h45' => ?_) (fun h12' h35 => ?_) (by omega)
  · have hafter := hfirst (.inl ⟨by omega, h13, h45'⟩)
    simp only [NotAfter] at hafter
    have hle := ha.rank_le (i := j1) (j := k1) (by omega) (by omega)
    rcases Nat.eq_or_lt_of_le hle with hsame | hless
    · -- both have the three cards of this rank, and the pair of the first choice comes first
      have hk3 : k3 ≤ j1 + 2 := by
        by_contra hfar
        exact hfour.apart ha (i := j1) (j := k3) (by omega) (by omega) (by omega)
      have hj3' : j3 ≤ j1 + 2 := by
        by_contra hfar
        exact hfour.apart ha (i := j1) (j := j3) (by omega) (by omega) hj3
      have hpair := ha.rank_le (i := j4) (j := k4) (by omega) (by omega)
      omega
    · omega
  · have hafter := hfirst (.inr ⟨by omega, h35, h12'⟩)
    simp only [NotAfter] at hafter
    have hle := ha.rank_le (i := j1) (j := k1) (by omega) (by omega)
    omega

/-- Where the pair comes first, three greater cards of a kind would need an eighth card. -/
theorem lowThree_greatest (hfour : NoFour a) (hj : [j1, j2, j3, j4, j5].Sublist (List.range 7))
    (hthree : LowThree a j1 j2 j3 j4 j5) (hne : rank a j3 ≠ rank a j1)
    (hfirst : HighThree a k1 k2 k3 k4 k5 ∨ LowThree a k1 k2 k3 k4 k5 → NotAfter j1 j2 j3 j4 j5 k1 k2 k3 k4 k5) :
    fiveValue false (rank a k1) (rank a k2) (rank a k3) (rank a k4) (rank a k5) ≤
      600000000 + rank a j3 * 1000000 + rank a j1 * 10000 := by
  obtain ⟨h12, h23, h34, h45, h5⟩ := rises hsub
  obtain ⟨g12, g23, g34, g45, g5⟩ := rises hj
  obtain ⟨hj4, hj5, hj2⟩ := hthree
  have hfall := ha.five_fall hsub
  have hace := ha.rank_le_twelve (i := k1) (by omega)
  have hlast := ha.rank_le_twelve (i := k5) (by omega)
  have hhigh := hfour.apart ha (i := k1) (j := k4) (by omega) (by omega)
  have hlow := hfour.apart ha (i := k2) (j := k5) (by omega) (by omega)
  refine le_full hfall hace hhigh hlow (fun h13 h45' => ?_) (fun h12' h35 => ?_) (by omega)
  · have hafter := hfirst (.inl ⟨by omega, h13, h45'⟩)
    simp only [NotAfter] at hafter
    have hle := ha.rank_le (i := j1) (j := k1) (by omega) (by omega)
    rcases Nat.eq_or_lt_of_le hle with hsame | hless
    · -- the rank of the pair comes three times, and with three of it the choice would come before
      have hk3 : k3 ≤ j1 + 2 := by
        by_contra hfar
        exact hfour.apart ha (i := j1) (j := k3) (by omega) (by omega) (by omega)
      have hsecond : j3 = k3 := by omega
      rw [hsecond] at hne
      omega
    · rcases Nat.lt_or_ge (rank a j3) (rank a k1) with hmore | hmore
      · have hbefore := ha.lt_of_rank (i := j2) (j := k1) (by omega) (by omega)
        have hafter := ha.lt_of_rank (i := k3) (j := j3) (by omega) (by omega)
        omega
      · omega
  · have hafter := hfirst (.inr ⟨by omega, h35, h12'⟩)
    simp only [NotAfter] at hafter
    have hle := ha.rank_le (i := j1) (j := k1) (by omega) (by omega)
    rcases Nat.lt_or_ge (rank a j3) (rank a k3) with hmore | hmore
    · have hafter := ha.lt_of_rank (i := k5) (j := j3) (by omega) (by omega)
      omega
    · omega

theorem straightOrFullHouse_greatest (hfour : NoFour a) (h : straightOrFullHouse a = some e) :
    fiveValue false (rank a k1) (rank a k2) (rank a k3) (rank a k4) (rank a k5) ≤ e.value := by
  obtain ⟨j1, j2, j3, j4, j5, hj, hfound, hfirst⟩ := straightOrFullHouse_first h
  have hfirst := hfirst k1 k2 k3 k4 k5 hsub
  rcases hfound with ⟨hrun, hvalue⟩ | ⟨hthree, hvalue⟩ | ⟨hthree, hne, hvalue⟩
  · rw [hvalue]
    refine run_greatest ha hsub hfour hj hrun fun hk => ?_
    have hafter := hfirst (.inl hk)
    simp only [NotAfter] at hafter
    omega
  · rw [hvalue]
    exact highThree_greatest ha hsub hfour hj hthree fun hfull => hfirst (.inr hfull)
  · rw [hvalue]
    exact lowThree_greatest ha hsub hfour hj hthree hne fun hfull => hfirst (.inr hfull)

variable (hfour : NoFour a) (hfull : straightOrFullHouse a = none)

include hfour hfull

theorem lowStraight_greatest (h : lowStraight a = some e) :
    fiveValue false (rank a k1) (rank a k2) (rank a k3) (rank a k4) (rank a k5) ≤ e.value := by
  obtain ⟨h12, h23, h34, h45, h5⟩ := rises hsub
  have hfall := ha.five_fall hsub
  obtain ⟨hrun, hhigh, hlow⟩ := straightOrFullHouse_none hfull (mem_choices_five hsub)
  obtain ⟨js, hjs, h⟩ := List.exists_of_findSome?_eq_some h
  obtain ⟨j1, j2, j3, j4, j5, rfl, hj⟩ := exists_five hjs
  obtain ⟨g12, g23, g34, g45, g5⟩ := rises hj
  have hace := ha.rank_le_twelve (i := j1) (by omega)
  dsimp only at h
  split_ifs at h with hwheel
  cases h
  obtain ⟨hnine, hranks⟩ := hwheel
  have hranks := consecutive_low.mp hranks
  rw [found_value]
  exact le_straight hfall (ha.rank_le_twelve (by omega)) (hfour.apart ha (by omega) (by omega))
    (hfour.apart ha (by omega) (by omega)) (by omega) (by omega) (by omega) (by omega) (by omega)

end

end PokerTH.CardsValue
