import PokerTH.CardsGreatest

namespace PokerTH.CardsValue

variable {a : List Card} {e : Evaluation} {i j p q : Nat} {k1 k2 k3 k4 k5 : Nat}

/-- The array has no four of a kind, no full house and no straight. -/
structure NoFive (a : List Card) : Prop where
  four : NoFour a
  full : straightOrFullHouse a = none
  wheel : lowStraight a = none

theorem threeOfAKind_some (h : threeOfAKind a = some e) : ∃ j, j < 5 ∧ rank a j = rank a (j + 2) ∧
    (j = 0 ∧ e.value = 300000000 + rank a j * 1000000 + rank a 3 * 10000 + rank a 4 * 100 ∨
      j = 1 ∧ e.value = 300000000 + rank a j * 1000000 + rank a 0 * 10000 + rank a 4 * 100 ∨
      2 ≤ j ∧ e.value = 300000000 + rank a j * 1000000 + rank a 0 * 10000 + rank a 1 * 100) := by
  obtain ⟨j, hj, h⟩ := List.exists_of_findSome?_eq_some h
  simp only [List.mem_cons, List.not_mem_nil, or_false] at hj
  split_ifs at h with hthree hzero hone
  · cases h
    subst hzero
    exact ⟨0, by omega, hthree.2, .inl ⟨rfl, rfl⟩⟩
  · cases h
    subst hone
    exact ⟨1, by omega, hthree.2, .inr (.inl ⟨rfl, rfl⟩)⟩
  · cases h
    exact ⟨j, by omega, hthree.2, .inr (.inr ⟨by omega, rfl⟩)⟩

theorem twoPairs_some (h : twoPairs a = some e) : ∃ j i, j + 2 ≤ i ∧ i < 6 ∧ rank a j = rank a (j + 1) ∧
    rank a i = rank a (i + 1) ∧
    (j = 0 ∧ i = 2 ∧ e.value = 200000000 + rank a j * 1000000 + rank a i * 10000 + rank a 4 * 100 ∨
      j = 0 ∧ 3 ≤ i ∧ e.value = 200000000 + rank a j * 1000000 + rank a i * 10000 + rank a 2 * 100 ∨
      1 ≤ j ∧ e.value = 200000000 + rank a j * 1000000 + rank a i * 10000 + rank a 0 * 100) ∧
    ∀ p q, p + 2 ≤ q → q < 6 → rank a p = rank a (p + 1) → rank a q = rank a (q + 1) → j < p ∨ j = p ∧ i ≤ q := by
  obtain ⟨j, hj, h, hfirst⟩ := findSome_first (show [0, 1, 2, 3].Pairwise (· < ·) by decide) h
  obtain ⟨i, hi, h, hfirst'⟩ := findSome_first List.pairwise_lt_range' h
  simp only [List.mem_cons, List.not_mem_nil, or_false] at hj
  have hi := List.mem_range'_1.mp hi
  by_cases hboth : rank a j = rank a (j + 1) ∧ rank a i = rank a (i + 1)
  · rw [if_pos hboth] at h
    cases h
    refine ⟨j, i, by omega, by omega, hboth.1, hboth.2, ?_, fun p q hpq hq hp hq' => ?_⟩
    · rw [found_value]
      by_cases hzero : j = 0
      · subst hzero
        by_cases htwo : i = 2
        · subst htwo
          exact .inl ⟨rfl, rfl, rfl⟩
        · exact .inr (.inl ⟨rfl, by omega, by rw [if_pos rfl, if_neg htwo]⟩)
      · exact .inr (.inr ⟨by omega, by rw [if_neg hzero]⟩)
    · have hinner (m : Nat) (hm : m = p) : ((if rank a m = rank a (m + 1) ∧ rank a q = rank a (q + 1) then
          let kicker := if m = 0 then if q = 2 then q + 2 else m + 2 else 0
          some (found a (200000000 + rank a m * 1000000 + rank a q * 10000 + rank a kicker * 100)
            [m, m + 1, q, q + 1, kicker])
          else none : Option Evaluation)).isSome = true := by
        subst hm
        rw [if_pos ⟨hp, hq'⟩]
        rfl
      have hmem : p ∈ [0, 1, 2, 3] := by
        simp only [List.mem_cons, List.not_mem_nil, or_false]
        omega
      have hrange : q ∈ List.range' (p + 2) (6 - (p + 2)) := List.mem_range'_1.mpr (by omega)
      have hle := hfirst p hmem (List.findSome?_isSome_iff.mpr ⟨q, hrange, hinner p rfl⟩)
      rcases hle with rfl | hlt
      · refine .inr ⟨rfl, ?_⟩
        rcases hfirst' q hrange (hinner j rfl) with rfl | hlt
        · exact le_refl _
        · exact hlt.le
      · exact .inl hlt
  · rw [if_neg hboth] at h
    cases h

theorem pair_some (h : pair a = some e) : ∃ j, j < 6 ∧ rank a j = rank a (j + 1) ∧
    (j = 0 ∧ e.value = 100000000 + rank a j * 1000000 + rank a 2 * 10000 + rank a 3 * 100 + rank a 4 ∨
      j = 1 ∧ e.value = 100000000 + rank a j * 1000000 + rank a 0 * 10000 + rank a 3 * 100 + rank a 4 ∨
      j = 2 ∧ e.value = 100000000 + rank a j * 1000000 + rank a 0 * 10000 + rank a 1 * 100 + rank a 4 ∨
      3 ≤ j ∧ e.value = 100000000 + rank a j * 1000000 + rank a 0 * 10000 + rank a 1 * 100 + rank a 2) := by
  obtain ⟨j, hj, h⟩ := List.exists_of_findSome?_eq_some h
  simp only [List.mem_cons, List.not_mem_nil, or_false] at hj
  split_ifs at h with hsame hzero hone htwo
  · cases h
    subst hzero
    exact ⟨0, by omega, hsame, .inl ⟨rfl, rfl⟩⟩
  · cases h
    subst hone
    exact ⟨1, by omega, hsame, .inr (.inl ⟨rfl, rfl⟩)⟩
  · cases h
    subst htwo
    exact ⟨2, by omega, hsame, .inr (.inr (.inl ⟨rfl, rfl⟩))⟩
  · cases h
    exact ⟨j, by omega, hsame, .inr (.inr (.inr ⟨by omega, rfl⟩))⟩

theorem next_of_same (ha : Ranked a) (hthree : NoThree a) (hij : i < j) (hj : j < 7) (hsame : rank a i = rank a j) :
    j = i + 1 := by
  by_contra hfar
  have hfirst := ha.rank_le (i := i) (j := i + 2) (by omega) (by omega)
  have hlast := ha.rank_le (i := i + 2) (j := j) (by omega) hj
  obtain ⟨h0, h1, h2, h3, h4⟩ := hthree
  have hcases : i = 0 ∨ i = 1 ∨ i = 2 ∨ i = 3 ∨ i = 4 := by omega
  rcases hcases with rfl | rfl | rfl | rfl | rfl
  all_goals simp only [Nat.reduceAdd] at hfirst hlast
  · exact h0 (by omega)
  · exact h1 (by omega)
  · exact h2 (by omega)
  · exact h3 (by omega)
  · exact h4 (by omega)

section

variable (ha : Ranked a) (hnone : NoFive a) (hsub : [k1, k2, k3, k4, k5].Sublist (List.range 7))

include ha hnone hsub

theorem three_greatest (h : threeOfAKind a = some e) :
    fiveValue false (rank a k1) (rank a k2) (rank a k3) (rank a k4) (rank a k5) ≤ e.value := by
  obtain ⟨h12, h23, h34, h45, h5⟩ := rises hsub
  have hfall := ha.five_fall hsub
  have hace := ha.rank_le_twelve (i := k1) (by omega)
  have hchoice := mem_choices_five hsub
  obtain ⟨hrun, hhigh, hlow⟩ := straightOrFullHouse_none hnone.full hchoice
  have hwheel := lowStraight_none hnone.wheel hchoice
  obtain ⟨j, hj, hthree, hvalue⟩ := threeOfAKind_some h
  have hunique : ∀ x y, x + 2 ≤ y → y < 7 → rank a x = rank a y → x = j ∧ y = j + 2 := by
    intro x y hxy hy hsame
    have hend : y = x + 2 := by
      by_contra hfar
      exact hnone.four.apart ha (by omega) hy hsame
    subst hend
    rcases Nat.lt_trichotomy x j with hlt | rfl | hlt
    · exact (three_unique ha hnone.four hnone.full hsame hthree (by omega) hlt (by omega)).elim
    · exact ⟨rfl, rfl⟩
    · exact (three_unique ha hnone.four hnone.full hthree hsame (by omega) hlt (by omega)).elim
  have h0 : ∀ x, x < 7 → rank a x ≤ rank a 0 := fun x hx => ha.rank_le (by omega) hx
  have h1 : ∀ x, 1 ≤ x → x < 7 → rank a x ≤ rank a 1 := fun x h hx => ha.rank_le h hx
  have h3 : ∀ x, 3 ≤ x → x < 7 → rank a x ≤ rank a 3 := fun x h hx => ha.rank_le h hx
  have h4 : ∀ x, 4 ≤ x → x < 7 → rank a x ≤ rank a 4 := fun x h hx => ha.rank_le h hx
  refine le_three hfall hace (hnone.four.apart ha (by omega) (by omega)) (hnone.four.apart ha (by omega) (by omega))
    (by omega) (by omega) hrun hwheel (fun hsame => ?_) (fun hsame => ?_) (fun hsame => ?_) (by omega)
  · obtain ⟨rfl, hk3⟩ := hunique k1 k3 (by omega) (by omega) hsame
    have hk4 := h0 k4 (by omega)
    have hk5 := h1 k5 (by omega) (by omega)
    have hk4' := h3 k4 (by omega) (by omega)
    have hk5' := h4 k5 (by omega) (by omega)
    omega
  · obtain ⟨rfl, hk4⟩ := hunique k2 k4 (by omega) (by omega) hsame
    have hk1 := h0 k1 (by omega)
    have hk5 := h1 k5 (by omega) (by omega)
    have hk5' := h4 k5 (by omega) (by omega)
    omega
  · obtain ⟨rfl, hk5⟩ := hunique k3 k5 (by omega) (by omega) hsame
    have hk1 := h0 k1 (by omega)
    have hk2 := h1 k2 (by omega) (by omega)
    omega

variable (hthree : NoThree a)

include hthree

omit hnone in
theorem five_apart : rank a k1 ≠ rank a k3 ∧ rank a k2 ≠ rank a k4 ∧ rank a k3 ≠ rank a k5 := by
  obtain ⟨h12, h23, h34, h45, h5⟩ := rises hsub
  refine ⟨fun hsame => ?_, fun hsame => ?_, fun hsame => ?_⟩
  · have hnext := next_of_same ha hthree (by omega) (by omega) hsame
    omega
  · have hnext := next_of_same ha hthree (by omega) (by omega) hsame
    omega
  · have hnext := next_of_same ha hthree (by omega) (by omega) hsame
    omega

theorem twoPairs_greatest (h : twoPairs a = some e) :
    fiveValue false (rank a k1) (rank a k2) (rank a k3) (rank a k4) (rank a k5) ≤ e.value := by
  obtain ⟨h12, h23, h34, h45, h5⟩ := rises hsub
  have hfall := ha.five_fall hsub
  have hace := ha.rank_le_twelve (i := k1) (by omega)
  have hchoice := mem_choices_five hsub
  obtain ⟨hrun, hhigh, hlow⟩ := straightOrFullHouse_none hnone.full hchoice
  have hwheel := lowStraight_none hnone.wheel hchoice
  obtain ⟨h13, h24, h35⟩ := five_apart ha hsub hthree
  obtain ⟨j, i, hji, hi6, hj, hi, hvalue, hfirst⟩ := twoPairs_some h
  have h0 : ∀ x, x < 7 → rank a x ≤ rank a 0 := fun x hx => ha.rank_le (by omega) hx
  have h2 : ∀ x, 2 ≤ x → x < 7 → rank a x ≤ rank a 2 := fun x h hx => ha.rank_le h hx
  have h4 : ∀ x, 4 ≤ x → x < 7 → rank a x ≤ rank a 4 := fun x h hx => ha.rank_le h hx
  have hbound : ∀ p q z, p + 2 ≤ q → q < 6 → z < 7 → rank a p = rank a (p + 1) → rank a q = rank a (q + 1) →
      z ≠ p → z ≠ p + 1 → z ≠ q → z ≠ q + 1 →
      200000000 + rank a p * 1000000 + rank a q * 10000 + rank a z * 100 ≤ e.value := by
    intro p q z hpq hq hz hp hq' hz1 hz2 hz3 hz4
    have hz0 := h0 z hz
    have hztwelve := ha.rank_le_twelve hz
    have hqtwelve := ha.rank_le_twelve (i := q) (by omega)
    rcases hfirst p q hpq hq hp hq' with hless | ⟨rfl, hle⟩
    · have hfar : rank a p < rank a j := by
        have hle := ha.rank_le (i := j) (j := p) (by omega) (by omega)
        by_contra hsame
        have hnext := next_of_same ha hthree hless (by omega) (show rank a j = rank a p by omega)
        have hnext' := next_of_same ha hthree (i := j) (j := p + 1) (by omega) (by omega) (by omega)
        omega
      omega
    · rcases Nat.eq_or_lt_of_le hle with rfl | hless
      · have hz2 : 2 ≤ z → rank a z ≤ rank a 2 := fun h => h2 z h hz
        have hz4 : 4 ≤ z → rank a z ≤ rank a 4 := fun h => h4 z h hz
        omega
      · have hfar : rank a q < rank a i := by
          have hle := ha.rank_le (i := i) (j := q) (by omega) (by omega)
          by_contra hsame
          have hnext := next_of_same ha hthree hless (by omega) (show rank a i = rank a q by omega)
          have hnext' := next_of_same ha hthree (i := i) (j := q + 1) (by omega) (by omega) (by omega)
          omega
        omega
  refine le_pairs hfall hace (by omega) (by omega) (by omega) (by omega) hrun hwheel h13 h24 h35
    (fun hab hcd => ?_) (fun hab hde => ?_) (fun hbc hde => ?_) (by omega)
  · have hnext := next_of_same ha hthree h12 (by omega) hab
    have hnext' := next_of_same ha hthree h34 (by omega) hcd
    subst hnext hnext'
    exact hbound k1 k3 k5 (by omega) (by omega) (by omega) hab hcd (by omega) (by omega) (by omega) (by omega)
  · have hnext := next_of_same ha hthree h12 (by omega) hab
    have hnext' := next_of_same ha hthree h45 (by omega) hde
    subst hnext hnext'
    exact hbound k1 k4 k3 (by omega) (by omega) (by omega) hab hde (by omega) (by omega) (by omega) (by omega)
  · have hnext := next_of_same ha hthree h23 (by omega) hbc
    have hnext' := next_of_same ha hthree h45 (by omega) hde
    subst hnext hnext'
    exact hbound k2 k4 k1 (by omega) (by omega) (by omega) hbc hde (by omega) (by omega) (by omega) (by omega)

theorem highCard_greatest (hpair : pair a = none) :
    fiveValue false (rank a k1) (rank a k2) (rank a k3) (rank a k4) (rank a k5) ≤ (highCard a).value := by
  obtain ⟨h12, h23, h34, h45, h5⟩ := rises hsub
  have hchoice := mem_choices_five hsub
  have hapart : ∀ x y, x < y → y < 7 → rank a x ≠ rank a y := by
    intro x y hxy hy hsame
    obtain rfl := next_of_same ha hthree hxy hy hsame
    exact noPair hpair (by omega) hsame
  rw [value_high (ha.five_fall hsub) (hapart k1 k2 h12 (by omega)) (hapart k2 k3 h23 (by omega))
    (hapart k3 k4 h34 (by omega)) (hapart k4 k5 h45 h5) (straightOrFullHouse_none hnone.full hchoice).1
    (lowStraight_none hnone.wheel hchoice), highCard, found_value]
  have h1' := ha.rank_le (i := 0) (j := k1) (by omega) (by omega)
  have h2' := ha.rank_le (i := 1) (j := k2) (by omega) (by omega)
  have h3' := ha.rank_le (i := 2) (j := k3) (by omega) (by omega)
  have h4' := ha.rank_le (i := 3) (j := k4) (by omega) (by omega)
  have h5' := ha.rank_le (i := 4) (j := k5) (by omega) h5
  omega

variable (hpairs : twoPairs a = none)

include hpairs

theorem pair_greatest (h : pair a = some e) :
    fiveValue false (rank a k1) (rank a k2) (rank a k3) (rank a k4) (rank a k5) ≤ e.value := by
  obtain ⟨h12, h23, h34, h45, h5⟩ := rises hsub
  have hfall := ha.five_fall hsub
  have hace := ha.rank_le_twelve (i := k1) (by omega)
  have hchoice := mem_choices_five hsub
  obtain ⟨hrun, hhigh, hlow⟩ := straightOrFullHouse_none hnone.full hchoice
  have hwheel := lowStraight_none hnone.wheel hchoice
  obtain ⟨h13, h24, h35⟩ := five_apart ha hsub hthree
  obtain ⟨j, hj6, hj, hvalue⟩ := pair_some h
  have hunique : ∀ x y, x < y → y < 7 → rank a x = rank a y → x = j ∧ y = j + 1 := by
    intro x y hxy hy hsame
    obtain rfl := next_of_same ha hthree hxy hy hsame
    rcases Nat.lt_trichotomy x j with hlt | rfl | hlt
    · by_cases hnear : j = x + 1
      · subst hnear
        have hnext := next_of_same ha hthree (i := x) (j := x + 1 + 1) (by omega) (by omega) (hsame.trans hj)
        omega
      · exact (noTwoPairs hpairs (show x + 2 ≤ j by omega) hj6 ⟨hsame, hj⟩).elim
    · exact ⟨rfl, rfl⟩
    · by_cases hnear : x = j + 1
      · subst hnear
        have hnext := next_of_same ha hthree (i := j) (j := j + 1 + 1) (by omega) (by omega) (hj.trans hsame)
        omega
      · exact (noTwoPairs hpairs (show j + 2 ≤ x by omega) (by omega) ⟨hj, hsame⟩).elim
  have h0 : ∀ x, x < 7 → rank a x ≤ rank a 0 := fun x hx => ha.rank_le (by omega) hx
  have h1 : ∀ x, 1 ≤ x → x < 7 → rank a x ≤ rank a 1 := fun x h hx => ha.rank_le h hx
  have h2 : ∀ x, 2 ≤ x → x < 7 → rank a x ≤ rank a 2 := fun x h hx => ha.rank_le h hx
  have h3 : ∀ x, 3 ≤ x → x < 7 → rank a x ≤ rank a 3 := fun x h hx => ha.rank_le h hx
  have h4 : ∀ x, 4 ≤ x → x < 7 → rank a x ≤ rank a 4 := fun x h hx => ha.rank_le h hx
  have hbound : ∀ x y z, x < y → y < z → z < 7 → x ≠ j → x ≠ j + 1 → y ≠ j → y ≠ j + 1 → z ≠ j → z ≠ j + 1 →
      100000000 + rank a j * 1000000 + rank a x * 10000 + rank a y * 100 + rank a z ≤ e.value := by
    intro x y z hxy hyz hz hx1 hx2 hy1 hy2 hz1 hz2
    have hx0 := h0 x (by omega)
    have hy1' := h1 y (by omega) (by omega)
    have hz2' := h2 z (by omega) hz
    have hxtwo : 2 ≤ x → rank a x ≤ rank a 2 := fun h => h2 x h (by omega)
    have hythree : 3 ≤ y → rank a y ≤ rank a 3 := fun h => h3 y h (by omega)
    have hzfour : 4 ≤ z → rank a z ≤ rank a 4 := fun h => h4 z h (by omega)
    omega
  refine le_pair hfall hace (by omega) (by omega) (by omega) (by omega) hrun hwheel h13 h24 h35
    (fun hboth => ?_) (fun hboth => ?_) (fun hboth => ?_) (fun hab => ?_) (fun hbc => ?_) (fun hcd => ?_)
    (fun hde => ?_) (by omega)
  · have hfirst := hunique k1 k2 h12 (by omega) hboth.1
    have hsecond := hunique k3 k4 h34 (by omega) hboth.2
    omega
  · have hfirst := hunique k1 k2 h12 (by omega) hboth.1
    have hsecond := hunique k4 k5 h45 (by omega) hboth.2
    omega
  · have hfirst := hunique k2 k3 h23 (by omega) hboth.1
    have hsecond := hunique k4 k5 h45 (by omega) hboth.2
    omega
  · obtain ⟨rfl, rfl⟩ := hunique k1 k2 h12 (by omega) hab
    exact hbound k3 k4 k5 h34 h45 h5 (by omega) (by omega) (by omega) (by omega) (by omega) (by omega)
  · obtain ⟨rfl, rfl⟩ := hunique k2 k3 h23 (by omega) hbc
    exact hbound k1 k4 k5 (by omega) h45 h5 (by omega) (by omega) (by omega) (by omega) (by omega) (by omega)
  · obtain ⟨rfl, rfl⟩ := hunique k3 k4 h34 (by omega) hcd
    exact hbound k1 k2 k5 h12 (by omega) h5 (by omega) (by omega) (by omega) (by omega) (by omega) (by omega)
  · obtain ⟨rfl, rfl⟩ := hunique k4 k5 h45 h5 hde
    exact hbound k1 k2 k3 h12 h23 (by omega) (by omega) (by omega) (by omega) (by omega) (by omega) (by omega)

end

/-- Without a flush the value is the greatest of five of the seven cards. -/
theorem ranks_greatest (ha : Ranked a) (hsub : [k1, k2, k3, k4, k5].Sublist (List.range 7)) :
    fiveValue false (rank a k1) (rank a k2) (rank a k3) (rank a k4) (rank a k5) ≤
      (((fourOfAKind a).or <| (straightOrFullHouse a).or <| (lowStraight a).or <| (threeOfAKind a).or <|
        (twoPairs a).or <| pair a).getD (highCard a)).value := by
  cases hfour : fourOfAKind a with
  | some e => exact four_greatest ha hsub hfour
  | none =>
      have hnofour := fourOfAKind_none ha hfour
      cases hfull : straightOrFullHouse a with
      | some e => exact straightOrFullHouse_greatest ha hsub hnofour hfull
      | none =>
          cases hwheel : lowStraight a with
          | some e => exact lowStraight_greatest ha hsub hnofour hfull hwheel
          | none =>
              have hnone : NoFive a := ⟨hnofour, hfull, hwheel⟩
              cases hthree : threeOfAKind a with
              | some e => exact three_greatest ha hnone hsub hthree
              | none =>
                  have hnothree := threeOfAKind_none ha hthree
                  cases hpairs : twoPairs a with
                  | some e => exact twoPairs_greatest ha hnone hsub hnothree hpairs
                  | none =>
                      cases hpair : pair a with
                      | some e => exact pair_greatest ha hnone hsub hnothree hpairs hpair
                      | none => exact highCard_greatest ha hnone hsub hnothree hpair

end PokerTH.CardsValue
