import PokerTH.CardsSuited

namespace PokerTH.CardsValue

section

variable {a b c d e : Nat}

theorem fiveValue_false : fiveValue false a b c d e =
    if a = d then 700000000 + a * 1000000 + e * 10000
    else if b = e then 700000000 + b * 1000000 + a * 10000
    else if a = c ∧ d = e then 600000000 + a * 1000000 + d * 10000
    else if a = b ∧ c = e then 600000000 + c * 1000000 + a * 10000
    else if a = b + 1 ∧ b = c + 1 ∧ c = d + 1 ∧ d = e + 1 then 400000000 + a * 1000000
    else if a = 12 ∧ b = 3 ∧ c = 2 ∧ d = 1 ∧ e = 0 then 400000000 + 3 * 1000000
    else if a = c then 300000000 + a * 1000000 + d * 10000 + e * 100
    else if b = d then 300000000 + b * 1000000 + a * 10000 + e * 100
    else if c = e then 300000000 + c * 1000000 + a * 10000 + b * 100
    else if a = b ∧ c = d then 200000000 + a * 1000000 + c * 10000 + e * 100
    else if a = b ∧ d = e then 200000000 + a * 1000000 + d * 10000 + c * 100
    else if b = c ∧ d = e then 200000000 + b * 1000000 + d * 10000 + a * 100
    else if a = b then 100000000 + a * 1000000 + c * 10000 + d * 100 + e
    else if b = c then 100000000 + b * 1000000 + a * 10000 + d * 100 + e
    else if c = d then 100000000 + c * 1000000 + a * 10000 + b * 100 + e
    else if d = e then 100000000 + d * 1000000 + a * 10000 + b * 100 + c
    else a * 1000000 + b * 10000 + c * 100 + d * 10 + e := by
  simp only [fiveValue, Bool.false_eq_true, false_and, if_false]

theorem value_four (h : a = d) : fiveValue false a b c d e = 700000000 + a * 1000000 + e * 10000 := by
  rw [fiveValue_false, if_pos h]

theorem value_full (hhigh : a ≠ d) (hlow : b ≠ e) (h : a = c ∧ d = e) :
    fiveValue false a b c d e = 600000000 + a * 1000000 + d * 10000 := by
  rw [fiveValue_false, if_neg hhigh, if_neg hlow, if_pos h]

theorem value_full_low (hhigh : a ≠ d) (hlow : b ≠ e) (h : a = b ∧ c = e) (hd : d ≤ c ∧ e ≤ d) :
    fiveValue false a b c d e = 600000000 + c * 1000000 + a * 10000 := by
  rw [fiveValue_false, if_neg hhigh, if_neg hlow, if_neg (by omega), if_pos h]

theorem value_straight (h : a = b + 1 ∧ b = c + 1 ∧ c = d + 1 ∧ d = e + 1) :
    fiveValue false a b c d e = 400000000 + a * 1000000 := by
  rw [fiveValue_false, if_neg (by omega), if_neg (by omega), if_neg (by omega), if_neg (by omega), if_pos h]

theorem value_low (h : a = 12 ∧ b = 3 ∧ c = 2 ∧ d = 1 ∧ e = 0) :
    fiveValue false a b c d e = 400000000 + 3 * 1000000 := by
  rw [fiveValue_false, if_neg (by omega), if_neg (by omega), if_neg (by omega), if_neg (by omega),
    if_neg (by omega), if_pos h]

variable (hfall : b ≤ a ∧ c ≤ b ∧ d ≤ c ∧ e ≤ d)

include hfall

theorem value_four_low (h : b = e) : fiveValue false a b c d e = 700000000 + b * 1000000 + a * 10000 := by
  by_cases hhigh : a = d
  · rw [value_four hhigh]
    omega
  · rw [fiveValue_false, if_neg hhigh, if_pos h]

theorem value_three (h : a = c) (hcd : c ≠ d) (hde : d ≠ e) :
    fiveValue false a b c d e = 300000000 + a * 1000000 + d * 10000 + e * 100 := by
  rw [fiveValue_false, if_neg (by omega), if_neg (by omega), if_neg (by omega), if_neg (by omega), if_neg (by omega),
    if_neg (by omega), if_pos h]

theorem value_three_middle (h : b = d) (hab : a ≠ b) (hde : d ≠ e) :
    fiveValue false a b c d e = 300000000 + b * 1000000 + a * 10000 + e * 100 := by
  rw [fiveValue_false, if_neg (by omega), if_neg (by omega), if_neg (by omega), if_neg (by omega), if_neg (by omega),
    if_neg (by omega), if_neg (by omega), if_pos h]

theorem value_three_low (h : c = e) (hab : a ≠ b) (hbc : b ≠ c) :
    fiveValue false a b c d e = 300000000 + c * 1000000 + a * 10000 + b * 100 := by
  rw [fiveValue_false, if_neg (by omega), if_neg (by omega), if_neg (by omega), if_neg (by omega), if_neg (by omega),
    if_neg (by omega), if_neg (by omega), if_neg (by omega), if_pos h]

theorem value_pairs (h : a = b ∧ c = d) (hbc : b ≠ c) (hde : d ≠ e) :
    fiveValue false a b c d e = 200000000 + a * 1000000 + c * 10000 + e * 100 := by
  rw [fiveValue_false, if_neg (by omega), if_neg (by omega), if_neg (by omega), if_neg (by omega), if_neg (by omega),
    if_neg (by omega), if_neg (by omega), if_neg (by omega), if_neg (by omega), if_pos h]

theorem value_pairs_outer (h : a = b ∧ d = e) (hbc : b ≠ c) (hcd : c ≠ d) :
    fiveValue false a b c d e = 200000000 + a * 1000000 + d * 10000 + c * 100 := by
  rw [fiveValue_false, if_neg (by omega), if_neg (by omega), if_neg (by omega), if_neg (by omega), if_neg (by omega),
    if_neg (by omega), if_neg (by omega), if_neg (by omega), if_neg (by omega), if_neg (by omega), if_pos h]

theorem value_pairs_low (h : b = c ∧ d = e) (hab : a ≠ b) (hcd : c ≠ d) :
    fiveValue false a b c d e = 200000000 + b * 1000000 + d * 10000 + a * 100 := by
  rw [fiveValue_false, if_neg (by omega), if_neg (by omega), if_neg (by omega), if_neg (by omega), if_neg (by omega),
    if_neg (by omega), if_neg (by omega), if_neg (by omega), if_neg (by omega), if_neg (by omega), if_neg (by omega),
    if_pos h]

theorem value_pair (h : a = b) (hbc : b ≠ c) (hcd : c ≠ d) (hde : d ≠ e) :
    fiveValue false a b c d e = 100000000 + a * 1000000 + c * 10000 + d * 100 + e := by
  rw [fiveValue_false, if_neg (by omega), if_neg (by omega), if_neg (by omega), if_neg (by omega), if_neg (by omega),
    if_neg (by omega), if_neg (by omega), if_neg (by omega), if_neg (by omega), if_neg (by omega), if_neg (by omega),
    if_neg (by omega), if_pos h]

theorem value_pair_second (h : b = c) (hab : a ≠ b) (hcd : c ≠ d) (hde : d ≠ e) :
    fiveValue false a b c d e = 100000000 + b * 1000000 + a * 10000 + d * 100 + e := by
  rw [fiveValue_false, if_neg (by omega), if_neg (by omega), if_neg (by omega), if_neg (by omega), if_neg (by omega),
    if_neg (by omega), if_neg (by omega), if_neg (by omega), if_neg (by omega), if_neg (by omega), if_neg (by omega),
    if_neg (by omega), if_neg (by omega), if_pos h]

theorem value_pair_third (h : c = d) (hab : a ≠ b) (hbc : b ≠ c) (hde : d ≠ e) :
    fiveValue false a b c d e = 100000000 + c * 1000000 + a * 10000 + b * 100 + e := by
  rw [fiveValue_false, if_neg (by omega), if_neg (by omega), if_neg (by omega), if_neg (by omega), if_neg (by omega),
    if_neg (by omega), if_neg (by omega), if_neg (by omega), if_neg (by omega), if_neg (by omega), if_neg (by omega),
    if_neg (by omega), if_neg (by omega), if_neg (by omega), if_pos h]

theorem value_pair_low (h : d = e) (hab : a ≠ b) (hbc : b ≠ c) (hcd : c ≠ d) :
    fiveValue false a b c d e = 100000000 + d * 1000000 + a * 10000 + b * 100 + c := by
  rw [fiveValue_false, if_neg (by omega), if_neg (by omega), if_neg (by omega), if_neg (by omega), if_neg (by omega),
    if_neg (by omega), if_neg (by omega), if_neg (by omega), if_neg (by omega), if_neg (by omega), if_neg (by omega),
    if_neg (by omega), if_neg (by omega), if_neg (by omega), if_neg (by omega), if_pos h]

theorem value_high (hab : a ≠ b) (hbc : b ≠ c) (hcd : c ≠ d) (hde : d ≠ e)
    (hstraight : ¬ (a = b + 1 ∧ b = c + 1 ∧ c = d + 1 ∧ d = e + 1))
    (hlow : ¬ (a = 12 ∧ b = 3 ∧ c = 2 ∧ d = 1 ∧ e = 0)) :
    fiveValue false a b c d e = a * 1000000 + b * 10000 + c * 100 + d * 10 + e := by
  rw [fiveValue_false, if_neg (by omega), if_neg (by omega), if_neg (by omega), if_neg (by omega), if_neg hstraight,
    if_neg hlow, if_neg (by omega), if_neg (by omega), if_neg (by omega), if_neg (by omega), if_neg (by omega),
    if_neg (by omega), if_neg hab, if_neg hbc, if_neg hcd, if_neg hde]

end

variable {a : List Card} {e : Evaluation} {i j j1 j2 j3 j4 j5 value : Nat} {js : List Nat}

structure Ranked (a : List Card) : Prop where
  length : a.length = 7
  nodup : a.Nodup
  sorted : a.Pairwise fun c d => d.rank ≤ c.rank
  ranks : ∀ c ∈ a, c.rank ≤ 12
  suits : ∀ cs : List Card, cs.Nodup → cs.length = 5 → (∀ c ∈ cs, c ∈ a) → oneSuit cs = false

theorem Ranked.eq_map (ha : Ranked a) : (List.range 7).map (card a) = a := by
  apply List.ext_getElem
  · simp [ha.length]
  · intro i _ hi
    simp [card, hi]

theorem Ranked.picks (ha : Ranked a) (hjs : js.Sublist (List.range 7)) : (js.map (card a)).Sublist a := by
  have hmap := hjs.map (card a)
  rwa [ha.eq_map] at hmap

/-- Five cards of the array, given by rising indices and listed in any order. -/
theorem makes_found (ha : Ranked a) (hsub : [j1, j2, j3, j4, j5].Sublist (List.range 7))
    (hperm : js.Perm [j1, j2, j3, j4, j5])
    (hvalue : value = fiveValue false (rank a j1) (rank a j2) (rank a j3) (rank a j4) (rank a j5)) :
    Makes a (found a value js) := by
  have hpicks : [card a j1, card a j2, card a j3, card a j4, card a j5].Sublist a := ha.picks hsub
  have hnodup := ha.nodup.sublist hpicks
  refine ⟨card a j1, card a j2, card a j3, card a j4, card a j5, hnodup, fun c hc => hpicks.subset hc,
    ha.sorted.sublist hpicks, (hperm.map (card a)).map Card.pos, ?_⟩
  rw [ha.suits _ hnodup rfl fun c hc => hpicks.subset hc]
  exact hvalue

theorem Ranked.rank_le (ha : Ranked a) (hij : i ≤ j) (hj : j < 7) : rank a j ≤ rank a i := by
  have hlength := ha.length
  rcases Nat.eq_or_lt_of_le hij with rfl | hlt
  · exact le_refl _
  · have hrank := List.pairwise_iff_getElem.mp ha.sorted i j (by omega) (by omega) hlt
    simpa [rank, card, show i < a.length by omega, show j < a.length by omega] using hrank

theorem Ranked.falls (ha : Ranked a) : rank a 1 ≤ rank a 0 ∧ rank a 2 ≤ rank a 1 ∧ rank a 3 ≤ rank a 2 ∧
    rank a 4 ≤ rank a 3 ∧ rank a 5 ≤ rank a 4 ∧ rank a 6 ≤ rank a 5 :=
  ⟨ha.rank_le (by omega) (by omega), ha.rank_le (by omega) (by omega), ha.rank_le (by omega) (by omega),
    ha.rank_le (by omega) (by omega), ha.rank_le (by omega) (by omega), ha.rank_le (by omega) (by omega)⟩

theorem fourOfAKind_makes (ha : Ranked a) (h : fourOfAKind a = some e) : Makes a e := by
  have hfalls := ha.falls
  obtain ⟨j, hj, h⟩ := List.exists_of_findSome?_eq_some h
  split_ifs at h with hfour hzero
  · cases h
    subst hzero
    exact @makes_found _ 0 1 2 3 4 _ _ ha (by decide) (by decide) (value_four hfour.2.2).symm
  · cases h
    simp only [List.mem_cons, List.not_mem_nil, or_false] at hj
    rcases hj with rfl | rfl | rfl | rfl
    · exact absurd rfl hzero
    · have hlast : rank a 1 = rank a 4 := hfour.2.2
      exact @makes_found _ 0 1 2 3 4 _ _ ha (by decide) (by decide) (value_four_low (by omega) hlast).symm
    · have hlast : rank a 2 = rank a 5 := hfour.2.2
      exact @makes_found _ 0 2 3 4 5 _ _ ha (by decide) (by decide) (value_four_low (by omega) hlast).symm
    · have hlast : rank a 3 = rank a 6 := hfour.2.2
      exact @makes_found _ 0 3 4 5 6 _ _ ha (by decide) (by decide) (value_four_low (by omega) hlast).symm

def NoFour (a : List Card) : Prop :=
  rank a 0 ≠ rank a 3 ∧ rank a 1 ≠ rank a 4 ∧ rank a 2 ≠ rank a 5 ∧ rank a 3 ≠ rank a 6

theorem fourOfAKind_none (ha : Ranked a) (h : fourOfAKind a = none) : NoFour a := by
  have hfalls := ha.falls
  have hnot : ∀ j ∈ [0, 1, 2, 3],
      ¬ (rank a j = rank a (j + 1) ∧ rank a j = rank a (j + 2) ∧ rank a j = rank a (j + 3)) := by
    intro j hj hfour
    have hnone := List.findSome?_eq_none_iff.mp h j hj
    rw [if_pos hfour] at hnone
    split_ifs at hnone
  have h0 := hnot 0 (by simp)
  have h1 := hnot 1 (by simp)
  have h2 := hnot 2 (by simp)
  have h3 := hnot 3 (by simp)
  simp only [Nat.zero_add, Nat.reduceAdd] at h0 h1 h2 h3
  refine ⟨?_, ?_, ?_, ?_⟩
  · omega
  · omega
  · omega
  · omega

theorem NoFour.apart (hnone : NoFour a) (ha : Ranked a) (hi : i + 3 ≤ j) (hj : j < 7) : rank a i ≠ rank a j := by
  intro hsame
  have hfirst := ha.rank_le (i := i) (j := i + 3) (by omega) (by omega)
  have hlast := ha.rank_le hi hj
  have hfour : rank a i = rank a (i + 3) := by omega
  obtain ⟨h0, h1, h2, h3⟩ := hnone
  have hcases : i = 0 ∨ i = 1 ∨ i = 2 ∨ i = 3 := by omega
  rcases hcases with rfl | rfl | rfl | rfl
  · exact h0 hfour
  · exact h1 hfour
  · exact h2 hfour
  · exact h3 hfour

theorem mem_choices {k : Nat} {l : List Nat} (h : js ∈ choices k l) : js.Sublist l ∧ js.length = k := by
  induction l generalizing k js with
  | nil =>
      cases k with
      | zero =>
          rw [choices, List.mem_singleton] at h
          subst h
          exact ⟨.refl _, rfl⟩
      | succ k => cases h
  | cons i l ih =>
      cases k with
      | zero =>
          rw [choices, List.mem_singleton] at h
          subst h
          exact ⟨List.nil_sublist _, rfl⟩
      | succ k =>
          rw [choices, List.mem_append] at h
          rcases h with h | h
          · obtain ⟨is, his, rfl⟩ := List.mem_map.mp h
            obtain ⟨hsub, hlength⟩ := ih his
            exact ⟨hsub.cons_cons i, by rw [List.length_cons, hlength]⟩
          · obtain ⟨hsub, hlength⟩ := ih h
            exact ⟨hsub.cons i, hlength⟩

theorem rises (hsub : [j1, j2, j3, j4, j5].Sublist (List.range 7)) :
    j1 < j2 ∧ j2 < j3 ∧ j3 < j4 ∧ j4 < j5 ∧ j5 < 7 := by
  have hpair := (List.pairwise_lt_range (n := 7)).sublist hsub
  have hlast := List.mem_range.mp (hsub.subset (show j5 ∈ [j1, j2, j3, j4, j5] by simp))
  simp only [List.pairwise_cons, List.mem_cons, List.not_mem_nil, or_false, forall_eq_or_imp, forall_eq] at hpair
  omega

theorem exists_five (h : js ∈ choices 5 (List.range 7)) :
    ∃ j1 j2 j3 j4 j5, js = [j1, j2, j3, j4, j5] ∧ [j1, j2, j3, j4, j5].Sublist (List.range 7) := by
  obtain ⟨hsub, hlength⟩ := mem_choices h
  rcases js with _ | ⟨j1, _ | ⟨j2, _ | ⟨j3, _ | ⟨j4, _ | ⟨j5, _ | ⟨j6, js⟩⟩⟩⟩⟩⟩
  · cases hlength
  · cases hlength
  · cases hlength
  · cases hlength
  · cases hlength
  · exact ⟨j1, j2, j3, j4, j5, rfl, hsub⟩
  · simp at hlength

theorem consecutive_ranks : consecutive ([j1, j2, j3, j4, j5].map (card a)) = true ↔
    rank a j1 = rank a j2 + 1 ∧ rank a j2 = rank a j3 + 1 ∧ rank a j3 = rank a j4 + 1 ∧ rank a j4 = rank a j5 + 1 :=
  consecutive_five

theorem consecutive_low : consecutive ([j2, j3, j4, j5].map (card a)) = true ↔
    rank a j2 = rank a j3 + 1 ∧ rank a j3 = rank a j4 + 1 ∧ rank a j4 = rank a j5 + 1 :=
  consecutive_four

theorem straightOrFullHouse_makes (ha : Ranked a) (hfour : NoFour a) (h : straightOrFullHouse a = some e) :
    Makes a e := by
  obtain ⟨js, hjs, h⟩ := List.exists_of_findSome?_eq_some h
  obtain ⟨j1, j2, j3, j4, j5, rfl, hsub⟩ := exists_five hjs
  obtain ⟨h12, h23, h34, h45, h5⟩ := rises hsub
  have hhigh := hfour.apart ha (i := j1) (j := j4) (by omega) (by omega)
  have hlow := hfour.apart ha (i := j2) (j := j5) (by omega) (by omega)
  dsimp only at h
  by_cases hrun : consecutive ([j1, j2, j3, j4, j5].map (card a)) = true
  · rw [if_pos hrun] at h
    cases h
    exact makes_found ha hsub (.refl _) (value_straight (consecutive_ranks.mp hrun)).symm
  · rw [if_neg hrun] at h
    split_ifs at h with hfull hthree
    · cases h
      refine makes_found ha hsub (.refl _) (value_full hhigh hlow ⟨hthree.symm, ?_⟩).symm
      rcases hfull with hfull | hfull
      · exact hfull.2.2
      · omega
    · cases h
      refine makes_found ha hsub (.refl _) ?_
      rcases hfull with hfull | hfull
      · exact absurd hfull.2.1.symm hthree
      · rw [value_full_low hhigh hlow ⟨hfull.2.2, hfull.2.1⟩ (by omega), hfull.1]

theorem straightOrFullHouse_none (h : straightOrFullHouse a = none)
    (hjs : [j1, j2, j3, j4, j5] ∈ choices 5 (List.range 7)) :
    ¬ (rank a j1 = rank a j2 + 1 ∧ rank a j2 = rank a j3 + 1 ∧ rank a j3 = rank a j4 + 1 ∧ rank a j4 = rank a j5 + 1) ∧
      ¬ (rank a j1 = rank a j2 ∧ rank a j1 = rank a j3 ∧ rank a j4 = rank a j5) ∧
      ¬ (rank a j3 = rank a j4 ∧ rank a j3 = rank a j5 ∧ rank a j1 = rank a j2) := by
  have hnone := List.findSome?_eq_none_iff.mp h _ hjs
  dsimp only at hnone
  have hrun : ¬ consecutive ([j1, j2, j3, j4, j5].map (card a)) = true := by
    intro hrun
    rw [if_pos hrun] at hnone
    cases hnone
  rw [if_neg hrun] at hnone
  refine ⟨fun hranks => hrun (consecutive_ranks.mpr hranks), fun hfull => ?_, fun hfull => ?_⟩
  · rw [if_pos (.inl hfull)] at hnone
    cases hnone
  · rw [if_pos (.inr hfull)] at hnone
    cases hnone

theorem Ranked.rank_le_twelve (ha : Ranked a) (hi : i < 7) : rank a i ≤ 12 := by
  have hlength : i < a.length := by
    rw [ha.length]
    exact hi
  have hrank := ha.ranks a[i] (List.getElem_mem hlength)
  simpa [rank, card, hlength] using hrank

theorem lowStraight_makes (ha : Ranked a) (h : lowStraight a = some e) : Makes a e := by
  obtain ⟨js, hjs, h⟩ := List.exists_of_findSome?_eq_some h
  obtain ⟨j1, j2, j3, j4, j5, rfl, hsub⟩ := exists_five hjs
  obtain ⟨h12, h23, h34, h45, h5⟩ := rises hsub
  have hace := ha.rank_le_twelve (i := j1) (by omega)
  dsimp only at h
  split_ifs at h with hrun
  cases h
  obtain ⟨hnine, hrun⟩ := hrun
  have hrun := consecutive_low.mp hrun
  refine makes_found ha hsub (.refl _) ?_
  rw [value_low ⟨by omega, by omega, by omega, by omega, by omega⟩]
  omega

theorem lowStraight_none (h : lowStraight a = none) (hjs : [j1, j2, j3, j4, j5] ∈ choices 5 (List.range 7)) :
    ¬ (rank a j1 = 12 ∧ rank a j2 = 3 ∧ rank a j3 = 2 ∧ rank a j4 = 1 ∧ rank a j5 = 0) := by
  rintro ⟨h1, h2, h3, h4, h5⟩
  have hnone := List.findSome?_eq_none_iff.mp h _ hjs
  dsimp only at hnone
  rw [if_pos ⟨by omega, consecutive_low.mpr ⟨by omega, by omega, by omega⟩⟩] at hnone
  cases hnone

theorem threeOfAKind_makes (ha : Ranked a) (hfour : NoFour a) (hfull : straightOrFullHouse a = none)
    (h : threeOfAKind a = some e) : Makes a e := by
  obtain ⟨h01, h12, h23, h34, h45, h56⟩ := ha.falls
  obtain ⟨hne0, hne1, hne2, hne3⟩ := hfour
  obtain ⟨j, hj, h⟩ := List.exists_of_findSome?_eq_some h
  split_ifs at h with hthree hzero hone
  · cases h
    subst hzero
    have hsame : rank a 0 = rank a 2 := hthree.2
    have hnot := (@straightOrFullHouse_none a 0 1 2 3 4 hfull (by decide)).2.1
    exact @makes_found _ 0 1 2 3 4 _ _ ha (by decide) (by decide)
        (@value_three (rank a 0) (rank a 1) (rank a 2) (rank a 3) (rank a 4) (by omega) hsame (by omega) (by omega)).symm
  · cases h
    subst hone
    have hsame : rank a 1 = rank a 3 := hthree.2
    exact @makes_found _ 0 1 2 3 4 _ _ ha (by decide) (by decide)
        (@value_three_middle (rank a 0) (rank a 1) (rank a 2) (rank a 3) (rank a 4) (by omega) hsame (by omega) (by omega)).symm
  · cases h
    simp only [List.mem_cons, List.not_mem_nil, or_false] at hj
    rcases hj with rfl | rfl | rfl | rfl | rfl
    · exact absurd rfl hzero
    · exact absurd rfl hone
    · have hsame : rank a 2 = rank a 4 := hthree.2
      have hnot := (@straightOrFullHouse_none a 0 1 2 3 4 hfull (by decide)).2.2
      exact @makes_found _ 0 1 2 3 4 _ _ ha (by decide) (by decide)
          (@value_three_low (rank a 0) (rank a 1) (rank a 2) (rank a 3) (rank a 4) (by omega) hsame (by omega) (by omega)).symm
    · have hsame : rank a 3 = rank a 5 := hthree.2
      have hnot := (@straightOrFullHouse_none a 0 1 3 4 5 hfull (by decide)).2.2
      exact @makes_found _ 0 1 3 4 5 _ _ ha (by decide) (by decide)
          (@value_three_low (rank a 0) (rank a 1) (rank a 3) (rank a 4) (rank a 5) (by omega) hsame (by omega) (by omega)).symm
    · have hsame : rank a 4 = rank a 6 := hthree.2
      have hnot := (@straightOrFullHouse_none a 0 1 4 5 6 hfull (by decide)).2.2
      exact @makes_found _ 0 1 4 5 6 _ _ ha (by decide) (by decide)
          (@value_three_low (rank a 0) (rank a 1) (rank a 4) (rank a 5) (rank a 6) (by omega) hsame (by omega) (by omega)).symm

def NoThree (a : List Card) : Prop :=
  rank a 0 ≠ rank a 2 ∧ rank a 1 ≠ rank a 3 ∧ rank a 2 ≠ rank a 4 ∧ rank a 3 ≠ rank a 5 ∧ rank a 4 ≠ rank a 6

theorem threeOfAKind_none (ha : Ranked a) (h : threeOfAKind a = none) : NoThree a := by
  obtain ⟨h01, h12, h23, h34, h45, h56⟩ := ha.falls
  have hnot : ∀ j ∈ [0, 1, 2, 3, 4], ¬ (rank a j = rank a (j + 1) ∧ rank a j = rank a (j + 2)) := by
    intro j hj hthree
    have hnone := List.findSome?_eq_none_iff.mp h j hj
    rw [if_pos hthree] at hnone
    split_ifs at hnone
  have h0 := hnot 0 (by simp)
  have h1 := hnot 1 (by simp)
  have h2 := hnot 2 (by simp)
  have h3 := hnot 3 (by simp)
  have h4 := hnot 4 (by simp)
  simp only [Nat.zero_add, Nat.reduceAdd] at h0 h1 h2 h3 h4
  refine ⟨?_, ?_, ?_, ?_, ?_⟩
  · omega
  · omega
  · omega
  · omega
  · omega

theorem twoPairs_makes (ha : Ranked a) (hthree : NoThree a) (h : twoPairs a = some e) : Makes a e := by
  obtain ⟨h01, h12, h23, h34, h45, h56⟩ := ha.falls
  obtain ⟨hne0, hne1, hne2, hne3, hne4⟩ := hthree
  obtain ⟨j, hj, h⟩ := List.exists_of_findSome?_eq_some h
  obtain ⟨i, hi, h⟩ := List.exists_of_findSome?_eq_some h
  have hj4 : j < 4 := by
    simp only [List.mem_cons, List.not_mem_nil, or_false] at hj
    omega
  have hrange := List.mem_range'_1.mp hi
  have hi6 : j + 2 ≤ i ∧ i < 6 := by omega
  split_ifs at h with hboth hzero htwo
  · cases h
    subst hzero htwo
    have hfirst : rank a 0 = rank a 1 := hboth.1
    have hsecond : rank a 2 = rank a 3 := hboth.2
    exact @makes_found _ 0 1 2 3 4 _ _ ha (by decide) (by decide)
        (@value_pairs (rank a 0) (rank a 1) (rank a 2) (rank a 3) (rank a 4) (by omega) ⟨hfirst, hsecond⟩ (by omega) (by omega)).symm
  · cases h
    subst hzero
    have hfirst : rank a 0 = rank a 1 := hboth.1
    have hcases : i = 3 ∨ i = 4 ∨ i = 5 := by omega
    rcases hcases with rfl | rfl | rfl
    · have hsecond : rank a 3 = rank a 4 := hboth.2
      exact @makes_found _ 0 1 2 3 4 _ _ ha (by decide) (by decide)
        (@value_pairs_outer (rank a 0) (rank a 1) (rank a 2) (rank a 3) (rank a 4) (by omega) ⟨hfirst, hsecond⟩ (by omega) (by omega)).symm
    · have hsecond : rank a 4 = rank a 5 := hboth.2
      exact @makes_found _ 0 1 2 4 5 _ _ ha (by decide) (by decide)
        (@value_pairs_outer (rank a 0) (rank a 1) (rank a 2) (rank a 4) (rank a 5) (by omega) ⟨hfirst, hsecond⟩ (by omega) (by omega)).symm
    · have hsecond : rank a 5 = rank a 6 := hboth.2
      exact @makes_found _ 0 1 2 5 6 _ _ ha (by decide) (by decide)
        (@value_pairs_outer (rank a 0) (rank a 1) (rank a 2) (rank a 5) (rank a 6) (by omega) ⟨hfirst, hsecond⟩ (by omega) (by omega)).symm
  · cases h
    have hcases : j = 1 ∧ i = 3 ∨ j = 1 ∧ i = 4 ∨ j = 1 ∧ i = 5 ∨ j = 2 ∧ i = 4 ∨ j = 2 ∧ i = 5 ∨ j = 3 ∧ i = 5 := by
      omega
    rcases hcases with ⟨rfl, rfl⟩ | ⟨rfl, rfl⟩ | ⟨rfl, rfl⟩ | ⟨rfl, rfl⟩ | ⟨rfl, rfl⟩ | ⟨rfl, rfl⟩
    · have hfirst : rank a 1 = rank a 2 := hboth.1
      have hsecond : rank a 3 = rank a 4 := hboth.2
      exact @makes_found _ 0 1 2 3 4 _ _ ha (by decide) (by decide)
        (@value_pairs_low (rank a 0) (rank a 1) (rank a 2) (rank a 3) (rank a 4) (by omega) ⟨hfirst, hsecond⟩ (by omega) (by omega)).symm
    · have hfirst : rank a 1 = rank a 2 := hboth.1
      have hsecond : rank a 4 = rank a 5 := hboth.2
      exact @makes_found _ 0 1 2 4 5 _ _ ha (by decide) (by decide)
        (@value_pairs_low (rank a 0) (rank a 1) (rank a 2) (rank a 4) (rank a 5) (by omega) ⟨hfirst, hsecond⟩ (by omega) (by omega)).symm
    · have hfirst : rank a 1 = rank a 2 := hboth.1
      have hsecond : rank a 5 = rank a 6 := hboth.2
      exact @makes_found _ 0 1 2 5 6 _ _ ha (by decide) (by decide)
        (@value_pairs_low (rank a 0) (rank a 1) (rank a 2) (rank a 5) (rank a 6) (by omega) ⟨hfirst, hsecond⟩ (by omega) (by omega)).symm
    · have hfirst : rank a 2 = rank a 3 := hboth.1
      have hsecond : rank a 4 = rank a 5 := hboth.2
      exact @makes_found _ 0 2 3 4 5 _ _ ha (by decide) (by decide)
        (@value_pairs_low (rank a 0) (rank a 2) (rank a 3) (rank a 4) (rank a 5) (by omega) ⟨hfirst, hsecond⟩ (by omega) (by omega)).symm
    · have hfirst : rank a 2 = rank a 3 := hboth.1
      have hsecond : rank a 5 = rank a 6 := hboth.2
      exact @makes_found _ 0 2 3 5 6 _ _ ha (by decide) (by decide)
        (@value_pairs_low (rank a 0) (rank a 2) (rank a 3) (rank a 5) (rank a 6) (by omega) ⟨hfirst, hsecond⟩ (by omega) (by omega)).symm
    · have hfirst : rank a 3 = rank a 4 := hboth.1
      have hsecond : rank a 5 = rank a 6 := hboth.2
      exact @makes_found _ 0 3 4 5 6 _ _ ha (by decide) (by decide)
        (@value_pairs_low (rank a 0) (rank a 3) (rank a 4) (rank a 5) (rank a 6) (by omega) ⟨hfirst, hsecond⟩ (by omega) (by omega)).symm

theorem noTwoPairs (h : twoPairs a = none) (hij : j + 2 ≤ i) (hi : i < 6) :
    ¬ (rank a j = rank a (j + 1) ∧ rank a i = rank a (i + 1)) := by
  intro hboth
  have hj : j ∈ [0, 1, 2, 3] := by
    simp only [List.mem_cons, List.not_mem_nil, or_false]
    omega
  have hnone := List.findSome?_eq_none_iff.mp h j hj
  have hnone := List.findSome?_eq_none_iff.mp hnone i (List.mem_range'_1.mpr (by omega))
  rw [if_pos hboth] at hnone
  cases hnone

theorem pair_makes (ha : Ranked a) (hthree : NoThree a) (hpairs : twoPairs a = none) (h : pair a = some e) :
    Makes a e := by
  obtain ⟨h01, h12, h23, h34, h45, h56⟩ := ha.falls
  obtain ⟨hne0, hne1, hne2, hne3, hne4⟩ := hthree
  have hfirst : ∀ i, 2 ≤ i → i < 6 → ¬ (rank a 0 = rank a 1 ∧ rank a i = rank a (i + 1)) :=
    fun i hi hi6 => @noTwoPairs a i 0 hpairs hi hi6
  have hsecond : ∀ i, 3 ≤ i → i < 6 → ¬ (rank a 1 = rank a 2 ∧ rank a i = rank a (i + 1)) :=
    fun i hi hi6 => @noTwoPairs a i 1 hpairs hi hi6
  have h02 : ¬ (rank a 0 = rank a 1 ∧ rank a 2 = rank a 3) := hfirst 2 (by omega) (by omega)
  have h03 : ¬ (rank a 0 = rank a 1 ∧ rank a 3 = rank a 4) := hfirst 3 (by omega) (by omega)
  have h04 : ¬ (rank a 0 = rank a 1 ∧ rank a 4 = rank a 5) := hfirst 4 (by omega) (by omega)
  have h05 : ¬ (rank a 0 = rank a 1 ∧ rank a 5 = rank a 6) := hfirst 5 (by omega) (by omega)
  have h13 : ¬ (rank a 1 = rank a 2 ∧ rank a 3 = rank a 4) := hsecond 3 (by omega) (by omega)
  have h14 : ¬ (rank a 1 = rank a 2 ∧ rank a 4 = rank a 5) := hsecond 4 (by omega) (by omega)
  have h15 : ¬ (rank a 1 = rank a 2 ∧ rank a 5 = rank a 6) := hsecond 5 (by omega) (by omega)
  obtain ⟨j, hj, h⟩ := List.exists_of_findSome?_eq_some h
  split_ifs at h with hsame hzero hone htwo
  · cases h
    subst hzero
    have hsame : rank a 0 = rank a 1 := hsame
    exact @makes_found _ 0 1 2 3 4 _ _ ha (by decide) (by decide)
        (@value_pair (rank a 0) (rank a 1) (rank a 2) (rank a 3) (rank a 4) (by omega) hsame (by omega) (by omega) (by omega)).symm
  · cases h
    subst hone
    have hsame : rank a 1 = rank a 2 := hsame
    exact @makes_found _ 0 1 2 3 4 _ _ ha (by decide) (by decide)
        (@value_pair_second (rank a 0) (rank a 1) (rank a 2) (rank a 3) (rank a 4) (by omega) hsame (by omega) (by omega) (by omega)).symm
  · cases h
    subst htwo
    have hsame : rank a 2 = rank a 3 := hsame
    exact @makes_found _ 0 1 2 3 4 _ _ ha (by decide) (by decide)
        (@value_pair_third (rank a 0) (rank a 1) (rank a 2) (rank a 3) (rank a 4) (by omega) hsame (by omega) (by omega) (by omega)).symm
  · cases h
    simp only [List.mem_cons, List.not_mem_nil, or_false] at hj
    have hcases : j = 3 ∨ j = 4 ∨ j = 5 := by omega
    rcases hcases with rfl | rfl | rfl
    · have hsame : rank a 3 = rank a 4 := hsame
      exact @makes_found _ 0 1 2 3 4 _ _ ha (by decide) (by decide)
        (@value_pair_low (rank a 0) (rank a 1) (rank a 2) (rank a 3) (rank a 4) (by omega) hsame (by omega) (by omega) (by omega)).symm
    · have hsame : rank a 4 = rank a 5 := hsame
      exact @makes_found _ 0 1 2 4 5 _ _ ha (by decide) (by decide)
        (@value_pair_low (rank a 0) (rank a 1) (rank a 2) (rank a 4) (rank a 5) (by omega) hsame (by omega) (by omega) (by omega)).symm
    · have hsame : rank a 5 = rank a 6 := hsame
      exact @makes_found _ 0 1 2 5 6 _ _ ha (by decide) (by decide)
        (@value_pair_low (rank a 0) (rank a 1) (rank a 2) (rank a 5) (rank a 6) (by omega) hsame (by omega) (by omega) (by omega)).symm

theorem noPair (h : pair a = none) (hj : j < 6) : rank a j ≠ rank a (j + 1) := by
  intro hsame
  have hmem : j ∈ [0, 1, 2, 3, 4, 5] := by
    simp only [List.mem_cons, List.not_mem_nil, or_false]
    omega
  have hnone := List.findSome?_eq_none_iff.mp h j hmem
  rw [if_pos hsame] at hnone
  split_ifs at hnone

theorem highCard_makes (ha : Ranked a) (hstraight : straightOrFullHouse a = none) (hlow : lowStraight a = none)
    (hpair : pair a = none) : Makes a (highCard a) := by
  obtain ⟨h01, h12, h23, h34, -, -⟩ := ha.falls
  exact @makes_found _ 0 1 2 3 4 _ _ ha (by decide) (by decide)
    (value_high ⟨h01, h12, h23, h34⟩ (noPair hpair (by omega)) (noPair hpair (by omega)) (noPair hpair (by omega))
      (noPair hpair (by omega)) (@straightOrFullHouse_none a 0 1 2 3 4 hstraight (by decide)).1
      (lowStraight_none hlow (by decide))).symm

end PokerTH.CardsValue
