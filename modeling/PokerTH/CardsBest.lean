import Mathlib.Order.Bounds.Basic
import PokerTH.CardsPairs

namespace PokerTH.CardsValue

variable {a g : List Card} {c d c1 c2 c3 c4 c5 d1 d2 d3 d4 d5 : Card} {e e' : Evaluation} {rest : List Card} {k s : Nat}

theorem tails_sorted (l : List Card) : l.tails.Pairwise fun x t => t <:+ x := by
  induction l with
  | nil => exact List.pairwise_singleton _ _
  | cons c l ih =>
      rw [List.tails_cons]
      refine List.pairwise_cons.mpr ⟨fun t ht => ?_, ih⟩
      exact ((List.mem_tails _ _).mp ht).trans (List.suffix_cons c l)

/-- Five of the seven cards, given by their indices in the array by ranks. -/
theorem Five.indices (ha : Ranked a) (h : Five a e c1 c2 c3 c4 c5) : ∃ k1 k2 k3 k4 k5,
    [k1, k2, k3, k4, k5].Sublist (List.range 7) ∧
      e.value = fiveValue false (rank a k1) (rank a k2) (rank a k3) (rank a k4) (rank a k5) := by
  have hperm : (a.filter fun c => decide (c ∈ [c1, c2, c3, c4, c5])).Perm [c1, c2, c3, c4, c5] := by
    refine (List.perm_ext_iff_of_nodup (ha.nodup.filter _) h.nodup).mpr fun c => ?_
    rw [List.mem_filter, decide_eq_true_eq]
    exact ⟨fun hc => hc.2, fun hc => ⟨h.mem c hc, hc⟩⟩
  have hsub : (a.filter fun c => decide (c ∈ [c1, c2, c3, c4, c5])).Sublist ((List.range 7).map (card a)) := by
    rw [ha.eq_map]
    exact List.filter_sublist
  obtain ⟨js, hjs, heq⟩ := List.sublist_map_iff.mp hsub
  have hlength : js.length = 5 := by
    rw [← List.length_map (card a), ← heq, hperm.length_eq]
    rfl
  obtain ⟨k1, k2, k3, k4, k5, rfl, hk⟩ := exists_five (hlength ▸ choices_of_sublist hjs)
  refine ⟨k1, k2, k3, k4, k5, hk, ?_⟩
  have hranks : [c1, c2, c3, c4, c5].map Card.rank = [rank a k1, rank a k2, rank a k3, rank a k4, rank a k5] := by
    have hmap := (hperm.map Card.rank).symm
    rw [heq, List.map_map] at hmap
    have hsorted : ([c1, c2, c3, c4, c5].map Card.rank).Pairwise fun x y => y ≤ x := List.pairwise_map.mpr h.sorted
    have hpicked : (a.filter fun c => decide (c ∈ [c1, c2, c3, c4, c5])).Pairwise fun c d => d.rank ≤ c.rank :=
      ha.sorted.filter _
    rw [heq] at hpicked
    have hpicked : ([k1, k2, k3, k4, k5].map (Card.rank ∘ card a)).Pairwise fun x y => y ≤ x :=
      List.pairwise_map.mpr (List.pairwise_map.mp hpicked)
    exact hmap.eq_of_pairwise (fun _ _ _ _ hxy hyx => Nat.le_antisymm hyx hxy) hsorted hpicked
  simp only [List.map_cons, List.map_nil, List.cons.injEq, and_true] at hranks
  rw [h.value, ha.suits _ h.nodup rfl h.mem]
  rw [hranks.1, hranks.2.1, hranks.2.2.1, hranks.2.2.2.1, hranks.2.2.2.2]

theorem value_suit {a b c d e : Nat} (hba : b < a) (hcb : c < b) (hdc : d < c) (hed : e < d) :
    fiveValue true a b c d e =
      if a = b + 1 ∧ b = c + 1 ∧ c = d + 1 ∧ d = e + 1 then if a = 12 then 900000000 else 800000000 + a * 1000000
      else if a = 12 ∧ b = 3 ∧ c = 2 ∧ d = 1 ∧ e = 0 then 800000000 + 3 * 1000000
      else 500000000 + a * 1000000 + b * 10000 + c * 100 + d * 10 + e := by
  simp only [fiveValue, true_and]
  by_cases hrun : a = b + 1 ∧ b = c + 1 ∧ c = d + 1 ∧ d = e + 1
  · rw [if_pos hrun, if_pos hrun]
  · conv_rhs => rw [if_neg hrun]
    rw [if_neg hrun]
    by_cases hwheel : a = 12 ∧ b = 3 ∧ c = 2 ∧ d = 1 ∧ e = 0
    · rw [if_pos hwheel, if_pos hwheel]
    · conv_rhs => rw [if_neg hwheel]
      rw [if_neg hwheel, if_neg (by omega), if_neg (by omega), if_neg (by omega), if_neg (by omega), if_pos trivial]

structure SuitedSeven (a : List Card) : Prop extends Suited a where
  length : a.length = 7
  nodup : a.Nodup
  ranks_le : ∀ c ∈ a, c.rank ≤ 12

theorem SuitedSeven.suit_unique (ha : SuitedSeven a) {s s' : Nat} (hs : 5 ≤ (ofSuit a s).length)
    (hs' : 5 ≤ (ofSuit a s').length) : s = s' := by
  by_contra hne
  have hdisjoint : (ofSuit a s).Disjoint (ofSuit a s') := fun c hc hc' =>
    hne ((mem_ofSuit.mp hc).2.symm.trans (mem_ofSuit.mp hc').2)
  have hnodup : (ofSuit a s ++ ofSuit a s').Nodup :=
    List.nodup_append'.mpr ⟨ha.nodup.filter _, ha.nodup.filter _, hdisjoint⟩
  have hsub : ofSuit a s ++ ofSuit a s' ⊆ a := fun c hc =>
    (List.mem_append.mp hc).elim (fun h => (mem_ofSuit.mp h).1) fun h => (mem_ofSuit.mp h).1
  have hle := (List.subperm_of_subset hnodup hsub).length_le
  rw [List.length_append, ha.length] at hle
  omega

theorem Five.ofSuit (ha : SuitedSeven a) (h : Five a e c1 c2 c3 c4 c5) (hone : oneSuit [c1, c2, c3, c4, c5] = true) :
    (∀ c ∈ [c1, c2, c3, c4, c5], c ∈ ofSuit a c1.suit) ∧ 5 ≤ (CardsValue.ofSuit a c1.suit).length ∧
      c2.rank < c1.rank ∧ c3.rank < c2.rank ∧ c4.rank < c3.rank ∧ c5.rank < c4.rank ∧
      e.value = fiveValue true c1.rank c2.rank c3.rank c4.rank c5.rank := by
  have hvalue := h.value
  rw [hone] at hvalue
  simp only [oneSuit, decide_eq_true_eq] at hone
  have hmem : ∀ c ∈ [c1, c2, c3, c4, c5], c ∈ CardsValue.ofSuit a c1.suit := fun c hc =>
    mem_ofSuit.mpr ⟨h.mem c hc, hone c hc c1 (List.mem_cons_self ..)⟩
  have hranks := ha.toSuited.ofSuit c1.suit
  have hnodup : ((CardsValue.ofSuit a c1.suit).map Card.rank).Nodup :=
    List.pairwise_map.mpr (hranks.imp fun hless heq => by omega)
  have hfall : [c1, c2, c3, c4, c5].Pairwise fun c d => d.rank < c.rank := by
    refine (h.sorted.and h.nodup).imp_of_mem fun hc hd hboth => ?_
    refine Nat.lt_of_le_of_ne hboth.1 fun hrank => hboth.2 ?_
    exact List.inj_on_of_nodup_map hnodup (hmem _ hc) (hmem _ hd) hrank.symm
  have hlength := (List.subperm_of_subset h.nodup hmem).length_le
  simp only [List.pairwise_cons, List.mem_cons, List.not_mem_nil, or_false, forall_eq_or_imp, forall_eq] at hfall
  exact ⟨hmem, hlength, hfall.1.1, hfall.2.1.1, hfall.2.2.1.1, hfall.2.2.2.1, hvalue⟩

theorem rank_le_head (hg : (d :: g).Pairwise fun c d => d.rank < c.rank) (hc : c ∈ d :: g) : c.rank ≤ d.rank := by
  rcases List.mem_cons.mp hc with rfl | hc
  · exact le_refl _
  · exact ((List.pairwise_cons.mp hg).1 c hc).le

theorem mem_tail_of_rank (hc : c ∈ d :: g) (hless : c.rank < d.rank) : c ∈ g := by
  rcases List.mem_cons.mp hc with rfl | hc
  · omega
  · exact hc

theorem exists_rest (h : 5 ≤ g.length) : ∃ c1 c2 c3 c4 c5 rest, g = c1 :: c2 :: c3 :: c4 :: c5 :: rest := by
  rcases g with _ | ⟨c1, _ | ⟨c2, _ | ⟨c3, _ | ⟨c4, _ | ⟨c5, rest⟩⟩⟩⟩⟩
  · simp at h
  · simp at h
  · simp at h
  · simp at h
  · simp at h
  · exact ⟨c1, c2, c3, c4, c5, rest, rfl⟩

theorem flush_first (ha : SuitedSeven a) (h : flush a = some e) : ∃ d1 d2 d3 d4 d5 rest,
    ofSuit a d1.suit = d1 :: d2 :: d3 :: d4 :: d5 :: rest ∧
      e.value = 500000000 + d1.rank * 1000000 + d2.rank * 10000 + d3.rank * 100 + d4.rank * 10 + d5.rank := by
  obtain ⟨x, hx, hfound, hfirst⟩ := findSome_first (tails_sorted a) h
  have hx := (List.mem_tails _ _).mp hx
  rcases x with _ | ⟨d1, _ | ⟨d2, _ | ⟨d3, _ | ⟨d4, _ | ⟨d5, x⟩⟩⟩⟩⟩
  · cases hfound
  · cases hfound
  · cases hfound
  · cases hfound
  · cases hfound
  · dsimp only at hfound
    split_ifs at hfound with hsuits
    cases hfound
    obtain ⟨pre, post, hsplit⟩ := infix_ofSuit ha.suits d1.suit
    have hbefore : ofSuit pre d1.suit = [] := by
      have hfilter := congrArg (fun l => (ofSuit l d1.suit).length) hsplit
      simp only [ofSuit, List.filter_append, List.filter_filter, Bool.and_self, List.length_append] at hfilter
      exact List.length_eq_zero_iff.mp (by rw [ofSuit]; omega)
    have hsub : [d1, d2, d3, d4, d5] ⊆ ofSuit a d1.suit := fun d hd => by
      refine mem_ofSuit.mpr ⟨hx.subset (List.mem_append_left x hd), ?_⟩
      simp only [List.mem_cons, List.not_mem_nil, or_false] at hd
      rcases hd with rfl | rfl | rfl | rfl | rfl
      · rfl
      · exact hsuits.1.symm
      · exact hsuits.2.1.symm
      · exact hsuits.2.2.1.symm
      · exact hsuits.2.2.2.symm
    have hnodup : [d1, d2, d3, d4, d5].Nodup :=
      ((ha.nodup.sublist hx.sublist).sublist (List.sublist_append_left [d1, d2, d3, d4, d5] x))
    have hlong := (List.subperm_of_subset hnodup hsub).length_le
    have hsuit : ∀ c ∈ ofSuit a d1.suit, c.suit = d1.suit := fun c hc => (mem_ofSuit.mp hc).2
    obtain ⟨c1, c2, c3, c4, c5, rest, hcards⟩ := exists_rest hlong
    rw [hcards] at hsplit hsuit
    -- the cards of the suit are the first place with a flush
    have hsegment : c1 :: c2 :: c3 :: c4 :: c5 :: rest ++ post <:+ d1 :: d2 :: d3 :: d4 :: d5 :: x := by
      have htail : c1 :: c2 :: c3 :: c4 :: c5 :: rest ++ post ∈ a.tails :=
        (List.mem_tails _ _).mpr ⟨pre, by rw [← List.append_assoc]; exact hsplit⟩
      have hle := hfirst _ htail (by
        have h1 := hsuit c1 (by simp)
        have h2 := hsuit c2 (by simp)
        have h3 := hsuit c3 (by simp)
        have h4 := hsuit c4 (by simp)
        have h5 := hsuit c5 (by simp)
        simp only [List.cons_append]
        rw [if_pos ⟨by omega, by omega, by omega, by omega⟩]
        rfl)
      rcases hle with heq | hle
      · rw [heq]
      · exact hle
    obtain ⟨between, hbetween⟩ := hsegment
    obtain rfl : between = [] := by
      obtain ⟨front, hfront⟩ := hx
      rw [← hbetween, ← hsplit, ← List.append_assoc, List.append_assoc pre] at hfront
      have hpre := List.append_cancel_right hfront
      cases between with
      | nil => rfl
      | cons d between =>
          rw [List.cons_append, List.cons.injEq] at hbetween
          have hmem : d1 ∈ ofSuit pre d1.suit := by
            rw [← hpre, mem_ofSuit, hbetween.1]
            exact ⟨List.mem_append_right front (List.mem_cons_self ..), rfl⟩
          rw [hbefore] at hmem
          cases hmem
    simp only [List.nil_append, List.cons_append, List.cons.injEq] at hbetween
    obtain ⟨rfl, rfl, rfl, rfl, rfl, -⟩ := hbetween
    exact ⟨c1, c2, c3, c4, c5, rest, hcards, rfl⟩

theorem highStraightFlush_greatest (hg : g.Pairwise fun c d => d.rank < c.rank)
    (hmem : ∀ c ∈ [c1, c2, c3, c4, c5], c ∈ g) (hrun : consecutive [c1, c2, c3, c4, c5] = true)
    (h : highStraightFlush g = some e) :
    ∃ d, d ∈ g ∧ c1.rank ≤ d.rank ∧ e.value = if d.rank = 12 then 900000000 else 800000000 + d.rank * 1000000 := by
  obtain ⟨x, hx, hfound, hfirst⟩ := findSome_first (tails_sorted g) h
  have hx := (List.mem_tails _ _).mp hx
  obtain ⟨rest, hsuffix⟩ := suffix_of_five hg (hmem c1 (by simp)) (hmem c2 (by simp)) (hmem c3 (by simp))
    (hmem c4 (by simp)) (hmem c5 (by simp)) hrun
  have hafter : c1 ∈ x := by
    have hle := hfirst _ ((List.mem_tails _ _).mpr hsuffix) (by
      dsimp only
      rw [if_pos hrun]
      rfl)
    rcases hle with rfl | hle
    · exact List.mem_cons_self ..
    · exact hle.subset (List.mem_cons_self ..)
  rcases x with _ | ⟨d1, _ | ⟨d2, _ | ⟨d3, _ | ⟨d4, _ | ⟨d5, rest⟩⟩⟩⟩⟩
  · cases hfound
  · cases hfound
  · cases hfound
  · cases hfound
  · cases hfound
  · dsimp only at hfound
    by_cases hrun' : consecutive [d1, d2, d3, d4, d5] = true
    · rw [if_pos hrun'] at hfound
      cases hfound
      exact ⟨d1, hx.subset (List.mem_cons_self ..), rank_le_head (hg.sublist hx.sublist) hafter, rfl⟩
    · rw [if_neg hrun'] at hfound
      cases hfound

theorem not_run_of_high (hg : g.Pairwise fun c d => d.rank < c.rank) (hnone : highStraightFlush g = none)
    (hmem : ∀ c ∈ [c1, c2, c3, c4, c5], c ∈ g) : consecutive [c1, c2, c3, c4, c5] = false := by
  by_contra hrun
  have hrun : consecutive [c1, c2, c3, c4, c5] = true := by simpa using hrun
  obtain ⟨rest, hsuffix⟩ := suffix_of_five hg (hmem c1 (by simp)) (hmem c2 (by simp)) (hmem c3 (by simp))
    (hmem c4 (by simp)) (hmem c5 (by simp)) hrun
  have hnot := List.findSome?_eq_none_iff.mp hnone _ ((List.mem_tails _ _).mpr hsuffix)
  dsimp only at hnot
  rw [if_pos hrun] at hnot
  cases hnot

theorem straightFlush_greatest (ha : SuitedSeven a) (h : straightFlush 7 a = some e)
    (hfive : Five a e' c1 c2 c3 c4 c5) : e'.value ≤ e.value := by
  obtain ⟨s, hs⟩ := straightFlush_some ha.suits h
  have hranks := ha.toSuited.ofSuit s
  have htwelve : ∀ c ∈ ofSuit a s, c.rank ≤ 12 := fun c hc => ha.ranks_le c (mem_ofSuit.mp hc).1
  have hace : c1.rank ≤ 12 := ha.ranks_le c1 (hfive.mem c1 (List.mem_cons_self ..))
  have hsorted := hfive.sorted
  simp only [List.pairwise_cons, List.mem_cons, List.not_mem_nil, or_false, forall_eq_or_imp, forall_eq] at hsorted
  simp only [suitStraightFlush] at hs
  split_ifs at hs with hlong
  -- the least straight flush
  have hleast : 800000000 + 3 * 1000000 ≤ e.value := by
    rcases Option.or_eq_some_iff.mp hs with hhigh | ⟨-, hlow⟩
    · obtain ⟨d1, d2, d3, d4, d5, -, hrun, rfl⟩ := highStraightFlush_some hhigh
      have hrun := consecutive_five.mp hrun
      simp only [made]
      split_ifs <;> omega
    · obtain ⟨ace, d2, d3, d4, d5, -, -, -, -, -, rfl⟩ := lowStraightFlush_some hlow
      exact le_refl _
  cases hone : oneSuit [c1, c2, c3, c4, c5] with
  | false =>
      have hless : fiveValue false c1.rank c2.rank c3.rank c4.rank c5.rank ≤ 800000000 + 3 * 1000000 :=
        le_four ⟨hsorted.1.1, hsorted.2.1.1, hsorted.2.2.1.1, hsorted.2.2.2.1⟩ hace (fun _ => by omega)
          (fun _ => by omega) (by omega)
      rw [hfive.value, hone]
      exact hless.trans hleast
  | true =>
      obtain ⟨hmem, hfives, h12, h23, h34, h45, hvalue⟩ := hfive.ofSuit ha hone
      obtain rfl := ha.suit_unique hlong hfives
      rw [hvalue, value_suit h12 h23 h34 h45]
      by_cases hrun : c1.rank = c2.rank + 1 ∧ c2.rank = c3.rank + 1 ∧ c3.rank = c4.rank + 1 ∧ c4.rank = c5.rank + 1
      · rw [if_pos hrun]
        rcases Option.or_eq_some_iff.mp hs with hhigh | ⟨hnone, -⟩
        · obtain ⟨d, hd, hle, hd'⟩ := highStraightFlush_greatest hranks hmem (consecutive_five.mpr hrun) hhigh
          have hdtwelve := htwelve d hd
          rw [hd']
          clear hd' hleast hvalue
          refine ite_le (fun hc => ?_) fun hc => ?_
          · rw [if_pos (by omega)]
          · split_ifs
            · omega
            · omega
        · have hnot := not_run_of_high hranks hnone hmem
          rw [consecutive_five.mpr hrun] at hnot
          cases hnot
      · rw [if_neg hrun]
        split_ifs
        · exact hleast
        · omega

theorem flush_greatest (ha : SuitedSeven a) (hnone : straightFlush 7 a = none) (h : flush a = some e)
    (hfive : Five a e' c1 c2 c3 c4 c5) : e'.value ≤ e.value := by
  obtain ⟨d1, d2, d3, d4, d5, rest, hcards, hvalue⟩ := flush_first ha h
  have hranks := ha.toSuited.ofSuit d1.suit
  have hsorted := hfive.sorted
  simp only [List.pairwise_cons, List.mem_cons, List.not_mem_nil, or_false, forall_eq_or_imp, forall_eq] at hsorted
  have hace : c1.rank ≤ 12 := ha.ranks_le c1 (hfive.mem c1 (List.mem_cons_self ..))
  have hlong : 5 ≤ (ofSuit a d1.suit).length := by
    rw [hcards]
    simp only [List.length_cons]
    omega
  rw [hcards] at hranks
  cases hone : oneSuit [c1, c2, c3, c4, c5] with
  | false =>
      have hnodup : ([d1, d2, d3, d4, d5].map Card.rank).Nodup := by
        have hpair := hranks.sublist (List.sublist_append_left [d1, d2, d3, d4, d5] rest)
        exact List.pairwise_map.mpr (hpair.imp fun hless heq => by omega)
      have hmem : [d1, d2, d3, d4, d5] ⊆ a := fun d hd => by
        have hin : d ∈ ofSuit a d1.suit := by
          rw [hcards]
          exact List.mem_append_left rest hd
        exact (mem_ofSuit.mp hin).1
      have hnot : ∀ x y, (∀ c ∈ [c1, c2, c3, c4, c5], c.rank = x ∨ c.rank = y) → False := fun x y htwo =>
        not_two_ranks ha.length hfive.nodup rfl hfive.mem hnodup rfl hmem htwo
      have hless : fiveValue false c1.rank c2.rank c3.rank c4.rank c5.rank ≤ 500000000 := by
        refine le_straight ⟨hsorted.1.1, hsorted.2.1.1, hsorted.2.2.1.1, hsorted.2.2.2.1⟩ hace (fun h => ?_)
          (fun h => ?_) (fun h => ?_) (fun h => ?_) (fun _ => by omega) (fun _ => by omega) (by omega)
        all_goals
          refine hnot c1.rank c5.rank fun c hc => ?_
          simp only [List.mem_cons, List.not_mem_nil, or_false] at hc
          rcases hc with rfl | rfl | rfl | rfl | rfl
        all_goals omega
      rw [hfive.value, hone, hvalue]
      exact hless.trans (by omega)
  | true =>
      obtain ⟨hmem, hfives, h12, h23, h34, h45, hvalue'⟩ := hfive.ofSuit ha hone
      obtain hsuit := ha.suit_unique hfives hlong
      have hstraight := straightFlush_none ha.suits ha.length.le hnone d1.suit
      rw [hsuit, hcards] at hmem
      rw [hcards] at hstraight
      have h1 := hmem c1 (by simp)
      have h2 := hmem c2 (by simp)
      have h3 := hmem c3 (by simp)
      have h4 := hmem c4 (by simp)
      have h5 := hmem c5 (by simp)
      rw [hvalue', value_suit h12 h23 h34 h45, hvalue, if_neg, if_neg]
      · -- card by card
        have hle1 := rank_le_head hranks h1
        have hranks2 := (List.pairwise_cons.mp hranks).2
        have h2 := mem_tail_of_rank h2 (by omega)
        have hle2 := rank_le_head hranks2 h2
        have hranks3 := (List.pairwise_cons.mp hranks2).2
        have h3 := mem_tail_of_rank (mem_tail_of_rank h3 (by omega)) (by omega)
        have hle3 := rank_le_head hranks3 h3
        have hranks4 := (List.pairwise_cons.mp hranks3).2
        have h4 := mem_tail_of_rank (mem_tail_of_rank (mem_tail_of_rank h4 (by omega)) (by omega)) (by omega)
        have hle4 := rank_le_head hranks4 h4
        have h5 := mem_tail_of_rank (mem_tail_of_rank (mem_tail_of_rank (mem_tail_of_rank h5 (by omega)) (by omega))
          (by omega)) (by omega)
        have hle5 := rank_le_head (List.pairwise_cons.mp hranks4).2 h5
        omega
      · rintro ⟨htwelve, hthree, htwo, hunit, hzero⟩
        have hlow := not_low hranks hstraight h1 h2 h3 h4 h5 htwelve hthree
        rw [consecutive_four.mpr ⟨by omega, by omega, by omega⟩] at hlow
        cases hlow
      · intro hrun
        have hnot := not_consecutive hranks hstraight h1 h2 h3 h4 h5
        rw [consecutive_five.mpr hrun] at hnot
        cases hnot

end PokerTH.CardsValue
