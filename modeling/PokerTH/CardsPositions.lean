import PokerTH.CardsRanked

namespace PokerTH.CardsValue

variable {a b : List Card} {e : Evaluation} {cards : List Nat} {c d : Card}

theorem Makes.mono (h : Makes a e) (hab : ∀ c ∈ a, c ∈ b) : Makes b e := by
  obtain ⟨c1, c2, c3, c4, c5, hfive⟩ := h
  exact ⟨c1, c2, c3, c4, c5, hfive.nodup, fun c hc => hab c (hfive.mem c hc), hfive.sorted, hfive.position, hfive.value⟩

theorem suited_bySuit (hdistinct : cards.Nodup) (hlength : (array cards).length ≤ 7) :
    Suited (bySuit (array cards)) := by
  have hperm := bySuit_perm hlength
  have hnodup : (bySuit (array cards)).Nodup := hperm.nodup_iff.mpr nodup_array
  refine ⟨bySuit_suits hlength, ?_⟩
  refine ((bySuit_ranks hlength).and hnodup).imp_of_mem fun hc hd hboth hsuit => ?_
  refine Nat.lt_of_le_of_ne (hboth.1 hsuit) fun hrank => hboth.2 ?_
  exact eq_of_mem_array hdistinct (hperm.mem_iff.mp hc) (hperm.mem_iff.mp hd) hsuit hrank.symm

theorem not_oneSuit {s : List Card} (hs : Suited s) (hflush : flush s = none) {cs : List Card} (hcs : cs.Nodup)
    (hfive : cs.length = 5) (hmem : ∀ c ∈ cs, c ∈ s) : oneSuit cs = false := by
  by_contra hone
  have hone : oneSuit cs = true := by simpa using hone
  simp only [oneSuit, decide_eq_true_eq] at hone
  obtain ⟨c, hc⟩ := List.exists_mem_of_length_pos (l := cs) (by omega)
  have hsub : cs ⊆ ofSuit s c.suit := fun d hd => mem_ofSuit.mpr ⟨hmem d hd, hone d hd c hc⟩
  have hle := (List.subperm_of_subset hcs hsub).length_le
  have hshort := flush_none hs hflush c.suit
  omega

theorem ranked_byRank (hdistinct : cards.Nodup) (hlength : (array cards).length = 7)
    (hflush : flush (bySuit (array cards)) = none) : Ranked (byRank (bySuit (array cards))) := by
  have hsuits := bySuit_perm hlength.le
  have hranks := byRank_perm (hsuits.length_eq.trans hlength).le
  have hperm := hranks.trans hsuits
  refine ⟨hperm.length_eq.trans hlength, hperm.nodup_iff.mpr nodup_array,
    byRank_sorted (hsuits.length_eq.trans hlength).le, fun c hc => ?_, fun cs hcs hfive hmem => ?_⟩
  · obtain ⟨hlt, -, hrank⟩ := mem_array (hperm.mem_iff.mp hc)
    have hmod := Nat.mod_lt cards[c.pos] (show 0 < 13 by decide)
    omega
  · exact not_oneSuit (suited_bySuit hdistinct hlength.le) hflush hcs hfive fun c hc => hranks.mem_iff.mp (hmem c hc)

theorem ranks_make (ha : Ranked a) : Makes a
    (((fourOfAKind a).or <| (straightOrFullHouse a).or <| (lowStraight a).or <| (threeOfAKind a).or <|
      (twoPairs a).or <| pair a).getD (highCard a)) := by
  cases hfour : fourOfAKind a with
  | some e => exact fourOfAKind_makes ha hfour
  | none =>
      have hnofour := fourOfAKind_none ha hfour
      cases hfull : straightOrFullHouse a with
      | some e => exact straightOrFullHouse_makes ha hnofour hfull
      | none =>
          cases hlow : lowStraight a with
          | some e => exact lowStraight_makes ha hlow
          | none =>
              cases hthree : threeOfAKind a with
              | some e => exact threeOfAKind_makes ha hnofour hfull hthree
              | none =>
                  have hnothree := threeOfAKind_none ha hthree
                  cases hpairs : twoPairs a with
                  | some e => exact twoPairs_makes ha hnothree hpairs
                  | none =>
                      cases hpair : pair a with
                      | some e => exact pair_makes ha hnothree hpairs hpair
                      | none => exact highCard_makes ha hfull hlow hpair

theorem cardsValue_makes (h7 : cards.length = 7) (hdistinct : cards.Nodup) :
    Makes (array cards) (cardsValue cards) := by
  have hlength : (array cards).length = 7 := length_array.trans h7
  have hsuited := suited_bySuit hdistinct hlength.le
  have hsuits := bySuit_perm hlength.le
  have hranks := byRank_perm (hsuits.length_eq.trans hlength).le
  simp only [cardsValue]
  cases hstraight : straightFlush 7 (bySuit (array cards)) with
  | some e => exact (straightFlush_makes hsuited hstraight).mono fun c hc => hsuits.mem_iff.mp hc
  | none =>
      cases hflush : flush (bySuit (array cards)) with
      | some e =>
          exact (flush_makes hsuited (hsuits.length_eq.trans hlength).le hstraight hflush).mono fun c hc =>
            hsuits.mem_iff.mp hc
      | none =>
          exact (ranks_make (ranked_byRank hdistinct hlength hflush)).mono fun c hc =>
            hsuits.mem_iff.mp (hranks.mem_iff.mp hc)

theorem getD_pos (hc : c ∈ array cards) : cards.getD c.pos 0 / 13 = c.suit ∧ cards.getD c.pos 0 % 13 = c.rank := by
  obtain ⟨hlt, hsuit, hrank⟩ := mem_array hc
  rw [List.getD_eq_getElem?_getD, List.getElem?_eq_getElem hlt]
  exact ⟨hsuit.symm, hrank.symm⟩

theorem eq_of_pos (hc : c ∈ array cards) (hd : d ∈ array cards) (hpos : c.pos = d.pos) : c = d := by
  obtain ⟨hcsuit, hcrank⟩ := getD_pos hc
  obtain ⟨hdsuit, hdrank⟩ := getD_pos hd
  rw [hpos] at hcsuit hcrank
  cases c
  cases d
  simp_all

/-- The cards that an evaluation points to have, on their own, the value of the evaluation. -/
theorem handValue_makes {c1 c2 c3 c4 c5 : Card} (h : Five (array cards) e c1 c2 c3 c4 c5) :
    handValue (e.position.map fun i => cards.getD i 0) = e.value := by
  have hperm : (e.position.map fun i => cards.getD i 0).Perm
      ([c1, c2, c3, c4, c5].map fun c => cards.getD c.pos 0) := by
    have hmap := h.position.map fun i => cards.getD i 0
    rwa [List.map_map] at hmap
  have hranks : ([c1, c2, c3, c4, c5].map fun c => cards.getD c.pos 0).map (· % 13) =
      [c1, c2, c3, c4, c5].map Card.rank := by
    rw [List.map_map]
    exact List.map_congr_left fun c hc => (getD_pos (h.mem c hc)).2
  have hsort : Lists.sort ((e.position.map fun i => cards.getD i 0).map (· % 13)) =
      [c5.rank, c4.rank, c3.rank, c2.rank, c1.rank] := by
    refine Lists.sort_eq_of_perm ?_ ?_
    · have hfall := hperm.map (· % 13)
      rw [hranks] at hfall
      exact hfall.trans (List.reverse_perm [c1.rank, c2.rank, c3.rank, c4.rank, c5.rank]).symm
    · have hsorted : ([c1, c2, c3, c4, c5].map Card.rank).Pairwise fun x y => y ≤ x := List.pairwise_map.mpr h.sorted
      exact List.pairwise_reverse.mpr hsorted
  have hsuits : (decide (∀ x ∈ e.position.map fun i => cards.getD i 0, ∀ y ∈ e.position.map fun i => cards.getD i 0,
      x / 13 = y / 13)) = oneSuit [c1, c2, c3, c4, c5] := by
    simp only [oneSuit]
    refine decide_eq_decide.mpr ⟨fun hall c hc d hd => ?_, fun hall x hx y hy => ?_⟩
    · have hx := hperm.mem_iff.mpr (List.mem_map_of_mem (f := fun c : Card => cards.getD c.pos 0) hc)
      have hy := hperm.mem_iff.mpr (List.mem_map_of_mem (f := fun c : Card => cards.getD c.pos 0) hd)
      rw [← (getD_pos (h.mem c hc)).1, ← (getD_pos (h.mem d hd)).1]
      exact hall _ hx _ hy
    · obtain ⟨c, hc, rfl⟩ := List.mem_map.mp (hperm.mem_iff.mp hx)
      obtain ⟨d, hd, rfl⟩ := List.mem_map.mp (hperm.mem_iff.mp hy)
      rw [(getD_pos (h.mem c hc)).1, (getD_pos (h.mem d hd)).1]
      exact hall c hc d hd
  rw [handValue, hsort, hsuits]
  exact h.value.symm

/-- The reported positions are those of five different cards whose value is the reported one. -/
theorem position_of_value (cards : List Nat) (h7 : cards.length = 7) (hdistinct : cards.Nodup) :
    (cardsValue cards).position.length = 5 ∧ (cardsValue cards).position.Nodup ∧
      (∀ i ∈ (cardsValue cards).position, i < 7) ∧
      handValue ((cardsValue cards).position.map fun i => cards.getD i 0) = (cardsValue cards).value := by
  obtain ⟨c1, c2, c3, c4, c5, hfive⟩ := cardsValue_makes h7 hdistinct
  refine ⟨hfive.position.length_eq, ?_, fun i hi => ?_, handValue_makes hfive⟩
  · refine hfive.position.nodup_iff.mpr (hfive.nodup.map_on fun c hc d hd hpos => ?_)
    exact eq_of_pos (hfive.mem c hc) (hfive.mem d hd) hpos
  · obtain ⟨c, hc, rfl⟩ := List.mem_map.mp (hfive.position.mem_iff.mp hi)
    obtain ⟨hlt, -⟩ := mem_array (hfive.mem c hc)
    omega

/-- The straight from the five down to the ace, in one suit. -/
theorem position_of_value_wheel : handValue ((cardsValue [12, 0, 1, 2, 3, 30, 31]).position.map fun i =>
    [12, 0, 1, 2, 3, 30, 31].getD i 0) = (cardsValue [12, 0, 1, 2, 3, 30, 31]).value :=
  (position_of_value [12, 0, 1, 2, 3, 30, 31] (by decide) (by decide)).2.2.2

end PokerTH.CardsValue
