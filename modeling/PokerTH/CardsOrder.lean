import PokerTH.CardsBest

namespace PokerTH.CardsValue

variable {cards five hand : List Nat} {e : Evaluation} {c1 c2 c3 c4 c5 : Card}

theorem handValue_perm (h : five.Perm hand) : handValue five = handValue hand := by
  have hsort : Lists.sort (five.map (· % 13)) = Lists.sort (hand.map (· % 13)) :=
    Lists.sort_eq_of_perm ((h.map _).trans (Lists.sort_perm _).symm) (Lists.sort_sorted _)
  have hsuits : (∀ x ∈ five, ∀ y ∈ five, x / 13 = y / 13) ↔ ∀ x ∈ hand, ∀ y ∈ hand, x / 13 = y / 13 := by
    simp only [h.mem_iff]
  rw [handValue, handValue, hsort, decide_eq_decide.mpr hsuits]

theorem map_array : (array cards).map (fun c => cards.getD c.pos 0) = cards := by
  apply List.ext_getElem
  · simp [array]
  · intro i _ hi
    simp [array, hi]

theorem exists_sorted (l : List Card) : ∃ m : List Card, m.Perm l ∧ m.Pairwise fun c d => d.rank ≤ c.rank := by
  refine ⟨l.mergeSort fun c d => decide (d.rank ≤ c.rank), List.mergeSort_perm _ _, ?_⟩
  refine (List.pairwise_mergeSort (fun c d e hcd hde => ?_) (fun c d => ?_) l).imp fun hle => of_decide_eq_true hle
  · rw [decide_eq_true_eq] at hcd hde ⊢
    exact hde.trans hcd
  · simpa using Nat.le_total d.rank c.rank

theorem exists_makes (hsub : five.Subperm cards) (hlength : five.length = 5) :
    ∃ e, Makes (array cards) e ∧ e.value = handValue five := by
  obtain ⟨picked, hperm, hpicked⟩ := hsub
  rw [← @map_array cards] at hpicked
  obtain ⟨l, hl, rfl⟩ := List.sublist_map_iff.mp hpicked
  obtain ⟨m, hm, hsorted⟩ := exists_sorted l
  have hfive : m.length = 5 := by
    rw [hm.length_eq, ← List.length_map, hperm.length_eq, hlength]
  rcases m with _ | ⟨c1, _ | ⟨c2, _ | ⟨c3, _ | ⟨c4, _ | ⟨c5, _ | ⟨c6, m⟩⟩⟩⟩⟩⟩
  · cases hfive
  · cases hfive
  · cases hfive
  · cases hfive
  · cases hfive
  · have hmade : Five (array cards) (made
        (fiveValue (oneSuit [c1, c2, c3, c4, c5]) c1.rank c2.rank c3.rank c4.rank c5.rank) [c1, c2, c3, c4, c5])
        c1 c2 c3 c4 c5 :=
      ⟨hm.nodup_iff.mpr (nodup_array.sublist hl), fun c hc => hl.subset (hm.subset hc), hsorted, .refl _, rfl⟩
    refine ⟨_, ⟨c1, c2, c3, c4, c5, hmade⟩, ?_⟩
    rw [← handValue_makes hmade]
    refine handValue_perm ?_
    have hcards := (hm.map fun c => cards.getD c.pos 0).trans hperm
    simp only [made, List.map_map]
    exact hcards
  · simp at hfive

theorem Five.mono {a b : List Card} (h : Five a e c1 c2 c3 c4 c5) (hab : ∀ c ∈ a, c ∈ b) : Five b e c1 c2 c3 c4 c5 :=
  ⟨h.nodup, fun c hc => hab c (h.mem c hc), h.sorted, h.position, h.value⟩

theorem makes_le (h7 : cards.length = 7) (hdistinct : cards.Nodup) (h : Makes (array cards) e) :
    e.value ≤ (cardsValue cards).value := by
  obtain ⟨c1, c2, c3, c4, c5, hfive⟩ := h
  have hlength : (array cards).length = 7 := length_array.trans h7
  have hsuits := bySuit_perm hlength.le
  have hranks := byRank_perm (hsuits.length_eq.trans hlength).le
  have hseven : SuitedSeven (bySuit (array cards)) := by
    refine ⟨suited_bySuit hdistinct hlength.le, hsuits.length_eq.trans hlength, hsuits.nodup_iff.mpr nodup_array,
      fun c hc => ?_⟩
    obtain ⟨hlt, -, hrank⟩ := mem_array (hsuits.mem_iff.mp hc)
    omega
  have hfive' := hfive.mono fun c hc => hsuits.mem_iff.mpr hc
  simp only [cardsValue]
  cases hstraight : straightFlush 7 (bySuit (array cards)) with
  | some e => exact straightFlush_greatest hseven hstraight hfive'
  | none =>
      cases hflush : flush (bySuit (array cards)) with
      | some e => exact flush_greatest hseven hstraight hflush hfive'
      | none =>
          have hranked := ranked_byRank hdistinct hlength hflush
          obtain ⟨k1, k2, k3, k4, k5, hsub, hvalue⟩ := (hfive'.mono fun c hc => hranks.mem_iff.mpr hc).indices hranked
          rw [hvalue]
          exact ranks_greatest hranked hsub

theorem greatest (h7 : cards.length = 7) (hdistinct : cards.Nodup) :
    IsGreatest {value | ∃ five : List Nat, five.Subperm cards ∧ five.length = 5 ∧ handValue five = value}
      (cardsValue cards).value := by
  constructor
  · obtain ⟨c1, c2, c3, c4, c5, hfive⟩ := cardsValue_makes h7 hdistinct
    refine ⟨(cardsValue cards).position.map fun i => cards.getD i 0, ?_, ?_, handValue_makes hfive⟩
    · have hperm := hfive.position.map fun i => cards.getD i 0
      rw [List.map_map] at hperm
      refine hperm.subperm.trans ?_
      obtain ⟨picked, hpicked, hsub⟩ := List.subperm_of_subset hfive.nodup hfive.mem
      have hsub := hsub.map fun c : Card => cards.getD c.pos 0
      rw [map_array] at hsub
      exact ⟨_, hpicked.map _, hsub⟩
    · rw [List.length_map]
      exact hfive.position.length_eq
  · rintro value ⟨five, hsub, hlength, rfl⟩
    obtain ⟨e, he, hvalue⟩ := exists_makes hsub hlength
    rw [← hvalue]
    exact makes_le h7 hdistinct he

/-- The value of seven different cards is the greatest value of five of them. -/
theorem value_isGreatest (h7 : cards.length = 7) (hdistinct : cards.Nodup) :
    IsGreatest {value | ∃ five : List Nat, five.Subperm cards ∧ five.length = 5 ∧ handValue five = value}
      (cardsValue cards).value := greatest h7 hdistinct

/-- Seven cards of which the board has four to a straight flush, and the player the fifth. -/
theorem value_isGreatest_steel_wheel : IsGreatest {value | ∃ five : List Nat,
    five.Subperm [26, 51, 27, 28, 29, 38, 12] ∧ five.length = 5 ∧ handValue five = value} 803000000 :=
  value_isGreatest (show [26, 51, 27, 28, 29, 38, 12].length = 7 by decide) (by decide)

def renamed (suit : Nat → Nat) (card : Nat) : Nat := 13 * suit (card / 13) + card % 13

variable {suit : Nat → Nat} {card : Nat}

theorem renamed_rank : renamed suit card % 13 = card % 13 := by
  rw [renamed]
  omega

theorem renamed_suit : renamed suit card / 13 = suit (card / 13) := by
  rw [renamed]
  omega

theorem renamed_injective (hsuit : suit.Injective) : (renamed suit).Injective := by
  intro x y hxy
  have hrank : x % 13 = y % 13 := by
    rw [← @renamed_rank suit x, hxy, renamed_rank]
  have hsame : x / 13 = y / 13 := by
    apply hsuit
    rw [← @renamed_suit suit x, hxy, renamed_suit]
  omega

theorem handValue_renamed (hsuit : suit.Injective) : handValue (five.map (renamed suit)) = handValue five := by
  have hranks : (five.map (renamed suit)).map (· % 13) = five.map (· % 13) := by
    rw [List.map_map]
    exact List.map_congr_left fun card _ => renamed_rank
  have hsuits : (∀ x ∈ five.map (renamed suit), ∀ y ∈ five.map (renamed suit), x / 13 = y / 13) ↔
      ∀ x ∈ five, ∀ y ∈ five, x / 13 = y / 13 := by
    simp only [List.forall_mem_map, renamed_suit]
    exact ⟨fun h x hx y hy => hsuit (h x hx y hy), fun h x hx y hy => congrArg suit (h x hx y hy)⟩
  rw [handValue, handValue, hranks, decide_eq_decide.mpr hsuits]

theorem same_value (h7 : cards.length = 7) (hdistinct : cards.Nodup) (hsuit : suit.Injective)
    (hperm : hand.Perm (cards.map (renamed suit))) : (cardsValue hand).value = (cardsValue cards).value := by
  have hlength : hand.length = 7 := by rw [hperm.length_eq, List.length_map, h7]
  have hnodup : hand.Nodup := hperm.nodup_iff.mpr (hdistinct.map (renamed_injective hsuit))
  have hgreatest := greatest hlength hnodup
  have hvalues : {value | ∃ five : List Nat, five.Subperm hand ∧ five.length = 5 ∧ handValue five = value} =
      {value | ∃ five : List Nat, five.Subperm cards ∧ five.length = 5 ∧ handValue five = value} := by
    ext value
    constructor
    · rintro ⟨five, hsub, hfive, rfl⟩
      obtain ⟨picked, hpicked, hpicked'⟩ := hsub.trans hperm.subperm
      obtain ⟨five', hfive', rfl⟩ := List.sublist_map_iff.mp hpicked'
      refine ⟨five', hfive'.subperm, ?_, ?_⟩
      · rw [← hfive, ← hpicked.length_eq, List.length_map]
      · rw [← handValue_renamed hsuit, handValue_perm hpicked]
    · rintro ⟨five, ⟨picked, hpicked, hpicked'⟩, hfive, rfl⟩
      refine ⟨five.map (renamed suit), ?_, by rw [List.length_map, hfive], handValue_renamed hsuit⟩
      exact List.Subperm.trans ⟨_, hpicked.map _, hpicked'.map _⟩ hperm.symm.subperm
  rw [hvalues] at hgreatest
  exact hgreatest.unique (greatest h7 hdistinct)

/-- Neither the order of the seven cards nor the names of the suits matter. -/
theorem value_renamed (h7 : cards.length = 7) (hdistinct : cards.Nodup) (hsuit : suit.Injective)
    (hperm : hand.Perm (cards.map (renamed suit))) : (cardsValue hand).value = (cardsValue cards).value :=
  same_value h7 hdistinct hsuit hperm

/-- The first two suits change places, and the board comes first. -/
theorem value_renamed_swapped :
    (cardsValue [39, 40, 41, 37, 13, 12, 1]).value = (cardsValue [0, 39, 40, 41, 25, 37, 14]).value :=
  value_renamed (by decide) (by decide) (Equiv.swap 0 1).injective (by decide)

end PokerTH.CardsValue
