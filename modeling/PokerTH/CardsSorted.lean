import PokerTH.CardsValue

namespace PokerTH.CardsValue

variable {group key : Card → Nat} {front c d : Card} {l : List Card} {cards : List Nat}

theorem exchange_perm (group key : Card → Nat) (front : Card) (l : List Card) :
    ((exchange group key front l).1 :: (exchange group key front l).2).Perm (front :: l) := by
  induction l generalizing front with
  | nil => exact .refl _
  | cons c l ih =>
      simp only [exchange]
      split_ifs
      · exact (List.Perm.swap _ _ _).trans ((ih c).cons front)
      · exact (List.Perm.swap _ _ _).trans (((ih front).cons c).trans (List.Perm.swap _ _ _))

theorem exchange_group (group key : Card → Nat) (front : Card) (l : List Card) :
    group (exchange group key front l).1 = group front ∧ (exchange group key front l).2.map group = l.map group := by
  induction l generalizing front with
  | nil => exact ⟨rfl, rfl⟩
  | cons c l ih =>
      simp only [exchange]
      split_ifs with hswap
      · exact ⟨(ih c).1.trans hswap.1.symm, by rw [List.map_cons, List.map_cons, (ih c).2, hswap.1]⟩
      · exact ⟨(ih front).1, by rw [List.map_cons, List.map_cons, (ih front).2]⟩

theorem le_exchange (group key : Card → Nat) (front : Card) (l : List Card) :
    key front ≤ key (exchange group key front l).1 := by
  induction l generalizing front with
  | nil => exact le_refl _
  | cons c l ih =>
      simp only [exchange]
      split_ifs with hswap
      · exact hswap.2.le.trans (ih c)
      · exact ih front

theorem exchange_greatest (hd : d ∈ (exchange group key front l).2) (hgroup : group d = group front) :
    key d ≤ key (exchange group key front l).1 := by
  induction l generalizing front with
  | nil => cases hd
  | cons c l ih =>
      simp only [exchange] at hd ⊢
      split_ifs at hd ⊢ with hswap
      · rcases List.mem_cons.mp hd with rfl | hd
        · exact hswap.2.le.trans (le_exchange _ _ _ _)
        · exact ih hd (hgroup.trans hswap.1)
      · rcases List.mem_cons.mp hd with rfl | hd
        · have hle : key d ≤ key front := by
            by_contra hless
            exact hswap ⟨hgroup.symm, by omega⟩
          exact hle.trans (le_exchange _ _ _ _)
        · exact ih hd hgroup

theorem exchangeSort_perm (group key : Card → Nat) (k : Nat) (l : List Card) (hk : l.length ≤ k) :
    (exchangeSort group key k l).Perm l := by
  induction k generalizing l with
  | zero => exact .refl _
  | succ k ih =>
      cases l with
      | nil => exact .refl _
      | cons c l =>
          have hlength : (exchange group key c l).2.length ≤ k := by
            have hperm := (exchange_perm group key c l).length_eq
            simp only [List.length_cons] at hk hperm
            omega
          exact ((ih _ hlength).cons _).trans (exchange_perm group key c l)

theorem exchangeSort_group (group key : Card → Nat) (k : Nat) (l : List Card) (hk : l.length ≤ k) :
    (exchangeSort group key k l).map group = l.map group := by
  induction k generalizing l with
  | zero => rfl
  | succ k ih =>
      cases l with
      | nil => rfl
      | cons c l =>
          have hlength : (exchange group key c l).2.length ≤ k := by
            have hperm := (exchange_perm group key c l).length_eq
            simp only [List.length_cons] at hk hperm
            omega
          have hgroup := exchange_group group key c l
          rw [exchangeSort, List.map_cons, List.map_cons, ih _ hlength, hgroup.1, hgroup.2]

theorem exchangeSort_sorted (group key : Card → Nat) (k : Nat) (l : List Card) (hk : l.length ≤ k) :
    (exchangeSort group key k l).Pairwise fun c d => group c = group d → key d ≤ key c := by
  induction k generalizing l with
  | zero =>
      cases l with
      | nil => exact .nil
      | cons c l => simp at hk
  | succ k ih =>
      cases l with
      | nil => exact .nil
      | cons c l =>
          have hlength : (exchange group key c l).2.length ≤ k := by
            have hperm := (exchange_perm group key c l).length_eq
            simp only [List.length_cons] at hk hperm
            omega
          refine List.pairwise_cons.mpr ⟨fun d hd hgroup => ?_, ih _ hlength⟩
          have hmem := (exchangeSort_perm group key k _ hlength).mem_iff.mp hd
          exact exchange_greatest hmem (hgroup.symm.trans (exchange_group group key c l).1)

theorem length_array : (array cards).length = cards.length := by simp [array]

theorem mem_array (hc : c ∈ array cards) :
    ∃ h : c.pos < cards.length, c.suit = cards[c.pos] / 13 ∧ c.rank = cards[c.pos] % 13 := by
  obtain ⟨i, h, rfl⟩ := List.mem_mapIdx.mp hc
  exact ⟨h, rfl, rfl⟩

theorem map_pos_array : (array cards).map Card.pos = List.range cards.length := by
  apply List.ext_getElem
  · simp [array]
  · intro i _ _
    simp [array]

theorem nodup_array : (array cards).Nodup :=
  List.Nodup.of_map Card.pos (map_pos_array ▸ List.nodup_range)

theorem eq_of_mem_array (hcards : cards.Nodup) (hc : c ∈ array cards) (hd : d ∈ array cards)
    (hsuit : c.suit = d.suit) (hrank : c.rank = d.rank) : c = d := by
  obtain ⟨hclt, hcsuit, hcrank⟩ := mem_array hc
  obtain ⟨hdlt, hdsuit, hdrank⟩ := mem_array hd
  have hcard : cards[c.pos] = cards[d.pos] := by omega
  have hpos := (List.Nodup.getElem_inj_iff hcards).mp hcard
  cases c
  cases d
  simp_all

theorem bySuit_perm (h : l.length ≤ 7) : (bySuit l).Perm l := by
  have hfirst := exchangeSort_perm (fun _ => 0) Card.suit 7 l h
  exact (exchangeSort_perm Card.suit Card.rank 7 _ (hfirst.length_eq.trans_le h)).trans hfirst

theorem byRank_perm (h : l.length ≤ 7) : (byRank l).Perm l := by
  have hfirst := exchangeSort_perm (fun _ => 0) Card.rank 7 l h
  exact (exchangeSort_perm Card.rank Card.pos 7 _ (hfirst.length_eq.trans_le h)).trans hfirst

theorem sorted_of_group {m : List Card} (hmap : m.map group = l.map group)
    (hl : l.Pairwise fun c d => group d ≤ group c) : m.Pairwise fun c d => group d ≤ group c := by
  have hgroup : (l.map group).Pairwise fun x y => y ≤ x := List.pairwise_map.mpr hl
  rw [← hmap] at hgroup
  exact List.pairwise_map.mp hgroup

theorem byRank_sorted (h : l.length ≤ 7) : (byRank l).Pairwise fun c d => d.rank ≤ c.rank := by
  have hlength := (exchangeSort_perm (fun _ => 0) Card.rank 7 l h).length_eq.trans_le h
  refine sorted_of_group (exchangeSort_group Card.rank Card.pos 7 _ hlength) ?_
  exact (exchangeSort_sorted (fun _ => 0) Card.rank 7 l h).imp fun hle => hle rfl

theorem bySuit_suits (h : l.length ≤ 7) : (bySuit l).Pairwise fun c d => d.suit ≤ c.suit := by
  have hlength := (exchangeSort_perm (fun _ => 0) Card.suit 7 l h).length_eq.trans_le h
  refine sorted_of_group (exchangeSort_group Card.suit Card.rank 7 _ hlength) ?_
  exact (exchangeSort_sorted (fun _ => 0) Card.suit 7 l h).imp fun hle => hle rfl

theorem bySuit_ranks (h : l.length ≤ 7) : (bySuit l).Pairwise fun c d => c.suit = d.suit → d.rank ≤ c.rank :=
  exchangeSort_sorted Card.suit Card.rank 7 _ ((exchangeSort_perm (fun _ => 0) Card.suit 7 l h).length_eq.trans_le h)

end PokerTH.CardsValue
