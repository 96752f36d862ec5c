import PokerTH.CardsSorted

namespace PokerTH.CardsValue

variable {a g l : List Card} {c d c1 c2 c3 c4 c5 : Card} {e : Evaluation} {s x k : Nat} {rest : List Card}

def oneSuit (cs : List Card) : Bool := ∀ c ∈ cs, ∀ d ∈ cs, c.suit = d.suit

/-- The evaluation is that of the five cards alone, given by falling ranks, and points to them. -/
structure Five (a : List Card) (e : Evaluation) (c1 c2 c3 c4 c5 : Card) : Prop where
  nodup : [c1, c2, c3, c4, c5].Nodup
  mem : ∀ c ∈ [c1, c2, c3, c4, c5], c ∈ a
  sorted : [c1, c2, c3, c4, c5].Pairwise fun c d => d.rank ≤ c.rank
  position : e.position.Perm ([c1, c2, c3, c4, c5].map Card.pos)
  value : e.value = fiveValue (oneSuit [c1, c2, c3, c4, c5]) c1.rank c2.rank c3.rank c4.rank c5.rank

def Makes (a : List Card) (e : Evaluation) : Prop := ∃ c1 c2 c3 c4 c5, Five a e c1 c2 c3 c4 c5

/-- The array by suits: no card twice, and no rank twice within a suit. -/
structure Suited (a : List Card) : Prop where
  suits : a.Pairwise fun c d => d.suit ≤ c.suit
  ranks : a.Pairwise fun c d => c.suit = d.suit → d.rank < c.rank

theorem consecutive_five : consecutive [c1, c2, c3, c4, c5] = true ↔
    c1.rank = c2.rank + 1 ∧ c2.rank = c3.rank + 1 ∧ c3.rank = c4.rank + 1 ∧ c4.rank = c5.rank + 1 := by
  simp [consecutive]

theorem consecutive_four : consecutive [c2, c3, c4, c5] = true ↔
    c2.rank = c3.rank + 1 ∧ c3.rank = c4.rank + 1 ∧ c4.rank = c5.rank + 1 := by
  simp [consecutive]

theorem highStraightFlush_some (h : highStraightFlush g = some e) : ∃ c1 c2 c3 c4 c5,
    [c1, c2, c3, c4, c5].Sublist g ∧ consecutive [c1, c2, c3, c4, c5] = true ∧
      e = made (if c1.rank = 12 then 900000000 else 800000000 + c1.rank * 1000000) [c1, c2, c3, c4, c5] := by
  obtain ⟨t, ht, hfound⟩ := List.exists_of_findSome?_eq_some h
  rcases t with _ | ⟨c1, _ | ⟨c2, _ | ⟨c3, _ | ⟨c4, _ | ⟨c5, rest⟩⟩⟩⟩⟩
  · cases hfound
  · cases hfound
  · cases hfound
  · cases hfound
  · cases hfound
  · dsimp only at hfound
    have hrun : consecutive [c1, c2, c3, c4, c5] = true := by
      by_contra hnot
      rw [if_neg hnot] at hfound
      cases hfound
    rw [if_pos hrun] at hfound
    have hprefix : [c1, c2, c3, c4, c5].Sublist (c1 :: c2 :: c3 :: c4 :: c5 :: rest) :=
      List.sublist_append_left [c1, c2, c3, c4, c5] rest
    exact ⟨c1, c2, c3, c4, c5, hprefix.trans ((List.mem_tails _ _).mp ht).sublist, hrun, (Option.some.inj hfound).symm⟩

theorem lowStraightFlush_some (h : lowStraightFlush g = some e) : ∃ ace c2 c3 c4 c5, ace ∈ g ∧ ace.rank = 12 ∧
    [c2, c3, c4, c5].Sublist g ∧ ace.rank = c2.rank + 9 ∧ consecutive [c2, c3, c4, c5] = true ∧
      e = made (800000000 + 3 * 1000000) [ace, c2, c3, c4, c5] := by
  obtain ⟨ace, hace, hfound⟩ := List.exists_of_findSome?_eq_some h
  split_ifs at hfound with hrank
  obtain ⟨t, ht, hfound⟩ := List.exists_of_findSome?_eq_some hfound
  rcases t with _ | ⟨c2, _ | ⟨c3, _ | ⟨c4, _ | ⟨c5, rest⟩⟩⟩⟩
  · cases hfound
  · cases hfound
  · cases hfound
  · cases hfound
  · dsimp only at hfound
    split_ifs at hfound with hrun
    have hprefix : [c2, c3, c4, c5].Sublist (c2 :: c3 :: c4 :: c5 :: rest) :=
      List.sublist_append_left [c2, c3, c4, c5] rest
    exact ⟨ace, c2, c3, c4, c5, hace, not_not.mp hrank, hprefix.trans ((List.mem_tails _ _).mp ht).sublist, hrun.1,
      hrun.2, (Option.some.inj hfound).symm⟩

/-- Among falling ranks, the card that follows in rank follows in the list. -/
theorem next_of_rank (hg : g.Pairwise fun c d => d.rank < c.rank) (hsuffix : c :: rest <:+ g) (hd : d ∈ g)
    (hrank : c.rank = d.rank + 1) : ∃ rest', rest = d :: rest' := by
  obtain ⟨pre, rfl⟩ := hsuffix
  obtain ⟨-, hrest, hcross⟩ := List.pairwise_append.mp hg
  obtain ⟨hbelow, hrest⟩ := List.pairwise_cons.mp hrest
  rcases List.mem_append.mp hd with hd | hd
  · have hless := hcross d hd c (List.mem_cons_self ..)
    omega
  · rcases List.mem_cons.mp hd with rfl | hd
    · omega
    · cases rest with
      | nil => cases hd
      | cons y rest =>
          rcases List.mem_cons.mp hd with rfl | hd
          · exact ⟨rest, rfl⟩
          · have hy := hbelow y (List.mem_cons_self ..)
            have hdy := (List.pairwise_cons.mp hrest).1 d hd
            omega

theorem suffix_of_four (hg : g.Pairwise fun c d => d.rank < c.rank) (h2 : c2 ∈ g) (h3 : c3 ∈ g) (h4 : c4 ∈ g)
    (h5 : c5 ∈ g) (hrun : consecutive [c2, c3, c4, c5] = true) : ∃ rest, c2 :: c3 :: c4 :: c5 :: rest <:+ g := by
  obtain ⟨h23, h34, h45⟩ := consecutive_four.mp hrun
  obtain ⟨pre, rest, hsplit⟩ := List.append_of_mem h2
  have hsuffix : c2 :: rest <:+ g := ⟨pre, hsplit.symm⟩
  obtain ⟨rest, rfl⟩ := next_of_rank hg hsuffix h3 h23
  obtain ⟨rest, rfl⟩ := next_of_rank hg ((List.suffix_cons _ _).trans hsuffix) h4 h34
  obtain ⟨rest, rfl⟩ := next_of_rank hg ((List.suffix_cons _ _).trans ((List.suffix_cons _ _).trans hsuffix)) h5 h45
  exact ⟨rest, hsuffix⟩

theorem suffix_of_five (hg : g.Pairwise fun c d => d.rank < c.rank) (h1 : c1 ∈ g) (h2 : c2 ∈ g) (h3 : c3 ∈ g)
    (h4 : c4 ∈ g) (h5 : c5 ∈ g) (hrun : consecutive [c1, c2, c3, c4, c5] = true) :
    ∃ rest, c1 :: c2 :: c3 :: c4 :: c5 :: rest <:+ g := by
  obtain ⟨h12, h23, h34, h45⟩ := consecutive_five.mp hrun
  obtain ⟨rest, hsuffix⟩ := suffix_of_four hg h1 h2 h3 h4 (consecutive_four.mpr ⟨h12, h23, h34⟩)
  have hlast : c4 :: rest <:+ g := (List.suffix_append [c1, c2, c3] (c4 :: rest)).trans hsuffix
  obtain ⟨rest, rfl⟩ := next_of_rank hg hlast h5 h45
  exact ⟨rest, hsuffix⟩

theorem not_consecutive (hg : g.Pairwise fun c d => d.rank < c.rank) (hnone : suitStraightFlush g = none)
    (h1 : c1 ∈ g) (h2 : c2 ∈ g) (h3 : c3 ∈ g) (h4 : c4 ∈ g) (h5 : c5 ∈ g) :
    consecutive [c1, c2, c3, c4, c5] = false := by
  by_contra hrun
  have hrun : consecutive [c1, c2, c3, c4, c5] = true := by simpa using hrun
  obtain ⟨rest, hsuffix⟩ := suffix_of_five hg h1 h2 h3 h4 h5 hrun
  have hlength : g.length ≥ 5 := by
    have hle := hsuffix.length_le
    simp only [List.length_cons] at hle
    omega
  rw [suitStraightFlush, if_pos hlength, Option.or_eq_none_iff] at hnone
  have hnot := List.findSome?_eq_none_iff.mp hnone.1 _ ((List.mem_tails _ _).mpr hsuffix)
  dsimp only at hnot
  rw [if_pos hrun] at hnot
  cases hnot

theorem not_low (hg : g.Pairwise fun c d => d.rank < c.rank) (hnone : suitStraightFlush g = none)
    (h1 : c1 ∈ g) (h2 : c2 ∈ g) (h3 : c3 ∈ g) (h4 : c4 ∈ g) (h5 : c5 ∈ g) (hace : c1.rank = 12) (hfive : c2.rank = 3) :
    consecutive [c2, c3, c4, c5] = false := by
  by_contra hrun
  have hrun : consecutive [c2, c3, c4, c5] = true := by simpa using hrun
  obtain ⟨rest, hsuffix⟩ := suffix_of_four hg h2 h3 h4 h5 hrun
  have hlength : g.length ≥ 5 := by
    obtain ⟨pre, hpre⟩ := hsuffix
    rw [← hpre] at h1 hg
    have hbelow := (List.pairwise_cons.mp (List.pairwise_append.mp hg).2.1).1
    rcases List.mem_append.mp h1 with hmem | hmem
    · have hpos := List.length_pos_of_mem hmem
      rw [← hpre]
      simp only [List.length_append, List.length_cons]
      omega
    · rcases List.mem_cons.mp hmem with rfl | hmem
      · omega
      · have hless := hbelow c1 hmem
        omega
  rw [suitStraightFlush, if_pos hlength, Option.or_eq_none_iff] at hnone
  have hnot := List.findSome?_eq_none_iff.mp hnone.2 c1 h1
  rw [if_neg (not_not.mpr hace)] at hnot
  have hnot := List.findSome?_eq_none_iff.mp hnot _ ((List.mem_tails _ _).mpr hsuffix)
  dsimp only at hnot
  rw [if_pos ⟨by omega, hrun⟩] at hnot
  cases hnot

def ofSuit (a : List Card) (s : Nat) : List Card := a.filter fun c => c.suit == s

theorem mem_ofSuit : c ∈ ofSuit a s ↔ c ∈ a ∧ c.suit = s := by simp [ofSuit]

theorem Suited.ofSuit (ha : Suited a) (s : Nat) : (ofSuit a s).Pairwise fun c d => d.rank < c.rank := by
  have hfilter : (CardsValue.ofSuit a s).Pairwise fun c d => c.suit = d.suit → d.rank < c.rank := ha.ranks.filter _
  refine hfilter.imp_of_mem fun hc hd hrank => hrank ?_
  rw [(mem_ofSuit.mp hc).2, (mem_ofSuit.mp hd).2]

theorem splitSuit (hl : l.Pairwise fun c d => d.suit ≤ c.suit) (hx : ∀ d ∈ l, d.suit ≤ x) :
    (l.takeWhile fun d => d.suit == x) = ofSuit l x ∧
      (l.dropWhile fun d => d.suit == x) = l.filter fun d => d.suit != x := by
  induction l with
  | nil => exact ⟨rfl, rfl⟩
  | cons d l ih =>
      obtain ⟨hbelow, hl⟩ := List.pairwise_cons.mp hl
      by_cases hd : d.suit = x
      · obtain ⟨htake, hdrop⟩ := ih hl fun c hc => (hbelow c hc).trans hd.le
        constructor
        · simp [ofSuit, hd, htake]
        · simp [hd, hdrop]
      · have hless : ∀ c ∈ d :: l, c.suit ≠ x := by
          intro c hc
          have hdx := hx d (List.mem_cons_self ..)
          rcases List.mem_cons.mp hc with rfl | hc
          · exact hd
          · have hcd := hbelow c hc
            omega
        constructor
        · rw [List.takeWhile_cons_of_neg (by simpa using hd), ofSuit,
            List.filter_eq_nil_iff.mpr fun c hc => by simpa using hless c hc]
        · rw [List.dropWhile_cons_of_neg (by simpa using hd),
            List.filter_eq_self.mpr fun c hc => by simpa using hless c hc]

theorem straightFlush_cons (hl : (c :: l).Pairwise fun c d => d.suit ≤ c.suit) :
    straightFlush (k + 1) (c :: l) = (suitStraightFlush (ofSuit (c :: l) c.suit)).or
      (straightFlush k (l.filter fun d => d.suit != c.suit)) := by
  obtain ⟨hbelow, hl⟩ := List.pairwise_cons.mp hl
  obtain ⟨htake, hdrop⟩ := splitSuit hl hbelow
  rw [straightFlush, htake, hdrop]
  congr 2
  simp [ofSuit]

theorem ofSuit_rest (hs : s ≠ c.suit) : ofSuit (l.filter fun d => d.suit != c.suit) s = ofSuit (c :: l) s := by
  rw [ofSuit, ofSuit, List.filter_filter, List.filter_cons_of_neg (by simpa using hs.symm)]
  apply List.filter_congr
  intro d _
  by_cases hd : d.suit = s
  · simp [hd, hs]
  · simp [hd]

theorem straightFlush_none (hl : l.Pairwise fun c d => d.suit ≤ c.suit) (hk : l.length ≤ k)
    (hnone : straightFlush k l = none) (s : Nat) : suitStraightFlush (ofSuit l s) = none := by
  induction k generalizing l with
  | zero =>
      cases l with
      | nil => rfl
      | cons c l => simp at hk
  | succ k ih =>
      cases l with
      | nil => rfl
      | cons c l =>
          rw [straightFlush_cons hl, Option.or_eq_none_iff] at hnone
          by_cases hs : s = c.suit
          · rw [hs]
            exact hnone.1
          · have hlength := List.length_filter_le (fun d : Card => d.suit != c.suit) l
            rw [← ofSuit_rest hs]
            refine ih ((List.pairwise_cons.mp hl).2.filter _) ?_ hnone.2
            simp only [List.length_cons] at hk
            omega

theorem straightFlush_some (hl : l.Pairwise fun c d => d.suit ≤ c.suit) (hfound : straightFlush k l = some e) :
    ∃ s, suitStraightFlush (ofSuit l s) = some e := by
  induction k generalizing l with
  | zero => cases hfound
  | succ k ih =>
      cases l with
      | nil => cases hfound
      | cons c l =>
          rw [straightFlush_cons hl, Option.or_eq_some_iff] at hfound
          rcases hfound with hfirst | ⟨-, hlater⟩
          · exact ⟨c.suit, hfirst⟩
          · obtain ⟨s, hs⟩ := ih ((List.pairwise_cons.mp hl).2.filter _) hlater
            by_cases hsuit : s = c.suit
            · have hempty : ofSuit (l.filter fun d => d.suit != c.suit) s = [] := by
                rw [ofSuit, List.filter_filter]
                exact List.filter_eq_nil_iff.mpr fun d _ => by simp [hsuit]
              rw [hempty] at hs
              cases hs
            · exact ⟨s, ofSuit_rest hsuit ▸ hs⟩

theorem infix_ofSuit (ha : a.Pairwise fun c d => d.suit ≤ c.suit) (s : Nat) : ofSuit a s <:+: a := by
  induction a with
  | nil => exact ⟨[], [], rfl⟩
  | cons c a ih =>
      obtain ⟨hbelow, ha'⟩ := List.pairwise_cons.mp ha
      by_cases hc : c.suit = s
      · obtain ⟨htake, -⟩ := splitSuit (x := s) ha' fun d hd => (hbelow d hd).trans hc.le
        have hsplit : c :: ofSuit a s ++ (a.dropWhile fun d => d.suit == s) = c :: a := by
          rw [← htake, List.cons_append, List.takeWhile_append_dropWhile]
        have hfilter : ofSuit (c :: a) s = c :: ofSuit a s := List.filter_cons_of_pos (by simpa using hc)
        rw [hfilter]
        exact ⟨[], _, by simpa using hsplit⟩
      · have hfilter : ofSuit (c :: a) s = ofSuit a s := List.filter_cons_of_neg (by simpa using hc)
        rw [hfilter]
        exact (ih ha').trans (List.suffix_cons c a).isInfix

theorem flush_none (ha : Suited a) (hnone : flush a = none) (s : Nat) : (ofSuit a s).length < 5 := by
  by_contra hlong
  obtain ⟨pre, post, hsplit⟩ := infix_ofSuit ha.suits s
  have hsuit : ∀ c ∈ ofSuit a s, c.suit = s := fun c hc => (mem_ofSuit.mp hc).2
  rcases hcards : ofSuit a s with _ | ⟨c1, _ | ⟨c2, _ | ⟨c3, _ | ⟨c4, _ | ⟨c5, rest⟩⟩⟩⟩⟩
  all_goals rw [hcards] at hlong hsplit hsuit
  · simp at hlong
  · simp at hlong
  · simp at hlong
  · simp at hlong
  · simp at hlong
  · have htail : c1 :: c2 :: c3 :: c4 :: c5 :: rest ++ post ∈ a.tails :=
      (List.mem_tails _ _).mpr ⟨pre, by rw [← List.append_assoc]; exact hsplit⟩
    have hnot := List.findSome?_eq_none_iff.mp hnone _ htail
    simp only [List.cons_append] at hnot
    have h1 := hsuit c1 (by simp)
    have h2 := hsuit c2 (by simp)
    have h3 := hsuit c3 (by simp)
    have h4 := hsuit c4 (by simp)
    have h5 := hsuit c5 (by simp)
    rw [if_pos ⟨by omega, by omega, by omega, by omega⟩] at hnot
    cases hnot

theorem flush_some (h : flush a = some e) : ∃ c1 c2 c3 c4 c5, [c1, c2, c3, c4, c5].Sublist a ∧
    (c1.suit = c2.suit ∧ c1.suit = c3.suit ∧ c1.suit = c4.suit ∧ c1.suit = c5.suit) ∧
      e = made (500000000 + c1.rank * 1000000 + c2.rank * 10000 + c3.rank * 100 + c4.rank * 10 + c5.rank)
        [c1, c2, c3, c4, c5] := by
  obtain ⟨t, ht, hfound⟩ := List.exists_of_findSome?_eq_some h
  rcases t with _ | ⟨c1, _ | ⟨c2, _ | ⟨c3, _ | ⟨c4, _ | ⟨c5, rest⟩⟩⟩⟩⟩
  · cases hfound
  · cases hfound
  · cases hfound
  · cases hfound
  · cases hfound
  · dsimp only at hfound
    split_ifs at hfound with hsuits
    have hprefix : [c1, c2, c3, c4, c5].Sublist (c1 :: c2 :: c3 :: c4 :: c5 :: rest) :=
      List.sublist_append_left [c1, c2, c3, c4, c5] rest
    exact ⟨c1, c2, c3, c4, c5, hprefix.trans ((List.mem_tails _ _).mp ht).sublist, hsuits, (Option.some.inj hfound).symm⟩

theorem five_of_suit {value : Nat} (hmem : ∀ c ∈ [c1, c2, c3, c4, c5], c ∈ ofSuit a s)
    (hfall : [c1, c2, c3, c4, c5].Pairwise fun c d => d.rank < c.rank)
    (hvalue : value = fiveValue true c1.rank c2.rank c3.rank c4.rank c5.rank) :
    Five a (made value [c1, c2, c3, c4, c5]) c1 c2 c3 c4 c5 := by
  have hsuit : oneSuit [c1, c2, c3, c4, c5] = true := by
    simp only [oneSuit, decide_eq_true_eq]
    intro c hc d hd
    exact (mem_ofSuit.mp (hmem c hc)).2.trans (mem_ofSuit.mp (hmem d hd)).2.symm
  refine ⟨?_, fun c hc => (mem_ofSuit.mp (hmem c hc)).1, hfall.imp le_of_lt, .refl _, ?_⟩
  · exact hfall.imp fun hless heq => by simp [heq] at hless
  · rw [hsuit]
    exact hvalue

theorem straightFlush_makes (ha : Suited a) (hfound : straightFlush k a = some e) : Makes a e := by
  obtain ⟨s, hs⟩ := straightFlush_some ha.suits hfound
  have hranks := ha.ofSuit s
  simp only [suitStraightFlush] at hs
  split_ifs at hs
  rcases Option.or_eq_some_iff.mp hs with hhigh | ⟨-, hlow⟩
  · obtain ⟨c1, c2, c3, c4, c5, hsub, hrun, rfl⟩ := highStraightFlush_some hhigh
    refine ⟨c1, c2, c3, c4, c5, five_of_suit (fun c hc => hsub.subset hc) (hranks.sublist hsub) ?_⟩
    rw [fiveValue]
    exact (if_pos ⟨rfl, consecutive_five.mp hrun⟩).symm
  · obtain ⟨ace, c2, c3, c4, c5, hace, hrank, hsub, hnine, hrun, rfl⟩ := lowStraightFlush_some hlow
    obtain ⟨h23, h34, h45⟩ := consecutive_four.mp hrun
    refine ⟨ace, c2, c3, c4, c5, five_of_suit (s := s) (fun c hc => ?_) ?_ ?_⟩
    · rcases List.mem_cons.mp hc with rfl | hc
      · exact hace
      · exact hsub.subset hc
    · refine List.pairwise_cons.mpr ⟨fun c hc => ?_, hranks.sublist hsub⟩
      simp only [List.mem_cons, List.not_mem_nil, or_false] at hc
      rcases hc with rfl | rfl | rfl | rfl
      · omega
      · omega
      · omega
      · omega
    · rw [fiveValue]
      exact ((if_neg fun h => by omega).trans
        (if_pos ⟨rfl, hrank, by omega, by omega, by omega, by omega⟩)).symm

theorem flush_makes (ha : Suited a) (hlength : a.length ≤ k) (hnone : straightFlush k a = none) (hfound : flush a = some e) :
    Makes a e := by
  obtain ⟨c1, c2, c3, c4, c5, hsub, ⟨h12, h13, h14, h15⟩, rfl⟩ := flush_some hfound
  have hsuit := straightFlush_none ha.suits hlength hnone c1.suit
  have hranks := ha.ofSuit c1.suit
  have hmem : ∀ c ∈ [c1, c2, c3, c4, c5], c ∈ ofSuit a c1.suit := by
    intro c hc
    refine mem_ofSuit.mpr ⟨hsub.subset hc, ?_⟩
    simp only [List.mem_cons, List.not_mem_nil, or_false] at hc
    rcases hc with rfl | rfl | rfl | rfl | rfl
    · rfl
    · exact h12.symm
    · exact h13.symm
    · exact h14.symm
    · exact h15.symm
  have hfall : [c1, c2, c3, c4, c5].Pairwise fun c d => d.rank < c.rank :=
    (ha.ranks.sublist hsub).imp_of_mem fun hc hd hrank =>
      hrank ((mem_ofSuit.mp (hmem _ hc)).2.trans (mem_ofSuit.mp (hmem _ hd)).2.symm)
  refine ⟨c1, c2, c3, c4, c5, five_of_suit hmem hfall ?_⟩
  have h1 := hmem c1 (by simp)
  have h2 := hmem c2 (by simp)
  have h3 := hmem c3 (by simp)
  have h4 := hmem c4 (by simp)
  have h5 := hmem c5 (by simp)
  have hstraight : ¬ (c1.rank = c2.rank + 1 ∧ c2.rank = c3.rank + 1 ∧ c3.rank = c4.rank + 1 ∧ c4.rank = c5.rank + 1) := by
    rw [← consecutive_five, not_consecutive hranks hsuit h1 h2 h3 h4 h5]
    simp
  have hlow : ¬ (c1.rank = 12 ∧ c2.rank = 3 ∧ c3.rank = 2 ∧ c4.rank = 1 ∧ c5.rank = 0) := by
    rintro ⟨hace, hfive, hfour, hthree, htwo⟩
    have hrun := not_low hranks hsuit h1 h2 h3 h4 h5 hace hfive
    rw [consecutive_four.mpr ⟨by omega, by omega, by omega⟩] at hrun
    cases hrun
  simp only [List.pairwise_cons, List.mem_cons, List.not_mem_nil, or_false, forall_eq_or_imp, forall_eq] at hfall
  simp only [fiveValue, true_and]
  rw [if_neg hstraight, if_neg hlow, if_neg (by omega), if_neg (by omega), if_neg (by omega), if_neg (by omega),
    if_pos trivial]

end PokerTH.CardsValue
