import PokerTH.HandTitles

namespace PokerTH.CardsValue

variable {x y : String} {f s t u r s' t' u' r' : Nat} {activePlayerList : List Player}

theorem pairs_apart {names : List String} (hnames : Names names) (hlength : names.length = 13) (hs : s ≤ 12)
    (hs' : s' ≤ 12) (ht : t ≤ 12) (ht' : t' ≤ 12) (hne : ¬ (s = s' ∧ t = t')) :
    Apart (String.join [switch names 0 s, switch pluralRanks 0 t])
      (String.join [switch names 0 s', switch pluralRanks 0 t']) := by
  by_cases heq : s = s'
  · subst heq
    have ht : Apart (switch pluralRanks 0 t) (switch pluralRanks 0 t') :=
      names_pluralRanks.apart_zero ht ht' fun heq => hne ⟨rfl, heq⟩
    exact (ht.join_head _ _).join_cons _
  · exact (hnames.apart_zero hs hs' heq hlength).join_head _ _

/-- What is in front of the kickers tells the hands apart where their codes differ so far. -/
theorem titles_apart (h : Coded f s t u r) (h' : Coded f s' t' u' r')
    (hne : (code f s t u r : Int).tdiv (layout f).2.1 ≠ (code f s' t' u' r' : Int).tdiv (layout f).2.1) :
    Apart (String.join ((strings f s t u r).take (layout f).1))
      (String.join ((strings f s' t' u' r').take (layout f).1)) := by
  have hfirst := tdiv_first_iff (f := f) h.small h'.small
  have hsecond := tdiv_second_iff (f := f) h.small h'.small
  cases h with
  | royalFlush =>
      cases h'
      exact absurd rfl hne
  | straightFlush hlow hs =>
      cases h' with
      | straightFlush hlow' hs' =>
          exact ((switch_apart names_straightFlush.apart hlow (Nat.lt_succ_of_le hs) hlow' (Nat.lt_succ_of_le hs')
            fun heq => hne (hfirst.mpr heq)).join_head _ _).join_cons _
  | fourOfAKind hs ht =>
      cases h' with
      | fourOfAKind hs' ht' =>
          exact ((names_pluralRanks.apart_zero hs hs' fun heq => hne (hfirst.mpr heq)).join_head _ _).join_cons _
  | fullHouse hs ht =>
      cases h' with
      | fullHouse hs' ht' =>
          have hpairs : ¬ (s = s' ∧ t = t') := fun heq => hne (hsecond.mpr heq)
          exact (pairs_apart names_fullOf rfl hs hs' ht ht' hpairs).join_cons _
  | flush hlow hs ht hu hr =>
      cases h' with
      | flush hlow' hs' ht' hu' hr' =>
          exact ((switch_apart names_flush.apart hlow (Nat.lt_succ_of_le hs) hlow' (Nat.lt_succ_of_le hs')
            fun heq => hne (hfirst.mpr heq)).join_head _ _).join_cons _
  | straight hlow hs =>
      cases h' with
      | straight hlow' hs' =>
          exact ((switch_apart names_straight.apart hlow (Nat.lt_succ_of_le hs) hlow' (Nat.lt_succ_of_le hs')
            fun heq => hne (hfirst.mpr heq)).join_head _ _).join_cons _
  | threeOfAKind hs ht hu =>
      cases h' with
      | threeOfAKind hs' ht' hu' =>
          exact ((names_pluralRanks.apart_zero hs hs' fun heq => hne (hfirst.mpr heq)).join_head _ _).join_cons _
  | twoPairs hs ht hu =>
      cases h' with
      | twoPairs hs' ht' hu' =>
          have hpairs : ¬ (s = s' ∧ t = t') := fun heq => hne (hsecond.mpr heq)
          exact (pairs_apart names_and rfl hs hs' ht ht' hpairs).join_cons _
  | pair hs ht hu hr =>
      cases h' with
      | pair hs' ht' hu' hr' =>
          exact ((names_pluralRanks.apart_zero hs hs' fun heq => hne (hfirst.mpr heq)).join_head _ _).join_cons _
  | highCard hs ht hu hr =>
      cases h' with
      | highCard hs' ht' hu' hr' =>
          exact ((names_highCard.apart_zero hs hs' fun heq => hne (hfirst.mpr heq)).join_head _ _).join_cons _

theorem told_five {w2 w3 w4 w5 : String} (h : Small s t u r) (h' : Small s t' u' r') (ht : t ≤ 12) (ht' : t' ≤ 12)
    (hu : u ≤ 12) (hu' : u' ≤ 12) (hne : code f s t u r ≠ code f s t' u' r') :
    Told (code f s t u r) (code f s t' u' r') [(10000, w2), (100, w3), (10, w4), (1, w5)]
      [switch ranks 0 t, switch ranks 0 u, switch (ranks.take 10) 0 (r / 10 : Nat),
        switch (ranks.take 10) 0 (r % 10 : Nat)]
      [switch ranks 0 t', switch ranks 0 u', switch (ranks.take 10) 0 (r' / 10 : Nat),
        switch (ranks.take 10) 0 (r' % 10 : Nat)] := by
  have hten : r / 10 < 10 := Nat.div_lt_of_lt_mul h.r
  have hten' : r' / 10 < 10 := Nat.div_lt_of_lt_mul h'.r
  have hdigit : r % 10 < 10 := Nat.mod_lt _ (by decide)
  have hdigit' : r' % 10 < 10 := Nat.mod_lt _ (by decide)
  have hsecond := tdiv_second_iff (f := f) h h'
  have hthird := tdiv_third_iff (f := f) h h'
  refine told_cons names_ranks (Nat.lt_succ_of_le ht) (Nat.lt_succ_of_le ht') (hsecond.trans (by simp)) ?_
  rintro rfl
  refine told_cons names_ranks (Nat.lt_succ_of_le hu) (Nat.lt_succ_of_le hu') (hthird.trans (by simp)) ?_
  rintro rfl
  refine told_cons names_lowRanks hten hten' (tdiv_fourth_iff h h') fun hfourth => ?_
  refine told_cons names_lowRanks hdigit hdigit' (tdiv_last_iff.trans (by omega)) fun hlast => ?_
  have hr : r = r' := by omega
  exact absurd (by rw [hr]) hne

/-- Hands of a kind with the same strings in front of the kickers are told apart by these. -/
theorem kickers_told (h : Coded f s t u r) (h' : Coded f s' t' u' r') (hne : code f s t u r ≠ code f s' t' u' r')
    (hsame : (code f s t u r : Int).tdiv (layout f).2.1 = (code f s' t' u' r' : Int).tdiv (layout f).2.1) :
    (strings f s t u r).take (layout f).1 = (strings f s' t' u' r').take (layout f).1 ∧
      Told (code f s t u r) (code f s' t' u' r') (layout f).2.2 ((strings f s t u r).drop (layout f).1)
        ((strings f s' t' u' r').drop (layout f).1) := by
  have hsmall := h.small
  have hsmall' := h'.small
  have hfirst := tdiv_first_iff (f := f) hsmall hsmall'
  have hsecond := tdiv_second_iff (f := f) hsmall hsmall'
  have hthird := tdiv_third_iff (f := f) hsmall hsmall'
  cases h with
  | royalFlush =>
      cases h'
      exact absurd rfl hne
  | straightFlush hlow hs =>
      cases h' with
      | straightFlush hlow' hs' => exact absurd (by rw [hfirst.mp hsame]) hne
  | fourOfAKind hs ht =>
      cases h' with
      | fourOfAKind hs' ht' =>
          obtain rfl := hfirst.mp hsame
          refine ⟨rfl, ?_⟩
          refine told_cons names_ranks (Nat.lt_succ_of_le ht) (Nat.lt_succ_of_le ht') (hsecond.trans (by simp)) ?_
          rintro rfl
          exact absurd rfl hne
  | fullHouse hs ht =>
      cases h' with
      | fullHouse hs' ht' =>
          obtain ⟨rfl, rfl⟩ := hsecond.mp hsame
          exact absurd rfl hne
  | flush hlow hs ht hu hr =>
      cases h' with
      | flush hlow' hs' ht' hu' hr' =>
          obtain rfl := hfirst.mp hsame
          exact ⟨rfl, told_five hsmall hsmall' ht ht' hu hu' hne⟩
  | straight hlow hs =>
      cases h' with
      | straight hlow' hs' => exact absurd (by rw [hfirst.mp hsame]) hne
  | threeOfAKind hs ht hu =>
      cases h' with
      | threeOfAKind hs' ht' hu' =>
          obtain rfl := hfirst.mp hsame
          refine ⟨rfl, ?_⟩
          refine told_cons names_ranks (Nat.lt_succ_of_le ht) (Nat.lt_succ_of_le ht') (hsecond.trans (by simp)) ?_
          rintro rfl
          refine told_cons names_ranks (Nat.lt_succ_of_le hu) (Nat.lt_succ_of_le hu') (hthird.trans (by simp)) ?_
          rintro rfl
          exact absurd rfl hne
  | twoPairs hs ht hu =>
      cases h' with
      | twoPairs hs' ht' hu' =>
          obtain ⟨rfl, rfl⟩ := hsecond.mp hsame
          refine ⟨rfl, told_cons names_ranks (Nat.lt_succ_of_le hu) (Nat.lt_succ_of_le hu') (hthird.trans (by simp)) ?_⟩
          rintro rfl
          exact absurd rfl hne
  | pair hs ht hu hr =>
      cases h' with
      | pair hs' ht' hu' hr' =>
          obtain rfl := hfirst.mp hsame
          refine ⟨rfl, ?_⟩
          refine told_cons names_ranks (Nat.lt_succ_of_le ht) (Nat.lt_succ_of_le ht') (hsecond.trans (by simp)) ?_
          rintro rfl
          refine told_cons names_ranks (Nat.lt_succ_of_le hu) (Nat.lt_succ_of_le hu') (hthird.trans (by simp)) ?_
          rintro rfl
          refine told_cons names_ranks (Nat.lt_succ_of_le hr) (Nat.lt_succ_of_le hr') tdiv_last_iff ?_
          rintro rfl
          exact absurd rfl hne
  | highCard hs ht hu hr =>
      cases h' with
      | highCard hs' ht' hu' hr' =>
          obtain rfl := hfirst.mp hsame
          exact ⟨rfl, told_five hsmall hsmall' ht ht' hu hu' hne⟩

/-- Two hands that are shown to each other have the same name only if they are worth the same. -/
theorem name_injective {v w : Nat} (hv : IsCode v) (hw : IsCode w)
    (hvshown : (v : Int) ∈ (activePlayerList.filter fun p => p.myAction ≠ .fold).map Player.myCardsValueInt)
    (hwshown : (w : Int) ∈ (activePlayerList.filter fun p => p.myAction ≠ .fold).map Player.myCardsValueInt)
    (hx : determineHandName v activePlayerList = some x) (hy : determineHandName w activePlayerList = some x) :
    v = w := by
  obtain ⟨f, s, t, u, r, h, rfl⟩ := hv
  obtain ⟨f', s', t', u', r', h', rfl⟩ := hw
  by_contra hne
  have hcast : (code f s t u r : Int) ≠ code f' s' t' u' r' := fun heq => hne (Int.ofNat_inj.mp heq)
  by_cases hf : f = f'
  · subst hf
    rw [determineHandName_code h] at hx
    rw [determineHandName_code h'] at hy
    refine named_ne ?_ ?_ (kickers_told h h' hne) (titles_apart h h') hx hy rfl
    · exact (List.mem_erase_of_ne hcast).mpr hvshown
    · exact (List.mem_erase_of_ne hcast.symm).mpr hwshown
  · obtain ⟨z, rfl⟩ := name_kind h hx
    obtain ⟨z', hz⟩ := name_kind h' hy
    exact ((kind_apart f h.kind_lt f' h'.kind_lt hf).append z z').ne hz

/-- The names of the shown hands distinguish exactly the hands that differ, and none of them has an error in it. -/
theorem names_distinguish (activePlayerList : List Player)
    (hvalues : ∀ p ∈ activePlayerList, p.myAction ≠ .fold → ∃ cards : List Nat, cards.length = 7 ∧ cards.Nodup ∧
      p.myCardsValueInt = (cardsValue cards).value)
    (a b : Player) (ha : a ∈ activePlayerList) (hb : b ∈ activePlayerList) (hafold : a.myAction ≠ .fold)
    (hbfold : b.myAction ≠ .fold) :
    ∃ nameA nameB, determineHandName a.myCardsValueInt activePlayerList = some nameA ∧
      determineHandName b.myCardsValueInt activePlayerList = some nameB ∧
      (nameA = nameB ↔ a.myCardsValueInt = b.myCardsValueInt) ∧
      ¬ "ERROR".toList <:+: nameA.toList ∧ ¬ "ERROR".toList <:+: nameB.toList := by
  have hshown : ∀ p ∈ activePlayerList, p.myAction ≠ .fold →
      p.myCardsValueInt ∈ (activePlayerList.filter fun p => p.myAction ≠ .fold).map Player.myCardsValueInt :=
    fun p hp hfold => List.mem_map_of_mem (List.mem_filter.mpr ⟨hp, decide_eq_true hfold⟩)
  have hashown := hshown a ha hafold
  have hbshown := hshown b hb hbfold
  obtain ⟨cards, h7, hdistinct, hvalue⟩ := hvalues a ha hafold
  obtain ⟨cards', h7', hdistinct', hvalue'⟩ := hvalues b hb hbfold
  have hacode := isCode_cardsValue h7 hdistinct
  have hbcode := isCode_cardsValue h7' hdistinct'
  rw [hvalue] at hashown
  rw [hvalue'] at hbshown
  obtain ⟨nameA, hA, hAerror⟩ := hacode.name_some activePlayerList
  obtain ⟨nameB, hB, hBerror⟩ := hbcode.name_some activePlayerList
  rw [hvalue, hvalue']
  refine ⟨nameA, nameB, hA, hB, ⟨?_, ?_⟩, hAerror, hBerror⟩
  · rintro rfl
    rw [name_injective hacode hbcode hashown hbshown hA hB]
  · intro heq
    rw [heq, hB] at hA
    exact (Option.some.inj hA).symm

/-- A player in the hand with two cards of his own, and an ace, a nine, a seven, a six and a deuce on the board. -/
def withCards (c d : Nat) : Player :=
  { Player.create 0 .human "" 1000 true with
    myAction := .call
    myCardsValueInt := (cardsValue [c, d, 25, 33, 18, 43, 0]).value }

/-- Two pairs of aces, the one with the king and the other with the queen. -/
theorem names_distinguish_kicker :
    ∃ nameA nameB, determineHandName (withCards 12 11).myCardsValueInt [withCards 12 11, withCards 38 10] = some nameA ∧
      determineHandName (withCards 38 10).myCardsValueInt [withCards 12 11, withCards 38 10] = some nameB ∧
      (nameA = nameB ↔ (withCards 12 11).myCardsValueInt = (withCards 38 10).myCardsValueInt) ∧
      ¬ "ERROR".toList <:+: nameA.toList ∧ ¬ "ERROR".toList <:+: nameB.toList := by
  have hsecond : withCards 38 10 ∈ [withCards 12 11, withCards 38 10] := by simp
  refine names_distinguish _ (fun p hp _ => ?_) _ _ (List.mem_cons_self ..) hsecond (by decide) (by decide)
  rcases List.mem_pair.mp hp with rfl | rfl
  · exact ⟨[12, 11, 25, 33, 18, 43, 0], rfl, by decide, rfl⟩
  · exact ⟨[38, 10, 25, 33, 18, 43, 0], rfl, by decide, rfl⟩

end PokerTH.CardsValue
