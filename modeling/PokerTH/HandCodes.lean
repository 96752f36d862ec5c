import PokerTH.CardsPositions
import PokerTH.HandKickers

namespace PokerTH.CardsValue

variable {f s t u r : Nat} {cards : List Nat} {oneSuit : Bool}

def code (f s t u r : Nat) : Nat := f * 100000000 + s * 1000000 + t * 10000 + u * 100 + r

/-- The parts of the codes that occur, by the kind of hand. -/
inductive Coded : Nat → Nat → Nat → Nat → Nat → Prop
  | royalFlush : Coded 9 0 0 0 0
  | straightFlush {s : Nat} (hlow : 3 ≤ s) (hs : s ≤ 11) : Coded 8 s 0 0 0
  | fourOfAKind {s t : Nat} (hs : s ≤ 12) (ht : t ≤ 12) : Coded 7 s t 0 0
  | fullHouse {s t : Nat} (hs : s ≤ 12) (ht : t ≤ 12) : Coded 6 s t 0 0
  | flush {s t u r : Nat} (hlow : 4 ≤ s) (hs : s ≤ 12) (ht : t ≤ 12) (hu : u ≤ 12) (hr : r < 100) : Coded 5 s t u r
  | straight {s : Nat} (hlow : 3 ≤ s) (hs : s ≤ 12) : Coded 4 s 0 0 0
  | threeOfAKind {s t u : Nat} (hs : s ≤ 12) (ht : t ≤ 12) (hu : u ≤ 12) : Coded 3 s t u 0
  | twoPairs {s t u : Nat} (hs : s ≤ 12) (ht : t ≤ 12) (hu : u ≤ 12) : Coded 2 s t u 0
  | pair {s t u r : Nat} (hs : s ≤ 12) (ht : t ≤ 12) (hu : u ≤ 12) (hr : r ≤ 12) : Coded 1 s t u r
  | highCard {s t u r : Nat} (hs : s ≤ 12) (ht : t ≤ 12) (hu : u ≤ 12) (hr : r < 100) : Coded 0 s t u r

/-- No part runs into the one in front of it. -/
structure Small (s t u r : Nat) : Prop where
  s : s < 100
  t : t < 100
  u : u < 100
  r : r < 100

theorem Coded.small (h : Coded f s t u r) : Small s t u r := by
  cases h <;> constructor <;> omega

section

variable (h : Small s t u r)

include h

theorem code_tdiv_kind : (code f s t u r : Int).tdiv 100000000 = f := by
  obtain ⟨hs, ht, hu, hr⟩ := h
  rw [Int.tdiv_eq_ediv_of_nonneg (Int.natCast_nonneg _), code]
  omega

theorem code_tdiv_first : (code f s t u r : Int).tdiv 1000000 = f * 100 + s := by
  obtain ⟨hs, ht, hu, hr⟩ := h
  rw [Int.tdiv_eq_ediv_of_nonneg (Int.natCast_nonneg _), code]
  omega

theorem code_tdiv_second : (code f s t u r : Int).tdiv 10000 = f * 10000 + s * 100 + t := by
  obtain ⟨hs, ht, hu, hr⟩ := h
  rw [Int.tdiv_eq_ediv_of_nonneg (Int.natCast_nonneg _), code]
  omega

theorem code_tdiv_third : (code f s t u r : Int).tdiv 100 = f * 1000000 + s * 10000 + t * 100 + u := by
  obtain ⟨hs, ht, hu, hr⟩ := h
  rw [Int.tdiv_eq_ediv_of_nonneg (Int.natCast_nonneg _), code]
  omega

theorem code_tdiv_fourth :
    (code f s t u r : Int).tdiv 10 = f * 10000000 + s * 100000 + t * 1000 + u * 10 + (r / 10 : Nat) := by
  obtain ⟨hs, ht, hu, hr⟩ := h
  rw [Int.tdiv_eq_ediv_of_nonneg (Int.natCast_nonneg _), code]
  omega

end

theorem code_cast :
    (code f s t u r : Int) = f * 100000000 + s * 1000000 + t * 10000 + u * 100 + r := by
  simp only [code]
  omega

def IsCode (v : Nat) : Prop := ∃ f s t u r, Coded f s t u r ∧ v = code f s t u r

theorem Coded.isCode {v : Nat} (h : Coded f s t u r) (hv : v = code f s t u r) : IsCode v := ⟨f, s, t, u, r, h, hv⟩

theorem IsCode.ite {p : Prop} [Decidable p] {v w : Nat} (hv : p → IsCode v) (hw : ¬ p → IsCode w) :
    IsCode (if p then v else w) := by
  split_ifs with hp
  · exact hv hp
  · exact hw hp

theorem isCode_fiveValue {a b c d e : Nat} (ha : a ≤ 12) (hab : b ≤ a) (hbc : c ≤ b) (hcd : d ≤ c) (hde : e ≤ d)
    (hsuit : oneSuit = true → b < a ∧ c < b ∧ d < c ∧ e < d) : IsCode (fiveValue oneSuit a b c d e) := by
  rw [fiveValue]
  refine .ite (fun h => .ite (fun _ => ?_) fun _ => ?_) fun _ => .ite (fun _ => ?_) fun _ => ?_
  · exact Coded.royalFlush.isCode rfl
  · exact (Coded.straightFlush (s := a) (by omega) (by omega)).isCode (by simp only [code]; omega)
  · exact (Coded.straightFlush (s := 3) (by omega) (by omega)).isCode rfl
  refine .ite (fun _ => ?_) fun _ => .ite (fun _ => ?_) fun _ => ?_
  · exact (Coded.fourOfAKind (s := a) (t := e) (by omega) (by omega)).isCode (by simp only [code]; omega)
  · exact (Coded.fourOfAKind (s := b) (t := a) (by omega) (by omega)).isCode (by simp only [code]; omega)
  refine .ite (fun _ => ?_) fun _ => .ite (fun _ => ?_) fun _ => ?_
  · exact (Coded.fullHouse (s := a) (t := d) (by omega) (by omega)).isCode (by simp only [code]; omega)
  · exact (Coded.fullHouse (s := c) (t := a) (by omega) (by omega)).isCode (by simp only [code]; omega)
  refine .ite (fun hone => ?_) fun _ => .ite (fun _ => ?_) fun _ => .ite (fun _ => ?_) fun _ => ?_
  · have hfall := hsuit hone
    exact (Coded.flush (s := a) (t := b) (u := c) (r := d * 10 + e) (by omega) (by omega) (by omega) (by omega)
      (by omega)).isCode (by simp only [code]; omega)
  · exact (Coded.straight (s := a) (by omega) (by omega)).isCode (by simp only [code]; omega)
  · exact (Coded.straight (s := 3) (by omega) (by omega)).isCode rfl
  refine .ite (fun _ => ?_) fun _ => .ite (fun _ => ?_) fun _ => .ite (fun _ => ?_) fun _ => ?_
  · exact (Coded.threeOfAKind (s := a) (t := d) (u := e) (by omega) (by omega) (by omega)).isCode
      (by simp only [code]; omega)
  · exact (Coded.threeOfAKind (s := b) (t := a) (u := e) (by omega) (by omega) (by omega)).isCode
      (by simp only [code]; omega)
  · exact (Coded.threeOfAKind (s := c) (t := a) (u := b) (by omega) (by omega) (by omega)).isCode
      (by simp only [code]; omega)
  refine .ite (fun _ => ?_) fun _ => .ite (fun _ => ?_) fun _ => .ite (fun _ => ?_) fun _ => ?_
  · exact (Coded.twoPairs (s := a) (t := c) (u := e) (by omega) (by omega) (by omega)).isCode
      (by simp only [code]; omega)
  · exact (Coded.twoPairs (s := a) (t := d) (u := c) (by omega) (by omega) (by omega)).isCode
      (by simp only [code]; omega)
  · exact (Coded.twoPairs (s := b) (t := d) (u := a) (by omega) (by omega) (by omega)).isCode
      (by simp only [code]; omega)
  refine .ite (fun _ => ?_) fun _ => .ite (fun _ => ?_) fun _ => .ite (fun _ => ?_) fun _ => .ite (fun _ => ?_)
    fun _ => ?_
  · exact (Coded.pair (s := a) (t := c) (u := d) (r := e) (by omega) (by omega) (by omega) (by omega)).isCode
      (by simp only [code])
  · exact (Coded.pair (s := b) (t := a) (u := d) (r := e) (by omega) (by omega) (by omega) (by omega)).isCode
      (by simp only [code])
  · exact (Coded.pair (s := c) (t := a) (u := b) (r := e) (by omega) (by omega) (by omega) (by omega)).isCode
      (by simp only [code])
  · exact (Coded.pair (s := d) (t := a) (u := b) (r := c) (by omega) (by omega) (by omega) (by omega)).isCode
      (by simp only [code])
  · exact (Coded.highCard (s := a) (t := b) (u := c) (r := d * 10 + e) (by omega) (by omega) (by omega)
      (by omega)).isCode (by simp only [code]; omega)

theorem isCode_cardsValue (h7 : cards.length = 7) (hdistinct : cards.Nodup) :
    IsCode (cardsValue cards).value := by
  obtain ⟨c1, c2, c3, c4, c5, hfive⟩ := cardsValue_makes h7 hdistinct
  have hsorted := hfive.sorted
  simp only [List.pairwise_cons, List.mem_cons, List.not_mem_nil, or_false, forall_eq_or_imp, forall_eq,
    false_imp_iff, implies_true] at hsorted
  obtain ⟨⟨h12, -⟩, ⟨h23, -⟩, ⟨h34, -⟩, h45, -⟩ := hsorted
  have hmem : ∀ c ∈ [c1, c2, c3, c4, c5], c.rank ≤ 12 := fun c hc => by
    obtain ⟨hlt, -, hrank⟩ := mem_array (hfive.mem c hc)
    have hmod := Nat.mod_lt cards[c.pos] (show 0 < 13 by decide)
    omega
  rw [hfive.value]
  refine isCode_fiveValue (hmem c1 (by simp)) h12 h23 h34 h45 fun hone => ?_
  have hone : ∀ c ∈ [c1, c2, c3, c4, c5], ∀ d ∈ [c1, c2, c3, c4, c5], c.suit = d.suit := by
    simpa only [CardsValue.oneSuit, decide_eq_true_eq] using hone
  have hapart : [c1, c2, c3, c4, c5].Pairwise fun c d => d.rank < c.rank := by
    refine (hfive.sorted.and hfive.nodup).imp_of_mem fun hc hd hboth => ?_
    refine Nat.lt_of_le_of_ne hboth.1 fun hrank => hboth.2 ?_
    exact eq_of_mem_array hdistinct (hfive.mem _ hc) (hfive.mem _ hd) (hone _ hc _ hd) hrank.symm
  simp only [List.pairwise_cons, List.mem_cons, List.not_mem_nil, or_false, forall_eq_or_imp, forall_eq,
    false_imp_iff, implies_true] at hapart
  exact ⟨hapart.1.1, hapart.2.1.1, hapart.2.2.1.1, hapart.2.2.2.1⟩

end PokerTH.CardsValue
