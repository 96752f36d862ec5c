import Mathlib.Data.List.Lex
import Mathlib.Data.List.Perm.Basic
import Mathlib.Data.List.Sublists
import PokerTH.CardsOrder

namespace PokerTH.CardsValue

def run (top : Nat) : List Nat := (List.range 5).map fun k => (top + 13 - k) % 13

def straightTop (ranks : List Nat) : Option Nat := (List.range' 3 10).find? fun top => decide (ranks.Perm (run top))

/-- The rank `x` counts before the rank `y`: it occurs more often, or it is greater. -/
def Before (ranks : List Nat) (x y : Nat) : Prop :=
  ranks.count y < ranks.count x ∨ ranks.count x = ranks.count y ∧ y ≤ x

instance (ranks : List Nat) : DecidableRel (Before ranks) := fun _ _ => inferInstanceAs (Decidable (_ ∨ _))

def ordered (ranks : List Nat) : List Nat := ranks.insertionSort (Before ranks)

def rankClass (ranks : List Nat) : Nat :=
  match (ordered ranks).map fun x => ranks.count x with
  | [4, 4, 4, 4, 1] => 7
  | [3, 3, 3, 2, 2] => 6
  | [3, 3, 3, 1, 1] => 3
  | [2, 2, 2, 2, 1] => 2
  | [2, 2, 1, 1, 1] => 1
  | _ => 0

/-- The class of a hand, and after it the ranks that decide within the class. -/
def strength (cards : List Nat) : List Nat :=
  let ranks := cards.map (· % 13)
  let oneSuit := decide (∀ x ∈ cards, ∀ y ∈ cards, x / 13 = y / 13)
  match straightTop ranks with
  | some top => [if oneSuit then 8 else 4, top]
  | none => (if oneSuit then 5 else rankClass ranks) :: ordered ranks

inductive Worth : Nat → List Nat → Prop
  | straightFlush {top : Nat} (htop : top ≤ 12) :
      Worth (if top = 12 then 900000000 else 800000000 + top * 1000000) [8, top]
  | fourOfAKind {x y : Nat} (hx : x ≤ 12) (hy : y ≤ 12) : Worth (700000000 + x * 1000000 + y * 10000) [7, x, x, x, x, y]
  | fullHouse {x y : Nat} (hx : x ≤ 12) (hy : y ≤ 12) : Worth (600000000 + x * 1000000 + y * 10000) [6, x, x, x, y, y]
  | flush {a b c d e : Nat} (ha : a ≤ 12) (hba : b < a) (hcb : c < b) (hdc : d < c) (hed : e < d) :
      Worth (500000000 + a * 1000000 + b * 10000 + c * 100 + d * 10 + e) [5, a, b, c, d, e]
  | straight {top : Nat} (htop : top ≤ 12) : Worth (400000000 + top * 1000000) [4, top]
  | threeOfAKind {x y z : Nat} (hx : x ≤ 12) (hy : y ≤ 12) (hzy : z < y) :
      Worth (300000000 + x * 1000000 + y * 10000 + z * 100) [3, x, x, x, y, z]
  | twoPairs {x y z : Nat} (hx : x ≤ 12) (hyx : y < x) (hz : z ≤ 12) :
      Worth (200000000 + x * 1000000 + y * 10000 + z * 100) [2, x, x, y, y, z]
  | pair {x y z w : Nat} (hx : x ≤ 12) (hy : y ≤ 12) (hzy : z < y) (hwz : w < z) :
      Worth (100000000 + x * 1000000 + y * 10000 + z * 100 + w) [1, x, x, y, z, w]
  | highCard {a b c d e : Nat} (ha : a ≤ 12) (hba : b < a) (hcb : c < b) (hdc : d < c) (hed : e < d) :
      Worth (a * 1000000 + b * 10000 + c * 100 + d * 10 + e) [0, a, b, c, d, e]

variable {v v' : Nat} {k k' : List Nat}

theorem Worth.class (h : Worth v k) : ∃ n rest, k = n :: rest ∧ n * 100000000 ≤ v ∧
    (n < 8 → v < (n + 1) * 100000000) ∧ n ≤ 8 := by
  cases h with
  | straightFlush htop =>
      refine ⟨8, [_], rfl, ?_, fun hless => absurd hless (by decide), by decide⟩
      split_ifs
      · omega
      · omega
  | fourOfAKind hx hy => exact ⟨_, _, rfl, by omega, by omega, by omega⟩
  | fullHouse hx hy => exact ⟨_, _, rfl, by omega, by omega, by omega⟩
  | flush ha hba hcb hdc hed => exact ⟨_, _, rfl, by omega, by omega, by omega⟩
  | straight htop => exact ⟨_, _, rfl, by omega, by omega, by omega⟩
  | threeOfAKind hx hy hzy => exact ⟨_, _, rfl, by omega, by omega, by omega⟩
  | twoPairs hx hyx hz => exact ⟨_, _, rfl, by omega, by omega, by omega⟩
  | pair hx hy hzy hwz => exact ⟨_, _, rfl, by omega, by omega, by omega⟩
  | highCard ha hba hcb hdc hed =>
      refine ⟨0, _, rfl, ?_, fun _ => by omega, by omega⟩
      rw [Nat.zero_mul]
      exact Nat.zero_le _

theorem Worth.lt_of_class {n : Nat} {rest rest' : List Nat} (h : Worth v (n :: rest)) (h' : Worth v' (n :: rest')) :
    v < v' ↔ rest < rest' := by
  cases h with
  | straightFlush htop =>
      cases h' with
      | straightFlush htop' =>
          simp only [List.cons_lt_cons_iff, List.not_lt_nil, and_false, or_false]
          split_ifs <;> omega
  | fourOfAKind hx hy =>
      cases h' with
      | fourOfAKind hx' hy' =>
          simp only [List.cons_lt_cons_iff, List.not_lt_nil, and_false, or_false]
          omega
  | fullHouse hx hy =>
      cases h' with
      | fullHouse hx' hy' =>
          simp only [List.cons_lt_cons_iff, List.not_lt_nil, and_false, or_false]
          omega
  | flush ha hba hcb hdc hed =>
      cases h' with
      | flush ha' hba' hcb' hdc' hed' =>
          simp only [List.cons_lt_cons_iff, List.not_lt_nil, and_false, or_false]
          omega
  | straight htop =>
      cases h' with
      | straight htop' =>
          simp only [List.cons_lt_cons_iff, List.not_lt_nil, and_false, or_false]
          omega
  | threeOfAKind hx hy hzy =>
      cases h' with
      | threeOfAKind hx' hy' hzy' =>
          simp only [List.cons_lt_cons_iff, List.not_lt_nil, and_false, or_false]
          omega
  | twoPairs hx hyx hz =>
      cases h' with
      | twoPairs hx' hyx' hz' =>
          simp only [List.cons_lt_cons_iff, List.not_lt_nil, and_false, or_false]
          omega
  | pair hx hy hzy hwz =>
      cases h' with
      | pair hx' hy' hzy' hwz' =>
          simp only [List.cons_lt_cons_iff, List.not_lt_nil, and_false, or_false]
          omega
  | highCard ha hba hcb hdc hed =>
      cases h' with
      | highCard ha' hba' hcb' hdc' hed' =>
          simp only [List.cons_lt_cons_iff, List.not_lt_nil, and_false, or_false]
          omega

theorem Worth.lt_iff (h : Worth v k) (h' : Worth v' k') : v < v' ↔ k < k' := by
  obtain ⟨n, rest, rfl, hle, hlt, hn⟩ := h.class
  obtain ⟨n', rest', rfl, hle', hlt', hn'⟩ := h'.class
  rw [List.cons_lt_cons_iff]
  by_cases hsame : n = n'
  · subst hsame
    rw [h.lt_of_class h']
    exact ⟨fun hrest => .inr ⟨rfl, hrest⟩, fun hor => hor.elim (fun hless => absurd hless (lt_irrefl n)) And.right⟩
  · omega

section

variable {ranks l : List Nat} {a b c d e top : Nat}

theorem before_total (ranks : List Nat) (x y : Nat) : Before ranks x y ∨ Before ranks y x := by
  simp only [Before]
  omega

theorem before_trans {x y z : Nat} (hxy : Before ranks x y) (hyz : Before ranks y z) : Before ranks x z := by
  simp only [Before] at *
  omega

theorem before_antisymm {x y : Nat} (hxy : Before ranks x y) (hyx : Before ranks y x) : x = y := by
  simp only [Before] at *
  omega

theorem ordered_sorted (ranks : List Nat) : (ordered ranks).Pairwise (Before ranks) := by
  have htotal : Std.Total (Before ranks) := ⟨before_total ranks⟩
  have htrans : IsTrans Nat (Before ranks) := ⟨fun _ _ _ => before_trans⟩
  exact List.pairwise_insertionSort (Before ranks) ranks

theorem ordered_eq (hperm : l.Perm ranks) (hl : l.Pairwise (Before ranks)) : ordered ranks = l :=
  ((List.perm_insertionSort (Before ranks) ranks).trans hperm.symm).eq_of_pairwise
    (fun _ _ _ _ => before_antisymm) (ordered_sorted ranks) hl

theorem ordered_perm (h : l.Perm ranks) : ordered l = ordered ranks := by
  have hbefore : Before l = Before ranks := by
    ext x y
    simp only [Before, h.count_eq]
  refine (ordered_eq ((List.perm_insertionSort (Before l) l).trans h) ?_).symm
  rw [← hbefore]
  exact ordered_sorted l

theorem rankClass_perm (h : l.Perm ranks) : rankClass l = rankClass ranks := by
  have hcount : (fun x => l.count x) = fun x => ranks.count x := funext fun x => h.count_eq x
  rw [rankClass, rankClass, ordered_perm h, hcount]

theorem straightTop_perm (h : l.Perm ranks) : straightTop l = straightTop ranks := by
  have hsame : (fun top => decide (l.Perm (run top))) = fun top => decide (ranks.Perm (run top)) :=
    funext fun top => decide_eq_decide.mpr ⟨h.symm.trans, h.trans⟩
  rw [straightTop, straightTop, hsame]

theorem run_eq (hlow : 4 ≤ top) (hhigh : top ≤ 12) : run top = [top, top - 1, top - 2, top - 3, top - 4] := by
  simp only [run, List.range_succ, List.range_zero, List.nil_append, List.map_cons, List.map_nil,
    List.cons_append, List.cons.injEq, and_true]
  omega

theorem perm_run (hfall : [a, b, c, d, e].Pairwise fun x y => y ≤ x) (hlow : 3 ≤ top) (hhigh : top ≤ 12) :
    [a, b, c, d, e].Perm (run top) ↔
      top = a ∧ (a = b + 1 ∧ b = c + 1 ∧ c = d + 1 ∧ d = e + 1) ∨
        top = 3 ∧ (a = 12 ∧ b = 3 ∧ c = 2 ∧ d = 1 ∧ e = 0) := by
  by_cases hthree : top = 3
  · subst hthree
    have hrun : (run 3).Perm [12, 3, 2, 1, 0] := by decide
    constructor
    · intro hperm
      have heq := (hperm.trans hrun).eq_of_pairwise (fun _ _ _ _ hxy hyx => Nat.le_antisymm hyx hxy) hfall (by decide)
      simp only [List.cons.injEq, and_true] at heq
      exact .inr ⟨rfl, heq⟩
    · rintro (⟨htop, hrun⟩ | ⟨-, rfl, rfl, rfl, rfl, rfl⟩)
      · omega
      · exact hrun.symm
  · rw [run_eq (by omega) hhigh]
    constructor
    · intro hperm
      have hsorted : [top, top - 1, top - 2, top - 3, top - 4].Pairwise fun x y => y ≤ x := by
        simp only [List.pairwise_cons, List.mem_cons, List.not_mem_nil, or_false, forall_eq_or_imp, forall_eq,
          IsEmpty.forall_iff, implies_true, List.Pairwise.nil, and_true]
        omega
      have heq := hperm.eq_of_pairwise (fun _ _ _ _ hxy hyx => Nat.le_antisymm hyx hxy) hfall hsorted
      simp only [List.cons.injEq, and_true] at heq
      omega
    · rintro (⟨htop, hrun⟩ | ⟨htop, -⟩)
      · have heq : [a, b, c, d, e] = [top, top - 1, top - 2, top - 3, top - 4] := by
          simp only [List.cons.injEq, and_true]
          omega
        rw [heq]
      · omega

variable (hfall : [a, b, c, d, e].Pairwise fun x y => y ≤ x)

include hfall

theorem straightTop_some (h : straightTop [a, b, c, d, e] = some top) :
    top = a ∧ (a = b + 1 ∧ b = c + 1 ∧ c = d + 1 ∧ d = e + 1) ∨
      top = 3 ∧ (a = 12 ∧ b = 3 ∧ c = 2 ∧ d = 1 ∧ e = 0) := by
  rw [straightTop] at h
  have hmem := List.mem_range'_1.mp (List.mem_of_find?_eq_some h)
  have hrun := List.find?_some h
  exact (perm_run hfall (by omega) (by omega)).mp (of_decide_eq_true hrun)

theorem straightTop_none (ha : a ≤ 12) (h : straightTop [a, b, c, d, e] = none) :
    ¬ (a = b + 1 ∧ b = c + 1 ∧ c = d + 1 ∧ d = e + 1) ∧ ¬ (a = 12 ∧ b = 3 ∧ c = 2 ∧ d = 1 ∧ e = 0) := by
  have hnot := List.find?_eq_none.mp h
  constructor
  · intro hrun
    have hno := hnot a (List.mem_range'_1.mpr (by omega))
    rw [decide_eq_true_eq, perm_run hfall (by omega) ha] at hno
    exact hno (.inl ⟨rfl, hrun⟩)
  · intro hwheel
    have hno := hnot 3 (List.mem_range'_1.mpr (by omega))
    rw [decide_eq_true_eq, perm_run hfall (by omega) (by omega)] at hno
    exact hno (.inr ⟨rfl, hwheel⟩)

def fiveStrength (oneSuit : Bool) (ranks : List Nat) : List Nat :=
  match straightTop ranks with
  | some top => [if oneSuit then 8 else 4, top]
  | none => (if oneSuit then 5 else rankClass ranks) :: ordered ranks

omit hfall in
theorem fiveStrength_perm {oneSuit : Bool} (h : l.Perm ranks) :
    fiveStrength oneSuit l = fiveStrength oneSuit ranks := by
  rw [fiveStrength, fiveStrength, straightTop_perm h, rankClass_perm h, ordered_perm h]

theorem suit_worth (ha : a ≤ 12) (hnodup : [a, b, c, d, e].Nodup) :
    Worth (fiveValue true a b c d e) (fiveStrength true [a, b, c, d, e]) := by
  have hless := hfall.and hnodup
  simp only [List.pairwise_cons, List.mem_cons, List.not_mem_nil, or_false, forall_eq_or_imp, forall_eq] at hless
  rw [value_suit (by omega) (by omega) (by omega) (by omega), fiveStrength]
  cases hstraight : straightTop [a, b, c, d, e] with
  | some top =>
      rcases straightTop_some hfall hstraight with ⟨rfl, hrun⟩ | ⟨rfl, hwheel⟩
      · rw [if_pos hrun]
        exact .straightFlush ha
      · rw [if_neg (by omega), if_pos hwheel]
        exact @Worth.straightFlush 3 (by omega)
  | none =>
      obtain ⟨hrun, hwheel⟩ := straightTop_none hfall ha hstraight
      have hordered : ordered [a, b, c, d, e] = [a, b, c, d, e] := by
        refine ordered_eq (.refl _) (hfall.imp_of_mem fun hx hy hle => .inr ⟨?_, hle⟩)
        rw [List.count_eq_one_of_mem hnodup hx, List.count_eq_one_of_mem hnodup hy]
      rw [if_neg hrun, if_neg hwheel, hordered]
      exact .flush ha (by omega) (by omega) (by omega) (by omega)

end

section

variable {groups : List (Nat × Nat)} {ranks : List Nat} {n x y z w : Nat}

def spread (groups : List (Nat × Nat)) : List Nat := groups.flatMap fun g => List.replicate g.1 g.2

theorem count_spread (hnodup : (groups.map Prod.snd).Nodup) (h : (n, x) ∈ groups) : (spread groups).count x = n := by
  induction groups with
  | nil => cases h
  | cons g groups ih =>
      rw [List.map_cons, List.nodup_cons] at hnodup
      rw [spread, List.flatMap_cons, List.count_append]
      rcases List.mem_cons.mp h with rfl | h
      · have hlater : x ∉ spread groups := by
          intro hx
          obtain ⟨g, hg, hx⟩ := List.mem_flatMap.mp hx
          exact hnodup.1 (List.mem_map.mpr ⟨g, hg, (List.eq_of_mem_replicate hx).symm⟩)
        rw [List.count_replicate_self, ← spread, List.count_eq_zero.mpr hlater, Nat.add_zero]
      · have hne : g.2 ≠ x := fun heq => hnodup.1 (List.mem_map.mpr ⟨_, h, heq.symm⟩)
        rw [← spread, ih hnodup.2 h, List.count_replicate, if_neg (by simpa using hne), Nat.zero_add]

/-- Groups by size, and by rank among those of a size, are what the ordered ranks consist of. -/
theorem ordered_spread (hperm : (spread groups).Perm ranks) (hnodup : (groups.map Prod.snd).Nodup)
    (hsorted : groups.Pairwise fun g h => h.1 < g.1 ∨ g.1 = h.1 ∧ h.2 ≤ g.2) : ordered ranks = spread groups ∧
      ((spread groups).map fun x => ranks.count x) = groups.flatMap fun g => List.replicate g.1 g.1 := by
  have hcount : ∀ g ∈ groups, ranks.count g.2 = g.1 := fun g hg => by
    rw [← hperm.count_eq, count_spread hnodup hg]
  constructor
  · refine ordered_eq hperm (List.pairwise_flatMap.mpr ⟨fun g _ => ?_, ?_⟩)
    · exact List.pairwise_replicate.mpr (.inr (.inr ⟨rfl, le_refl _⟩))
    · refine hsorted.imp_of_mem fun hg hh hboth x hx y hy => ?_
      rw [List.eq_of_mem_replicate hx, List.eq_of_mem_replicate hy, Before, hcount _ hg, hcount _ hh]
      exact hboth
  · rw [spread, List.map_flatMap]
    refine List.flatMap_congr fun g hg => ?_
    rw [List.map_replicate, hcount g hg]

variable (hstraight : straightTop ranks = none)

include hstraight

theorem fourOfAKind_strength (hperm : [x, x, x, x, y].Perm ranks) (hne : x ≠ y) :
    fiveStrength false ranks = [7, x, x, x, x, y] := by
  obtain ⟨hordered, hcounts⟩ := @ordered_spread [(4, x), (1, y)] _ hperm (by simpa using hne) (by simp)
  simp only [fiveStrength, hstraight, rankClass, hordered, hcounts]
  rfl

theorem fullHouse_strength (hperm : [x, x, x, y, y].Perm ranks) (hne : x ≠ y) :
    fiveStrength false ranks = [6, x, x, x, y, y] := by
  obtain ⟨hordered, hcounts⟩ := @ordered_spread [(3, x), (2, y)] _ hperm (by simpa using hne) (by simp)
  simp only [fiveStrength, hstraight, rankClass, hordered, hcounts]
  rfl

theorem threeOfAKind_strength (hperm : [x, x, x, y, z].Perm ranks) (hxy : x ≠ y) (hxz : x ≠ z) (hzy : z < y) :
    fiveStrength false ranks = [3, x, x, x, y, z] := by
  obtain ⟨hordered, hcounts⟩ := @ordered_spread [(3, x), (1, y), (1, z)] _ hperm (by simp; omega) (by simp; omega)
  simp only [fiveStrength, hstraight, rankClass, hordered, hcounts]
  rfl

theorem twoPairs_strength (hperm : [x, x, y, y, z].Perm ranks) (hyx : y < x) (hxz : x ≠ z) (hyz : y ≠ z) :
    fiveStrength false ranks = [2, x, x, y, y, z] := by
  obtain ⟨hordered, hcounts⟩ := @ordered_spread [(2, x), (2, y), (1, z)] _ hperm (by simp; omega) (by simp; omega)
  simp only [fiveStrength, hstraight, rankClass, hordered, hcounts]
  rfl

theorem pair_strength (hperm : [x, x, y, z, w].Perm ranks) (hxy : x ≠ y) (hxz : x ≠ z) (hxw : x ≠ w) (hzy : z < y)
    (hwz : w < z) : fiveStrength false ranks = [1, x, x, y, z, w] := by
  obtain ⟨hordered, hcounts⟩ :=
    @ordered_spread [(2, x), (1, y), (1, z), (1, w)] _ hperm (by simp; omega) (by simp; omega)
  simp only [fiveStrength, hstraight, rankClass, hordered, hcounts]
  rfl

theorem highCard_strength {a b c d e : Nat} (hba : b < a) (hcb : c < b) (hdc : d < c) (hed : e < d)
    (hperm : [a, b, c, d, e].Perm ranks) : fiveStrength false ranks = [0, a, b, c, d, e] := by
  obtain ⟨hordered, hcounts⟩ :=
    @ordered_spread [(1, a), (1, b), (1, c), (1, d), (1, e)] _ hperm (by simp; omega) (by simp; omega)
  simp only [fiveStrength, hstraight, rankClass, hordered, hcounts]
  rfl

end

section

variable {a b c d e : Nat} (hfall : b ≤ a ∧ c ≤ b ∧ d ≤ c ∧ e ≤ d) (ha : a ≤ 12)
  (hstraight : straightTop [a, b, c, d, e] = none)

include hfall ha hstraight

theorem first_worth (hab : a = b) (hsome : a ≠ e) :
    Worth (fiveValue false a b c d e) (fiveStrength false [a, b, c, d, e]) := by
  subst hab
  by_cases hbc : a = c
  · subst hbc
    by_cases hcd : a = d
    · subst hcd
      rw [value_four rfl, fourOfAKind_strength hstraight (.refl _) hsome]
      exact .fourOfAKind ha (by omega)
    · by_cases hde : d = e
      · subst hde
        rw [value_full hcd hcd ⟨rfl, rfl⟩, fullHouse_strength hstraight (.refl _) hcd]
        exact .fullHouse ha (by omega)
      · rw [value_three hfall rfl hcd hde, threeOfAKind_strength hstraight (.refl _) hcd hsome (by omega)]
        exact .threeOfAKind ha (by omega) (by omega)
  · by_cases hcd : c = d
    · subst hcd
      by_cases hde : c = e
      · subst hde
        have hperm : [c, c, c, a, a].Perm [a, a, c, c, c] := @List.perm_append_comm _ [c, c, c] [a, a]
        rw [value_full_low hbc hbc ⟨rfl, rfl⟩ ⟨le_refl c, le_refl c⟩, fullHouse_strength hstraight hperm (Ne.symm hbc)]
        exact .fullHouse (by omega) ha
      · rw [value_pairs hfall ⟨rfl, rfl⟩ hbc hde, twoPairs_strength hstraight (.refl _) (by omega) hsome hde]
        exact .twoPairs ha (by omega) (by omega)
    · by_cases hde : d = e
      · subst hde
        have hperm : [a, a, d, d, c].Perm [a, a, c, d, d] := (@List.perm_append_comm _ [d, d] [c]).append_left [a, a]
        rw [value_pairs_outer hfall ⟨rfl, rfl⟩ hbc hcd,
          twoPairs_strength hstraight hperm (by omega) (by omega) (by omega)]
        exact .twoPairs ha (by omega) (by omega)
      · rw [value_pair hfall rfl hbc hcd hde,
          pair_strength hstraight (.refl _) hbc (by omega) (by omega) (by omega) (by omega)]
        exact .pair ha (by omega) (by omega) (by omega)

theorem second_worth (hab : a ≠ b) : Worth (fiveValue false a b c d e) (fiveStrength false [a, b, c, d, e]) := by
  by_cases hbc : b = c
  · subst hbc
    by_cases hcd : b = d
    · subst hcd
      by_cases hde : b = e
      · subst hde
        have hperm : [b, b, b, b, a].Perm [a, b, b, b, b] := @List.perm_append_comm _ [b, b, b, b] [a]
        rw [value_four_low hfall rfl, fourOfAKind_strength hstraight hperm (Ne.symm hab)]
        exact .fourOfAKind (by omega) ha
      · have hperm : [b, b, b, a, e].Perm [a, b, b, b, e] := (@List.perm_append_comm _ [b, b, b] [a]).append_right [e]
        rw [value_three_middle hfall rfl hab hde, threeOfAKind_strength hstraight hperm (Ne.symm hab) hde (by omega)]
        exact .threeOfAKind (by omega) ha (by omega)
    · by_cases hde : d = e
      · subst hde
        have hperm : [b, b, d, d, a].Perm [a, b, b, d, d] := @List.perm_append_comm _ [b, b, d, d] [a]
        rw [value_pairs_low hfall ⟨rfl, rfl⟩ hab hcd,
          twoPairs_strength hstraight hperm (by omega) (by omega) (by omega)]
        exact .twoPairs (by omega) (by omega) ha
      · have hperm : [b, b, a, d, e].Perm [a, b, b, d, e] := (@List.perm_append_comm _ [b, b] [a]).append_right [d, e]
        rw [value_pair_second hfall rfl hab hcd hde,
          pair_strength hstraight hperm (Ne.symm hab) hcd (by omega) (by omega) (by omega)]
        exact .pair (by omega) ha (by omega) (by omega)
  · by_cases hcd : c = d
    · subst hcd
      by_cases hde : c = e
      · subst hde
        have hperm : [c, c, c, a, b].Perm [a, b, c, c, c] := @List.perm_append_comm _ [c, c, c] [a, b]
        rw [value_three_low hfall rfl hab hbc,
          threeOfAKind_strength hstraight hperm (by omega) (by omega) (by omega)]
        exact .threeOfAKind (by omega) ha (by omega)
      · have hperm : [c, c, a, b, e].Perm [a, b, c, c, e] := (@List.perm_append_comm _ [c, c] [a, b]).append_right [e]
        rw [value_pair_third hfall rfl hab hbc hde,
          pair_strength hstraight hperm (by omega) (by omega) (by omega) (by omega) (by omega)]
        exact .pair (by omega) ha (by omega) (by omega)
    · by_cases hde : d = e
      · subst hde
        have hperm : [d, d, a, b, c].Perm [a, b, c, d, d] := @List.perm_append_comm _ [d, d] [a, b, c]
        rw [value_pair_low hfall rfl hab hbc hcd,
          pair_strength hstraight hperm (by omega) (by omega) (by omega) (by omega) (by omega)]
        exact .pair (by omega) ha (by omega) (by omega)
      · have hsorted : [a, b, c, d, e].Pairwise fun x y => y ≤ x := by
          simp
          omega
        obtain ⟨hrun, hwheel⟩ := straightTop_none hsorted ha hstraight
        rw [value_high hfall hab hbc hcd hde hrun hwheel,
          highCard_strength hstraight (by omega) (by omega) (by omega) (by omega) (.refl _)]
        exact .highCard ha (by omega) (by omega) (by omega) (by omega)

end

section

variable {a b c d e : Nat}

theorem ranks_worth (hfall : b ≤ a ∧ c ≤ b ∧ d ≤ c ∧ e ≤ d) (ha : a ≤ 12) (hsome : a ≠ e) :
    Worth (fiveValue false a b c d e) (fiveStrength false [a, b, c, d, e]) := by
  cases hstraight : straightTop [a, b, c, d, e] with
  | some top =>
      have hsorted : [a, b, c, d, e].Pairwise fun x y => y ≤ x := by
        simp
        omega
      rcases straightTop_some hsorted hstraight with ⟨rfl, hrun⟩ | ⟨rfl, hwheel⟩
      · rw [value_straight hrun, fiveStrength, hstraight]
        exact .straight ha
      · rw [value_low hwheel, fiveStrength, hstraight]
        exact @Worth.straight 3 (by omega)
  | none =>
      by_cases hab : a = b
      · exact first_worth hfall ha hstraight hab hsome
      · exact second_worth hfall ha hstraight hab

end

variable {five hand : List Nat}

theorem exists_ranks (h : five.length = 5) : ∃ a b c d e, Lists.sort (five.map (· % 13)) = [e, d, c, b, a] := by
  have hlength : (Lists.sort (five.map (· % 13))).length = 5 := by
    rw [Lists.sort_length, List.length_map, h]
  rcases hsort : Lists.sort (five.map (· % 13)) with _ | ⟨e, _ | ⟨d, _ | ⟨c, _ | ⟨b, _ | ⟨a, _ | ⟨x, l⟩⟩⟩⟩⟩⟩
  · rw [hsort] at hlength
    cases hlength
  · rw [hsort] at hlength
    cases hlength
  · rw [hsort] at hlength
    cases hlength
  · rw [hsort] at hlength
    cases hlength
  · rw [hsort] at hlength
    cases hlength
  · exact ⟨a, b, c, d, e, rfl⟩
  · rw [hsort] at hlength
    simp at hlength

theorem hand_worth (hlength : five.length = 5) (hdistinct : five.Nodup) (hcards : ∀ card ∈ five, card < 52) :
    Worth (handValue five) (strength five) := by
  obtain ⟨a, b, c, d, e, hsort⟩ := exists_ranks hlength
  have hperm : (five.map (· % 13)).Perm [a, b, c, d, e] := by
    have hsorted := Lists.sort_perm (five.map (· % 13))
    rw [hsort] at hsorted
    exact hsorted.symm.trans (List.reverse_perm [a, b, c, d, e])
  have hrising := Lists.sort_sorted (five.map (· % 13))
  rw [hsort] at hrising
  have hsorted : [a, b, c, d, e].Pairwise fun x y => y ≤ x := List.pairwise_reverse.mp hrising
  have hfall := hsorted
  simp only [List.pairwise_cons, List.mem_cons, List.not_mem_nil, or_false, forall_eq_or_imp, forall_eq] at hfall
  have htwelve : a ≤ 12 := by
    obtain ⟨card, -, hcard⟩ := List.mem_map.mp (hperm.mem_iff.mpr (show a ∈ [a, b, c, d, e] by simp))
    omega
  have hstrength : strength five =
      fiveStrength (decide (∀ x ∈ five, ∀ y ∈ five, x / 13 = y / 13)) [a, b, c, d, e] := fiveStrength_perm hperm
  rw [handValue, hsort, hstrength]
  dsimp only
  cases hone : decide (∀ x ∈ five, ∀ y ∈ five, x / 13 = y / 13) with
  | true =>
      rw [decide_eq_true_eq] at hone
      refine suit_worth hsorted htwelve (hperm.nodup_iff.mp (hdistinct.map_on fun x hx y hy hrank => ?_))
      have hsuit := hone x hx y hy
      omega
  | false =>
      refine ranks_worth ⟨hfall.1.1, hfall.2.1.1, hfall.2.2.1.1, hfall.2.2.2.1⟩ htwelve fun hsame => ?_
      -- five cards of one rank would have five suits
      have hrank : ∀ x ∈ five, x % 13 = a := fun x hx => by
        have hx := hperm.mem_iff.mp (List.mem_map_of_mem (f := (· % 13)) hx)
        simp only [List.mem_cons, List.not_mem_nil, or_false] at hx
        omega
      have hsuits : (five.map (· / 13)).Nodup := hdistinct.map_on fun x hx y hy hsuit => by
        have hxa := hrank x hx
        have hya := hrank y hy
        omega
      have hfour : five.map (· / 13) ⊆ List.range 4 := fun s hs => by
        obtain ⟨x, hx, rfl⟩ := List.mem_map.mp hs
        have hlt := hcards x hx
        exact List.mem_range.mpr (by omega)
      have hle := (List.subperm_of_subset hsuits hfour).length_le
      rw [List.length_map, hlength, List.length_range] at hle
      omega

theorem handValue_lt_iff (hlength : five.length = 5) (hdistinct : five.Nodup) (hcards : ∀ card ∈ five, card < 52)
    (hlength' : hand.length = 5) (hdistinct' : hand.Nodup) (hcards' : ∀ card ∈ hand, card < 52) :
    handValue five < handValue hand ↔ strength five < strength hand :=
  (hand_worth hlength hdistinct hcards).lt_iff (hand_worth hlength' hdistinct' hcards')

structure SevenCards (cards : List Nat) : Prop where
  length : cards.length = 7
  nodup : cards.Nodup
  deck : ∀ card ∈ cards, card < 52

variable {cards : List Nat}

theorem SevenCards.lt_iff (h : SevenCards cards) (h' : SevenCards hand) {other : List Nat} (hfive : five.Subperm cards)
    (hlength : five.length = 5) (hother : other.Subperm hand) (hlength' : other.length = 5) :
    handValue five < handValue other ↔ strength five < strength other := by
  obtain ⟨picked, hpicked, hsub⟩ := hfive
  obtain ⟨picked', hpicked', hsub'⟩ := hother
  exact handValue_lt_iff hlength (hpicked.nodup_iff.mp (h.nodup.sublist hsub))
    (fun card hcard => h.deck card (hsub.subset (hpicked.mem_iff.mpr hcard))) hlength'
    (hpicked'.nodup_iff.mp (h'.nodup.sublist hsub'))
    fun card hcard => h'.deck card (hsub'.subset (hpicked'.mem_iff.mpr hcard))

/-- A value is less than another one when five of the other seven cards beat every five of these. -/
theorem SevenCards.value_lt (h : SevenCards cards) (h' : SevenCards hand) :
    (cardsValue cards).value < (cardsValue hand).value ↔ ∃ other, other.Subperm hand ∧ other.length = 5 ∧
      ∀ five, five.Subperm cards → five.length = 5 → strength five < strength other := by
  obtain ⟨⟨five, hfive, hlength, hvalue⟩, hupper⟩ := greatest h.length h.nodup
  obtain ⟨⟨other, hother, hlength', hvalue'⟩, hupper'⟩ := greatest h'.length h'.nodup
  constructor
  · intro hless
    refine ⟨other, hother, hlength', fun picked hpicked hl => ?_⟩
    have hle := hupper ⟨picked, hpicked, hl, rfl⟩
    rw [← h.lt_iff h' hpicked hl hother hlength', hvalue']
    exact hle.trans_lt hless
  · rintro ⟨best, hbest, hl, hall⟩
    have hless := (h.lt_iff h' hfive hlength hbest hl).mpr (hall five hfive hlength)
    have hle := hupper' ⟨best, hbest, hl, rfl⟩
    rw [hvalue] at hless
    exact hless.trans_le hle

/-- Five of the cards that no five of the other hand beat. -/
def NotBeatenBy (cards hand : List Nat) : Prop := ∃ five : List Nat, five.Subperm cards ∧ five.length = 5 ∧
  ∀ other : List Nat, other.Subperm hand → other.length = 5 → strength other ≤ strength five

theorem SevenCards.notBeatenBy (h : SevenCards cards) (h' : SevenCards hand)
    (hle : (cardsValue cards).value ≤ (cardsValue hand).value) : NotBeatenBy hand cards := by
  obtain ⟨-, hupper⟩ := greatest h.length h.nodup
  obtain ⟨⟨other, hother, hlength', hvalue'⟩, -⟩ := greatest h'.length h'.nodup
  refine ⟨other, hother, hlength', fun five hfive hlength => ?_⟩
  by_contra hless
  have hmore := (h'.lt_iff h hother hlength' hfive hlength).mpr (not_le.mp hless)
  have hfive := hupper ⟨five, hfive, hlength, rfl⟩
  rw [hvalue'] at hmore
  omega

/-- The numbers order the hands as the game does: by the class of the best five cards, then by the ranks that occur
more often among them, then by the others. -/
theorem value_lt_iff (h : SevenCards cards) (h' : SevenCards hand) :
    (cardsValue cards).value < (cardsValue hand).value ↔ ∃ other, other.Subperm hand ∧ other.length = 5 ∧
      ∀ five, five.Subperm cards → five.length = 5 → strength five < strength other := h.value_lt h'

/-- Two pairs on the same board, with a four and with a king beside them. -/
theorem value_lt_iff_kicker :
    (cardsValue [2, 14, 12, 25, 5, 18, 0]).value < (cardsValue [11, 14, 12, 25, 5, 18, 0]).value ↔
      ∃ other : List Nat, other.Subperm [11, 14, 12, 25, 5, 18, 0] ∧ other.length = 5 ∧
      ∀ five : List Nat, five.Subperm [2, 14, 12, 25, 5, 18, 0] → five.length = 5 → strength five < strength other :=
  value_lt_iff ⟨by decide, by decide, by decide⟩ ⟨by decide, by decide, by decide⟩

def fives {α : Type} (f : List Nat → α) (cards : List Nat) : Set α := {x | ∃ five ∈ cards.sublistsLen 5, f five = x}

theorem SevenCards.fives_greatest (h : SevenCards cards) : IsGreatest (fives handValue cards) (cardsValue cards).value := by
  obtain ⟨⟨five, ⟨picked, hperm, hsub⟩, hlength, hvalue⟩, hupper⟩ := greatest h.length h.nodup
  refine ⟨⟨picked, List.mem_sublistsLen.mpr ⟨hsub, hperm.length_eq.trans hlength⟩, ?_⟩, ?_⟩
  · rw [handValue_perm hperm, hvalue]
  · rintro value ⟨other, hother, rfl⟩
    obtain ⟨hsub, hlength⟩ := List.mem_sublistsLen.mp hother
    exact hupper ⟨other, hsub.subperm, hlength, rfl⟩

theorem SevenCards.strongest (h : SevenCards cards) : ∃ five, five.Subperm cards ∧ five.length = 5 ∧
    handValue five = (cardsValue cards).value ∧ IsGreatest (fives strength cards) (strength five) := by
  obtain ⟨⟨five, hfive, hvalue⟩, hupper⟩ := h.fives_greatest
  obtain ⟨hsub, hlength⟩ := List.mem_sublistsLen.mp hfive
  refine ⟨five, hsub.subperm, hlength, hvalue, ⟨five, hfive, rfl⟩, ?_⟩
  rintro k ⟨other, hother, rfl⟩
  obtain ⟨hsub', hlength'⟩ := List.mem_sublistsLen.mp hother
  have hle := hupper ⟨other, hother, rfl⟩
  rw [← hvalue] at hle
  exact not_lt.mp fun hless => hle.not_gt ((h.lt_iff h hsub.subperm hlength hsub'.subperm hlength').mpr hless)

/-- The value of seven cards is the greatest among those of the 21 hands in them, it orders any two such sevens as the
game orders their strongest hands, and neither the order of the cards nor the names of the suits matter to it. -/
theorem value_pokerOrder (h : SevenCards cards) (h' : SevenCards hand) :
    ((cards.sublistsLen 5).length = 21 ∧ IsGreatest (fives handValue cards) (cardsValue cards).value) ∧
      (∃ k k', IsGreatest (fives strength cards) k ∧ IsGreatest (fives strength hand) k' ∧
        ((cardsValue cards).value < (cardsValue hand).value ↔ k < k') ∧
        ((cardsValue cards).value = (cardsValue hand).value ↔ k = k') ∧
        ((cardsValue hand).value < (cardsValue cards).value ↔ k' < k)) ∧
      ∀ (suit : Nat → Nat) (other : List Nat), suit.Injective → other.Perm (cards.map (renamed suit)) →
        (cardsValue other).value = (cardsValue cards).value := by
  refine ⟨⟨?_, h.fives_greatest⟩, ?_, fun suit other hsuit hperm => same_value h.length h.nodup hsuit hperm⟩
  · rw [List.length_sublistsLen, h.length]
    decide
  · obtain ⟨five, hfive, hlength, hvalue, hk⟩ := h.strongest
    obtain ⟨other, hother, hlength', hvalue', hk'⟩ := h'.strongest
    have hless := h.lt_iff h' hfive hlength hother hlength'
    have hmore := h'.lt_iff h hother hlength' hfive hlength
    rw [hvalue, hvalue'] at hless hmore
    refine ⟨_, _, hk, hk', hless, ?_, hmore⟩
    rw [eq_iff_le_not_lt, eq_iff_le_not_lt, ← not_lt, ← not_lt, hless, hmore]

theorem value_pokerOrder_flush : IsGreatest (fives handValue [0, 2, 4, 6, 8, 13, 26]) 508060420 ∧
    (∃ k k', IsGreatest (fives strength [0, 2, 4, 6, 8, 13, 26]) k ∧
      IsGreatest (fives strength [12, 25, 38, 0, 13, 17, 31]) k' ∧ k < k') ∧
    (cardsValue [26, 0, 21, 19, 17, 15, 13]).value = 508060420 := by
  have hvalue : (cardsValue [0, 2, 4, 6, 8, 13, 26]).value = 508060420 := by decide
  have hfull : (cardsValue [12, 25, 38, 0, 13, 17, 31]).value = 612000000 := by decide
  obtain ⟨⟨-, hgreatest⟩, ⟨k, k', hk, hk', hless, -, -⟩, hsame⟩ :=
    @value_pokerOrder [12, 25, 38, 0, 13, 17, 31] [0, 2, 4, 6, 8, 13, 26] ⟨by decide, by decide, by decide⟩
      ⟨by decide, by decide, by decide⟩
  rw [hvalue] at hgreatest
  refine ⟨hgreatest, ⟨k, k', hk, hk', hless.mp (by rw [hvalue, hfull]; decide)⟩, ?_⟩
  rw [← hvalue]
  exact hsame (Equiv.swap 0 1) _ (Equiv.swap 0 1).injective (by decide)

end PokerTH.CardsValue
