import PokerTH.CardsPositions

namespace PokerTH.CardsValue

section

variable {α β : Type} {r : α → α → Prop} {f : α → Option β} {l : List α} {y : β}

/-- In an ordered list the search stops at the first place that has a result. -/
theorem findSome_first (hl : l.Pairwise r) (hy : l.findSome? f = some y) :
    ∃ x ∈ l, f x = some y ∧ ∀ z ∈ l, (f z).isSome → x = z ∨ r x z := by
  induction l with
  | nil => cases hy
  | cons x l ih =>
      obtain ⟨hbelow, hl⟩ := List.pairwise_cons.mp hl
      cases hx : f x with
      | some w =>
          rw [List.findSome?_cons, hx] at hy
          refine ⟨x, List.mem_cons_self .., hx.trans hy, fun z hz _ => ?_⟩
          rcases List.mem_cons.mp hz with rfl | hz
          · exact .inl rfl
          · exact .inr (hbelow z hz)
      | none =>
          rw [List.findSome?_cons, hx] at hy
          obtain ⟨x', hx', hfound, hfirst⟩ := ih hl hy
          refine ⟨x', List.mem_cons_of_mem x hx', hfound, fun z hz hsome => ?_⟩
          rcases List.mem_cons.mp hz with rfl | hz
          · rw [hx] at hsome
            cases hsome
          · exact hfirst z hz hsome

end

theorem ite_le {p : Prop} [Decidable p] {x y v : Nat} (hx : p → x ≤ v) (hy : ¬ p → y ≤ v) :
    (if p then x else y) ≤ v := by
  by_cases hp : p
  · rw [if_pos hp]
    exact hx hp
  · rw [if_neg hp]
    exact hy hp

section

variable {a b c d e value : Nat}

variable (hfall : b ≤ a ∧ c ≤ b ∧ d ≤ c ∧ e ≤ d) (ha : a ≤ 12)

include hfall ha

/-- What bounds the four of a kind among five cards of several suits bounds them all. -/
theorem le_four (hhigh : a = d → 700000000 + a * 1000000 + e * 10000 ≤ value)
    (hlow : b = e → 700000000 + b * 1000000 + a * 10000 ≤ value) (hvalue : 700000000 ≤ value) :
    fiveValue false a b c d e ≤ value := by
  by_cases had : a = d
  · exact (value_four had).trans_le (hhigh had)
  · by_cases hbe : b = e
    · exact (value_four_low hfall hbe).trans_le (hlow hbe)
    · rw [fiveValue_false, if_neg had, if_neg hbe]
      repeat' refine ite_le (fun _ => ?_) fun _ => ?_
      all_goals omega

variable (hhigh : a ≠ d) (hlow : b ≠ e)

include hhigh hlow

theorem le_full (hfull : a = c → d = e → 600000000 + a * 1000000 + d * 10000 ≤ value)
    (hover : a = b → c = e → 600000000 + c * 1000000 + a * 10000 ≤ value) (hvalue : 600000000 ≤ value) :
    fiveValue false a b c d e ≤ value := by
  by_cases had : a = c ∧ d = e
  · exact (value_full hhigh hlow had).trans_le (hfull had.1 had.2)
  · by_cases hbe : a = b ∧ c = e
    · exact (value_full_low hhigh hlow hbe ⟨hfall.2.2.1, hfall.2.2.2⟩).trans_le (hover hbe.1 hbe.2)
    · rw [fiveValue_false, if_neg hhigh, if_neg hlow, if_neg had, if_neg hbe]
      repeat' refine ite_le (fun _ => ?_) fun _ => ?_
      all_goals omega

variable (hfull : ¬ (a = c ∧ d = e)) (hover : ¬ (a = b ∧ c = e))

include hfull hover

theorem le_straight (hrun : a = b + 1 ∧ b = c + 1 ∧ c = d + 1 ∧ d = e + 1 → 400000000 + a * 1000000 ≤ value)
    (hwheel : a = 12 ∧ b = 3 ∧ c = 2 ∧ d = 1 ∧ e = 0 → 400000000 + 3 * 1000000 ≤ value) (hvalue : 400000000 ≤ value) :
    fiveValue false a b c d e ≤ value := by
  rw [fiveValue_false, if_neg hhigh, if_neg hlow, if_neg hfull, if_neg hover]
  refine ite_le hrun fun _ => ite_le hwheel fun _ => ?_
  repeat' refine ite_le (fun _ => ?_) fun _ => ?_
  all_goals omega

variable (hrun : ¬ (a = b + 1 ∧ b = c + 1 ∧ c = d + 1 ∧ d = e + 1))
  (hwheel : ¬ (a = 12 ∧ b = 3 ∧ c = 2 ∧ d = 1 ∧ e = 0))

include hrun hwheel

theorem le_three (hfirst : a = c → 300000000 + a * 1000000 + d * 10000 + e * 100 ≤ value)
    (hmiddle : b = d → 300000000 + b * 1000000 + a * 10000 + e * 100 ≤ value)
    (hlast : c = e → 300000000 + c * 1000000 + a * 10000 + b * 100 ≤ value) (hvalue : 300000000 ≤ value) :
    fiveValue false a b c d e ≤ value := by
  rw [fiveValue_false, if_neg hhigh, if_neg hlow, if_neg hfull, if_neg hover, if_neg hrun, if_neg hwheel]
  refine ite_le hfirst fun _ => ite_le hmiddle fun _ => ite_le hlast fun _ => ?_
  repeat' refine ite_le (fun _ => ?_) fun _ => ?_
  all_goals omega

variable (hfirst : a ≠ c) (hmiddle : b ≠ d) (hlast : c ≠ e)

include hfirst hmiddle hlast

theorem le_pairs (hhighs : a = b → c = d → 200000000 + a * 1000000 + c * 10000 + e * 100 ≤ value)
    (houter : a = b → d = e → 200000000 + a * 1000000 + d * 10000 + c * 100 ≤ value)
    (hlows : b = c → d = e → 200000000 + b * 1000000 + d * 10000 + a * 100 ≤ value) (hvalue : 200000000 ≤ value) :
    fiveValue false a b c d e ≤ value := by
  rw [fiveValue_false, if_neg hhigh, if_neg hlow, if_neg hfull, if_neg hover, if_neg hrun, if_neg hwheel,
    if_neg hfirst, if_neg hmiddle, if_neg hlast]
  refine ite_le (fun h => hhighs h.1 h.2) fun _ => ite_le (fun h => houter h.1 h.2) fun _ =>
    ite_le (fun h => hlows h.1 h.2) fun _ => ?_
  repeat' refine ite_le (fun _ => ?_) fun _ => ?_
  all_goals omega

variable (hhighs : ¬ (a = b ∧ c = d)) (houter : ¬ (a = b ∧ d = e)) (hlows : ¬ (b = c ∧ d = e))

include hhighs houter hlows

theorem le_pair (hab : a = b → 100000000 + a * 1000000 + c * 10000 + d * 100 + e ≤ value)
    (hbc : b = c → 100000000 + b * 1000000 + a * 10000 + d * 100 + e ≤ value)
    (hcd : c = d → 100000000 + c * 1000000 + a * 10000 + b * 100 + e ≤ value)
    (hde : d = e → 100000000 + d * 1000000 + a * 10000 + b * 100 + c ≤ value) (hvalue : 100000000 ≤ value) :
    fiveValue false a b c d e ≤ value := by
  rw [fiveValue_false, if_neg hhigh, if_neg hlow, if_neg hfull, if_neg hover, if_neg hrun, if_neg hwheel,
    if_neg hfirst, if_neg hmiddle, if_neg hlast, if_neg hhighs, if_neg houter, if_neg hlows]
  exact ite_le hab fun _ => ite_le hbc fun _ => ite_le hcd fun _ => ite_le hde fun _ => by omega

end

variable {a : List Card} {e : Evaluation} {i j j1 j2 j3 j4 j5 k k1 k2 k3 k4 k5 : Nat} {js l : List Nat}

theorem choices_of_sublist (hsub : js.Sublist l) : js ∈ choices js.length l := by
  induction hsub with
  | slnil => simp [choices]
  | @cons js l i hsub ih =>
      cases js with
      | nil => simp [choices]
      | cons j js => exact List.mem_append_right _ ih
  | @cons_cons js l i hsub ih => exact List.mem_append_left _ (List.mem_map_of_mem ih)

theorem choices_sorted (hl : l.Pairwise (· < ·)) : (choices k l).Pairwise (· < ·) := by
  induction l generalizing k with
  | nil =>
      cases k with
      | zero => exact List.pairwise_singleton _ _
      | succ k => exact .nil
  | cons i l ih =>
      obtain ⟨hbelow, hl⟩ := List.pairwise_cons.mp hl
      cases k with
      | zero => exact List.pairwise_singleton _ _
      | succ k =>
          refine List.pairwise_append.mpr ⟨?_, ih hl, fun x hx y hy => ?_⟩
          · exact List.pairwise_map.mpr ((ih hl).imp fun hlt => List.cons_lt_cons_iff.mpr (.inr ⟨rfl, hlt⟩))
          · obtain ⟨is, -, rfl⟩ := List.mem_map.mp hx
            obtain ⟨hsub, hlength⟩ := mem_choices hy
            cases y with
            | nil => cases hlength
            | cons j js => exact List.cons_lt_cons_iff.mpr (.inl (hbelow j (hsub.subset (List.mem_cons_self ..))))

end PokerTH.CardsValue
