import Mathlib.Algebra.BigOperators.Group.List.Basic
import Mathlib.Algebra.GroupWithZero.Nat
import Mathlib.Algebra.Order.BigOperators.Group.List
import Mathlib.Algebra.Ring.Int.Defs
import Mathlib.Data.List.Nodup
import Mathlib.Data.List.Sort

namespace PokerTH.Lists

variable {α σ ε : Type}

def sort (l : List Nat) : List Nat := l.insertionSort (· ≤ ·)

theorem sort_perm (l : List Nat) : (sort l).Perm l := l.perm_insertionSort (· ≤ ·)

theorem sort_length (l : List Nat) : (sort l).length = l.length := (sort_perm l).length_eq

theorem sort_sorted (l : List Nat) : (sort l).Pairwise (· ≤ ·) := l.pairwise_insertionSort (· ≤ ·)

theorem sort_eq_of_perm {l m : List Nat} (h : l.Perm m) (hm : m.Pairwise (· ≤ ·)) : sort l = m :=
  ((sort_perm l).trans h).eq_of_pairwise (fun _ _ _ _ => Nat.le_antisymm) (sort_sorted l) hm

theorem sort_map {f : Nat → Nat} (hf : ∀ a b, a ≤ b → f a ≤ f b) (l : List Nat) :
    sort (l.map f) = (sort l).map f := by
  apply sort_eq_of_perm ((sort_perm l).symm.map f)
  rw [List.pairwise_map]
  exact (sort_sorted l).imp (hf _ _)

theorem sorted_le_of_mem_drop {l : List Nat} (hl : l.Pairwise (· ≤ ·)) {i x : Nat}
    (hx : x ∈ l.drop i) : l.getD i 0 ≤ x := by
  induction l generalizing i with
  | nil => simp at hx
  | cons a l ih =>
      rw [List.pairwise_cons] at hl
      cases i with
      | zero =>
          rcases List.mem_cons.mp hx with rfl | hx
          · simp
          · simpa using hl.1 x hx
      | succ i => exact ih hl.2 hx

/-- Capping a sorted list at its entry `i`, below which only zeros stand, counts that entry once
for each of the remaining places. -/
theorem sum_min_of_sorted {l : List Nat} (hl : l.Pairwise (· ≤ ·)) {i : Nat}
    (hz : ∀ x ∈ l.take i, x = 0) :
    (l.map fun x => min x (l.getD i 0)).sum = (l.length - i) * l.getD i 0 := by
  have hsplit : l.map (fun x => min x (l.getD i 0)) =
      (l.take i).map (fun x => min x (l.getD i 0)) ++ (l.drop i).map (fun x => min x (l.getD i 0)) := by
    rw [← List.map_append, List.take_append_drop]
  have htake : ((l.take i).map fun x => min x (l.getD i 0)).sum = 0 := by
    apply List.sum_eq_zero
    intro y hy
    obtain ⟨x, hx, rfl⟩ := List.mem_map.mp hy
    simp [hz x hx]
  have hdrop : (l.drop i).map (fun x => min x (l.getD i 0)) =
      List.replicate (l.length - i) (l.getD i 0) := by
    rw [List.eq_replicate_iff]
    refine ⟨by simp, ?_⟩
    intro y hy
    obtain ⟨x, hx, rfl⟩ := List.mem_map.mp hy
    exact Nat.min_eq_right (sorted_le_of_mem_drop hl hx)
  rw [hsplit, List.sum_append, htake, hdrop, List.sum_replicate, Nat.zero_add, Nat.nsmul_eq_mul]

theorem sum_sub_min (l : List Nat) (c : Nat) :
    (l.map fun x => x - c).sum + (l.map fun x => min x c).sum = l.sum := by
  induction l with
  | nil => rfl
  | cons a l ih =>
      simp only [List.map_cons, List.sum_cons]
      omega

theorem sum_map_add (l : List α) (f g : α → Int) :
    (l.map fun a => f a + g a).sum = (l.map f).sum + (l.map g).sum := by
  induction l with
  | nil => rfl
  | cons a l ih =>
      simp only [List.map_cons, List.sum_cons, ih]
      omega

theorem sum_map_zero {l : List α} {f : α → Int} (h : ∀ a ∈ l, f a = 0) : (l.map f).sum = 0 := by
  apply List.sum_eq_zero
  intro y hy
  obtain ⟨a, ha, rfl⟩ := List.mem_map.mp hy
  exact h a ha

theorem sum_map_nonneg {l : List α} {f : α → Int} (h : ∀ a ∈ l, 0 ≤ f a) : 0 ≤ (l.map f).sum := by
  apply List.sum_nonneg
  intro y hy
  obtain ⟨a, ha, rfl⟩ := List.mem_map.mp hy
  exact h a ha

theorem sum_map_congr {l : List α} {f g : α → Int} (h : ∀ a ∈ l, f a = g a) :
    (l.map f).sum = (l.map g).sum := by
  rw [List.map_congr_left h]

theorem cast_sum_map (l : List α) (f : α → Nat) :
    ((l.map f).sum : Int) = (l.map fun a => (f a : Int)).sum := by
  induction l with
  | nil => rfl
  | cons a l ih =>
      simp only [List.map_cons, List.sum_cons, ← ih]
      omega

theorem sum_map_filter (l : List α) (p : α → Bool) (f : α → Int) :
    ((l.filter p).map f).sum = (l.map fun a => if p a then f a else 0).sum := by
  induction l with
  | nil => rfl
  | cons a l ih =>
      by_cases h : p a
      · simp [h, ih]
      · simp [h, ih]

theorem sum_map_single [DecidableEq α] {l : List α} (hl : l.Nodup) {a : α} (ha : a ∈ l) (x : Int) :
    (l.map fun b => if b = a then x else 0).sum = x := by
  induction l with
  | nil => simp at ha
  | cons b l ih =>
      rw [List.nodup_cons] at hl
      rw [List.map_cons, List.sum_cons]
      rcases List.mem_cons.mp ha with rfl | hal
      · have hz : (l.map fun b => if b = a then x else 0).sum = 0 := by
          apply sum_map_zero
          intro b hb
          have hne : b ≠ a := fun he => hl.1 (he ▸ hb)
          rw [if_neg hne]
        rw [if_pos rfl, hz, add_zero]
      · have hba : b ≠ a := fun he => hl.1 (he ▸ hal)
        rw [if_neg hba, ih hl.2 hal, zero_add]

/-- Two functions that agree on a duplicate-free list but at one member. -/
theorem sum_map_change [DecidableEq α] {l : List α} (hl : l.Nodup) {a : α} (ha : a ∈ l)
    {f g : α → Int} (h : ∀ b, b ≠ a → g b = f b) :
    (l.map g).sum = (l.map f).sum + (g a - f a) := by
  have hg : (l.map g).sum = (l.map fun b => f b + if b = a then g a - f a else 0).sum := by
    apply sum_map_congr
    intro b _
    by_cases hb : b = a
    · subst hb
      simp
    · simp [h b hb, hb]
  rw [hg, sum_map_add, sum_map_single hl ha]

/-- Two predicates that agree but at one member of a duplicate-free list. -/
theorem countP_change [DecidableEq α] {l : List α} (hl : l.Nodup) {p q : α → Bool} {a : α}
    (hpq : ∀ b, b ≠ a → p b = q b) : l.countP p ≤ l.countP q + 1 := by
  induction l with
  | nil => simp
  | cons b l ih =>
      rw [List.nodup_cons] at hl
      rw [List.countP_cons, List.countP_cons]
      by_cases hb : b = a
      · subst hb
        have hsame : l.countP p = l.countP q := by
          apply List.countP_congr
          intro c hc
          have hcb : c ≠ b := fun he => hl.1 (he ▸ hc)
          rw [hpq c hcb]
        rw [hsame]
        split_ifs <;> omega
      · have hih := ih hl.2
        rw [hpq b hb]
        omega

theorem of_countP_and {l : List α} {p q : α → Bool} (h : (l.countP fun a => p a && q a) = l.countP p) {a : α}
    (ha : a ∈ l) (hp : p a) : q a := by
  have hfilter : (l.filter fun a => p a && q a) = (l.filter p).filter q := by
    rw [List.filter_filter]
    exact List.filter_congr fun a _ => Bool.and_comm _ _
  rw [List.countP_eq_length_filter, List.countP_eq_length_filter, hfilter, List.length_filter_eq_length_iff] at h
  exact h a (List.mem_filter.mpr ⟨ha, hp⟩)

theorem countP_split {l : List α} {p q r : α → Bool} (h : ∀ a ∈ l, p a = (q a || r a))
    (hd : ∀ a ∈ l, q a → r a = false) : l.countP p = l.countP q + l.countP r := by
  induction l with
  | nil => rfl
  | cons a l ih =>
      have hih := ih (fun b hb => h b (List.mem_cons_of_mem a hb)) fun b hb => hd b (List.mem_cons_of_mem a hb)
      have ha := h a List.mem_cons_self
      have hda := hd a List.mem_cons_self
      simp only [List.countP_cons, hih, ha]
      cases hq : q a with
      | false => simp [Nat.add_assoc]
      | true => simp [hda hq, Nat.add_right_comm]

theorem countP_lt {l : List α} {p q : α → Bool} (hle : ∀ b ∈ l, p b → q b) {a : α} (ha : a ∈ l) (hq : q a)
    (hp : p a = false) : l.countP p < l.countP q := by
  have hsplit : l.countP q = l.countP p + l.countP (fun b => q b && !p b) := by
    refine countP_split (fun b hb => ?_) (fun b _ hpb => by simp [hpb])
    have h := hle b hb
    cases hpb : p b <;> simp_all
  have hpos : 0 < l.countP (fun b => q b && !p b) := List.countP_pos_iff.mpr ⟨a, ha, by simp [hq, hp]⟩
  omega

theorem filter_mem_of_sublist [DecidableEq α] {l m : List α} (hs : l.Sublist m) (hm : m.Nodup) :
    m.filter (fun a => decide (a ∈ l)) = l := by
  induction hs with
  | slnil => rfl
  | @cons l m a hs ih =>
      rw [List.nodup_cons] at hm
      have ha : a ∉ l := fun h => hm.1 (hs.subset h)
      rw [List.filter_cons_of_neg (by simpa using ha), ih hm.2]
  | @cons_cons l m a hs ih =>
      rw [List.nodup_cons] at hm
      have hsame : m.filter (fun b => decide (b ∈ a :: l)) = m.filter (fun b => decide (b ∈ l)) := by
        apply List.filter_congr
        intro b hb
        have hne : b ≠ a := fun h => hm.1 (h ▸ hb)
        simp [hne]
      rw [List.filter_cons_of_pos (by simp), hsame, ih hm.2]

/-- The first member to satisfy `p` is the first one to satisfy a stronger `q`, if it does. -/
theorem find_of_find {l : List α} {p q : α → Bool} {a : α} (h : l.find? p = some a) (hq : ∀ b, q b → p b)
    (hqa : q a) : l.find? q = some a := by
  obtain ⟨_, E, D, rfl, hE⟩ := List.find?_eq_some_iff_append.mp h
  refine List.find?_eq_some_iff_append.mpr ⟨hqa, E, D, rfl, fun b hb => ?_⟩
  by_contra hqb
  have hpb := hq b (by simpa using hqb)
  simpa [hpb] using hE b hb

theorem foldlM_range_invariant {f : σ → Nat → Except ε σ} {Inv : Nat → σ → Prop} {n : Nat} {s : σ}
    (h0 : Inv 0 s)
    (hstep : ∀ i s, i < n → Inv i s → ∃ s', f s i = .ok s' ∧ Inv (i + 1) s') :
    ∃ s', (List.range n).foldlM f s = .ok s' ∧ Inv n s' := by
  induction n with
  | zero => exact ⟨s, rfl, h0⟩
  | succ n ih =>
      obtain ⟨t, ht, hInv⟩ := ih (fun i s hi => hstep i s (Nat.lt_succ_of_lt hi))
      obtain ⟨t', ht', hInv'⟩ := hstep n t (Nat.lt_succ_self n) hInv
      refine ⟨t', ?_, hInv'⟩
      rw [List.range_succ, List.foldlM_append, ht]
      simp [bind, Except.bind, ht', pure, Except.pure]

theorem eraseReps_loop {l : List Nat} {a : Nat} (h : (a :: l).Pairwise (· ≤ ·)) (acc : List Nat) :
    ∃ m, List.eraseRepsBy.loop (· == ·) a l acc = acc.reverse ++ m ∧ m.Pairwise (· < ·) ∧ ∀ x, x ∈ m ↔ x ∈ a :: l := by
  induction l generalizing a acc with
  | nil => exact ⟨[a], by simp [List.eraseRepsBy.loop], List.pairwise_singleton _ _, fun _ => Iff.rfl⟩
  | cons b l ih =>
      obtain ⟨hbelow, hl⟩ := List.pairwise_cons.mp h
      by_cases hab : a = b
      · subst hab
        obtain ⟨m, hm, hsorted, hmem⟩ := ih hl acc
        refine ⟨m, by simpa [List.eraseRepsBy.loop] using hm, hsorted, fun x => ?_⟩
        rw [hmem]
        simp
      · obtain ⟨m, hm, hsorted, hmem⟩ := ih hl (a :: acc)
        refine ⟨a :: m, ?_, List.pairwise_cons.mpr ⟨fun x hx => ?_, hsorted⟩, fun x => ?_⟩
        · simp only [List.eraseRepsBy.loop, beq_false_of_ne hab]
          simpa using hm
        · have hless : a < b := Nat.lt_of_le_of_ne (hbelow b (List.mem_cons_self ..)) hab
          rcases List.mem_cons.mp ((hmem x).mp hx) with rfl | hx
          · exact hless
          · exact hless.trans_le ((List.pairwise_cons.mp hl).1 x hx)
        · rw [List.mem_cons, List.mem_cons, hmem]

theorem eraseReps_sorted {l : List Nat} (h : l.Pairwise (· ≤ ·)) :
    l.eraseReps.Pairwise (· < ·) ∧ ∀ x, x ∈ l.eraseReps ↔ x ∈ l := by
  cases l with
  | nil => exact ⟨.nil, fun _ => Iff.rfl⟩
  | cons a l =>
      obtain ⟨m, hm, hsorted, hmem⟩ := eraseReps_loop h []
      have heq : (a :: l).eraseReps = m := hm
      rw [heq]
      exact ⟨hsorted, hmem⟩

end PokerTH.Lists
