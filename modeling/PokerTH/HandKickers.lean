import Mathlib.Tactic.SplitIfs
import PokerTH.HandNames

namespace PokerTH.CardsValue

variable {s t x y : String} {v w d : Int} {names cs cs' strings strings' : List String} {levels : List (Int × String)}
  {shown same same' : List Int} {first k : Nat}

def Apart (s t : String) : Prop := ¬ s.toList <+: t.toList ∧ ¬ t.toList <+: s.toList

instance (s t : String) : Decidable (Apart s t) := inferInstanceAs (Decidable (_ ∧ _))

theorem Apart.symm (h : Apart s t) : Apart t s := ⟨h.2, h.1⟩

theorem Apart.ne (h : Apart s t) : s ≠ t := by
  rintro rfl
  exact h.1 (List.prefix_refl _)

theorem Apart.append (h : Apart s t) (x y : String) : Apart (s ++ x) (t ++ y) := by
  have hwhole : ∀ l : List Char, s.toList <+: l → t.toList <+: l → False := fun l hs ht =>
    (List.prefix_or_prefix_of_prefix hs ht).elim h.1 h.2
  simp only [Apart, String.toList_append]
  exact ⟨fun hle => hwhole _ ((List.prefix_append _ _).trans hle) (List.prefix_append _ _),
    fun hle => hwhole _ (List.prefix_append _ _) ((List.prefix_append _ _).trans hle)⟩

theorem Apart.after (h : Apart s t) (p : String) : Apart (p ++ s) (p ++ t) := by
  simpa only [Apart, String.toList_append, List.prefix_append_right_inj] using h

theorem Apart.join_head (h : Apart s t) (cs cs' : List String) :
    Apart (String.join (s :: cs)) (String.join (t :: cs')) := by
  rw [String.join_cons, String.join_cons]
  exact h.append _ _

theorem Apart.join_cons (h : Apart (String.join cs) (String.join cs')) (c : String) :
    Apart (String.join (c :: cs)) (String.join (c :: cs')) := by
  rw [String.join_cons, String.join_cons]
  exact h.after c

/-- No string with this letter missing has the error in it. -/
def Plain (s : String) : Prop := 'R' ∉ s.toList

instance (s : String) : Decidable (Plain s) := inferInstanceAs (Decidable (_ ∉ _))

theorem Plain.append (hs : Plain s) (ht : Plain t) : Plain (s ++ t) := by
  simp only [Plain, String.toList_append, List.mem_append, not_or]
  exact ⟨hs, ht⟩

theorem Plain.join (h : ∀ s ∈ cs, Plain s) : Plain (String.join cs) := by
  simp only [Plain, String.toList_join, List.mem_flatMap, not_exists, not_and]
  exact h

theorem Plain.no_error (h : Plain s) : ¬ "ERROR".toList <:+: s.toList := fun herror =>
  h (herror.sublist.subset (by decide))

/-- A table of names that are told apart by what they start with. -/
structure Names (names : List String) : Prop where
  apart : names.Pairwise Apart
  plain : ∀ s ∈ names, Plain s

theorem switch_getElem {p : Nat} (hp : p < names.length) : switch names first ((first + p : Nat) : Int) = names[p] := by
  have hnot : ¬ ((first + p : Nat) : Int) < first := by omega
  have hindex : (((first + p : Nat) : Int) - first).toNat = p := by omega
  rw [switch, if_neg hnot, hindex, List.getD_eq_getElem?_getD, List.getElem?_eq_getElem hp, Option.getD_some]

theorem switch_plain (hnames : ∀ s ∈ names, Plain s) {p : Nat} (hlow : first ≤ p) (hp : p < first + names.length) :
    Plain (switch names first p) := by
  obtain ⟨i, rfl⟩ := Nat.exists_eq_add_of_le hlow
  rw [switch_getElem (by omega)]
  exact hnames _ (List.getElem_mem _)

theorem switch_apart (hnames : names.Pairwise Apart) {p q : Nat} (hlow : first ≤ p) (hp : p < first + names.length)
    (hlow' : first ≤ q) (hq : q < first + names.length) (hne : p ≠ q) :
    Apart (switch names first p) (switch names first q) := by
  obtain ⟨i, rfl⟩ := Nat.exists_eq_add_of_le hlow
  obtain ⟨j, rfl⟩ := Nat.exists_eq_add_of_le hlow'
  have hi : i < names.length := by omega
  have hj : j < names.length := by omega
  rw [switch_getElem hi, switch_getElem hj]
  rcases Nat.lt_or_gt_of_ne (fun heq : i = j => hne (by omega)) with hij | hij
  · exact List.pairwise_iff_getElem.mp hnames i j hi hj hij
  · exact (List.pairwise_iff_getElem.mp hnames j i hj hi hij).symm

theorem Names.apart_zero (hnames : Names names) {p q n : Nat} (hp : p ≤ n) (hq : q ≤ n) (hne : p ≠ q)
    (hlength : names.length = n + 1 := by rfl) : Apart (switch names 0 p) (switch names 0 q) :=
  switch_apart hnames.apart (Nat.zero_le _) (by omega) (Nat.zero_le _) (by omega) hne

/-- At the first level where the values differ their strings are apart, and before the end there is one. -/
def Told (v w : Int) : List (Int × String) → List String → List String → Prop
  | (divisor, _) :: levels, s :: strings, t :: strings' =>
      (v.tdiv divisor = w.tdiv divisor → s = t ∧ Told v w levels strings strings') ∧
        (v.tdiv divisor ≠ w.tdiv divisor → Apart s t)
  | _, _, _ => False

/-- What one level says, in front of the kickers against the hands that are still the same. -/
theorem kickers_cons {divisor : Int} {words c : String} (hsame : same ≠ []) :
    kickers v ((divisor, words) :: levels) same (c :: cs) =
      (kickers v levels (same.filter fun x => x.tdiv divisor = v.tdiv divisor) cs).map fun rest =>
        if same.any fun x => x.tdiv divisor ≠ v.tdiv divisor then words ++ c ++ rest else rest := by
  simp only [kickers, if_neg hsame, List.tail_cons, List.head?_cons]
  cases kickers v levels (same.filter fun x => x.tdiv divisor = v.tdiv divisor) cs with
  | none => rfl
  | some rest =>
      by_cases hdifferent : same.any (fun x => x.tdiv divisor ≠ v.tdiv divisor) = true
      · simp only [hdifferent, if_true, Option.map_some]
        rfl
      · simp only [hdifferent, Option.map_some]
        rfl

theorem told_cons {divisor : Int} {words : String} {p q : Nat} (hnames : Names names) (hp : p < names.length)
    (hq : q < names.length) (hpart : v.tdiv divisor = w.tdiv divisor ↔ p = q)
    (hrest : p = q → Told v w levels strings strings') :
    Told v w ((divisor, words) :: levels) (switch names 0 p :: strings) (switch names 0 q :: strings') := by
  refine ⟨fun hdiv => ?_, fun hdiv => ?_⟩
  · have hpq := hpart.mp hdiv
    exact ⟨by rw [hpq], hrest hpq⟩
  · have hpq : p ≠ q := fun hpq => hdiv (hpart.mpr hpq)
    exact switch_apart hnames.apart (Nat.zero_le _) (by omega) (Nat.zero_le _) (by omega) hpq

theorem kickers_some (hlength : levels.length ≤ cs.length) (hcs : ∀ s ∈ cs, Plain s)
    (hwords : ∀ level ∈ levels, Plain level.2) : ∃ x, kickers v levels same cs = some x ∧ Plain x := by
  induction levels generalizing same cs with
  | nil => exact ⟨"", rfl, by decide⟩
  | cons level levels ih =>
      obtain ⟨divisor, words⟩ := level
      cases cs with
      | nil => simp at hlength
      | cons c cs =>
          obtain ⟨hc, hcs⟩ := List.forall_mem_cons.mp hcs
          obtain ⟨hlevel, hwords⟩ := List.forall_mem_cons.mp hwords
          have hlength : levels.length ≤ cs.length := by simpa using hlength
          by_cases hsame : same = []
          · exact ⟨"", by simp only [kickers, if_pos hsame]; rfl, by decide⟩
          · obtain ⟨rest, hrest, hplain⟩ :=
              @ih _ (same.filter fun x => x.tdiv divisor = v.tdiv divisor) hlength hcs hwords
            refine ⟨_, by rw [kickers_cons hsame, hrest, Option.map_some], ?_⟩
            split_ifs
            · exact (hlevel.append hc).append hplain
            · exact hplain

/-- Two hands that are shown to each other are named differently as soon as a kicker tells them apart: up to it both
have the same kickers, and the other hands decide alike which of them are named. -/
theorem kickers_ne (htold : Told v w levels strings strings') (hw : w ∈ same) (hv : v ∈ same')
    (hothers : ∀ x, x ≠ v → x ≠ w → (x ∈ same ↔ x ∈ same')) (hx : kickers v levels same strings = some x)
    (hy : kickers w levels same' strings' = some y) : x ≠ y := by
  induction levels generalizing same same' strings strings' x y with
  | nil => exact htold.elim
  | cons level levels ih =>
      obtain ⟨divisor, words⟩ := level
      cases strings with
      | nil => exact htold.elim
      | cons s strings =>
          cases strings' with
          | nil => exact htold.elim
          | cons t strings' =>
              rw [kickers_cons (List.ne_nil_of_mem hw)] at hx
              rw [kickers_cons (List.ne_nil_of_mem hv)] at hy
              obtain ⟨rest, hrest, rfl⟩ := Option.map_eq_some_iff.mp hx
              obtain ⟨rest', hrest', rfl⟩ := Option.map_eq_some_iff.mp hy
              by_cases hdiv : v.tdiv divisor = w.tdiv divisor
              · obtain ⟨rfl, hlower⟩ := htold.1 hdiv
                have hne : rest ≠ rest' := by
                  refine ih hlower ?_ ?_ ?_ hrest hrest'
                  · simp [hw, hdiv]
                  · simp [hv, hdiv]
                  · intro x hxv hxw
                    simp [hothers x hxv hxw, hdiv]
                have hdifferent : same.any (fun x => x.tdiv divisor ≠ v.tdiv divisor) =
                    same'.any fun x => x.tdiv divisor ≠ w.tdiv divisor := by
                  rw [Bool.eq_iff_iff]
                  simp only [List.any_eq_true, decide_eq_true_eq, hdiv]
                  refine exists_congr fun z => and_congr_left fun hz => hothers z ?_ ?_
                  · rintro rfl
                    exact hz hdiv
                  · rintro rfl
                    exact hz rfl
                rw [hdifferent]
                split_ifs
                · exact fun heq => hne (String.append_right_inj _ |>.mp heq)
                · exact hne
              · have hvw := htold.2 hdiv
                have hsame : same.any (fun x => x.tdiv divisor ≠ v.tdiv divisor) = true :=
                  List.any_eq_true.mpr ⟨w, hw, decide_eq_true (Ne.symm hdiv)⟩
                have hsame' : same'.any (fun x => x.tdiv divisor ≠ w.tdiv divisor) = true :=
                  List.any_eq_true.mpr ⟨v, hv, decide_eq_true hdiv⟩
                rw [if_pos hsame, if_pos hsame']
                exact ((hvw.after words).append rest rest').ne

end PokerTH.CardsValue
