import Mathlib.Data.List.Basic
import Mathlib.Data.List.Nodup

namespace PokerTH.Cyclic

variable {α : Type} [DecidableEq α]

/-- The members of `l` met by an iterator that leaves `a`, wraps at the end and stops back on `a`. -/
def after (l : List α) (a : α) : List α :=
  (l.dropWhile (fun b => decide (b ≠ a))).tail ++ l.takeWhile (fun b => decide (b ≠ a)) ++ [a]

def before (l : List α) (a : α) : List α := after l.reverse a

def next (l : List α) (a : α) : α := (after l a).headD a

def prev (l : List α) (a : α) : α := (before l a).headD a

theorem takeWhile_ne {A B : List α} {a : α} (ha : a ∉ A) :
    (A ++ a :: B).takeWhile (fun b => decide (b ≠ a)) = A := by
  induction A with
  | nil => simp
  | cons b A ih =>
      have hb : b ≠ a := fun h => ha (h ▸ List.mem_cons_self)
      have hA : a ∉ A := fun h => ha (List.mem_cons_of_mem b h)
      rw [List.cons_append, List.takeWhile_cons_of_pos (by simpa using hb), ih hA]

theorem dropWhile_ne {A B : List α} {a : α} (ha : a ∉ A) :
    (A ++ a :: B).dropWhile (fun b => decide (b ≠ a)) = a :: B := by
  induction A with
  | nil => simp
  | cons b A ih =>
      have hb : b ≠ a := fun h => ha (h ▸ List.mem_cons_self)
      have hA : a ∉ A := fun h => ha (List.mem_cons_of_mem b h)
      rw [List.cons_append, List.dropWhile_cons_of_pos (by simpa using hb), ih hA]

theorem after_append {A B : List α} {a : α} (ha : a ∉ A) : after (A ++ a :: B) a = B ++ A ++ [a] := by
  rw [after, takeWhile_ne ha, dropWhile_ne ha, List.tail_cons]

theorem before_append {A B : List α} {a : α} (ha : a ∉ B) :
    before (A ++ a :: B) a = A.reverse ++ B.reverse ++ [a] := by
  have hr : (A ++ a :: B).reverse = B.reverse ++ a :: A.reverse := by
    simp
  rw [before, hr, after_append (by simpa using ha)]

theorem after_perm {l : List α} {a : α} (ha : a ∈ l) : (after l a).Perm l := by
  obtain ⟨A, B, rfl, hA⟩ := List.eq_append_cons_of_mem ha
  rw [after_append hA, List.append_assoc]
  refine List.perm_append_comm.trans ?_
  rw [List.append_assoc]
  rfl

theorem mem_after {l : List α} {a b : α} (ha : a ∈ l) : b ∈ after l a ↔ b ∈ l :=
  (after_perm ha).mem_iff

theorem mem_before {l : List α} {a b : α} (ha : a ∈ l) : b ∈ before l a ↔ b ∈ l := by
  rw [before, mem_after (List.mem_reverse.mpr ha), List.mem_reverse]

theorem next_mem {l : List α} {a : α} (ha : a ∈ l) : next l a ∈ l := by
  have hne : after l a ≠ [] := by simp [after]
  obtain ⟨b, rest, h⟩ := List.exists_cons_of_ne_nil hne
  rw [← mem_after ha, next, h]
  simp

theorem prev_mem {l : List α} {a : α} (ha : a ∈ l) : prev l a ∈ l :=
  List.mem_reverse.mp (next_mem (List.mem_reverse.mpr ha))

/-- Leaving `a`, the members that satisfy `p` are met in the order of the list of these members. -/
theorem filter_after {l : List α} {a : α} (ha : a ∈ l) {p : α → Bool} (hp : p a) :
    (after l a).filter p = after (l.filter p) a := by
  obtain ⟨A, B, rfl, hA⟩ := List.eq_append_cons_of_mem ha
  have hA' : a ∉ A.filter p := fun h => hA (List.mem_of_mem_filter h)
  simp only [List.filter_append, List.filter_cons_of_pos hp]
  rw [after_append hA, after_append hA']
  simp [hp]

theorem next_filter {l : List α} {a : α} (ha : a ∈ l) {p : α → Bool} (hp : p a) :
    (after l a).find? p = some (next (l.filter p) a) := by
  have hne : after (l.filter p) a ≠ [] := by simp [after]
  obtain ⟨b, rest, h⟩ := List.exists_cons_of_ne_nil hne
  rw [next, h, ← List.head?_filter, filter_after ha hp, h]
  rfl

theorem after_append_comm_of_mem {X Y : List α} {b : α} (h : (X ++ Y).Nodup) (hb : b ∈ Y) :
    after (X ++ Y) b = after (Y ++ X) b := by
  obtain ⟨C, D, rfl, hC⟩ := List.eq_append_cons_of_mem hb
  have hX : b ∉ X := fun hx => List.disjoint_of_nodup_append h hx hb
  have hXC : b ∉ X ++ C := by simp [hX, hC]
  have hright : C ++ b :: D ++ X = C ++ b :: (D ++ X) := by simp
  rw [← List.append_assoc, after_append hXC, hright, after_append hC]
  simp

theorem after_append_comm {X Y : List α} {b : α} (h : (X ++ Y).Nodup) (hb : b ∈ X ++ Y) :
    after (X ++ Y) b = after (Y ++ X) b := by
  rcases List.mem_append.mp hb with hX | hY
  · exact (after_append_comm_of_mem (List.nodup_append_comm.mp h) hX).symm
  · exact after_append_comm_of_mem h hY

theorem eq_singleton_of_next {l : List α} (hl : l.Nodup) {a : α} (ha : a ∈ l) (hn : next l a = a) : l = [a] := by
  obtain ⟨A, B, rfl, hA⟩ := List.eq_append_cons_of_mem ha
  have hB : a ∉ B := by
    rw [List.nodup_append] at hl
    exact (List.nodup_cons.mp hl.2.1).1
  rw [next, after_append hA] at hn
  cases B with
  | cons b B =>
      have hb : b = a := by simpa using hn
      exact absurd (by simp [hb]) hB
  | nil =>
      cases A with
      | nil => rfl
      | cons b A =>
          have hb : b = a := by simpa using hn
          exact absurd (by simp [hb]) hA

/-- When the next member after `a` that satisfies `p` drops out, the one after him is the next of the rest. -/
theorem find_after_next {l : List α} {a b : α} (hl : l.Nodup) (ha : a ∈ l) {p q : α → Bool}
    (hb : (after l a).find? p = some b) (hq : ∀ c, q c → p c) (hqb : q b = false) (hqa : q a) :
    (after l b).find? q = (after l a).find? q := by
  have hbl : b ∈ l := (mem_after ha).mp (List.mem_of_find?_eq_some hb)
  have hab : a ≠ b := by
    rintro rfl
    rw [hqa] at hqb
    cases hqb
  obtain ⟨A, B, rfl, hA⟩ := List.eq_append_cons_of_mem ha
  have hround : after (A ++ a :: B) a = B ++ (A ++ [a]) := by
    rw [after_append hA, List.append_assoc]
  rw [hround] at hb ⊢
  obtain ⟨_, E, D, hsplit, hE⟩ := List.find?_eq_some_iff_append.mp hb
  have hnodup : (B ++ (A ++ [a])).Nodup := by
    rw [← hround]
    exact (after_perm ha).nodup_iff.mpr hl
  have hbE : b ∉ E := by
    rw [hsplit, List.nodup_append] at hnodup
    exact fun h => hnodup.2.2 b h b List.mem_cons_self rfl
  have hEq : E.find? q = none := by
    rw [List.find?_eq_none]
    intro c hc hqc
    simpa [hq c hqc] using hE c hc
  have hDsome : (D.find? q).isSome := by
    have hmem : a ∈ E ++ b :: D := by
      rw [← hsplit]
      simp
    rw [List.find?_isSome]
    rcases List.mem_append.mp hmem with haE | haD
    · rw [List.find?_eq_none] at hEq
      exact absurd hqa (hEq a haE)
    · rcases List.mem_cons.mp haD with rfl | haD
      · exact absurd rfl hab
      · exact ⟨a, haD, hqa⟩
  obtain ⟨d, hd⟩ := Option.isSome_iff_exists.mp hDsome
  have hright : (E ++ b :: D).find? q = some d := by
    simp [hEq, hqb, hd]
  have hleft : after (A ++ a :: B) b = D ++ (E ++ [b]) := by
    have hA' : (A ++ [a]) ++ B = A ++ a :: B := by simp
    have hcomm := after_append_comm (X := A ++ [a]) (Y := B) (b := b) (by rwa [hA']) (by rwa [hA'])
    rw [hA'] at hcomm
    rw [hcomm, hsplit, after_append hbE, List.append_assoc]
  rw [hleft, hsplit, hright, List.find?_append, hd, Option.some_or]

/-- Beyond two members, the one before `a` is neither `a` nor the one after him. -/
theorem prev_ne {l : List α} (hl : l.Nodup) (hlen : 2 < l.length) {a : α} (ha : a ∈ l) :
    prev l a ≠ a ∧ prev l a ≠ next l a := by
  obtain ⟨A, B, rfl, hA⟩ := List.eq_append_cons_of_mem ha
  have hnodup : (B ++ A ++ [a]).Nodup := by
    rw [← after_append hA]
    exact (after_perm ha).nodup_iff.mpr hl
  have hB : a ∉ B := by
    rw [List.nodup_append] at hl
    exact (List.nodup_cons.mp hl.2.1).1
  have hafter := after_append (B := B) hA
  have hbefore := before_append (A := A) hB
  rw [← List.reverse_append] at hbefore
  have hlen' : 2 ≤ (B ++ A).length := by
    simp only [List.length_append, List.length_cons] at hlen ⊢
    omega
  generalize B ++ A = C at hnodup hafter hbefore hlen'
  cases C with
  | nil => simp at hlen'
  | cons x C =>
      rcases List.eq_nil_or_concat C with rfl | ⟨D, y, rfl⟩
      · simp at hlen'
      · have hnext : next (A ++ a :: B) a = x := by
          rw [next, hafter]
          rfl
        have hprev : prev (A ++ a :: B) a = y := by
          rw [prev, hbefore]
          simp
        rw [hnext, hprev]
        rw [List.nodup_append, List.nodup_cons] at hnodup
        refine ⟨hnodup.2.2 y (by simp) a (by simp), ?_⟩
        rintro rfl
        simp at hnodup

/-- Once `a` drops out, the one before him goes on with those who come after `a`. -/
theorem after_erase {A B : List α} {a q : α} (hl : (A ++ a :: B).Nodup) (hq : (B ++ A).getLast? = some q) :
    q ∈ A ++ B ∧ after (A ++ a :: B) a = after (A ++ B) q ++ [a] := by
  have hA : a ∉ A := by
    rw [List.nodup_append] at hl
    exact fun h => hl.2.2 a h a List.mem_cons_self rfl
  have hAB : (A ++ B).Nodup := (List.sublist_cons_self a B).append_left A |>.nodup hl
  have hmem : q ∈ B ++ A := List.mem_of_getLast? hq
  obtain ⟨C, hC⟩ := List.getLast?_eq_some_iff.mp hq
  have hqC : q ∉ C := by
    have hBA := List.nodup_append_comm.mp hAB
    rw [hC, List.nodup_append] at hBA
    exact fun h => hBA.2.2 q h q List.mem_cons_self rfl
  refine ⟨by simpa [or_comm] using hmem, ?_⟩
  rw [after_append hA, after_append_comm hAB (by simpa [or_comm] using hmem), hC]
  have hafter := after_append (B := []) hqC
  rw [hafter]
  simp

theorem after_next {l R : List α} {a n : α} (hl : l.Nodup) (ha : a ∈ l) (h : after l a = n :: R) :
    after l n = R ++ [n] := by
  obtain ⟨A, B, rfl, hA⟩ := List.eq_append_cons_of_mem ha
  have hsplit : (A ++ [a]) ++ B = A ++ a :: B := by simp
  have hround : B ++ (A ++ [a]) = n :: R := by
    rw [← h, after_append hA, List.append_assoc]
  have hmem : n ∈ (A ++ [a]) ++ B := by
    have hn : n ∈ B ++ (A ++ [a]) := by simp [hround]
    exact List.perm_append_comm.mem_iff.mp hn
  have hcomm := after_append_comm (X := A ++ [a]) (Y := B) (b := n) (by rwa [hsplit]) hmem
  rw [hsplit] at hcomm
  have hhead := after_append (A := []) (B := R) (a := n) (by simp)
  rw [hcomm, hround, ← List.nil_append (n :: R), hhead, List.append_nil]

theorem dropWhile_append {X Y : List α} {b : α} (hb : b ∈ X) :
    (X ++ Y).dropWhile (fun a => decide (a ≠ b)) = X.dropWhile (fun a => decide (a ≠ b)) ++ Y := by
  obtain ⟨A, B, rfl, hA⟩ := List.eq_append_cons_of_mem hb
  rw [List.append_assoc, List.cons_append, dropWhile_ne hA, dropWhile_ne hA, List.cons_append]

def beyond (l : List α) (a b : α) : List α := ((after l a).dropWhile fun c => decide (c ≠ b)).tail

theorem beyond_self {l : List α} {a : α} (hl : l.Nodup) (ha : a ∈ l) : beyond l a a = [] := by
  obtain ⟨A, B, rfl, hA⟩ := List.eq_append_cons_of_mem ha
  have hB : a ∉ B := by
    rw [List.nodup_append] at hl
    exact (List.nodup_cons.mp hl.2.1).1
  rw [beyond, after_append hA, dropWhile_ne (by simp [hA, hB]), List.tail_cons]

theorem beyond_next {l R : List α} {a b n : α} (hl : l.Nodup) (ha : a ∈ l) (hb : b ∈ l) (h : after l a = n :: R)
    (hn : n ≠ b) : beyond l n b = beyond l a b ++ [n] := by
  have hR : b ∈ R := by
    have hmem := (mem_after ha).mpr hb
    rw [h] at hmem
    rcases List.mem_cons.mp hmem with rfl | hR
    · exact absurd rfl hn
    · exact hR
  obtain ⟨C, D, rfl, hC⟩ := List.eq_append_cons_of_mem hR
  rw [beyond, beyond, after_next hl ha h, h, dropWhile_append hR, dropWhile_ne hC,
    List.dropWhile_cons_of_pos (by simpa using hn), dropWhile_ne hC]
  simp

theorem beyond_next_last {l R : List α} {a n : α} (h : after l a = n :: R) : beyond l a n = R := by
  rw [beyond, h]
  simp

/-- When `a` drops out of the list, nobody but him drops out of those beyond `b`. -/
theorem beyond_erase {l l' : List α} {a a' b : α} (hb : b ∈ after l' a') (h : after l a = after l' a' ++ [a]) :
    beyond l a b = beyond l' a' b ++ [a] := by
  obtain ⟨C, D, hsplit, hC⟩ := List.eq_append_cons_of_mem hb
  rw [beyond, beyond, h, dropWhile_append hb, hsplit, dropWhile_ne hC]
  simp

end PokerTH.Cyclic
