import Mathlib.Data.List.Nodup

namespace PokerTH.Assoc

variable {κ β : Type} [DecidableEq κ] {m : List (κ × β)} {k l : κ} {v : β}

def Keyed (m : List (κ × β)) : Prop := (m.map Prod.fst).Nodup

def put (m : List (κ × β)) (k : κ) (v : β) : List (κ × β) := (k, v) :: m.filter fun e => e.1 != k

omit [DecidableEq κ] in
theorem Keyed.filter (h : Keyed m) (p : κ × β → Bool) : Keyed (m.filter p) :=
  List.Nodup.sublist (List.filter_sublist.map _) h

theorem Keyed.put (h : Keyed m) : Keyed (put m k v) := by
  refine List.nodup_cons.mpr ⟨?_, h.filter _⟩
  rw [List.mem_map]
  rintro ⟨e, he, hk⟩
  have hne := (List.mem_filter.mp he).2
  simp [hk] at hne

omit [DecidableEq κ] in
theorem Keyed.mapValues (h : Keyed m) (f : β → β) : Keyed (m.map fun e => (e.1, f e.2)) := by
  have hkeys : (m.map fun e => (e.1, f e.2)).map Prod.fst = m.map Prod.fst := by
    rw [List.map_map]
    rfl
  rw [Keyed, hkeys]
  exact h

theorem lookup_mapValues (f : β → β) : (m.map fun e => (e.1, f e.2)).lookup k = (m.lookup k).map f := by
  induction m with
  | nil => rfl
  | cons e m ih =>
      rw [List.map_cons, List.lookup_cons, List.lookup_cons]
      cases k == e.1 with
      | true => rfl
      | false => exact ih

theorem lookup_eq_none (h : k ∉ m.map Prod.fst) : m.lookup k = none := by
  induction m with
  | nil => rfl
  | cons e m ih =>
      rw [List.map_cons, List.mem_cons, not_or] at h
      rw [List.lookup_cons, beq_false_of_ne h.1]
      exact ih h.2

theorem lookup_filter (h : Keyed m) (p : κ × β → Bool) :
    (m.filter p).lookup k = (m.lookup k).filter fun v => p (k, v) := by
  induction m with
  | nil => rfl
  | cons e m ih =>
      obtain ⟨l, v⟩ := e
      obtain ⟨hnot, hrest⟩ := List.nodup_cons.mp h
      by_cases hk : k = l
      · subst hk
        have hnone : (m.filter p).lookup k = none :=
          lookup_eq_none fun hmem => hnot ((List.filter_sublist.map _).subset hmem)
        cases hp : p (k, v) <;> simp [hp, hnone, Option.filter_some]
      · have hne : (k == l) = false := beq_false_of_ne hk
        cases hp : p (l, v) <;> simp [hp, List.lookup_cons, hne, ih hrest]

theorem lookup_put_self : (put m k v).lookup k = some v := by simp [put]

theorem lookup_put_of_ne (h : Keyed m) (hne : l ≠ k) : (put m k v).lookup l = m.lookup l := by
  rw [put, List.lookup_cons, beq_false_of_ne hne]
  simp only
  rw [lookup_filter h]
  cases m.lookup l with
  | none => rfl
  | some w => simp [hne]

end PokerTH.Assoc
