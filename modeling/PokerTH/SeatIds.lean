import PokerTH.Payment
import PokerTH.Hand
import Mathlib.Data.Finset.Basic
import Mathlib.Data.Finset.Dedup

namespace PokerTH

namespace Table

open Board

variable (t : Table)

def uniqueID (r : Ref) : Nat := (t.players r).myUniqueID

def seatIds : List Nat := t.seatsList.map t.uniqueID

def idsOf (p : Player → Bool) : Finset Nat :=
  ((t.activePlayerList.filter fun r => p (t.players r)).map t.uniqueID).toFinset

def activeIds : Finset Nat := t.idsOf fun _ => true

def hasFolded (p : Player) : Bool := p.myAction == .fold

def foldedIds : Finset Nat := t.idsOf hasFolded

theorem mem_idsOf {p : Player → Bool} {id : Nat} :
    id ∈ t.idsOf p ↔ ∃ r ∈ t.activePlayerList, p (t.players r) = true ∧ t.uniqueID r = id := by
  simp only [idsOf, List.mem_toFinset, List.mem_map, List.mem_filter, and_assoc]

/-- The active players sit at the table, and nobody else there has the id of one of them. -/
structure Seating : Prop where
  ids : DistinctIDs t.seatsList t.players
  active : ∀ r ∈ t.activePlayerList, r ∈ t.seatsList ∧ (t.players r).myActiveStatus

/-- Two tables with the same seats, lists and ids. -/
structure SameIds (t t' : Table) : Prop where
  seatsList : t'.seatsList = t.seatsList
  activePlayerList : t'.activePlayerList = t.activePlayerList
  id : ∀ r, t'.uniqueID r = t.uniqueID r
  status : ∀ r, (t'.players r).myActiveStatus = (t.players r).myActiveStatus

variable {t} {t' t'' : Table} {p : Player → Bool} {r q : Ref} {f : Player → Player} {new id : Nat}

theorem SameIds.refl (t : Table) : SameIds t t := ⟨rfl, rfl, fun _ => rfl, fun _ => rfl⟩

theorem SameIds.trans (h : SameIds t t') (h' : SameIds t' t'') : SameIds t t'' :=
  ⟨h'.seatsList.trans h.seatsList, h'.activePlayerList.trans h.activePlayerList, fun r => (h'.id r).trans (h.id r),
    fun r => (h'.status r).trans (h.status r)⟩

theorem SameIds.seatIds (h : SameIds t t') : t'.seatIds = t.seatIds := by
  have hid : t'.uniqueID = t.uniqueID := funext h.id
  rw [Table.seatIds, Table.seatIds, h.seatsList, hid]

theorem SameIds.idsOf (h : SameIds t t') (hp : ∀ r ∈ t.activePlayerList, p (t'.players r) = p (t.players r)) :
    t'.idsOf p = t.idsOf p := by
  ext id
  simp only [mem_idsOf, h.activePlayerList, h.id]
  constructor
  · rintro ⟨r, hr, htest, hid⟩
    exact ⟨r, hr, hp r hr ▸ htest, hid⟩
  · rintro ⟨r, hr, htest, hid⟩
    exact ⟨r, hr, (hp r hr).trans htest, hid⟩

theorem SameIds.activeIds (h : SameIds t t') : t'.activeIds = t.activeIds := h.idsOf fun _ _ => rfl

theorem Seating.same (hs : Seating t) (h : SameIds t t') : Seating t' := by
  refine ⟨⟨h.seatsList ▸ hs.ids.nodup, fun r hr hactive s hs' heq => ?_⟩, fun r hr => ?_⟩
  · rw [h.seatsList] at hr hs'
    rw [h.status] at hactive
    exact hs.ids.eq_of_id r hr hactive s hs' ((h.id s).symm.trans (heq.trans (h.id r)))
  · rw [h.activePlayerList] at hr
    rw [h.seatsList, h.status]
    exact hs.active r hr

theorem Seating.eq_of_id (hs : Seating t) (hr : r ∈ t.seatsList) (hq : q ∈ t.activePlayerList)
    (hid : t.uniqueID q = t.uniqueID r) : r = q :=
  hs.ids.eq_of_id q (hs.active q hq).1 (hs.active q hq).2 r hr hid.symm

/-- The set `marked` after the player with the id has been marked or not, if he is `active` at all. -/
def mark (active marked : Finset Nat) (id : Nat) (b : Bool) : Finset Nat :=
  if b = true ∧ id ∈ active then insert id marked else marked.erase id

/-- One seat has changed: its id alone is put into the set or taken out. -/
theorem Seating.idsOf_mark (hs : Seating t) (h : SameIds t t') (hr : r ∈ t.seatsList)
    (hothers : ∀ q, q ≠ r → p (t'.players q) = p (t.players q)) :
    t'.idsOf p = mark t.activeIds (t.idsOf p) (t.uniqueID r) (p (t'.players r)) := by
  ext id
  have hmem : id ∈ t'.idsOf p ↔ ∃ q ∈ t.activePlayerList, p (t'.players q) = true ∧ t.uniqueID q = id := by
    simp only [mem_idsOf, h.activePlayerList, h.id]
  rw [hmem, mark]
  by_cases hid : id = t.uniqueID r
  · subst hid
    have hiff : (∃ q ∈ t.activePlayerList, p (t'.players q) = true ∧ t.uniqueID q = t.uniqueID r) ↔
        p (t'.players r) = true ∧ t.uniqueID r ∈ t.activeIds := by
      rw [activeIds, mem_idsOf]
      constructor
      · rintro ⟨q, hq, htest, hid⟩
        have hrq := hs.eq_of_id hr hq hid
        exact ⟨hrq ▸ htest, q, hq, rfl, hid⟩
      · rintro ⟨htest, q, hq, _, hid⟩
        have hrq := hs.eq_of_id hr hq hid
        exact ⟨q, hq, hrq ▸ htest, hid⟩
    rw [hiff]
    split_ifs with hin
    · simp [hin]
    · simp [hin]
  · have hiff : (∃ q ∈ t.activePlayerList, p (t'.players q) = true ∧ t.uniqueID q = id) ↔ id ∈ t.idsOf p := by
      rw [mem_idsOf]
      apply exists_congr
      intro q
      apply and_congr_right
      intro _
      apply and_congr_left
      intro hq
      have hne : q ≠ r := by
        rintro rfl
        exact hid hq.symm
      rw [hothers q hne]
    rw [hiff]
    split_ifs
    · simp [hid]
    · simp [hid]

def renamed (s : Finset Nat) (old new : Nat) : Finset Nat := if old ∈ s then insert new (s.erase old) else s

def rename (t : Table) (r : Ref) (f : Player → Player) : Table := { t with players := updatePlayer t.players r f }

theorem rename_of_ne (hq : q ≠ r) : (t.rename r f).players q = t.players q := by
  simp [rename, updatePlayer, hq]

theorem rename_self : (t.rename r f).players r = f (t.players r) := by
  simp [rename, updatePlayer]

section

variable (hs : Seating t) (hr : r ∈ t.seatsList) (hfresh : ∀ q ∈ t.seatsList, t.uniqueID q ≠ new)
  (hid : (f (t.players r)).myUniqueID = new)

include hs hr hfresh hid

theorem Seating.idsOf_rename (hp : p (f (t.players r)) = p (t.players r)) :
    (t.rename r f).idsOf p = renamed (t.idsOf p) (t.uniqueID r) new := by
  have hself : (t.rename r f).uniqueID r = new := by rw [uniqueID, rename_self, hid]
  have hother (q : Ref) (hq : q ≠ r) : (t.rename r f).uniqueID q = t.uniqueID q := by
    rw [uniqueID, rename_of_ne hq]
    rfl
  have hnew : new ∉ t.idsOf p := by
    rw [mem_idsOf]
    rintro ⟨q, hq, _, heq⟩
    exact hfresh q (hs.active q hq).1 heq
  have htest (q : Ref) : p ((t.rename r f).players q) = p (t.players q) := by
    by_cases hq : q = r
    · rw [hq, rename_self, hp]
    · rw [rename_of_ne hq]
  have hold : t.uniqueID r ∈ t.idsOf p ↔ r ∈ t.activePlayerList ∧ p (t.players r) = true := by
    rw [mem_idsOf]
    constructor
    · rintro ⟨q, hq, hpq, heq⟩
      have hrq := hs.eq_of_id hr hq heq
      exact hrq ▸ ⟨hq, hpq⟩
    · rintro ⟨hactive, hpr⟩
      exact ⟨r, hactive, hpr, rfl⟩
  ext id
  have hmem : id ∈ (t.rename r f).idsOf p ↔
      ∃ q ∈ t.activePlayerList, p (t.players q) = true ∧ (t.rename r f).uniqueID q = id := by
    simp only [mem_idsOf, htest]
    rfl
  rw [hmem, renamed]
  constructor
  · rintro ⟨q, hq, hpq, heq⟩
    by_cases hqr : q = r
    · subst hqr
      rw [if_pos (hold.mpr ⟨hq, hpq⟩), Finset.mem_insert]
      exact .inl (heq.symm.trans hself)
    · rw [hother q hqr] at heq
      have hin : id ∈ t.idsOf p := t.mem_idsOf.mpr ⟨q, hq, hpq, heq⟩
      split_ifs
      · refine Finset.mem_insert_of_mem (Finset.mem_erase.mpr ⟨?_, hin⟩)
        rintro rfl
        exact hqr (hs.eq_of_id hr hq heq).symm
      · exact hin
  · intro hin
    split_ifs at hin with hactive
    · rcases Finset.mem_insert.mp hin with rfl | hin
      · exact ⟨r, (hold.mp hactive).1, (hold.mp hactive).2, hself⟩
      · obtain ⟨hne, hin⟩ := Finset.mem_erase.mp hin
        obtain ⟨q, hq, hpq, heq⟩ := t.mem_idsOf.mp hin
        have hqr : q ≠ r := by
          rintro rfl
          exact hne heq.symm
        exact ⟨q, hq, hpq, (hother q hqr).trans heq⟩
    · obtain ⟨q, hq, hpq, heq⟩ := t.mem_idsOf.mp hin
      have hqr : q ≠ r := by
        rintro rfl
        exact hactive (hold.mpr ⟨hq, hpq⟩)
      exact ⟨q, hq, hpq, (hother q hqr).trans heq⟩

omit hr in
theorem Seating.rename (hactive : (f (t.players r)).myActiveStatus = (t.players r).myActiveStatus) :
    Seating (t.rename r f) := by
  have hstatus (q : Ref) : ((t.rename r f).players q).myActiveStatus = (t.players q).myActiveStatus := by
    by_cases hq : q = r
    · rw [hq, rename_self, hactive]
    · rw [rename_of_ne hq]
  refine ⟨⟨hs.ids.nodup, fun q hq hon s hseat heq => ?_⟩, fun q hq => ?_⟩
  · rw [hstatus] at hon
    by_cases hqr : q = r
    · by_cases hsr : s = r
      · rw [hsr, hqr]
      · rw [hqr, rename_self, hid, rename_of_ne hsr] at heq
        exact absurd heq (hfresh s hseat)
    · by_cases hsr : s = r
      · rw [hsr, rename_self, hid, rename_of_ne hqr] at heq
        exact absurd heq.symm (hfresh q hq)
      · rw [rename_of_ne hqr, rename_of_ne hsr] at heq
        exact hs.ids.eq_of_id q hq hon s hseat heq
  · rw [hstatus]
    exact hs.active q hq

omit hfresh in
theorem Seating.seatIds_rename : (t.rename r f).seatIds.Perm (new :: t.seatIds.erase (t.uniqueID r)) := by
  have hself : (t.rename r f).uniqueID r = new := by rw [uniqueID, rename_self, hid]
  have hrest : (t.seatsList.erase r).map (t.rename r f).uniqueID = (t.seatsList.erase r).map t.uniqueID := by
    apply List.map_congr_left
    intro q hq
    have hqr : q ≠ r := (hs.ids.nodup.mem_erase_iff.mp hq).1
    rw [uniqueID, rename_of_ne hqr]
    rfl
  have hsplit := List.perm_cons_erase hr
  have hold : t.seatIds.Perm (t.uniqueID r :: (t.seatsList.erase r).map t.uniqueID) := hsplit.map t.uniqueID
  have hnew : (t.rename r f).seatIds.Perm (new :: (t.seatsList.erase r).map t.uniqueID) := by
    have hmap := hsplit.map (t.rename r f).uniqueID
    rw [List.map_cons, hself, hrest] at hmap
    exact hmap
  refine hnew.trans (List.Perm.cons new ?_)
  have herase := hold.erase (t.uniqueID r)
  rw [List.erase_cons_head] at herase
  exact herase.symm

end

end Table

end PokerTH
