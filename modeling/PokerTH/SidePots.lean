import Mathlib.Algebra.BigOperators.Group.List.Basic
import Mathlib.Algebra.BigOperators.Field
import Mathlib.Algebra.BigOperators.Intervals
import Mathlib.Algebra.Order.Field.Basic
import Mathlib.Algebra.Order.Field.Rat
import Mathlib.Data.Rat.Cast.Order
import Mathlib.Order.Interval.Finset.Nat
import Mathlib.Tactic.Linarith
import Mathlib.Tactic.Ring
import PokerTH.Lists

namespace PokerTH.SidePots

/-- What each seat has put in, which seats may win, and how good their hands are. -/
structure Stakes (α : Type) where
  seats : List α
  stake : α → Nat
  live : α → Bool
  value : α → Int

namespace Stakes

variable {α : Type} (t : Stakes α)

def upTo (h : Nat) : Nat := (t.seats.map fun a => min (t.stake a) h).sum

def between (lo hi : Nat) : Nat := t.upTo hi - t.upTo lo

def slice (h : Nat) : Nat := t.seats.countP fun a => h ≤ t.stake a

def winners (h : Nat) : List α :=
  t.seats.filter fun a => t.live a ∧ h ≤ t.stake a ∧
    ∀ b ∈ t.seats, t.live b → h ≤ t.stake b → t.value b ≤ t.value a

def levels : List Nat :=
  Lists.sort ((t.seats.filter fun a => t.live a && decide (0 < t.stake a)).map t.stake).dedup

variable [DecidableEq α]

/-- The part of the side pots above `lo`, one for each level, that belongs to a seat. -/
def shareAbove (a : α) : Nat → List Nat → ℚ
  | _, [] => 0
  | lo, hi :: rest =>
      (if a ∈ t.winners hi then (t.between lo hi : ℚ) / (t.winners hi).length else 0) +
        shareAbove a hi rest

def share (a : α) : ℚ := t.shareAbove a 0 t.levels

def sliceShare (a : α) (h : Nat) : ℚ :=
  if a ∈ t.winners h then (t.slice h : ℚ) / (t.winners h).length else 0

def shareUpTo (a : α) (h : Nat) : ℚ := ∑ k ∈ Finset.Ioc 0 h, t.sliceShare a k

end Stakes

section upTo

variable {α : Type} {t : Stakes α} {a b : α} {h k lo hi : Nat}

theorem sum_min_succ (l : List α) (f : α → Nat) (h : Nat) :
    (l.map fun a => min (f a) (h + 1)).sum =
      (l.map fun a => min (f a) h).sum + l.countP fun a => h + 1 ≤ f a := by
  induction l with
  | nil => rfl
  | cons a l ih =>
      simp only [List.map_cons, List.sum_cons, List.countP_cons, ih, decide_eq_true_eq]
      split_ifs <;> omega

theorem upTo_zero : t.upTo 0 = 0 := by
  apply List.sum_eq_zero
  intro x hx
  obtain ⟨a, _, rfl⟩ := List.mem_map.mp hx
  exact Nat.min_zero _

theorem upTo_succ (h : Nat) : t.upTo (h + 1) = t.upTo h + t.slice (h + 1) := sum_min_succ t.seats t.stake h

theorem sum_min_add (l : List α) (f : α → Nat) (lo k : Nat) :
    (l.map fun a => min (f a) (lo + k)).sum =
      (l.map fun a => min (f a) lo).sum + (l.map fun a => min (f a - lo) k).sum := by
  induction l with
  | nil => rfl
  | cons a l ih =>
      simp only [List.map_cons, List.sum_cons, ih]
      omega

theorem upTo_add (lo k : Nat) :
    t.upTo (lo + k) = t.upTo lo + (t.seats.map fun a => min (t.stake a - lo) k).sum :=
  sum_min_add t.seats t.stake lo k

theorem upTo_mono (hle : lo ≤ hi) : t.upTo lo ≤ t.upTo hi := by
  induction hi, hle using Nat.le_induction with
  | base => exact le_refl _
  | succ hi _ ih =>
      rw [upTo_succ]
      exact Nat.le_add_right_of_le ih

theorem upTo_between (hle : lo ≤ hi) : t.upTo lo + t.between lo hi = t.upTo hi :=
  Nat.add_sub_cancel' (upTo_mono hle)

theorem sum_slice (hle : lo ≤ hi) :
    ∑ k ∈ Finset.Ioc lo hi, (t.slice k : ℚ) = t.between lo hi := by
  induction hi, hle using Nat.le_induction with
  | base => simp [Stakes.between]
  | succ hi hle ih =>
      have hlow := upTo_between (t := t) hle
      have hhigh : t.upTo lo + t.between lo (hi + 1) = t.upTo (hi + 1) := upTo_between (Nat.le_succ_of_le hle)
      rw [upTo_succ] at hhigh
      rw [Finset.sum_Ioc_succ_top hle, ih, ← Nat.cast_add]
      congr 1
      omega

theorem slice_pos (ha : a ∈ t.seats) (hstake : h ≤ t.stake a) : 0 < t.slice h :=
  List.countP_pos_iff.mpr ⟨a, ha, by simpa using hstake⟩

theorem le_of_upTo_eq (heq : t.upTo hi = t.upTo lo) (hle : lo ≤ hi) (ha : a ∈ t.seats)
    (hstake : t.stake a ≤ hi) : t.stake a ≤ lo := by
  by_contra hgt
  have hpos := slice_pos (t := t) (h := lo + 1) ha (by omega)
  have hsucc := upTo_succ (t := t) lo
  have hmono : t.upTo (lo + 1) ≤ t.upTo hi := upTo_mono (by omega)
  omega

end upTo

section winners

variable {α : Type} {t : Stakes α} {a b : α} {h lo hi paid seen next : Nat}

theorem mem_winners : a ∈ t.winners h ↔ a ∈ t.seats ∧ t.live a ∧ h ≤ t.stake a ∧
    ∀ b ∈ t.seats, t.live b → h ≤ t.stake b → t.value b ≤ t.value a := by
  simp only [Stakes.winners, List.mem_filter, decide_eq_true_eq]

theorem winners_sublist (t : Stakes α) (h : Nat) : (t.winners h).Sublist t.seats := List.filter_sublist

theorem winners_nodup (hnodup : t.seats.Nodup) : (t.winners h).Nodup := hnodup.sublist (winners_sublist t h)

theorem exists_winner [DecidableEq α] (ha : a ∈ t.seats) (hlive : t.live a) (hstake : h ≤ t.stake a) :
    ∃ w, w ∈ t.winners h := by
  let entitled := (t.seats.filter fun a => t.live a ∧ h ≤ t.stake a).toFinset
  have hmem (b : α) : b ∈ entitled ↔ b ∈ t.seats ∧ t.live b ∧ h ≤ t.stake b := by
    simp only [entitled, List.mem_toFinset, List.mem_filter, decide_eq_true_eq]
  obtain ⟨w, hw, hmax⟩ := entitled.exists_max_image t.value ⟨a, (hmem a).mpr ⟨ha, hlive, hstake⟩⟩
  obtain ⟨hseat, hwlive, hwstake⟩ := (hmem w).mp hw
  exact ⟨w, mem_winners.mpr ⟨hseat, hwlive, hwstake,
    fun b hb hblive hbstake => hmax b ((hmem b).mpr ⟨hb, hblive, hbstake⟩)⟩⟩

theorem winners_eq [DecidableEq α] (hle : lo ≤ hi) (hopen : ∀ w ∈ t.winners lo, hi ≤ t.stake w) :
    t.winners hi = t.winners lo := by
  apply List.filter_congr
  intro a ha
  rw [decide_eq_decide]
  constructor
  · rintro ⟨hlive, hstake, hbest⟩
    refine ⟨hlive, hle.trans hstake, fun b hb hblive hbstake => ?_⟩
    obtain ⟨w, hw⟩ := exists_winner hb hblive hbstake
    obtain ⟨hwseat, hwlive, _, hwbest⟩ := mem_winners.mp hw
    exact (hwbest b hb hblive hbstake).trans (hbest w hwseat hwlive (hopen w hw))
  · rintro ⟨hlive, hstake, hbest⟩
    have hw : a ∈ t.winners lo := mem_winners.mpr ⟨ha, hlive, hstake, hbest⟩
    exact ⟨hlive, hopen a hw, fun b hb hblive hbstake => hbest b hb hblive (hle.trans hbstake)⟩

theorem mem_levels {x : Nat} : x ∈ t.levels ↔ ∃ a ∈ t.seats, t.live a ∧ 0 < t.stake a ∧ t.stake a = x := by
  simp only [Stakes.levels, (Lists.sort_perm _).mem_iff, List.mem_dedup, List.mem_map, List.mem_filter,
    Bool.and_eq_true, decide_eq_true_eq, and_assoc]

theorem levels_sorted : t.levels.Pairwise (· < ·) := by
  have hnodup : t.levels.Nodup := (Lists.sort_perm _).nodup_iff.mpr (List.nodup_dedup _)
  exact ((Lists.sort_sorted _).and hnodup).imp fun h => lt_of_le_of_ne h.1 h.2

end winners

section Split

variable {α : Type} {ws : List α} {amount : Nat} {won : α → Int} {a : α}

/-- An amount is split equally, but for odd chips. -/
structure Split (ws : List α) (amount : Nat) (won : α → Int) : Prop where
  outside : ∀ a, a ∉ ws → won a = 0
  inside : ∀ a ∈ ws, won a = (amount / ws.length : Nat) ∨
    amount % ws.length ≠ 0 ∧ won a = (amount / ws.length : Nat) + 1

theorem Split.le (hs : Split ws amount won) (a : α) : won a ≤ amount := by
  by_cases ha : a ∈ ws
  · have hdiv := Nat.div_add_mod amount ws.length
    have hlen : 0 < ws.length := List.length_pos_of_mem ha
    have hq : amount / ws.length ≤ ws.length * (amount / ws.length) := Nat.le_mul_of_pos_left _ hlen
    rcases hs.inside a ha with hwon | ⟨hmod, hwon⟩
    · omega
    · omega
  · rw [hs.outside a ha]
    exact Int.natCast_nonneg amount

theorem Split.single (hs : Split [a] amount won) : won a = amount := by
  rcases hs.inside a (List.mem_singleton_self a) with hwon | ⟨hmod, _⟩
  · simpa using hwon
  · exact absurd (Nat.mod_one amount) hmod

theorem Split.error (hs : Split ws amount won) (ha : a ∈ ws) :
    |(won a : ℚ) - (amount : ℚ) / ws.length| < 1 := by
  have hlen : 0 < ws.length := List.length_pos_of_mem ha
  have hpos : (0 : ℚ) < ws.length := by exact_mod_cast hlen
  have hdiv : (ws.length : ℚ) * (amount / ws.length : Nat) + (amount % ws.length : Nat) = amount := by
    exact_mod_cast Nat.div_add_mod amount ws.length
  have hshare : (amount : ℚ) / ws.length =
      (amount / ws.length : Nat) + (amount % ws.length : Nat) / (ws.length : ℚ) := by
    rw [← hdiv, add_div, mul_div_cancel_left₀ _ hpos.ne']
  have hlt : ((amount % ws.length : Nat) : ℚ) / ws.length < 1 := by
    rw [div_lt_one hpos]
    exact_mod_cast Nat.mod_lt amount hlen
  have hnonneg : 0 ≤ ((amount % ws.length : Nat) : ℚ) / ws.length := div_nonneg (Nat.cast_nonneg _) hpos.le
  rw [hshare, abs_sub_lt_iff]
  rcases hs.inside a ha with hwon | ⟨hmod, hwon⟩
  · rw [hwon, Int.cast_natCast]
    constructor <;> linarith
  · have hrest : 0 < ((amount % ws.length : Nat) : ℚ) / ws.length := by
      apply div_pos _ hpos
      exact_mod_cast Nat.pos_of_ne_zero hmod
    rw [hwon, Int.cast_add, Int.cast_natCast, Int.cast_one]
    constructor <;> linarith

end Split

section share

variable {α : Type} [DecidableEq α] {t : Stakes α} {a : α} {h lo hi top : Nat}

theorem sum_sliceShare (hle : lo ≤ hi)
    (hwinners : ∀ h, lo < h → h ≤ hi → t.winners hi = t.winners h) (a : α) :
    ∑ k ∈ Finset.Ioc lo hi, t.sliceShare a k =
      if a ∈ t.winners hi then (t.between lo hi : ℚ) / (t.winners hi).length else 0 := by
  have hslices : ∑ k ∈ Finset.Ioc lo hi, t.sliceShare a k =
      ∑ k ∈ Finset.Ioc lo hi, if a ∈ t.winners hi then (t.slice k : ℚ) / (t.winners hi).length else 0 := by
    apply Finset.sum_congr rfl
    intro k hk
    rw [Finset.mem_Ioc] at hk
    rw [Stakes.sliceShare, hwinners k hk.1 hk.2]
  rw [hslices]
  split_ifs
  · rw [← Finset.sum_div, sum_slice hle]
  · exact Finset.sum_const_zero

theorem shareAbove_eq (a : α) (ls : List Nat) (lo : Nat) (hsorted : (lo :: ls).Pairwise (· < ·))
    (hcover : ∀ b ∈ t.seats, t.live b → t.stake b ≤ lo ∨ t.stake b ∈ ls) (hlo : lo ≤ top)
    (htop : ∀ x ∈ ls, x ≤ top) :
    t.shareAbove a lo ls = ∑ k ∈ Finset.Ioc lo top, t.sliceShare a k := by
  induction ls generalizing lo with
  | nil =>
      symm
      apply Finset.sum_eq_zero
      intro k hk
      rw [Finset.mem_Ioc] at hk
      have hnone : a ∉ t.winners k := by
        intro hw
        obtain ⟨hseat, hlive, hstake, _⟩ := mem_winners.mp hw
        rcases hcover a hseat hlive with hle | hmem
        · omega
        · exact absurd hmem List.not_mem_nil
      rw [Stakes.sliceShare, if_neg hnone]
  | cons hi rest ih =>
      obtain ⟨hfirst, hrest⟩ := List.pairwise_cons.mp hsorted
      have hlt : lo < hi := hfirst hi List.mem_cons_self
      have hle : hi ≤ top := htop hi List.mem_cons_self
      have hnext : ∀ b ∈ t.seats, t.live b → t.stake b ≤ lo ∨ hi ≤ t.stake b := by
        intro b hb hlive
        rcases hcover b hb hlive with hle | hmem
        · exact .inl hle
        · rcases List.mem_cons.mp hmem with heq | hmem
          · exact .inr heq.ge
          · exact .inr ((List.pairwise_cons.mp hrest).1 _ hmem).le
      have hcover' : ∀ b ∈ t.seats, t.live b → t.stake b ≤ hi ∨ t.stake b ∈ rest := by
        intro b hb hlive
        rcases hcover b hb hlive with hle | hmem
        · exact .inl (hle.trans hlt.le)
        · exact (List.mem_cons.mp hmem).imp_left fun heq => heq.le
      rw [Stakes.shareAbove, ih hi hrest hcover' hle (fun x hx => htop x (List.mem_cons_of_mem hi hx)),
        ← Finset.sum_Ioc_consecutive _ hlt.le hle]
      congr 1
      symm
      apply sum_sliceShare hlt.le
      intro h hlow hhigh
      apply winners_eq hhigh
      intro w hw
      obtain ⟨hseat, hlive, hstake, _⟩ := mem_winners.mp hw
      exact (hnext w hseat hlive).resolve_left (by omega)

theorem share_eq (htop : ∀ b ∈ t.seats, t.stake b ≤ top) (a : α) : t.share a = t.shareUpTo a top := by
  apply shareAbove_eq
  · refine List.pairwise_cons.mpr ⟨fun x hx => ?_, levels_sorted⟩
    obtain ⟨b, _, _, hpos, rfl⟩ := mem_levels.mp hx
    exact hpos
  · intro b hb hlive
    rcases Nat.eq_zero_or_pos (t.stake b) with hzero | hpos
    · exact .inl hzero.le
    · exact .inr (mem_levels.mpr ⟨b, hb, hlive, hpos, rfl⟩)
  · exact Nat.zero_le top
  · intro x hx
    obtain ⟨b, hb, _, _, rfl⟩ := mem_levels.mp hx
    exact htop b hb

end share

section Settling

variable {α : Type} [DecidableEq α] {t : Stakes α} {won d : α → Int} {a : α} {n paid seen next : Nat}

def Sole (t : Stakes α) (a : α) : Prop :=
  ∀ b ∈ t.seats, t.live b → b ≠ a → t.value b < t.value a

theorem Sole.le (hsole : Sole t a) (b : α) (hb : b ∈ t.seats) (hlive : t.live b) : t.value b ≤ t.value a := by
  by_cases hne : b = a
  · rw [hne]
  · exact (hsole b hb hlive hne).le

/-- All chips up to the height `paid` have been distributed, `n` times some of them, and those up
to `seen` have been looked at. -/
structure Settling (t : Stakes α) (won : α → Int) (n paid seen : Nat) : Prop where
  le : paid ≤ seen
  pending : ∀ h, paid < h → h ≤ seen → ∀ a ∈ t.winners h, seen < t.stake a
  bound : ∀ a, won a ≤ t.upTo (min paid (t.stake a))
  sole : ∀ a ∈ t.seats, t.live a → Sole t a → won a = t.upTo (min paid (t.stake a))
  share : ∀ a, (won a : ℚ) = t.shareUpTo a paid ∨ |(won a : ℚ) - t.shareUpTo a paid| < n

theorem settling_start (t : Stakes α) : Settling t (fun _ => 0) 0 0 0 := by
  refine ⟨le_refl 0, fun h hpaid hseen => absurd hseen (by omega), fun a => Int.natCast_nonneg _,
    fun a _ _ _ => ?_, fun a => .inl ?_⟩
  · rw [Nat.zero_min, upTo_zero]
    rfl
  · simp [Stakes.shareUpTo]

/-- The winners of the chips that are to be distributed next are those of the highest of them. -/
theorem Settling.winners_next (hs : Settling t won n paid seen)
    (hgap : ∀ b ∈ t.seats, t.stake b ≤ seen ∨ next ≤ t.stake b) {h : Nat} (hpaid : paid < h)
    (hnext : h ≤ next) : t.winners next = t.winners h := by
  apply winners_eq hnext
  intro w hw
  obtain ⟨hseat, _, hstake, _⟩ := mem_winners.mp hw
  by_cases hseen : h ≤ seen
  · have hopen := hs.pending h hpaid hseen w hw
    have := hgap w hseat
    omega
  · have := hgap w hseat
    omega

theorem Settling.carry (hs : Settling t won n paid seen) (hlt : seen < next)
    (hgap : ∀ b ∈ t.seats, t.stake b ≤ seen ∨ next ≤ t.stake b)
    (hopen : ∀ a ∈ t.winners next, t.stake a ≠ next) : Settling t won n paid next := by
  refine ⟨hs.le.trans hlt.le, fun h hpaid hnext a ha => ?_, hs.bound, hs.sole, hs.share⟩
  rw [← hs.winners_next hgap hpaid hnext] at ha
  exact lt_of_le_of_ne (mem_winners.mp ha).2.2.1 (hopen a ha).symm

/-- A live seat whose hand beats every other one has won all its stake can win, once it is exhausted. -/
theorem Settling.paid_of_sole (hs : Settling t won n paid seen) (ha : a ∈ t.seats) (hlive : t.live a)
    (hsole : Sole t a) (hstake : t.stake a ≤ seen) : t.stake a ≤ paid := by
  by_contra hlt
  have hw : a ∈ t.winners (t.stake a) :=
    mem_winners.mpr ⟨ha, hlive, le_refl _, fun b hb hblive _ => hsole.le b hb hblive⟩
  have hopen := hs.pending (t.stake a) (by omega) hstake a hw
  omega

theorem winners_of_sole (hnodup : t.seats.Nodup) (ha : a ∈ t.seats) (hlive : t.live a) (hsole : Sole t a)
    (hstake : next ≤ t.stake a) : t.winners next = [a] := by
  have hmem (b : α) : b ∈ t.winners next ↔ b = a := by
    rw [mem_winners]
    constructor
    · rintro ⟨hb, hblive, _, hbest⟩
      by_contra hne
      have hlt := hsole b hb hblive hne
      have hle := hbest a ha hlive hstake
      omega
    · rintro rfl
      exact ⟨ha, hlive, hstake, fun b hb hblive _ => hsole.le b hb hblive⟩
  have hperm : (t.winners next).Perm [a] := by
    refine (List.perm_ext_iff_of_nodup (winners_nodup hnodup) (List.nodup_singleton a)).mpr ?_
    intro b
    rw [hmem b, List.mem_singleton]
  exact List.perm_singleton.mp hperm

theorem Settling.shareUpTo_next (hs : Settling t won n paid seen) (hlt : seen < next)
    (hgap : ∀ b ∈ t.seats, t.stake b ≤ seen ∨ next ≤ t.stake b) (a : α) :
    t.shareUpTo a next = t.shareUpTo a paid +
      if a ∈ t.winners next then (t.between paid next : ℚ) / (t.winners next).length else 0 := by
  have hle : paid ≤ next := hs.le.trans hlt.le
  rw [Stakes.shareUpTo, ← Finset.sum_Ioc_consecutive _ (Nat.zero_le paid) hle,
    sum_sliceShare hle (fun _ hlow hhigh => hs.winners_next hgap hlow hhigh)]
  rfl

theorem Settling.pay (hnodup : t.seats.Nodup) (hs : Settling t won n paid seen) (hlt : seen < next)
    (hgap : ∀ b ∈ t.seats, t.stake b ≤ seen ∨ next ≤ t.stake b)
    (hd : Split (t.winners next) (t.between paid next) d) :
    Settling t (fun a => won a + d a) (n + 1) next next := by
  have hle : paid ≤ next := hs.le.trans hlt.le
  have hupTo := upTo_between (t := t) hle
  refine ⟨le_refl next, fun h hpaid hnext => absurd hpaid (by omega), fun a => ?_, fun a ha hlive hsole => ?_,
    fun a => ?_⟩
  · have hbound := hs.bound a
    by_cases hw : a ∈ t.winners next
    · have hstake := (mem_winners.mp hw).2.2.1
      rw [Nat.min_eq_left (hle.trans hstake)] at hbound
      rw [Nat.min_eq_left hstake]
      have hd' := hd.le a
      omega
    · rw [hd.outside a hw, add_zero]
      refine hbound.trans (Int.ofNat_le.mpr (upTo_mono ?_))
      omega
  · have hwon := hs.sole a ha hlive hsole
    by_cases hstake : next ≤ t.stake a
    · rw [winners_of_sole hnodup ha hlive hsole hstake] at hd
      rw [Nat.min_eq_left (hle.trans hstake)] at hwon
      rw [Nat.min_eq_left hstake, hwon, hd.single]
      omega
    · have hout : a ∉ t.winners next := fun hw => hstake (mem_winners.mp hw).2.2.1
      have hseen : t.stake a ≤ seen := (hgap a ha).resolve_right hstake
      have hpaid := hs.paid_of_sole ha hlive hsole hseen
      rw [hd.outside a hout, add_zero, hwon, Nat.min_eq_right hpaid, Nat.min_eq_right (by omega)]
  · rw [hs.shareUpTo_next hlt hgap a]
    by_cases hw : a ∈ t.winners next
    · have herror := hd.error hw
      rw [if_pos hw]
      right
      have hn : (0 : ℚ) ≤ n := Nat.cast_nonneg n
      rw [abs_sub_lt_iff] at herror ⊢
      push_cast at herror ⊢
      rcases hs.share a with hsame | hnear
      · rw [hsame]
        constructor <;> linarith
      · rw [abs_sub_lt_iff] at hnear
        constructor <;> linarith
    · rw [if_neg hw, hd.outside a hw, add_zero, add_zero]
      refine (hs.share a).imp_right fun hnear => hnear.trans_le ?_
      push_cast
      linarith

theorem Settling.entitled (hs : Settling t won n paid seen) (hpaid : ∀ b ∈ t.seats, t.stake b ≤ paid)
    (ha : a ∈ t.seats) : won a ≤ t.upTo (t.stake a) ∧
      (t.live a → Sole t a → won a = t.upTo (t.stake a)) ∧
      ((won a : ℚ) = t.share a ∨ |(won a : ℚ) - t.share a| < n) := by
  have hmin : min paid (t.stake a) = t.stake a := Nat.min_eq_right (hpaid a ha)
  refine ⟨?_, fun hlive hsole => ?_, ?_⟩
  · exact hmin ▸ hs.bound a
  · exact hmin ▸ hs.sole a ha hlive hsole
  · rw [share_eq hpaid]
    exact hs.share a

end Settling

end PokerTH.SidePots
