import PokerTH.Ranking
import PokerTH.Runs

namespace PokerTH

namespace RankingMap

variable {m : RankingMap} {id playerId oldPlayerId newPlayerId : Nat} {place c k : Int} {i x : PlayerRankingInfo}
  {ps : List PlayerRankingInfo}

def placeOf (m : RankingMap) (playerId : Nat) : Option Int := (m playerId).map fun data => data.place

theorem placeOf_setPlayerPlace (hknown : (m.placeOf playerId).isSome) (id : Nat) :
    (m.setPlayerPlace playerId place).placeOf id = if id = playerId then some place else m.placeOf id := by
  simp only [placeOf, Option.isSome_map] at hknown
  obtain ⟨data, hdata⟩ := Option.isSome_iff_exists.mp hknown
  simp only [setPlayerPlace, hdata, placeOf]
  split_ifs with hid
  · subst hid
    rw [Function.update_self]
    rfl
  · rw [Function.update_of_ne hid]

theorem placeOf_setPlayerPlace_of_ne (hid : id ≠ playerId) :
    (m.setPlayerPlace playerId place).placeOf id = m.placeOf id := by
  cases hdata : m playerId with
  | none => simp only [setPlayerPlace, hdata]
  | some data => simp only [setPlayerPlace, hdata, placeOf, Function.update_of_ne hid]

theorem placeOf_replaceRankingPlayer (hne : oldPlayerId ≠ newPlayerId) (hknown : (m.placeOf oldPlayerId).isSome) :
    (m.replaceRankingPlayer oldPlayerId newPlayerId).placeOf newPlayerId = m.placeOf oldPlayerId := by
  simp only [placeOf, Option.isSome_map] at hknown
  obtain ⟨data, hdata⟩ := Option.isSome_iff_exists.mp hknown
  simp only [replaceRankingPlayer, hdata, placeOf]
  rw [Function.update_of_ne hne.symm, Function.update_self]

theorem placeOf_replaceRankingPlayer_of_ne (hold : id ≠ oldPlayerId) (hnew : id ≠ newPlayerId) :
    (m.replaceRankingPlayer oldPlayerId newPlayerId).placeOf id = m.placeOf id := by
  cases hdata : m oldPlayerId with
  | none => simp only [replaceRankingPlayer, hdata]
  | some data =>
      simp only [replaceRankingPlayer, hdata, placeOf, Function.update_of_ne hold, Function.update_of_ne hnew]

theorem placeRemoved_of_not_mem (hid : ∀ i ∈ ps, i.uniqueId ≠ id) :
    (m.placeRemoved c k ps).placeOf id = m.placeOf id := by
  induction ps generalizing m c k with
  | nil => rfl
  | cons x rest ih =>
      have hx : id ≠ x.uniqueId := (hid x List.mem_cons_self).symm
      have hrest : ∀ i ∈ rest, i.uniqueId ≠ id := fun i hi => hid i (List.mem_cons_of_mem x hi)
      cases rest with
      | nil => exact placeOf_setPlayerPlace_of_ne hx
      | cons y rest =>
          simp only [placeRemoved]
          split_ifs <;> rw [ih hrest, placeOf_setPlayerPlace_of_ne hx]

/-- How many of the players are out before `i`, when `k` more had the stack of the first one. -/
def outBefore (k : Int) : List PlayerRankingInfo → PlayerRankingInfo → Int
  | [], _ => 0
  | x :: rest, i => (x :: rest).countP (fun q => q.roundStartCash < i.roundStartCash) +
      if x.roundStartCash < i.roundStartCash then k else 0

theorem outBefore_zero (ps : List PlayerRankingInfo) (i : PlayerRankingInfo) :
    outBefore 0 ps i = ps.countP fun q => q.roundStartCash < i.roundStartCash := by
  cases ps <;> simp [outBefore]

theorem placeRemoved_place (hids : (ps.map fun i => i.uniqueId).Nodup)
    (hknown : ∀ i ∈ ps, (m.placeOf i.uniqueId).isSome)
    (hsorted : ps.Pairwise fun a b => a.roundStartCash ≤ b.roundStartCash) (hk : 0 ≤ k) (hc : k + ps.length ≤ c)
    (hi : i ∈ ps) : (m.placeRemoved c k ps).placeOf i.uniqueId = some (c - outBefore k ps i) := by
  induction ps generalizing m c k with
  | nil => cases hi
  | cons x rest ih =>
      have hx := hknown x List.mem_cons_self
      obtain ⟨hleast, hsort⟩ := List.pairwise_cons.mp hsorted
      rw [List.map_cons, List.nodup_cons] at hids
      have hself : outBefore k (x :: rest) x = 0 := by
        have hnone : (x :: rest).countP (fun q => q.roundStartCash < x.roundStartCash) = 0 := by
          rw [List.countP_eq_zero]
          intro q hq
          rcases List.mem_cons.mp hq with rfl | hq
          · simp
          · simpa using hleast q hq
        simp [outBefore, hnone]
      cases rest with
      | nil =>
          obtain rfl := List.mem_singleton.mp hi
          rw [hself, placeRemoved, placeOf_setPlayerPlace hx, if_pos rfl, sub_zero]
      | cons y rest =>
          have hother : ∀ q ∈ y :: rest, q.uniqueId ≠ x.uniqueId := fun q hq he =>
            hids.1 (he ▸ List.mem_map_of_mem hq)
          have hknown' : ∀ q ∈ y :: rest, ((m.setPlayerPlace x.uniqueId c).placeOf q.uniqueId).isSome := fun q hq => by
            rw [placeOf_setPlayerPlace_of_ne (hother q hq)]
            exact hknown q (List.mem_cons_of_mem x hq)
          have hxy := hleast y List.mem_cons_self
          simp only [List.length_cons] at hc
          rcases List.mem_cons.mp hi with rfl | hi
          · rw [hself, sub_zero]
            simp only [placeRemoved]
            split_ifs <;> rw [placeRemoved_of_not_mem hother, placeOf_setPlayerPlace hx, if_pos rfl]
          · have hyi : y.roundStartCash ≤ i.roundStartCash := by
              rcases List.mem_cons.mp hi with rfl | hi
              · exact le_refl _
              · exact (List.pairwise_cons.mp hsort).1 i hi
            simp only [placeRemoved]
            split_ifs with hlt
            -- the next player has more: the rank moves on behind the players counted so far
            · have hrank : max 1 (c - (k + 1)) = c - (k + 1) := by omega
              rw [hrank, ih hids.2 hknown' hsort (le_refl 0) (by simp only [List.length_cons]; omega) hi,
                outBefore_zero, outBefore, List.countP_cons (l := y :: rest)]
              simp [lt_of_lt_of_le hlt hyi]
              omega
            · have heq : x.roundStartCash = y.roundStartCash := by omega
              rw [ih hids.2 hknown' hsort (by omega) (by simp only [List.length_cons]; omega) hi, outBefore, outBefore,
                List.countP_cons (l := y :: rest), heq]
              by_cases hyi' : y.roundStartCash < i.roundStartCash
              · simp [hyi']
                omega
              · simp [hyi']

end RankingMap

namespace RankedGame

open RankingMap

variable {t : Table} {m : RankingMap} {r w : Ref} {id : Nat}

structure Mapped (t : Table) (m : RankingMap) : Prop where
  ids : (t.activePlayerList.map fun r => (t.players r).myUniqueID).Nodup
  known : ∀ r ∈ t.activePlayerList, (m.placeOf (t.players r).myUniqueID).isSome

def brokeList (t : Table) : List Ref := t.activePlayerList.filter fun r => (t.players r).myCash < 1

def sortedInfos (t : Table) : List PlayerRankingInfo :=
  ((brokeList t).map (rankingInfo t)).mergeSort fun a b => a.roundStartCash ≤ b.roundStartCash

theorem sortedInfos_perm (t : Table) : (sortedInfos t).Perm ((brokeList t).map (rankingInfo t)) :=
  List.mergeSort_perm _ _

theorem sortedInfos_sorted (t : Table) :
    (sortedInfos t).Pairwise fun a b => a.roundStartCash ≤ b.roundStartCash := by
  have hs := @List.pairwise_mergeSort _ (fun a b : PlayerRankingInfo => decide (a.roundStartCash ≤ b.roundStartCash))
    (fun a b c hab hbc => by simp only [decide_eq_true_eq] at *; omega)
    (fun a b => by simp only [Bool.or_eq_true, decide_eq_true_eq]; omega) ((brokeList t).map (rankingInfo t))
  exact hs.imp fun h => by simpa using h

theorem updateRankingMap_eq (t : Table) (m : RankingMap) : updateRankingMap t m =
    let m := m.placeRemoved ((brokeList t).length + (playersWithCash t).length) 0 (sortedInfos t)
    match playersWithCash t with
    | [w] => m.setPlayerPlace (t.players w).myUniqueID 1
    | _ => m := by
  have hbroke : (t.activePlayerList.map (rankingInfo t)).filter (fun info => info.cash < 1) =
      (brokeList t).map (rankingInfo t) := List.filter_map
  have hstay : (t.activePlayerList.map (rankingInfo t)).filter (fun info => ¬ info.cash < 1) =
      (playersWithCash t).map (rankingInfo t) := List.filter_map
  simp only [updateRankingMap, hbroke, hstay, List.length_map, sortedInfos]
  cases playersWithCash t with
  | nil => rfl
  | cons w rest => cases rest <;> rfl

theorem mem_sortedInfos {i : PlayerRankingInfo} :
    i ∈ sortedInfos t ↔ ∃ r ∈ t.activePlayerList, (t.players r).myCash < 1 ∧ rankingInfo t r = i := by
  rw [(sortedInfos_perm t).mem_iff, List.mem_map]
  simp only [brokeList, List.mem_filter, decide_eq_true_eq, and_assoc]

theorem mem_playersWithCash : r ∈ playersWithCash t ↔ r ∈ t.activePlayerList ∧ 1 ≤ (t.players r).myCash := by
  simp only [playersWithCash, List.mem_filter, decide_eq_true_eq, not_lt]

theorem mem_brokeList : r ∈ brokeList t ↔ r ∈ t.activePlayerList ∧ (t.players r).myCash < 1 := by
  simp only [brokeList, List.mem_filter, decide_eq_true_eq]

theorem Mapped.eq_of_id (hm : Mapped t m) (hr : r ∈ t.activePlayerList) (hw : w ∈ t.activePlayerList)
    (hid : (t.players r).myUniqueID = (t.players w).myUniqueID) : r = w :=
  List.inj_on_of_nodup_map hm.ids hr hw hid

theorem updateRankingMap_of_not_mem (hid : ∀ r ∈ t.activePlayerList, (t.players r).myUniqueID ≠ id) :
    (updateRankingMap t m).placeOf id = m.placeOf id := by
  have hloop : ∀ i ∈ sortedInfos t, i.uniqueId ≠ id := by
    intro i hi
    obtain ⟨r, hr, _, rfl⟩ := mem_sortedInfos.mp hi
    exact hid r hr
  rw [updateRankingMap_eq]
  dsimp only
  split
  · next w hone =>
      have hw : w ∈ playersWithCash t := by simp [hone]
      rw [placeOf_setPlayerPlace_of_ne (hid w (mem_playersWithCash.mp hw).1).symm, placeRemoved_of_not_mem hloop]
  · exact placeRemoved_of_not_mem hloop

theorem placeRemoved_staying (hm : Mapped t m) (hr : r ∈ playersWithCash t) (c : Int) :
    (m.placeRemoved c 0 (sortedInfos t)).placeOf (t.players r).myUniqueID = m.placeOf (t.players r).myUniqueID := by
  rw [mem_playersWithCash] at hr
  apply placeRemoved_of_not_mem
  intro i hi hid
  obtain ⟨q, hq, hbroke, rfl⟩ := mem_sortedInfos.mp hi
  obtain rfl := hm.eq_of_id hq hr.1 hid
  exact absurd hr.2 (by omega)

theorem updateRankingMap_staying (hm : Mapped t m) (hr : r ∈ playersWithCash t) :
    (updateRankingMap t m).placeOf (t.players r).myUniqueID =
      if (playersWithCash t).length = 1 then some 1 else m.placeOf (t.players r).myUniqueID := by
  have hstay := placeRemoved_staying hm hr
  rw [updateRankingMap_eq]
  dsimp only
  split
  · next w hone =>
      rw [hone, List.mem_singleton] at hr
      subst hr
      rw [hone, placeOf_setPlayerPlace, if_pos rfl]
      · rfl
      · rw [hstay]
        exact hm.known r (mem_playersWithCash.mp (by simp [hone])).1
  · next hmany =>
      rw [hstay, if_neg]
      intro hlen
      obtain ⟨w, hw⟩ := List.length_eq_one_iff.mp hlen
      exact hmany w hw

theorem updateRankingMap_removed (hm : Mapped t m) (hr : r ∈ brokeList t) :
    (updateRankingMap t m).placeOf (t.players r).myUniqueID = some ((playersWithCash t).length +
      (brokeList t).countP fun q => (t.players r).myRoundStartCash ≤ (t.players q).myRoundStartCash) := by
  have hperm := sortedInfos_perm t
  have hsub : (brokeList t).Sublist t.activePlayerList := List.filter_sublist
  have hids : ((sortedInfos t).map fun i => i.uniqueId).Nodup := by
    rw [(hperm.map _).nodup_iff, List.map_map]
    exact hm.ids.sublist (hsub.map _)
  have hknown : ∀ i ∈ sortedInfos t, (m.placeOf i.uniqueId).isSome := by
    intro i hi
    obtain ⟨q, hq, _, rfl⟩ := mem_sortedInfos.mp hi
    exact hm.known q hq
  have hmem : rankingInfo t r ∈ sortedInfos t :=
    mem_sortedInfos.mpr ⟨r, (mem_brokeList.mp hr).1, (mem_brokeList.mp hr).2, rfl⟩
  have hlen : (sortedInfos t).length = (brokeList t).length := by rw [hperm.length_eq, List.length_map]
  have hplace := placeRemoved_place (c := (brokeList t).length + (playersWithCash t).length) hids hknown
    (sortedInfos_sorted t) (le_refl 0) (by omega) hmem
  have hcount : (sortedInfos t).countP (fun q => q.roundStartCash < (rankingInfo t r).roundStartCash) =
      (brokeList t).countP fun q => (t.players q).myRoundStartCash < (t.players r).myRoundStartCash := by
    rw [hperm.countP_eq, List.countP_map]
    rfl
  have htotal := List.length_eq_countP_add_countP
    (fun q => decide ((t.players q).myRoundStartCash < (t.players r).myRoundStartCash)) (l := brokeList t)
  have hrest : (brokeList t).countP (fun q => decide ¬ decide ((t.players q).myRoundStartCash <
      (t.players r).myRoundStartCash) = true) =
      (brokeList t).countP fun q => (t.players r).myRoundStartCash ≤ (t.players q).myRoundStartCash := by
    apply List.countP_congr
    intro q _
    simp
  rw [outBefore_zero, hcount] at hplace
  have hval : (updateRankingMap t m).placeOf (t.players r).myUniqueID =
      (m.placeRemoved ((brokeList t).length + (playersWithCash t).length) 0 (sortedInfos t)).placeOf
        (t.players r).myUniqueID := by
    rw [updateRankingMap_eq]
    dsimp only
    split
    · next w hone =>
        apply placeOf_setPlayerPlace_of_ne
        intro hid
        have hw : w ∈ playersWithCash t := by simp [hone]
        obtain rfl := hm.eq_of_id (mem_brokeList.mp hr).1 (mem_playersWithCash.mp hw).1 hid
        exact absurd (mem_playersWithCash.mp hw).2 (by have := (mem_brokeList.mp hr).2; omega)
    · rfl
  rw [hval]
  refine hplace.trans (congrArg some ?_)
  omega

end RankedGame

end PokerTH
