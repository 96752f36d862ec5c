import PokerTH.BlindSchedule
import PokerTH.RankingRun
import PokerTH.SeatIds
import Mathlib.Data.List.Chain

namespace PokerTH

namespace Cyclic

variable {α : Type} [DecidableEq α]

theorem exists_rotation {l : List α} {a : α} (ha : a ∈ l) : ∃ X Y, l = X ++ Y ∧ after l a = Y ++ X := by
  obtain ⟨A, B, rfl, hA⟩ := List.eq_append_cons_of_mem ha
  refine ⟨A ++ [a], B, by simp, ?_⟩
  rw [after_append hA, List.append_assoc]

/-- Leaving `a`, which need not satisfy `p`, the first two members that do are neighbours in the list of those that do. -/
theorem next_filter_after {l rest : List α} {a b c : α} (hl : l.Nodup) (ha : a ∈ l) {p : α → Bool}
    (h : (after l a).filter p = b :: c :: rest) : next (l.filter p) b = c := by
  obtain ⟨X, Y, hsplit, hafter⟩ := exists_rotation ha
  have hmet : Y.filter p ++ X.filter p = b :: c :: rest := by
    rw [← List.filter_append, ← hafter, h]
  have hlist : l.filter p = X.filter p ++ Y.filter p := by
    rw [hsplit, List.filter_append]
  have hnodup : (X.filter p ++ Y.filter p).Nodup := by
    rw [← hlist]
    exact hl.filter p
  have hb : b ∈ X.filter p ++ Y.filter p := by
    rw [List.perm_append_comm.mem_iff, hmet]
    exact List.mem_cons_self
  have hhead := after_append (A := []) (B := c :: rest) (a := b) (by simp)
  rw [hlist, next, after_append_comm hnodup hb, hmet, ← List.nil_append (b :: c :: rest), hhead]
  rfl

end Cyclic

namespace Table

/-- Seats with different ids, at least two of them active. The active players are in the order of the seats. -/
structure Rows (t : Table) : Prop where
  ids : t.seatIds.Nodup
  active : t.activePlayerList.Sublist t.seatsList
  two : 2 ≤ t.activePlayerList.length

/-- The active seats in the order in which they come after the seat `dealer`, which is the last of them if it is active. -/
def activeAfter (t : Table) (dealer : Ref) : List Ref :=
  (Cyclic.after t.seatsList dealer).filter fun r => decide (r ∈ t.activePlayerList)

variable {t : Table} {dealer r q : Ref}

theorem Rows.nodup (hr : Rows t) : t.seatsList.Nodup := List.Nodup.of_map _ hr.ids

theorem Rows.eq_of_id (hr : Rows t) (hmem : r ∈ t.seatsList) (hq : q ∈ t.seatsList) (hid : t.uniqueID r = t.uniqueID q) :
    r = q := List.inj_on_of_nodup_map hr.ids hmem hq hid

theorem Rows.congr {t' : Table} (hr : Rows t) (hseats : t'.seatsList = t.seatsList)
    (hactive : t'.activePlayerList = t.activePlayerList) (hid : ∀ r, t'.uniqueID r = t.uniqueID r) : Rows t' where
  ids := by
    rw [seatIds, hseats, List.map_congr_left fun r _ => hid r]
    exact hr.ids
  active := by
    rw [hseats, hactive]
    exact hr.active
  two := by
    rw [hactive]
    exact hr.two

theorem activeAfter_congr {t' : Table} (hseats : t'.seatsList = t.seatsList)
    (hactive : t'.activePlayerList = t.activePlayerList) : t'.activeAfter dealer = t.activeAfter dealer := by
  rw [activeAfter, activeAfter, hseats, hactive]

theorem Rows.filter_active (hr : Rows t) :
    (t.seatsList.filter fun r => decide (r ∈ t.activePlayerList)) = t.activePlayerList := by
  have hsub : t.activePlayerList.Sublist (t.seatsList.filter fun r => decide (r ∈ t.activePlayerList)) := by
    have hfilter := hr.active.filter fun r => decide (r ∈ t.activePlayerList)
    rwa [List.filter_eq_self.mpr fun r hmem => decide_eq_true hmem] at hfilter
  have hperm : t.activePlayerList.Perm (t.seatsList.filter fun r => decide (r ∈ t.activePlayerList)) := by
    rw [List.perm_ext_iff_of_nodup (hr.nodup.sublist hr.active) (hr.nodup.filter _)]
    intro r
    rw [List.mem_filter, decide_eq_true_iff]
    exact ⟨fun hmem => ⟨hr.active.subset hmem, hmem⟩, fun hmem => hmem.2⟩
  exact (hsub.eq_of_length hperm.length_eq).symm

theorem Rows.perm_activeAfter (hr : Rows t) (hdealer : dealer ∈ t.seatsList) :
    (t.activeAfter dealer).Perm t.activePlayerList := by
  rw [activeAfter]
  refine ((Cyclic.after_perm hdealer).filter _).trans ?_
  rw [hr.filter_active]

theorem Rows.exists_pair (hr : Rows t) (hdealer : dealer ∈ t.seatsList) :
    ∃ it next rest, t.activeAfter dealer = it :: next :: rest ∧ it ∈ t.activePlayerList ∧ it ≠ next ∧
      Cyclic.next t.activePlayerList it = next := by
  have hperm := hr.perm_activeAfter hdealer
  have hlen := hr.two
  rw [← hperm.length_eq] at hlen
  match hlist : t.activeAfter dealer, hlen with
  | it :: next :: rest, _ =>
      have hnodup : (t.activeAfter dealer).Nodup := hperm.nodup_iff.mpr (hr.nodup.sublist hr.active)
      have hnext := Cyclic.next_filter_after hr.nodup hdealer hlist
      rw [hr.filter_active] at hnext
      refine ⟨it, next, rest, rfl, ?_, ?_, hnext⟩
      · rw [← hperm.mem_iff, hlist]
        exact List.mem_cons_self
      · rintro rfl
        rw [hlist] at hnodup
        simp at hnodup

theorem Rows.getLast_activeAfter (hactive : dealer ∈ t.activePlayerList) :
    (t.activeAfter dealer).getLast? = some dealer := by
  simp [activeAfter, Cyclic.after, hactive]

end Table

namespace Hand

open Table

variable {h h' : Hand} {dealer : Ref}

theorem getSeatIt_eq (hr : Rows h.toTable) (hdealer : dealer ∈ h.seatsList) (hid : h.uniqueID dealer = h.dealerPosition) :
    h.getSeatIt h.dealerPosition = some dealer := by
  obtain ⟨q, hq⟩ : ∃ q, h.getSeatIt h.dealerPosition = some q := findPlayer_isSome ⟨dealer, hdealer, hid⟩
  obtain ⟨hmem, hqid⟩ := findPlayer_some hq
  rw [hq, hr.eq_of_id hmem hdealer (hqid.trans hid.symm)]

/-- The iterator over the seats stops at the first active seat after the dealer. -/
theorem nextActivePlayer_eq (hr : Rows h.toTable) (hdealer : dealer ∈ h.seatsList) :
    h.nextActivePlayer dealer = (h.toTable.activeAfter dealer).head? := by
  rw [nextActivePlayer, activeAfter, ← List.head?_filterMap, ← List.filterMap_eq_filter]
  refine congrArg List.head? (List.filterMap_congr fun r hmem => ?_)
  have hseat : r ∈ h.seatsList := (Cyclic.mem_after hdealer).mp hmem
  rw [getActivePlayerIt, Option.guard]
  split_ifs with hactive
  · rw [decide_eq_true_iff] at hactive
    obtain ⟨q, hq⟩ : ∃ q, findPlayer h.players h.activePlayerList (h.uniqueID r) = some q :=
      findPlayer_isSome ⟨r, hactive, rfl⟩
    obtain ⟨hqmem, hqid⟩ := findPlayer_some hq
    rw [hq, hr.eq_of_id (hr.active.subset hqmem) hseat hqid]
  · rw [findPlayer, List.find?_eq_none]
    intro q hq hqid
    have heq := hr.eq_of_id (hr.active.subset hq) hseat (beq_iff_eq.mp hqid)
    subst heq
    exact hactive (decide_eq_true hq)

/-- The blinds that `h'` gives to the seats `sb` and `bb`, the button being at the seat `dealer`. -/
structure Blinds (h h' : Hand) (dealer sb bb : Ref) : Prop where
  small_mem : sb ∈ h.activePlayerList
  big_mem : bb ∈ h.activePlayerList
  ne : sb ≠ bb
  small : ∀ r ∈ h.seatsList, (h'.players r).myButton = .smallBlind ↔ r = sb
  big : ∀ r ∈ h.seatsList, (h'.players r).myButton = .bigBlind ↔ r = bb
  smallPosition : h'.smallBlindPosition = h.uniqueID sb
  bigPosition : h'.bigBlindPosition = h.uniqueID bb
  order : 2 < h.activePlayerList.length → ∃ rest, h.toTable.activeAfter dealer = sb :: bb :: rest
  headsUp : h.activePlayerList.length = 2 → h.toTable.activeAfter dealer = [bb, sb]

theorem Blinds.congr {h' k k' : Hand} {sb bb : Ref} (hb : Blinds h k dealer sb bb) (hseats : h'.seatsList = h.seatsList)
    (hactive : h'.activePlayerList = h.activePlayerList) (hid : ∀ r, h'.uniqueID r = h.uniqueID r)
    (hbutton : ∀ r, (k'.players r).myButton = (k.players r).myButton)
    (hsmall : k'.smallBlindPosition = k.smallBlindPosition) (hbig : k'.bigBlindPosition = k.bigBlindPosition) :
    Blinds h' k' dealer sb bb := by
  have hafter : h'.toTable.activeAfter dealer = h.toTable.activeAfter dealer := activeAfter_congr hseats hactive
  refine ⟨?_, ?_, hb.ne, ?_, ?_, ?_, ?_, ?_, ?_⟩
  · rw [hactive]
    exact hb.small_mem
  · rw [hactive]
    exact hb.big_mem
  · simpa only [hseats, hbutton] using hb.small
  · simpa only [hseats, hbutton] using hb.big
  · rw [hsmall, hid]
    exact hb.smallPosition
  · rw [hbig, hid]
    exact hb.bigPosition
  · rw [hactive, hafter]
    exact hb.order
  · rw [hactive, hafter]
    exact hb.headsUp

/-- The dealer of two active players posts the small blind, if he is one of them. -/
theorem Blinds.dealer_small {h' : Hand} {sb bb : Ref} (hb : Blinds h h' dealer sb bb)
    (htwo : h.activePlayerList.length = 2) (hactive : dealer ∈ h.activePlayerList) : dealer = sb := by
  have hlast := @Rows.getLast_activeAfter h.toTable dealer hactive
  rw [hb.headsUp htwo] at hlast
  simpa using hlast.symm

theorem assignButtons_eq (hr : Rows h.toTable) (hdealer : dealer ∈ h.seatsList) (hid : h.uniqueID dealer = h.dealerPosition) :
    ∃ it next rest, h.toTable.activeAfter dealer = it :: next :: rest ∧ it ∈ h.activePlayerList ∧ it ≠ next ∧
      Cyclic.next h.activePlayerList it = next ∧
      h.assignButtons = .ok ((h.clearButtons.setMyButton dealer .dealer).assignBlindButtons it) := by
  obtain ⟨it, next, rest, hafter, hit, hne, hnext⟩ := hr.exists_pair hdealer
  refine ⟨it, next, rest, hafter, hit, hne, hnext, ?_⟩
  have hids (r : Ref) : (h.clearButtons.setMyButton dealer .dealer).uniqueID r = h.uniqueID r := by
    have hb := (buttoned_clearButtons h).trans (buttoned_setMyButton _ dealer .dealer)
    have hplayer := congrArg Player.myUniqueID (hb.players r)
    exact hplayer
  have hrows : Rows (h.clearButtons.setMyButton dealer .dealer).toTable := hr.congr rfl rfl hids
  have hfirst := nextActivePlayer_eq hrows hdealer
  have hsame : (h.clearButtons.setMyButton dealer .dealer).toTable.activeAfter dealer = it :: next :: rest :=
    (activeAfter_congr rfl rfl).trans hafter
  rw [hsame] at hfirst
  simp only [assignButtons, getSeatIt_eq hr hdealer hid, hfirst, List.head?_cons]

theorem dealer_myButton (h : Hand) (dealer : Ref) {r : Ref} (hseat : r ∈ h.seatsList) {b : Button} (hnone : b ≠ .none)
    (hdeal : b ≠ .dealer) : ((h.clearButtons.setMyButton dealer .dealer).players r).myButton ≠ b := by
  rw [setMyButton_myButton]
  split_ifs
  · exact hdeal.symm
  · have hclear : (h.clearButtons.players r).myButton = .none := by
      simp [clearButtons, updateAll, hseat, Player.setMyButton]
    rw [hclear]
    exact hnone.symm

def blindPair (n : Nat) (it next : Ref) : Ref × Ref := if 2 < n then (it, next) else (next, it)

theorem blindButton_iff {n : Nat} {it next r : Ref} (hne : it ≠ next) :
    (blindButton n it next r = .smallBlind ↔ r = (blindPair n it next).1) ∧
      (blindButton n it next r = .bigBlind ↔ r = (blindPair n it next).2) := by
  simp only [blindButton, blindPair]
  by_cases hmany : 2 < n
  · by_cases hnext : r = next
    · subst hnext
      simp [hmany, hne.symm]
    · by_cases hit : r = it
      · simp [hmany, hit, hne]
      · simp [hmany, hnext, hit]
  · by_cases hnext : r = next
    · subst hnext
      simp [hmany, hne.symm]
    · by_cases hit : r = it
      · simp [hmany, hit, hne]
      · simp [hmany, hnext, hit]

theorem assignBlindButtons_position (h : Hand) (it : Ref) :
    (h.assignBlindButtons it).smallBlindPosition =
        h.uniqueID (blindPair h.activePlayerList.length it (Cyclic.next h.activePlayerList it)).1 ∧
      (h.assignBlindButtons it).bigBlindPosition =
        h.uniqueID (blindPair h.activePlayerList.length it (Cyclic.next h.activePlayerList it)).2 := by
  have hid (k : Hand) (q r : Ref) (b : Button) : (k.setMyButton q b).uniqueID r = k.uniqueID r := by
    have hplayer := congrArg Player.myUniqueID ((buttoned_setMyButton k q b).players r)
    exact hplayer
  simp only [assignBlindButtons, blindPair]
  split_ifs
  · exact ⟨(hid _ _ _ _).trans (hid h it _ _), (hid _ _ _ _).trans (hid h it _ _)⟩
  · exact ⟨(hid _ _ _ _).trans (hid h it _ _), (hid _ _ _ _).trans (hid h it _ _)⟩

/-- Buttons are given on all tables that have two active players and a seat for the dealer. -/
theorem assignButtons_blinds (hr : Rows h.toTable) (hdealer : dealer ∈ h.seatsList)
    (hid : h.uniqueID dealer = h.dealerPosition) : ∃ h' sb bb, h.assignButtons = .ok h' ∧ Blinds h h' dealer sb bb := by
  obtain ⟨it, next, rest, hafter, hit, hne, hnext, hrun⟩ := assignButtons_eq hr hdealer hid
  have hmem : next ∈ h.activePlayerList := hnext ▸ Cyclic.next_mem hit
  have hlen : h.activePlayerList.length = rest.length + 2 := by
    rw [← (hr.perm_activeAfter hdealer).length_eq, hafter]
    rfl
  have hnext' : Cyclic.next (h.clearButtons.setMyButton dealer .dealer).activePlayerList it = next := hnext
  have hids (r : Ref) : (h.clearButtons.setMyButton dealer .dealer).uniqueID r = h.uniqueID r := by
    have hb := (buttoned_clearButtons h).trans (buttoned_setMyButton _ dealer .dealer)
    have hplayer := congrArg Player.myUniqueID (hb.players r)
    exact hplayer
  have hbutton (b : Button) (hnone : b ≠ .none) (hdeal : b ≠ .dealer) (r : Ref) (hseat : r ∈ h.seatsList) :
      (((h.clearButtons.setMyButton dealer .dealer).assignBlindButtons it).players r).myButton = b ↔
        blindButton h.activePlayerList.length it next r = b := by
    rw [assignBlindButtons_myButton, hnext']
    split_ifs with hblind
    · rfl
    · rw [not_or] at hblind
      simp only [blindButton, if_neg hblind.1, if_neg hblind.2]
      exact ⟨fun hb => absurd hb (dealer_myButton h dealer hseat hnone hdeal), fun hb => absurd hb.symm hnone⟩
  obtain ⟨hsmall, hbig⟩ := assignBlindButtons_position (h.clearButtons.setMyButton dealer .dealer) it
  rw [hnext', hids] at hsmall hbig
  have hpair : (blindPair h.activePlayerList.length it next).1 ∈ h.activePlayerList ∧
      (blindPair h.activePlayerList.length it next).2 ∈ h.activePlayerList ∧
      (blindPair h.activePlayerList.length it next).1 ≠ (blindPair h.activePlayerList.length it next).2 := by
    rw [blindPair]
    split_ifs
    · exact ⟨hit, hmem, hne⟩
    · exact ⟨hmem, hit, hne.symm⟩
  refine ⟨_, (blindPair h.activePlayerList.length it next).1, (blindPair h.activePlayerList.length it next).2, hrun,
    hpair.1, hpair.2.1, hpair.2.2, fun r hseat => ?_, fun r hseat => ?_, hsmall, hbig, fun hmany => ⟨rest, ?_⟩,
    fun htwo => ?_⟩
  · exact (hbutton .smallBlind (by simp) (by simp) r hseat).trans (blindButton_iff hne).1
  · exact (hbutton .bigBlind (by simp) (by simp) r hseat).trans (blindButton_iff hne).2
  · rw [hafter, blindPair, if_pos hmany]
  · have hnil : rest = [] := List.length_eq_zero_iff.mp (by omega)
    rw [hafter, hnil, htwo, blindPair, if_neg (by decide)]

end Hand

namespace Game

open Table

variable {t : Table} {g g' : Game} {h h' : Hand} {dealer : Ref} {v : Nat → Nat} {elapsed : Int}

structure Dealing (g : Game) (t : Table) (dealer : Ref) : Prop where
  rows : Rows (clearTable t)
  seat : dealer ∈ t.seatsList
  id : t.uniqueID dealer = g.dealerPosition

theorem raiseBlinds_dealerPosition (elapsed : Int) (g : Game) :
    (raiseBlinds elapsed g).dealerPosition = g.dealerPosition := by
  simp only [raiseBlinds]
  split <;> split_ifs <;> rfl

theorem clearTable_uniqueID (t : Table) (r : Ref) : (clearTable t).uniqueID r = t.uniqueID r := by
  refine (RankedGame.updateAll_field (fun p => p.myUniqueID) ?_ r).trans
    (RankedGame.updateAll_field (fun p => p.myUniqueID) ?_ r)
  · exact fun _ => rfl
  · exact fun _ => rfl

theorem Dealing.rows_hand (hd : Dealing g t dealer) (hrun : g.initHand v elapsed t = .ok (g', h)) :
    Rows h.toTable ∧ dealer ∈ h.seatsList ∧ h.uniqueID dealer = h.dealerPosition := by
  obtain ⟨hactive, hseats, hdealer⟩ := Hand.initHand_lists hrun
  have hids := (RankedGame.initHand_table hrun).2
  refine ⟨hd.rows.congr hseats hactive fun r => (hids r).trans (clearTable_uniqueID t r).symm, hseats ▸ hd.seat, ?_⟩
  rw [hdealer, raiseBlinds_dealerPosition]
  exact (hids dealer).trans hd.id

/-- A new hand gives the blinds, and its game the button to the first active seat after the dealer. -/
theorem initHand_blinds (hd : Dealing g t dealer) (hrun : g.initHand v elapsed t = .ok (g', h)) :
    ∃ sb bb, Hand.Blinds h h dealer sb bb ∧
      ∀ s, (h.myBeRo s).smallBlindPositionId = h.smallBlindPosition ∧
        (h.myBeRo s).bigBlindPositionId = h.bigBlindPosition := by
  obtain ⟨hrows, hseat, hid⟩ := hd.rows_hand hrun
  obtain ⟨_, _, rfl, hcreate, _, _⟩ := Hand.initHand_cases hrun
  obtain ⟨k, hk, hh, hbeRo⟩ := Hand.create_cases hcreate
  obtain ⟨hb, -, -⟩ := Hand.assignButtons_spec hk
  have hseats : h.seatsList = k.seatsList := congrArg (fun h => h.seatsList) hh
  have hactive : h.activePlayerList = k.activePlayerList := congrArg (fun h => h.activePlayerList) hh
  have hdealer : h.dealerPosition = k.dealerPosition := congrArg (fun h => h.dealerPosition) hh
  have hplayers : h.players = k.setBlinds.players := congrArg (fun h => h.players) hh
  have hids (r : Ref) : h.uniqueID r = k.uniqueID r := by
    rw [Hand.uniqueID, hplayers]
    exact Hand.setBlinds_myUniqueID k r
  have hfirst (r : Ref) : k.uniqueID r =
      (Hand.firstHand v (clearTable t) (raiseBlinds elapsed { g with currentHandID := g.currentHandID + 1 }).dealerPosition
        (raiseBlinds elapsed { g with currentHandID := g.currentHandID + 1 }).currentSmallBlind).uniqueID r := by
    have hplayer := congrArg Player.myUniqueID (hb.players r)
    exact hplayer
  have hrows' := hrows.congr (hb.seatsList.symm.trans hseats.symm) (hb.activePlayerList.symm.trans hactive.symm)
    fun r => ((hids r).trans (hfirst r)).symm
  obtain ⟨k', sb, bb, hk', hblinds⟩ := Hand.assignButtons_blinds hrows' ((hseats.trans hb.seatsList) ▸ hseat)
    (((hids dealer).trans (hfirst dealer)).symm.trans (hid.trans (hdealer.trans hb.dealerPosition)))
  rw [hk] at hk'
  cases hk'
  have hbutton (r : Ref) : (h.players r).myButton = (k.players r).myButton := by
    rw [hplayers]
    exact Hand.setBlinds_myButton k r
  have hpos : h.smallBlindPosition = k.smallBlindPosition ∧ h.bigBlindPosition = k.bigBlindPosition :=
    ⟨congrArg (fun h => h.smallBlindPosition) hh, congrArg (fun h => h.bigBlindPosition) hh⟩
  have hall := hblinds.congr (hseats.trans hb.seatsList) (hactive.trans hb.activePlayerList)
    (fun r => (hids r).trans (hfirst r)) hbutton hpos.1 hpos.2
  refine ⟨sb, bb, hall, fun s => ?_⟩
  obtain ⟨small, hsmall, big, hbig, hsmallButton, hbigButton, hsmallId, hbigId⟩ := Hand.newBeRo_buttons (hbeRo s)
  have hsmallSeat : small ∈ h.seatsList := hrows.active.subset (hactive ▸ hsmall)
  have hbigSeat : big ∈ h.seatsList := hrows.active.subset (hactive ▸ hbig)
  have hmem (r : Ref) : k.setBlinds.uniqueID r = h.uniqueID r := by
    rw [Hand.uniqueID, Hand.uniqueID, hplayers]
  rw [← hplayers] at hsmallButton hbigButton
  rw [hsmallId, hbigId, hmem, hmem, hall.smallPosition, hall.bigPosition, (hall.small small hsmallSeat).mp hsmallButton,
    (hall.big big hbigSeat).mp hbigButton]
  exact ⟨rfl, rfl⟩

theorem initHand_dealerPosition (hd : Dealing g t dealer) (hrun : g.initHand v elapsed t = .ok (g', h)) :
    ∃ it rest, h.toTable.activeAfter dealer = it :: rest ∧ g'.dealerPosition = h.uniqueID it := by
  obtain ⟨hrows, hseat, hid⟩ := hd.rows_hand hrun
  obtain ⟨_, d, _, _, hnext, rfl⟩ := Hand.initHand_cases hrun
  obtain ⟨it, next, rest, hafter, _⟩ := hrows.exists_pair hseat
  refine ⟨it, next :: rest, hafter, ?_⟩
  simp only [nextDealer, Hand.getSeatIt_eq hrows hseat hid, Hand.nextActivePlayer_eq hrows hseat, hafter,
    List.head?_cons] at hnext
  exact (Except.ok.inj hnext).symm

theorem Dealing.isOk (hd : Dealing g t dealer) (hdeck : (clearTable t).activePlayerList.length ≤ 23) (v : Nat → Nat)
    (elapsed : Int) : ∃ g' h, g.initHand v elapsed t = .ok (g', h) := by
  apply initHand_isOk_of_clear
  refine ⟨⟨dealer, hd.seat, (clearTable_uniqueID t dealer).trans hd.id⟩, hd.rows.nodup.sublist hd.rows.active,
    fun r hr => hd.rows.active.subset hr, hd.rows.two, hdeck, fun r hr => ?_⟩
  have hcash : ((clearTable t).players r).myCash = (t.players r).myCash := by
    refine (RankedGame.updateAll_field (fun p => p.myCash) ?_ r).trans
      (RankedGame.updateAll_field (fun p => p.myCash) ?_ r)
    · exact fun _ => rfl
    · exact fun _ => rfl
  rw [hcash]
  rw [Hand.clearTable_activePlayerList, List.mem_filter] at hr
  exact bne_iff_ne.mp hr.2

/-- Hands that are dealt one after the other to the players who are at the table `t₀`. -/
inductive Lasting (t₀ : Table) : Game → List Hand → Prop
  | none (g : Game) : Lasting t₀ g []
  | hand {g g' : Game} {t : Table} {h : Hand} {hands : List Hand} {v : Nat → Nat} {elapsed : Int}
      (hseats : t.seatsList = t₀.seatsList) (hids : ∀ r, t.uniqueID r = t₀.uniqueID r)
      (hactive : (clearTable t).activePlayerList = (clearTable t₀).activePlayerList)
      (hrun : g.initHand v elapsed t = .ok (g', h)) (hrest : Lasting t₀ g' hands) : Lasting t₀ g (h :: hands)

def Swapped (h k : Hand) : Prop :=
  k.bigBlindPosition = h.smallBlindPosition ∧ k.smallBlindPosition = h.bigBlindPosition ∧
    k.bigBlindPosition ≠ h.bigBlindPosition

theorem Dealing.same {t₀ : Table} (hd : Dealing g t₀ dealer) (hseats : t.seatsList = t₀.seatsList)
    (hids : ∀ r, t.uniqueID r = t₀.uniqueID r)
    (hactive : (clearTable t).activePlayerList = (clearTable t₀).activePlayerList) : Dealing g t dealer where
  rows := hd.rows.congr hseats hactive fun r => by rw [clearTable_uniqueID, clearTable_uniqueID, hids]
  seat := hseats ▸ hd.seat
  id := (hids dealer).trans hd.id

/-- Two hands in a row of the same two players. The big blind of the first is the dealer of the second. -/
theorem swapped {k : Hand} {sb bb sb' bb' : Ref} (hr : Rows h.toTable) (htwo : h.activePlayerList.length = 2)
    (hactive : k.activePlayerList = h.activePlayerList) (hid : ∀ r, k.uniqueID r = h.uniqueID r)
    (hh : Hand.Blinds h h dealer sb bb) (hk : Hand.Blinds k k bb sb' bb') : Swapped h k := by
  have hsmall : bb = sb' := hk.dealer_small (hactive ▸ htwo) (hactive ▸ hh.big_mem)
  subst hsmall
  have hbig : bb' = sb := by
    obtain ⟨x, y, hxy⟩ := List.length_eq_two.mp htwo
    have h1 := hh.small_mem
    have h2 := hh.big_mem
    have h3 := hk.big_mem
    have hne := hh.ne
    have hne' := hk.ne
    rw [hactive] at h3
    rw [hxy] at h1 h2 h3
    simp only [List.mem_cons, List.not_mem_nil, or_false] at h1 h2 h3
    grind
  subst hbig
  refine ⟨?_, ?_, ?_⟩
  · rw [hk.bigPosition, hh.smallPosition, hid]
  · rw [hk.smallPosition, hh.bigPosition, hid]
  · rw [hk.bigPosition, hh.bigPosition, hid]
    exact fun he => hh.ne (hr.eq_of_id (hr.active.subset hh.small_mem) (hr.active.subset hh.big_mem) he)

theorem Lasting.swapped {t₀ : Table} {hands : List Hand} (hd : Dealing g t₀ dealer)
    (htwo : (clearTable t₀).activePlayerList.length = 2) (hl : Lasting t₀ g hands) :
    hands.IsChain Swapped ∧ ∀ k ∈ hands.head?, k.activePlayerList = (clearTable t₀).activePlayerList ∧
      (∀ r, k.uniqueID r = t₀.uniqueID r) ∧ ∃ sb bb, Hand.Blinds k k dealer sb bb := by
  induction hl generalizing dealer with
  | none => exact ⟨.nil, by simp⟩
  | @hand g g' t h hands v elapsed hseats hids hactive hrun hrest ih =>
      have hd' := hd.same hseats hids hactive
      obtain ⟨hrows, -, -⟩ := hd'.rows_hand hrun
      obtain ⟨sb, bb, hblinds, -⟩ := initHand_blinds hd' hrun
      obtain ⟨it, rest, hafter, hdealer⟩ := initHand_dealerPosition hd' hrun
      have hlist : h.activePlayerList = (clearTable t₀).activePlayerList := (Hand.initHand_lists hrun).1.trans hactive
      have hid (r : Ref) : h.uniqueID r = t₀.uniqueID r := ((RankedGame.initHand_table hrun).2 r).trans (hids r)
      have hlen : h.activePlayerList.length = 2 := by rw [hlist, htwo]
      have hit : it = bb := by
        rw [hblinds.headsUp hlen] at hafter
        exact (List.cons.inj hafter).1.symm
      subst hit
      have hnext : Dealing g' t₀ it := by
        refine ⟨hd.rows, ?_, ?_⟩
        · rw [← hseats, ← (Hand.initHand_lists hrun).2.1]
          exact hrows.active.subset hblinds.big_mem
        · rw [hdealer, hid]
      obtain ⟨hchain, hhead⟩ := ih hnext
      refine ⟨List.isChain_cons.mpr ⟨fun k hk => ?_, hchain⟩, ?_⟩
      · obtain ⟨hklist, hkid, sb', bb', hkblinds⟩ := hhead k hk
        exact Game.swapped hrows hlen (hklist.trans hlist.symm) (fun r => (hkid r).trans (hid r).symm) hblinds hkblinds
      · intro k hk
        rw [List.head?_cons, Option.mem_some_iff] at hk
        subst hk
        exact ⟨hlist, hid, sb, it, hblinds⟩

/-- The buttons of a hand, the dealer of the next one, and the blinds of two players over any number of hands. -/
theorem buttons_rotate :
    (∀ (h : Hand) (dealer : Ref), Rows h.toTable → dealer ∈ h.seatsList → h.uniqueID dealer = h.dealerPosition →
      ∃ h' sb bb, h.assignButtons = .ok h' ∧ Hand.Blinds h h' dealer sb bb ∧
        (h.activePlayerList.length = 2 → dealer ∈ h.activePlayerList → dealer = sb)) ∧
    (∀ (g : Game) (t : Table) (dealer : Ref) (v : Nat → Nat) (elapsed : Int), Dealing g t dealer →
      ((clearTable t).activePlayerList.length ≤ 23 → ∃ g' h, g.initHand v elapsed t = .ok (g', h)) ∧
      ∀ g' h, g.initHand v elapsed t = .ok (g', h) →
        (∃ sb bb, Hand.Blinds h h dealer sb bb ∧
          ∀ s, (h.myBeRo s).smallBlindPositionId = h.smallBlindPosition ∧
            (h.myBeRo s).bigBlindPositionId = h.bigBlindPosition) ∧
        ∃ it rest, h.toTable.activeAfter dealer = it :: rest ∧ g'.dealerPosition = h.uniqueID it) ∧
    ∀ (g : Game) (t : Table) (dealer : Ref) (hands : List Hand), Dealing g t dealer →
      (clearTable t).activePlayerList.length = 2 → Lasting t g hands → hands.IsChain Swapped := by
  refine ⟨fun h dealer hr hdealer hid => ?_, fun g t dealer v elapsed hd => ?_, fun g t dealer hands hd htwo hl => ?_⟩
  · obtain ⟨h', sb, bb, hrun, hblinds⟩ := Hand.assignButtons_blinds hr hdealer hid
    exact ⟨h', sb, bb, hrun, hblinds, hblinds.dealer_small⟩
  · exact ⟨fun hdeck => hd.isOk hdeck v elapsed,
      fun g' h hrun => ⟨initHand_blinds hd hrun, initHand_dealerPosition hd hrun⟩⟩
  · exact (hl.swapped hd htwo).1

/-- Two hands of two players. -/
theorem buttons_rotate_twoSeats :
    ∃ h k, Lasting twoSeatsTable (twoSeatsGame (everyHand 1 .doubleBlinds [])) [h, k] ∧ Swapped h k := by
  have hd : Dealing (twoSeatsGame (everyHand 1 .doubleBlinds [])) twoSeatsTable 0 :=
    ⟨⟨by decide, by decide, by decide⟩, by decide, by decide⟩
  obtain ⟨g, h, hrun⟩ := (buttons_rotate.2.1 _ _ _ (fun _ => 0) 0 hd).1 (by decide)
  obtain ⟨it, rest, hafter, hdealer⟩ := ((buttons_rotate.2.1 _ _ _ (fun _ => 0) 0 hd).2 g h hrun).2
  have hnext : Dealing g twoSeatsTable it := by
    have hit : it ∈ h.toTable.activeAfter 0 := by
      rw [hafter]
      exact List.mem_cons_self
    rw [activeAfter, List.mem_filter, decide_eq_true_iff, (Hand.initHand_lists hrun).1] at hit
    refine ⟨hd.rows, hd.rows.active.subset hit.2, ?_⟩
    rw [hdealer]
    exact ((RankedGame.initHand_table hrun).2 it).symm
  obtain ⟨g', k, hrun'⟩ := (buttons_rotate.2.1 _ _ _ (fun _ => 0) 0 hnext).1 (by decide)
  have hl : Lasting twoSeatsTable (twoSeatsGame (everyHand 1 .doubleBlinds [])) [h, k] :=
    .hand rfl (fun _ => rfl) rfl hrun (.hand rfl (fun _ => rfl) rfl hrun' (.none g'))
  have hchain := buttons_rotate.2.2 _ _ 0 _ hd (by decide) hl
  exact ⟨h, k, hl, (List.isChain_cons_cons.mp hchain).1⟩

end Game

end PokerTH
