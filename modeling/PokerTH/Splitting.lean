import Mathlib.Data.Nat.ModEq
import PokerTH.Distribute
import PokerTH.SidePots

namespace PokerTH.Board

open PokerTH.Lists SidePots

variable {players players' : Players} {seatsList : List Ref} {maxPlayers dealerPosition : Nat} {ids : List Nat}

theorem isWinner_gain (players : Players) (seatsList : List Ref) (won : Ref → Int) (ids : List Nat) (pos : Nat) :
    isWinner (fun r => gain (players r) (won r)) seatsList ids pos = isWinner players seatsList ids pos := rfl

theorem payEqual_splits (share : Nat) (ws : List Ref) (winners : List Nat) (hids : DistinctIDs seatsList players)
    (hnodup : ws.Nodup) (hws : ∀ r ∈ ws, r ∈ seatsList ∧ contender (players r))
    (hmap : ids = ws.map fun r => (players r).myUniqueID) :
    ∃ winners', payEqual seatsList share ids players winners =
      .ok (fun r => gain (players r) (if r ∈ ws then share else 0), winners') := by
  induction ws generalizing ids players winners with
  | nil =>
      refine ⟨winners, ?_⟩
      rw [hmap]
      simp [payEqual, gain_zero]
  | cons r ws ih =>
      obtain ⟨hr, hws'⟩ := List.nodup_cons.mp hnodup
      obtain ⟨hseat, hc⟩ := hws r List.mem_cons_self
      have hfind : seatsList.find? (fun s => (players s).myUniqueID == (players r).myUniqueID) = some r := by
        obtain ⟨s, hs, _, hfind⟩ := winnerID_find hids ⟨r, hseat, hc, rfl⟩
        have hsid : (players s).myUniqueID = (players r).myUniqueID := by
          simpa using List.find?_some hfind
        rwa [hids.eq_of_id r hseat (contender_active hc) s hs hsid] at hfind
      have haward := award_eq_gain players r share
      obtain ⟨winners', hrun⟩ := @ih (award players r share) (ws.map fun r => (players r).myUniqueID)
        (winners ++ [(players r).myUniqueID]) (by rw [haward]; exact ⟨hids.nodup, hids.eq_of_id⟩) hws'
        (by rw [haward]; exact fun s hs => hws s (List.mem_cons_of_mem r hs)) (by rw [haward]; rfl)
      refine ⟨winners', ?_⟩
      rw [hmap, List.map_cons]
      simp only [payEqual, hfind]
      rw [hrun, haward]
      simp only [gain_gain]
      congr 3
      funext s
      by_cases hsr : s = r
      · subst hsr
        simp [hr]
      · simp [hsr]

def ahead (n pos d : Nat) : List Nat := (List.range d).map fun k => (pos + 1 + k) % n

theorem ahead_split (n pos e d : Nat) :
    ahead n pos (e + 1 + d) = ahead n pos e ++ (pos + 1 + e) % n :: ahead n ((pos + 1 + e) % n) d := by
  have htail (k : Nat) : (pos + 1 + (e + 1 + k)) % n = ((pos + 1 + e) % n + 1 + k) % n := by
    rw [add_assoc ((pos + 1 + e) % n) 1 k, Nat.mod_add_mod]
    congr 1
    omega
  simp only [ahead, List.range_add, List.map_append, List.map_map, List.range_one, List.map_cons,
    List.map_nil, List.append_assoc, List.singleton_append, Nat.add_zero]
  congr 2
  apply List.map_congr_left
  intro k _
  exact htail k

theorem ahead_nodup {n d : Nat} (pos : Nat) (hd : d ≤ n) : (ahead n pos d).Nodup := by
  apply List.Nodup.map_on _ List.nodup_range
  intro j hj k hk heq
  rw [List.mem_range] at hj hk
  have hmod : j ≡ k [MOD n] := Nat.ModEq.add_left_cancel' (pos + 1) heq
  exact hmod.eq_of_lt_of_lt (by omega) (by omega)

theorem ahead_perm {n pos : Nat} (hn : 0 < n) : (ahead n pos n).Perm (List.range n) := by
  apply (List.subperm_of_subset (ahead_nodup _ (le_refl n)) _).perm_of_length_le
  · simp [ahead]
  · intro q hq
    obtain ⟨k, _, rfl⟩ := List.mem_map.mp hq
    exact List.mem_range.mpr (Nat.mod_lt _ hn)

theorem walkToWinner_first (fuel pos e : Nat) (hpos : pos < seatsList.length) (he : e < fuel)
    (hwin : isWinner players seatsList ids ((pos + 1 + e) % seatsList.length))
    (hno : ∀ q ∈ ahead seatsList.length pos e, ¬ isWinner players seatsList ids q) :
    walkToWinner players seatsList ids fuel pos = ((pos + 1 + e) % seatsList.length, true) := by
  induction e generalizing fuel pos with
  | zero =>
      obtain ⟨fuel, rfl⟩ : ∃ k, fuel = k + 1 := ⟨fuel - 1, by omega⟩
      rw [Nat.add_zero] at hwin ⊢
      simp only [walkToWinner, nextSeat_eq_mod hpos, hwin, if_true]
  | succ e ih =>
      obtain ⟨fuel, rfl⟩ : ∃ k, fuel = k + 1 := ⟨fuel - 1, by omega⟩
      have hsplit := ahead_split seatsList.length pos 0 e
      have hstep : ((pos + 1) % seatsList.length + 1 + e) % seatsList.length =
          (pos + 1 + (e + 1)) % seatsList.length := by
        rw [add_assoc ((pos + 1) % seatsList.length) 1 e, Nat.mod_add_mod]
        congr 1
        omega
      simp only [Nat.zero_add, Nat.add_comm 1 e, Nat.add_zero] at hsplit
      have hfirst : ¬ isWinner players seatsList ids ((pos + 1) % seatsList.length) := by
        apply hno
        rw [hsplit]
        exact List.mem_append_right _ List.mem_cons_self
      simp only [walkToWinner, nextSeat_eq_mod hpos, hfirst, Bool.false_eq_true, if_false]
      rw [ih fuel _ (Nat.mod_lt _ (by omega)) (by omega) (hstep ▸ hwin), hstep]
      intro q hq
      apply hno
      rw [hsplit]
      exact List.mem_append_right _ (List.mem_cons_of_mem _ hq)

theorem exists_first {n pos d : Nat} {p : Nat → Bool} (h : 0 < (ahead n pos d).countP p) :
    ∃ e d', d = e + 1 + d' ∧ p ((pos + 1 + e) % n) ∧ ∀ q ∈ ahead n pos e, ¬ p q := by
  have hex : ∃ k, k < d ∧ p ((pos + 1 + k) % n) := by
    obtain ⟨q, hq, hp⟩ := List.countP_pos_iff.mp h
    obtain ⟨k, hk, rfl⟩ := List.mem_map.mp hq
    exact ⟨k, List.mem_range.mp hk, hp⟩
  obtain ⟨he, hp⟩ := Nat.find_spec hex
  refine ⟨Nat.find hex, d - Nat.find hex - 1, by omega, hp, fun q hq hpq => ?_⟩
  obtain ⟨k, hk, rfl⟩ := List.mem_map.mp hq
  have hlt := List.mem_range.mp hk
  exact Nat.find_min hex hlt ⟨by omega, hpq⟩

/-- Each of the next `todo` winners is paid once, the first `mod` of them one chip more. -/
theorem payOddChips_splits (hmax : seatsList.length ≤ maxPlayers) (hnodup : seatsList.Nodup)
    (share mod : Nat) (ids : List Nat) (todo j pos d : Nat) (winners : List Nat)
    (hpos : pos < seatsList.length) (hd : d ≤ seatsList.length)
    (htodo : ((ahead seatsList.length pos d).countP (isWinner players seatsList ids)) = todo) :
    ∃ (won : Ref → Int) (winners' : List Nat), payOddChips seatsList maxPlayers share mod ids todo j pos players winners =
        (fun r => gain (players r) (won r), winners') ∧
      (∀ q ∈ ahead seatsList.length pos d, isWinner players seatsList ids q → ∀ r, seatsList[q]? = some r →
        won r = share ∨ 0 < mod ∧ won r = share + 1) ∧
      ∀ r, won r ≠ 0 → ∃ q ∈ ahead seatsList.length pos d,
        isWinner players seatsList ids q ∧ seatsList[q]? = some r := by
  induction todo generalizing j pos d players winners with
  | zero =>
      refine ⟨fun _ => 0, winners, ?_, fun q hq hwin => ?_, fun r hr => absurd rfl hr⟩
      · simp [payOddChips, gain_zero]
      · exact absurd hwin (List.countP_eq_zero.mp htodo q hq)
  | succ todo ih =>
      have hsome : 0 < (ahead seatsList.length pos d).countP (isWinner players seatsList ids) := by omega
      obtain ⟨e, d', rfl, hwin, hno⟩ := exists_first hsome
      have hwalk := walkToWinner_first maxPlayers pos e hpos (by omega) hwin hno
      have hdistinct := ahead_nodup pos hd
      rw [ahead_split] at htodo hdistinct ⊢
      rw [List.countP_append, List.countP_eq_zero.mpr hno, List.countP_cons_of_pos hwin] at htodo
      have hq : (pos + 1 + e) % seatsList.length < seatsList.length := Nat.mod_lt _ (by omega)
      generalize (pos + 1 + e) % seatsList.length = q at *
      have hget : seatsList[q]? = some seatsList[q] := List.getElem?_eq_getElem hq
      generalize seatsList[q] = r at *
      obtain ⟨won, winners', hrun, hpaid, hothers⟩ := @ih
        (award players r (share + if j < mod then 1 else 0)) (j + 1) q d' (winners ++ [(players r).myUniqueID])
        hq (by omega) (by rw [award_eq_gain, funext (isWinner_gain players seatsList _ ids)]; omega)
      rw [award_eq_gain, funext (isWinner_gain players seatsList _ ids)] at hpaid hothers
      have hnew : won r = 0 := by
        by_contra hne
        obtain ⟨q', hq', _, hget'⟩ := hothers r hne
        have heq : q' = q := (List.getElem?_inj hq hnodup).mp (hget.trans hget'.symm) |>.symm
        exact (List.nodup_cons.mp (List.nodup_append.mp hdistinct).2.1).1 (heq ▸ hq')
      refine ⟨fun s => (if s = r then (share : Int) + (if j < mod then 1 else 0) else 0) + won s, winners',
        ?_, fun q' hq' hwin' s hs => ?_, fun s hs => ?_⟩
      · simp only [payOddChips, hwalk, hget]
        rw [hrun, award_eq_gain]
        simp only [gain_gain]
      · rcases List.mem_append.mp hq' with hbefore | hcons
        · exact absurd hwin' (hno q' hbefore)
        rcases List.mem_cons.mp hcons with rfl | htail
        · obtain rfl : r = s := Option.some_inj.mp (hget.symm.trans hs)
          dsimp only
          rw [if_pos rfl, hnew, add_zero]
          by_cases hj : j < mod
          · rw [if_pos hj]
            exact .inr ⟨by omega, rfl⟩
          · rw [if_neg hj, add_zero]
            exact .inl rfl
        · have hne : s ≠ r := by
            rintro rfl
            have heq := (List.getElem?_inj hq hnodup).mp (hget.trans hs.symm)
            exact (List.nodup_cons.mp (List.nodup_append.mp hdistinct).2.1).1 (heq ▸ htail)
          dsimp only
          rw [if_neg hne, zero_add]
          exact hpaid q' htail hwin' s hs
      · by_cases hsr : s = r
        · subst hsr
          exact ⟨q, List.mem_append_right _ List.mem_cons_self, hwin, hget⟩
        · dsimp only at hs
          rw [if_neg hsr, zero_add] at hs
          obtain ⟨q', hq', hwin', hget'⟩ := hothers s hs
          exact ⟨q', List.mem_append_right _ (List.mem_cons_of_mem q hq'), hwin', hget'⟩

theorem countP_isWinner (seatsList : List Ref) (players : Players) (ids : List Nat) :
    (List.range seatsList.length).countP (isWinner players seatsList ids) =
      seatsList.countP fun r => (players r).myActiveStatus && ids.contains (players r).myUniqueID := by
  have hseats : (List.range seatsList.length).map (fun pos => seatsList[pos]?) = seatsList.map some := by
    apply List.ext_getElem
    · simp
    · intro i _ _
      simp
  have hmap := congrArg
    (List.countP fun o => o.any fun r => (players r).myActiveStatus && ids.contains (players r).myUniqueID) hseats
  rwa [List.countP_map, List.countP_map] at hmap

theorem payWinners_splits (hmax : seatsList.length ≤ maxPlayers) (levelSum : Nat) {ws : List Ref}
    (hws : ws.Sublist seatsList) (hc : ∀ r ∈ ws, contender (players r)) (winners : List Nat)
    (hids : DistinctIDs seatsList players) (hdealer : ∃ r ∈ seatsList, (players r).myUniqueID = dealerPosition) :
    ∃ won winners', payWinners seatsList maxPlayers dealerPosition levelSum
        (ws.map fun r => (players r).myUniqueID) players winners =
        .ok (fun r => gain (players r) (won r), winners') ∧ Split ws levelSum won := by
  have hnodup : ws.Nodup := hids.nodup.sublist hws
  by_cases hmod : levelSum % ws.length = 0
  · obtain ⟨winners', hrun⟩ := payEqual_splits (levelSum / ws.length) ws winners hids hnodup
      (fun r hr => ⟨hws.subset hr, hc r hr⟩) rfl
    refine ⟨fun r => if r ∈ ws then (levelSum / ws.length : Nat) else 0, winners', ?_, ?_⟩
    · simp only [payWinners, List.length_map, hmod, if_true, hrun]
    · exact ⟨fun r hr => if_neg hr, fun r hr => .inl (if_pos hr)⟩
  · obtain ⟨r, hr, hrid⟩ := hdealer
    cases hf : seatsList.findIdx? (fun r => (players r).myUniqueID == dealerPosition) with
    | none =>
        have hn := List.findIdx?_eq_none_iff.mp hf r hr
        simp [hrid] at hn
    | some pos =>
        have hpos : pos < seatsList.length := (List.findIdx?_eq_some_iff_getElem.mp hf).1
        have hmem : ∀ s ∈ seatsList, ((players s).myActiveStatus = true ∧
            (players s).myUniqueID ∈ ws.map fun r => (players r).myUniqueID) ↔ s ∈ ws := by
          intro s hs
          constructor
          · rintro ⟨_, hid⟩
            obtain ⟨w, hw, heq⟩ := List.mem_map.mp hid
            rwa [hids.eq_of_id w (hws.subset hw) (contender_active (hc w hw)) s hs heq.symm]
          · exact fun hw => ⟨contender_active (hc s hw), List.mem_map_of_mem hw⟩
        have hcount : (ahead seatsList.length pos seatsList.length).countP
            (isWinner players seatsList (ws.map fun r => (players r).myUniqueID)) = ws.length := by
          have hlen : ws.length = seatsList.countP fun s => decide (s ∈ ws) := by
            rw [List.countP_eq_length_filter, filter_mem_of_sublist hws hids.nodup]
          rw [(ahead_perm (by omega)).countP_eq, countP_isWinner, hlen]
          apply List.countP_congr
          intro s hs
          simpa using hmem s hs
        obtain ⟨won, winners', hrun, hpaid, hothers⟩ := @payOddChips_splits players _ _ hmax hids.nodup
          (levelSum / ws.length) (levelSum % ws.length) _ ws.length 0 pos seatsList.length winners hpos
          (le_refl _) hcount
        refine ⟨won, winners', ?_, ⟨fun s hs => ?_, fun s hs => ?_⟩⟩
        · simp only [payWinners, List.length_map, hmod, if_false, hf, hrun]
        · by_contra hwon
          obtain ⟨q, _, hwin, hget⟩ := hothers s hwon
          refine hs ((hmem s (List.mem_of_getElem? hget)).mp ?_)
          simpa [isWinner, hget] using hwin
        · obtain ⟨q, hq, hget⟩ := List.getElem_of_mem (hws.subset hs)
          have hget' : seatsList[q]? = some s := hget ▸ List.getElem?_eq_getElem hq
          have hwin : isWinner players seatsList (ws.map fun r => (players r).myUniqueID) q := by
            simpa [isWinner, hget'] using (hmem s (hws.subset hs)).mpr hs
          have hahead : q ∈ ahead seatsList.length pos seatsList.length :=
            (ahead_perm (by omega)).mem_iff.mpr (List.mem_range.mpr hq)
          exact (hpaid q hahead hwin s hget').imp_right fun h => ⟨h.1.ne', h.2⟩

end PokerTH.Board
