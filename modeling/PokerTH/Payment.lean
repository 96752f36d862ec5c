import PokerTH.Board
import Mathlib.Tactic.Linarith
import Mathlib.Tactic.Ring

namespace PokerTH.Board

open PokerTH.Lists

variable {players players' players'' : Players} {seatsList : List Ref}

def gain (p : Player) (a : Int) : Player :=
  { p with myCash := p.myCash + a, lastMoneyWon := p.lastMoneyWon + a }

/-- `players'` is `players` after contenders in the seats have won `amount` chips together. -/
def Paid (seatsList : List Ref) (amount : Int) (players players' : Players) : Prop :=
  ∃ won : Ref → Int, (∀ r, 0 ≤ won r) ∧ (∀ r, won r ≠ 0 → r ∈ seatsList ∧ contender (players r)) ∧
    (seatsList.map won).sum = amount ∧ players' = fun r => gain (players r) (won r)

/-- An id the award loops may look up: it belongs to a contender on a seat. -/
def WinnerID (seatsList : List Ref) (players : Players) (id : Nat) : Prop :=
  ∃ r ∈ seatsList, contender (players r) ∧ (players r).myUniqueID = id

/-- No other seat has the id of an active one. Empty seats may share an id. -/
structure DistinctIDs (seatsList : List Ref) (players : Players) : Prop where
  nodup : seatsList.Nodup
  eq_of_id : ∀ r ∈ seatsList, (players r).myActiveStatus → ∀ s ∈ seatsList,
    (players s).myUniqueID = (players r).myUniqueID → s = r

theorem gain_zero (p : Player) : gain p 0 = p := by
  simp [gain]

theorem gain_gain (p : Player) (a b : Int) : gain (gain p a) b = gain p (a + b) := by
  simp [gain, add_assoc]

@[simp] theorem gain_myUniqueID (p : Player) (a : Int) : (gain p a).myUniqueID = p.myUniqueID := rfl

@[simp] theorem gain_myActiveStatus (p : Player) (a : Int) :
    (gain p a).myActiveStatus = p.myActiveStatus := rfl

@[simp] theorem gain_myCardsValueInt (p : Player) (a : Int) :
    (gain p a).myCardsValueInt = p.myCardsValueInt := rfl

@[simp] theorem contender_gain (p : Player) (a : Int) : contender (gain p a) = contender p := rfl

theorem award_eq_gain (players : Players) (r : Ref) (a : Int) :
    award players r a = fun q => gain (players q) (if q = r then a else 0) := by
  funext q
  by_cases h : q = r
  · subst h
    simp [award, gain]
  · simp [award, h, gain_zero]

theorem paid_refl (seatsList : List Ref) (players : Players) : Paid seatsList 0 players players := by
  refine ⟨fun _ => 0, fun _ => le_refl 0, fun _ h => absurd rfl h, sum_map_zero fun _ _ => rfl, ?_⟩
  funext r
  rw [gain_zero]

theorem Paid.trans {a b : Int} (h : Paid seatsList a players players')
    (h' : Paid seatsList b players' players'') : Paid seatsList (a + b) players players'' := by
  obtain ⟨won, hnonneg, hwon, hsum, rfl⟩ := h
  obtain ⟨won', hnonneg', hwon', hsum', rfl⟩ := h'
  refine ⟨fun r => won r + won' r, fun r => add_nonneg (hnonneg r) (hnonneg' r), ?_, ?_, ?_⟩
  · intro r hr
    by_cases h : won r = 0
    · exact hwon' r (by simpa [h] using hr)
    · exact hwon r h
  · rw [sum_map_add, hsum, hsum']
  · funext r
    rw [gain_gain]

theorem paid_award (hseats : seatsList.Nodup) {r : Ref} (hr : r ∈ seatsList)
    (hc : contender (players r)) {a : Int} (ha : 0 ≤ a) :
    Paid seatsList a players (award players r a) := by
  refine ⟨fun q => if q = r then a else 0, ?_, ?_, sum_map_single hseats hr a, award_eq_gain players r a⟩
  · intro q
    dsimp only
    split_ifs
    · exact ha
    · exact le_refl 0
  · intro q hq
    have hqr : q = r := by
      by_contra h
      simp [h] at hq
    subst hqr
    exact ⟨hr, hc⟩

theorem Paid.winnerID {a : Int} (h : Paid seatsList a players players') {id : Nat}
    (hid : WinnerID seatsList players id) : WinnerID seatsList players' id := by
  obtain ⟨won, _, _, _, rfl⟩ := h
  exact hid

theorem Paid.distinctIDs {a : Int} (h : Paid seatsList a players players')
    (hids : DistinctIDs seatsList players) : DistinctIDs seatsList players' := by
  obtain ⟨won, _, _, _, rfl⟩ := h
  exact ⟨hids.nodup, hids.eq_of_id⟩

theorem contender_active {p : Player} (h : contender p) : p.myActiveStatus := by
  simp only [contender, Bool.and_eq_true] at h
  exact h.1

theorem distinctIDs_of_nodup (h : (seatsList.map fun r => (players r).myUniqueID).Nodup) :
    DistinctIDs seatsList players :=
  ⟨h.of_map _, fun _ hr _ _ hs heq => List.inj_on_of_nodup_map h hs hr heq⟩

theorem winnerID_find (hids : DistinctIDs seatsList players) {id : Nat}
    (hid : WinnerID seatsList players id) :
    ∃ r ∈ seatsList, contender (players r) ∧
      seatsList.find? (fun r => (players r).myUniqueID == id) = some r := by
  obtain ⟨r, hr, hc, rfl⟩ := hid
  cases hf : seatsList.find? (fun s => (players s).myUniqueID == (players r).myUniqueID) with
  | none =>
      have hn := List.find?_eq_none.mp hf r hr
      simp at hn
  | some s =>
      have hs := List.mem_of_find?_eq_some hf
      have hsid : (players s).myUniqueID = (players r).myUniqueID := by
        simpa using List.find?_some hf
      rw [hids.eq_of_id r hr (contender_active hc) s hs hsid]
      exact ⟨r, hr, hc, rfl⟩

theorem payEqual_spec (share : Nat) (ids : List Nat) (winners : List Nat)
    (hids : DistinctIDs seatsList players) (hw : ∀ id ∈ ids, WinnerID seatsList players id) :
    ∃ players' winners', payEqual seatsList share ids players winners = .ok (players', winners') ∧
      Paid seatsList (ids.length * share : Int) players players' := by
  induction ids generalizing players winners with
  | nil => exact ⟨players, winners, rfl, by simpa using paid_refl seatsList players⟩
  | cons id ids ih =>
      obtain ⟨r, hr, hc, hfind⟩ := winnerID_find hids (hw id (by simp))
      have hpaid := paid_award hids.nodup hr hc (Int.natCast_nonneg share)
      obtain ⟨players', winners', hrun, hpaid'⟩ := ih (winners ++ [(players r).myUniqueID])
        (hpaid.distinctIDs hids) (fun id hid => hpaid.winnerID (hw id (by simp [hid])))
      refine ⟨players', winners', ?_, ?_⟩
      · simpa only [payEqual, hfind] using hrun
      · have htotal := hpaid.trans hpaid'
        have hlen : (share : Int) + ids.length * share = (id :: ids).length * share := by
          push_cast [List.length_cons]
          ring
        rwa [hlen] at htotal

theorem nextSeat_eq_mod {pos : Nat} (h : pos < seatsList.length) :
    nextSeat seatsList pos = (pos + 1) % seatsList.length := by
  simp only [nextSeat]
  split_ifs with he
  · rw [he, Nat.mod_self]
  · rw [Nat.mod_eq_of_lt (by omega)]

theorem nextSeat_lt {pos : Nat} (h : pos < seatsList.length) :
    nextSeat seatsList pos < seatsList.length := by
  rw [nextSeat_eq_mod h]
  exact Nat.mod_lt _ (by omega)

theorem walkToWinner_hits (ids : List Nat) (fuel pos d : Nat) (hpos : pos < seatsList.length)
    (hd : d < fuel) (hwin : isWinner players seatsList ids ((pos + 1 + d) % seatsList.length)) :
    ∃ pos', walkToWinner players seatsList ids fuel pos = (pos', true) ∧
      pos' < seatsList.length ∧ isWinner players seatsList ids pos' := by
  induction fuel generalizing pos d with
  | zero => omega
  | succ fuel ih =>
      by_cases hnext : isWinner players seatsList ids (nextSeat seatsList pos)
      · exact ⟨nextSeat seatsList pos, by simp [walkToWinner, hnext], nextSeat_lt hpos, hnext⟩
      · cases d with
        | zero =>
            rw [Nat.add_zero, ← nextSeat_eq_mod hpos] at hwin
            exact absurd hwin hnext
        | succ d =>
            have hstep : isWinner players seatsList ids
                ((nextSeat seatsList pos + 1 + d) % seatsList.length) := by
              rw [nextSeat_eq_mod hpos, add_assoc, Nat.mod_add_mod]
              have he : pos + 1 + (1 + d) = pos + 1 + (d + 1) := by omega
              rwa [he]
            obtain ⟨pos', hrun, hlt, hw⟩ := ih (nextSeat seatsList pos) d (nextSeat_lt hpos) (by omega) hstep
            exact ⟨pos', by simpa [walkToWinner, hnext] using hrun, hlt, hw⟩

/-- Once round the table is enough to find a winner, wherever the walk starts. -/
theorem walkToWinner_finds {maxPlayers : Nat} (hmax : seatsList.length ≤ maxPlayers) (ids : List Nat)
    {pos target : Nat} (hpos : pos < seatsList.length) (ht : target < seatsList.length)
    (hwin : isWinner players seatsList ids target) :
    ∃ pos', walkToWinner players seatsList ids maxPlayers pos = (pos', true) ∧
      pos' < seatsList.length ∧ isWinner players seatsList ids pos' := by
  have hn : 0 < seatsList.length := by omega
  refine walkToWinner_hits ids maxPlayers pos ((target + (seatsList.length - (pos + 1))) % seatsList.length)
    hpos (lt_of_lt_of_le (Nat.mod_lt _ hn) hmax) ?_
  rw [Nat.add_mod_mod]
  have he : pos + 1 + (target + (seatsList.length - (pos + 1))) = target + seatsList.length := by omega
  rw [he, Nat.add_mod_right, Nat.mod_eq_of_lt ht]
  exact hwin

theorem exists_isWinner {ids : List Nat} (hne : ids ≠ []) (hw : ∀ id ∈ ids, WinnerID seatsList players id) :
    ∃ target, target < seatsList.length ∧ isWinner players seatsList ids target := by
  obtain ⟨id, hid⟩ := List.exists_mem_of_ne_nil ids hne
  obtain ⟨r, hr, hc, rfl⟩ := hw id hid
  obtain ⟨t, ht, rfl⟩ := List.getElem_of_mem hr
  exact ⟨t, ht, by simp [isWinner, List.getElem?_eq_getElem ht, contender_active hc, hid]⟩

theorem isWinner_contender {ids : List Nat} {pos : Nat} (hids : DistinctIDs seatsList players)
    (hw : ∀ id ∈ ids, WinnerID seatsList players id) (hpos : pos < seatsList.length)
    (h : isWinner players seatsList ids pos) :
    ∃ r ∈ seatsList, seatsList[pos]? = some r ∧ contender (players r) := by
  have hmem : seatsList[pos] ∈ seatsList := List.getElem_mem hpos
  simp only [isWinner, List.getElem?_eq_getElem hpos, Option.any_some, Bool.and_eq_true,
    List.contains_iff_mem] at h
  obtain ⟨r, hr, hc, hid⟩ := hw _ h.2
  rw [← hids.eq_of_id r hr (contender_active hc) _ hmem hid.symm] at hc
  exact ⟨_, hmem, List.getElem?_eq_getElem hpos, hc⟩

/-- Every turn of the odd-chip loop pays a winner, the first `mod` turns one chip more. -/
theorem payOddChips_spec {maxPlayers : Nat} (hmax : seatsList.length ≤ maxPlayers)
    (share mod : Nat) {ids : List Nat} (hne : ids ≠ []) (todo j pos : Nat) (winners : List Nat)
    (hpos : pos < seatsList.length) (hids : DistinctIDs seatsList players)
    (hw : ∀ id ∈ ids, WinnerID seatsList players id) :
    ∃ players' winners',
      payOddChips seatsList maxPlayers share mod ids todo j pos players winners = (players', winners') ∧
      Paid seatsList (todo * share + (min mod (j + todo) - min mod j : Nat)) players players' := by
  induction todo generalizing j pos players winners with
  | zero => exact ⟨players, winners, rfl, by simpa using paid_refl seatsList players⟩
  | succ todo ih =>
      obtain ⟨target, ht, hwin⟩ := exists_isWinner hne hw
      obtain ⟨pos', hwalk, hpos', hwin'⟩ := walkToWinner_finds hmax ids hpos ht hwin
      obtain ⟨r, hr, hget, hc⟩ := isWinner_contender hids hw hpos' hwin'
      have hextra : (0 : Int) ≤ share + if j < mod then 1 else 0 := by
        split_ifs <;> omega
      have hpaid := paid_award hids.nodup hr hc hextra
      obtain ⟨players', winners', hrun, hpaid'⟩ := ih (j + 1) pos' (winners ++ [(players r).myUniqueID])
        hpos' (hpaid.distinctIDs hids) (fun id hid => hpaid.winnerID (hw id hid))
      refine ⟨players', winners', ?_, ?_⟩
      · simpa only [payOddChips, hwalk, hget] using hrun
      · have htotal := hpaid.trans hpaid'
        have heq : (share : Int) + (if j < mod then 1 else 0) +
            (todo * share + (min mod (j + 1 + todo) - min mod (j + 1) : Nat)) =
            (todo + 1 : Nat) * share + (min mod (j + (todo + 1)) - min mod j : Nat) := by
          have hmin : (if j < mod then (1 : Int) else 0) + (min mod (j + 1 + todo) - min mod (j + 1) : Nat) =
              (min mod (j + (todo + 1)) - min mod j : Nat) := by
            split_ifs <;> omega
          rw [← hmin]
          push_cast
          ring
        rwa [heq] at htotal

theorem payWinners_spec {maxPlayers dealerPosition : Nat} (hmax : seatsList.length ≤ maxPlayers)
    (levelSum : Nat) {ids : List Nat} (hne : ids ≠ []) (winners : List Nat)
    (hids : DistinctIDs seatsList players) (hw : ∀ id ∈ ids, WinnerID seatsList players id)
    (hdealer : ∃ r ∈ seatsList, (players r).myUniqueID = dealerPosition) :
    ∃ players' winners',
      payWinners seatsList maxPlayers dealerPosition levelSum ids players winners = .ok (players', winners') ∧
      Paid seatsList levelSum players players' := by
  have hdiv := Nat.div_add_mod levelSum ids.length
  by_cases hmod : levelSum % ids.length = 0
  · obtain ⟨players', winners', hrun, hpaid⟩ :=
      payEqual_spec (levelSum / ids.length) ids winners hids hw
    refine ⟨players', winners', by simpa only [payWinners, hmod, if_pos] using hrun, ?_⟩
    have heq : (ids.length * (levelSum / ids.length : Nat) : Int) = levelSum := by
      exact_mod_cast (by omega : ids.length * (levelSum / ids.length) = levelSum)
    rwa [heq] at hpaid
  · obtain ⟨r, hr, hrid⟩ := hdealer
    cases hf : seatsList.findIdx? (fun r => (players r).myUniqueID == dealerPosition) with
    | none =>
        have hn := List.findIdx?_eq_none_iff.mp hf r hr
        simp [hrid] at hn
    | some pos =>
        have hpos : pos < seatsList.length := (List.findIdx?_eq_some_iff_getElem.mp hf).1
        obtain ⟨players', winners', hrun, hpaid⟩ := payOddChips_spec hmax (levelSum / ids.length)
          (levelSum % ids.length) hne ids.length 0 pos winners hpos hids hw
        refine ⟨players', winners', by simp only [payWinners, hmod, if_false, hf, hrun], ?_⟩
        have hlt : levelSum % ids.length < ids.length :=
          Nat.mod_lt _ (List.length_pos_iff.mpr hne)
        have heq : (ids.length * (levelSum / ids.length : Nat) : Int) +
            (min (levelSum % ids.length) (0 + ids.length) - min (levelSum % ids.length) 0 : Nat) =
            levelSum := by
          have hmin : min (levelSum % ids.length) (0 + ids.length) - min (levelSum % ids.length) 0 =
              levelSum % ids.length := by
            omega
          rw [hmin]
          exact_mod_cast hdiv
        rwa [heq] at hpaid

end PokerTH.Board
