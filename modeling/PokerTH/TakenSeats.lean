import PokerTH.RunOut
import PokerTH.SeatIds

namespace PokerTH.HandRun

open Board Hand Table

/-- The first `n` seats of a running game are taken. Players who are not active have lost all their chips. -/
structure Taken (n : Nat) (g : Game) (t : Table) : Prop where
  le : n ≤ t.seatsList.length
  ids : ((t.seatsList.take n).map t.uniqueID).Nodup
  active : ∀ r ∈ t.activePlayerList, r ∈ t.seatsList.take n
  dealer : g.dealerPosition ∈ (t.seatsList.take n).map t.uniqueID
  broke : ∀ r ∈ t.seatsList.take n, (t.players r).myActiveStatus = false → (t.players r).myCash = 0

variable {maxPlayers n : Nat} {total : Int} {g g' : Game} {t : Table} {h h' : Hand} {s s' : State} {v : Nat → Nat}
  {elapsed : Int} {r : Ref}

theorem idle_perform {q : Ref} (hq : (h.players q).myActiveStatus) (hidle : (h.players r).myActiveStatus = false)
    (action : PlayerAction) (bet : Int) :
    ((h.performPlayerAction q action bet).players r).myCash = (h.players r).myCash := by
  have hne : r ≠ q := by
    rintro rfl
    rw [hq] at hidle
    cases hidle
  rw [perform_players_of_ne h q action bet hne]

theorem idle_step (htotal : total < 2 ^ 31) (hc : Conserved maxPlayers total s) (hstep : Step maxPlayers s s')
    (hidle : (s.hand.players r).myActiveStatus = false) : (s'.hand.players r).myCash = (s.hand.players r).myCash := by
  cases hstep with
  | nextRound hrun =>
      obtain ⟨k, hk, hcases⟩ := engineLoop_cases hrun
      cases hcases with
      | nextRound => exact advance_myCash hk r
  | playersTurn hrun =>
      obtain ⟨k, hk, hcases⟩ := engineLoop_cases hrun
      cases hcases with
      | playersTurn => exact advance_myCash hk r
  | foldDisconnected hrun =>
      obtain ⟨k, hk, hcases⟩ := engineLoop_cases hrun
      have hstatus := frame_myActiveStatus (frame_advance hk) r
      cases hcases with
      | playersTurn hsame hopen hall hplayer hactive =>
          exact (idle_perform hactive (hstatus.trans hidle) .fold 0).trans (advance_myCash hk r)
  | endOfHand hrun =>
      cases hc with
      | loop hs ho hn hopen =>
          obtain ⟨k, hk, hcases⟩ := engineLoop_cases hrun
          cases hcases with
          | endOfHand hround hpost =>
              obtain ⟨h', hpost', hp⟩ := postRiverRun_spec (hs.congr (frame_advance hk)) (ho.advance hk) htotal hround
                (advance_nonFoldPlayerCounter hn hk)
              rw [hpost] at hpost'
              cases hpost'
              have hstatus := (frame_myActiveStatus (frame_advance hk) r).trans hidle
              refine Eq.trans ?_ (advance_myCash hk r)
              obtain ⟨won, _, hwon, _, hw⟩ := hp.paid
              have hzero : won r = 0 := by
                by_contra hne
                obtain ⟨_, hcontender⟩ := hwon r hne
                have hin := contender_active hcontender
                simp only [resetMoneyWon] at hin
                have hsame : (k.players r).myActiveStatus = true := by
                  split_ifs at hin
                  exact hin
                exact absurd (hsame.symm.trans hstatus) (by decide)
              dsimp only
              rw [hw]
              simp only [hzero, gain_zero, resetMoneyWon]
              split_ifs <;> rfl
  | @accepted h h' id q req filled hplayer hrun =>
      cases hc with
      | waitPlayerAction hs ho hn hopen hcur hactive =>
          have hq := accepted_is_current hs hcur hactive hplayer hrun
          obtain ⟨_, _, _, _, _, _, rfl⟩ := handleMyAction_accepted hrun
          have hsame := sameChips_setIsSessionActive h q true
          have hframe := frame_setIsSessionActive h q true
          have hin := (frame_myActiveStatus hframe q).trans (hq ▸ hactive)
          exact (idle_perform hin ((frame_myActiveStatus hframe r).trans hidle) _ _).trans (hsame.cash r)
  | @timeout h q hplayer =>
      cases hc with
      | waitPlayerAction hs ho hn hopen hcur hactive =>
          rw [hcur] at hplayer
          cases hplayer
          simp only [timeoutAction]
          split_ifs
          · exact idle_perform hactive hidle .check 0
          · exact idle_perform hactive hidle .fold 0

theorem nextDealer_spec {id : Nat} (hrun : Game.nextDealer h = .ok id) : ∃ r ∈ h.activePlayerList, h.uniqueID r = id := by
  simp only [Game.nextDealer] at hrun
  split at hrun
  · cases hrun
  · split at hrun
    · cases hrun
    · next it hit =>
        cases hrun
        obtain ⟨q, _, hq⟩ := List.exists_of_findSome?_eq_some hit
        exact ⟨it, (findPlayer_some hq).1, rfl⟩

theorem initHand_dealer (hrun : g.initHand v elapsed t = .ok (g', h)) :
    ∃ r ∈ h.activePlayerList, h.uniqueID r = g'.dealerPosition := by
  obtain ⟨_, _, _, _, hd, rfl⟩ := initHand_cases hrun
  exact nextDealer_spec hd

theorem initHand_myActiveStatus (hr : Ready maxPlayers t) (hrun : g.initHand v elapsed t = .ok (g', h))
    (hseat : r ∈ t.seatsList) :
    (h.players r).myActiveStatus = ((t.players r).myActiveStatus && (t.players r).myCash != 0) := by
  have ho := (initHand_spec hr hrun).1.opened
  have hmem : r ∈ h.activePlayerList ↔ (h.players r).myActiveStatus = true := by
    rw [ho.mem_active, and_iff_right hseat]
  rw [(initHand_lists hrun).1, mem_active_clearTable hr, and_iff_right hseat] at hmem
  rw [Bool.eq_iff_iff, ← hmem, Bool.and_eq_true, bne_iff_ne]

theorem taken_create {playerDataList : List PlayerData} {gameData : GameData} {startData : StartData}
    (hids : (playerDataList.map fun d => d.uniqueId).Nodup) (hlen : startData.numberOfPlayers = playerDataList.length)
    (hmax : startData.numberOfPlayers ≤ maxPlayers)
    (hrun : Game.create maxPlayers playerDataList gameData startData = .ok (g, t)) :
    Taken startData.numberOfPlayers g t := by
  simp only [Game.create] at hrun
  split_ifs at hrun with hdealer
  cases hrun
  have htake : (List.range maxPlayers).take startData.numberOfPlayers = List.range startData.numberOfPlayers := by
    rw [List.take_range, Nat.min_eq_left hmax]
  have hplayer (i : Nat) (d : PlayerData) (hi : playerDataList[i]? = some d) :
      (Game.newPlayer gameData.startMoney startData.numberOfPlayers playerDataList i).myUniqueID = d.uniqueId := by
    simp only [Game.newPlayer, hi]
    rfl
  have hseats : (List.range startData.numberOfPlayers).map
      (fun i => (Game.newPlayer gameData.startMoney startData.numberOfPlayers playerDataList i).myUniqueID) =
        playerDataList.map fun d => d.uniqueId := by
    apply List.ext_getElem (by simp [hlen])
    intro i hi hi'
    rw [List.length_map] at hi'
    rw [List.getElem_map, List.getElem_map, List.getElem_range]
    exact hplayer i _ (List.getElem?_eq_getElem hi')
  refine ⟨by simpa using hmax, ?_, fun r hr => ?_, ?_, fun r hr hstatus => ?_⟩
  · rw [htake]
    exact hseats ▸ hids
  · rw [htake, List.mem_range]
    simpa using (List.mem_filter.mp hr).2
  · obtain ⟨d, hd, hid⟩ := List.any_eq_true.mp hdealer
    rw [htake]
    exact hseats ▸ List.mem_map.mpr ⟨d, hd, beq_iff_eq.mp hid⟩
  · rw [htake, List.mem_range] at hr
    simp only [Game.newPlayer] at hstatus
    split at hstatus <;> simp [Player.create, hr] at hstatus

theorem taken_handOver (hr : Ready maxPlayers t) (hk : Taken n g t) (htotal : tableCash t < 2 ^ 31)
    (hdeal : g.initHand v elapsed t = .ok (g', h)) (hrun : Reachable maxPlayers ⟨h.skipFirstRunGui.start, .loop⟩ ⟨h', .handOver⟩) :
    Taken n g' h'.toTable := by
  have hstart : Start maxPlayers g t ⟨h.skipFirstRunGui.start, .loop⟩ := ⟨hr, v, elapsed, g', h, hdeal, rfl⟩
  have hc := conserved_start hstart
  have hf : h'.frame = h.frame := (frame_reachable htotal hc hrun).trans (frame_start h)
  have ho := (initHand_spec hr hdeal).1.opened
  have hseats : h'.seatsList = t.seatsList := (frame_seatsList hf).trans ho.seatsList
  have hid (r : Ref) (hmem : r ∈ t.seatsList) : h'.toTable.uniqueID r = t.uniqueID r :=
    (frame_myUniqueID hf r).trans (ho.players r hmem).id
  have hids : (h'.seatsList.take n).map h'.toTable.uniqueID = (t.seatsList.take n).map t.uniqueID := by
    rw [hseats]
    exact List.map_congr_left fun r hmem => hid r (List.mem_of_mem_take hmem)
  have hactive (r : Ref) (hmem : r ∈ h.activePlayerList) : r ∈ t.seatsList.take n := by
    rw [(initHand_lists hdeal).1, clearTable_activePlayerList] at hmem
    exact hk.active r (List.mem_filter.mp hmem).1
  refine ⟨?_, ?_, fun r hmem => ?_, ?_, fun r hmem hstatus => ?_⟩
  · rw [hseats]
    exact hk.le
  · rw [hids]
    exact hk.ids
  · rw [frame_activePlayerList hf] at hmem
    rw [hseats]
    exact hactive r hmem
  · obtain ⟨r, hmem, hdealer⟩ := initHand_dealer hdeal
    rw [hids, ← hdealer]
    have htaken := hactive r hmem
    exact List.mem_map.mpr ⟨r, htaken, (ho.players r (List.mem_of_mem_take htaken)).id.symm⟩
  · rw [hseats] at hmem
    have hseat := List.mem_of_mem_take hmem
    have hidle : (h.players r).myActiveStatus = false := (frame_myActiveStatus hf r).symm.trans hstatus
    have hkeeps := (@Runs.invariant _ _ (fun u => Conserved maxPlayers (tableCash t) u ∧
        u.hand.frame = h.frame ∧ (u.hand.players r).myCash = (h.players r).myCash) _ _
      ⟨hc, frame_start h, rfl⟩ (fun u w hu hstep => ?_) hrun).2.2
    · have hout := initHand_myActiveStatus hr hdeal hseat
      rw [hidle] at hout
      have hd := ho.players r hseat
      have hchips := hd.chips
      rw [hd.idle hidle, add_zero] at hchips
      refine hkeeps.trans (hchips.trans ?_)
      rcases Bool.and_eq_false_iff.mp hout.symm with hwas | hbroke
      · exact hk.broke r hmem hwas
      · simpa using hbroke
    · have hwidle := (frame_myActiveStatus hu.2.1 r).trans hidle
      exact ⟨hu.1.step htotal hstep, (hu.1.frame_step htotal hstep).trans hu.2.1,
        (idle_step htotal hu.1 hstep hwidle).trans hu.2.2⟩

end PokerTH.HandRun
