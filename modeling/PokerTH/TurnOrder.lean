import PokerTH.Asking
import PokerTH.LimitsRun

namespace PokerTH.Hand

open HandRun PokerTH.Lists

variable {maxPlayers : Nat} {t : Table} {g : Game} {h h' k u : Hand} {r last : Ref} {action : PlayerAction} {bet : Int}

theorem running_nodup (hs : Seated maxPlayers h) (hsub : h.runningPlayerList.Sublist h.activePlayerList) :
    h.runningPlayerList.Nodup := hsub.nodup hs.active_nodup

theorem Refreshed.nonFold (hl : Refreshed h) (hs : Seated maxPlayers h) :
    h.nonFoldPlayerCounter = h.allInPlayersCounter + h.runningPlayerList.length := by
  have hrunning : h.activePlayerList.countP (fun r => decide (r ∈ h.runningPlayerList)) =
      h.runningPlayerList.length := by
    rw [List.countP_eq_length_filter, filter_mem_of_sublist hl.sub hs.active_nodup]
  rw [nonFoldPlayerCounter, allInPlayersCounter, ← hrunning]
  apply countP_split
  · intro q hq
    by_cases hrun : q ∈ h.runningPlayerList
    · have hstay := hl.stays q hrun
      simp only [leavesRunning, Bool.or_eq_false_iff, beq_eq_false_iff_ne] at hstay
      simp [hrun, hstay.1]
    · have hout := hl.out q hq hrun
      simp only [leavesRunning, Bool.or_eq_true, beq_iff_eq] at hout
      rcases hout with hfold | hall
      · simp [hrun, hfold]
      · simp [hall]
  · intro q _ hall
    rw [beq_iff_eq] at hall
    simp only [decide_eq_false_iff_not]
    intro hrun
    have hstay := hl.stays q hrun
    simp [leavesRunning, hall] at hstay

theorem owes_of_alone (hl : Refreshed h) (hs : Seated maxPlayers h) (hdetect : h.detectAllIn = false)
    (hone : h.runningPlayerList = [r]) : (h.players r).mySet < h.getCurrentBeRo.highestSet := by
  have hcount := hl.nonFold hs
  rw [hone, List.length_singleton] at hcount
  by_contra hset
  have htrue : h.detectAllIn = true := by
    simp only [detectAllIn, hcount, hone, List.any_cons, List.any_nil, Bool.or_false, Bool.or_eq_true,
      Bool.and_eq_true, beq_iff_eq, decide_eq_true_eq, true_and]
    exact .inr (.inl (.inl (by omega)))
  rw [htrue] at hdetect
  cases hdetect

theorem not_detectAllIn (hl : Refreshed h) (hs : Seated maxPlayers h) (htwo : 2 ≤ h.runningPlayerList.length) :
    h.detectAllIn = false := by
  have hcount := hl.nonFold hs
  have h1 : (h.allInPlayersCounter == h.nonFoldPlayerCounter) = false := by
    rw [beq_eq_false_iff_ne]
    omega
  have h2 : (h.allInPlayersCounter + 1 == h.nonFoldPlayerCounter) = false := by
    rw [beq_eq_false_iff_ne]
    omega
  simp only [detectAllIn, h1, h2, Bool.false_and, Bool.or_false]

theorem findSome_running (hs : Seated maxPlayers h) (hsub : h.runningPlayerList.Sublist h.activePlayerList)
    {l : List Ref} (hl : ∀ r ∈ l, r ∈ h.activePlayerList) :
    (l.findSome? fun r => h.getRunningPlayerIt (h.uniqueID r)) =
      l.find? fun r => decide (r ∈ h.runningPlayerList) := by
  induction l with
  | nil => rfl
  | cons r l ih =>
      have hrest := ih fun q hq => hl q (List.mem_cons_of_mem r hq)
      by_cases hrun : r ∈ h.runningPlayerList
      · rw [List.findSome?_cons, getRunningPlayerIt_self hs hsub hrun, List.find?_cons_of_pos (by simpa using hrun)]
      · have hnone : h.getRunningPlayerIt (h.uniqueID r) = none := by
          cases hfind : h.getRunningPlayerIt (h.uniqueID r) with
          | none => rfl
          | some q =>
              obtain ⟨hq, hid⟩ := getRunningPlayerIt_some hfind
              obtain ⟨hseat, hactive⟩ := hs.mem_active.mp (hl r List.mem_cons_self)
              have heq := hs.ids.eq_of_id r hseat hactive q (hs.mem_active.mp (hsub.subset hq)).1 hid
              exact absurd (heq ▸ hq) hrun
        rw [List.findSome?_cons, hnone, List.find?_cons_of_neg (by simpa using hrun)]
        exact hrest

/-- The last player before the small blind stays the last one as long as he runs. -/
theorem lastBeforeSmallBlind_shrink (hs : Seated maxPlayers h)
    (hsub : h.runningPlayerList.Sublist h.activePlayerList) (hsub' : u.runningPlayerList.Sublist h.runningPlayerList)
    (hmem : last ∈ u.runningPlayerList) (hf : u.frame = h.frame) (hround : u.currentRound = h.currentRound)
    (hlast : h.lastBeforeSmallBlind = .ok (h.uniqueID last)) : u.lastBeforeSmallBlind = .ok (u.uniqueID last) := by
  have hid (q : Ref) : u.uniqueID q = h.uniqueID q := frame_myUniqueID hf q
  have hactive := frame_activePlayerList hf
  have hsb : u.getCurrentBeRo.smallBlindPositionId = h.getCurrentBeRo.smallBlindPositionId := by
    have hfix := congrArg (fun b => b.smallBlindPositionId) (frame_beRo hf u.currentRound)
    rw [getCurrentBeRo, getCurrentBeRo, ← hround]
    exact hfix
  have hsubu : u.runningPlayerList.Sublist u.activePlayerList := by
    rw [hactive]
    exact hsub'.trans hsub
  simp only [lastBeforeSmallBlind, hactive, hsb] at hlast ⊢
  split_ifs at hlast ⊢ with hlen
  · have hsb' : u.getActivePlayerIt h.getCurrentBeRo.smallBlindPositionId =
        h.getActivePlayerIt h.getCurrentBeRo.smallBlindPositionId := by
      rw [getActivePlayerIt, getActivePlayerIt, hactive, findPlayer, findPlayer]
      simp only [frame_myUniqueID hf]
    rw [hsb']
    split at hlast
    · cases hlast
    · next sb hsbmem =>
        have hbefore : ∀ q ∈ Cyclic.before h.activePlayerList sb, q ∈ h.activePlayerList := by
          intro q hq
          exact (Cyclic.mem_before (findPlayer_some hsbmem).1).mp hq
        split at hlast
        · cases hlast
        · next it hit =>
            rw [findSome_running hs hsub hbefore] at hit
            have hrun : it ∈ h.runningPlayerList := by simpa using List.find?_some hit
            have heq := uniqueID_inj hs hsub (hsub'.subset hmem) hrun (by simpa using hlast)
            subst heq
            have hfind := find_of_find (q := fun q => decide (q ∈ u.runningPlayerList)) hit
              (fun b hb => by simpa using hsub'.subset (by simpa using hb)) (by simpa using hmem)
            rw [findSome_running (hs.congr hf) hsubu (by rwa [hactive]), hfind]
  · rw [hid]
    exact hlast

structure Opening (h : Hand) : Prop where
  all : h.allInCondition = false
  first : 2 ≤ h.runningPlayerList.length → h.getCurrentBeRo.firstRound = true ∧
    ∃ last ∈ h.runningPlayerList, h.lastBeforeSmallBlind = .ok (h.uniqueID last) ∧
      h.getCurrentBeRo.currentPlayersTurnId = h.uniqueID (Cyclic.next h.runningPlayerList last)
  alone : ∀ r, h.runningPlayerList = [r] → h.getCurrentBeRo.firstRound = false ∧
    (h.players r).mySet < h.getCurrentBeRo.highestSet

theorem switchRounds_allInCondition (hall : h.switchRounds.allInCondition = false) : h.allInCondition = false := by
  by_contra htrue
  have hkeep := switchRounds_keeps (P := fun k => k.allInCondition = true) (fun _ _ => rfl) (fun _ _ hk => hk)
    (fun _ _ hk => hk) (fun k hk => (refresh_allInCondition k).trans hk) (by simpa using htrue)
  rw [hall] at hkeep
  cases hkeep

theorem advance_asks (hr : Rounds h) (hn : 1 ≤ h.nonFoldPlayerCounter)
    (hrun : h.advance = .ok k) (hsame : k.currentRound = h.currentRound) (hpre : k.currentRound ≠ .preflop)
    (hopen : k.currentRound ≠ .postRiver) (hall : k.allInCondition = false) :
    h.refreshRunningPlayerList.detectAllIn = false ∧
      ∃ u j j', u = h.refreshRunningPlayerList.noteRound ∧ u.currentRound = h.currentRound ∧
        u.allInCondition = false ∧ u.restartTurn = .ok j ∧ j.turnToNext = .ok j' ∧ k = j'.endFirstRound := by
  simp only [Hand.advance] at hrun
  split_ifs at hrun with hswitch
  · cases hrun
    rw [hall] at hswitch
    cases hswitch
  · have hall' : h.switchRounds.allInCondition = false := by simpa using hswitch
    cases switchRounds_cases hn (switchRounds_allInCondition hall') with
    | last _ hround _ =>
        simp only [Hand.run, hround, Except.ok.injEq] at hrun
        rw [← hrun] at hopen
        exact absurd hround hopen
    | allIn _ _ htrue => exact absurd htrue hswitch
    | betting _ hdetect hu =>
        have hround : h.switchRounds.currentRound = h.currentRound := by
          rw [hu, (noteRound_fields _).1, refresh_currentRound]
        rw [run_of_postFlop (by rwa [hround, ← hsame]) (by rwa [hround, ← hsame])] at hrun
        refine ⟨hdetect, h.switchRounds, ?_⟩
        rcases localRun_cases hrun with ⟨hgui, _⟩ | ⟨j, hj, ⟨_, _, rfl⟩ | ⟨_, j', hj', rfl⟩⟩
        · have hskip : GuiSkipped h.switchRounds :=
            switchRounds_keeps (P := GuiSkipped) (fun _ hk => hk) (fun _ _ hk => hk) (fun _ _ hk => hk)
              (fun _ hk => guiSkipped_refresh hk) hr.gui
          rw [getCurrentBeRo, hskip _ (by rwa [hround, ← hsame]) (by rwa [hround, ← hsame])] at hgui
          cases hgui
        · have hjround := restartTurn_currentRound hj
          have hid : j.getCurrentBeRo.myBeRoID = j.currentRound := by
            have hf := restartTurn_keeps (P := fun k => k.frame = h.frame)
              (fun _ _ hb hk => (frame_setBeRo (BeRo.fixed_of_limits hb.limits)).trans hk) (frame_switchRounds h) hj
            have hfix := congrArg (fun b => b.myBeRoID) (frame_beRo hf j.currentRound)
            exact hfix.trans (hr.id _)
          refine absurd ?_ (closeRound_currentRound hid (by rwa [hjround, hround, ← hsame]))
          rw [hsame, hjround, hround]
        · exact ⟨j, j', hu, hround, hall', hj, hj', rfl⟩

structure SameTable (h k : Hand) : Prop where
  table : k.toTable = h.toTable
  round : k.currentRound = h.currentRound
  all : k.allInCondition = h.allInCondition
  frame : k.frame = h.frame
  limits : SameLimits h k

theorem sameTable_setBeRo {b : BeRo} (hb : h.getCurrentBeRo.Moved b) : SameTable h (h.setBeRo b) :=
  ⟨rfl, rfl, rfl, frame_setBeRo (BeRo.fixed_of_limits hb.limits), sameLimits_setBeRo hb.limits⟩

theorem SameTable.trans (hs : SameTable h k) (hs' : SameTable k u) : SameTable h u :=
  ⟨hs'.table.trans hs.table, hs'.round.trans hs.round, hs'.all.trans hs.all, hs'.frame.trans hs.frame,
    hs.limits.trans hs'.limits⟩

theorem sameTable_noteRound (h : Hand) : SameTable h h.noteRound := by
  simp only [noteRound]
  split_ifs
  · exact ⟨rfl, rfl, rfl, rfl, fun _ => rfl⟩
  · exact ⟨rfl, rfl, rfl, rfl, fun _ => rfl⟩

theorem SameTable.players (hs : SameTable h k) : k.players = h.players := congrArg Table.players hs.table

theorem SameTable.running (hs : SameTable h k) : k.runningPlayerList = h.runningPlayerList :=
  congrArg Table.runningPlayerList hs.table

theorem SameTable.active (hs : SameTable h k) : k.activePlayerList = h.activePlayerList :=
  congrArg Table.activePlayerList hs.table

theorem SameTable.labels (hs : SameTable h k) : SameLabels h k :=
  sameLabels_rfl hs.players hs.active hs.running

theorem SameTable.highestSet (hs : SameTable h k) :
    k.getCurrentBeRo.highestSet = h.getCurrentBeRo.highestSet := by
  rw [getCurrentBeRo, hs.round]
  exact hs.limits.highestSet _

theorem turn_sameTable (hj : h.restartTurn = .ok k) (hj' : k.turnToNext = .ok u) :
    SameTable h k ∧ SameTable h u ∧ SameTable h u.endFirstRound := by
  have hbeRo (a : Hand) (b : BeRo) (hb : a.getCurrentBeRo.Moved b) (ha : SameTable h a) : SameTable h (a.setBeRo b) :=
    ha.trans (sameTable_setBeRo hb)
  have hk := restartTurn_keeps hbeRo ⟨rfl, rfl, rfl, rfl, fun _ => rfl⟩ hj
  have hu := turnToNext_keeps hbeRo hk hj'
  exact ⟨hk, hu, endFirstRound_keeps hbeRo hu⟩

theorem endFirstRound_turnId (h : Hand) :
    h.endFirstRound.getCurrentBeRo.currentPlayersTurnId = h.getCurrentBeRo.currentPlayersTurnId := by
  simp only [endFirstRound]
  split_ifs
  · rw [setFirstRound, getCurrentBeRo_setBeRo]
  · rfl

theorem endFirstRound_firstRound (h : Hand) : h.endFirstRound.getCurrentBeRo.firstRound =
    (h.getCurrentBeRo.firstRound &&
      h.getCurrentBeRo.currentPlayersTurnId != h.getCurrentBeRo.firstRoundLastPlayersTurnId) := by
  simp only [endFirstRound]
  split_ifs with hend
  · rw [setFirstRound, getCurrentBeRo_setBeRo]
    simp [hend]
  · simp [hend]

theorem advance_opening (hs : Seated maxPlayers h) (hl : Labelled h) (hr : Rounds h) (hf : FirstRounds h)
    (hn : 1 ≤ h.nonFoldPlayerCounter) (hrun : h.advance = .ok k) (hsame : k.currentRound = h.currentRound)
    (hpre : k.currentRound ≠ .preflop) (hopen : k.currentRound ≠ .postRiver) (hall : k.allInCondition = false) :
    Opening k := by
  have hfk := firstRounds_advance hs hl hf hrun
  obtain ⟨hdetect, u, j, j', hu, hround, hall', hj, hj', rfl⟩ := advance_asks hr hn hrun hsame hpre hopen hall
  obtain ⟨htj, htj', htk⟩ := turn_sameTable hj hj'
  have htu : SameTable h.refreshRunningPlayerList u := hu ▸ sameTable_noteRound _
  have hsu : Seated maxPlayers u := hs.congr (htu.frame.trans (frame_refresh h))
  have hlu : Refreshed u := hl.refresh.congr htu.labels
  have hfu : FirstRounds u := by
    have hrefresh := firstRounds_refresh hf
    rw [hu, noteRound]
    split_ifs
    · exact hrefresh
    · exact hrefresh
  have hpreu : u.currentRound ≠ .preflop := by rwa [hround, ← hsame]
  have hopenu : u.currentRound ≠ .postRiver := by rwa [hround, ← hsame]
  obtain ⟨it, hit, rfl⟩ := turnToNext_cases hj'
  obtain ⟨hmem, hid⟩ := getRunningPlayerIt_some hit
  rw [htj.running] at hmem
  have hidu : j.uniqueID it = u.uniqueID it := frame_myUniqueID htj.frame it
  have hturn : (j.setCurrentPlayersTurnId (j.uniqueID (Cyclic.next j.runningPlayerList
      it))).endFirstRound.getCurrentBeRo.currentPlayersTurnId = u.uniqueID (Cyclic.next u.runningPlayerList it) := by
    rw [endFirstRound_turnId, setCurrentPlayersTurnId, getCurrentBeRo_setBeRo, htj.running]
    exact frame_myUniqueID htj.frame _
  refine ⟨hall, fun htwo => ?_, fun r hone => ⟨?_, ?_⟩⟩
  · rw [htk.running] at htwo
    refine ⟨?_, ?_⟩
    · by_contra hfirst
      rw [Bool.not_eq_true] at hfirst
      have hle := hfk _ hpre hopen hfirst
      rw [htk.running] at hle
      omega
    · rcases restartTurn_cases hj with ⟨_, htrue, _⟩ | ⟨_, _, last, hlast, hj⟩ | ⟨hfirst, _⟩
      · rw [hall'] at htrue
        cases htrue
      · have hturnid : j.getCurrentBeRo.currentPlayersTurnId = last := by
          rw [hj, setCurrentPlayersTurnId, getCurrentBeRo_setBeRo]
        rw [hturnid, hidu] at hid
        rw [← hid] at hlast
        refine ⟨it, by rwa [htk.running], ?_, ?_⟩
        · exact lastBeforeSmallBlind_shrink hsu hlu.sub (by rw [htk.running]) (by rwa [htk.running]) htk.frame
            htk.round hlast
        · rw [hturn, htk.running]
          exact (frame_myUniqueID htk.frame _).symm
      · have hle := hfu _ hpreu hopenu hfirst
        omega
  · rw [htk.running] at hone
    rw [hone, List.mem_singleton] at hmem
    subst hmem
    rw [endFirstRound_firstRound]
    rcases restartTurn_cases hj with ⟨_, htrue, _⟩ | ⟨_, _, last, _, hj⟩ | ⟨hfirst, hj⟩
    · rw [hall'] at htrue
      cases htrue
    · have hturnid : j.getCurrentBeRo.currentPlayersTurnId = last := by
        rw [hj, setCurrentPlayersTurnId, getCurrentBeRo_setBeRo]
      have hlastid : j.getCurrentBeRo.firstRoundLastPlayersTurnId = last := by
        rw [hj, setCurrentPlayersTurnId, getCurrentBeRo_setBeRo, setFirstRoundLastPlayersTurnId,
          getCurrentBeRo_setBeRo]
      have hnext : Cyclic.next j.runningPlayerList it = it := by
        rw [htj.running, hone]
        simp [Cyclic.next, Cyclic.after]
      rw [setCurrentPlayersTurnId, getCurrentBeRo_setBeRo, hnext, hid, hturnid, hlastid]
      simp
    · rw [setCurrentPlayersTurnId, getCurrentBeRo_setBeRo, hj, hfirst]
      rfl
  · rw [htk.running] at hone
    rw [htk.players, htk.highestSet, htu.players, htu.highestSet]
    rw [htu.running] at hone
    exact owes_of_alone hl.refresh (hs.congr (frame_refresh h)) hdetect hone

end PokerTH.Hand
