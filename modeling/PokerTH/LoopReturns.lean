import PokerTH.Poised

namespace PokerTH.HandRun

open Hand PokerTH.Lists

variable {maxPlayers : Nat} {total : Int} {t : Table} {g : Game} {h h' j k u v : Hand} {s s' : State}
  {r c c₀ last : Ref} {out : EngineOutcome}

theorem switchRounds_two (hall : h.allInCondition = false) (htrue : h.switchRounds.allInCondition = true) :
    2 ≤ h.nonFoldPlayerCounter := by
  rw [switchRounds, (noteRound_fields _).2] at htrue
  have hadvance (k : Hand) : k.advanceAllIn.allInCondition = k.allInCondition := by
    simp only [advanceAllIn]
    split_ifs <;> rfl
  have hrefresh := (refresh_allInCondition h).trans hall
  rw [hadvance, distributeOrDetect, refresh_nonFoldPlayerCounter] at htrue
  split_ifs at htrue with _ hdetect
  · change h.refreshRunningPlayerList.allInCondition = true at htrue
    rw [hrefresh] at htrue
    cases htrue
  · exact hdetect.1
  · rw [hrefresh] at htrue
    cases htrue

/-- Once the hand is all in, `switchRounds` goes one round on and leaves the chips in the pot. -/
structure RunsOut (h k : Hand) : Prop where
  round : k.currentRound = h.currentRound.next
  all : k.allInCondition = true
  cleared : Cleared k
  pot : k.board.pot = h.board.pot + h.board.sets
  cash : ∀ r, (k.players r).myCash = (h.players r).myCash
  action : ∀ r, (k.players r).myAction = (h.players r).myAction
  frame : k.frame = h.frame
  running : k.runningPlayerList = h.refreshRunningPlayerList.runningPlayerList

theorem noteRound_eq (h : Hand) : ∃ round, h.noteRound = { h with roundBeforePostRiver := round } := by
  simp only [noteRound]
  split_ifs
  · exact ⟨_, rfl⟩
  · exact ⟨h.roundBeforePostRiver, rfl⟩

theorem runsOut_of_detected (hn : 2 ≤ h.nonFoldPlayerCounter)
    (hall : h.refreshRunningPlayerList.detectAllIn = true ∨ h.allInCondition = true) : RunsOut h h.switchRounds := by
  have hcount := refresh_nonFoldPlayerCounter h
  obtain ⟨d, hd, hsame, htrue⟩ : ∃ d, h.refreshRunningPlayerList.distributeOrDetect = d ∧
      (d = h.refreshRunningPlayerList.setAllInCondition ∨ d = h.refreshRunningPlayerList) ∧
      d.allInCondition = true := by
    refine ⟨_, rfl, ?_, ?_⟩
    · simp only [distributeOrDetect]
      split_ifs
      · omega
      · exact .inl rfl
      · exact .inr rfl
    · simp only [distributeOrDetect]
      split_ifs with hone hdetect
      · omega
      · rfl
      · rcases hall with hall | hall
        · exact absurd ⟨by omega, hall⟩ hdetect
        · exact (refresh_allInCondition h).trans hall
  have hn' : 2 ≤ d.nonFoldPlayerCounter := by
    rcases hsame with rfl | rfl
    · change 2 ≤ h.refreshRunningPlayerList.nonFoldPlayerCounter
      omega
    · omega
  have hswitch : h.switchRounds = (d.collectPot.setCurrentRound d.currentRound.next).noteRound := by
    rw [switchRounds, hd, advanceAllIn, if_pos ⟨htrue, hn'⟩]
  obtain ⟨round, hnote⟩ := noteRound_eq (d.collectPot.setCurrentRound d.currentRound.next)
  have hfields : d.players = h.players ∧ d.board.pot = h.board.pot ∧ d.board.sets = h.board.sets ∧
      d.currentRound = h.currentRound ∧ d.frame = h.frame ∧
      d.runningPlayerList = h.refreshRunningPlayerList.runningPlayerList := by
    have hplayers := refresh_players h
    have hpot := congrArg Board.pot (refresh_board h)
    have hsets := congrArg Board.sets (refresh_board h)
    have hround := refresh_currentRound h
    have hf := frame_refresh h
    rcases hsame with rfl | rfl
    · exact ⟨hplayers, hpot, hsets, hround, hf, rfl⟩
    · exact ⟨hplayers, hpot, hsets, hround, hf, rfl⟩
  obtain ⟨hplayers, hpot, hsets, hround, hf, hrunning⟩ := hfields
  rw [hswitch, hnote]
  refine ⟨congrArg GameState.next hround, htrue, collectPot_cleared d, ?_, fun r => ?_, fun r => ?_,
    (frame_collectPot d).trans hf, hrunning⟩
  · rw [← hpot, ← hsets]
    rfl
  · rw [← hplayers]
    exact collectPot_myCash d r
  · rw [← hplayers]
    exact collectPot_myAction d r

inductive PreflopTurn (h u : Hand) (c : Ref) : Hand → Prop
  | start (hgui : u.getCurrentBeRo.firstRunGui = true) (hfirst : u.getCurrentBeRo.firstRound = true)
      (hlast : u.preflopLast = .ok (some (u.uniqueID c))) : PreflopTurn h u c (u.preflopStart (u.uniqueID c))
  | later {c₀ : Ref} (hgui : u.getCurrentBeRo.firstRunGui = false) (hacted : ActedBy h c₀) (hkept : TurnKept h c₀ c)
      (hturn : u.getCurrentBeRo.currentPlayersTurnId = u.uniqueID c) : PreflopTurn h u c u

theorem sameTable_preflopStart (u : Hand) (id : Nat) : SameTable u (u.preflopStart id) := by
  have hlast := sameTable_setBeRo (h := u) (b := { u.getCurrentBeRo with firstRoundLastPlayersTurnId := id })
    ⟨rfl, fun hb => hb, fun hb => hb⟩
  have hturn := sameTable_setBeRo (h := u.setFirstRoundLastPlayersTurnId id)
    (b := { (u.setFirstRoundLastPlayersTurnId id).getCurrentBeRo with currentPlayersTurnId := id })
    ⟨rfl, fun hb => hb, fun hb => hb⟩
  have hgui := sameTable_setBeRo (h := (u.setFirstRoundLastPlayersTurnId id).setCurrentPlayersTurnId id)
    (b := { ((u.setFirstRoundLastPlayersTurnId id).setCurrentPlayersTurnId id).getCurrentBeRo with
      firstRunGui := false }) ⟨rfl, nofun, fun hb => hb⟩
  exact (hlast.trans hturn).trans hgui

theorem preflopStart_beRo (u : Hand) (id : Nat) : (u.preflopStart id).getCurrentBeRo =
    { u.getCurrentBeRo with
      firstRoundLastPlayersTurnId := id
      currentPlayersTurnId := id
      firstRunGui := false } := by
  simp [preflopStart, setFirstRunGui, setCurrentPlayersTurnId, setFirstRoundLastPlayersTurnId]

structure Turning (u v : Hand) (c : Ref) : Prop where
  same : SameTable u v
  gui : v.getCurrentBeRo.firstRunGui = false
  turn : v.getCurrentBeRo.currentPlayersTurnId = v.uniqueID c
  first : v.getCurrentBeRo.firstRound = u.getCurrentBeRo.firstRound
  unopened : Unopened u → Unopened v

theorem PreflopTurn.turning (hv : PreflopTurn h u c v) : Turning u v c := by
  cases hv with
  | start =>
      have hbeRo := preflopStart_beRo u (u.uniqueID c)
      refine ⟨sameTable_preflopStart u _, ?_, ?_, ?_, fun hu => ?_⟩
      · rw [hbeRo]
      · rw [hbeRo]
        exact (frame_myUniqueID (sameTable_preflopStart u _).frame c).symm
      · rw [hbeRo]
      · exact unopened_setBeRo (unopened_setBeRo (unopened_setBeRo hu _) _) _
  | later hgui _ _ hturn => exact ⟨⟨rfl, rfl, rfl, rfl, fun _ => rfl⟩, hgui, hturn, rfl, id⟩

/-- The engine's betting round on a poised preflop hand: the turn is found and passed on. -/
theorem preflop_turn (hs : Seated maxPlayers h) (hl : Labelled h) (hp : Poised h)
    (hround : h.currentRound = .preflop) (hu : SameTable h.refreshRunningPlayerList u)
    (hbeRo : u.getCurrentBeRo = h.refreshRunningPlayerList.getCurrentBeRo) (hru : Rounds u)
    (hne : u.runningPlayerList ≠ []) :
    ∃ c ∈ u.runningPlayerList, ∃ v, PreflopTurn h u c v ∧ u.run = v.preflopTurn := by
  have huround : u.currentRound = .preflop := (hu.round.trans (refresh_currentRound h)).trans hround
  have hrefresh (f : BeRo → Bool) (hf : ∀ b id, f { b with currentPlayersTurnId := id } = f b) :
      f u.getCurrentBeRo = f h.getCurrentBeRo := by
    rw [hbeRo]
    exact eraseRunning_preserves (fun k => f k.getCurrentBeRo)
      (fun k id => by simp [setCurrentPlayersTurnId, hf]) (fun _ _ => rfl) h _ _
  have hgui := hrefresh (fun b => b.firstRunGui) fun _ _ => rfl
  have hfirst := hrefresh (fun b => b.firstRound) fun _ _ => rfl
  cases hp with
  | dealt hseats hposted hrunning hgui' hfirst' =>
      obtain ⟨c, hc, hlast⟩ := preflopLast_ok hs hru hseats hposted hrunning hu hne
      refine ⟨c, hc, _, .start (hgui.trans hgui') (hfirst.trans hfirst') hlast, ?_⟩
      rw [run, huround]
      simp [preflopRun, hgui, hgui', hlast, bind, Except.bind, preflopStart]
  | preflop hacted hgui' =>
      rw [hu.running] at hne
      obtain ⟨c', hc', hturn, hkept⟩ := refresh_turn (running_nodup hs hl.sub) hacted hne
      refine ⟨c', by rwa [hu.running], u, .later (hgui.trans hgui') hacted hkept ?_, ?_⟩
      · rw [hbeRo, hturn]
        exact (frame_myUniqueID (hu.frame.trans (frame_refresh h)) c').symm
      · rw [run, huround]
        simp [preflopRun, hgui, hgui']
  | opened _ hpre => exact absurd hround hpre
  | acted _ hpre => exact absurd hround hpre
  | alone _ hpre => exact absurd hround hpre

theorem preflopTurn_result (hs : Seated maxPlayers v) (hsub : v.runningPlayerList.Sublist v.activePlayerList)
    (hmem : c ∈ v.runningPlayerList) (hturn : v.getCurrentBeRo.currentPlayersTurnId = v.uniqueID c) :
    ∃ j, v.turnToNext = .ok j ∧ Asks v j (Cyclic.next v.runningPlayerList c) ∧
      v.preflopTurn = .ok (if v.getCurrentBeRo.firstRound = false ∧ v.allHighestSet = true then j.closePreflop
        else j.endFirstRound) := by
  obtain ⟨j, hj, hasks⟩ := turnToNext_asks hs hsub hmem hturn
  refine ⟨j, hj, hasks, ?_⟩
  simp [preflopTurn, hj, Except.map]

/-- With two players left to act, there is a last one of them before the small blind. -/
theorem lastBeforeSmallBlind_ok (hr : Rounds u)
    (hsub : u.runningPlayerList.Sublist u.activePlayerList) (htwo : 2 ≤ u.runningPlayerList.length) :
    ∃ last ∈ u.runningPlayerList, u.lastBeforeSmallBlind = .ok (u.uniqueID last) := by
  obtain ⟨sb, hsb, hid⟩ := hr.smallBlind u.currentRound
  simp only [lastBeforeSmallBlind]
  split_ifs with hlen
  · have hfind : u.getActivePlayerIt u.getCurrentBeRo.smallBlindPositionId ≠ none := by
      intro hnone
      simp only [getActivePlayerIt, findPlayer, List.find?_eq_none, beq_iff_eq] at hnone
      exact hnone sb hsb hid
    obtain ⟨it, hit⟩ := Option.ne_none_iff_exists'.mp hfind
    obtain ⟨hmem, _⟩ := findPlayer_some hit
    rw [hit]
    dsimp only
    cases hlast : (Cyclic.before u.activePlayerList it).findSome? fun r => u.getRunningPlayerIt (u.uniqueID r) with
    | none =>
        obtain ⟨q, hq⟩ := List.exists_mem_of_ne_nil u.runningPlayerList (by
          rintro hnil
          simp [hnil] at htwo)
        rw [List.findSome?_eq_none_iff] at hlast
        have hbefore := (Cyclic.mem_before hmem).mpr (hsub.subset hq)
        exact absurd (hlast q hbefore) (getRunningPlayerIt_ne_none hq rfl)
    | some last =>
        obtain ⟨q, _, hq⟩ := List.exists_of_findSome?_eq_some hlast
        exact ⟨last, (getRunningPlayerIt_some hq).1, rfl⟩
  · have hall : u.runningPlayerList = u.activePlayerList := hsub.eq_of_length_le (by omega)
    refine ⟨sb, by rwa [hall], ?_⟩
    rw [getCurrentBeRo, ← hid]

/-- After the flop, the engine asks somebody as long as it goes on with the betting. -/
theorem engine_postFlop (ha : Acted maxPlayers h) (hf : FirstRounds h) (hp : Poised h) (hb : Betting h u) :
    ∃ k r, h.engineLoop maxPlayers = .ok (.playersTurn k r) := by
  obtain ⟨hsu, hlu⟩ := Betting.refreshed ha hb
  have hru : Rounds u := ha.rounds.congr (hb.same.frame.trans (frame_refresh h)) (by
    rw [hb.switched]
    exact switchRounds_keeps (P := GuiSkipped) (fun _ hk => hk) (fun _ _ hk => hk) (fun _ _ hk => hk)
      (fun _ hk => guiSkipped_refresh hk) ha.rounds.gui)
  have hall : u.allInCondition = false := (hb.same.all.trans (refresh_allInCondition h)).trans ha.all
  cases hp with
  | dealt _ _ _ _ _ hu => exact absurd hu.1 ha.afterFlop
  | preflop _ _ hu => exact absurd hu.1 ha.afterFlop
  | opened hl _ hfirst htwo =>
      have hrunning : u.runningPlayerList = h.runningPlayerList := by
        rw [hb.same.running, refresh_of_stays hl.stays]
      obtain ⟨last, hmem, hlast⟩ := lastBeforeSmallBlind_ok hru hlu.sub (by rwa [hrunning])
      obtain ⟨k, hrun, hasks⟩ := localRun_first hsu hlu.sub hb.gui (hb.first.trans hfirst) hall hmem hlast
      exact ⟨k, _, Betting.asks ha hb hrun hasks (Cyclic.next_mem hmem)⟩
  | @acted c last hacted _ hfirst hmem hne hlast =>
      have hmem' : last ∈ u.runningPlayerList := by
        rw [hb.running, List.mem_filter]
        exact ⟨hmem, by simp [hacted.stays last hmem hne]⟩
      obtain ⟨k, hloop, _⟩ := Betting.first_asks ha hb hfirst hmem' hlast
      exact ⟨k, _, hloop⟩
  | @alone c hacted _ hfirst =>
      have hlen : h.runningPlayerList.length ≤ 1 := hf _ ha.afterFlop ha.betting hfirst
      have hone : h.runningPlayerList = [c] := by
        have hc := hacted.running
        match h.runningPlayerList, hlen, hc with
        | [p], _, hc => rw [List.mem_singleton.mp hc]
      have hstay : leavesRunning (h.players c) = false := by
        by_contra hleave
        have hnil : h.refreshRunningPlayerList.runningPlayerList = [] := by
          rw [refresh_runningPlayerList, hone]
          simpa using hleave
        have hdetect := detectAllIn_of_nil ha.labelled.refresh.toLabelled hnil
        rw [hb.detect] at hdetect
        cases hdetect
      obtain ⟨_, k, hloop, _⟩ := Betting.alone_asks ha hb hfirst hone hstay hacted.turn
      exact ⟨k, c, hloop⟩

/-- What the engine makes of a preflop hand on which it goes on with the betting. -/
inductive PreflopEngine (maxPlayers : Nat) (h u v : Hand) (c : Ref) : Prop
  | closes {j : Hand} (hj : v.turnToNext = .ok j) (hasks : Asks v j (Cyclic.next v.runningPlayerList c))
      (hfirst : v.getCurrentBeRo.firstRound = false) (hset : v.allHighestSet = true)
      (hrun : h.advance = .ok j.closePreflop) (hp : Poised j.closePreflop)
      (hall : j.closePreflop.allInCondition = false) (hround : j.closePreflop.currentRound = .flop) :
      PreflopEngine maxPlayers h u v c
  | asks {j : Hand} (hj : v.turnToNext = .ok j) (hasks : Asks v j (Cyclic.next v.runningPlayerList c))
      (hnot : ¬ (v.getCurrentBeRo.firstRound = false ∧ v.allHighestSet = true))
      (hrun : h.advance = .ok j.endFirstRound)
      (hloop : h.engineLoop maxPlayers = .ok (.playersTurn j.endFirstRound (Cyclic.next v.runningPlayerList c)))
      (hround : j.endFirstRound.currentRound = .preflop) (hall : j.endFirstRound.allInCondition = false)
      (hgui : j.endFirstRound.getCurrentBeRo.firstRunGui = false) (hu : Unopened j.endFirstRound) :
      PreflopEngine maxPlayers h u v c

theorem endFirstRound_firstRunGui (h : Hand) :
    h.endFirstRound.getCurrentBeRo.firstRunGui = h.getCurrentBeRo.firstRunGui := by
  simp only [endFirstRound]
  split_ifs
  · rw [setFirstRound, getCurrentBeRo_setBeRo]
  · rfl

/-- A hand between two handlers on which the betting has not come to an end. -/
structure Betted (maxPlayers : Nat) (h : Hand) : Prop where
  seated : Seated maxPlayers h
  labelled : Labelled h
  rounds : Rounds h
  firstRounds : FirstRounds h
  nonFold : 1 ≤ h.nonFoldPlayerCounter
  betting : h.currentRound ≠ .postRiver
  all : h.allInCondition = false

theorem Betted.acted (hb : Betted maxPlayers h) (hpre : h.currentRound ≠ .preflop) : Acted maxPlayers h :=
  ⟨hb.seated, hb.labelled, hb.rounds, hb.all, hb.nonFold, hpre, hb.betting⟩

theorem engine_preflop (hb : Betted maxPlayers h) (hp : Poised h) (hround : h.currentRound = .preflop)
    (hn : 2 ≤ h.nonFoldPlayerCounter) (hdetect : h.refreshRunningPlayerList.detectAllIn = false)
    (hu : h.switchRounds = h.refreshRunningPlayerList.noteRound) :
    ∃ c ∈ h.switchRounds.runningPlayerList, ∃ v, PreflopTurn h h.switchRounds c v ∧
      PreflopEngine maxPlayers h h.switchRounds v c := by
  have hsame : SameTable h.refreshRunningPlayerList h.switchRounds := hu ▸ sameTable_noteRound _
  have hbeRo : h.switchRounds.getCurrentBeRo = h.refreshRunningPlayerList.getCurrentBeRo := by
    obtain ⟨round, hnote⟩ := noteRound_eq h.refreshRunningPlayerList
    rw [hu, hnote]
    rfl
  have hru : Rounds h.switchRounds := hb.rounds.congr (frame_switchRounds h)
    (switchRounds_keeps (P := GuiSkipped) (fun _ hk => hk) (fun _ _ hk => hk) (fun _ _ hk => hk)
      (fun _ hk => guiSkipped_refresh hk) hb.rounds.gui)
  have hsu := hb.seated.congr (frame_switchRounds h)
  have hlu : Refreshed h.switchRounds := hb.labelled.refresh.congr hsame.labels
  have hallu : h.switchRounds.allInCondition = false := (hsame.all.trans (refresh_allInCondition h)).trans hb.all
  have hne : h.switchRounds.runningPlayerList ≠ [] := switchRounds_running_ne_nil hb.labelled hn hallu
  have hdetectu : h.switchRounds.runningPlayerList.length = 1 →
      h.switchRounds.allHighestSet = false := fun hone => by
    obtain ⟨q, hq⟩ := List.length_eq_one_iff.mp hone
    have howes := owes_of_alone hb.labelled.refresh (hb.seated.congr (frame_refresh h)) hdetect
      (hsame.running.symm.trans hq)
    simp only [allHighestSet, hq, List.all_cons, List.all_nil, Bool.and_true, beq_eq_false_iff_ne, hsame.players,
      hsame.highestSet]
    omega
  obtain ⟨c, hc, v, hv, hrun⟩ := preflop_turn hb.seated hb.labelled hp hround hsame hbeRo hru hne
  have hturning := hv.turning
  have hsv := hsu.congr hturning.same.frame
  have hlv : Refreshed v := hlu.congr hturning.same.labels
  have hallv : v.allInCondition = false := hturning.same.all.trans hallu
  have hroundv : v.currentRound = .preflop :=
    ((hturning.same.round.trans hsame.round).trans (refresh_currentRound h)).trans hround
  have hcv : c ∈ v.runningPlayerList := by rwa [hturning.same.running]
  have hunopened : Unopened v := by
    have hh : Unopened h := by
      cases hp with
      | dealt _ _ _ _ _ hh => exact hh
      | preflop _ _ hh => exact hh
      | opened _ hpre => exact absurd hround hpre
      | acted _ hpre => exact absurd hround hpre
      | alone _ hpre => exact absurd hround hpre
    exact hturning.unopened (hu ▸ unopened_noteRound (unopened_refresh hh))
  obtain ⟨j, hj, hasks, hresult⟩ := preflopTurn_result hsv hlv.sub hcv hturning.turn
  have hadvance : h.advance = v.preflopTurn := by
    rw [advance, if_neg (by simp [hallu]), hrun]
  rw [hresult] at hadvance
  obtain ⟨it, _, hj'⟩ := turnToNext_cases hj
  have hunopenedj : Unopened j := by
    rw [hj']
    exact unopened_setBeRo hunopened _
  refine ⟨c, hc, v, hv, ?_⟩
  by_cases hclose : v.getCurrentBeRo.firstRound = false ∧ v.allHighestSet = true
  · rw [if_pos hclose] at hadvance
    have htwo : 2 ≤ v.runningPlayerList.length := by
      rw [hturning.same.running]
      have hset : h.switchRounds.allHighestSet = true := by
        rw [← hclose.2]
        simp only [allHighestSet, hturning.same.running, hturning.same.players, hturning.same.highestSet]
      by_contra hlt
      have hlen := List.length_pos_iff.mpr hne
      rw [hdetectu (by omega)] at hset
      cases hset
    have hlj : Refreshed j := hlv.congr (sameLabels_rfl hasks.players hasks.active hasks.running)
    obtain ⟨hflop, hallk, hrunningk, hbeRok, hlk⟩ := closePreflop_opened (hsv.congr (by rw [hj']; exact frame_setBeRo rfl))
      hlj (hasks.all.trans hallv) (by rwa [hasks.running])
    refine .closes hj hasks hclose.1 hclose.2 hadvance (.opened hlk ?_ ?_ ?_) hallk hflop
    · rw [hflop]
      decide
    · rw [getCurrentBeRo, hflop, hbeRok]
      exact hunopenedj.2 .flop (by decide)
    · rw [hrunningk, hasks.running]
      exact htwo
  · rw [if_neg hclose] at hadvance
    have hend := asks_endFirstRound hasks
    obtain ⟨hcur, hactive⟩ := getCurrentPlayer_of_asks hsv hlv.sub hend (Cyclic.next_mem hcv)
    have hroundk : j.endFirstRound.currentRound = .preflop := hend.round.trans hroundv
    have hallk : j.endFirstRound.allInCondition = false := hend.all.trans hallv
    refine .asks hj hasks hclose hadvance ?_ hroundk hallk ?_ ?_
    · exact engineLoop_ask hadvance (hroundk.trans hround.symm) hb.betting hallk hcur hactive
    · rw [endFirstRound_firstRunGui, hj', setCurrentPlayersTurnId, getCurrentBeRo_setBeRo]
      exact hturning.gui
    · simp only [endFirstRound]
      split_ifs
      · exact unopened_setBeRo hunopenedj _
      · exact hunopenedj

end PokerTH.HandRun
