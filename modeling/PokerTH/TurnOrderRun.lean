import PokerTH.TurnOrder

namespace PokerTH.HandRun

open Hand PokerTH.Lists Relation

variable {maxPlayers : Nat} {t : Table} {g : Game} {h h' k k' u : Hand} {s s' : State} {r r' last : Ref}

/-- The outcomes of the engine that end the round of `h` and no other. -/
inductive ClosesRound (h : Hand) : EngineOutcome → Prop
  | nextRound {h' : Hand} {showCards : Bool} (hround : h'.currentRound.toNat = h.currentRound.toNat + 1) :
      ClosesRound h (.nextRound h' showCards)
  | endOfHand {h' : Hand} (hround : h.currentRound = .river) : ClosesRound h (.endOfHand h')

theorem getCurrentPlayer_of_asks (hs : Seated maxPlayers h) (hsub : h.runningPlayerList.Sublist h.activePlayerList)
    (ha : Asks h k r) (hmem : r ∈ h.runningPlayerList) : k.getCurrentPlayer = .ok r ∧ (k.players r).myActiveStatus := by
  obtain ⟨hseat, hactive⟩ := hs.mem_active.mp (hsub.subset hmem)
  have hactive' : (k.players r).myActiveStatus := by rwa [ha.players]
  refine ⟨?_, hactive'⟩
  have hfind : k.getPlayerByUniqueId (h.uniqueID r) = some r := by
    rw [getPlayerByUniqueId, getSeatIt, ha.seats, ha.players]
    cases hp : findPlayer h.players h.seatsList (h.uniqueID r) with
    | none =>
        rw [findPlayer, List.find?_eq_none] at hp
        exact absurd (beq_self_eq_true _) (hp r hseat)
    | some q =>
        obtain ⟨hq, hid⟩ := findPlayer_some hp
        rw [hs.ids.eq_of_id r hseat hactive q hq hid]
  rw [getCurrentPlayer, ha.turn, hfind]

theorem engineLoop_ask (hk : k.advance = .ok u) (hsame : u.currentRound = k.currentRound)
    (hopen : k.currentRound ≠ .postRiver) (hall : u.allInCondition = false) (hcur : u.getCurrentPlayer = .ok r)
    (hactive : (u.players r).myActiveStatus) : k.engineLoop maxPlayers = .ok (.playersTurn u r) := by
  simp [engineLoop, hk, bind, Except.bind, hsame, hopen, hall, hcur, hactive, pure, Except.pure]

theorem engineLoop_close (hend : u.currentRound = .postRiver → ∃ h', k.engineLoop maxPlayers = .ok (.endOfHand h'))
    (hk : k.advance = .ok u) (hround : u.currentRound = k.currentRound.next) (hopen : k.currentRound ≠ .postRiver) :
    ∃ out, k.engineLoop maxPlayers = .ok out ∧ ClosesRound k out := by
  by_cases hpost : u.currentRound = .postRiver
  · obtain ⟨h', hrun⟩ := hend hpost
    have hriver : k.currentRound = .river := by
      rw [hround] at hpost
      cases hr : k.currentRound <;> simp [hr, GameState.next] at hpost hopen ⊢
    exact ⟨_, hrun, .endOfHand hriver⟩
  · have hnat := GameState.next_toNat hopen
    rw [← hround] at hnat
    have hne : u.currentRound ≠ k.currentRound := by
      intro he
      rw [he] at hnat
      omega
    by_cases hshow : u.allInCondition = true ∧ ¬ u.cardsShown = true ∧ u.nonFoldPlayerCounter > 1
    · refine ⟨.nextRound { u with cardsShown := true } true, ?_, .nextRound hnat⟩
      simp only [engineLoop, hk, bind, Except.bind, hne, hpost, ne_eq, not_false_eq_true, and_self, if_true,
        if_pos hshow]
      rw [if_neg (by omega)]
      rfl
    · refine ⟨.nextRound u false, ?_, .nextRound hnat⟩
      simp only [engineLoop, hk, bind, Except.bind, hne, hpost, ne_eq, not_false_eq_true, and_self, if_true,
        if_neg hshow]
      rw [if_neg (by omega)]
      rfl

structure Acted (maxPlayers : Nat) (k : Hand) : Prop where
  seated : Seated maxPlayers k
  labelled : Labelled k
  rounds : Rounds k
  all : k.allInCondition = false
  nonFold : 1 ≤ k.nonFoldPlayerCounter
  afterFlop : k.currentRound ≠ .preflop
  betting : k.currentRound ≠ .postRiver

theorem advance_last (hround : k.switchRounds.currentRound = .postRiver) : k.advance = .ok k.switchRounds := by
  simp only [advance]
  split_ifs
  · rfl
  · rw [run, hround]

theorem advance_allIn (hall : k.switchRounds.allInCondition = true) : k.advance = .ok k.switchRounds := by
  rw [advance, if_pos hall]

structure Betting (k u : Hand) : Prop where
  switched : u = k.switchRounds
  same : SameTable k.refreshRunningPlayerList u
  run : k.advance = u.localRun
  gui : u.getCurrentBeRo.firstRunGui = false
  first : u.getCurrentBeRo.firstRound = k.getCurrentBeRo.firstRound
  detect : k.refreshRunningPlayerList.detectAllIn = false

theorem betting_of_cases (ha : Acted maxPlayers k) (hdetect : k.refreshRunningPlayerList.detectAllIn = false)
    (hu : k.switchRounds = k.refreshRunningPlayerList.noteRound) : Betting k k.switchRounds := by
  have hsame : SameTable k.refreshRunningPlayerList k.switchRounds := hu ▸ sameTable_noteRound _
  have hround : k.switchRounds.currentRound = k.currentRound := hsame.round.trans (refresh_currentRound k)
  have hall : k.switchRounds.allInCondition = false := (hsame.all.trans (refresh_allInCondition k)).trans ha.all
  have hskip : GuiSkipped k.switchRounds :=
    switchRounds_keeps (P := GuiSkipped) (fun _ hk => hk) (fun _ _ hk => hk) (fun _ _ hk => hk)
      (fun _ hk => guiSkipped_refresh hk) ha.rounds.gui
  refine ⟨rfl, hsame, ?_, ?_, ?_, hdetect⟩
  · rw [advance, if_neg (by simp [hall]), run_of_postFlop]
    · rw [hround]
      exact ha.afterFlop
    · rw [hround]
      exact ha.betting
  · rw [getCurrentBeRo, hround]
    exact hskip _ ha.afterFlop ha.betting
  · have hfirst := refresh_firstRound k k.currentRound
    rw [getCurrentBeRo, hround, hu]
    have hnote : (k.refreshRunningPlayerList.noteRound.myBeRo k.currentRound).firstRound =
        (k.refreshRunningPlayerList.myBeRo k.currentRound).firstRound := by
      simp only [noteRound]
      split_ifs <;> rfl
    rw [hnote, hfirst]
    rfl

inductive EngineCases (k : Hand) : Prop
  | last (hn : k.nonFoldPlayerCounter = 1) (hk : k.advance = .ok k.switchRounds)
      (hround : k.switchRounds.currentRound = .postRiver) : EngineCases k
  | allIn (hdetect : k.refreshRunningPlayerList.detectAllIn = true) (hk : k.advance = .ok k.switchRounds)
      (hround : k.switchRounds.currentRound = k.currentRound.next) : EngineCases k
  | betting (hn : 2 ≤ k.nonFoldPlayerCounter) (hb : Betting k k.switchRounds) : EngineCases k

theorem engine_cases (ha : Acted maxPlayers k) : EngineCases k := by
  cases switchRounds_cases ha.nonFold ha.all with
  | last hn hround _ => exact .last hn (advance_last hround) hround
  | allIn hdetect hround hall => exact .allIn hdetect (advance_allIn hall) hround
  | betting hn hdetect hu => exact .betting hn (betting_of_cases ha hdetect hu)

theorem engine_betting (ha : Acted maxPlayers k) (htwo : 2 ≤ k.refreshRunningPlayerList.runningPlayerList.length) :
    Betting k k.switchRounds := by
  have hs := ha.seated.congr (frame_refresh k)
  cases engine_cases ha with
  | betting _ hb => exact hb
  | allIn hdetect _ _ =>
      rw [not_detectAllIn ha.labelled.refresh hs htwo] at hdetect
      cases hdetect
  | last hn _ _ =>
      have hcount := ha.labelled.refresh.nonFold hs
      rw [refresh_nonFoldPlayerCounter] at hcount
      omega

theorem refresh_of_stays (hstay : ∀ q ∈ h.runningPlayerList, leavesRunning (h.players q) = false) :
    h.refreshRunningPlayerList = h := by
  have hkeep (kept rest : List Ref) (hrest : ∀ q ∈ rest, leavesRunning (h.players q) = false) :
      h.eraseRunning kept rest = { h with runningPlayerList := kept ++ rest } := by
    induction rest generalizing kept with
    | nil => simp [eraseRunning]
    | cons q rest ih =>
        have hq := hrest q List.mem_cons_self
        rw [eraseRunning, if_neg (by simp [hq]), ih _ fun p hp => hrest p (List.mem_cons_of_mem q hp)]
        simp
  exact hkeep [] _ hstay

theorem Betting.running (hb : Betting k u) : u.runningPlayerList =
    k.runningPlayerList.filter fun q => !leavesRunning (k.players q) :=
  hb.same.running.trans (refresh_runningPlayerList k)

theorem Betting.refreshed (ha : Acted maxPlayers k) (hb : Betting k u) : Seated maxPlayers u ∧ Refreshed u :=
  ⟨ha.seated.congr (hb.same.frame.trans (frame_refresh k)), ha.labelled.refresh.congr hb.same.labels⟩

theorem Betting.round (hb : Betting k u) : u.currentRound = k.currentRound :=
  hb.same.round.trans (refresh_currentRound k)

theorem Betting.asks (ha : Acted maxPlayers k) (hb : Betting k u) (hrun : u.localRun = .ok k') (hasks : Asks u k' r)
    (hmem : r ∈ u.runningPlayerList) : k.engineLoop maxPlayers = .ok (.playersTurn k' r) := by
  obtain ⟨hs, hl⟩ := Betting.refreshed ha hb
  obtain ⟨hcur, hactive⟩ := getCurrentPlayer_of_asks hs hl.sub hasks hmem
  have hall : u.allInCondition = false := (hb.same.all.trans (refresh_allInCondition k)).trans ha.all
  exact engineLoop_ask (hb.run.trans hrun) (hasks.round.trans hb.round) ha.betting (hasks.all.trans hall) hcur hactive

/-- As long as the first round lasts, the engine starts from the last player before the small blind. -/
theorem Betting.first_asks (ha : Acted maxPlayers k) (hb : Betting k u) (hfirst : k.getCurrentBeRo.firstRound = true)
    (hmem : last ∈ u.runningPlayerList) (hlast : k.lastBeforeSmallBlind = .ok (k.uniqueID last)) :
    ∃ k', k.engineLoop maxPlayers = .ok (.playersTurn k' (Cyclic.next u.runningPlayerList last)) ∧
      k'.runningPlayerList = u.runningPlayerList := by
  obtain ⟨hs, hl⟩ := Betting.refreshed ha hb
  have hall : u.allInCondition = false := (hb.same.all.trans (refresh_allInCondition k)).trans ha.all
  have hsub : u.runningPlayerList.Sublist k.runningPlayerList := by
    rw [hb.running]
    exact List.filter_sublist
  have hlast' := lastBeforeSmallBlind_shrink ha.seated ha.labelled.sub hsub hmem
    (hb.same.frame.trans (frame_refresh k)) hb.round hlast
  obtain ⟨k', hrun, hasks⟩ := localRun_first hs hl.sub hb.gui (hb.first.trans hfirst) hall hmem hlast'
  exact ⟨k', Betting.asks ha hb hrun hasks (Cyclic.next_mem hmem), hasks.running⟩

theorem Betting.alone_asks (ha : Acted maxPlayers k) (hb : Betting k u) (hfirst : k.getCurrentBeRo.firstRound = false)
    (hone : k.runningPlayerList = [r]) (hstay : leavesRunning (k.players r) = false)
    (hturn : k.getCurrentBeRo.currentPlayersTurnId = k.uniqueID r) :
    (k.players r).mySet < k.getCurrentBeRo.highestSet ∧
      ∃ k', k.engineLoop maxPlayers = .ok (.playersTurn k' r) ∧ k'.runningPlayerList = [r] ∧ k'.players = k.players := by
  have hrefresh : k.refreshRunningPlayerList = k := refresh_of_stays fun q hq => by
    rw [hone, List.mem_singleton] at hq
    rwa [hq]
  obtain ⟨hs, hl⟩ := Betting.refreshed ha hb
  have hsame := hb.same
  have hdetect := hb.detect
  rw [hrefresh] at hsame hdetect
  have hone' : u.runningPlayerList = [r] := hsame.running.trans hone
  have howes := owes_of_alone (hrefresh ▸ ha.labelled.refresh) ha.seated hdetect hone
  have hall : u.allHighestSet = false := by
    simp only [allHighestSet, hone', List.all_cons, List.all_nil, Bool.and_true, beq_eq_false_iff_ne,
      hsame.players, hsame.highestSet]
    omega
  have hturn' : u.getCurrentBeRo.currentPlayersTurnId = u.uniqueID r := by
    have hu : u = k.noteRound := by
      have hcases := hb.switched
      rw [hcases]
      cases switchRounds_cases ha.nonFold ha.all with
      | last _ hround _ =>
          rw [← hcases, hb.round] at hround
          exact absurd hround ha.betting
      | allIn _ _ htrue =>
          rw [← hcases, hsame.all, ha.all] at htrue
          cases htrue
      | betting _ _ hu => rw [hu, hrefresh]
    rw [hu]
    simp only [noteRound]
    split_ifs
    · exact hturn
    · exact hturn
  have hmem : r ∈ u.runningPlayerList := by simp [hone']
  obtain ⟨k', hrun, hasks⟩ := localRun_later hs hl.sub hb.gui (hb.first.trans hfirst) hall hmem hturn'
  have hnext : Cyclic.next u.runningPlayerList r = r := by
    rw [hone']
    simp [Cyclic.next, Cyclic.after]
  rw [hnext] at hasks
  exact ⟨howes, k', Betting.asks ha hb hrun hasks hmem, hasks.running.trans hone', hasks.players.trans hsame.players⟩

end PokerTH.HandRun
