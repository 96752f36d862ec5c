import PokerTH.FirstRound

namespace PokerTH.Hand

open HandRun

variable {maxPlayers : Nat} {t : Table} {h h' k u : Hand} {r last : Ref}

structure Asks (h k : Hand) (r : Ref) : Prop where
  players : k.players = h.players
  seats : k.seatsList = h.seatsList
  active : k.activePlayerList = h.activePlayerList
  running : k.runningPlayerList = h.runningPlayerList
  round : k.currentRound = h.currentRound
  all : k.allInCondition = h.allInCondition
  turn : k.getCurrentBeRo.currentPlayersTurnId = h.uniqueID r

theorem asks_endFirstRound (ha : Asks h k r) : Asks h k.endFirstRound r := by
  simp only [endFirstRound]
  split_ifs
  · exact ⟨ha.players, ha.seats, ha.active, ha.running, ha.round, ha.all, by
      rw [setFirstRound, getCurrentBeRo_setBeRo]
      exact ha.turn⟩
  · exact ha

theorem getRunningPlayerIt_self (hs : Seated maxPlayers h) (hsub : h.runningPlayerList.Sublist h.activePlayerList)
    (hr : r ∈ h.runningPlayerList) : h.getRunningPlayerIt (h.uniqueID r) = some r := by
  obtain ⟨q, hq⟩ := Option.ne_none_iff_exists'.mp (getRunningPlayerIt_ne_none hr rfl)
  obtain ⟨hmem, hid⟩ := getRunningPlayerIt_some hq
  rw [hq, uniqueID_inj hs hsub hr hmem hid]

theorem turnToNext_asks (hs : Seated maxPlayers h) (hsub : h.runningPlayerList.Sublist h.activePlayerList)
    (hr : r ∈ h.runningPlayerList) (hid : h.getCurrentBeRo.currentPlayersTurnId = h.uniqueID r) :
    ∃ k, h.turnToNext = .ok k ∧ Asks h k (Cyclic.next h.runningPlayerList r) := by
  refine ⟨h.setCurrentPlayersTurnId (h.uniqueID (Cyclic.next h.runningPlayerList r)), ?_,
    rfl, rfl, rfl, rfl, rfl, rfl, ?_⟩
  · rw [turnToNext, hid, getRunningPlayerIt_self hs hsub hr]
  · rw [setCurrentPlayersTurnId, getCurrentBeRo_setBeRo]

/-- In the first round, the run asks the player after the last one before the small blind. -/
theorem localRun_first (hs : Seated maxPlayers h) (hsub : h.runningPlayerList.Sublist h.activePlayerList)
    (hgui : h.getCurrentBeRo.firstRunGui = false) (hfirst : h.getCurrentBeRo.firstRound = true)
    (hall : h.allInCondition = false) (hmem : last ∈ h.runningPlayerList)
    (hlast : h.lastBeforeSmallBlind = .ok (h.uniqueID last)) :
    ∃ k, h.localRun = .ok k ∧ Asks h k (Cyclic.next h.runningPlayerList last) := by
  have hrestart : h.restartTurn = .ok ((h.setFirstRoundLastPlayersTurnId (h.uniqueID last)).setCurrentPlayersTurnId
      (h.uniqueID last)) := by
    simp [restartTurn, hfirst, hall, hlast, Except.map]
  obtain ⟨k, hk, hasks⟩ := turnToNext_asks (h := (h.setFirstRoundLastPlayersTurnId
    (h.uniqueID last)).setCurrentPlayersTurnId (h.uniqueID last)) (r := last)
    (hs.congr ((frame_setCurrentPlayersTurnId _ _).trans (frame_setFirstRoundLastPlayersTurnId h _))) hsub hmem
    (by simp [setCurrentPlayersTurnId]; rfl)
  have hfirst' : ((h.setFirstRoundLastPlayersTurnId (h.uniqueID last)).setCurrentPlayersTurnId
      (h.uniqueID last)).getCurrentBeRo.firstRound = true := by
    simp [setCurrentPlayersTurnId, setFirstRoundLastPlayersTurnId, hfirst]
  refine ⟨k.endFirstRound, ?_, asks_endFirstRound ⟨hasks.players, hasks.seats, hasks.active, hasks.running,
    hasks.round, hasks.all, hasks.turn⟩⟩
  simp [localRun, hgui, hrestart, hfirst', hk, bind, Except.bind, pure, Except.pure]

/-- After the first round, the run asks the next player as long as somebody owes chips. -/
theorem localRun_later (hs : Seated maxPlayers h) (hsub : h.runningPlayerList.Sublist h.activePlayerList)
    (hgui : h.getCurrentBeRo.firstRunGui = false) (hfirst : h.getCurrentBeRo.firstRound = false)
    (howes : h.allHighestSet = false) (hmem : r ∈ h.runningPlayerList)
    (hid : h.getCurrentBeRo.currentPlayersTurnId = h.uniqueID r) :
    ∃ k, h.localRun = .ok k ∧ Asks h k (Cyclic.next h.runningPlayerList r) := by
  have hrestart : h.restartTurn = .ok h := by
    simp [restartTurn, hfirst]
  obtain ⟨k, hk, hasks⟩ := turnToNext_asks hs hsub hmem hid
  refine ⟨k.endFirstRound, ?_, asks_endFirstRound hasks⟩
  simp [localRun, hgui, hrestart, howes, hk, bind, Except.bind, pure, Except.pure]

theorem run_of_postFlop (hpre : h.currentRound ≠ .preflop) (hpost : h.currentRound ≠ .postRiver) :
    h.run = h.localRun := by
  cases hround : h.currentRound with
  | preflop => exact absurd hround hpre
  | postRiver => exact absurd hround hpost
  | flop | turn | river => simp [run, hround]

inductive SwitchCases (h : Hand) : Prop
  | last (hn : h.nonFoldPlayerCounter = 1) (hround : h.switchRounds.currentRound = .postRiver)
      (hall : h.switchRounds.allInCondition = false) : SwitchCases h
  | allIn (hdetect : h.refreshRunningPlayerList.detectAllIn = true)
      (hround : h.switchRounds.currentRound = h.currentRound.next) (hall : h.switchRounds.allInCondition = true) :
      SwitchCases h
  | betting (hn : 2 ≤ h.nonFoldPlayerCounter) (hdetect : h.refreshRunningPlayerList.detectAllIn = false)
      (hsame : h.switchRounds = h.refreshRunningPlayerList.noteRound) : SwitchCases h

theorem refresh_nonFoldPlayerCounter (h : Hand) :
    h.refreshRunningPlayerList.nonFoldPlayerCounter = h.nonFoldPlayerCounter := by
  simp only [nonFoldPlayerCounter, frame_activePlayerList (frame_refresh h), refresh_players]

theorem noteRound_fields (h : Hand) : h.noteRound.currentRound = h.currentRound ∧
    h.noteRound.allInCondition = h.allInCondition := by
  simp only [noteRound]
  split_ifs <;> exact ⟨rfl, rfl⟩

theorem switchRounds_cases (hn : 1 ≤ h.nonFoldPlayerCounter) (hall : h.allInCondition = false) : SwitchCases h := by
  have hcount := refresh_nonFoldPlayerCounter h
  have hall' : h.refreshRunningPlayerList.allInCondition = false := (refresh_allInCondition h).trans hall
  have hnote := noteRound_fields
  by_cases hone : h.nonFoldPlayerCounter = 1
  · have hdist : h.refreshRunningPlayerList.distributeOrDetect =
        h.refreshRunningPlayerList.collectPot.setCurrentRound .postRiver := by
      rw [distributeOrDetect, if_pos (by omega)]
    have hadvance : (h.refreshRunningPlayerList.collectPot.setCurrentRound .postRiver).advanceAllIn =
        h.refreshRunningPlayerList.collectPot.setCurrentRound .postRiver := by
      rw [advanceAllIn, if_neg]
      rintro ⟨htrue, _⟩
      change h.refreshRunningPlayerList.allInCondition = true at htrue
      rw [hall'] at htrue
      cases htrue
    refine .last hone ?_ ?_
    · rw [switchRounds, hdist, hadvance, (hnote _).1]
      rfl
    · rw [switchRounds, hdist, hadvance, (hnote _).2]
      exact hall'
  · by_cases hdetect : h.refreshRunningPlayerList.detectAllIn
    · have hdist : h.refreshRunningPlayerList.distributeOrDetect =
          h.refreshRunningPlayerList.setAllInCondition := by
        rw [distributeOrDetect, if_neg (by omega), if_pos ⟨by omega, hdetect⟩]
      have hadvance : h.refreshRunningPlayerList.setAllInCondition.advanceAllIn =
          h.refreshRunningPlayerList.setAllInCondition.collectPot.setCurrentRound
            h.refreshRunningPlayerList.setAllInCondition.currentRound.next := by
        rw [advanceAllIn, if_pos]
        refine ⟨rfl, ?_⟩
        change 2 ≤ h.refreshRunningPlayerList.nonFoldPlayerCounter
        omega
      refine .allIn hdetect ?_ ?_
      · rw [switchRounds, hdist, hadvance, (hnote _).1]
        exact congrArg GameState.next (refresh_currentRound h)
      · rw [switchRounds, hdist, hadvance, (hnote _).2]
        rfl
    · have hdist : h.refreshRunningPlayerList.distributeOrDetect = h.refreshRunningPlayerList := by
        rw [distributeOrDetect, if_neg (by omega), if_neg (fun hd => hdetect hd.2)]
      have hadvance : h.refreshRunningPlayerList.advanceAllIn = h.refreshRunningPlayerList := by
        rw [advanceAllIn, if_neg]
        rintro ⟨htrue, _⟩
        rw [hall'] at htrue
        cases htrue
      refine .betting (by omega) (by simpa using hdetect) ?_
      rw [switchRounds, hdist, hadvance]

end PokerTH.Hand
