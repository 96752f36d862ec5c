import PokerTH.HandRun

namespace PokerTH.Hand

variable {h h' k : Hand}

section

variable {P : Hand → Prop}
  (hbeRo : ∀ h b, (getCurrentBeRo h).Moved b → P h → P (setBeRo h b))
  (hrefresh : ∀ h, P h → P (refreshRunningPlayerList h)) (hall : ∀ h, P h → P (setAllInCondition h))
  (hpot : ∀ h, P h → P (collectPot h)) (hround : ∀ h s, P h → P (setCurrentRound h s))
  (hnote : ∀ h s, P h → P { h with roundBeforePostRiver := s }) (hclear : ∀ h, P h → P (clearActions h))
  (hsets : ∀ h, P h → P (collectSets h))

include hbeRo hrefresh hall hpot hround hnote hclear hsets

/-- What holds once the running list is refreshed and every piece of the engine keeps holds after one
turn of the engine. -/
theorem advance_of_refresh (h0 : P h.refreshRunningPlayerList) (hrun : h.advance = .ok h') : P h' := by
  have hswitch (h : Hand) (hh : P h.refreshRunningPlayerList) : P h.switchRounds :=
    switchRounds_of_refresh hall (fun h s hh => hround _ s (hpot h hh)) hnote hh
  have hcollect (h : Hand) (hh : P h) : P h.clearActions.collectSets.collectPot.switchRounds :=
    hswitch _ (hrefresh _ (hpot _ (hsets _ (hclear h hh))))
  have hclose (h : Hand) (hh : P h) : P h.closeRound := by
    simp only [closeRound]
    split_ifs
    · exact hround _ _ (hcollect h hh)
    · exact hcollect h hh
  simp only [advance] at hrun
  split_ifs at hrun
  · cases hrun
    exact hswitch h h0
  · exact run_keeps hbeRo hclose (fun h hh => hcollect _ (hround h .flop hh)) (hswitch h h0) hrun

theorem advance_keeps (h0 : P h) (hrun : h.advance = .ok h') : P h' :=
  advance_of_refresh hbeRo hrefresh hall hpot hround hnote hclear hsets (hrefresh h h0) hrun

end

inductive LoopCases (maxPlayers : Nat) (h k : Hand) : EngineOutcome → Prop
  | nextRound {showCards : Bool} (hlt : h.currentRound.toNat < k.currentRound.toNat)
      (hopen : k.currentRound ≠ .postRiver) :
      LoopCases maxPlayers h k (.nextRound { k with cardsShown := k.cardsShown || showCards } showCards)
  | playersTurn {r : Ref} (hsame : k.currentRound = h.currentRound) (hopen : k.currentRound ≠ .postRiver)
      (hall : k.allInCondition = false) (hplayer : k.getCurrentPlayer = .ok r)
      (hactive : (k.players r).myActiveStatus) : LoopCases maxPlayers h k (.playersTurn k r)
  | endOfHand {h' : Hand} (hround : k.currentRound = .postRiver) (hrun : k.postRiverRun maxPlayers = .ok h') :
      LoopCases maxPlayers h k (.endOfHand h')

theorem postRiverRun_cases {maxPlayers : Nat} (hrun : k.postRiverRun maxPlayers = .ok h') :
    ∃ players board, h' = { k with players, board } := by
  simp only [postRiverRun] at hrun
  cases hd : Board.distributePot k.players k.seatsList maxPlayers k.getCurrentBeRo.dealerPosition
      (Board.determinePlayerNeedToShowCards k.players k.activePlayerList k.board) with
  | error e => simp [hd, Except.map] at hrun
  | ok w =>
      simp only [hd, Except.map, Except.ok.injEq] at hrun
      exact ⟨_, _, hrun.symm⟩

theorem postRiverRun_currentRound {maxPlayers : Nat} (hrun : k.postRiverRun maxPlayers = .ok h') :
    h'.currentRound = k.currentRound := by
  obtain ⟨players, board, rfl⟩ := postRiverRun_cases hrun
  rfl

theorem engineLoop_cases {maxPlayers : Nat} {out : EngineOutcome} (hrun : h.engineLoop maxPlayers = .ok out) :
    ∃ k, h.advance = .ok k ∧ LoopCases maxPlayers h k out := by
  cases hk : h.advance with
  | error e => simp [engineLoop, hk, bind, Except.bind] at hrun
  | ok k =>
      refine ⟨k, rfl, ?_⟩
      simp only [engineLoop, hk, bind, Except.bind] at hrun
      by_cases hpost : k.currentRound = .postRiver
      · simp only [hpost, ne_eq, not_true, and_false, if_false] at hrun
        cases hp : k.postRiverRun maxPlayers with
        | error e => simp [hp] at hrun
        | ok h' =>
            simp only [hp] at hrun
            cases hrun
            exact .endOfHand hpost hp
      · by_cases hsame : k.currentRound = h.currentRound
        · simp only [hsame, ne_eq, not_true, false_and, if_false] at hrun
          rw [hsame] at hpost
          simp only [hpost, not_false_eq_true, if_true] at hrun
          cases hall : k.allInCondition with
          | true => simp [hall] at hrun
          | false =>
              cases hp : k.getCurrentPlayer with
              | error e => simp [hall, hp] at hrun
              | ok r =>
                  by_cases hactive : (k.players r).myActiveStatus
                  · simp only [hall, hp, hactive, if_true] at hrun
                    cases hrun
                    exact .playersTurn hsame (by rwa [hsame]) hall hp hactive
                  · simp [hall, hp, hactive] at hrun
        · simp only [hsame, hpost, ne_eq, not_false_eq_true, and_self, if_true] at hrun
          by_cases hle : k.currentRound.toNat ≤ h.currentRound.toNat
          · simp [hle] at hrun
          · by_cases hshow : k.allInCondition = true ∧ ¬ k.cardsShown = true ∧ k.nonFoldPlayerCounter > 1
            · simp only [hle, if_false, if_pos hshow] at hrun
              cases hrun
              simpa using @LoopCases.nextRound maxPlayers h k true (by omega) hpost
            · simp only [hle, hshow, if_false] at hrun
              cases hrun
              simpa using @LoopCases.nextRound maxPlayers h k false (by omega) hpost

end PokerTH.Hand
