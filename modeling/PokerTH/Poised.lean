import PokerTH.BlindSeats
import PokerTH.TurnPasses

namespace PokerTH.Hand

open HandRun PokerTH.Lists

variable {maxPlayers : Nat} {h h' j k u v : Hand} {r c c' sb bb last : Ref} {action : PlayerAction} {bet : Int}

/-- Between an action of `c` and the engine: the turn is with `c`, and nobody else leaves the betting. -/
structure ActedBy (h : Hand) (c : Ref) : Prop where
  running : c ∈ h.runningPlayerList
  turn : h.getCurrentBeRo.currentPlayersTurnId = h.uniqueID c
  stays : ∀ q ∈ h.runningPlayerList, q ≠ c → leavesRunning (h.players q) = false

theorem eraseRunning_stays (h : Hand) (kept rest : List Ref) {l : List Ref}
    (hl : ∀ q ∈ l, leavesRunning (h.players q) = false) :
    h.eraseRunning kept (l ++ rest) = h.eraseRunning (kept ++ l) rest := by
  induction l generalizing kept with
  | nil => simp
  | cons q l ih =>
      have hq := hl q List.mem_cons_self
      rw [List.cons_append, eraseRunning, if_neg (by simp [hq]), ih _ fun p hp => hl p (List.mem_cons_of_mem q hp)]
      simp

/-- What the refreshed running list and the turn are after an action of `c`. -/
inductive TurnKept (h : Hand) (c c' : Ref) : Prop
  | stays (hstay : leavesRunning (h.players c) = false) (hc : c' = c) (hrefresh : h.refreshRunningPlayerList = h) :
      TurnKept h c c'
  | leaves (hleave : leavesRunning (h.players c) = true)
      (hafter : Cyclic.after h.runningPlayerList c =
        Cyclic.after h.refreshRunningPlayerList.runningPlayerList c' ++ [c]) : TurnKept h c c'

/-- When `c` leaves the betting, the turn goes back to the running player before him. -/
theorem refresh_turn (hnodup : h.runningPlayerList.Nodup) (ha : ActedBy h c)
    (hne : h.refreshRunningPlayerList.runningPlayerList ≠ []) :
    ∃ c' ∈ h.refreshRunningPlayerList.runningPlayerList,
      h.refreshRunningPlayerList.getCurrentBeRo.currentPlayersTurnId = h.uniqueID c' ∧ TurnKept h c c' := by
  cases hleave : leavesRunning (h.players c) with
  | false =>
      have hrefresh : h.refreshRunningPlayerList = h := refresh_of_stays fun q hq => by
        by_cases hqc : q = c
        · rwa [hqc]
        · exact ha.stays q hq hqc
      refine ⟨c, ?_, ?_, .stays hleave rfl hrefresh⟩
      · rw [hrefresh]
        exact ha.running
      · rw [hrefresh]
        exact ha.turn
  | true =>
      obtain ⟨A, B, hsplit, hA⟩ := List.eq_append_cons_of_mem ha.running
      have hB : c ∉ B := by
        rw [hsplit, List.nodup_append] at hnodup
        exact (List.nodup_cons.mp hnodup.2.1).1
      have hstays (l : List Ref) (hl : l ⊆ h.runningPlayerList) (hc : c ∉ l) :
          ∀ q ∈ l, leavesRunning (h.players q) = false :=
        fun q hq => ha.stays q (hl hq) fun he => hc (he ▸ hq)
      have hstayA := hstays A (by simp [hsplit]) hA
      have hstayB := hstays B (fun q hq => by simp [hsplit, hq]) hB
      have herase : h.refreshRunningPlayerList = h.eraseRunning A (c :: B) := by
        rw [refreshRunningPlayerList, hsplit, eraseRunning_stays h [] (c :: B) hstayA, List.nil_append]
      rw [eraseRunning, if_pos hleave] at herase
      cases hq : (B ++ A).getLast? with
      | none =>
          have hempty : B = [] ∧ A = [] := by simpa using List.getLast?_eq_none_iff.mp hq
          rw [refresh_runningPlayerList, hsplit, hempty.1, hempty.2] at hne
          simp [hleave] at hne
      | some q =>
          simp only [hq] at herase
          have hkeep := eraseRunning_stays (h.setCurrentPlayersTurnId (h.uniqueID q)) A [] hstayB
          rw [List.append_nil] at hkeep
          rw [hkeep] at herase
          have hrunning : h.refreshRunningPlayerList.runningPlayerList = A ++ B := by rw [herase]; rfl
          obtain ⟨hmem, hafter⟩ := Cyclic.after_erase (hsplit ▸ hnodup) hq
          refine ⟨q, ?_, ?_, .leaves hleave ?_⟩
          · rwa [hrunning]
          · rw [herase]
            simp [eraseRunning, setCurrentPlayersTurnId, getCurrentBeRo]
          · rw [hrunning, ← hafter, ← hsplit]

def Unopened (h : Hand) : Prop :=
  h.currentRound = .preflop ∧ ∀ s, s ≠ .preflop → (h.myBeRo s).firstRound = true

theorem unopened_setBeRo (hu : Unopened h) (b : BeRo) : Unopened (h.setBeRo b) := by
  refine ⟨hu.1, fun s hs => ?_⟩
  rw [setBeRo_myBeRo, hu.1, Function.update_of_ne hs]
  exact hu.2 s hs

theorem unopened_refresh (hu : Unopened h) : Unopened h.refreshRunningPlayerList := by
  refine ⟨(refresh_currentRound h).trans hu.1, fun s hs => ?_⟩
  rw [refresh_firstRound]
  exact hu.2 s hs

theorem unopened_noteRound (hu : Unopened h) : Unopened h.noteRound := by
  simp only [noteRound]
  split_ifs
  · exact hu
  · exact hu

inductive Poised (h : Hand) : Prop
  | dealt {sb bb : Ref} (hseats : BlindSeats h sb bb) (hposted : Posted h)
      (hrunning : h.runningPlayerList = h.activePlayerList) (hgui : h.getCurrentBeRo.firstRunGui = true)
      (hfirst : h.getCurrentBeRo.firstRound = true) (hunopened : Unopened h) : Poised h
  | preflop {c : Ref} (hacted : ActedBy h c) (hgui : h.getCurrentBeRo.firstRunGui = false)
      (hunopened : Unopened h) : Poised h
  | opened (hl : Refreshed h) (hpre : h.currentRound ≠ .preflop) (hfirst : h.getCurrentBeRo.firstRound = true)
      (htwo : 2 ≤ h.runningPlayerList.length) : Poised h
  | acted {c last : Ref} (hacted : ActedBy h c) (hpre : h.currentRound ≠ .preflop)
      (hfirst : h.getCurrentBeRo.firstRound = true) (hmem : last ∈ h.runningPlayerList) (hne : last ≠ c)
      (hlast : h.lastBeforeSmallBlind = .ok (h.uniqueID last)) : Poised h
  | alone {c : Ref} (hacted : ActedBy h c) (hpre : h.currentRound ≠ .preflop)
      (hfirst : h.getCurrentBeRo.firstRound = false) : Poised h

/-- On a hand just dealt, the first run finds a running player to start from. -/
theorem preflopLast_ok (hs : Seated maxPlayers h) (hr : Rounds u) (hseats : BlindSeats h sb bb) (hposted : Posted h)
    (hrunning : h.runningPlayerList = h.activePlayerList) (hu : SameTable h.refreshRunningPlayerList u)
    (hne : u.runningPlayerList ≠ []) :
    ∃ last ∈ u.runningPlayerList, u.preflopLast = .ok (some (u.uniqueID last)) := by
  have hf := hu.frame.trans (frame_refresh h)
  have hsu := hs.congr hf
  have hseatsu := hseats.congr hf
  have hactive := frame_activePlayerList hf
  have hrun : u.runningPlayerList = h.activePlayerList.filter fun r => !leavesRunning (h.players r) := by
    rw [hu.running, refresh_runningPlayerList, hrunning]
  have hsub : u.runningPlayerList.Sublist u.activePlayerList := by
    rw [hrun, hactive]
    exact List.filter_sublist
  cases hlast : u.preflopLast with
  | error e =>
      simp only [preflopLast] at hlast
      have hsmall : u.getActivePlayerIt u.getCurrentBeRo.smallBlindPositionId ≠ none := by
        intro hnone
        simp only [getActivePlayerIt, findPlayer, List.find?_eq_none] at hnone
        apply hnone sb hseatsu.small_mem
        rw [getCurrentBeRo, hseatsu.smallId, beq_iff_eq]
        rfl
      split at hlast
      · cases hlast
      · cases hlast
      · split_ifs at hlast
        split at hlast
        · next hnone => exact absurd hnone hsmall
        · cases hlast
  | ok start =>
      cases start with
      | none => exact absurd hlast (preflopLast_ne_none hr hsub hne)
      | some id =>
          simp only [preflopLast] at hlast
          split at hlast
          · next q hq =>
              cases hlast
              obtain ⟨hmem, hid⟩ := getRunningPlayerIt_some hq
              exact ⟨q, hmem, by rw [hid]⟩
          · next q _ hq =>
              cases hlast
              obtain ⟨hmem, hid⟩ := getRunningPlayerIt_some hq
              exact ⟨q, hmem, by rw [hid]⟩
          · next hbig hsmall =>
              split_ifs at hlast with hlen
              · split at hlast
                · cases hlast
                · next it hit =>
                    cases hlast
                    obtain ⟨hmem, hid⟩ := findPlayer_some hit
                    have hsb : it = sb := by
                      have hactiveit := hsu.mem_active.mp hmem
                      have hactivesb := hsu.mem_active.mp hseatsu.small_mem
                      refine hsu.ids.eq_of_id sb hactivesb.1 hactivesb.2 it hactiveit.1 (hid.trans ?_)
                      rw [getCurrentBeRo, hseatsu.smallId]
                      rfl
                    subst hsb
                    -- the player before the small blind has no blind, so that he has not left
                    obtain ⟨hne1, hne2⟩ := Cyclic.prev_ne hsu.active_nodup hlen hmem
                    have hprev := Cyclic.prev_mem hmem
                    refine ⟨_, ?_, rfl⟩
                    rw [hrun, List.mem_filter]
                    rw [hactive] at hprev hne1 hne2 ⊢
                    refine ⟨hprev, ?_⟩
                    by_contra hleave
                    rw [Bool.not_eq_true, Bool.not_eq_false'] at hleave
                    rcases hposted.leaves _ hprev hleave with hb | hb
                    · exact hne1 ((hseats.small _ hprev).mp hb)
                    · refine hne2 (((hseats.big _ hprev).mp hb).trans ?_)
                      rw [hactive] at hlen
                      exact (hseats.order hlen).symm
              · cases hlast

/-- Closing the first round with two players left to act opens the flop for them. -/
theorem closePreflop_opened (hs : Seated maxPlayers h) (hl : Refreshed h) (hall : h.allInCondition = false)
    (htwo : 2 ≤ h.runningPlayerList.length) : h.closePreflop.currentRound = .flop ∧
      h.closePreflop.allInCondition = false ∧ h.closePreflop.runningPlayerList = h.runningPlayerList ∧
      h.closePreflop.myBeRo = h.myBeRo ∧ Refreshed h.closePreflop := by
  have hround : Refreshed (h.setCurrentRound .flop) := hl.congr (sameLabels_rfl rfl rfl rfl)
  have hsets : Refreshed (h.setCurrentRound .flop).clearActions.collectSets :=
    hround.clearActions.congr (sameLabels_rfl rfl rfl rfl)
  have hcleared := hsets.congr (sameLabels_collectPot _)
  have hf : (h.setCurrentRound .flop).clearActions.collectSets.collectPot.frame = h.frame :=
    (frame_collectPot _).trans (frame_clearActions _)
  have hrefresh := refresh_of_stays hcleared.stays
  have hcount := hcleared.nonFold (hs.congr hf)
  have hdetect := not_detectAllIn hcleared (hs.congr hf) htwo
  have hrunning : (h.setCurrentRound .flop).clearActions.collectSets.collectPot.runningPlayerList =
      h.runningPlayerList := rfl
  rw [hrunning] at hcount
  have hsame : h.closePreflop = (h.setCurrentRound .flop).clearActions.collectSets.collectPot.noteRound := by
    rw [closePreflop]
    cases switchRounds_cases (h := (h.setCurrentRound .flop).clearActions.collectSets.collectPot) (by omega) hall with
    | last hn => omega
    | allIn htrue =>
        rw [hrefresh, hdetect] at htrue
        cases htrue
    | betting _ _ hsame => rw [hsame, hrefresh]
  have hnote := sameTable_noteRound (h.setCurrentRound .flop).clearActions.collectSets.collectPot
  rw [hsame]
  refine ⟨hnote.round, hnote.all.trans hall, hnote.running, ?_, hcleared.congr hnote.labels⟩
  simp only [noteRound]
  split_ifs <;> rfl

end PokerTH.Hand
