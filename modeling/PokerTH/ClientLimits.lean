import PokerTH.ClientFolds
import PokerTH.LimitsRun

namespace PokerTH

namespace Hand

variable {h h' k : Hand} {r : Ref}

def blindLimits (h : Hand) (s : GameState) : Int × Int := ((h.myBeRo s).smallBlind, (h.myBeRo s).minimumRaise)

theorem SameLimits.blindLimits (hl : SameLimits h h') : h'.blindLimits = h.blindLimits := by
  funext s
  have hblind := congrArg BeRo.smallBlind (hl s)
  have hraise := congrArg BeRo.minimumRaise (hl s)
  exact Prod.ext hblind hraise

theorem blindLimits_setBeRo {b : BeRo} (hblind : b.smallBlind = h.getCurrentBeRo.smallBlind)
    (hraise : b.minimumRaise = h.getCurrentBeRo.minimumRaise) : (h.setBeRo b).blindLimits = h.blindLimits := by
  funext s
  simp only [blindLimits, setBeRo_myBeRo]
  by_cases hs : s = h.currentRound
  · subst hs
    rw [Function.update_self, hblind, hraise]
    rfl
  · rw [Function.update_of_ne hs]

theorem blindLimits_setMinimumRaise (h : Hand) (v : Int) : (h.setMinimumRaise v).blindLimits =
    Function.update h.blindLimits h.currentRound ((h.blindLimits h.currentRound).1, v) := by
  funext s
  simp only [blindLimits, setMinimumRaise, setBeRo_myBeRo]
  by_cases hs : s = h.currentRound
  · subst hs
    rw [Function.update_self, Function.update_self]
    rfl
  · rw [Function.update_of_ne hs, Function.update_of_ne hs]
    rfl

structure RaisesIn (h h' : Hand) : Prop where
  round : h'.currentRound = h.currentRound
  other : ∀ s, s ≠ h.currentRound → h'.blindLimits s = h.blindLimits s
  blind : (h'.blindLimits h.currentRound).1 = (h.blindLimits h.currentRound).1

theorem raisesIn_performPlayerAction (h : Hand) (r : Ref) (action : PlayerAction) (bet : Int) :
    RaisesIn h (h.performPlayerAction r action bet) := by
  have hfixed (s : GameState) := frame_beRo (frame_performPlayerAction h r action bet) s
  refine ⟨perform_currentRound h r action bet, fun s hs => ?_, ?_⟩
  · rw [blindLimits, blindLimits, perform_myBeRo_of_ne h r action bet hs]
  · have hblind := congrArg BeRo.smallBlind (hfixed h.currentRound)
    exact hblind

theorem raisesIn_handleMyAction {req filled : MyActionRequest}
    (hrun : h.handleMyAction r req = .ok (.valid, filled, h')) : RaisesIn h h' := by
  obtain ⟨_, _, _, _, _, _, rfl⟩ := handleMyAction_accepted hrun
  have hraises := raisesIn_performPlayerAction (h.setIsSessionActive r true) r filled.myAction filled.myRelativeBet.toInt
  exact ⟨hraises.round, hraises.other, hraises.blind⟩

theorem raisesIn_timeoutAction (h : Hand) (r : Ref) : RaisesIn h (h.timeoutAction r) := by
  simp only [timeoutAction]
  split_ifs
  · exact raisesIn_performPlayerAction h r .check 0
  · exact raisesIn_performPlayerAction h r .fold 0

theorem raisesIn_action (t : Betting) (r : Ref) (m : Mind) : RaisesIn t.hand (t.action r m).hand := by
  have hset {u : Hand} (h : RaisesIn t.hand u) {b : BeRo} (hb : b.smallBlind = u.getCurrentBeRo.smallBlind) :
      RaisesIn t.hand (u.setBeRo b) := by
    refine ⟨h.round, fun s hs => ?_, ?_⟩
    · have hne : s ≠ u.currentRound := h.round ▸ hs
      rw [← h.other s hs, blindLimits, blindLimits, setBeRo_myBeRo, Function.update_of_ne hne]
    · have hcurrent : t.hand.currentRound = u.currentRound := h.round.symm
      rw [← h.blind, hcurrent]
      simp only [blindLimits, setBeRo_myBeRo, Function.update_self]
      exact hb
  have hc : Betting.Closed (fun u => RaisesIn t.hand u.hand) r :=
    ⟨fun _ _ _ h => ⟨h.round, h.other, h.blind⟩, fun _ _ h => h, fun _ h => ⟨h.round, h.other, h.blind⟩,
      fun _ _ h => hset h rfl, fun _ _ h => hset h rfl, fun _ h => ⟨h.round, h.other, h.blind⟩⟩
  exact hc.action ⟨rfl, fun _ _ => rfl, rfl⟩ m

theorem blindLimits_engineLoop {maxPlayers : Nat} {out : EngineOutcome} (hrun : h.engineLoop maxPlayers = .ok out) :
    match out with
    | .nextRound h' _ | .playersTurn h' _ | .endOfHand h' => h'.blindLimits = h.blindLimits := by
  obtain ⟨k, hk, hcases⟩ := engineLoop_cases hrun
  have hsame := (advance_sameLimits hk).blindLimits
  cases hcases with
  | nextRound _ _ => exact hsame
  | playersTurn _ _ _ _ _ => exact hsame
  | endOfHand _ hpost =>
      obtain ⟨players, board, rfl⟩ := postRiverRun_cases hpost
      exact hsame

end Hand

namespace HandServer

open HandRun Hand

variable {maxPlayers : Nat} {s s' : ComputerRun.State} {msgs before : List Sent} {h h' : Hand} {round : GameState}

/-- What a client knows of the hand: its own state, the round that it was told last, and the limits. -/
structure Outlook where
  state : ClientState
  round : GameState
  limits : GameState → Int × Int

inductive Limits : Outlook → HandMsg → Outlook → Prop
  | acted {round : GameState} {l l' : GameState → Int × Int} {done : PlayersActionDoneMessage}
      (hother : ∀ s, s ≠ round → l' s = l s) (hblind : (l' round).1 = (l round).1)
      (hdone : done.minimumRaise = (l' round).2) :
      Limits ⟨.runHand, round, l⟩ (.playersActionDone done) ⟨.runHand, round, l'⟩
  | turn {round gameState : GameState} {l : GameState → Int × Int} {id : Nat} :
      Limits ⟨.runHand, round, l⟩ (.playersTurn id gameState) ⟨.runHand, gameState, l⟩
  | dealt {round gameState : GameState} {l : GameState → Int × Int} :
      Limits ⟨.runHand, round, l⟩ (.dealCards gameState) ⟨.runHand, round, l⟩
  | allIn {round : GameState} {l : GameState → Int × Int} {ids : List Nat} :
      Limits ⟨.runHand, round, l⟩ (.allInShowCards ids) ⟨.runHand, round, l⟩
  | hidden {round : GameState} {l : GameState → Int × Int} {id : Nat} {won money : Int} :
      Limits ⟨.runHand, round, l⟩ (.endOfHandHideCards id won money) ⟨.waitHand, round, l⟩
  | shown {round : GameState} {l : GameState → Int × Int} {results : List PlayerResult} :
      Limits ⟨.runHand, round, l⟩ (.endOfHandShowCards results) ⟨.waitHand, round, l⟩
  | afterHand {round : GameState} {l : GameState → Int × Int} {result : PlayerResult} :
      Limits ⟨.waitHand, round, l⟩ (.afterHandShowCards result) ⟨.waitHand, round, l⟩
  | renamed {round : GameState} {l : GameState → Int × Int} {old new : Nat} :
      Limits ⟨.waitHand, round, l⟩ (.playerIdChanged old new) ⟨.waitHand, round, l⟩

/-- What a message of the server means for the limits. Before an action the clients have been told the round. -/
def Bounds (a : Outlook) (m : Sent) (b : Outlook) : Prop :=
  Limits a m.msg b ∧ b.limits = m.hand.blindLimits ∧ ∀ id gameState, m.msg = .playersTurn id gameState →
    gameState = m.hand.currentRound

/-- The outlook of the server: while it waits for a player, or plays on, the clients know the round. -/
structure Outlooks (s : ComputerRun.State) (a : Outlook) : Prop where
  state : a.state = clientState s.phase
  round : s.phase = .waitPlayerAction → a.round = s.betting.hand.currentRound
  limits : a.limits = s.betting.hand.blindLimits

theorem bounds_turn (round : GameState) {l : GameState → Int × Int} (id : Nat) (hl : h.blindLimits = l) :
    Bounds ⟨.runHand, round, l⟩ (sent h (.playersTurn id h.currentRound)) ⟨.runHand, h.currentRound, l⟩ := by
  refine ⟨.turn, hl.symm, fun _ _ hmsg => ?_⟩
  cases hmsg
  rfl

theorem bounds_acted (hr : RaisesIn h h') (r : Ref) : Bounds ⟨.runHand, h.currentRound, h.blindLimits⟩
    (sent h' (h'.sendPlayerAction r)) ⟨.runHand, h.currentRound, h'.blindLimits⟩ := by
  refine ⟨.acted hr.other hr.blind ?_, rfl, nofun⟩
  have hmin : (h'.myBeRo h'.currentRound).minimumRaise = (h'.myBeRo h.currentRound).minimumRaise := by rw [hr.round]
  exact hmin

theorem bounds_loopTimer {t : Betting} {connected : Bool} {a : Outlook} (hstate : a.state = .runHand)
    (hl : a.limits = t.hand.blindLimits) (hrun : loopTimer maxPlayers t connected = some (s', msgs)) :
    ∃ b, Outlooks s' b ∧ Runs.Told Bounds a msgs b := by
  obtain ⟨state, round, l⟩ := a
  cases hstate
  simp only [loopTimer] at hrun
  split at hrun
  · next h showCards hloop =>
      cases hrun
      obtain ⟨k, _, hcases⟩ := engineLoop_cases hloop
      have hsame := (blindLimits_engineLoop hloop).trans hl.symm
      have hcards : h.sendNewRoundCards = [.dealCards h.currentRound] := by
        cases hcases with
        | nextRound hlt hopen => exact sendNewRoundCards_of_lt _ hlt hopen
      refine ⟨⟨.runHand, round, l⟩, ⟨rfl, by simp, hsame.symm⟩, ?_⟩
      rw [sendNewRound, hcards]
      cases showCards with
      | false => exact .single ⟨.dealt, hsame.symm, by simp [sent]⟩
      | true => exact .cons ⟨.allIn, hsame.symm, by simp [sent]⟩ (.single ⟨.dealt, hsame.symm, by simp [sent]⟩)
  · next h r hloop =>
      have hsame := (blindLimits_engineLoop hloop).trans hl.symm
      have hturn := bounds_turn round (h.uniqueID r) hsame
      split_ifs at hrun
      · cases hrun
        exact ⟨⟨.runHand, h.currentRound, l⟩, ⟨rfl, fun _ => rfl, hsame.symm⟩, .single hturn⟩
      · cases hrun
        have hacted := bounds_acted (raisesIn_performPlayerAction h r .fold 0) r
        rw [hsame] at hacted
        exact ⟨_, ⟨rfl, by simp, rfl⟩, .cons hturn (.single hacted)⟩
  · next h hloop =>
      cases hrun
      have hsame := (blindLimits_engineLoop hloop).trans hl.symm
      refine ⟨⟨.waitHand, round, l⟩, ⟨rfl, by simp, hsame.symm⟩, .single ?_⟩
      simp only [sent, sendEndOfHand]
      split
      · exact ⟨.hidden, hsame.symm, by simp⟩
      · exact ⟨.shown, hsame.symm, by simp⟩
  · cases hrun

theorem bounds_computerTimer {t : Betting} {m : Mind} {a : Outlook} (hstate : a.state = .runHand)
    (hl : a.limits = t.hand.blindLimits) (hrun : computerTimer maxPlayers t m = some (s', msgs)) :
    ∃ b, Outlooks s' b ∧ Runs.Told Bounds a msgs b := by
  obtain ⟨state, round, l⟩ := a
  cases hstate
  simp only [computerTimer] at hrun
  split at hrun
  · next h r hloop =>
      split_ifs at hrun
      cases hrun
      have hsame := (blindLimits_engineLoop hloop).trans hl.symm
      have hturn := bounds_turn round (h.uniqueID r) hsame
      have hacted := bounds_acted (raisesIn_action ⟨h, t.fullBetRule⟩ r m) r
      dsimp only at hacted
      rw [hsame] at hacted
      exact ⟨_, ⟨rfl, by simp, rfl⟩, .cons hturn (.single hacted)⟩
  · cases hrun

theorem bounds_sends {a : Outlook} (ha : Outlooks s a) (hs : Sends maxPlayers s msgs s') :
    ∃ b, Outlooks s' b ∧ Runs.Told Bounds a msgs b := by
  have hwaiting (hphase : s.phase = .waitPlayerAction) :
      a = ⟨.runHand, s.betting.hand.currentRound, s.betting.hand.blindLimits⟩ := by
    obtain ⟨hstate, hround, hl⟩ := ha
    rw [hphase] at hstate
    obtain ⟨state, round, l⟩ := a
    cases hstate
    cases hround hphase
    cases hl
    rfl
  have hover (hphase : s.phase = .handOver) : a = ⟨.waitHand, a.round, s.betting.hand.blindLimits⟩ := by
    obtain ⟨hstate, _, hl⟩ := ha
    rw [hphase] at hstate
    obtain ⟨state, round, l⟩ := a
    cases hstate
    cases hl
    rfl
  obtain ⟨e, hfire, _⟩ := hs
  cases e with
  | loopTimer connected =>
      simp only [fire] at hfire
      split_ifs at hfire with hphase
      exact bounds_loopTimer (by rw [ha.state, hphase]; rfl) ha.limits hfire
  | computerTimer m =>
      simp only [fire] at hfire
      split_ifs at hfire with hphase
      exact bounds_computerTimer (by rw [ha.state, hphase]; rfl) ha.limits hfire
  | request id req =>
      simp only [fire, request] at hfire
      split_ifs at hfire with hphase
      split at hfire
      · cases hfire
      · next r hplayer =>
          split at hfire
          · next hact =>
              cases hfire
              rw [hwaiting hphase]
              exact ⟨_, ⟨rfl, by simp, rfl⟩, .single (bounds_acted (raisesIn_handleMyAction hact) r)⟩
          · cases hfire
  | actionTimer =>
      simp only [fire, actionTimer] at hfire
      split_ifs at hfire with hphase
      split at hfire
      · next r hplayer =>
          cases hfire
          rw [hwaiting hphase]
          exact ⟨_, ⟨rfl, by simp, rfl⟩, .single (bounds_acted (raisesIn_timeoutAction _ r) r)⟩
      · cases hfire
  | showMyCards id =>
      simp only [fire] at hfire
      split_ifs at hfire with hphase
      obtain ⟨r, _, hrun⟩ := Option.map_eq_some_iff.mp hfire
      cases hrun
      rw [hover hphase]
      exact ⟨⟨.waitHand, a.round, _⟩, ⟨rfl, by simp, rfl⟩, .single ⟨.afterHand, rfl, by simp [sent]⟩⟩
  | rejoin r newPlayerId guid =>
      simp only [fire] at hfire
      split_ifs at hfire with hphase
      cases hfire
      rw [hover hphase]
      exact ⟨⟨.waitHand, a.round, _⟩, ⟨rfl, by simp, rfl⟩, .single ⟨.renamed, rfl, by simp [sent]⟩⟩

end HandServer

end PokerTH
