import PokerTH.ClientLimits
import PokerTH.FoldHistory

namespace PokerTH.Client

open HandServer Hand

variable {c c' : Client} {a b : Outlook} {msg : HandMsg} {r : Ref}

theorem blindLimits_noteBlind (c : Client) (r : Ref) (gameState : NetGameState) :
    (c.noteBlind r gameState).hand.blindLimits = c.hand.blindLimits ∧
      (c.noteBlind r gameState).hand.currentRound = c.hand.currentRound := by
  cases gameState with
  | round _ => exact ⟨rfl, rfl⟩
  | preflopSmallBlind =>
      have hset := blindLimits_setBeRo (h := c.hand)
        (b := { c.hand.getCurrentBeRo with smallBlindPositionId := c.hand.uniqueID r }) rfl rfl
      exact ⟨hset, rfl⟩
  | preflopBigBlind =>
      have hset := blindLimits_setBeRo (h := c.hand)
        (b := { c.hand.getCurrentBeRo with bigBlindPositionId := c.hand.uniqueID r }) rfl rfl
      exact ⟨hset, rfl⟩

theorem blindLimits_actionDone {done : PlayersActionDoneMessage} (hrun : c.actionDone done = .ok c') :
    c'.hand.blindLimits = Function.update c.hand.blindLimits c.hand.currentRound
      ((c.hand.blindLimits c.hand.currentRound).1, done.minimumRaise) := by
  simp only [actionDone] at hrun
  split at hrun
  · cases hrun
  · next r hr =>
      split_ifs at hrun
      cases hrun
      obtain ⟨hblind, hround⟩ := blindLimits_noteBlind c r done.gameState
      have hhighest := blindLimits_setBeRo (h := ((c.noteBlind r done.gameState).setPlayer r (acted done)).hand)
        (b := { ((c.noteBlind r done.gameState).setPlayer r (acted done)).hand.getCurrentBeRo with
          highestSet := done.highestSet }) rfl rfl
      have hplayer : ((c.noteBlind r done.gameState).setPlayer r (acted done)).hand.blindLimits = c.hand.blindLimits :=
        hblind
      have hraise := blindLimits_setMinimumRaise
        (((c.noteBlind r done.gameState).setPlayer r (acted done)).hand.setHighestSet done.highestSet) done.minimumRaise
      have hsame : (((c.noteBlind r done.gameState).setPlayer r (acted done)).hand.setHighestSet
          done.highestSet).currentRound = c.hand.currentRound := hround
      refine (sameLimits_refresh _).blindLimits.trans (Eq.trans hraise ?_)
      rw [hsame, setHighestSet, hhighest, hplayer]

theorem blindLimits_playersTurn {id : Nat} {gameState : GameState} (hrun : c.playersTurn id gameState = .ok c') :
    c'.hand.blindLimits = c.hand.blindLimits := by
  simp only [playersTurn] at hrun
  split at hrun
  · cases hrun
  · next r hr =>
      cases hrun
      have hround : (c.setRound gameState).hand.blindLimits = c.hand.blindLimits := by
        simp only [setRound]
        split_ifs <;> rfl
      have hturn := blindLimits_setBeRo (h := (c.setRound gameState).hand)
        (b := { (c.setRound gameState).hand.getCurrentBeRo with currentPlayersTurnId := r }) rfl rfl
      exact Eq.trans hturn hround

theorem blindLimits_dealCards (c : Client) : c.dealCards.hand.blindLimits = c.hand.blindLimits := by
  have hset := blindLimits_setBeRo (h := c.collectPot.hand)
    (b := { c.collectPot.hand.getCurrentBeRo with highestSet := 0 }) rfl rfl
  exact hset

theorem blindLimits_endOfHandHideCards {id : Nat} {won money : Int} (hrun : c.endOfHandHideCards id won money = .ok c') :
    c'.hand.blindLimits = c.hand.blindLimits := by
  simp only [endOfHandHideCards] at hrun
  split at hrun
  · cases hrun
  · cases hrun
    rfl

theorem blindLimits_playerResult {result : PlayerResult} (hrun : c.playerResult result = .ok c') :
    c'.hand.blindLimits = c.hand.blindLimits := by
  simp only [playerResult] at hrun
  split at hrun
  · cases hrun
  · cases hrun
    rfl

theorem blindLimits_playerResults {results : List PlayerResult} (hrun : results.foldlM playerResult c = .ok c') :
    c'.hand.blindLimits = c.hand.blindLimits := by
  induction results generalizing c with
  | nil =>
      cases hrun
      rfl
  | cons result results ih =>
      obtain ⟨d, hd, hrest⟩ := Hand.bind_ok hrun
      exact (ih hrest).trans (blindLimits_playerResult hd)

theorem blindLimits_endOfHandShowCards {results : List PlayerResult} (hrun : c.endOfHandShowCards results = .ok c') :
    c'.hand.blindLimits = c.hand.blindLimits := by
  simp only [endOfHandShowCards] at hrun
  cases hd : results.foldlM playerResult c.collectPot.resetPlayerSets with
  | error e =>
      rw [hd] at hrun
      cases hrun
  | ok d =>
      rw [hd] at hrun
      cases hrun
      have hresults := blindLimits_playerResults hd
      exact hresults

theorem blindLimits_playerIdChanged {old new : Nat} (hrun : c.playerIdChanged old new = .ok c') :
    c'.hand.blindLimits = c.hand.blindLimits ∧ c'.state = c.state := by
  simp only [playerIdChanged] at hrun
  split at hrun
  · cases hrun
  · cases hrun
    exact ⟨rfl, rfl⟩

/-- The client is in the state and the round, and has the limits, that the server's messages have told. -/
structure Tracks (a : Outlook) (c : Client) : Prop where
  state : c.state = a.state
  round : a.state = .runHand → c.hand.currentRound = a.round
  limits : c.hand.blindLimits = a.limits

theorem tracks_handlePacket (ht : Tracks a c) (hl : HandServer.Limits a msg b) (hrun : c.handlePacket msg = .ok c') :
    Tracks b c' := by
  obtain ⟨hstate, hround, hlimits⟩ := ht
  cases hl with
  | @acted round l l' done hother hblind hdone =>
      simp only [handlePacket, hstate] at hrun
      obtain ⟨_, _, _, _, _, hsame, hrunning⟩ := actionDone_spec hrun
      refine ⟨hrunning.trans hstate, fun _ => hsame.trans (hround rfl), ?_⟩
      rw [blindLimits_actionDone hrun, hround rfl, hlimits]
      funext s
      by_cases hs : s = round
      · subst hs
        rw [Function.update_self, hdone, ← hblind]
      · rw [Function.update_of_ne hs]
        exact (hother s hs).symm
  | turn =>
      simp only [handlePacket, hstate] at hrun
      obtain ⟨_, hnew, hrunning, _⟩ := playersTurn_spec hrun
      exact ⟨hrunning.trans hstate, fun _ => hnew, (blindLimits_playersTurn hrun).trans hlimits⟩
  | dealt =>
      simp only [handlePacket, hstate] at hrun
      cases hrun
      have hquiet := quiet_dealCards c
      exact ⟨hquiet.state.trans hstate, fun _ => hquiet.round.trans (hround rfl), (blindLimits_dealCards c).trans hlimits⟩
  | allIn =>
      simp only [handlePacket, hstate, allInShowCards] at hrun
      split_ifs at hrun
      cases hrun
      exact ⟨hstate, fun _ => hround rfl, hlimits⟩
  | hidden =>
      simp only [handlePacket, hstate] at hrun
      exact ⟨(endOfHandHideCards_spec hrun).2, by simp, (blindLimits_endOfHandHideCards hrun).trans hlimits⟩
  | shown =>
      simp only [handlePacket, hstate] at hrun
      exact ⟨(endOfHandShowCards_spec hrun).2, by simp, (blindLimits_endOfHandShowCards hrun).trans hlimits⟩
  | afterHand =>
      simp only [handlePacket, hstate, afterHandShowCards] at hrun
      exact ⟨(quiet_playerResult hrun).state.trans hstate, by simp, (blindLimits_playerResult hrun).trans hlimits⟩
  | renamed =>
      simp only [handlePacket, hstate] at hrun
      obtain ⟨hsame, hrunning⟩ := blindLimits_playerIdChanged hrun
      exact ⟨hrunning.trans hstate, by simp, hsame.trans hlimits⟩

end PokerTH.Client

namespace PokerTH.HandServer

open HandRun Hand Client

variable {maxPlayers : Nat} {g : Game} {t : Table} {s : HandRun.State} {u : ComputerRun.State} {c₀ : Client}
  {before msgs hist : List Sent} {a b : Outlook}

/-- When a player is given the turn, a client that has handled the message has the server's limits of the round. -/
def LimitsKnown (c₀ : Client) (before : List Sent) (m : Sent) : Prop :=
  ∀ id gameState, m.msg = .playersTurn id gameState →
    ∀ c, c₀.handlePackets ((before ++ [m]).map Sent.msg) = .ok c →
      c.hand.getCurrentBeRo.smallBlind = m.hand.getCurrentBeRo.smallBlind ∧
        c.hand.getCurrentBeRo.minimumRaise = m.hand.getCurrentBeRo.minimumRaise

def TracksAll (c₀ : Client) (msgs : List Sent) (a : Outlook) : Prop :=
  ∀ c, c₀.handlePackets (msgs.map Sent.msg) = .ok c → Tracks a c

theorem tracksAll_step (c₀ : Client) (before : List Sent) (a : Outlook) (m : Sent) (b : Outlook)
    (ht : TracksAll c₀ before a) (hb : Bounds a m b) (_ : True) :
    TracksAll c₀ (before ++ [m]) b ∧ LimitsKnown c₀ before m := by
  have hnext : TracksAll c₀ (before ++ [m]) b := by
    intro c' hrun
    obtain ⟨c, hc, hlast⟩ := handlePackets_snoc hrun
    exact tracks_handlePacket (ht c hc) hb.1 hlast
  refine ⟨hnext, fun id gameState hmsg c hc => ?_⟩
  obtain ⟨hlimits, hsame, hround⟩ := hb
  have htracks := hnext c hc
  have hcurrent : c.hand.currentRound = m.hand.currentRound := by
    rw [hmsg] at hlimits
    rw [← hround id gameState hmsg]
    generalize hb' : b = b' at hlimits
    cases hlimits
    rw [hb'] at htracks
    exact htracks.round rfl
  have hall := congrFun (htracks.limits.trans hsame) m.hand.currentRound
  have hclient : c.hand.getCurrentBeRo = c.hand.myBeRo m.hand.currentRound := by rw [getCurrentBeRo, hcurrent]
  rw [hclient]
  exact ⟨congrArg Prod.fst hall, congrArg Prod.snd hall⟩

theorem told_autoBlind_limits (h : Hand) (button : Button) (gameState : NetGameState) (hround : h.currentRound = .preflop) :
    Runs.Told Bounds ⟨.runHand, .preflop, h.blindLimits⟩ ((h.autoBlind button gameState).map (sent h))
      ⟨.runHand, .preflop, h.blindLimits⟩ := by
  simp only [autoBlind]
  split
  · refine .single ⟨.acted (fun _ _ => rfl) rfl ?_, rfl, by simp [sent, Hand.actionDone]⟩
    rw [← hround]
    rfl
  · exact .nil

/-- A client that starts the hand with the limits of the server has them at every turn of it. -/
theorem limits_history (hphase : s.phase = .loop) (hround : s.hand.currentRound = .preflop) (hstate : c₀.state = .runHand)
    (hfirst : c₀.hand.currentRound = .preflop) (hlimits : c₀.hand.blindLimits = s.hand.blindLimits)
    (hrun : Runs.History (Sends maxPlayers) (ComputerRun.first s) hist u) :
    Runs.Each (LimitsKnown c₀) (opening s.hand ++ hist) := by
  have hall (msgs : List Sent) : Runs.Each (fun _ _ => True) msgs := fun _ _ _ _ => trivial
  have hstart : TracksAll c₀ [] ⟨.runHand, .preflop, s.hand.blindLimits⟩ := by
    intro c hc
    cases hc
    exact ⟨hstate, fun _ => hfirst, hlimits⟩
  have hsmall := (told_autoBlind_limits s.hand .smallBlind .preflopSmallBlind hround).each (tracksAll_step c₀) hstart
    .nil (hall _)
  have hboth := (told_autoBlind_limits s.hand .bigBlind .preflopBigBlind hround).each (tracksAll_step c₀) hsmall.1
    hsmall.2 (hall _)
  rw [List.nil_append, ← List.map_append] at hboth
  have hview : Outlooks (ComputerRun.first s) ⟨.runHand, .preflop, s.hand.blindLimits⟩ := by
    refine ⟨?_, fun _ => hround.symm, rfl⟩
    change _ = clientState s.phase
    rw [hphase]
    rfl
  obtain ⟨_, _, _, hknown⟩ := hrun.each Outlooks (tracksAll_step c₀) (fun _ _ _ _ ha hsends => bounds_sends ha hsends)
    hview hboth.1 hboth.2 (hall _)
  exact hknown

end PokerTH.HandServer
