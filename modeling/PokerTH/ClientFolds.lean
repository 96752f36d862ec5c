import PokerTH.FoldMarks

namespace PokerTH.HandServer

open HandRun Hand Table

variable {maxPlayers : Nat} {s s' : ComputerRun.State} {msgs : List Sent} {t t' : Table} {σ σ' : ClientState}

/-- What a message says about the folds when the server goes from one table to the next, and in which state of a client
it comes. -/
inductive Means : ClientState → Table → HandMsg → ClientState → Table → Prop
  | acted {t t' : Table} {done : PlayersActionDoneMessage} {r : Ref} (hseat : r ∈ t.seatsList) (hacts : ActsOn t t' r)
      (hid : done.playerId = t.uniqueID r) (haction : done.playerAction = (t'.players r).myAction) :
      Means .runHand t (.playersActionDone done) .runHand t'
  | turn {t t' : Table} {id : Nat} {gameState : GameState} (hsame : SameFolds t t') :
      Means .runHand t (.playersTurn id gameState) .runHand t'
  | dealt {t t' : Table} {gameState : GameState} (hsame : SameFolds t t') :
      Means .runHand t (.dealCards gameState) .runHand t'
  | allIn {t t' : Table} {ids : List Nat} (hsame : SameFolds t t') :
      Means .runHand t (.allInShowCards ids) .runHand t'
  | hidden {t t' : Table} {id : Nat} {won money : Int} (hsame : SameFolds t t') :
      Means .runHand t (.endOfHandHideCards id won money) .waitHand t'
  | shown {t t' : Table} {results : List PlayerResult} (hsame : SameFolds t t') :
      Means .runHand t (.endOfHandShowCards results) .waitHand t'
  | afterHand {t t' : Table} {result : PlayerResult} (hsame : SameFolds t t') :
      Means .waitHand t (.afterHandShowCards result) .waitHand t'
  | renamed {t : Table} {r : Ref} {new : Nat} {f : Player → Player} (hseat : r ∈ t.seatsList)
      (hfresh : ∀ q ∈ t.seatsList, t.uniqueID q ≠ new) (hid : (f (t.players r)).myUniqueID = new)
      (hstatus : (f (t.players r)).myActiveStatus = (t.players r).myActiveStatus)
      (hfold : hasFolded (f (t.players r)) = hasFolded (t.players r)) :
      Means .waitHand t (.playerIdChanged (t.uniqueID r) new) .waitHand (t.rename r f)

def Says (a : ClientState × Table) (m : Sent) (b : ClientState × Table) : Prop :=
  Means a.1 a.2 m.msg b.1 b.2 ∧ b.2 = m.table

theorem Means.cons {m : Sent} {b : ClientState × Table} (hm : Means σ t m.msg σ' m.table)
    (hrest : Runs.Told Says (σ', m.table) msgs b) : Runs.Told Says (σ, t) (m :: msgs) b := .cons ⟨hm, rfl⟩ hrest

theorem Means.told {m : Sent} (hm : Means σ t m.msg σ' m.table) : Runs.Told Says (σ, t) [m] (σ', m.table) :=
  hm.cons .nil

/-- A client that still plays the hand after a message has played it before. -/
theorem Means.runHand {msg : HandMsg} (hm : Means σ t msg .runHand t') : σ = .runHand := by
  cases hm with
  | acted | turn | dealt | allIn => rfl

def clientState : Phase → ClientState
  | .handOver => .waitHand
  | .loop | .waitPlayerAction => .runHand

def view (s : ComputerRun.State) : ClientState × Table := (clientState s.phase, s.betting.hand.toTable)

theorem told_sendNewRound {h h' : Hand} {showCards : Bool} (hsame : SameFolds h.toTable h'.toTable)
    (hcards : h'.sendNewRoundCards = [.dealCards h'.currentRound]) :
    Runs.Told Says (.runHand, h.toTable) ((h'.sendNewRound showCards).map (sent h')) (.runHand, h'.toTable) := by
  rw [sendNewRound, hcards]
  cases showCards with
  | false => exact Means.told (.dealt hsame)
  | true => exact Means.cons (.allIn hsame) (Means.told (.dealt (SameFolds.refl _)))

theorem means_sendPlayerAction {h h' : Hand} {r : Ref} (hseat : r ∈ h.seatsList) (hacts : ActsOn h.toTable h'.toTable r) :
    Means .runHand h.toTable (h'.sendPlayerAction r) .runHand h'.toTable :=
  .acted hseat hacts (hacts.id r) rfl

theorem means_sendEndOfHand {h h' : Hand} (hsame : SameFolds h.toTable h'.toTable) :
    Means .runHand h.toTable h'.sendEndOfHand .waitHand h'.toTable := by
  simp only [sendEndOfHand]
  split
  · exact .hidden hsame
  · exact .shown hsame

theorem turn_mem {h h' : Hand} {r : Ref} (hrun : h.engineLoop maxPlayers = .ok (.playersTurn h' r)) : r ∈ h'.seatsList := by
  obtain ⟨k, _, hcases⟩ := engineLoop_cases hrun
  cases hcases with
  | playersTurn _ _ _ hplayer => exact getCurrentPlayer_mem hplayer

theorem told_loopTimer {t : Betting} {connected : Bool}
    (hrun : loopTimer maxPlayers t connected = some (s', msgs)) :
    Runs.Told Says (.runHand, t.hand.toTable) msgs (view s') := by
  simp only [loopTimer] at hrun
  split at hrun
  · next hloop =>
      cases hrun
      obtain ⟨k, _, hcases⟩ := engineLoop_cases hloop
      have hsame := sameFolds_engineLoop hloop
      cases hcases with
      | nextRound hlt hopen => exact told_sendNewRound hsame (sendNewRoundCards_of_lt _ hlt hopen)
  · next h r hloop =>
      have hsame := sameFolds_engineLoop hloop
      split_ifs at hrun
      · cases hrun
        exact Means.told (.turn hsame)
      · cases hrun
        exact Means.cons (.turn hsame)
          (Means.told (means_sendPlayerAction (turn_mem hloop) (actsOn_performPlayerAction _ _ _ _)))
  · next hloop =>
      cases hrun
      exact Means.told (means_sendEndOfHand (sameFolds_engineLoop hloop))
  · cases hrun

theorem told_computerTimer {t : Betting} {m : Mind} (hrun : computerTimer maxPlayers t m = some (s', msgs)) :
    Runs.Told Says (.runHand, t.hand.toTable) msgs (view s') := by
  simp only [computerTimer] at hrun
  split at hrun
  · next h r hloop =>
      split_ifs at hrun
      cases hrun
      exact Means.cons (.turn (sameFolds_engineLoop hloop))
        (Means.told (means_sendPlayerAction (turn_mem hloop) (Betting.actsOn_action ⟨h, t.fullBetRule⟩ r m)))
  · cases hrun

theorem told_request {t : Betting} {id : Nat} {req : MyActionRequest} (hrun : request t id req = some (s', msgs)) :
    Runs.Told Says (.runHand, t.hand.toTable) msgs (view s') := by
  simp only [request] at hrun
  split at hrun
  · cases hrun
  · next r hplayer =>
      split at hrun
      · next hact =>
          cases hrun
          exact Means.told (means_sendPlayerAction (findPlayer_some hplayer).1 (actsOn_handleMyAction hact))
      · cases hrun

theorem told_actionTimer {t : Betting} (hrun : actionTimer t = some (s', msgs)) :
    Runs.Told Says (.runHand, t.hand.toTable) msgs (view s') := by
  simp only [actionTimer] at hrun
  split at hrun
  · next r hplayer =>
      cases hrun
      exact Means.told (means_sendPlayerAction (getCurrentPlayer_mem hplayer) (actsOn_timeoutAction _ _))
  · cases hrun

theorem told_sends (hs : Sends maxPlayers s msgs s') :
    Runs.Told Says (view s) msgs (view s') := by
  obtain ⟨e, hfire, hregular⟩ := hs
  cases e with
  | loopTimer connected =>
      simp only [fire] at hfire
      split_ifs at hfire with hphase
      rw [view, hphase]
      exact told_loopTimer hfire
  | computerTimer m =>
      simp only [fire] at hfire
      split_ifs at hfire with hphase
      rw [view, hphase]
      exact told_computerTimer hfire
  | request id req =>
      simp only [fire] at hfire
      split_ifs at hfire with hphase
      rw [view, hphase]
      exact told_request hfire
  | actionTimer =>
      simp only [fire] at hfire
      split_ifs at hfire with hphase
      rw [view, hphase]
      exact told_actionTimer hfire
  | showMyCards id =>
      simp only [fire] at hfire
      split_ifs at hfire with hphase
      obtain ⟨r, _, hrun⟩ := Option.map_eq_some_iff.mp hfire
      cases hrun
      rw [view, hphase]
      exact Means.told (.afterHand (SameFolds.refl _))
  | rejoin r newPlayerId guid =>
      simp only [fire] at hfire
      split_ifs at hfire with hphase
      cases hfire
      rw [view, hphase]
      exact Means.told (.renamed hregular.1 hregular.2 rfl rfl rfl)

theorem told_autoBlind (h : Hand) (button : Button) (gameState : NetGameState)
    (hs : ∀ r ∈ h.activePlayerList, r ∈ h.seatsList) :
    Runs.Told Says (.runHand, h.toTable) ((h.autoBlind button gameState).map (sent h)) (.runHand, h.toTable) := by
  simp only [autoBlind]
  split
  · next r hr =>
      have hseat := hs r (List.mem_of_find?_eq_some hr)
      exact Means.told (.acted hseat ⟨SameIds.refl _, fun _ _ => rfl⟩ rfl rfl)
  · exact .nil

end PokerTH.HandServer

namespace PokerTH.Client

open Table HandServer

variable {c c' c'' : Client} {t t' : Table} {σ σ' : ClientState} {msg : HandMsg} {r : Ref}

structure Quiet (c c' : Client) : Prop extends SameFolds c.hand.toTable c'.hand.toTable where
  round : c'.hand.currentRound = c.hand.currentRound
  state : c'.state = c.state

theorem Quiet.refl (c : Client) : Quiet c c := ⟨SameFolds.refl _, rfl, rfl⟩

theorem Quiet.trans (h : Quiet c c') (h' : Quiet c' c'') : Quiet c c'' :=
  ⟨h.toSameFolds.trans h'.toSameFolds, h'.round.trans h.round, h'.state.trans h.state⟩

/-- Updates of the hand beside its seats, its active players and the players themselves. -/
theorem quiet_setHand (c : Client) {h : Hand} (hseats : h.seatsList = c.hand.seatsList)
    (hactive : h.activePlayerList = c.hand.activePlayerList) (hplayers : h.players = c.hand.players)
    (hround : h.currentRound = c.hand.currentRound) : Quiet c (c.setHand h) := by
  refine ⟨⟨⟨hseats, hactive, fun r => ?_, fun r => ?_⟩, fun r => ?_⟩, hround, rfl⟩
  · exact congrArg (fun players : Players => (players r).myUniqueID) hplayers
  · exact congrArg (fun players : Players => (players r).myActiveStatus) hplayers
  · exact congrArg (fun players : Players => hasFolded (players r)) hplayers

theorem sameIds_setPlayer (c : Client) (r : Ref) {f : Player → Player} (hid : ∀ p, (f p).myUniqueID = p.myUniqueID)
    (hstatus : ∀ p, (f p).myActiveStatus = p.myActiveStatus) : SameIds c.hand.toTable (c.setPlayer r f).hand.toTable := by
  refine ⟨rfl, rfl, fun q => ?_, fun q => ?_⟩
  all_goals
    simp only [uniqueID, setPlayer, setHand, Hand.setPlayers, updatePlayer]
    by_cases hq : q = r
  · subst hq
    rw [Function.update_self, hid]
  · rw [Function.update_of_ne hq]
  · subst hq
    rw [Function.update_self, hstatus]
  · rw [Function.update_of_ne hq]

theorem setPlayer_of_ne {f : Player → Player} {q : Ref} (hq : q ≠ r) :
    (c.setPlayer r f).hand.players q = c.hand.players q := by
  simp [setPlayer, setHand, updatePlayer, hq]

theorem setPlayer_self {f : Player → Player} : (c.setPlayer r f).hand.players r = f (c.hand.players r) := by
  simp [setPlayer, setHand, updatePlayer]

theorem quiet_setPlayer (c : Client) (r : Ref) {f : Player → Player} (hid : ∀ p, (f p).myUniqueID = p.myUniqueID)
    (hstatus : ∀ p, (f p).myActiveStatus = p.myActiveStatus) (hfold : ∀ p, hasFolded (f p) = hasFolded p) :
    Quiet c (c.setPlayer r f) := by
  refine ⟨⟨sameIds_setPlayer c r hid hstatus, fun q => ?_⟩, rfl, rfl⟩
  by_cases hq : q = r
  · subst hq
    rw [setPlayer_self, hfold]
  · rw [setPlayer_of_ne hq]

theorem quiet_collectPot (c : Client) : Quiet c c.collectPot := quiet_setHand c rfl rfl rfl rfl

theorem sameIds_updateAll (h : Hand) (l : List Ref) {f : Player → Player} (hid : ∀ p, (f p).myUniqueID = p.myUniqueID)
    (hstatus : ∀ p, (f p).myActiveStatus = p.myActiveStatus) :
    SameIds h.toTable (h.setPlayers (updateAll h.players l f)).toTable := by
  refine ⟨rfl, rfl, fun q => ?_, fun q => ?_⟩
  all_goals
    simp only [uniqueID, Hand.setPlayers, updateAll]
    split_ifs
  · exact hid _
  · rfl
  · exact hstatus _
  · rfl

theorem quiet_resetPlayerSets (c : Client) : Quiet c c.resetPlayerSets := by
  refine ⟨⟨sameIds_updateAll c.hand _ (fun _ => rfl) fun _ => rfl, fun q => ?_⟩, rfl, rfl⟩
  simp only [resetPlayerSets, setHand, Hand.setPlayers, updateAll]
  split_ifs <;> rfl

theorem quiet_noteBlind (c : Client) (r : Ref) (gameState : NetGameState) : Quiet c (c.noteBlind r gameState) := by
  cases gameState with
  | round _ => exact Quiet.refl c
  | preflopSmallBlind =>
      have hbeRo := quiet_setHand c
        (h := c.hand.setBeRo { c.hand.getCurrentBeRo with smallBlindPositionId := c.hand.uniqueID r }) rfl rfl rfl rfl
      exact hbeRo.trans (quiet_setPlayer _ r (fun _ => rfl) (fun _ => rfl) fun _ => rfl)
  | preflopBigBlind =>
      have hbeRo := quiet_setHand c
        (h := c.hand.setBeRo { c.hand.getCurrentBeRo with bigBlindPositionId := c.hand.uniqueID r }) rfl rfl rfl rfl
      exact hbeRo.trans (quiet_setPlayer _ r (fun _ => rfl) (fun _ => rfl) fun _ => rfl)

theorem quiet_switchRounds (c : Client) : Quiet c (c.setHand (ClientHand.switchRounds c.hand)) := by
  have hf := Hand.frame_refresh c.hand
  exact quiet_setHand c (Hand.frame_seatsList hf) (Hand.frame_activePlayerList hf) (Hand.refresh_players c.hand)
    (Hand.refresh_currentRound c.hand)

/-- What an action message does: the player of the message has its action, the others keep theirs. -/
theorem actionDone_spec {done : PlayersActionDoneMessage} (hrun : c.actionDone done = .ok c') :
    ∃ r ∈ c.hand.seatsList, c.hand.toTable.uniqueID r = done.playerId ∧ ActsOn c.hand.toTable c'.hand.toTable r ∧
      hasFolded (c'.hand.players r) = (done.playerAction == .fold) ∧ c'.hand.currentRound = c.hand.currentRound ∧
      c'.state = c.state := by
  simp only [actionDone] at hrun
  split at hrun
  · cases hrun
  · next r hr =>
      split_ifs at hrun
      cases hrun
      have hplayer := Hand.findPlayer_some hr
      have hblind := quiet_noteBlind c r done.gameState
      have hacted : SameIds _ ((c.noteBlind r done.gameState).setPlayer r (acted done)).hand.toTable :=
        sameIds_setPlayer _ r (fun _ => rfl) fun _ => rfl
      have hlimits := quiet_setHand ((c.noteBlind r done.gameState).setPlayer r (acted done))
        (h := (((c.noteBlind r done.gameState).setPlayer r (acted done)).hand.setHighestSet done.highestSet
          |>.setMinimumRaise done.minimumRaise).collectSets) rfl rfl rfl rfl
      have hrest := hlimits.trans (quiet_switchRounds _)
      refine ⟨r, hplayer.1, hplayer.2, ⟨?_, fun q hq => ?_⟩, ?_, ?_, ?_⟩
      · exact hblind.toSameIds.trans (hacted.trans hrest.toSameIds)
      · refine (hrest.folds q).trans (Eq.trans ?_ (hblind.folds q))
        rw [setPlayer_of_ne hq]
      · refine (hrest.folds r).trans ?_
        rw [setPlayer_self]
        rfl
      · exact hrest.round.trans hblind.round
      · exact hrest.state.trans hblind.state

theorem quiet_dealCards (c : Client) : Quiet c c.dealCards := by
  have hset := quiet_setHand c.collectPot (h := c.collectPot.hand.setHighestSet 0) rfl rfl rfl rfl
  exact (quiet_collectPot c).trans (hset.trans (quiet_resetPlayerSets _))

/-- A turn message of the running round changes nothing, one of another round takes every fold back. -/
theorem playersTurn_spec {id : Nat} {gameState : GameState} (hrun : c.playersTurn id gameState = .ok c') :
    SameIds c.hand.toTable c'.hand.toTable ∧ c'.hand.currentRound = gameState ∧ c'.state = c.state ∧
      if c.hand.currentRound = gameState then SameFolds c.hand.toTable c'.hand.toTable
      else c'.hand.toTable.foldedIds = ∅ := by
  simp only [playersTurn] at hrun
  split at hrun
  · cases hrun
  · next r hr =>
      cases hrun
      have hturn := quiet_setHand (c.setRound gameState)
        (h := (c.setRound gameState).hand.setCurrentPlayersTurnId r) rfl rfl rfl rfl
      by_cases hround : c.hand.currentRound = gameState
      · have hsame : c.setRound gameState = c := by simp [setRound, hround]
        rw [if_pos hround]
        rw [hsame] at hturn ⊢
        exact ⟨hturn.toSameIds, hturn.round.trans hround, hturn.state, hturn.toSameFolds⟩
      · have hreset : c.setRound gameState =
            c.resetPlayerActions.setHand (c.resetPlayerActions.hand.setCurrentRound gameState) := by
          simp [setRound, hround]
        have hids : SameIds c.hand.toTable (c.setRound gameState).hand.toTable := by
          rw [hreset]
          exact sameIds_updateAll c.hand _ (fun _ => rfl) fun _ => rfl
        rw [if_neg hround]
        refine ⟨hids.trans hturn.toSameIds, ?_, ?_, ?_⟩
        · rw [hturn.round, hreset]
          rfl
        · rw [hturn.state, hreset]
          rfl
        · rw [hturn.toSameFolds.foldedIds, Finset.eq_empty_iff_forall_notMem]
          intro id hid
          obtain ⟨q, hq, hfold, _⟩ := (mem_idsOf _).mp hid
          rw [hreset] at hq hfold
          have hmem : q ∈ c.hand.activePlayerList := hq
          simp only [setHand, Hand.setCurrentRound, resetPlayerActions, Hand.setPlayers, updateAll, if_pos hmem] at hfold
          cases hfold

theorem quiet_playerResult {result : PlayerResult} (hrun : c.playerResult result = .ok c') : Quiet c c' := by
  simp only [playerResult] at hrun
  split at hrun
  · cases hrun
  · cases hrun
    exact quiet_setPlayer c _ (fun _ => rfl) (fun _ => rfl) fun _ => rfl

theorem quiet_playerResults {results : List PlayerResult} (hrun : results.foldlM playerResult c = .ok c') : Quiet c c' := by
  induction results generalizing c with
  | nil =>
      cases hrun
      exact Quiet.refl _
  | cons result results ih =>
      obtain ⟨d, hd, hrest⟩ := Hand.bind_ok hrun
      exact (quiet_playerResult hd).trans (ih hrest)

theorem endOfHandHideCards_spec {id : Nat} {won money : Int} (hrun : c.endOfHandHideCards id won money = .ok c') :
    SameFolds c.hand.toTable c'.hand.toTable ∧ c'.state = .waitHand := by
  simp only [endOfHandHideCards] at hrun
  split at hrun
  · cases hrun
  · next r _ =>
    cases hrun
    have hreset := (quiet_collectPot c).trans (quiet_resetPlayerSets _)
    have hpaid := hreset.trans (quiet_setPlayer _ r (f := fun p => { p with myCash := money, lastMoneyWon := won })
      (fun _ => rfl) (fun _ => rfl) fun _ => rfl)
    exact ⟨⟨⟨hpaid.seatsList, hpaid.activePlayerList, hpaid.id, hpaid.status⟩, hpaid.folds⟩, rfl⟩

theorem endOfHandShowCards_spec {results : List PlayerResult} (hrun : c.endOfHandShowCards results = .ok c') :
    SameFolds c.hand.toTable c'.hand.toTable ∧ c'.state = .waitHand := by
  simp only [endOfHandShowCards] at hrun
  cases hd : results.foldlM playerResult c.collectPot.resetPlayerSets with
  | error e =>
      rw [hd] at hrun
      cases hrun
  | ok d =>
      rw [hd] at hrun
      cases hrun
      have hreset := (quiet_collectPot c).trans (quiet_resetPlayerSets _)
      have hshown := hreset.trans (quiet_playerResults hd)
      exact ⟨⟨⟨hshown.seatsList, hshown.activePlayerList, hshown.id, hshown.status⟩, hshown.folds⟩, rfl⟩

/-- The client has the server's seats, active players and folds, on player objects of its own. -/
structure Mirrors (t : Table) (σ : ClientState) (c : Client) : Prop where
  server : Seating t
  client : Seating c.hand.toTable
  seats : c.hand.toTable.seatIds.Perm t.seatIds
  active : c.hand.toTable.activeIds = t.activeIds
  folded : c.hand.toTable.foldedIds = t.foldedIds
  state : c.state = σ

theorem Mirrors.same (hm : Mirrors t σ c) (hserver : SameIds t t') (hclient : SameIds c.hand.toTable c'.hand.toTable)
    (hfolded : c'.hand.toTable.foldedIds = t'.foldedIds) (hstate : c'.state = σ') : Mirrors t' σ' c' where
  server := hm.server.same hserver
  client := hm.client.same hclient
  seats := by
    rw [hserver.seatIds, hclient.seatIds]
    exact hm.seats
  active := by rw [hserver.activeIds, hclient.activeIds, hm.active]
  folded := hfolded
  state := hstate

theorem Mirrors.quiet (hm : Mirrors t σ c) (hserver : SameFolds t t') (hclient : SameFolds c.hand.toTable c'.hand.toTable)
    (hstate : c'.state = σ') : Mirrors t' σ' c' :=
  hm.same hserver.toSameIds hclient.toSameIds (by rw [hserver.foldedIds, hclient.foldedIds, hm.folded]) hstate

def announces (round : GameState) : HandMsg → GameState
  | .playersTurn _ gameState => gameState
  | _ => round

theorem mirrors_actionDone {done : PlayersActionDoneMessage} (hm : Mirrors t .runHand c) (hseat : r ∈ t.seatsList)
    (hacts : ActsOn t t' r) (hid : done.playerId = t.uniqueID r) (haction : done.playerAction = (t'.players r).myAction)
    (hrun : c.actionDone done = .ok c') : Mirrors t' .runHand c' ∧ c'.hand.currentRound = c.hand.currentRound := by
  obtain ⟨q, hq, hqid, hacted, hfold, hround, hstate⟩ := actionDone_spec hrun
  refine ⟨hm.same hacts.toSameIds hacted.toSameIds ?_ (hstate.trans hm.state), hround⟩
  have hclient := hm.client.idsOf_mark hacted.toSameIds hq hacted.others
  have hserver := hm.server.idsOf_mark hacts.toSameIds hseat hacts.others
  have hfolded : hasFolded (c'.hand.players q) = hasFolded (t'.players r) := by
    rw [hfold, haction]
    rfl
  rw [hqid, hid, hfolded] at hclient
  rw [foldedIds, foldedIds, hclient, hserver, hm.active]
  congr 1
  exact hm.folded

theorem mirrors_playerIdChanged {new : Nat} {f : Player → Player} (hm : Mirrors t .waitHand c) (hseat : r ∈ t.seatsList)
    (hfresh : ∀ q ∈ t.seatsList, t.uniqueID q ≠ new) (hid : (f (t.players r)).myUniqueID = new)
    (hstatus : (f (t.players r)).myActiveStatus = (t.players r).myActiveStatus)
    (hfold : hasFolded (f (t.players r)) = hasFolded (t.players r))
    (hrun : c.playerIdChanged (t.uniqueID r) new = .ok c') :
    Mirrors (t.rename r f) .waitHand c' ∧ c'.hand.currentRound = c.hand.currentRound := by
  simp only [playerIdChanged] at hrun
  split at hrun
  · cases hrun
  · next q hq =>
      cases hrun
      have hplayer : q ∈ c.hand.seatsList ∧ c.hand.toTable.uniqueID q = t.uniqueID r := Hand.findPlayer_some hq
      have hnew : ∀ p ∈ c.hand.seatsList, c.hand.toTable.uniqueID p ≠ new := by
        intro p hp heq
        have hmem : new ∈ t.seatIds := hm.seats.mem_iff.mp (List.mem_map.mpr ⟨p, hp, heq⟩)
        obtain ⟨s, hs, hsid⟩ := List.mem_map.mp hmem
        exact hfresh s hs hsid
      have hclient (p : Player → Bool) (hp : ∀ u : Player, p { u with myUniqueID := new } = p u) :=
        hm.client.idsOf_rename hplayer.1 hnew (f := fun u => { u with myUniqueID := new }) rfl (hp _)
      have hserver (p : Player → Bool) (hp : p (f (t.players r)) = p (t.players r)) :=
        hm.server.idsOf_rename hseat hfresh hid hp
      refine ⟨⟨hm.server.rename hfresh hid hstatus, ?_, ?_, ?_, ?_, hm.state⟩, rfl⟩
      · exact hm.client.rename hnew rfl rfl
      · have hseats := hm.client.seatIds_rename hplayer.1 (f := fun u => { u with myUniqueID := new }) rfl
        rw [hplayer.2] at hseats
        refine hseats.trans (List.Perm.trans ?_ (hm.server.seatIds_rename hseat hid).symm)
        exact (hm.seats.erase _).cons new
      · have hactive := hclient (fun _ => true) fun _ => rfl
        rw [hplayer.2] at hactive
        exact hactive.trans ((congrArg (fun s => renamed s _ _) hm.active).trans (hserver (fun _ => true) rfl).symm)
      · have hfolded := hclient hasFolded fun _ => rfl
        rw [hplayer.2] at hfolded
        exact hfolded.trans ((congrArg (fun s => renamed s _ _) hm.folded).trans (hserver hasFolded hfold).symm)

/-- A client that mirrors the server and handles the next message mirrors the server after it, unless the message is
about a turn of another round while somebody has folded. -/
theorem mirrors_handlePacket (hm : Mirrors t σ c) (hmeans : Means σ t msg σ' t') (hrun : c.handlePacket msg = .ok c')
    (hturn : ∀ id gameState, msg = .playersTurn id gameState → gameState ≠ c.hand.currentRound → t'.foldedIds = ∅) :
    Mirrors t' σ' c' ∧ (σ' = .runHand → c'.hand.currentRound = announces c.hand.currentRound msg) := by
  cases hmeans with
  | acted hseat hacts hid haction =>
      simp only [handlePacket, hm.state] at hrun
      obtain ⟨hmirrors, hround⟩ := mirrors_actionDone hm hseat hacts hid haction hrun
      exact ⟨hmirrors, fun _ => hround⟩
  | @turn t t' id gameState hsame =>
      simp only [handlePacket, hm.state] at hrun
      obtain ⟨hids, hround, hstate, hfolds⟩ := playersTurn_spec hrun
      refine ⟨hm.same hsame.toSameIds hids ?_ (hstate.trans hm.state), fun _ => hround⟩
      split_ifs at hfolds with hsameRound
      · rw [hfolds.foldedIds, hsame.foldedIds, hm.folded]
      · rw [hfolds, hturn id gameState rfl (Ne.symm hsameRound)]
  | dealt hsame =>
      simp only [handlePacket, hm.state] at hrun
      cases hrun
      have hquiet := quiet_dealCards c
      exact ⟨hm.quiet hsame hquiet.toSameFolds (hquiet.state.trans hm.state), fun _ => hquiet.round⟩
  | allIn hsame =>
      simp only [handlePacket, hm.state, allInShowCards] at hrun
      split_ifs at hrun
      cases hrun
      have hquiet := quiet_setHand c (h := { c.hand with allInCondition := true }) rfl rfl rfl rfl
      exact ⟨hm.quiet hsame hquiet.toSameFolds (hquiet.state.trans hm.state), fun _ => hquiet.round⟩
  | hidden hsame =>
      simp only [handlePacket, hm.state] at hrun
      obtain ⟨hfolds, hstate⟩ := endOfHandHideCards_spec hrun
      exact ⟨hm.quiet hsame hfolds hstate, nofun⟩
  | shown hsame =>
      simp only [handlePacket, hm.state] at hrun
      obtain ⟨hfolds, hstate⟩ := endOfHandShowCards_spec hrun
      exact ⟨hm.quiet hsame hfolds hstate, nofun⟩
  | afterHand hsame =>
      simp only [handlePacket, hm.state, afterHandShowCards] at hrun
      have hquiet := quiet_playerResult hrun
      exact ⟨hm.quiet hsame hquiet.toSameFolds (hquiet.state.trans hm.state), nofun⟩
  | renamed hseat hfresh hid hstatus hfold =>
      simp only [handlePacket, hm.state] at hrun
      exact ⟨(mirrors_playerIdChanged hm hseat hfresh hid hstatus hfold hrun).1, nofun⟩

end PokerTH.Client
