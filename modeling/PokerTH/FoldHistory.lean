import PokerTH.ClientFolds
import PokerTH.ServerGame

namespace PokerTH.HandServer

open HandRun Hand Table Client

variable {maxPlayers : Nat} {g : Game} {t t' client : Table} {s : HandRun.State} {u : ComputerRun.State} {c₀ c c' : Client}
  {σ σ' : ClientState} {before msgs hist : List Sent}

def opening (h : Hand) : List Sent := h.autoBlinds.map (sent h)

def announcedRound (msgs : List Sent) : GameState := (msgs.map Sent.msg).foldl announces .preflop

/-- A client that has handled the message takes those players to have folded who have folded on the server. -/
def FoldsKnown (c₀ : Client) (before : List Sent) (m : Sent) : Prop :=
  ∀ c, c₀.handlePackets ((before ++ [m]).map Sent.msg) = .ok c → c.hand.toTable.foldedIds = m.table.foldedIds

/-- The message is not about a turn of another round than the last one while somebody has folded. -/
def KeepsFolds (before : List Sent) (m : Sent) : Prop :=
  ∀ id gameState, m.msg = .playersTurn id gameState → gameState ≠ announcedRound before → m.table.foldedIds = ∅

/-- The table of a client that has been told the seats of the server, and who of them is out of money. -/
structure AtTable (client server : Table) : Prop where
  seating : Seating (Game.clearTable client)
  seats : (Game.clearTable client).seatIds.Perm server.seatIds
  active : (Game.clearTable client).activeIds = server.activeIds

/-- The client mirrors the server after the messages, as long as it can handle them. -/
def Follows (c₀ : Client) (msgs : List Sent) (t : Table) (σ : ClientState) : Prop :=
  ∀ c, c₀.handlePackets (msgs.map Sent.msg) = .ok c →
    Mirrors t σ c ∧ (σ = .runHand → c.hand.currentRound = announcedRound msgs)

theorem announcedRound_snoc (before : List Sent) (m : Sent) :
    announcedRound (before ++ [m]) = announces (announcedRound before) m.msg := by
  simp [announcedRound]

theorem handlePackets_snoc {m : Sent} (hrun : c₀.handlePackets ((before ++ [m]).map Sent.msg) = .ok c') :
    ∃ c, c₀.handlePackets (before.map Sent.msg) = .ok c ∧ c.handlePacket m.msg = .ok c' := by
  rw [handlePackets, List.map_append, List.foldlM_append] at hrun
  obtain ⟨c, hc, hlast⟩ := Hand.bind_ok hrun
  obtain ⟨d, hd, hnil⟩ := Hand.bind_ok hlast
  cases hnil
  exact ⟨c, hc, hd⟩

theorem Follows.step {m : Sent} (hf : Follows c₀ before t σ) (hmeans : Means σ t m.msg σ' m.table)
    (hkeeps : KeepsFolds before m) : Follows c₀ (before ++ [m]) m.table σ' := by
  intro c' hrun
  obtain ⟨c, hc, hlast⟩ := handlePackets_snoc hrun
  obtain ⟨hmirrors, hround⟩ := hf c hc
  have hturn (id : Nat) (gameState : GameState) (hmsg : m.msg = .playersTurn id gameState)
      (hne : gameState ≠ c.hand.currentRound) : m.table.foldedIds = ∅ := by
    have hrunning : σ = .runHand := by
      rw [hmsg] at hmeans
      cases hmeans
      rfl
    rw [hround hrunning] at hne
    exact hkeeps id gameState hmsg hne
  obtain ⟨hmirrors', hround'⟩ := mirrors_handlePacket hmirrors hmeans hlast hturn
  refine ⟨hmirrors', fun hrunning => ?_⟩
  subst hrunning
  rw [hround' rfl, announcedRound_snoc, hround hmeans.runHand]

theorem follows_step (c₀ : Client) (before : List Sent) (a : ClientState × Table) (m : Sent) (b : ClientState × Table)
    (hf : Follows c₀ before a.2 a.1) (htold : Says a m b) (hkeeps : KeepsFolds before m) :
    Follows c₀ (before ++ [m]) b.2 b.1 ∧ FoldsKnown c₀ before m := by
  obtain ⟨hmeans, htable⟩ := htold
  rw [htable] at hmeans ⊢
  have hstep := hf.step hmeans hkeeps
  exact ⟨hstep, fun c hc => (hstep c hc).1.folded⟩

theorem foldedIds_of_none (hs : ∀ r ∈ t.activePlayerList, (t.players r).myAction ≠ .fold) : t.foldedIds = ∅ := by
  rw [Finset.eq_empty_iff_forall_notMem]
  intro id hid
  obtain ⟨r, hr, hfold, _⟩ := (mem_idsOf _).mp hid
  exact hs r hr (beq_iff_eq.mp hfold)

theorem start_spec (hstart : Start maxPlayers g t s) :
    s.phase = .loop ∧ Seating s.hand.toTable ∧ s.hand.toTable.foldedIds = ∅ := by
  have hconserved := conserved_start hstart
  obtain ⟨hr, v, elapsed, g', h, hrun, rfl⟩ := hstart
  cases hconserved with
  | loop hseated _ _ _ =>
      refine ⟨rfl, ⟨hseated.ids, fun r hr => hseated.mem_active.mp hr⟩, foldedIds_of_none fun r hactive => ?_⟩
      have ho := (initHand_spec hr hrun).1.opened
      have haction : (h.players r).myAction = .none ∨ (h.players r).myAction = .allIn :=
        (ho.players r (ho.mem_active.mp hactive).1).action
      change (h.players r).myAction ≠ .fold
      rcases haction with hnone | hall
      · simp [hnone]
      · simp [hall]

theorem sameFolds_create (t : Table) (dealerPosition : Nat) (smallBlind : Int) :
    SameFolds t (ClientHand.create t dealerPosition smallBlind).toTable := by
  refine ⟨⟨rfl, rfl, fun r => ?_, fun r => ?_⟩, fun r => ?_⟩
  all_goals
    simp only [Table.uniqueID, ClientHand.create, updateAll]
    split_ifs <;> rfl

theorem clearTable_foldedIds (hs : Seating (Game.clearTable t)) : (Game.clearTable t).foldedIds = ∅ := by
  apply foldedIds_of_none
  intro r hr
  have hseat : r ∈ t.seatsList := (hs.active r hr).1
  simp only [Game.clearTable, updateAll, if_pos hseat]
  split_ifs <;> simp [Player.setMyAction]

theorem mirrors_start (hstart : Start maxPlayers g t s) (ha : AtTable client s.hand.toTable) (dealerPosition : Nat)
    (smallBlind : Int) : Mirrors s.hand.toTable .runHand (Client.initHand client dealerPosition smallBlind) := by
  obtain ⟨_, hserver, hfolded⟩ := start_spec hstart
  have hcreate := sameFolds_create (Game.clearTable client) dealerPosition smallBlind
  exact
    { server := hserver
      client := ha.seating.same hcreate.toSameIds
      seats := hcreate.seatIds ▸ ha.seats
      active := hcreate.activeIds.trans ha.active
      folded := by
        rw [hfolded]
        exact hcreate.foldedIds.trans (clearTable_foldedIds ha.seating)
      state := rfl }

/-- A client knows who has folded as long as no turn message of a new round comes after a fold: such a message makes the
client forget the folds, which the server keeps. -/
theorem folds_known_of_keeps (hstart : Start maxPlayers g t s) (ha : AtTable client s.hand.toTable) (dealerPosition : Nat)
    (smallBlind : Int) (hrun : Runs.History (Sends maxPlayers) (ComputerRun.first s) hist u)
    (hkeeps : Runs.Each KeepsFolds (opening s.hand ++ hist)) :
    Runs.Each (FoldsKnown (Client.initHand client dealerPosition smallBlind)) (opening s.hand ++ hist) := by
  have hmirrors := mirrors_start hstart ha dealerPosition smallBlind
  obtain ⟨hphase, hseating, _⟩ := start_spec hstart
  have hseats : ∀ r ∈ s.hand.activePlayerList, r ∈ s.hand.seatsList := fun r hr => (hseating.active r hr).1
  have hopening : Runs.Each KeepsFolds (opening s.hand) := hkeeps.left
  have hfirst : Follows (Client.initHand client dealerPosition smallBlind) [] s.hand.toTable .runHand := by
    intro c hc
    cases hc
    exact ⟨hmirrors, fun _ => rfl⟩
  rw [opening, autoBlinds, List.map_append] at hopening
  have hsmall := (told_autoBlind s.hand .smallBlind .preflopSmallBlind hseats).each (follows_step _) hfirst .nil
    hopening.left
  have hboth := (told_autoBlind s.hand .bigBlind .preflopBigBlind hseats).each (follows_step _) hsmall.1 hsmall.2 hopening
  rw [List.nil_append, ← List.map_append] at hboth
  have hview : (.runHand, s.hand.toTable) = view (ComputerRun.first s) := by
    rw [view]
    change _ = (clientState s.phase, s.hand.toTable)
    rw [hphase]
    rfl
  obtain ⟨_, _, _, hknown⟩ := hrun.each (fun u a => a = view u) (follows_step _)
    (fun _ _ _ _ ha hsends => ⟨_, rfl, ha ▸ told_sends hsends⟩) hview hboth.1 hboth.2 hkeeps
  exact hknown

def play (maxPlayers : Nat) : ComputerRun.State → List Event → Option (ComputerRun.State × List Sent)
  | u, [] => some (u, [])
  | _, .rejoin _ _ _ :: _ => none
  | u, e :: es => (fire maxPlayers u e).bind fun (u', msgs) =>
      (play maxPlayers u' es).map fun (v, rest) => (v, msgs ++ rest)

theorem play_history {u₀ u v : ComputerRun.State} {es : List Event} {rest : List Sent}
    (hrun : Runs.History (Sends maxPlayers) u₀ hist u) (hplay : play maxPlayers u es = some (v, rest)) :
    Runs.History (Sends maxPlayers) u₀ (hist ++ rest) v := by
  induction es generalizing u hist rest with
  | nil =>
      cases hplay
      rw [List.append_nil]
      exact hrun
  | cons e es ih =>
      have hstep (hregular : ∀ u, Regular u e)
          (hplay : ((fire maxPlayers u e).bind fun (u', msgs) =>
            (play maxPlayers u' es).map fun (v, rest) => (v, msgs ++ rest)) = some (v, rest)) :
          Runs.History (Sends maxPlayers) u₀ (hist ++ rest) v := by
        obtain ⟨⟨u', msgs⟩, hfire, hplay⟩ := Option.bind_eq_some_iff.mp hplay
        obtain ⟨⟨w, rest'⟩, hrest, heq⟩ := Option.map_eq_some_iff.mp hplay
        cases heq
        rw [← List.append_assoc]
        exact ih (hrun.step ⟨e, hfire, hregular u⟩) hrest
      cases e with
      | rejoin r newPlayerId guid => cases hplay
      | loopTimer connected => exact hstep (fun _ => trivial) hplay
      | computerTimer m => exact hstep (fun _ => trivial) hplay
      | request id req => exact hstep (fun _ => trivial) hplay
      | actionTimer => exact hstep (fun _ => trivial) hplay
      | showMyCards id => exact hstep (fun _ => trivial) hplay

theorem countP_le_of_others {α : Type} {p q : α → Bool} {x : α} {l : List α} (hl : l.Nodup)
    (hsame : ∀ y, y ≠ x → q y = p y) : l.countP p ≤ l.countP q + 1 := by
  induction l with
  | nil => exact Nat.zero_le _
  | cons y l ih =>
      rw [List.nodup_cons] at hl
      by_cases hy : y = x
      · subst hy
        have hrest : l.countP q = l.countP p :=
          List.countP_congr fun z hz => by rw [hsame z fun heq => hl.1 (heq ▸ hz)]
        rw [List.countP_cons, List.countP_cons, hrest]
        split_ifs <;> omega
      · have hle := ih hl.2
        rw [List.countP_cons, List.countP_cons, hsame y hy]
        omega

/-- A hand of at most two players, in which somebody is left, and both while an action is waited for. -/
structure HeadsUp (u : ComputerRun.State) : Prop where
  nodup : u.betting.hand.activePlayerList.Nodup
  two : u.betting.hand.activePlayerList.length ≤ 2
  left : u.phase = .loop → 1 ≤ u.betting.hand.nonFoldPlayerCounter
  waiting : u.phase = .waitPlayerAction → 2 ≤ u.betting.hand.nonFoldPlayerCounter

/-- A turn message comes while nobody has folded. -/
def OpenTurn (m : Sent) : Prop := ∀ id gameState, m.msg = .playersTurn id gameState → m.table.foldedIds = ∅

theorem nonFold_eq (h : Hand) : h.nonFoldPlayerCounter = h.activePlayerList.countP fun r => !hasFolded (h.players r) := rfl

theorem nonFold_sameFolds {h h' : Hand} (hs : SameFolds h.toTable h'.toTable) :
    h'.nonFoldPlayerCounter = h.nonFoldPlayerCounter := by
  have hactive : h'.activePlayerList = h.activePlayerList := hs.activePlayerList
  have hfolds (r : Ref) : hasFolded (h'.players r) = hasFolded (h.players r) := hs.folds r
  simp only [nonFold_eq, hactive, hfolds]

theorem nonFold_actsOn {h h' : Hand} {r : Ref} (hl : h.activePlayerList.Nodup) (ha : ActsOn h.toTable h'.toTable r) :
    h.nonFoldPlayerCounter ≤ h'.nonFoldPlayerCounter + 1 := by
  have hactive : h'.activePlayerList = h.activePlayerList := ha.activePlayerList
  rw [nonFold_eq, nonFold_eq, hactive]
  exact countP_le_of_others hl fun q hq => congrArg not (ha.others q hq)

theorem HeadsUp.turn {h' : Hand} {r : Ref} (hu : HeadsUp u) (hphase : u.phase = .loop)
    (hrun : u.betting.hand.engineLoop maxPlayers = .ok (.playersTurn h' r)) :
    SameFolds u.betting.hand.toTable h'.toTable ∧ 2 ≤ h'.nonFoldPlayerCounter ∧ h'.toTable.foldedIds = ∅ := by
  have hsame := sameFolds_engineLoop hrun
  obtain ⟨k, hk, hcases⟩ := engineLoop_cases hrun
  cases hcases with
  | playersTurn _ hopen _ _ _ =>
      have htwo := waiting_nonFoldPlayerCounter (hu.left hphase) hk hopen
      refine ⟨hsame, htwo, foldedIds_of_none fun q hq hfold => ?_⟩
      have hlength : h'.activePlayerList.length ≤ 2 := by
        have hactive : h'.activePlayerList = u.betting.hand.activePlayerList := hsame.activePlayerList
        rw [hactive]
        exact hu.two
      have hall := List.countP_eq_length.mp (le_antisymm List.countP_le_length (hlength.trans htwo)) q hq
      simp [hfold] at hall

theorem HeadsUp.same {h' : Hand} {b : GameState → Bool} {p : Phase} (hu : HeadsUp u)
    (hactive : h'.activePlayerList = u.betting.hand.activePlayerList)
    (hleft : p = .loop → 1 ≤ h'.nonFoldPlayerCounter) (hwaiting : p = .waitPlayerAction → 2 ≤ h'.nonFoldPlayerCounter) :
    HeadsUp ⟨⟨h', b⟩, p⟩ := by
  refine ⟨?_, ?_, hleft, hwaiting⟩
  · change h'.activePlayerList.Nodup
    exact hactive ▸ hu.nodup
  · change h'.activePlayerList.length ≤ 2
    exact hactive ▸ hu.two

theorem openTurn_of_ne {h : Hand} {msg : HandMsg} (hmsg : ∀ id gameState, msg ≠ .playersTurn id gameState) :
    OpenTurn (sent h msg) := fun id gameState heq => absurd heq (hmsg id gameState)

theorem openTurn_sendNewRound {h : Hand} {showCards : Bool} :
    ∀ m ∈ (h.sendNewRound showCards).map (sent h), OpenTurn m := by
  intro m hm
  obtain ⟨msg, hmsg, rfl⟩ := List.mem_map.mp hm
  refine openTurn_of_ne fun id gameState heq => ?_
  rw [heq, sendNewRound, sendNewRoundCards] at hmsg
  rcases List.mem_append.mp hmsg with hmsg | hmsg
  · split_ifs at hmsg
    · cases List.mem_singleton.mp hmsg
    · cases hmsg
  · split at hmsg
    · cases List.mem_singleton.mp hmsg
    · cases List.mem_singleton.mp hmsg
    · cases List.mem_singleton.mp hmsg
    · cases hmsg
    · cases hmsg

theorem sendEndOfHand_ne (h : Hand) (id : Nat) (gameState : GameState) :
    h.sendEndOfHand ≠ .playersTurn id gameState := by
  simp only [sendEndOfHand]
  split
  · exact HandMsg.noConfusion
  · exact HandMsg.noConfusion

theorem HeadsUp.loopTimer {connected : Bool} {u' : ComputerRun.State} (hu : HeadsUp u) (hphase : u.phase = .loop)
    (hrun : loopTimer maxPlayers u.betting connected = some (u', msgs)) : HeadsUp u' ∧ ∀ m ∈ msgs, OpenTurn m := by
  simp only [HandServer.loopTimer] at hrun
  split at hrun
  · next hloop =>
      cases hrun
      have hsame := sameFolds_engineLoop hloop
      refine ⟨hu.same hsame.activePlayerList (fun _ => ?_) (fun hwait => by cases hwait), openTurn_sendNewRound⟩
      rw [nonFold_sameFolds hsame]
      exact hu.left hphase
  · next h r hloop =>
      obtain ⟨hsame, htwo, hnone⟩ := hu.turn hphase hloop
      split_ifs at hrun
      · cases hrun
        refine ⟨hu.same hsame.activePlayerList (fun _ => by omega) (fun _ => htwo), fun m hm => ?_⟩
        rw [List.mem_singleton.mp hm]
        exact fun _ _ _ => hnone
      · cases hrun
        have hacts := actsOn_performPlayerAction h r .fold 0
        have hactive : h.activePlayerList = u.betting.hand.activePlayerList := hsame.activePlayerList
        have hleft := nonFold_actsOn (hactive ▸ hu.nodup) hacts
        refine ⟨hu.same (Eq.trans hacts.activePlayerList hactive) (fun _ => by omega) (fun hwait => by cases hwait),
          fun m hm => ?_⟩
        rcases List.mem_cons.mp hm with rfl | hm
        · exact fun _ _ _ => hnone
        · rw [List.mem_singleton.mp hm]
          exact openTurn_of_ne fun _ _ => HandMsg.noConfusion
  · next hloop =>
      cases hrun
      have hsame := sameFolds_engineLoop hloop
      refine ⟨hu.same hsame.activePlayerList (fun hl => by cases hl) (fun hwait => by cases hwait), fun m hm => ?_⟩
      rw [List.mem_singleton.mp hm]
      exact openTurn_of_ne (sendEndOfHand_ne _)
  · cases hrun

theorem HeadsUp.computerTimer {mind : Mind} {u' : ComputerRun.State} (hu : HeadsUp u) (hphase : u.phase = .loop)
    (hrun : computerTimer maxPlayers u.betting mind = some (u', msgs)) : HeadsUp u' ∧ ∀ m ∈ msgs, OpenTurn m := by
  simp only [HandServer.computerTimer] at hrun
  split at hrun
  · next h r hloop =>
      split_ifs at hrun
      cases hrun
      obtain ⟨hsame, htwo, hnone⟩ := hu.turn hphase hloop
      have hacts := Betting.actsOn_action ⟨h, u.betting.fullBetRule⟩ r mind
      have hactive : h.activePlayerList = u.betting.hand.activePlayerList := hsame.activePlayerList
      have hnodup : h.activePlayerList.Nodup := hactive ▸ hu.nodup
      have hone := Nat.le_of_succ_le_succ (htwo.trans (@nonFold_actsOn h _ r hnodup hacts))
      refine ⟨hu.same (Eq.trans hacts.activePlayerList hactive) (fun _ => hone) (fun hwait => by cases hwait),
        fun m hm => ?_⟩
      rcases List.mem_cons.mp hm with rfl | hm
      · exact fun _ _ _ => hnone
      · rw [List.mem_singleton.mp hm]
        exact openTurn_of_ne fun _ _ => HandMsg.noConfusion
  · cases hrun

theorem HeadsUp.acted {h' : Hand} {r : Ref} (hu : HeadsUp u) (hphase : u.phase = .waitPlayerAction)
    (hacts : ActsOn u.betting.hand.toTable h'.toTable r) :
    HeadsUp ⟨{ u.betting with hand := h' }, .loop⟩ ∧ ∀ m ∈ [sent h' (h'.sendPlayerAction r)], OpenTurn m := by
  have hleft := nonFold_actsOn hu.nodup hacts
  have htwo := hu.waiting hphase
  refine ⟨hu.same hacts.activePlayerList (fun _ => by omega) (fun hwait => by cases hwait), fun m hm => ?_⟩
  rw [List.mem_singleton.mp hm]
  exact openTurn_of_ne fun _ _ => HandMsg.noConfusion

theorem HeadsUp.sends {u' : ComputerRun.State} (hu : HeadsUp u) (hs : Sends maxPlayers u msgs u') :
    HeadsUp u' ∧ ∀ m ∈ msgs, OpenTurn m := by
  obtain ⟨e, hfire, -⟩ := hs
  cases e with
  | loopTimer connected =>
      simp only [fire] at hfire
      split_ifs at hfire with hphase
      exact hu.loopTimer hphase hfire
  | computerTimer mind =>
      simp only [fire] at hfire
      split_ifs at hfire with hphase
      exact hu.computerTimer hphase hfire
  | request id req =>
      simp only [fire] at hfire
      split_ifs at hfire with hphase
      simp only [request] at hfire
      split at hfire
      · cases hfire
      · split at hfire
        · next hact =>
            cases hfire
            exact hu.acted hphase (actsOn_handleMyAction hact)
        · cases hfire
  | actionTimer =>
      simp only [fire] at hfire
      split_ifs at hfire with hphase
      simp only [actionTimer] at hfire
      split at hfire
      · cases hfire
        exact hu.acted hphase (actsOn_timeoutAction _ _)
      · cases hfire
  | showMyCards id =>
      simp only [fire] at hfire
      split_ifs at hfire with hphase
      obtain ⟨r, _, hrun⟩ := Option.map_eq_some_iff.mp hfire
      cases hrun
      refine ⟨hu.same rfl (fun hl => by cases hl) (fun hwait => by cases hwait), fun m hm => ?_⟩
      rw [List.mem_singleton.mp hm]
      exact openTurn_of_ne fun _ _ => HandMsg.noConfusion
  | rejoin r newPlayerId guid =>
      simp only [fire] at hfire
      split_ifs at hfire with hphase
      cases hfire
      refine ⟨hu.same rfl (fun hl => by cases hl) (fun hwait => by cases hwait), fun m hm => ?_⟩
      rw [List.mem_singleton.mp hm]
      exact openTurn_of_ne fun _ _ => HandMsg.noConfusion

theorem headsUp_start (hstart : Start MAX_NUMBER_OF_PLAYERS g t s) : HeadsUp (ComputerRun.first s) := by
  obtain ⟨hphase, -, hnone⟩ := start_spec hstart
  cases conserved_start hstart with
  | @loop h hs _ hn _ =>
      have hnodup : h.activePlayerList.Nodup := hs.active ▸ hs.ids.nodup.filter _
      have htwo : h.activePlayerList.length ≤ 2 := by
        rw [hs.active]
        exact (List.length_filter_le _ _).trans hs.seats
      exact ⟨hnodup, htwo, fun _ => hn, fun hwait => by cases hwait⟩
  | waitPlayerAction => cases hphase
  | handOver => cases hphase

/-- A client knows who has folded at every table of the size that the server allows: of two players the first fold ends
the hand, so no turn message makes the client forget it. -/
theorem folds_known (hstart : Start MAX_NUMBER_OF_PLAYERS g t s) (ha : AtTable client s.hand.toTable)
    (dealerPosition : Nat) (smallBlind : Int)
    (hrun : Runs.History (Sends MAX_NUMBER_OF_PLAYERS) (ComputerRun.first s) hist u) :
    Runs.Each (FoldsKnown (Client.initHand client dealerPosition smallBlind)) (opening s.hand ++ hist) := by
  have hturns : HeadsUp u ∧ ∀ m ∈ hist, OpenTurn m := by
    refine @Runs.History.invariant _ _ (Sends MAX_NUMBER_OF_PLAYERS) (ComputerRun.first s) u hist
      (fun hist u => HeadsUp u ∧ ∀ m ∈ hist, OpenTurn m) ⟨headsUp_start hstart, by simp⟩ ?_ hrun
    intro hist msgs u u' hu hsends
    obtain ⟨hnext, hmsgs⟩ := hu.1.sends hsends
    refine ⟨hnext, fun m hm => ?_⟩
    rcases List.mem_append.mp hm with hm | hm
    · exact hu.2 m hm
    · exact hmsgs m hm
  refine folds_known_of_keeps hstart ha dealerPosition smallBlind hrun fun before m after heq id gameState hmsg _ => ?_
  have hmem : m ∈ opening s.hand ++ hist := by simp [heq]
  rcases List.mem_append.mp hmem with hopening | hlater
  · obtain ⟨msg, hblind, rfl⟩ := List.mem_map.mp hopening
    -- the blinds are no turn messages
    have hne : ∀ button round, msg ∈ s.hand.autoBlind button round → False := fun button round hb => by
      have hmsg : msg = .playersTurn id gameState := hmsg
      rw [hmsg, autoBlind] at hb
      split at hb
      · cases List.mem_singleton.mp hb
      · cases hb
    exact ((List.mem_append.mp hblind).elim (hne _ _) (hne _ _)).elim
  · exact hturns.2 m hlater id gameState hmsg

theorem seating_twoPlayers : Seating (Game.clearTable twoPlayers) := by
  have hids (r : Ref) : (Game.clearTable twoPlayers).uniqueID r = r + 1 := by
    simp only [Table.uniqueID, Game.clearTable, updateAll]
    split_ifs <;> rfl
  refine ⟨⟨by decide, fun r _ _ q _ heq => ?_⟩, by decide⟩
  have hsame : q + 1 = r + 1 := (hids q).symm.trans (Eq.trans heq (hids r))
  exact Nat.succ_injective hsame

/-- A run of two players that a computation finds, with the messages that a client at their table handles. -/
theorem exists_history (es : List Event) (check : List Sent → Client → Bool)
    (hplay : ((deal twoPlayersGame (fun _ => 0) 0 twoPlayers).bind fun s =>
      (play 2 (ComputerRun.first s) es).bind fun (_, rest) =>
        if (Game.clearTable twoPlayers).seatIds = s.hand.toTable.seatIds ∧
            (Game.clearTable twoPlayers).activeIds = s.hand.toTable.activeIds then
          match (Client.initHand twoPlayers 1 5).handlePackets ((opening s.hand ++ rest).map Sent.msg) with
          | .ok c => some (opening s.hand ++ rest, c)
          | .error _ => none
        else none).any fun (msgs, c) => check msgs c) :
    ∃ s u hist c, Start 2 twoPlayersGame twoPlayers s ∧ AtTable twoPlayers s.hand.toTable ∧
      Runs.History (Sends 2) (ComputerRun.first s) hist u ∧
      (Client.initHand twoPlayers 1 5).handlePackets ((opening s.hand ++ hist).map Sent.msg) = .ok c ∧
      check (opening s.hand ++ hist) c = true := by
  obtain ⟨⟨msgs, c⟩, hfound, hcheck⟩ := (Option.any_eq_true _ _).mp hplay
  obtain ⟨s, hs, hfound⟩ := Option.bind_eq_some_iff.mp hfound
  obtain ⟨⟨u, rest⟩, hrest, hfound⟩ := Option.bind_eq_some_iff.mp hfound
  dsimp only at hfound
  split_ifs at hfound with hids
  split at hfound
  · next c' hc =>
      cases hfound
      have hrun := play_history (.start : Runs.History (Sends 2) (ComputerRun.first s) [] _) hrest
      have hseats : (Game.clearTable twoPlayers).seatIds.Perm s.hand.toTable.seatIds := hids.1 ▸ List.Perm.refl _
      exact ⟨s, u, rest, c, deal_start ready_twoPlayers hs, ⟨seating_twoPlayers, hseats, hids.2⟩, hrun, hc, hcheck⟩
  · cases hfound

/-- The blinds are called, the flop is dealt, and the big blind folds on it. -/
theorem folds_known_flop : ∃ (s : HandRun.State) (hist : List Sent) (c : Client),
    Runs.Each (FoldsKnown (Client.initHand twoPlayers 1 5)) (opening s.hand ++ hist) ∧
      announcedRound (opening s.hand ++ hist) = .flop ∧
      (Client.initHand twoPlayers 1 5).handlePackets ((opening s.hand ++ hist).map Sent.msg) = .ok c ∧
      c.hand.toTable.foldedIds = {2} := by
  obtain ⟨s, u, hist, c, hstart, htable, hrun, hc, hcheck⟩ := exists_history
    [.loopTimer true, .request 1 ⟨1, 0, .call, 5⟩, .loopTimer true, .request 2 ⟨1, 0, .check, 0⟩, .loopTimer true,
      .loopTimer true, .request 2 ⟨1, 1, .fold, 0⟩, .loopTimer true]
    (fun msgs c => announcedRound msgs == .flop && c.hand.toTable.foldedIds == {2}) (by decide +kernel)
  rw [Bool.and_eq_true, beq_iff_eq, beq_iff_eq] at hcheck
  exact ⟨s, hist, c, folds_known hstart htable 1 5 hrun, hcheck.1, hc, hcheck.2⟩

end PokerTH.HandServer
