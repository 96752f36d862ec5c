import PokerTH.LimitsHistory
import PokerTH.RejoinTable
import PokerTH.TakenSeats

namespace PokerTH

open HoleCards (SeatState)

def Table.seatView (t : Table) (r : Ref) : Nat × Int × Bool :=
  (t.uniqueID r, (t.players r).myCash + (t.players r).mySet, (t.players r).myActiveStatus)

namespace RejoinTable

open HandRun Hand HandServer

/-- A client's table is the server's table, turned so that the own seat `orig` of the server comes first. -/
structure SameTable (n orig me : Nat) (g : Game) (h : Hand) (game : Game) (c : Client) : Prop where
  own : (h.seatsList.take n)[orig]?.map h.uniqueID = some me
  seats : (c.hand.seatsList.take n).map c.hand.seatView = ((h.seatsList.take n).map h.seatView).rotate orig
  quantity : game.startQuantityPlayers = n
  dealer : c.hand.dealerPosition = h.dealerPosition
  handID : game.currentHandID = g.currentHandID

section

variable {n orig i : Nat} {seatsList : List Ref} {players : Players}

theorem seatNumber_of_add (horig : orig < n) {k : Nat} (hk : k < n) : seatNumber n orig ((k + orig) % n) = k := by
  have hsum : k + orig + (n - orig) = k + n := by omega
  rw [seatNumber, Nat.mod_add_mod, hsum, Nat.add_mod_right, Nat.mod_eq_of_lt hk]

theorem seatNumber_ne (horig : orig < n) {j : Nat} (hi : i < n) (hj : j < n) (hne : i ≠ j) :
    seatNumber n orig i ≠ seatNumber n orig j := by
  intro heq
  apply hne
  rw [← seatNumber_add horig hi, heq, seatNumber_add horig hj]

theorem setSeatStates_spec (hseats : ∀ k < n, k ∈ seatsList) (horig : orig < n) {states : List SeatState}
    (hlen : i + states.length ≤ n) : ∃ players', setSeatStates seatsList n orig i states players = some players' ∧
      (∀ j state, states[j]? = some state → players' (seatNumber n orig (i + j)) =
        setSeatState (players (seatNumber n orig (i + j))) state) ∧
      ∀ k, (∀ j < states.length, k ≠ seatNumber n orig (i + j)) → players' k = players k := by
  induction states generalizing i players with
  | nil => exact ⟨players, rfl, nofun, fun _ _ => rfl⟩
  | cons state states ih =>
      rw [List.length_cons] at hlen
      have hlt : seatNumber n orig i < n := seatNumber_lt (by omega)
      obtain ⟨players', hrun, hset, hkeep⟩ := @ih (i + 1)
        (updatePlayer players (seatNumber n orig i) fun p => setSeatState p state) (by omega)
      simp only [setSeatStates, if_pos (hseats _ hlt)]
      refine ⟨players', hrun, fun j st hst => ?_, fun k hk => ?_⟩
      · cases j with
        | zero =>
            cases hst
            rw [hkeep]
            · simp [updatePlayer]
            · intro j hj
              exact seatNumber_ne horig (by omega) (by omega) (by omega)
        | succ j =>
            have hj := (List.getElem?_eq_some_iff.mp hst).1
            rw [List.length_cons] at hj
            have hother : seatNumber n orig (i + 1 + j) ≠ seatNumber n orig i :=
              seatNumber_ne horig (by omega) (by omega) (by omega)
            have hthis := hset j st hst
            rw [updatePlayer, Function.update_of_ne hother] at hthis
            have hindex : i + (j + 1) = i + 1 + j := by omega
            rw [hindex]
            exact hthis
      · rw [hkeep]
        · have hne := hk 0 (Nat.succ_pos _)
          rw [Nat.add_zero] at hne
          rw [updatePlayer, Function.update_of_ne hne]
        · intro j hj
          have hne := hk (j + 1) (Nat.succ_lt_succ hj)
          have hindex : i + (j + 1) = i + 1 + j := by omega
          rwa [hindex] at hne

end

theorem setSeatState_myActiveStatus (p : Player) (state : SeatState) :
    (setSeatState p state).myActiveStatus = p.myActiveStatus := by
  cases state <;> rfl

/-- The state of a seat tells a client whether its player goes on, and takes the chips of one who does not. -/
theorem setSeatState_view {p' : Player} (uniqueId : Nat) (type : PlayerType) (guid : String) {cash : Int}
    (hbroke : p'.myActiveStatus = false → cash = 0) (hcash : p'.myActiveStatus = true → cash ≠ 0) :
    ∃ q, setSeatState (Player.create uniqueId type guid cash true) (seatState p') = q ∧ q.myUniqueID = uniqueId ∧
      q.myCash = cash ∧ q.mySet = 0 ∧ (q.myActiveStatus && q.myCash != 0) = p'.myActiveStatus := by
  refine ⟨_, rfl, ?_⟩
  simp only [seatState]
  by_cases hactive : p'.myActiveStatus = false
  · rw [if_pos hactive, hactive, hbroke hactive]
    exact ⟨rfl, rfl, rfl, rfl⟩
  · have htrue : p'.myActiveStatus = true := by simpa using hactive
    rw [if_neg hactive, htrue]
    have hgoes : (cash != 0) = true := bne_iff_ne.mpr (hcash htrue)
    split_ifs
    · exact ⟨rfl, rfl, rfl, hgoes⟩
    · exact ⟨rfl, rfl, rfl, hgoes⟩

section

variable {maxPlayers n me : Nat} {g g' : Game} {t : Table} {h : Hand} {cg : ClientGame} {v : Nat → Nat} {elapsed : Int}

/-- The player of a seat of the client, when the states of all seats are set. -/
theorem client_player (hr : Ready maxPlayers t) (hk : Taken n g t) (hrun : g.initHand v elapsed t = .ok (g', h))
    (hj : Joined maxPlayers (sendGameData g t n) me cg) : ∃ players,
    setSeatStates cg.table.seatsList cg.game.startQuantityPlayers cg.origGuiPlayerNum 0
      (createNetPacketHandStart h n).seatStates cg.table.players = some players ∧
    (∀ i, n ≤ i → (players i).myActiveStatus = false) ∧
    ∀ i < n, ∃ r, ((t.seatsList.take n).rotate cg.origGuiPlayerNum)[i]? = some r ∧ (players i).myActiveStatus = true ∧
      (players i).myUniqueID = t.uniqueID r ∧ (players i).myCash = (t.players r).myCash ∧ (players i).mySet = 0 ∧
      ((players i).myActiveStatus && (players i).myCash != 0) = (h.players r).myActiveStatus := by
  have ho := (initHand_spec hr hrun).1.opened
  have hlength : (t.seatsList.take n).length = n := by
    rw [List.length_take]
    exact Nat.min_eq_left hk.le
  have hdata : (sendGameData g t n).rejoinPlayerData.length = n := by
    rw [sendGameData, List.length_map, hlength]
  have horig := hj.lt
  rw [hdata] at horig
  have hmax : n ≤ maxPlayers := hk.le.trans hr.seats
  have hstates : (createNetPacketHandStart h n).seatStates.length = n := by
    rw [createNetPacketHandStart, ho.seatsList, List.length_map, hlength]
  obtain ⟨players, hset, hstate, hkeep⟩ := @setSeatStates_spec n cg.origGuiPlayerNum 0 (List.range maxPlayers)
    cg.table.players (fun k hk => List.mem_range.mpr (hk.trans_le hmax)) horig _ (by rw [hstates, Nat.zero_add])
  rw [hj.seatsList, hj.quantity, hdata]
  refine ⟨players, hset, fun i hi => ?_, fun i hi => ?_⟩
  · rw [hkeep]
    · exact hj.empty i (hdata.symm ▸ hi)
    · intro j _ heq
      have hlt : seatNumber n cg.origGuiPlayerNum (0 + j) < n := seatNumber_lt (by omega)
      omega
  · have hlt : (i + cg.origGuiPlayerNum) % n < n := Nat.mod_lt _ (by omega)
    have hseat : ((t.seatsList.take n).rotate cg.origGuiPlayerNum)[i]? =
        some ((t.seatsList.take n)[(i + cg.origGuiPlayerNum) % n]) := by
      rw [List.getElem?_eq_getElem (by rwa [List.length_rotate, hlength]), List.getElem_rotate]
      simp only [hlength]
    generalize hr' : (t.seatsList.take n)[(i + cg.origGuiPlayerNum) % n] = r at hseat
    have hmem : r ∈ t.seatsList.take n := hr' ▸ List.getElem_mem _
    have hview : ((sendGameData g t n).rejoinPlayerData.rotate cg.origGuiPlayerNum)[i]? =
        some (t.uniqueID r, (t.players r).myCash) := by
      rw [sendGameData, ← List.map_rotate, List.getElem?_map, hseat]
      rfl
    obtain ⟨type, guid, hplayer⟩ := hj.player i _ hview
    have hsent : (createNetPacketHandStart h n).seatStates[(i + cg.origGuiPlayerNum) % n]? =
        some (seatState (h.players r)) := by
      rw [createNetPacketHandStart, ho.seatsList, List.getElem?_map, List.getElem?_eq_getElem (by rwa [hlength]), hr']
      rfl
    have hthis := hstate _ _ hsent
    rw [Nat.zero_add, seatNumber_of_add horig hi, hplayer] at hthis
    have hactive := initHand_myActiveStatus hr hrun (List.mem_of_mem_take hmem)
    obtain ⟨q, hq, hid, hcash, hzero, hgoes⟩ := @setSeatState_view (h.players r) (t.uniqueID r) type guid
      (t.players r).myCash
      (by
        intro hout
        rw [hactive, Bool.and_eq_false_iff] at hout
        rcases hout with hout | hout
        · exact hk.broke r hmem hout
        · simpa using hout)
      (by
        intro hin
        rw [hactive, Bool.and_eq_true, bne_iff_ne] at hin
        exact hin.2)
    have hstatus := setSeatState_myActiveStatus (Player.create (t.uniqueID r) type guid (t.players r).myCash true)
      (seatState (h.players r))
    rw [hq] at hthis hstatus
    rw [← hthis] at hid hcash hzero hgoes hstatus
    exact ⟨r, hseat, hstatus, hid, hcash, hzero, hgoes⟩

theorem raiseBlinds_fixed (elapsed : Int) (g : Game) : (g.raiseBlinds elapsed).dealerPosition = g.dealerPosition ∧
    (g.raiseBlinds elapsed).currentHandID = g.currentHandID ∧
      (g.raiseBlinds elapsed).startQuantityPlayers = g.startQuantityPlayers := by
  simp only [Game.raiseBlinds]
  split <;> split_ifs <;> exact ⟨rfl, rfl, rfl⟩

theorem initHand_handID (hrun : g.initHand v elapsed t = .ok (g', h)) : g'.currentHandID = g.currentHandID + 1 := by
  obtain ⟨_, _, rfl, _, _, rfl⟩ := initHand_cases hrun
  exact (raiseBlinds_fixed elapsed _).2.1

/-- The client clears its table and gives the players their buttons. What a seat shows afterwards: -/
theorem startHand_seatView {game : Game} {u : Table} {msg : HandStartMessage}
    (hlist : u.activePlayerList = u.seatsList.filter fun r => (u.players r).myActiveStatus) {r : Ref}
    (hseat : r ∈ u.seatsList) : (startHand game u msg).hand.seatView r = (u.uniqueID r,
      (u.players r).myCash + (u.players r).mySet, (u.players r).myActiveStatus && (u.players r).myCash != 0) := by
  have hclear := clearTable_players hlist hseat
  have hplayer : (startHand game u msg).hand.players r =
      updateAll (Game.clearTable u).players (Game.clearTable u).activePlayerList
        (ClientHand.clearPlayer game.dealerPosition) r := rfl
  have hfield {β : Type} (f : Player → β) (hf : ∀ d p, f (ClientHand.clearPlayer d p) = f p) :
      f ((startHand game u msg).hand.players r) = f ((Game.clearTable u).players r) := by
    rw [hplayer, updateAll]
    split_ifs
    · exact hf _ _
    · rfl
  have hid := hfield (fun p => p.myUniqueID) fun _ _ => rfl
  have hcash := hfield (fun p => p.myCash) fun _ _ => rfl
  have hset := hfield (fun p => p.mySet) fun _ _ => rfl
  have hactive := hfield (fun p => p.myActiveStatus) fun _ _ => rfl
  simp only [Table.seatView, Table.uniqueID, hid, hcash, hset, hactive, hclear]
  rfl

/-- With the start of the next hand a client who has joined again has the table of the server. -/
theorem sameTable_handStart (hr : Ready maxPlayers t) (hk : Taken n g t)
    (hrun : g.initHand v elapsed t = .ok (g', h)) (hj : Joined maxPlayers (sendGameData g t n) me cg) (clock : Int) :
    ∃ game c, handStart clock cg (createNetPacketHandStart h n) = some (game, c) ∧
      SameTable n cg.origGuiPlayerNum me g' h game c := by
  have hc := (initHand_spec hr hrun).1
  have ho := hc.opened
  have hlength : (t.seatsList.take n).length = n := by
    rw [List.length_take]
    exact Nat.min_eq_left hk.le
  have hdata : (sendGameData g t n).rejoinPlayerData.length = n := by
    rw [sendGameData, List.length_map, hlength]
  have hmax : n ≤ maxPlayers := hk.le.trans hr.seats
  obtain ⟨players, hset, hempty, hplayer⟩ := client_player hr hk hrun hj
  have hlist : cg.table.activePlayerList = cg.table.seatsList.filter fun i => (players i).myActiveStatus := by
    rw [hj.active, hj.seatsList, hdata]
    apply List.filter_congr
    intro i _
    by_cases hi : i < n
    · obtain ⟨_, _, hstatus, _⟩ := hplayer i hi
      rw [hstatus, decide_eq_true hi]
    · rw [hempty i (Nat.not_lt.mp hi), decide_eq_false hi]
  have hview (i : Nat) (hi : i < n) : ∃ r, ((t.seatsList.take n).rotate cg.origGuiPlayerNum)[i]? = some r ∧
      (startHand (raisedGame clock cg.game) { cg.table with players } (createNetPacketHandStart h n)).hand.seatView i =
        h.seatView r := by
    obtain ⟨r, hseat, _, hid, hcash, hzero, hgoes⟩ := hplayer i hi
    have hmem := List.mem_of_mem_take (List.mem_rotate.mp (List.mem_of_getElem? hseat))
    have hd := ho.players r hmem
    have hclient := @startHand_seatView (raisedGame clock cg.game) { cg.table with players }
      (createNetPacketHandStart h n) hlist i (hj.seatsList ▸ List.mem_range.mpr (hi.trans_le hmax))
    refine ⟨r, hseat, hclient.trans ?_⟩
    simp only [Table.uniqueID] at hid
    simp only [Table.seatView, Table.uniqueID, hid, hcash, hzero, hd.id, hd.chips, add_zero]
    rw [← hcash, hgoes]
  have hfind (r : Ref) (hmem : r ∈ t.seatsList.take n) :
      ∃ i < n, ((t.seatsList.take n).rotate cg.origGuiPlayerNum)[i]? = some r := by
    obtain ⟨i, hi⟩ := List.mem_iff_getElem?.mp (List.mem_rotate.mpr hmem)
    have hlt := (List.getElem?_eq_some_iff.mp hi).1
    rw [List.length_rotate, hlength] at hlt
    exact ⟨i, hlt, hi⟩
  have hdealer : (raisedGame clock cg.game).dealerPosition = g.dealerPosition :=
    (raiseBlinds_fixed clock _).1.trans hj.dealer
  have hsits (i : Nat) (hi : i < n) : i ∈ cg.table.seatsList := hj.seatsList ▸ List.mem_range.mpr (hi.trans_le hmax)
  -- the client finds the dealer, and an active player after him
  obtain ⟨d, hd⟩ : ∃ d, findPlayer (startHand (raisedGame clock cg.game) { cg.table with players }
      (createNetPacketHandStart h n)).hand.players cg.table.seatsList (raisedGame clock cg.game).dealerPosition = some d := by
    obtain ⟨r, hmem, hid⟩ := List.mem_map.mp hk.dealer
    obtain ⟨i, hi, hseat⟩ := hfind r hmem
    obtain ⟨r', hseat', hsame⟩ := hview i hi
    cases Option.some.inj (hseat.symm.trans hseat')
    have hids := congrArg Prod.fst hsame
    have hserver := (ho.players r (List.mem_of_mem_take hmem)).id
    exact findPlayer_isSome ⟨i, hsits i hi, hids.trans (hserver.trans (hid.trans hdealer.symm))⟩
  obtain ⟨it, hit⟩ : ∃ it, (startHand (raisedGame clock cg.game) { cg.table with players }
      (createNetPacketHandStart h n)).hand.nextActivePlayer d = some it := by
    obtain ⟨r, hactive⟩ := List.exists_mem_of_ne_nil _ hc.nonempty
    have hstatus := (ho.mem_active.mp hactive).2
    have hmem : r ∈ t.seatsList.take n := by
      rw [(initHand_lists hrun).1, clearTable_activePlayerList] at hactive
      exact hk.active r (List.mem_filter.mp hactive).1
    obtain ⟨i, hi, hseat⟩ := hfind r hmem
    obtain ⟨r', hseat', hin, _, _, _, hgoes⟩ := hplayer i hi
    cases Option.some.inj (hseat.symm.trans hseat')
    rw [hstatus, Bool.and_eq_true] at hgoes
    have hclear : i ∈ (Game.clearTable { cg.table with players }).activePlayerList := by
      rw [clearTable_activePlayerList]
      refine List.mem_filter.mpr ⟨?_, hgoes.2⟩
      change i ∈ cg.table.activePlayerList
      rw [hlist]
      exact List.mem_filter.mpr ⟨hsits i hi, hin⟩
    exact nextActivePlayer_isSome (findPlayer_some hd).1 hclear (hsits i hi)
  have hnext : ∃ id, Game.nextDealer (startHand (raisedGame clock cg.game) { cg.table with players }
      (createNetPacketHandStart h n)).hand = .ok id := by
    have hd' : (startHand (raisedGame clock cg.game) { cg.table with players }
        (createNetPacketHandStart h n)).hand.getSeatIt (startHand (raisedGame clock cg.game) { cg.table with players }
          (createNetPacketHandStart h n)).hand.dealerPosition = some d := hd
    simp only [Game.nextDealer, hd', hit]
    exact ⟨_, rfl⟩
  obtain ⟨id, hid⟩ := hnext
  simp only [handStart, hset, hid]
  refine ⟨_, _, rfl, ?_, ?_, ?_, ?_, ?_⟩
  · have hown := hj.own
    rw [sendGameData, List.map_map, List.getElem?_map] at hown
    obtain ⟨r, hseat, hme⟩ := Option.map_eq_some_iff.mp hown
    rw [ho.seatsList, hseat, ← hme]
    exact congrArg some (ho.players r (List.mem_of_mem_take (List.mem_of_getElem? hseat))).id
  · have htake : cg.table.seatsList.take n = List.range n := by
      rw [hj.seatsList, List.take_range, Nat.min_eq_left hmax]
    change (cg.table.seatsList.take n).map _ = _
    rw [htake, ho.seatsList, ← List.map_rotate]
    apply List.ext_getElem
    · rw [List.length_map, List.length_map, List.length_range, List.length_rotate, hlength]
    · intro i hi hi'
      rw [List.length_map, List.length_range] at hi
      obtain ⟨r, hseat, hsame⟩ := hview i hi
      rw [List.getElem_map, List.getElem_map, List.getElem_range, hsame, (List.getElem?_eq_some_iff.mp hseat).2]
  · refine (raiseBlinds_fixed clock _).2.2.trans ?_
    exact hj.quantity.trans hdata
  · exact hdealer.trans ((initHand_lists hrun).2.2.trans (raiseBlinds_fixed elapsed _).1).symm
  · rw [initHand_handID hrun]
    refine (raiseBlinds_fixed clock _).2.1.trans ?_
    exact congrArg (fun k => k + 1) hj.handID

/-- On the server all rounds of a new hand have the limits of its small blind. -/
theorem blindLimits_initHand (hr : Ready maxPlayers t) (hrun : g.initHand v elapsed t = .ok (g', h)) (s : GameState) :
    h.skipFirstRunGui.start.blindLimits s = (h.smallBlind, 2 * h.smallBlind) := by
  have hmade := (initHand_spec hr hrun).1.beRo s
  have hblind := newBeRo_smallBlind hmade
  obtain ⟨_, _, _, hraise, _⟩ := newBeRo_spec hmade
  have hsame : h.skipFirstRunGui.start.blindLimits s = h.blindLimits s := by
    simp only [Hand.start, skipFirstRunGui, blindLimits, collectSets, setBoard_myBeRo]
    split_ifs <;> rfl
  exact hsame.trans (Prod.ext hblind hraise)

/-- A client's rounds have the limits of the blind in its own schedule, and the message replaces the first raise. -/
theorem blindLimits_startHand (game : Game) (u : Table) (msg : HandStartMessage) (s : GameState) :
    (startHand game u msg).hand.blindLimits s =
      (game.currentSmallBlind, 2 * if s = .preflop then msg.smallBlind else game.currentSmallBlind) := by
  rw [startHand, Client.setHand, blindLimits_setMinimumRaise]
  change Function.update _ GameState.preflop _ s = _
  by_cases hs : s = .preflop
  · subst hs
    rw [Function.update_self, if_pos rfl]
    rfl
  · rw [Function.update_of_ne hs, if_neg hs]
    rfl

theorem handStart_eq {clock : Int} {msg : HandStartMessage} {game : Game} {c : Client}
    (hrun : handStart clock cg msg = some (game, c)) :
    ∃ players d, c = startHand (raisedGame clock cg.game) { cg.table with players } msg ∧
      game = { raisedGame clock cg.game with dealerPosition := d } := by
  simp only [handStart] at hrun
  split at hrun
  · cases hrun
  · split at hrun
    · cases hrun
    · cases hrun
      exact ⟨_, _, rfl, rfl⟩

/-- A client whose own schedule has come to the small blind of the server has the server's limits at every turn. -/
theorem limits_handStart (hr : Ready maxPlayers t) (hrun : g.initHand v elapsed t = .ok (g', h)) {clock : Int}
    {game : Game} {c : Client} (hstart : handStart clock cg (createNetPacketHandStart h n) = some (game, c))
    (hblind : (raisedGame clock cg.game).currentSmallBlind = h.smallBlind) {hist : List Sent} {u : ComputerRun.State}
    (hhist : Runs.History (Sends maxPlayers) (ComputerRun.first ⟨h.skipFirstRunGui.start, .loop⟩) hist u) :
    Runs.Each (LimitsKnown c) (opening h.skipFirstRunGui.start ++ hist) := by
  obtain ⟨players, _, rfl, _⟩ := handStart_eq hstart
  have hround := (initHand_spec hr hrun).1.opened.round
  refine limits_history (s := ⟨h.skipFirstRunGui.start, .loop⟩) rfl hround rfl rfl (funext fun s => ?_) hhist
  rw [blindLimits_startHand, blindLimits_initHand hr hrun, hblind]
  congr 2
  exact ite_self _

end

end RejoinTable

end PokerTH
