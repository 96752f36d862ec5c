import PokerTH.Conservation

namespace PokerTH.Hand

open PokerTH.Lists Board

variable {maxPlayers : Nat} {t : Table} {g g' : Game} {h h' k : Hand}

theorem bind_ok {α β ε : Type} {x : Except ε α} {f : α → Except ε β} {b : β} (h : x >>= f = .ok b) :
    ∃ a, x = .ok a ∧ f a = .ok b := by
  cases x with
  | error e => cases h
  | ok a => exact ⟨a, rfl, h⟩

/-- The assignment of the buttons moves nothing else. -/
structure Buttoned (h h' : Hand) : Prop where
  players : ∀ r, (h'.players r).setMyButton .none = (h.players r).setMyButton .none
  seatsList : h'.seatsList = h.seatsList
  activePlayerList : h'.activePlayerList = h.activePlayerList
  runningPlayerList : h'.runningPlayerList = h.runningPlayerList
  pot : h'.board.pot = h.board.pot
  dealerPosition : h'.dealerPosition = h.dealerPosition
  smallBlind : h'.smallBlind = h.smallBlind
  currentRound : h'.currentRound = h.currentRound
  allInCondition : h'.allInCondition = h.allInCondition

theorem Buttoned.trans (hb : Buttoned h h') (hb' : Buttoned h' k) : Buttoned h k :=
  ⟨fun r => (hb'.players r).trans (hb.players r), hb'.seatsList.trans hb.seatsList,
    hb'.activePlayerList.trans hb.activePlayerList, hb'.runningPlayerList.trans hb.runningPlayerList,
    hb'.pot.trans hb.pot, hb'.dealerPosition.trans hb.dealerPosition, hb'.smallBlind.trans hb.smallBlind,
    hb'.currentRound.trans hb.currentRound, hb'.allInCondition.trans hb.allInCondition⟩

theorem buttoned_setMyButton (h : Hand) (q : Ref) (b : Button) : Buttoned h (h.setMyButton q b) := by
  refine ⟨fun r => ?_, rfl, rfl, rfl, rfl, rfl, rfl, rfl, rfl⟩
  by_cases hr : r = q
  · subst hr
    simp [setMyButton, updatePlayer, Player.setMyButton]
  · simp [setMyButton, updatePlayer, hr]

theorem buttoned_clearButtons (h : Hand) : Buttoned h h.clearButtons := by
  refine ⟨fun r => ?_, rfl, rfl, rfl, rfl, rfl, rfl, rfl, rfl⟩
  simp only [clearButtons, setPlayers_players, updateAll]
  split_ifs <;> rfl

theorem buttoned_setLastActionPlayerID (h : Hand) (id : Nat) : Buttoned h (h.setLastActionPlayerID id) :=
  ⟨fun _ => rfl, rfl, rfl, rfl, rfl, rfl, rfl, rfl, rfl⟩

theorem buttoned_assignBlindButtons (h : Hand) (it : Ref) : Buttoned h (h.assignBlindButtons it) := by
  have hblinds (b c : Button) (next : Ref) : Buttoned h
      (((h.setMyButton it b).setLastActionPlayerID (h.uniqueID it)).setMyButton next c) :=
    ((buttoned_setMyButton h it b).trans (buttoned_setLastActionPlayerID _ _)).trans
      (buttoned_setMyButton _ next c)
  simp only [assignBlindButtons]
  split_ifs
  · have hb := hblinds .smallBlind .bigBlind (Cyclic.next h.activePlayerList it)
    exact ⟨hb.players, hb.seatsList, hb.activePlayerList, hb.runningPlayerList, hb.pot, hb.dealerPosition,
      hb.smallBlind, hb.currentRound, hb.allInCondition⟩
  · have hb := hblinds .bigBlind .smallBlind (Cyclic.next h.activePlayerList it)
    exact ⟨hb.players, hb.seatsList, hb.activePlayerList, hb.runningPlayerList, hb.pot, hb.dealerPosition,
      hb.smallBlind, hb.currentRound, hb.allInCondition⟩

theorem findPlayer_some {players : Players} {l : List Ref} {id : Nat} {r : Ref}
    (hf : findPlayer players l id = some r) : r ∈ l ∧ (players r).myUniqueID = id :=
  ⟨List.mem_of_find?_eq_some hf, by simpa using List.find?_some hf⟩

theorem assignButtons_spec (hrun : h.assignButtons = .ok h') : Buttoned h h' ∧
    h.activePlayerList ≠ [] ∧ ∃ r ∈ h.seatsList, (h.players r).myUniqueID = h.dealerPosition := by
  simp only [assignButtons] at hrun
  split at hrun
  · cases hrun
  · next dealer hdealer =>
      split at hrun
      · cases hrun
      · next it hit =>
          cases hrun
          obtain ⟨q, _, hq⟩ := List.exists_of_findSome?_eq_some hit
          have hactive : it ∈ h.activePlayerList := (findPlayer_some hq).1
          have hb := ((buttoned_clearButtons h).trans (buttoned_setMyButton _ dealer .dealer)).trans
            (buttoned_assignBlindButtons _ it)
          exact ⟨hb, List.ne_nil_of_mem hactive, dealer, findPlayer_some hdealer⟩

/-- A player who has been dealt into the hand, or sits it out, `p` being the player before. -/
structure Dealt (p p' : Player) : Prop where
  id : p'.myUniqueID = p.myUniqueID
  seated : p'.myActiveStatus → p.myActiveStatus
  chips : p'.myCash + p'.mySet = p.myCash
  cash : 0 ≤ p'.myCash
  set : 0 ≤ p'.mySet
  start : p'.myActiveStatus → p'.myRoundStartCash = p.myCash
  idle : p'.myActiveStatus = false → p'.mySet = 0
  action : p'.myAction = .none ∨ p'.myAction = .allIn
  broke : p'.myActiveStatus → p'.myCash = 0 → p'.myAction = .allIn

theorem Dealt.setMyButton {p p' q : Player} (hd : Dealt p p')
    (hq : q.setMyButton .none = p'.setMyButton .none) : Dealt p q := by
  have hfield {β : Type} (f : Player → β) (hf : ∀ p b, f (p.setMyButton b) = f p) : f q = f p' := by
    rw [← hf q .none, hq, hf]
  obtain ⟨h1, h2, h3, h4, h5, h6, h7, h8, h9⟩ := hd
  have hid := hfield (fun p => p.myUniqueID) fun _ _ => rfl
  have hcash := hfield (fun p => p.myCash) fun _ _ => rfl
  have hset := hfield (fun p => p.mySet) fun _ _ => rfl
  have hactive := hfield (fun p => p.myActiveStatus) fun _ _ => rfl
  have hstart := hfield (fun p => p.myRoundStartCash) fun _ _ => rfl
  have haction := hfield (fun p => p.myAction) fun _ _ => rfl
  refine ⟨?_, ?_, ?_, ?_, ?_, ?_, ?_, ?_, ?_⟩ <;> simp only [hid, hcash, hset, hactive, hstart, haction] <;>
    assumption

theorem Dealt.postBlind {p p' : Player} (hd : Dealt p p') (hactive : p'.myActiveStatus) (b : Button)
    (amount : Int) : Dealt p (postBlind b amount p') := by
  have hmove (v : Int) : (p'.setMySet v).myCash + (p'.setMySet v).mySet = p.myCash := by
    rw [Player.setMySet_cash_add_set hd.cash, hd.chips]
  have hset (v : Int) : 0 ≤ (p'.setMySet v).mySet := by
    have hs := hd.set
    have hc := Player.clampToCash_nonneg p'.myCash v
    rw [Player.setMySet_mySet]
    omega
  simp only [Hand.postBlind]
  split_ifs with hb hall
  · exact ⟨hd.id, hd.seated, hmove _, Player.setMySet_myCash_nonneg _ _, hset _, hd.start,
      fun hidle => absurd (hactive.symm.trans hidle) (by decide), .inr rfl, fun _ _ => rfl⟩
  · refine ⟨hd.id, hd.seated, hmove _, Player.setMySet_myCash_nonneg _ _, hset _, hd.start,
      fun hidle => absurd (hactive.symm.trans hidle) (by decide), hd.action, fun _ hzero => ?_⟩
    -- a blind below the cash leaves chips unless the player had none before
    have hcash := hd.cash
    rw [Player.setMySet_myCash hcash] at hzero
    by_cases hamount : 0 < amount
    · rw [Player.clampToCash_of_le (by omega) (by omega)] at hzero
      omega
    · rw [Player.clampToCash_of_nonpos hcash (by omega)] at hzero
      exact hd.broke hactive (by omega)
  · exact hd

theorem clearTable_activePlayerList (t : Table) : (Game.clearTable t).activePlayerList =
    t.activePlayerList.filter fun r => (t.players r).myCash != 0 := by
  apply List.filter_congr
  intro r _
  simp only [updateAll]
  split_ifs <;> rfl

theorem mem_active_clearTable (hr : HandRun.Ready maxPlayers t) {r : Ref} :
    r ∈ (Game.clearTable t).activePlayerList ↔
      (r ∈ t.seatsList ∧ (t.players r).myActiveStatus) ∧ (t.players r).myCash ≠ 0 := by
  rw [clearTable_activePlayerList, List.mem_filter, hr.active, List.mem_filter, bne_iff_ne]

/-- A player who keeps chips is active, a player without chips is not, before the cards are dealt. -/
theorem clearTable_players (hlist : t.activePlayerList = t.seatsList.filter fun r => (t.players r).myActiveStatus) {r : Ref}
    (hseat : r ∈ t.seatsList) :
    (Game.clearTable t).players r = { (t.players r).setMyAction .none with
      myActiveStatus := (t.players r).myActiveStatus && (t.players r).myCash != 0 } := by
  have hclear : updateAll t.players t.seatsList (fun p => p.setMyAction .none) r =
      (t.players r).setMyAction .none := by
    simp [updateAll, hseat]
  have hbroke : r ∈ t.activePlayerList.filter (fun r =>
      (updateAll t.players t.seatsList (fun p => p.setMyAction .none) r).myCash == 0) ↔
      (t.players r).myActiveStatus ∧ (t.players r).myCash = 0 := by
    rw [List.mem_filter, hclear, beq_iff_eq, hlist, List.mem_filter]
    exact ⟨fun hb => ⟨hb.1.2, hb.2⟩, fun hb => ⟨⟨hseat, hb.1⟩, hb.2⟩⟩
  simp only [Game.clearTable, updateAll] at hbroke ⊢
  simp only [hbroke, hseat, if_true]
  by_cases hactive : (t.players r).myActiveStatus
  · by_cases hcash : (t.players r).myCash = 0
    · simp [hactive, hcash, Player.setMyAction]
    · simp [hactive, hcash, Player.setMyAction]
  · simp [hactive, Player.setMyAction]

theorem dealCards_myActiveStatus (v : Nat → Nat) (t : Table) (r : Ref) :
    (dealCards v t r).myActiveStatus = (t.players r).myActiveStatus := by
  simp only [dealCards]
  split_ifs <;> rfl

theorem dealCards_mySet (v : Nat → Nat) (t : Table) (r : Ref) :
    (dealCards v t r).mySet = (t.players r).mySet := by
  simp only [dealCards]
  split_ifs <;> rfl

theorem dealt_dealCards (hr : HandRun.Ready maxPlayers t) (v : Nat → Nat) {r : Ref} (hseat : r ∈ t.seatsList) :
    Dealt (t.players r) (dealCards v (Game.clearTable t) r) := by
  have hp := clearTable_players hr.active hseat
  have hcash := hr.cash_nonneg r hseat
  have hset := hr.set_zero r hseat
  by_cases hactive : r ∈ (Game.clearTable t).activePlayerList
  · obtain ⟨⟨_, hstatus⟩, hne⟩ := (mem_active_clearTable hr).mp hactive
    simp only [dealCards, if_pos hactive, hp, Player.setMyAction]
    refine ⟨rfl, fun _ => hstatus, ?_, hcash, ?_, fun _ => rfl, fun _ => hset, .inl rfl, fun _ h0 => absurd h0 hne⟩
    · simpa using hset
    · simp [hset]
  · have hidle : ((t.players r).myActiveStatus && (t.players r).myCash != 0) = false := by
      rw [Bool.eq_false_iff]
      intro htrue
      rw [Bool.and_eq_true, bne_iff_ne] at htrue
      exact hactive ((mem_active_clearTable hr).mpr ⟨⟨hseat, htrue.1⟩, htrue.2⟩)
    simp only [dealCards, if_neg hactive, hp, hidle, Player.setMyAction]
    refine ⟨rfl, by simp, ?_, hcash, ?_, by simp, fun _ => hset, .inl rfl, by simp⟩
    · simpa using hset
    · simp [hset]

theorem active_clearTable (hr : HandRun.Ready maxPlayers t) (v : Nat → Nat) :
    (Game.clearTable t).activePlayerList =
      t.seatsList.filter fun r => (dealCards v (Game.clearTable t) r).myActiveStatus := by
  rw [clearTable_activePlayerList, hr.active, List.filter_filter]
  apply List.filter_congr
  intro r hseat
  rw [dealCards_myActiveStatus, clearTable_players hr.active hseat, Bool.and_comm]

/-- A hand dealt on the table `t`, before the blinds are collected. -/
structure Opened (t : Table) (h : Hand) : Prop where
  seatsList : h.seatsList = t.seatsList
  pot : h.board.pot = 0
  round : h.currentRound = .preflop
  running : h.runningPlayerList = h.activePlayerList
  active : h.activePlayerList = h.seatsList.filter fun r => (h.players r).myActiveStatus
  players : ∀ r ∈ t.seatsList, Dealt (t.players r) (h.players r)
  value : ∀ r ∈ h.activePlayerList, 0 ≤ (h.players r).myCardsValueInt
  allIn : h.allInCondition = false

def firstHand (v : Nat → Nat) (t : Table) (dealerPosition : Nat) (smallBlind : Int) : Hand :=
  { t with
    players := dealCards v t
    myBeRo := fun _ => noBeRo
    dealerPosition := dealerPosition
    smallBlindPosition := dealerPosition
    bigBlindPosition := dealerPosition
    currentRound := .preflop
    roundBeforePostRiver := .preflop
    smallBlind := smallBlind
    lastActionPlayerID := 0
    allInCondition := false
    cardsShown := false }

theorem opened_firstHand (hr : HandRun.Ready maxPlayers t) (v : Nat → Nat) (d : Nat) (sb : Int) :
    Opened t (firstHand v (Game.clearTable t) d sb) := by
  refine ⟨rfl, hr.pot_zero, rfl, rfl, active_clearTable hr v, fun r hseat => dealt_dealCards hr v hseat,
    fun r hactive => ?_, rfl⟩
  have hmem : r ∈ (Game.clearTable t).activePlayerList := hactive
  simp only [firstHand, dealCards, if_pos hmem]
  exact Int.natCast_nonneg _

theorem Opened.buttoned (ho : Opened t h) (hb : Buttoned h h') : Opened t h' := by
  have hfield {β : Type} (f : Player → β) (hf : ∀ p b, f (p.setMyButton b) = f p) (r : Ref) :
      f (h'.players r) = f (h.players r) := by
    rw [← hf (h'.players r) .none, hb.players, hf]
  have hactive := hfield (fun p => p.myActiveStatus) fun _ _ => rfl
  have hvalue := hfield (fun p => p.myCardsValueInt) fun _ _ => rfl
  refine ⟨hb.seatsList.trans ho.seatsList, hb.pot.trans ho.pot, hb.currentRound.trans ho.round, ?_, ?_,
    fun r hseat => (ho.players r hseat).setMyButton (hb.players r), ?_, hb.allInCondition.trans ho.allIn⟩
  · rw [hb.runningPlayerList, hb.activePlayerList, ho.running]
  · simpa only [hb.activePlayerList, hb.seatsList, hactive] using ho.active
  · simpa only [hb.activePlayerList, hvalue] using ho.value

theorem Opened.mem_active (ho : Opened t h) {r : Ref} :
    r ∈ h.activePlayerList ↔ r ∈ t.seatsList ∧ (h.players r).myActiveStatus := by
  rw [ho.active, List.mem_filter, ho.seatsList]

theorem postBlind_myActiveStatus (b : Button) (amount : Int) (p : Player) :
    (postBlind b amount p).myActiveStatus = p.myActiveStatus := by
  simp only [postBlind]
  split_ifs <;> rfl

theorem postBlind_myCardsValueInt (b : Button) (amount : Int) (p : Player) :
    (postBlind b amount p).myCardsValueInt = p.myCardsValueInt := by
  simp only [postBlind]
  split_ifs <;> rfl

theorem Opened.postBlind (ho : Opened t h) (b : Button) (amount : Int) :
    Opened t (h.setPlayers (updateAll h.players h.runningPlayerList (postBlind b amount))) := by
  have hactive (r : Ref) : (updateAll h.players h.runningPlayerList (Hand.postBlind b amount) r).myActiveStatus =
      (h.players r).myActiveStatus := by
    simp only [updateAll]
    split_ifs
    · exact postBlind_myActiveStatus b amount _
    · rfl
  refine ⟨ho.seatsList, ho.pot, ho.round, ho.running, ?_, fun r hseat => ?_, fun r hr => ?_, ho.allIn⟩
  · simpa only [setPlayers_activePlayerList, setPlayers_seatsList, setPlayers_players, hactive] using ho.active
  · have hd := ho.players r hseat
    simp only [setPlayers_players, updateAll]
    split_ifs with hrun
    · rw [ho.running] at hrun
      exact hd.postBlind (ho.mem_active.mp hrun).2 b amount
    · exact hd
  · have hv := ho.value r hr
    simp only [setPlayers_players, updateAll]
    split_ifs
    · rwa [postBlind_myCardsValueInt]
    · exact hv

theorem Opened.setBlinds (ho : Opened t h) : Opened t h.setBlinds :=
  (ho.postBlind .smallBlind h.smallBlind).postBlind .bigBlind (2 * h.smallBlind)

theorem postBlind_mySet (b : Button) {amount : Int} (ha : 0 ≤ amount) {p : Player} (hp : 0 ≤ p.myCash) :
    (postBlind b amount p).mySet ≤ p.mySet + amount ∧
      (p.myButton ≠ b → (postBlind b amount p).mySet = p.mySet) ∧ 0 ≤ (postBlind b amount p).myCash ∧
      (postBlind b amount p).myButton = p.myButton := by
  by_cases hb : p.myButton = b
  · simp only [postBlind, if_pos hb]
    refine ⟨?_, fun hne => absurd hb hne, ?_, ?_⟩
    · split_ifs with hall
      · change (p.setMySet p.myCash).mySet ≤ _
        rw [Player.setMySet_mySet, Player.clampToCash_of_le hp (le_refl _)]
        omega
      · rw [Player.setMySet_mySet, Player.clampToCash_of_le ha (by omega)]
    · split_ifs
      · exact Player.setMySet_myCash_nonneg _ _
      · exact Player.setMySet_myCash_nonneg _ _
    · split_ifs <;> rfl
  · have hsame : postBlind b amount p = p := by rw [postBlind, if_neg hb]
    rw [hsame]
    exact ⟨by omega, fun _ => rfl, hp, rfl⟩

theorem setBlinds_mySet_le (hsb : 0 ≤ h.smallBlind) {r : Ref} (hset : (h.players r).mySet = 0)
    (hcash : 0 ≤ (h.players r).myCash) : (h.setBlinds.players r).mySet ≤ 2 * h.smallBlind := by
  obtain ⟨hs1, hs2, hs3, hs4⟩ := postBlind_mySet .smallBlind hsb hcash
  obtain ⟨hb1, hb2, _, _⟩ := postBlind_mySet .bigBlind (show 0 ≤ 2 * h.smallBlind by omega) hs3
  by_cases hr : r ∈ h.runningPlayerList
  · have hplayer : h.setBlinds.players r = postBlind .bigBlind (2 * h.smallBlind)
        (postBlind .smallBlind h.smallBlind (h.players r)) := by
      simp [Hand.setBlinds, updateAll, hr]
    rw [hplayer]
    by_cases hbutton : (h.players r).myButton = .smallBlind
    · rw [hb2 (by rw [hs4, hbutton]; decide)]
      omega
    · rw [hs2 hbutton] at hb1
      omega
  · have hplayer : h.setBlinds.players r = h.players r := by
      simp [Hand.setBlinds, updateAll, hr]
    rw [hplayer, hset]
    omega

theorem createBeRo_spec (hrun : h.createBeRo = .ok h') :
    h' = { h with myBeRo := h'.myBeRo } ∧ ∀ s, h.newBeRo s = .ok (h'.myBeRo s) := by
  obtain ⟨preflop, h0, hrun⟩ := bind_ok hrun
  obtain ⟨flop, h1, hrun⟩ := bind_ok hrun
  obtain ⟨turn, h2, hrun⟩ := bind_ok hrun
  obtain ⟨river, h3, hrun⟩ := bind_ok hrun
  obtain ⟨postRiver, h4, hrun⟩ := bind_ok hrun
  cases hrun
  refine ⟨rfl, fun s => ?_⟩
  cases s <;> assumption

/-- The constructor of a hand gives out the buttons, posts the blinds and makes the round objects. -/
theorem create_cases {v : Nat → Nat} {d : Nat} {sb : Int} (hrun : Hand.create v t d sb = .ok h) :
    ∃ k, (firstHand v t d sb).assignButtons = .ok k ∧ h = { k.setBlinds with myBeRo := h.myBeRo } ∧
      ∀ s, k.setBlinds.newBeRo s = .ok (h.myBeRo s) := by
  simp only [Hand.create] at hrun
  split_ifs at hrun
  obtain ⟨k, hk, hrun⟩ := bind_ok hrun
  exact ⟨k, hk, createBeRo_spec hrun⟩

theorem initHand_cases {elapsed : Int} {v : Nat → Nat} (hrun : g.initHand v elapsed t = .ok (g', h)) :
    ∃ raised d, raised = Game.raiseBlinds elapsed { g with currentHandID := g.currentHandID + 1 } ∧
      Hand.create v (Game.clearTable t) raised.dealerPosition raised.currentSmallBlind = .ok h ∧
      Game.nextDealer h = .ok d ∧ g' = { raised with dealerPosition := d } := by
  obtain ⟨k, hk, hrun⟩ := bind_ok hrun
  obtain ⟨d, hd, hrun⟩ := bind_ok hrun
  cases hrun
  exact ⟨_, d, rfl, hk, hd, rfl⟩

theorem newBeRo_spec {gS : GameState} {b : BeRo} (hrun : h.newBeRo gS = .ok b) :
    b.myBeRoID = gS ∧ b.dealerPosition = h.dealerPosition ∧
      b.highestSet = (if gS = .preflop then 2 * h.smallBlind else 0) ∧ b.minimumRaise = 2 * h.smallBlind ∧
      b.firstRound = true ∧ b.firstRunGui = true ∧
      ∃ bb ∈ h.activePlayerList, ∃ sb ∈ h.activePlayerList, bb ≠ sb ∧
        b.bigBlindPositionId = h.uniqueID bb ∧ b.smallBlindPositionId = h.uniqueID sb := by
  simp only [newBeRo] at hrun
  split at hrun
  · next bb sb hbb hsb =>
      cases hrun
      have hbutton : bb ≠ sb := by
        rintro rfl
        have h1 := List.find?_some hbb
        have h2 := List.find?_some hsb
        rw [beq_iff_eq] at h1 h2
        rw [h1] at h2
        cases h2
      exact ⟨rfl, rfl, rfl, rfl, rfl, rfl, bb, List.mem_of_find?_eq_some hbb, sb, List.mem_of_find?_eq_some hsb,
        hbutton, rfl, rfl⟩
  · cases hrun

theorem newBeRo_smallBlind {gS : GameState} {b : BeRo} (hrun : h.newBeRo gS = .ok b) : b.smallBlind = h.smallBlind := by
  simp only [newBeRo] at hrun
  split at hrun
  · cases hrun
    rfl
  · cases hrun

/-- What is known of the hand once the constructor is done. -/
structure Created (t : Table) (h : Hand) : Prop where
  opened : Opened t h
  nonempty : h.activePlayerList ≠ []
  dealer : ∀ s, ∃ r ∈ h.seatsList, (h.players r).myUniqueID = (h.myBeRo s).dealerPosition
  beRo : ∀ s, h.newBeRo s = .ok (h.myBeRo s)
  set_le : 0 ≤ h.smallBlind → ∀ r ∈ t.seatsList, (h.players r).mySet ≤ 2 * h.smallBlind

theorem created_create (hr : HandRun.Ready maxPlayers t) {v : Nat → Nat} {d : Nat} {sb : Int}
    (hrun : Hand.create v (Game.clearTable t) d sb = .ok h) : Created t h ∧ h.smallBlind = sb := by
  obtain ⟨k, hk, hh, hbeRo⟩ := create_cases hrun
  obtain ⟨hb, hne, q, hq, hid⟩ := assignButtons_spec hk
  have hfirst := opened_firstHand hr v d sb
  have ho := (hfirst.buttoned hb).setBlinds
  have hactive : h.activePlayerList ≠ [] := by
    rw [hh]
    change k.activePlayerList ≠ []
    rw [hb.activePlayerList]
    exact hne
  have hopen : Opened t h := by
    rw [hh]
    exact ⟨ho.seatsList, ho.pot, ho.round, ho.running, ho.active, ho.players, ho.value, ho.allIn⟩
  have hmade (s : GameState) : h.newBeRo s = .ok (h.myBeRo s) := by
    have hs := hbeRo s
    rw [hh]
    exact hs
  have hsb : h.smallBlind = k.smallBlind := by
    rw [hh]
    rfl
  refine ⟨⟨hopen, hactive, fun s => ⟨q, ?_, ?_⟩, hmade, fun h0 r hseat => ?_⟩, hsb.trans hb.smallBlind⟩
  · rw [hopen.seatsList]
    exact hq
  · rw [(newBeRo_spec (hmade s)).2.1, (hopen.players q hq).id, ← (hfirst.players q hq).id]
    have hd : h.dealerPosition = k.dealerPosition := by
      rw [hh]
      rfl
    rw [hd, hb.dealerPosition]
    exact hid
  · have hset : (k.players r).mySet = 0 := by
      have hzero := hr.set_zero r hseat
      have hbutton := congrArg Player.mySet (hb.players r)
      change (k.players r).mySet = (dealCards v (Game.clearTable t) r).mySet at hbutton
      rw [hbutton, dealCards_mySet, clearTable_players hr.active hseat]
      exact hzero
    have hle := setBlinds_mySet_le (h := k) (by omega) hset ((hfirst.buttoned hb).players r hseat).cash
    have hplayer : h.players r = k.setBlinds.players r := by
      rw [hh]
    rw [hplayer, hsb]
    exact hle

theorem initHand_spec {elapsed : Int} {v : Nat → Nat} (hr : HandRun.Ready maxPlayers t)
    (hrun : g.initHand v elapsed t = .ok (g', h)) :
    Created t h ∧ h.smallBlind = (Game.raiseBlinds elapsed { g with currentHandID := g.currentHandID + 1 }).currentSmallBlind := by
  obtain ⟨_, _, rfl, hcreate, _⟩ := initHand_cases hrun
  exact created_create hr hcreate

/-- The game deals the cards to the players who are active once the table is cleared, and the dealer keeps his button. -/
theorem initHand_lists {elapsed : Int} {v : Nat → Nat} (hrun : g.initHand v elapsed t = .ok (g', h)) :
    h.activePlayerList = (Game.clearTable t).activePlayerList ∧ h.seatsList = t.seatsList ∧
      h.dealerPosition = (Game.raiseBlinds elapsed { g with currentHandID := g.currentHandID + 1 }).dealerPosition := by
  obtain ⟨_, _, rfl, hcreate, _⟩ := initHand_cases hrun
  obtain ⟨k, hk, hh, _⟩ := create_cases hcreate
  have hb := (assignButtons_spec hk).1
  rw [hh]
  exact ⟨hb.activePlayerList, hb.seatsList, hb.dealerPosition⟩

theorem Created.seated (hc : Created t h) (hr : HandRun.Ready maxPlayers t) : Seated maxPlayers h := by
  have ho := hc.opened
  refine ⟨⟨?_, ?_⟩, ?_, ho.active, hc.dealer, ho.value⟩
  · rw [ho.seatsList]
    exact hr.ids.nodup
  · rw [ho.seatsList]
    intro r hr' hactive s hs heq
    have hd := ho.players r hr'
    rw [hd.id, (ho.players s hs).id] at heq
    exact hr.ids.eq_of_id r hr' (hd.seated hactive) s hs heq
  · rw [ho.seatsList]
    exact hr.seats

def tableCash (t : Table) : Int := (t.seatsList.map fun r => (t.players r).myCash).sum

theorem Created.money (hc : Created t h) : Money (tableCash t) h := by
  have ho := hc.opened
  refine ⟨?_, ?_, ?_, ?_, ?_⟩
  · rw [ho.seatsList]
    exact fun r hseat => (ho.players r hseat).cash
  · rw [ho.seatsList]
    exact fun r hseat => (ho.players r hseat).set
  · rw [ho.seatsList]
    intro r hseat hactive
    have hd := ho.players r hseat
    rw [hd.start hactive, hd.chips]
  · have hsum : h.sumCash + h.sumSets = tableCash t := by
      rw [sumCash, sumSets, ← sum_map_add, ho.seatsList]
      exact sum_map_congr fun r hseat => (ho.players r hseat).chips
    rw [ho.pot]
    omega
  · rw [ho.pot, zero_add, sumSets, sumSpent, ho.active, sum_map_filter]
    apply sum_map_congr
    intro r hr
    rw [ho.seatsList] at hr
    have hd := ho.players r hr
    by_cases hactive : (h.players r).myActiveStatus
    · have hchips := hd.chips
      rw [if_pos hactive, hd.start hactive]
      omega
    · rw [if_neg hactive, hd.idle (by simpa using hactive)]

theorem Created.nonFold (hc : Created t h) : 1 ≤ h.nonFoldPlayerCounter := by
  obtain ⟨r, hr⟩ := List.exists_mem_of_ne_nil _ hc.nonempty
  refine List.countP_pos_iff.mpr ⟨r, hr, ?_⟩
  rcases (hc.opened.players r (hc.opened.mem_active.mp hr).1).action with hnone | hall
  · simp [hnone]
  · simp [hall]

theorem frame_skipFirstRunGui (h : Hand) : h.skipFirstRunGui.frame = h.frame := by
  have he : (fun s => (h.skipFirstRunGui.myBeRo s).fixed) = fun s => (h.myBeRo s).fixed := by
    funext s
    simp only [skipFirstRunGui]
    split_ifs <;> rfl
  simp only [frame] at he ⊢
  rw [he]
  rfl

theorem frame_start (h : Hand) : h.skipFirstRunGui.start.frame = h.frame := frame_skipFirstRunGui h

theorem Created.inOrder (hc : Created t h) : InOrder (tableCash t) h.skipFirstRunGui.start := by
  have hm : Money (tableCash t) h.skipFirstRunGui :=
    hc.money.congr ⟨frame_skipFirstRunGui h, fun _ => rfl, fun _ => rfl, rfl, rfl⟩
  refine ⟨hm.collectSets, collectSets_collected _, fun hround => ?_⟩
  have hpre : h.skipFirstRunGui.start.currentRound = .preflop := hc.opened.round
  rw [hpre] at hround
  cases hround

end PokerTH.Hand
