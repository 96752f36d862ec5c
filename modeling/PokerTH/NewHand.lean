import PokerTH.BlindSeats

namespace PokerTH

structure Dealable (t : Table) (dealerPosition : Nat) : Prop where
  dealer : ∃ r ∈ t.seatsList, (t.players r).myUniqueID = dealerPosition
  nodup : t.activePlayerList.Nodup
  seated : ∀ r ∈ t.activePlayerList, r ∈ t.seatsList
  two : 2 ≤ t.activePlayerList.length
  deck : t.activePlayerList.length ≤ 23
  cash : ∀ r ∈ t.activePlayerList, (t.players r).myCash ≠ 0

namespace Hand

variable {h h' : Hand} {t : Table} {dealerPosition : Nat}

theorem findPlayer_isSome {players : Players} {l : List Ref} {id : Nat}
    (hid : ∃ r ∈ l, (players r).myUniqueID = id) : ∃ r, findPlayer players l id = some r := by
  obtain ⟨r, hr, hid⟩ := hid
  apply Option.isSome_iff_exists.mp
  rw [findPlayer, List.find?_isSome]
  exact ⟨r, hr, beq_iff_eq.mpr hid⟩

theorem nextActivePlayer_isSome {dealer r : Ref} (hdealer : dealer ∈ h.seatsList) (hr : r ∈ h.activePlayerList)
    (hseat : r ∈ h.seatsList) : ∃ it, h.nextActivePlayer dealer = some it := by
  apply Option.isSome_iff_exists.mp
  rw [nextActivePlayer, List.findSome?_isSome_iff]
  refine ⟨r, (Cyclic.mem_after hdealer).mpr hseat, ?_⟩
  obtain ⟨it, hit⟩ := findPlayer_isSome ⟨r, hr, rfl⟩
  exact Option.isSome_iff_exists.mpr ⟨it, hit⟩

structure Seatable (h : Hand) : Prop where
  dealer : ∃ r ∈ h.seatsList, (h.players r).myUniqueID = h.dealerPosition
  nodup : h.activePlayerList.Nodup
  seated : ∀ r ∈ h.activePlayerList, r ∈ h.seatsList
  two : 2 ≤ h.activePlayerList.length

theorem Seatable.exists_active (hs : Seatable h) : ∃ r, r ∈ h.activePlayerList :=
  List.exists_mem_of_length_pos (Nat.lt_of_lt_of_le (by decide) hs.two)

theorem assignButtons_isOk (hs : Seatable h) : ∃ h', h.assignButtons = .ok h' := by
  obtain ⟨dealer, hdealer⟩ : ∃ r, h.getSeatIt h.dealerPosition = some r := findPlayer_isSome hs.dealer
  obtain ⟨r, hr⟩ := hs.exists_active
  obtain ⟨it, hit⟩ := @nextActivePlayer_isSome (h.clearButtons.setMyButton dealer .dealer) dealer r
    (findPlayer_some hdealer).1 hr (hs.seated r hr)
  refine ⟨(h.clearButtons.setMyButton dealer .dealer).assignBlindButtons it, ?_⟩
  simp only [assignButtons, hdealer, hit]

theorem exists_blinds (hs : Seatable h) (hrun : h.assignButtons = .ok h') {b : Button}
    (hb : b = .bigBlind ∨ b = .smallBlind) : ∃ r ∈ h.activePlayerList, (h'.players r).myButton = b := by
  obtain ⟨it, hit, hbutton⟩ := assignButtons_myButton hs.seated hrun
  have hnext := Cyclic.next_mem hit
  have hne : it ≠ Cyclic.next h.activePlayerList it := by
    intro he
    have hone := Cyclic.eq_singleton_of_next hs.nodup hit he.symm
    have htwo := hs.two
    rw [hone] at htwo
    simp at htwo
  have hnotnone : b ≠ .none ∧ b ≠ .dealer := by rcases hb with rfl | rfl <;> decide
  by_cases hlen : 2 < h.activePlayerList.length
  · rcases hb with rfl | rfl
    · refine ⟨_, hnext, (hbutton _ hnext _ hnotnone.1 hnotnone.2).mpr ?_⟩
      simp [blindButton, hlen]
    · refine ⟨_, hit, (hbutton _ hit _ hnotnone.1 hnotnone.2).mpr ?_⟩
      simp [blindButton, hlen, hne]
  · rcases hb with rfl | rfl
    · refine ⟨_, hit, (hbutton _ hit _ hnotnone.1 hnotnone.2).mpr ?_⟩
      simp [blindButton, hlen, hne]
    · refine ⟨_, hnext, (hbutton _ hnext _ hnotnone.1 hnotnone.2).mpr ?_⟩
      simp [blindButton, hlen]

theorem newBeRo_isOk (hbb : ∃ r ∈ h.activePlayerList, (h.players r).myButton = .bigBlind)
    (hsb : ∃ r ∈ h.activePlayerList, (h.players r).myButton = .smallBlind) (gS : GameState) :
    ∃ b, h.newBeRo gS = .ok b := by
  have hfind (b : Button) (hb : ∃ r ∈ h.activePlayerList, (h.players r).myButton = b) :
      ∃ r, (h.activePlayerList.find? fun r => (h.players r).myButton == b) = some r := by
    obtain ⟨r, hr, hb⟩ := hb
    apply Option.isSome_iff_exists.mp
    rw [List.find?_isSome]
    exact ⟨r, hr, beq_iff_eq.mpr hb⟩
  obtain ⟨bb, hbb⟩ := hfind _ hbb
  obtain ⟨sb, hsb⟩ := hfind _ hsb
  simp only [newBeRo, hbb, hsb]
  exact ⟨_, rfl⟩

theorem createBeRo_isOk (hbeRo : ∀ gS, ∃ b, h.newBeRo gS = .ok b) :
    ∃ beRo, h.createBeRo = .ok { h with myBeRo := beRo } := by
  obtain ⟨preflop, h0⟩ := hbeRo .preflop
  obtain ⟨flop, h1⟩ := hbeRo .flop
  obtain ⟨turn, h2⟩ := hbeRo .turn
  obtain ⟨river, h3⟩ := hbeRo .river
  obtain ⟨postRiver, h4⟩ := hbeRo .postRiver
  simp only [createBeRo, h0, h1, h2, h3, h4, bind, Except.bind, pure, Except.pure]
  exact ⟨_, rfl⟩

theorem setBlinds_myUniqueID (h : Hand) (r : Ref) :
    (h.setBlinds.players r).myUniqueID = (h.players r).myUniqueID := by
  have hpost (b : Button) (amount : Int) (p : Player) : (postBlind b amount p).myUniqueID = p.myUniqueID := by
    simp only [postBlind]
    split_ifs <;> rfl
  simp only [setBlinds, setPlayers_players, setPlayers_runningPlayerList, setPlayers_smallBlind, updateAll]
  split_ifs
  · rw [hpost, hpost]
  · rfl

end Hand

namespace Game

variable {t : Table} {dealerPosition : Nat}

theorem clearTable_dealable (hd : Dealable t dealerPosition) : Dealable (clearTable t) dealerPosition ∧
    (clearTable t).activePlayerList = t.activePlayerList := by
  have hactive : (clearTable t).activePlayerList = t.activePlayerList := by
    rw [Hand.clearTable_activePlayerList, List.filter_eq_self]
    intro r hr
    simpa using hd.cash r hr
  have hplayer (r : Ref) : ((clearTable t).players r).myUniqueID = (t.players r).myUniqueID ∧
      ((clearTable t).players r).myCash = (t.players r).myCash := by
    simp only [clearTable, updateAll]
    split_ifs <;> exact ⟨rfl, rfl⟩
  obtain ⟨r, hr, hid⟩ := hd.dealer
  refine ⟨⟨⟨r, hr, (hplayer r).1.trans hid⟩, ?_, ?_, ?_, ?_, ?_⟩, hactive⟩
  · rw [hactive]
    exact hd.nodup
  · rw [hactive]
    exact hd.seated
  · rw [hactive]
    exact hd.two
  · rw [hactive]
    exact hd.deck
  · rw [hactive]
    intro q hq
    rw [(hplayer q).2]
    exact hd.cash q hq

theorem create_isOk (v : Nat → Nat) (hd : Dealable t dealerPosition) (smallBlind : Int) :
    ∃ h, Hand.create v t dealerPosition smallBlind = .ok h ∧ h.seatsList = t.seatsList ∧
      h.activePlayerList = t.activePlayerList ∧ h.dealerPosition = dealerPosition ∧
      ∀ r, h.uniqueID r = (t.players r).myUniqueID := by
  have hdealt (r : Ref) : ((Hand.firstHand v t dealerPosition smallBlind).players r).myUniqueID =
      (t.players r).myUniqueID := by
    simp only [Hand.firstHand, Hand.dealCards]
    split_ifs <;> rfl
  obtain ⟨r, hr, hid⟩ := hd.dealer
  have hs : Hand.Seatable (Hand.firstHand v t dealerPosition smallBlind) :=
    ⟨⟨r, hr, (hdealt r).trans hid⟩, hd.nodup, hd.seated, hd.two⟩
  obtain ⟨k, hk⟩ := Hand.assignButtons_isOk hs
  obtain ⟨hb, -, -⟩ := Hand.assignButtons_spec hk
  have hblind (b : Button) (hbutton : b = .bigBlind ∨ b = .smallBlind) :
      ∃ r ∈ k.setBlinds.activePlayerList, (k.setBlinds.players r).myButton = b := by
    obtain ⟨q, hq, hqb⟩ := Hand.exists_blinds hs hk hbutton
    refine ⟨q, ?_, (Hand.setBlinds_myButton k q).trans hqb⟩
    change q ∈ k.activePlayerList
    rw [hb.activePlayerList]
    exact hq
  obtain ⟨beRo, hbeRo⟩ := Hand.createBeRo_isOk (Hand.newBeRo_isOk (hblind _ (.inl rfl)) (hblind _ (.inr rfl)))
  refine ⟨{ k.setBlinds with myBeRo := beRo }, ?_, hb.seatsList, hb.activePlayerList, hb.dealerPosition, ?_⟩
  · rw [Hand.create, if_neg (Nat.not_lt.mpr hd.deck)]
    change ((Hand.firstHand v t dealerPosition smallBlind).assignButtons >>= fun h => h.setBlinds.createBeRo) = _
    rw [hk]
    exact hbeRo
  · intro q
    have hq := congrArg Player.myUniqueID (hb.players q)
    exact (Hand.setBlinds_myUniqueID k q).trans (hq.trans (hdealt q))

/-- A hand is dealt on every table on which two players remain once it is cleared. -/
theorem initHand_isOk_of_clear (v : Nat → Nat) (elapsed : Int) (g : Game)
    (hclear : Dealable (clearTable t) g.dealerPosition) : ∃ g' h, g.initHand v elapsed t = .ok (g', h) := by
  have hraise (u : Game) : (u.raiseBlinds elapsed).dealerPosition = u.dealerPosition := by
    simp only [raiseBlinds]
    split <;> split_ifs <;> rfl
  obtain ⟨h, hh, hseats, hactive, hdealer, hids⟩ := create_isOk v hclear
    ({ g with currentHandID := g.currentHandID + 1 }.raiseBlinds elapsed).currentSmallBlind
  obtain ⟨r, hr, hid⟩ := hclear.dealer
  obtain ⟨dealer, hfind⟩ : ∃ q, h.getSeatIt h.dealerPosition = some q := by
    apply Hand.findPlayer_isSome
    refine ⟨r, hseats ▸ hr, ?_⟩
    rw [hdealer, ← hid]
    exact hids r
  obtain ⟨q, hq⟩ := List.exists_mem_of_length_pos (Nat.lt_of_lt_of_le (by decide) hclear.two)
  obtain ⟨it, hit⟩ := @Hand.nextActivePlayer_isSome h dealer q (Hand.findPlayer_some hfind).1 (hactive ▸ hq)
    (hseats ▸ hclear.seated q hq)
  simp only [initHand, hraise, hh, nextDealer, hfind, hit, bind, Except.bind, pure, Except.pure]
  exact ⟨_, _, rfl⟩

/-- A hand is dealt on every table that has its dealer and two players with cash. -/
theorem initHand_isOk (v : Nat → Nat) (elapsed : Int) (g : Game) (hd : Dealable t g.dealerPosition) :
    ∃ g' h, g.initHand v elapsed t = .ok (g', h) :=
  initHand_isOk_of_clear v elapsed g (clearTable_dealable hd).1

end Game

end PokerTH
