import PokerTH.LimitsRun
import PokerTH.RejoinRun
import PokerTH.ValidSettings

namespace PokerTH

namespace NetPacketValidator

def validateHandStartMessage (gameId : BitVec 32) (msg : HandStartMessage) : Bool :=
  gameId != 0 && uintRange (NetPacket.toUint32 msg.smallBlind) 1 100000000 &&
    listSize msg.seatStates 2 MAX_NUMBER_OF_PLAYERS

def validateMyActionRequestMessage (gameId handNum myRelativeBet : BitVec 32) : Bool :=
  gameId != 0 && handNum != 0 && uintUpper myRelativeBet 10000000

end NetPacketValidator

namespace WholeGame

open HandRun Hand NetPacketValidator
open RejoinTable (performRejoin Returns createNetPacketHandStart)
open ServerGame (checkSettings)

/-- The game and its table after some whole hands. Between two hands players may come back to their seats. -/
inductive Played (maxPlayers n : Nat) (s₀ : Game × Table) : Game × Table → Prop
  | start : Played maxPlayers n s₀ s₀
  | rejoin {s : Game × Table} {j : Rejoin} (hplayed : Played maxPlayers n s₀ s) (hback : Returns n s j) :
      Played maxPlayers n s₀ (performRejoin s j)
  | hand {g g' : Game} {t : Table} {v : Nat → Nat} {elapsed : Int} {h h' : Hand}
      (hplayed : Played maxPlayers n s₀ (g, t)) (hinit : g.initHand v elapsed t = .ok (g', h))
      (hrun : Reachable maxPlayers ⟨h.skipFirstRunGui.start, .loop⟩ ⟨h', .handOver⟩) :
      Played maxPlayers n s₀ (g', h'.toTable)

structure InRange (d : GameData) : Prop where
  blind : 1 ≤ d.firstSmallBlind ∧ d.firstSmallBlind ≤ 20000
  money : 1 ≤ d.startMoney ∧ d.startMoney ≤ 1000000
  list : ∀ b ∈ d.manualBlindsList, 0 < b
  about : 0 ≤ d.afterMBAlwaysRaiseValue

structure Within (maxPlayers n : Nat) (total : Int) (s : Game × Table) : Prop where
  ready : Ready maxPlayers s.2
  seats : s.2.seatsList.length = maxPlayers
  cash : tableCash s.2 = total
  valid : ValidBlinds s.1
  blind : s.1.currentSmallBlind ≤ max 20000 s.1.maxBlind
  players : s.1.startQuantityPlayers = n
  money : s.1.startCash ≤ 1000000
  handID : 0 ≤ s.1.currentHandID

variable {maxPlayers n : Nat} {total : Int} {s s₀ : Game × Table} {g g' : Game} {t : Table} {h h' : Hand}
  {v : Nat → Nat} {elapsed : Int} {r : Ref} {j : Rejoin} {gameName : List UInt8} {gameInfo : NetGameInfo}

theorem toInt_of_range {val : BitVec 32} {minval maxval : Nat} (hrange : uintRange val minval maxval = true)
    (hmax : maxval < 2 ^ 31) : minval ≤ val.toInt ∧ val.toInt ≤ maxval := by
  simp only [uintRange, decide_eq_true_eq] at hrange
  rw [BitVec.toInt_eq_toNat_of_lt (by omega)]
  omega

theorem toInt_of_upper {val : BitVec 32} {maxval : Nat} (hupper : uintUpper val maxval = true)
    (hmax : maxval < 2 ^ 31) : 0 ≤ val.toInt ∧ val.toInt ≤ maxval := by
  have hrange : uintRange val 0 maxval = true := by simpa [uintRange, uintUpper] using hupper
  exact toInt_of_range hrange hmax

theorem toNat_toUint32 {x : Int} (hnonneg : 0 ≤ x) (hlt : x < 2 ^ 32) : (NetPacket.toUint32 x).toNat = x.toNat := by
  rw [NetPacket.toUint32, BitVec.toNat_ofInt]
  omega

/-- The settings of a message that the validator accepts are in the ranges. -/
theorem inRange_ofMessage (hvalid : validateGameInfo gameName gameInfo = true) :
    InRange (GameSettings.ofMessage gameInfo).toGameData := by
  simp only [validateGameInfo, decide_eq_true_eq] at hvalid
  obtain ⟨-, -, -, -, hend, -, -, -, hblind, hmoney, -, hlist⟩ := hvalid
  refine ⟨toInt_of_range hblind (by decide), toInt_of_range hmoney (by decide), ?_, ?_⟩
  · intro b hb
    obtain ⟨val, hval, rfl⟩ := List.mem_map.mp hb
    have hone := (toInt_of_range (List.all_eq_true.mp hlist val hval) (by decide)).1
    omega
  · cases hvalue : gameInfo.endRaiseSmallBlindValue with
    | none => simp [GameSettings.ofMessage, NetPacket.getGameData, hvalue]
    | some val =>
        rw [hvalue] at hend
        simp only [GameSettings.ofMessage, NetPacket.getGameData, hvalue, Option.getD_some]
        exact (toInt_of_upper hend (by decide)).1

theorem within_create {playerDataList : List PlayerData} {d : GameData} {startData : StartData} (hrange : InRange d)
    (hids : (playerDataList.map fun p => p.uniqueId).Nodup) (hpos : ∀ p ∈ playerDataList, p.uniqueId ≠ 0)
    (hcash : ∀ p ∈ playerDataList, p.startCash < 0) (hplayers : startData.numberOfPlayers ≤ playerDataList.length)
    (htwo : 2 ≤ startData.numberOfPlayers)
    (hcreate : Game.create maxPlayers playerDataList d startData = .ok (g, t)) :
    Within maxPlayers startData.numberOfPlayers (maxPlayers * d.startMoney) (g, t) := by
  have hmoney := hrange.money
  have hready := ready_create hids hpos hplayers (by omega) hcreate
  simp only [Game.create] at hcreate
  split_ifs at hcreate
  cases hcreate
  have hplayer (i : Nat) : (Game.newPlayer d.startMoney startData.numberOfPlayers playerDataList i).myCash =
      d.startMoney := by
    simp only [Game.newPlayer]
    split
    · rfl
    · next p hp =>
        have hneg := hcash p (List.mem_of_getElem? hp)
        rw [if_neg (by omega)]
        rfl
  have hchips : 2 * d.startMoney ≤ startData.numberOfPlayers * d.startMoney :=
    Int.mul_le_mul_of_nonneg_right (by omega) (by omega)
  refine ⟨hready, List.length_range, ?_, ⟨?_, ?_, hrange.list, hrange.about⟩, ?_, rfl, hmoney.2, le_refl _⟩
  · simp [tableCash, hplayer]
  · exact hrange.blind.1
  · dsimp only
    omega
  · exact le_max_of_le_left hrange.blind.2

theorem Within.performRejoin (hw : Within maxPlayers n total s) (hback : Returns n s j) :
    Within maxPlayers n total (performRejoin s j) := by
  obtain ⟨d, hd⟩ : ∃ d, (RejoinTable.performRejoin s j).1 = { s.1 with dealerPosition := d } := by
    simp only [RejoinTable.performRejoin, Game.replaceDealer]
    split_ifs
    · exact ⟨_, rfl⟩
    · exact ⟨s.1.dealerPosition, rfl⟩
  have hcash : tableCash (RejoinTable.performRejoin s j).2 = tableCash s.2 :=
    congrArg List.sum (List.map_congr_left fun r _ => (RejoinTable.performRejoin_player s j r).2.1)
  refine ⟨RejoinTable.ready_performRejoin hw.ready hback, hw.seats, hcash.trans hw.cash, ?_, ?_, ?_, ?_, ?_⟩ <;> rw [hd]
  · exact ⟨hw.valid.current, hw.valid.chips, hw.valid.manual, hw.valid.about⟩
  · exact hw.blind
  · exact hw.players
  · exact hw.money
  · exact hw.handID

/-- A hand raises the blind to no more than half of the chips on the table. -/
theorem Within.initHand (hw : Within maxPlayers n total (g, t)) (hinit : g.initHand v elapsed t = .ok (g', h)) :
    ValidBlinds g' ∧ g'.currentSmallBlind ≤ max 20000 g'.maxBlind ∧ g'.startQuantityPlayers = n ∧
      g'.startCash ≤ 1000000 ∧ 1 ≤ g'.currentHandID ∧ h.smallBlind = g'.currentSmallBlind := by
  have hinit' : { g with dealerPosition := g.dealerPosition }.initHand v elapsed t = .ok (g', h) := hinit
  obtain ⟨hcounts, hsame, hid⟩ := Game.counts_of_initHand hinit'
  have hhand := hw.handID
  have hvalid : ValidBlinds g' ∧ h.smallBlind = g'.currentSmallBlind := by
    have hcounted : ValidBlinds { g with currentHandID := g.currentHandID + 1 } :=
      ⟨hw.valid.current, hw.valid.chips, hw.valid.manual, hw.valid.about⟩
    have hraise := hcounted.raiseBlinds elapsed
    have hblind := (initHand_spec hw.ready hinit).2
    obtain ⟨raised, d, hraised, -, -, rfl⟩ := initHand_cases hinit
    rw [← hraised] at hraise hblind
    exact ⟨⟨hraise.current, hraise.chips, hraise.manual, hraise.about⟩, hblind⟩
  refine ⟨hvalid.1, ?_, hsame.startQuantityPlayers.trans hw.players, hsame.startCash ▸ hw.money, ?_, hvalid.2⟩
  · rw [hsame.maxBlind]
    cases hcounts with
    | stays hblind => rw [hblind]; exact hw.blind
    | raises hblind => rw [hblind]; exact le_max_of_le_right (min_le_right _ _)
  · dsimp only at hhand
    omega

theorem cash_le_sumCash (hcash : ∀ q ∈ h.seatsList, 0 ≤ (h.players q).myCash) (hr : r ∈ h.seatsList) :
    (h.players r).myCash ≤ h.sumCash := by
  refine List.single_le_sum (fun x hx => ?_) _ (List.mem_map.mpr ⟨r, hr, rfl⟩)
  obtain ⟨q, hq, rfl⟩ := List.mem_map.mp hx
  exact hcash q hq

theorem cash_le_of_money (hm : Money total h) (hs : Seated maxPlayers h) (hr : r ∈ h.seatsList) :
    (h.players r).myCash ≤ total := by
  have hspent : 0 ≤ h.sumSpent := by
    refine List.sum_nonneg fun x hx => ?_
    obtain ⟨q, hq, rfl⟩ := List.mem_map.mp hx
    rw [hs.active, List.mem_filter] at hq
    have hpaid := hm.spent q hq.1 hq.2
    have hset := hm.set_nonneg q hq.1
    omega
  have hle := cash_le_sumCash hm.cash_nonneg hr
  have hsum := hm.sum
  have hstakes := hm.stakes
  omega

theorem cash_le_of_conserved {p : HandRun.State} (hc : Conserved maxPlayers total p) (hr : r ∈ p.hand.seatsList) :
    (p.hand.players r).myCash ≤ total := by
  cases hc with
  | loop hs ho => exact cash_le_of_money ho.money hs hr
  | waitPlayerAction hs ho => exact cash_le_of_money ho.money hs hr
  | handOver hs hset => exact (cash_le_sumCash hset.cash_nonneg hr).trans hset.sum.le

theorem Within.hand (hw : Within maxPlayers n total (g, t)) (htotal : total < 2 ^ 31)
    (hinit : g.initHand v elapsed t = .ok (g', h))
    (hrun : Reachable maxPlayers ⟨h.skipFirstRunGui.start, .loop⟩ ⟨h', .handOver⟩) :
    Within maxPlayers n total (g', h'.toTable) := by
  have hstart : Start maxPlayers g t ⟨h.skipFirstRunGui.start, .loop⟩ := ⟨hw.ready, v, elapsed, g', h, hinit, rfl⟩
  have hchips : tableCash t < 2 ^ 31 := hw.cash ▸ htotal
  have hseats : h'.seatsList = t.seatsList :=
    (frame_seatsList ((frame_reachable hchips (conserved_start hstart) hrun).trans (frame_start h))).trans
      (initHand_lists hinit).2.1
  obtain ⟨hvalid, hblind, hplayers, hmoney, hhand, -⟩ := hw.initHand hinit
  have hcash : tableCash h'.toTable = total := by
    cases conserved_reachable hchips hstart hrun with
    | handOver hs hset => exact hset.sum.trans hw.cash
  exact ⟨ready_handOver hchips hstart hrun, (congrArg List.length hseats).trans hw.seats, hcash, hvalid, hblind,
    hplayers, hmoney, by dsimp only; omega⟩

theorem Within.played (hw : Within maxPlayers n total s₀) (htotal : total < 2 ^ 31)
    (hplayed : Played maxPlayers n s₀ s) : Within maxPlayers n total s := by
  induction hplayed with
  | start => exact hw
  | rejoin _ hback ih => exact ih.performRejoin hback
  | hand _ hinit hrun ih => exact ih.hand htotal hinit hrun

theorem Within.validHandStart (hw : Within maxPlayers n total (g, t)) (htwo : 2 ≤ n) (hmax : n ≤ MAX_NUMBER_OF_PLAYERS)
    (hseats : n ≤ maxPlayers) (hinit : g.initHand v elapsed t = .ok (g', h)) {gameId : BitVec 32} (hgame : gameId ≠ 0) :
    validateHandStartMessage gameId (createNetPacketHandStart h n) = true := by
  obtain ⟨hvalid, hblind, hplayers, hmoney, -, hsb⟩ := hw.initHand hinit
  have hlength : (createNetPacketHandStart h n).seatStates.length = n := by
    have hall : t.seatsList.length = maxPlayers := hw.seats
    simp only [createNetPacketHandStart, List.length_map, List.length_take, (initHand_lists hinit).2.1]
    omega
  have hchips : (g'.startQuantityPlayers : Int) * g'.startCash ≤ 2 * 1000000 := by
    rw [hplayers]
    exact (Int.mul_le_mul_of_nonneg_left hmoney (by omega)).trans (by rw [MAX_NUMBER_OF_PLAYERS] at hmax; omega)
  have hone := hvalid.current
  have hupper : g'.currentSmallBlind ≤ 1000000 := by
    simp only [Game.maxBlind] at hblind
    omega
  simp only [validateHandStartMessage, Bool.and_eq_true, uintRange, listSize, decide_eq_true_eq, hlength]
  refine ⟨⟨bne_iff_ne.mpr hgame, ?_⟩, htwo, hmax⟩
  have hval : (NetPacket.toUint32 (createNetPacketHandStart h n).smallBlind).toNat = g'.currentSmallBlind.toNat := by
    have hmsg : (createNetPacketHandStart h n).smallBlind = g'.currentSmallBlind := hsb
    rw [hmsg, toNat_toUint32 (by omega) (by omega)]
  rw [hval]
  omega

/-- In a game that the server makes of a validated message, every hand after any whole hands and returns is one that
the rules of the hands are about: its start passes the validator of the clients, and every bet that a player can pay, at
any time of the hand, passes the validator of the server. -/
theorem hands_valid {playerDataList : List PlayerData} {startData : StartData} {p : HandRun.State}
    {gameId : BitVec 32} (hvalid : validateGameInfo gameName gameInfo = true)
    (hids : (playerDataList.map fun p => p.uniqueId).Nodup) (hpos : ∀ p ∈ playerDataList, p.uniqueId ≠ 0)
    (hcash : ∀ p ∈ playerDataList, p.startCash < 0) (hplayers : startData.numberOfPlayers ≤ playerDataList.length)
    (htwo : 2 ≤ startData.numberOfPlayers) (hmax : startData.numberOfPlayers ≤ MAX_NUMBER_OF_PLAYERS)
    (hcreate : Game.create MAX_NUMBER_OF_PLAYERS playerDataList (GameSettings.ofMessage gameInfo).toGameData startData =
      .ok s₀)
    (hplayed : Played MAX_NUMBER_OF_PLAYERS startData.numberOfPlayers s₀ (g, t))
    (hinit : g.initHand v elapsed t = .ok (g', h))
    (hrun : Reachable MAX_NUMBER_OF_PLAYERS ⟨h.skipFirstRunGui.start, .loop⟩ p) (hid : IsInt g'.currentHandID)
    (hgame : gameId ≠ 0) :
    Ready MAX_NUMBER_OF_PLAYERS t ∧ ValidBlinds g ∧ tableCash t < 2 ^ 31 ∧
      validateHandStartMessage gameId (createNetPacketHandStart h startData.numberOfPlayers) = true ∧
      ∀ r ∈ p.hand.seatsList, ∀ bet, 0 ≤ bet → bet ≤ (p.hand.players r).myCash →
        validateMyActionRequestMessage gameId (NetPacket.toUint32 g'.currentHandID)
          (NetPacket.toUint32 bet) = true := by
  have hrange := inRange_ofMessage hvalid
  have hmoney := hrange.money
  have htotal : (MAX_NUMBER_OF_PLAYERS : Int) * (GameSettings.ofMessage gameInfo).startMoney ≤ 2000000 := by
    rw [MAX_NUMBER_OF_PLAYERS]
    omega
  have hw := (within_create hrange hids hpos hcash hplayers htwo hcreate).played (by omega) hplayed
  have hchips : tableCash t ≤ 2000000 := hw.cash.trans_le htotal
  refine ⟨hw.ready, hw.valid, by omega, hw.validHandStart htwo hmax hmax hinit hgame, ?_⟩
  intro r hr bet hbet hle
  have hstart : Start MAX_NUMBER_OF_PLAYERS g t ⟨h.skipFirstRunGui.start, .loop⟩ :=
    ⟨hw.ready, v, elapsed, g', h, hinit, rfl⟩
  have hall := cash_le_of_conserved (conserved_reachable (by omega) hstart hrun) hr
  obtain ⟨-, -, -, -, hhand, -⟩ := hw.initHand hinit
  have hnum : NetPacket.toUint32 g'.currentHandID ≠ 0 := by
    intro hzero
    have hback := GameSettings.toInt_toUint32 hid
    rw [hzero] at hback
    change 0 = _ at hback
    omega
  simp only [validateMyActionRequestMessage, Bool.and_eq_true, uintUpper, decide_eq_true_eq]
  refine ⟨⟨bne_iff_ne.mpr hgame, bne_iff_ne.mpr hnum⟩, ?_⟩
  rw [toNat_toUint32 hbet (by omega)]
  omega

def nextHand (maxPlayers : Nat) (s : Game × Table) (es : List HandRun.Event) : Option (Game × Hand × HandRun.State) :=
  match s.1.initHand (fun _ => 0) 0 s.2 with
  | .ok (g, h) => (HandRun.play maxPlayers ⟨h.skipFirstRunGui.start, .loop⟩ es).map fun p => (g, h, p)
  | .error _ => none

def playHand (maxPlayers : Nat) (s : Game × Table) (es : List HandRun.Event) : Option (Game × Table) :=
  (nextHand maxPlayers s es).bind fun x => if x.2.2.phase = .handOver then some (x.1, x.2.2.hand.toTable) else none

theorem nextHand_some {es : List HandRun.Event} {p : HandRun.State} (hnext : nextHand maxPlayers s es = some (g', h, p)) :
    s.1.initHand (fun _ => 0) 0 s.2 = .ok (g', h) ∧ Reachable maxPlayers ⟨h.skipFirstRunGui.start, .loop⟩ p := by
  simp only [nextHand] at hnext
  split at hnext
  · next hinit =>
      obtain ⟨q, hplay, heq⟩ := Option.map_eq_some_iff.mp hnext
      cases heq
      exact ⟨hinit, play_reachable hplay⟩
  · cases hnext

theorem Played.playHand {es : List HandRun.Event} {s' : Game × Table} (hplayed : Played maxPlayers n s₀ s)
    (hplay : playHand maxPlayers s es = some s') : Played maxPlayers n s₀ s' := by
  obtain ⟨⟨g, h, ⟨h', phase⟩⟩, hnext, hend⟩ := Option.bind_eq_some_iff.mp hplay
  obtain ⟨hinit, hrun⟩ := nextHand_some hnext
  split_ifs at hend with hover
  cases hover
  cases hend
  exact hplayed.hand hinit hrun

/-- The small blind folds the first hand. In the second one the other player, now on the small blind, completes
it and the first player is asked. -/
theorem hands_valid_open : ∃ (s₀ s : Game × Table) (g' : Game) (h : Hand) (p : HandRun.State),
    Game.create MAX_NUMBER_OF_PLAYERS [⟨1, .human, "", -1⟩, ⟨2, .human, "", -1⟩]
        (GameSettings.ofMessage openGame).toGameData ⟨1, 2⟩ = .ok s₀ ∧
      playHand MAX_NUMBER_OF_PLAYERS s₀ [.loopTimer, .request 1 ⟨1, 0, .fold, 0⟩, .loopTimer] = some s ∧
      nextHand MAX_NUMBER_OF_PLAYERS s [.loopTimer, .request 2 ⟨1, 0, .call, 10⟩, .loopTimer] = some (g', h, p) ∧
      g'.currentHandID = 2 ∧ (p.hand.players 1).myCash = 1990 ∧ ValidBlinds s.1 ∧ tableCash s.2 < 2 ^ 31 ∧
      validateHandStartMessage 1 (createNetPacketHandStart h 2) = true ∧
      validateMyActionRequestMessage 1 (NetPacket.toUint32 g'.currentHandID) (NetPacket.toUint32 1990) = true := by
  have hplay : ((Game.create MAX_NUMBER_OF_PLAYERS [⟨1, .human, "", -1⟩, ⟨2, .human, "", -1⟩]
      (GameSettings.ofMessage openGame).toGameData ⟨1, 2⟩).toOption.any fun s₀ =>
        (playHand MAX_NUMBER_OF_PLAYERS s₀ [.loopTimer, .request 1 ⟨1, 0, .fold, 0⟩, .loopTimer]).any fun s =>
          (nextHand MAX_NUMBER_OF_PLAYERS s [.loopTimer, .request 2 ⟨1, 0, .call, 10⟩, .loopTimer]).any fun x =>
            x.1.currentHandID == 2 && x.2.2.hand.seatsList == [0, 1] && (x.2.2.hand.players 1).myCash == 1990) = true := by
    decide +kernel
  obtain ⟨⟨s₀g, s₀t⟩, hcreate, hplay⟩ := (Option.any_eq_true _ _).mp hplay
  obtain ⟨⟨g, t⟩, hhand, hplay⟩ := (Option.any_eq_true _ _).mp hplay
  obtain ⟨⟨g', h, p⟩, hnext, hplay⟩ := (Option.any_eq_true _ _).mp hplay
  simp only [Bool.and_eq_true, beq_iff_eq] at hplay
  obtain ⟨⟨hid, hseats⟩, hcash⟩ := hplay
  obtain ⟨hinit, hrun⟩ := nextHand_some hnext
  have hok : Game.create MAX_NUMBER_OF_PLAYERS [⟨1, .human, "", -1⟩, ⟨2, .human, "", -1⟩]
      (GameSettings.ofMessage openGame).toGameData ⟨1, 2⟩ = .ok (s₀g, s₀t) := by
    cases hc : Game.create MAX_NUMBER_OF_PLAYERS [⟨1, .human, "", -1⟩, ⟨2, .human, "", -1⟩]
        (GameSettings.ofMessage openGame).toGameData ⟨1, 2⟩ with
    | ok x =>
        rw [hc] at hcreate
        cases hcreate
        rfl
    | error e =>
        rw [hc] at hcreate
        cases hcreate
  have hinfo : validateGameInfo [79, 112, 101, 110] openGame = true := by decide
  have hgame : (1 : BitVec 32) ≠ 0 := by decide
  obtain ⟨-, hblinds, hchips, hvalid, hbets⟩ := hands_valid hinfo (by decide) (by decide) (by decide) (by decide)
    (by decide) (by decide) hok (Played.start.playHand hhand) hinit hrun (by rw [hid]; decide) hgame
  have hbet := hbets 1 (by rw [hseats]; decide) 1990 (by decide) hcash.ge
  exact ⟨_, _, g', h, p, hok, hhand, hnext, hid, hcash, hblinds, hchips, hvalid, hbet⟩

end WholeGame

end PokerTH
