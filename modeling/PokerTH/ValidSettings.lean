import PokerTH.GameMap

namespace PokerTH

namespace NetPacketValidator

def uintRange (val : BitVec 32) (minval maxval : Nat) : Bool := decide (minval ≤ val.toNat ∧ val.toNat ≤ maxval)

def uintUpper (val : BitVec 32) (maxval : Nat) : Bool := decide (val.toNat ≤ maxval)

def listSize {α : Type} (l : List α) (minsize maxsize : Nat) : Bool :=
  decide (minsize ≤ l.length ∧ l.length ≤ maxsize)

def validateListIntRange (l : List (BitVec 32)) (minval maxval : Nat) : Bool :=
  l.all fun val => uintRange val minval maxval

def validateGameInfo (gameName : List UInt8) (gameInfo : NetGameInfo) : Bool :=
  decide (listSize gameName 1 64 ∧
    uintRange gameInfo.maxNumPlayers 2 MAX_NUMBER_OF_PLAYERS ∧
    (gameInfo.raiseEveryHands.all fun val => uintRange val 1 1000) ∧
    (gameInfo.raiseEveryMinutes.all fun val => uintRange val 1 1000) ∧
    (gameInfo.endRaiseSmallBlindValue.all fun val => uintUpper val 1000000) ∧
    uintRange gameInfo.proposedGuiSpeed 1 11 ∧
    uintRange gameInfo.delayBetweenHands 5 20 ∧
    uintUpper gameInfo.playerActionTimeout 60 ∧
    uintRange gameInfo.firstSmallBlind 1 20000 ∧
    uintRange gameInfo.startMoney 1 1000000 ∧
    listSize gameInfo.manualBlinds 0 30 ∧
    validateListIntRange gameInfo.manualBlinds 1 1000000)

def validateGameListNewMessage (gameId : BitVec 32) (playerIds : List (BitVec 32)) (adminPlayerId : BitVec 32)
    (gameName : List UInt8) (gameInfo : NetGameInfo) : Bool :=
  gameId != 0 && listSize playerIds 0 MAX_NUMBER_OF_PLAYERS && adminPlayerId != 0 && validateGameInfo gameName gameInfo

def validateJoinGameAckMessage (gameId : BitVec 32) (gameName : List UInt8) (gameInfo : NetGameInfo) : Bool :=
  gameId != 0 && validateGameInfo gameName gameInfo

end NetPacketValidator

open NetPacketValidator
open ServerGame (checkSettings)

@[simp] theorem toUint32_toInt (val : BitVec 32) : NetPacket.toUint32 val.toInt = val := BitVec.ofInt_toInt

@[simp] theorem GameType.toNet_ofNet (x : NetGameType) : (ofNet x).toNet = x := by cases x <;> rfl

@[simp] theorem RaiseIntervalMode.toNet_ofNet (x : NetRaiseIntervalMode) : (ofNet x).toNet = x := by cases x <;> rfl

@[simp] theorem AfterManualBlindsMode.toNet_ofNet (x : NetEndRaiseMode) : (ofNet x).toNet = x := by cases x <;> rfl

theorem RaiseIntervalMode.ofNet_eq_iff (x : NetRaiseIntervalMode) :
    ofNet x = .raiseOnHandNumber ↔ x = .raiseOnHandNum := by
  cases x <;> simp [ofNet]

def GameSettings.ofMessage (gameInfo : NetGameInfo) : GameSettings := NetPacket.getGameData gameInfo .new

variable {gameName gameName' : List UInt8} {gameInfo : NetGameInfo}

/-- What the server sends of the settings that it has read out of a message. -/
theorem setGameData_ofMessage (gameInfo : NetGameInfo) :
    NetPacket.setGameData (.ofMessage gameInfo) =
      { gameInfo with
        raiseEveryHands :=
          if gameInfo.raiseIntervalMode = .raiseOnHandNum then some (gameInfo.raiseEveryHands.getD 0) else none
        raiseEveryMinutes :=
          if gameInfo.raiseIntervalMode = .raiseOnHandNum then none else some (gameInfo.raiseEveryMinutes.getD 0)
        endRaiseSmallBlindValue := some (gameInfo.endRaiseSmallBlindValue.getD 0) } := by
  have hlist : (gameInfo.manualBlinds.map BitVec.toInt).map NetPacket.toUint32 = gameInfo.manualBlinds := by
    rw [List.map_map, show NetPacket.toUint32 ∘ BitVec.toInt = id from funext toUint32_toInt, List.map_id]
  have hempty : GameSettings.new.manualBlindsList = [] := rfl
  by_cases hmode : gameInfo.raiseIntervalMode = .raiseOnHandNum
  · simp [NetPacket.setGameData, GameSettings.ofMessage, NetPacket.getGameData, RaiseIntervalMode.ofNet_eq_iff, hmode,
      hempty, hlist]
  · simp [NetPacket.setGameData, GameSettings.ofMessage, NetPacket.getGameData, RaiseIntervalMode.ofNet_eq_iff, hmode,
      hempty, hlist]

/-- Settings that were read out of a message come through another one as they are. -/
theorem received_ofMessage (gameInfo : NetGameInfo) :
    (GameSettings.ofMessage gameInfo).received = .ofMessage gameInfo := by
  rw [GameSettings.received, setGameData_ofMessage]
  by_cases hmode : gameInfo.raiseIntervalMode = .raiseOnHandNum
  · simp [GameSettings.ofMessage, NetPacket.getGameData, RaiseIntervalMode.ofNet_eq_iff, hmode]
  · simp [GameSettings.ofMessage, NetPacket.getGameData, RaiseIntervalMode.ofNet_eq_iff, hmode]

theorem some_of_pos {o : Option (BitVec 32)} (hpos : 1 ≤ (o.getD 0).toInt) : some (o.getD 0) = o := by
  cases o with
  | none => exact absurd hpos (by decide)
  | some val => rfl

/-- The settings of a message that the server accepts go out in a message that the clients accept. -/
theorem validateGameInfo_ofMessage (hvalid : validateGameInfo gameName gameInfo = true)
    (hname : listSize gameName' 1 64 = true) {mode : ServerMode} {password : String}
    (haccepted : checkSettings (GameSettings.ofMessage gameInfo).gameType (GameSettings.ofMessage gameInfo).toGameData
      password mode = true) :
    validateGameInfo gameName' (NetPacket.setGameData (.ofMessage gameInfo)) = true := by
  simp only [checkSettings, decide_eq_true_eq] at haccepted
  obtain ⟨-, -, -, -, -, hhands, hminutes, -⟩ := haccepted
  simp only [validateGameInfo, decide_eq_true_eq] at hvalid
  obtain ⟨-, hplayers, heveryHands, heveryMinutes, hend, hrest⟩ := hvalid
  have hendSome : (some (gameInfo.endRaiseSmallBlindValue.getD 0)).all (fun val => uintUpper val 1000000) = true := by
    cases hvalue : gameInfo.endRaiseSmallBlindValue with
    | none => rfl
    | some val =>
        rw [hvalue] at hend
        exact hend
  have hinterval :
      ((if gameInfo.raiseIntervalMode = .raiseOnHandNum then some (gameInfo.raiseEveryHands.getD 0) else none).all
        fun val => uintRange val 1 1000) = true ∧
      ((if gameInfo.raiseIntervalMode = .raiseOnHandNum then none else some (gameInfo.raiseEveryMinutes.getD 0)).all
        fun val => uintRange val 1 1000) = true := by
    simp only [GameSettings.ofMessage, NetPacket.getGameData, RaiseIntervalMode.ofNet_eq_iff] at hhands hminutes
    split_ifs at hhands hminutes ⊢ with hmode
    · rw [some_of_pos (hhands hmode)]
      exact ⟨heveryHands, rfl⟩
    · have honMinutes : RaiseIntervalMode.ofNet gameInfo.raiseIntervalMode = .raiseOnMinutes := by
        cases hm : gameInfo.raiseIntervalMode with
        | raiseOnHandNum => exact absurd hm hmode
        | raiseOnMinutes => rfl
      rw [some_of_pos (hminutes honMinutes)]
      exact ⟨rfl, heveryMinutes⟩
  rw [setGameData_ofMessage]
  simp only [validateGameInfo, decide_eq_true_eq]
  exact ⟨hname, hplayers, hinterval.1, hinterval.2, hendSome, hrest⟩

def FromMessage : GameMap.Event → Prop
  | .createGame _ _ newGame =>
      ∃ gameInfo, validateGameInfo newGame.gameName gameInfo = true ∧ newGame.gameInfo = .ofMessage gameInfo
  | .removeGame _ => True

def Validated (m : GameMap) : Prop :=
  ∀ g ∈ m.gameMap, ∃ gameName gameInfo, validateGameInfo gameName gameInfo = true ∧ g.gameData = .ofMessage gameInfo

section

open GameMap

variable {isBadGameName : List UInt8 → Bool} {mode : ServerMode} {limitRank : Option (Int × Int)} {m m' : GameMap}
  {g : LobbyGame} {e : GameMap.Event}

theorem Validated.fire (h : Validated m) (hsound : Sound isBadGameName mode m) (hfrom : FromMessage e)
    (hfire : GameMap.fire isBadGameName mode limitRank m e = some m') : Validated m' := by
  cases e with
  | createGame now lastGames newGame =>
      simp only [GameMap.fire] at hfire
      cases hcreate : m.handleNetPacketCreateGame isBadGameName mode limitRank now lastGames newGame with
      | error failure =>
          rw [hcreate] at hfire
          cases hfire
          exact h
      | ok next =>
          rw [hcreate] at hfire
          cases hfire
          obtain ⟨gameInfo, hvalid, hinfo⟩ := hfrom
          obtain ⟨game, hid, hdata, hcounter, haccepted, hname, rfl⟩ := create_eq_ok hcreate
          intro g hg
          rw [(hsound.add hid hcounter haccepted hname).2, List.mem_append, List.mem_singleton] at hg
          rcases hg with hg | rfl
          · exact h g hg
          · exact ⟨_, gameInfo, hvalid, hdata.trans hinfo⟩
  | removeGame gameId =>
      cases hfire
      intro g hg
      rw [internalRemoveGame] at hg
      split_ifs at hg
      · exact h g (List.mem_of_mem_eraseP hg)
      · exact h g hg

theorem GameMap.Accepted.size (ha : Accepted isBadGameName mode g) : listSize g.name 1 64 = true := by
  obtain ⟨hlength, words, hwords⟩ := ha.name
  have hne : g.name ≠ [] := by
    intro hempty
    have hsome := hwords.valid.1
    rw [hempty] at hsome
    cases hsome
  have hpos := List.length_pos_of_ne_nil hne
  simp only [listSize, decide_eq_true_eq]
  omega

theorem run_validated {maxGamesOpen totalGamesEverCreated : Nat} {hist : List (GameMap × GameMap.Event)}
    (hrun : Runs.Trace (GameMap.fire isBadGameName mode limitRank) (fun _ e => FromMessage e)
      (GameMap.start maxGamesOpen totalGamesEverCreated) hist m) : Sound isBadGameName mode m ∧ Validated m := by
  induction hrun with
  | start =>
      refine ⟨sound_start .., ?_⟩
      intro g hg
      cases hg
  | step _ hfire hfrom ih => exact ⟨(ih.1.fire hfire).1, ih.2.fire ih.1 hfrom hfire⟩

/-- In every run whose requests have passed the validator, the messages that tell the clients of a game pass it again,
and a client reads out of them the settings that the server has. -/
theorem listed_valid {maxGamesOpen totalGamesEverCreated : Nat} {hist : List (GameMap × GameMap.Event)}
    (hrun : Runs.Trace (GameMap.fire isBadGameName mode limitRank) (fun _ e => FromMessage e)
      (GameMap.start maxGamesOpen totalGamesEverCreated) hist m) (hg : g ∈ m.gameMap) {playerIds : List (BitVec 32)}
    {adminPlayerId : BitVec 32} (hplayers : playerIds.length ≤ MAX_NUMBER_OF_PLAYERS) (hadmin : adminPlayerId ≠ 0) :
    validateGameListNewMessage (BitVec.ofNat 32 g.id) playerIds adminPlayerId g.name
        (NetPacket.setGameData g.gameData) = true ∧
      validateJoinGameAckMessage (BitVec.ofNat 32 g.id) g.name (NetPacket.setGameData g.gameData) = true ∧
      g.gameData.received = g.gameData := by
  obtain ⟨hsound, hvalidated⟩ := run_validated hrun
  obtain ⟨gameName, gameInfo, hvalid, hdata⟩ := hvalidated g hg
  have haccepted := hsound.accepted g hg
  have hid : BitVec.ofNat 32 g.id ≠ 0 := by
    intro hzero
    obtain ⟨hpos, hle⟩ := hsound.bounded g hg
    have hcounter := hsound.counter
    have hval := congrArg BitVec.toNat hzero
    rw [BitVec.toNat_ofNat, Nat.mod_eq_of_lt (by omega)] at hval
    change g.id = 0 at hval
    omega
  have hinfo : validateGameInfo g.name (NetPacket.setGameData g.gameData) = true := by
    have hsettings := haccepted.settings
    rw [hdata] at hsettings ⊢
    exact validateGameInfo_ofMessage hvalid haccepted.size hsettings
  refine ⟨?_, ?_, ?_⟩
  · simp only [validateGameListNewMessage, Bool.and_eq_true, listSize, decide_eq_true_eq]
    exact ⟨⟨⟨bne_iff_ne.mpr hid, Nat.zero_le _, hplayers⟩, bne_iff_ne.mpr hadmin⟩, hinfo⟩
  · simp only [validateJoinGameAckMessage, Bool.and_eq_true]
    exact ⟨bne_iff_ne.mpr hid, hinfo⟩
  · rw [hdata]
    exact received_ofMessage gameInfo

def openGame : NetGameInfo :=
  ⟨.normalGame, 2, .raiseOnHandNum, some 8, none, .doubleBlinds, none, 4, 7, 20, 10, 2000, []⟩

theorem listed_valid_open : ∃ (hist : List (GameMap × GameMap.Event)) (m : GameMap) (g : LobbyGame),
    Runs.Trace (GameMap.fire (fun _ => false) .internetAuth none) (fun _ e => FromMessage e) (GameMap.start 0 0)
        hist m ∧
      g ∈ m.gameMap ∧ validateJoinGameAckMessage (BitVec.ofNat 32 g.id) g.name (NetPacket.setGameData g.gameData) ∧
        g.gameData.received = g.gameData := by
  let newGame : NewGame := ⟨[79, 112, 101, 110], "", .ofMessage openGame⟩
  let m : GameMap := ⟨[⟨1, [79, 112, 101, 110], "", .ofMessage openGame⟩], 1, 1, 1, 1⟩
  have hfire : GameMap.fire (fun _ => false) .internetAuth none (GameMap.start 0 0) (.createGame 0 (some []) newGame) =
      some m := by decide
  have hrun : Runs.Trace (GameMap.fire (fun _ => false) .internetAuth none) (fun _ e => FromMessage e)
      (GameMap.start 0 0) [(GameMap.start 0 0, .createGame 0 (some []) newGame)] m :=
    .step .start hfire ⟨openGame, by decide, rfl⟩
  have hplayers : [(7 : BitVec 32)].length ≤ MAX_NUMBER_OF_PLAYERS := by decide
  have hg : ⟨1, [79, 112, 101, 110], "", .ofMessage openGame⟩ ∈ m.gameMap := List.mem_singleton.mpr rfl
  obtain ⟨-, hack, hsame⟩ := listed_valid hrun hg hplayers (show (7 : BitVec 32) ≠ 0 by decide)
  exact ⟨_, m, _, hrun, hg, hack, hsame⟩

end

end PokerTH
