import PokerTH.BlindSchedule
import PokerTH.ServerGame

namespace PokerTH

structure GameSettings extends GameData where
  gameType : GameType
  guiSpeed : Int
  deriving DecidableEq, Repr

/-- The enumerations of the protocol. Both sides number their values from 1 in this order. -/
inductive NetGameType
  | normalGame | registeredOnlyGame | inviteOnlyGame | rankingGame
  deriving DecidableEq, Repr

inductive NetRaiseIntervalMode
  | raiseOnHandNum | raiseOnMinutes
  deriving DecidableEq, Repr

inductive NetEndRaiseMode
  | doubleBlinds | raiseByEndValue | keepLastBlind
  deriving DecidableEq, Repr

/-- The message without the name of the game. -/
structure NetGameInfo where
  netGameType : NetGameType
  maxNumPlayers : BitVec 32
  raiseIntervalMode : NetRaiseIntervalMode
  raiseEveryHands : Option (BitVec 32)
  raiseEveryMinutes : Option (BitVec 32)
  endRaiseMode : NetEndRaiseMode
  endRaiseSmallBlindValue : Option (BitVec 32)
  proposedGuiSpeed : BitVec 32
  delayBetweenHands : BitVec 32
  playerActionTimeout : BitVec 32
  firstSmallBlind : BitVec 32
  startMoney : BitVec 32
  manualBlinds : List (BitVec 32)
  deriving DecidableEq, Repr

def GameType.toNet : GameType → NetGameType
  | .normal => .normalGame
  | .registeredOnly => .registeredOnlyGame
  | .inviteOnly => .inviteOnlyGame
  | .ranking => .rankingGame

def GameType.ofNet : NetGameType → GameType
  | .normalGame => .normal
  | .registeredOnlyGame => .registeredOnly
  | .inviteOnlyGame => .inviteOnly
  | .rankingGame => .ranking

def RaiseIntervalMode.toNet : RaiseIntervalMode → NetRaiseIntervalMode
  | .raiseOnHandNumber => .raiseOnHandNum
  | .raiseOnMinutes => .raiseOnMinutes

def RaiseIntervalMode.ofNet : NetRaiseIntervalMode → RaiseIntervalMode
  | .raiseOnHandNum => .raiseOnHandNumber
  | .raiseOnMinutes => .raiseOnMinutes

def AfterManualBlindsMode.toNet : AfterManualBlindsMode → NetEndRaiseMode
  | .doubleBlinds => .doubleBlinds
  | .raiseAbout => .raiseByEndValue
  | .stayAtLastBlind => .keepLastBlind

def AfterManualBlindsMode.ofNet : NetEndRaiseMode → AfterManualBlindsMode
  | .doubleBlinds => .doubleBlinds
  | .raiseByEndValue => .raiseAbout
  | .keepLastBlind => .stayAtLastBlind

@[simp] theorem GameType.ofNet_toNet (x : GameType) : ofNet x.toNet = x := by cases x <;> rfl

@[simp] theorem RaiseIntervalMode.ofNet_toNet (x : RaiseIntervalMode) : ofNet x.toNet = x := by cases x <;> rfl

@[simp] theorem AfterManualBlindsMode.ofNet_toNet (x : AfterManualBlindsMode) : ofNet x.toNet = x := by cases x <;> rfl

namespace NetPacket

/-- The values of an `int` as a `uint32`. -/
def toUint32 (x : Int) : BitVec 32 := BitVec.ofInt 32 x

def setGameData (inData : GameSettings) : NetGameInfo :=
  { netGameType := inData.gameType.toNet
    maxNumPlayers := toUint32 inData.maxNumberOfPlayers
    raiseIntervalMode := inData.raiseIntervalMode.toNet
    raiseEveryHands :=
      if inData.raiseIntervalMode = .raiseOnHandNumber then some (toUint32 inData.raiseSmallBlindEveryHandsValue) else none
    raiseEveryMinutes :=
      if inData.raiseIntervalMode = .raiseOnHandNumber then none else some (toUint32 inData.raiseSmallBlindEveryMinutesValue)
    endRaiseMode := inData.afterManualBlindsMode.toNet
    proposedGuiSpeed := toUint32 inData.guiSpeed
    delayBetweenHands := toUint32 inData.delayBetweenHandsSec
    playerActionTimeout := toUint32 inData.playerActionTimeoutSec
    endRaiseSmallBlindValue := some (toUint32 inData.afterMBAlwaysRaiseValue)
    firstSmallBlind := toUint32 inData.firstSmallBlind
    startMoney := toUint32 inData.startMoney
    manualBlinds := inData.manualBlindsList.map toUint32 }

/-- The settings of a message. The caller's list of manual blinds is kept, and is empty in every call. -/
def getGameData (inData : NetGameInfo) (outData : GameSettings) : GameSettings :=
  let raiseIntervalMode := RaiseIntervalMode.ofNet inData.raiseIntervalMode
  { gameType := GameType.ofNet inData.netGameType
    maxNumberOfPlayers := inData.maxNumPlayers.toInt
    raiseIntervalMode
    raiseSmallBlindEveryHandsValue :=
      if raiseIntervalMode = .raiseOnHandNumber then (inData.raiseEveryHands.getD 0).toInt else 0
    raiseSmallBlindEveryMinutesValue :=
      if raiseIntervalMode = .raiseOnHandNumber then 0 else (inData.raiseEveryMinutes.getD 0).toInt
    raiseMode := if inData.manualBlinds.length > 0 then .manualBlindsOrder else .doubleBlinds
    afterManualBlindsMode := AfterManualBlindsMode.ofNet inData.endRaiseMode
    guiSpeed := inData.proposedGuiSpeed.toInt
    delayBetweenHandsSec := inData.delayBetweenHands.toInt
    playerActionTimeoutSec := inData.playerActionTimeout.toInt
    firstSmallBlind := inData.firstSmallBlind.toInt
    afterMBAlwaysRaiseValue := (inData.endRaiseSmallBlindValue.getD 0).toInt
    startMoney := inData.startMoney.toInt
    manualBlindsList := outData.manualBlindsList ++ inData.manualBlinds.map BitVec.toInt }

end NetPacket

namespace GameSettings

def new : GameSettings :=
  ⟨⟨0, 0, 0, .raiseOnHandNumber, 8, 1, .doubleBlinds, [], .doubleBlinds, 0, 6, 20⟩, .normal, 4⟩

def received (d : GameSettings) : GameSettings := NetPacket.getGameData (NetPacket.setGameData d) new

structure FitsInt (d : GameSettings) : Prop where
  players : IsInt d.maxNumberOfPlayers
  money : IsInt d.startMoney
  blind : IsInt d.firstSmallBlind
  hands : IsInt d.raiseSmallBlindEveryHandsValue
  minutes : IsInt d.raiseSmallBlindEveryMinutesValue
  list : ∀ b ∈ d.manualBlindsList, IsInt b
  about : IsInt d.afterMBAlwaysRaiseValue
  speed : IsInt d.guiSpeed
  delay : IsInt d.delayBetweenHandsSec
  timeout : IsInt d.playerActionTimeoutSec

/-- The settings `d'` are the settings `d`, but for the way the blinds are raised and the interval that is not in use. -/
structure Survives (d d' : GameSettings) : Prop where
  gameType : d'.gameType = d.gameType
  maxNumberOfPlayers : d'.maxNumberOfPlayers = d.maxNumberOfPlayers
  raiseIntervalMode : d'.raiseIntervalMode = d.raiseIntervalMode
  hands : d.raiseIntervalMode = .raiseOnHandNumber →
    d'.raiseSmallBlindEveryHandsValue = d.raiseSmallBlindEveryHandsValue
  minutes : d.raiseIntervalMode = .raiseOnMinutes →
    d'.raiseSmallBlindEveryMinutesValue = d.raiseSmallBlindEveryMinutesValue
  afterManualBlindsMode : d'.afterManualBlindsMode = d.afterManualBlindsMode
  afterMBAlwaysRaiseValue : d'.afterMBAlwaysRaiseValue = d.afterMBAlwaysRaiseValue
  guiSpeed : d'.guiSpeed = d.guiSpeed
  delayBetweenHandsSec : d'.delayBetweenHandsSec = d.delayBetweenHandsSec
  playerActionTimeoutSec : d'.playerActionTimeoutSec = d.playerActionTimeoutSec
  firstSmallBlind : d'.firstSmallBlind = d.firstSmallBlind
  startMoney : d'.startMoney = d.startMoney
  manualBlindsList : d'.manualBlindsList = d.manualBlindsList

def ListInUse (d : GameSettings) : Prop := d.raiseMode = .doubleBlinds → d.manualBlindsList = []

theorem toInt_toUint32 {x : Int} (hx : IsInt x) : (NetPacket.toUint32 x).toInt = x := by
  obtain ⟨hlow, hhigh⟩ := hx
  rw [NetPacket.toUint32, BitVec.toInt_ofInt]
  exact Int.bmod_eq_of_le (by omega) (by omega)

theorem toInt_list {l : List Int} (hl : ∀ b ∈ l, IsInt b) : (l.map NetPacket.toUint32).map BitVec.toInt = l := by
  rw [List.map_map]
  conv_rhs => rw [← List.map_id l]
  exact List.map_congr_left fun b hb => toInt_toUint32 (hl b hb)

variable {d : GameSettings}

theorem received_raiseMode (d : GameSettings) :
    d.received.raiseMode = if d.manualBlindsList = [] then .doubleBlinds else .manualBlindsOrder := by
  simp only [received, NetPacket.getGameData, NetPacket.setGameData, List.length_map]
  cases d.manualBlindsList with
  | nil => rfl
  | cons b rest => simp

theorem survives_received (hfits : d.FitsInt) : Survives d d.received where
  gameType := GameType.ofNet_toNet d.gameType
  maxNumberOfPlayers := toInt_toUint32 hfits.players
  raiseIntervalMode := RaiseIntervalMode.ofNet_toNet d.raiseIntervalMode
  hands := fun hmode => by
    simp [received, NetPacket.getGameData, NetPacket.setGameData, hmode, toInt_toUint32 hfits.hands]
  minutes := fun hmode => by
    simp [received, NetPacket.getGameData, NetPacket.setGameData, hmode, toInt_toUint32 hfits.minutes]
  afterManualBlindsMode := AfterManualBlindsMode.ofNet_toNet d.afterManualBlindsMode
  afterMBAlwaysRaiseValue := toInt_toUint32 hfits.about
  guiSpeed := toInt_toUint32 hfits.speed
  delayBetweenHandsSec := toInt_toUint32 hfits.delay
  playerActionTimeoutSec := toInt_toUint32 hfits.timeout
  firstSmallBlind := toInt_toUint32 hfits.blind
  startMoney := toInt_toUint32 hfits.money
  manualBlindsList := toInt_list hfits.list

end GameSettings

namespace Game

def smallBlinds (g : Game) : List Int → List Int
  | [] => []
  | elapsed :: rest => (g.countHand elapsed).currentSmallBlind :: smallBlinds (g.countHand elapsed) rest

structure SameSchedule (g g' : Game) : Prop where
  raiseIntervalMode : g'.gameData.raiseIntervalMode = g.gameData.raiseIntervalMode
  hands : g.gameData.raiseIntervalMode = .raiseOnHandNumber →
    g'.gameData.raiseSmallBlindEveryHandsValue = g.gameData.raiseSmallBlindEveryHandsValue
  minutes : g.gameData.raiseIntervalMode = .raiseOnMinutes →
    g'.gameData.raiseSmallBlindEveryMinutesValue = g.gameData.raiseSmallBlindEveryMinutesValue
  raiseMode : g'.gameData.raiseMode = g.gameData.raiseMode
  afterManualBlindsMode : g'.gameData.afterManualBlindsMode = g.gameData.afterManualBlindsMode
  afterMBAlwaysRaiseValue : g'.gameData.afterMBAlwaysRaiseValue = g.gameData.afterMBAlwaysRaiseValue
  counters : g' = { g with gameData := g'.gameData }

variable {g g' : Game}

theorem SameSchedule.raisedBlind (hs : SameSchedule g g') : g'.raisedBlind = g.raisedBlind := by
  have hblind : g'.currentSmallBlind = g.currentSmallBlind := by rw [hs.counters]
  have hlist : g'.blindsList = g.blindsList := by rw [hs.counters]
  have hmax : g'.maxBlind = g.maxBlind := by rw [hs.counters]; rfl
  have hdoubled : g'.doubledBlind = g.doubledBlind := by
    rw [doubledBlind, doubledBlind, hblind, hmax]
  simp only [Game.raisedBlind, hs.raiseMode, hs.afterManualBlindsMode, hs.afterMBAlwaysRaiseValue, hblind, hlist, hmax,
    hdoubled]

theorem SameSchedule.setRaisedBlind (hs : SameSchedule g g') : SameSchedule g.setRaisedBlind g'.setRaisedBlind where
  raiseIntervalMode := hs.raiseIntervalMode
  hands := hs.hands
  minutes := hs.minutes
  raiseMode := hs.raiseMode
  afterManualBlindsMode := hs.afterManualBlindsMode
  afterMBAlwaysRaiseValue := hs.afterMBAlwaysRaiseValue
  counters := by
    have hmax : g'.maxBlind = g.maxBlind := by rw [hs.counters]; rfl
    simp only [Game.setRaisedBlind, hs.raisedBlind, hmax]
    rw [hs.counters]

theorem SameSchedule.countHand (hs : SameSchedule g g') (elapsed : Int) :
    SameSchedule (g.countHand elapsed) (g'.countHand elapsed) := by
  obtain ⟨d', rfl⟩ : ∃ d', g' = { g with gameData := d' } := ⟨_, hs.counters⟩
  have hcounted (hand minutes last : Int) :
      SameSchedule { g with currentHandID := hand, lastTimeBlindsRaised := minutes, lastHandBlindsRaised := last }
        { g with gameData := d', currentHandID := hand, lastTimeBlindsRaised := minutes, lastHandBlindsRaised := last } :=
    ⟨hs.raiseIntervalMode, hs.hands, hs.minutes, hs.raiseMode, hs.afterManualBlindsMode, hs.afterMBAlwaysRaiseValue, rfl⟩
  have hinterval : d'.raiseIntervalMode = g.gameData.raiseIntervalMode := hs.raiseIntervalMode
  simp only [Game.countHand, raiseBlinds]
  cases hmode : g.gameData.raiseIntervalMode with
  | raiseOnHandNumber =>
      have hhands : d'.raiseSmallBlindEveryHandsValue = g.gameData.raiseSmallBlindEveryHandsValue := hs.hands hmode
      simp only [hinterval.trans hmode, hhands]
      split_ifs
      · exact (hcounted _ _ _).setRaisedBlind
      · exact hcounted _ _ _
  | raiseOnMinutes =>
      have hminutes : d'.raiseSmallBlindEveryMinutesValue = g.gameData.raiseSmallBlindEveryMinutesValue := hs.minutes hmode
      simp only [hinterval.trans hmode, hminutes]
      split_ifs
      · exact (hcounted _ _ _).setRaisedBlind
      · exact hcounted _ _ _

theorem SameSchedule.smallBlinds (hs : SameSchedule g g') (elapsed : List Int) :
    g'.smallBlinds elapsed = g.smallBlinds elapsed := by
  induction elapsed generalizing g g' with
  | nil => rfl
  | cons e rest ih =>
      have hnext := hs.countHand e
      rw [Game.smallBlinds, Game.smallBlinds, ih hnext, hnext.counters]

end Game

namespace GameSettings

variable {d : GameSettings}

/-- A game of the settings that arrive has the blinds of a game of the settings that are sent. -/
theorem smallBlinds_received (hfits : d.FitsInt) (hlist : d.received.raiseMode = d.raiseMode) {maxPlayers : Nat}
    {playerDataList : List PlayerData} {startData : StartData} {g g' : Game} {t t' : Table}
    (hsent : Game.create maxPlayers playerDataList d.toGameData startData = .ok (g, t))
    (hreceived : Game.create maxPlayers playerDataList d.received.toGameData startData = .ok (g', t'))
    (elapsed : List Int) : g'.smallBlinds elapsed = g.smallBlinds elapsed := by
  have hsame := survives_received hfits
  simp only [Game.create] at hsent hreceived
  split_ifs at hsent hreceived
  cases hsent
  cases hreceived
  refine Game.SameSchedule.smallBlinds ⟨hsame.raiseIntervalMode, hsame.hands, hsame.minutes, hlist,
    hsame.afterManualBlindsMode, hsame.afterMBAlwaysRaiseValue, ?_⟩ elapsed
  rw [hsame.startMoney, hsame.firstSmallBlind, hsame.manualBlindsList]

/-- Settings that the server accepts arrive as they were sent, except that the mode is read off the list. -/
theorem settings_survive {mode : ServerMode} {password : String} (hfits : d.FitsInt)
    (haccepted : ServerGame.checkSettings d.gameType d.toGameData password mode) :
    Survives d d.received ∧ (d.received.raiseMode = d.raiseMode ↔ ListInUse d) ∧
      (ListInUse d → ∀ (maxPlayers : Nat) (playerDataList : List PlayerData) (startData : StartData) (g g' : Game)
        (t t' : Table), Game.create maxPlayers playerDataList d.toGameData startData = .ok (g, t) →
          Game.create maxPlayers playerDataList d.received.toGameData startData = .ok (g', t') →
            ∀ elapsed, g'.smallBlinds elapsed = g.smallBlinds elapsed) := by
  simp only [ServerGame.checkSettings, decide_eq_true_eq] at haccepted
  have hmanual : d.raiseMode = .manualBlindsOrder → d.manualBlindsList ≠ [] := haccepted.2.2.2.2.2.2.2.1
  have hiff : d.received.raiseMode = d.raiseMode ↔ ListInUse d := by
    rw [received_raiseMode, ListInUse]
    cases hmode : d.raiseMode with
    | doubleBlinds => split_ifs with hnil <;> simp [hnil]
    | manualBlindsOrder => simp [hmanual hmode]
  refine ⟨survives_received hfits, hiff, ?_⟩
  intro hlist maxPlayers playerDataList startData g g' t t' hsent hreceived
  exact smallBlinds_received hfits (hiff.mpr hlist) hsent hreceived

/-- A game that doubles its blinds, with a list of manual blinds that it does not use. -/
def idleList : GameSettings :=
  ⟨⟨2, 1000, 10, .raiseOnHandNumber, 1, 1, .doubleBlinds, [70], .doubleBlinds, 0, 6, 20⟩, .normal, 4⟩

theorem settings_survive_manual : ∃ d : GameSettings, ServerGame.checkSettings d.gameType d.toGameData "" .lan ∧
    d.received.raiseMode = .manualBlindsOrder ∧ Survives d d.received := by
  let d : GameSettings := { idleList with raiseMode := .manualBlindsOrder }
  have hfits : d.FitsInt := by constructor <;> decide
  obtain ⟨hsame, hmode, _⟩ := settings_survive hfits (show ServerGame.checkSettings d.gameType d.toGameData "" .lan by decide)
  exact ⟨d, by decide, hmode.mpr (fun h => by cases h), hsame⟩

/-- The settings are accepted, and the other side raises its blinds by the list. -/
theorem settings_lost : idleList.FitsInt ∧
    ServerGame.checkSettings idleList.gameType idleList.toGameData "" .internetAuth ∧
    idleList.raiseMode = .doubleBlinds ∧ idleList.received.raiseMode = .manualBlindsOrder ∧
    ∃ g g' t t', Game.create 2 [⟨1, .human, "", 1000⟩] idleList.toGameData ⟨1, 2⟩ = .ok (g, t) ∧
      Game.create 2 [⟨1, .human, "", 1000⟩] idleList.received.toGameData ⟨1, 2⟩ = .ok (g', t') ∧
      g.smallBlinds [0, 0] = [10, 20] ∧ g'.smallBlinds [0, 0] = [10, 70] := by
  refine ⟨by constructor <;> decide, by decide, rfl, by decide, _, _, _, _, rfl, rfl, ?_, ?_⟩
  · decide
  · decide

end GameSettings

end PokerTH
