import PokerTH.FoldHistory
import PokerTH.HoleCards
import PokerTH.NewHand
import Mathlib.Data.List.Rotate
import Mathlib.Data.List.Sort

namespace PokerTH

open HoleCards (SeatState)

/-- An entry of a client's list of the players in its game. -/
structure ClientPlayerData extends PlayerData where
  number : Nat
  deriving DecidableEq, Repr

structure GameStartRejoinMessage where
  startDealerPlayerId : Nat
  handNum : Int
  rejoinPlayerData : List (Nat × Int)
  deriving DecidableEq, Repr

structure HandStartMessage where
  seatStates : List SeatState
  smallBlind : Int
  dealerPlayerId : Nat
  deriving DecidableEq, Repr

structure ClientThread where
  guiPlayerId : Nat
  gameData : GameData
  playerDataList : List ClientPlayerData

/-- The game of a client. Its own player has the seat 0, and had the seat `origGuiPlayerNum` on the server. -/
structure ClientGame where
  game : Game
  table : Table
  origGuiPlayerNum : Nat

namespace RejoinTable

/-- The data for a client who comes back, from the seats in the order of the server. -/
def sendGameData (g : Game) (t : Table) (numberOfPlayers : Nat) : GameStartRejoinMessage where
  startDealerPlayerId := g.dealerPosition
  handNum := g.currentHandID
  rejoinPlayerData := (t.seatsList.take numberOfPlayers).map fun r => (t.uniqueID r, (t.players r).myCash)

def seatState (p : Player) : SeatState :=
  if p.myActiveStatus = false then .noMoney else if p.isSessionActive = false then .sessionInactive else .normal

def createNetPacketHandStart (h : Hand) (numberOfPlayers : Nat) : HandStartMessage where
  seatStates := (h.seatsList.take numberOfPlayers).map fun r => seatState (h.players r)
  smallBlind := h.smallBlind
  dealerPlayerId := h.dealerPosition

/-- The player with the id gets the seat number and the cash. If he is not on the list, he is appended. -/
def setSlot (i id : Nat) (cash : Int) : List ClientPlayerData → List ClientPlayerData
  | [] => [{ uniqueId := id, type := .human, guid := "", startCash := cash, number := i }]
  | p :: ps =>
      if p.uniqueId = id then { p with number := i, startCash := cash } :: ps else p :: setSlot i id cash ps

def setSlots : Nat → List (Nat × Int) → List ClientPlayerData → List ClientPlayerData
  | _, [], l => l
  | i, (id, cash) :: seats, l => setSlots (i + 1) seats (setSlot i id cash l)

/-- Where the server's seat `i` is on the client. -/
def seatNumber (numPlayers orig i : Nat) : Nat := (i + (numPlayers - orig)) % numPlayers

/-- All entries of the list are mapped, and it is sorted by the new numbers. -/
def mapPlayerDataList (numPlayers orig : Nat) (l : List ClientPlayerData) : List ClientPlayerData :=
  (l.map fun p => { p with number := seatNumber numPlayers orig p.number }).insertionSort fun p q => p.number ≤ q.number

def gameStartRejoin (maxPlayers : Nat) (c : ClientThread) (msg : GameStartRejoinMessage) : Option ClientGame :=
  if msg.rejoinPlayerData = [] then none
  else
    let l := setSlots 0 msg.rejoinPlayerData c.playerDataList
    match l.find? fun p => p.uniqueId == c.guiPlayerId with
    | none => none
    | some guiPlayer =>
        let l := mapPlayerDataList msg.rejoinPlayerData.length guiPlayer.number l
        match Game.create maxPlayers (l.map ClientPlayerData.toPlayerData) c.gameData ⟨msg.startDealerPlayerId, l.length⟩ with
        | .error _ => none
        | .ok (game, table) => some ⟨{ game with currentHandID := msg.handNum }, table, guiPlayer.number⟩

def setSeatState (p : Player) : SeatState → Player
  | .normal => { p with isSessionActive := true }
  | .sessionInactive => { p with isSessionActive := false }
  | .noMoney => { p with myCash := 0 }

def setSeatStates (seatsList : List Ref) (numPlayers orig : Nat) : Nat → List SeatState → Players → Option Players
  | _, [], players => some players
  | i, state :: states, players =>
      let playerNum := seatNumber numPlayers orig i
      if playerNum ∈ seatsList then
        setSeatStates seatsList numPlayers orig (i + 1) states
          (updatePlayer players playerNum fun p => setSeatState p state)
      else none

/-- The hand that a client starts: its blinds come from its own schedule, the hand's and the preflop raise from the
message. -/
def startHand (g : Game) (t : Table) (msg : HandStartMessage) : Client :=
  let c := Client.initHand t g.dealerPosition g.currentSmallBlind
  c.setHand ({ c.hand with smallBlind := msg.smallBlind }.setMinimumRaise (2 * msg.smallBlind))

def raisedGame (elapsed : Int) (g : Game) : Game := { g with currentHandID := g.currentHandID + 1 }.raiseBlinds elapsed

def handStart (elapsed : Int) (cg : ClientGame) (msg : HandStartMessage) : Option (Game × Client) :=
  match setSeatStates cg.table.seatsList cg.game.startQuantityPlayers cg.origGuiPlayerNum 0 msg.seatStates
      cg.table.players with
  | none => none
  | some players =>
      let g := raisedGame elapsed cg.game
      let c := startHand g { cg.table with players } msg
      match Game.nextDealer c.hand with
      | .error _ => none
      | .ok dealerPosition => some ({ g with dealerPosition }, c)

section

variable {n orig i k : Nat}

theorem seatNumber_lt (hn : 0 < n) : seatNumber n orig i < n := Nat.mod_lt _ hn

theorem seatNumber_add (horig : orig < n) (hi : i < n) : (seatNumber n orig i + orig) % n = i := by
  have hsum : i + (n - orig) + orig = i + n := by omega
  rw [seatNumber, Nat.mod_add_mod, hsum, Nat.add_mod_right, Nat.mod_eq_of_lt hi]

theorem seatNumber_perm (horig : orig < n) : ((List.range n).map (seatNumber n orig)).Perm (List.range n) := by
  have hn : 0 < n := Nat.lt_of_le_of_lt (Nat.zero_le _) horig
  have hnodup : ((List.range n).map (seatNumber n orig)).Nodup := by
    apply List.Nodup.map_on _ List.nodup_range
    intro i hi j hj heq
    rw [← seatNumber_add horig (List.mem_range.mp hi), heq, seatNumber_add horig (List.mem_range.mp hj)]
  have hsub : (List.range n).map (seatNumber n orig) ⊆ List.range n := by
    intro k hk
    obtain ⟨i, _, rfl⟩ := List.mem_map.mp hk
    exact List.mem_range.mpr (seatNumber_lt hn)
  exact (List.subperm_of_subset hnodup hsub).perm_of_length_le (by simp)

theorem map_insertionSort_range {α β : Type} (key : α → Nat) (view : α → β) (slot : Nat → β) {l : List α}
    (hkeys : (l.map key).Perm (List.range n)) (hview : ∀ p ∈ l, view p = slot (key p)) :
    (l.insertionSort fun p q => key p ≤ key q).map view = (List.range n).map slot := by
  have hsorted : (l.insertionSort fun p q => key p ≤ key q).map key = List.range n := by
    rw [List.map_insertionSort (fun p q => key p ≤ key q) (fun a b => a ≤ b) key l fun _ _ _ _ => Iff.rfl]
    apply List.Perm.eq_of_sortedLE List.sortedLE_insertionSort (List.pairwise_le_range).sortedLE
    exact (List.perm_insertionSort _ _).trans hkeys
  rw [← hsorted, List.map_map]
  apply List.map_congr_left
  intro p hp
  exact hview p ((List.mem_insertionSort _).mp hp)

end

section

variable {i id : Nat} {cash : Int} {l : List ClientPlayerData} {seats : List (Nat × Int)}

def ids (l : List ClientPlayerData) : List Nat := l.map fun p => p.uniqueId

@[simp] theorem ids_cons (p : ClientPlayerData) (ps : List ClientPlayerData) : ids (p :: ps) = p.uniqueId :: ids ps := rfl

theorem ids_setSlot_of_mem (hmem : id ∈ ids l) : ids (setSlot i id cash l) = ids l := by
  induction l with
  | nil => cases hmem
  | cons p ps ih =>
      simp only [setSlot]
      split_ifs with hid
      · rfl
      · rw [ids_cons, ids_cons, ih ((List.mem_cons.mp hmem).resolve_left (Ne.symm hid))]

theorem ids_setSlot_of_not_mem (hnew : id ∉ ids l) : ids (setSlot i id cash l) = ids l ++ [id] := by
  induction l with
  | nil => rfl
  | cons p ps ih =>
      rw [ids_cons, List.mem_cons, not_or] at hnew
      simp only [setSlot, if_neg (Ne.symm hnew.1)]
      rw [ids_cons, ids_cons, ih hnew.2, List.cons_append]

theorem nodup_setSlot (hl : (ids l).Nodup) : (ids (setSlot i id cash l)).Nodup := by
  by_cases hid : id ∈ ids l
  · rw [ids_setSlot_of_mem hid]
    exact hl
  · rw [ids_setSlot_of_not_mem hid, List.nodup_append]
    refine ⟨hl, List.nodup_singleton id, fun a ha b hb => ?_⟩
    rw [List.mem_singleton] at hb
    rintro rfl
    exact hid (hb ▸ ha)

theorem mem_ids_setSlot {x : Nat} : x ∈ ids (setSlot i id cash l) ↔ x ∈ ids l ∨ x = id := by
  by_cases hid : id ∈ ids l
  · rw [ids_setSlot_of_mem hid]
    constructor
    · exact .inl
    · rintro (hx | rfl)
      · exact hx
      · exact hid
  · rw [ids_setSlot_of_not_mem hid, List.mem_append, List.mem_singleton]

/-- The entries of the list after a slot is set: the one with the id, and the others as before. -/
theorem mem_setSlot (hl : (ids l).Nodup) {p : ClientPlayerData} (hp : p ∈ setSlot i id cash l) :
    (p.uniqueId = id ∧ p.number = i ∧ p.startCash = cash) ∨ (p.uniqueId ≠ id ∧ p ∈ l) := by
  induction l with
  | nil =>
      rw [setSlot, List.mem_singleton] at hp
      subst hp
      exact .inl ⟨rfl, rfl, rfl⟩
  | cons q qs ih =>
      obtain ⟨hq, hqs⟩ := List.nodup_cons.mp hl
      simp only [setSlot] at hp
      split_ifs at hp with hid
      · rcases List.mem_cons.mp hp with rfl | hp
        · exact .inl ⟨hid, rfl, rfl⟩
        · refine .inr ⟨fun heq => hq ?_, List.mem_cons_of_mem _ hp⟩
          exact List.mem_map.mpr ⟨p, hp, heq.trans hid.symm⟩
      · rcases List.mem_cons.mp hp with rfl | hp
        · exact .inr ⟨hid, List.mem_cons_self⟩
        · rcases ih hqs hp with hslot | ⟨hne, hmem⟩
          · exact .inl hslot
          · exact .inr ⟨hne, List.mem_cons_of_mem _ hmem⟩

theorem nodup_setSlots (hl : (ids l).Nodup) : (ids (setSlots i seats l)).Nodup := by
  induction seats generalizing i l with
  | nil => exact hl
  | cons seat seats ih => exact ih (nodup_setSlot hl)

theorem mem_ids_setSlots {x : Nat} : x ∈ ids (setSlots i seats l) ↔ x ∈ ids l ∨ x ∈ seats.map Prod.fst := by
  induction seats generalizing i l with
  | nil => simp [setSlots]
  | cons seat seats ih =>
      rw [setSlots, ih, mem_ids_setSlot, List.map_cons, List.mem_cons, or_assoc]

/-- Once all slots are set, the entry of each seat has its number and its cash. -/
theorem mem_setSlots (hl : (ids l).Nodup) (hseats : (seats.map Prod.fst).Nodup) {p : ClientPlayerData}
    (hp : p ∈ setSlots i seats l) : (∃ k, ∃ hk : k < seats.length, p.uniqueId = (seats[k]).1 ∧ p.number = i + k ∧
      p.startCash = (seats[k]).2) ∨ p.uniqueId ∉ seats.map Prod.fst ∧ p ∈ l := by
  induction seats generalizing i l with
  | nil => exact .inr ⟨by simp, hp⟩
  | cons seat seats ih =>
      obtain ⟨hnew, hrest⟩ := List.nodup_cons.mp hseats
      rcases ih (nodup_setSlot hl) hrest hp with ⟨k, hk, hid, hnumber, hcash⟩ | ⟨hout, hmem⟩
      · refine .inl ⟨k + 1, Nat.succ_lt_succ hk, hid, ?_, hcash⟩
        omega
      · rcases mem_setSlot hl hmem with ⟨hid, hnumber, hcash⟩ | ⟨hne, hmem⟩
        · exact .inl ⟨0, Nat.succ_pos _, hid, hnumber, hcash⟩
        · refine .inr ⟨?_, hmem⟩
          rw [List.map_cons, List.mem_cons, not_or]
          exact ⟨hne, hout⟩

/-- The client's list holds no player without a seat. So the entries are those of the message. -/
theorem slot_of_mem (hl : (ids l).Nodup) (hseats : (seats.map Prod.fst).Nodup) (hsub : ids l ⊆ seats.map Prod.fst)
    {p : ClientPlayerData} (hp : p ∈ setSlots 0 seats l) :
    p.number < seats.length ∧ seats[p.number]? = some (p.uniqueId, p.startCash) := by
  rcases mem_setSlots hl hseats hp with ⟨k, hk, hid, hnumber, hcash⟩ | ⟨hout, hmem⟩
  · rw [Nat.zero_add] at hnumber
    subst hnumber
    rw [hid, hcash]
    exact ⟨hk, List.getElem?_eq_getElem hk⟩
  · exact absurd (hsub (List.mem_map_of_mem hmem)) hout

theorem ids_perm (hl : (ids l).Nodup) (hseats : (seats.map Prod.fst).Nodup) (hsub : ids l ⊆ seats.map Prod.fst) :
    (ids (setSlots 0 seats l)).Perm (seats.map Prod.fst) := by
  apply (List.perm_ext_iff_of_nodup (nodup_setSlots hl) hseats).mpr
  intro x
  rw [mem_ids_setSlots]
  exact ⟨fun hx => hx.elim (@hsub x) id, .inr⟩

theorem number_perm (hl : (ids l).Nodup) (hseats : (seats.map Prod.fst).Nodup) (hsub : ids l ⊆ seats.map Prod.fst) :
    ((setSlots 0 seats l).map fun p => p.number).Perm (List.range seats.length) := by
  have hids := ids_perm hl hseats hsub
  have hlength := hids.length_eq
  rw [ids, List.length_map, List.length_map] at hlength
  have hnodup : ((setSlots 0 seats l).map fun p => p.number).Nodup := by
    apply List.Nodup.map_on _ (List.Nodup.of_map _ (nodup_setSlots hl))
    intro p hp q hq heq
    have hsame := (slot_of_mem hl hseats hsub hp).2
    rw [heq, (slot_of_mem hl hseats hsub hq).2] at hsame
    have hid := congrArg Prod.fst (Option.some.inj hsame)
    exact List.inj_on_of_nodup_map (nodup_setSlots hl) hp hq hid.symm
  have hrange : ((setSlots 0 seats l).map fun p => p.number) ⊆ List.range seats.length := by
    intro k hk
    obtain ⟨p, hp, rfl⟩ := List.mem_map.mp hk
    exact List.mem_range.mpr (slot_of_mem hl hseats hsub hp).1
  apply (List.subperm_of_subset hnodup hrange).perm_of_length_le
  rw [List.length_map, List.length_range, hlength]

/-- The client's list has the players of the server's seats in the same order from its own seat on. -/
theorem mapPlayerDataList_rotate (hl : (ids l).Nodup) (hseats : (seats.map Prod.fst).Nodup)
    (hsub : ids l ⊆ seats.map Prod.fst) {orig : Nat} (horig : orig < seats.length) :
    ((mapPlayerDataList seats.length orig (setSlots 0 seats l)).map fun p => (p.uniqueId, p.startCash)) =
      seats.rotate orig := by
  have hkeys : (((setSlots 0 seats l).map fun p => { p with number := seatNumber seats.length orig p.number }).map
      fun p => p.number).Perm (List.range seats.length) := by
    rw [List.map_map]
    have hnumbers := (number_perm hl hseats hsub).map (seatNumber seats.length orig)
    rw [List.map_map] at hnumbers
    exact hnumbers.trans (seatNumber_perm horig)
  have hsorted := map_insertionSort_range (fun p : ClientPlayerData => p.number)
    (fun p => some (p.uniqueId, p.startCash)) (fun k => seats[(k + orig) % seats.length]?) hkeys <| by
      intro p hp
      obtain ⟨q, hq, rfl⟩ := List.mem_map.mp hp
      obtain ⟨hlt, hslot⟩ := slot_of_mem hl hseats hsub hq
      change _ = seats[(seatNumber seats.length orig q.number + orig) % seats.length]?
      rw [seatNumber_add horig hlt, hslot]
  apply List.map_injective_iff.mpr (Option.some_injective (Nat × Int))
  rw [List.map_map]
  refine Eq.trans hsorted (List.ext_getElem (by simp) fun k hk hk' => ?_)
  rw [List.getElem_map, List.getElem_map, List.getElem_range, List.getElem_rotate]
  exact List.getElem?_eq_getElem _

end

section

variable {maxPlayers me : Nat} {c : ClientThread} {msg : GameStartRejoinMessage} {cg : ClientGame}

/-- The game that a client starts from the message: its own player comes first. -/
structure Joined (maxPlayers : Nat) (msg : GameStartRejoinMessage) (me : Nat) (cg : ClientGame) : Prop where
  lt : cg.origGuiPlayerNum < msg.rejoinPlayerData.length
  own : (msg.rejoinPlayerData.map Prod.fst)[cg.origGuiPlayerNum]? = some me
  handID : cg.game.currentHandID = msg.handNum
  dealer : cg.game.dealerPosition = msg.startDealerPlayerId
  quantity : cg.game.startQuantityPlayers = msg.rejoinPlayerData.length
  seatsList : cg.table.seatsList = List.range maxPlayers
  active : cg.table.activePlayerList =
    (List.range maxPlayers).filter fun i => msg.rejoinPlayerData.length > i
  player : ∀ i seat, (msg.rejoinPlayerData.rotate cg.origGuiPlayerNum)[i]? = some seat →
    ∃ type guid, cg.table.players i = Player.create seat.1 type guid seat.2 true
  empty : ∀ i, msg.rejoinPlayerData.length ≤ i → (cg.table.players i).myActiveStatus = false

theorem newPlayer_active (startCash : Int) (n : Nat) (players : List PlayerData) (i : Nat) :
    (Game.newPlayer startCash n players i).myActiveStatus = decide (n > i) := by
  simp only [Game.newPlayer]
  split <;> rfl

/-- A client whose list holds the seated players alone starts the game of the message. -/
theorem joined_gameStartRejoin (hl : (ids c.playerDataList).Nodup) (hseats : (msg.rejoinPlayerData.map Prod.fst).Nodup)
    (hsub : ids c.playerDataList ⊆ msg.rejoinPlayerData.map Prod.fst)
    (hme : c.guiPlayerId ∈ msg.rejoinPlayerData.map Prod.fst)
    (hdealer : msg.startDealerPlayerId ∈ msg.rejoinPlayerData.map Prod.fst)
    (hcash : ∀ seat ∈ msg.rejoinPlayerData, 0 ≤ seat.2) :
    ∃ cg, gameStartRejoin maxPlayers c msg = some cg ∧ Joined maxPlayers msg c.guiPlayerId cg := by
  have hne : msg.rejoinPlayerData ≠ [] := by
    intro hnil
    rw [hnil] at hme
    cases hme
  have hids := ids_perm hl hseats hsub
  obtain ⟨guiPlayer, hgui, hguiId⟩ := List.mem_map.mp (hids.mem_iff.mpr hme)
  obtain ⟨own, hown⟩ : ∃ own, ((setSlots 0 msg.rejoinPlayerData c.playerDataList).find? fun p =>
      p.uniqueId == c.guiPlayerId) = some own := by
    apply Option.isSome_iff_exists.mp
    rw [List.find?_isSome]
    exact ⟨guiPlayer, hgui, beq_iff_eq.mpr hguiId⟩
  have hownId : own.uniqueId = c.guiPlayerId := beq_iff_eq.mp (List.find?_some hown :)
  obtain ⟨horig, hslot⟩ := slot_of_mem hl hseats hsub (List.mem_of_find?_eq_some hown)
  have hrotate := mapPlayerDataList_rotate hl hseats hsub horig
  have hlength := congrArg List.length hrotate
  rw [List.length_map, List.length_rotate] at hlength
  have hfound : ((mapPlayerDataList msg.rejoinPlayerData.length own.number
      (setSlots 0 msg.rejoinPlayerData c.playerDataList)).map ClientPlayerData.toPlayerData).any
        (fun d => d.uniqueId == msg.startDealerPlayerId) = true := by
    rw [List.any_map, List.any_eq_true]
    have hrotated : msg.startDealerPlayerId ∈ (msg.rejoinPlayerData.rotate own.number).map Prod.fst := by
      rw [List.map_rotate]
      exact List.mem_rotate.mpr hdealer
    rw [← hrotate, List.map_map] at hrotated
    obtain ⟨p, hp, hid⟩ := List.mem_map.mp hrotated
    exact ⟨p, hp, beq_iff_eq.mpr hid⟩
  simp only [gameStartRejoin, if_neg hne, hown, Game.create, hfound, if_true, hlength]
  refine ⟨_, rfl, ⟨horig, ?_, rfl, rfl, rfl, rfl, rfl, ?_, ?_⟩⟩
  · rw [List.getElem?_map, hslot, ← hownId]
    rfl
  · intro i seat hseat
    have hmem := List.mem_rotate.mp (List.mem_of_getElem? hseat)
    have hlt := (List.getElem?_eq_some_iff.mp hseat).1
    rw [List.length_rotate] at hlt
    rw [← hrotate, List.getElem?_map] at hseat
    obtain ⟨p, hp, rfl⟩ := Option.map_eq_some_iff.mp hseat
    have hpos := hcash _ hmem
    refine ⟨p.type, p.guid, ?_⟩
    simp only [Game.newPlayer, List.getElem?_map, hp, Option.map_some]
    rw [if_pos hpos, decide_eq_true hlt]
  · intro i hi
    dsimp only
    rw [newPlayer_active, decide_eq_false (Nat.not_lt.mpr hi)]

end

end RejoinTable

end PokerTH
