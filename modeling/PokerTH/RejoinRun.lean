import PokerTH.ClientSchedule

namespace PokerTH

structure Rejoin where
  seat : Ref
  newPlayerId : Nat
  guid : String
  deriving DecidableEq, Repr

namespace RejoinTable

open HandRun Hand HandServer

def performRejoin (s : Game × Table) (j : Rejoin) : Game × Table :=
  (s.1.replaceDealer (s.2.uniqueID j.seat) j.newPlayerId,
    { s.2 with players := updatePlayer s.2.players j.seat fun p =>
        { p with myUniqueID := j.newPlayerId, myGuid := j.guid, isSessionActive := true } })

def playerIdChanged (cg : ClientGame) (oldPlayerId newPlayerId : Nat) : Option ClientGame :=
  match findPlayer cg.table.players cg.table.seatsList oldPlayerId with
  | none => none
  | some r => some { cg with
      game := cg.game.replaceDealer oldPlayerId newPlayerId
      table := { cg.table with players := updatePlayer cg.table.players r fun p => { p with myUniqueID := newPlayerId } } }

def idsChanged : Game × Table → List Rejoin → ClientGame → Option ClientGame
  | _, [], cg => some cg
  | s, j :: later, cg =>
      (playerIdChanged cg (s.2.uniqueID j.seat) j.newPlayerId).bind (idsChanged (performRejoin s j) later)

/-- A player comes back to a taken seat, and the lobby has given him an id of his own. -/
structure Returns (n : Nat) (s : Game × Table) (j : Rejoin) : Prop where
  taken : j.seat ∈ s.2.seatsList.take n
  fresh : ∀ q ∈ s.2.seatsList, s.2.uniqueID q ≠ j.newPlayerId

def AllReturn (n : Nat) : Game × Table → List Rejoin → Prop
  | _, [] => True
  | s, j :: later => Returns n s j ∧ AllReturn n (performRejoin s j) later

/-- The list of a client that is told of the game: its own player is seated, and nobody is listed twice. -/
structure Listed (n : Nat) (t : Table) (c : ClientThread) : Prop where
  nodup : (ids c.playerDataList).Nodup
  own : c.guiPlayerId ∈ (t.seatsList.take n).map t.uniqueID

def AllSeated (n : Nat) (t : Table) (c : ClientThread) : Prop :=
  ids c.playerDataList ⊆ (t.seatsList.take n).map t.uniqueID

/-- What becomes of a client that is told of the game, then of the later returns, and then of the hand `h`. -/
def rejoined (maxPlayers n : Nat) (c : ClientThread) (s : Game × Table) (later : List Rejoin) (clock : Int) (h : Hand) :
    Option (ClientGame × Game × Client) :=
  (gameStartRejoin maxPlayers c (sendGameData s.1 s.2 n)).bind fun cg =>
    (idsChanged s later cg).bind fun cg' =>
      (handStart clock cg' (createNetPacketHandStart h n)).map fun (game, client) => (cg', game, client)

/-- How a client gets into the game: it is there when the game starts, or is told of the game when it comes back to a
seat of its own and everybody on its list has one. -/
inductive Begins (maxPlayers n : Nat) (d : GameData) : Int → ClientGame → Prop
  | initial {cg : ClientGame} {playerDataList : List PlayerData} {dealer : Nat}
      (hrun : Game.create maxPlayers playerDataList d ⟨dealer, n⟩ = .ok (cg.game, cg.table)) : Begins maxPlayers n d 0 cg
  | rejoin {c : ClientThread} {g : Game} {t : Table} {cg : ClientGame} (hdata : c.gameData = d)
      (hready : Ready maxPlayers t) (htaken : Taken n g t) (hl : Listed n t c) (hseated : AllSeated n t c)
      (hrun : gameStartRejoin maxPlayers c (sendGameData g t n) = some cg) : Begins maxPlayers n d g.currentHandID cg

/-- The game of a client after the hands that have started when its clock showed `clocks`, whatever they have left on its
table. -/
inductive ClientHands (cg₀ : ClientGame) : List Int → ClientGame → Prop
  | start : ClientHands cg₀ [] cg₀
  | changed {clocks : List Int} {cg cg' : ClientGame} {oldPlayerId newPlayerId : Nat} (hhands : ClientHands cg₀ clocks cg)
      (hrun : playerIdChanged cg oldPlayerId newPlayerId = some cg') : ClientHands cg₀ clocks cg'
  | hand {clocks : List Int} {cg : ClientGame} {clock : Int} {msg : HandStartMessage} {game : Game} {client : Client}
      {table : Table} (hhands : ClientHands cg₀ clocks cg) (hrun : handStart clock cg msg = some (game, client)) :
      ClientHands cg₀ (clocks ++ [clock]) { cg with game := game, table := table }

section

variable {maxPlayers n me : Nat} {s : Game × Table} {j : Rejoin} {cg : ClientGame} {r q : Ref}

theorem performRejoin_self (s : Game × Table) (j : Rejoin) : (performRejoin s j).2.uniqueID j.seat = j.newPlayerId := by
  simp only [performRejoin, Table.uniqueID, updatePlayer, Function.update_self]

theorem performRejoin_of_ne (s : Game × Table) (hne : r ≠ j.seat) :
    (performRejoin s j).2.uniqueID r = s.2.uniqueID r := by
  simp only [performRejoin, Table.uniqueID, updatePlayer, Function.update_of_ne hne]

theorem performRejoin_player (s : Game × Table) (j : Rejoin) (r : Ref) :
    ((performRejoin s j).2.players r).myActiveStatus = (s.2.players r).myActiveStatus ∧
      ((performRejoin s j).2.players r).myCash = (s.2.players r).myCash ∧
        ((performRejoin s j).2.players r).mySet = (s.2.players r).mySet := by
  simp only [performRejoin, updatePlayer]
  by_cases hr : r = j.seat
  · subst hr
    rw [Function.update_self]
    exact ⟨rfl, rfl, rfl⟩
  · rw [Function.update_of_ne hr]
    exact ⟨rfl, rfl, rfl⟩

/-- The new id is nobody else's, so two seats have the same id only if they had before. -/
theorem uniqueID_performRejoin (hfresh : ∀ q ∈ s.2.seatsList, s.2.uniqueID q ≠ j.newPlayerId) (hr : r ∈ s.2.seatsList)
    (hq : q ∈ s.2.seatsList) (heq : (performRejoin s j).2.uniqueID r = (performRejoin s j).2.uniqueID q) :
    r = q ∨ s.2.uniqueID r = s.2.uniqueID q := by
  by_cases hrj : r = j.seat
  · by_cases hqj : q = j.seat
    · exact .inl (hrj.trans hqj.symm)
    · rw [hrj, performRejoin_self, performRejoin_of_ne s hqj] at heq
      exact absurd heq.symm (hfresh q hq)
  · by_cases hqj : q = j.seat
    · rw [hqj, performRejoin_self, performRejoin_of_ne s hrj] at heq
      exact absurd heq (hfresh r hr)
    · rw [performRejoin_of_ne s hrj, performRejoin_of_ne s hqj] at heq
      exact .inr heq

theorem ready_performRejoin (hr : Ready maxPlayers s.2) (hb : Returns n s j) : Ready maxPlayers (performRejoin s j).2 := by
  obtain ⟨hids, hseats, hactive, hcash, hset, hpot⟩ := hr
  refine ⟨⟨hids.nodup, fun r hr hstatus q hq heq => ?_⟩, hseats, ?_, fun r hr => ?_, fun r hr => ?_, hpot⟩
  · rw [(performRejoin_player s j r).1] at hstatus
    rcases uniqueID_performRejoin hb.fresh hq hr heq with hsame | hsame
    · exact hsame
    · exact hids.eq_of_id r hr hstatus q hq hsame
  · simp only [performRejoin_player s j]
    exact hactive
  · rw [(performRejoin_player s j r).2.1]
    exact hcash r hr
  · rw [(performRejoin_player s j r).2.2]
    exact hset r hr

theorem taken_performRejoin (hk : Taken n s.1 s.2) (hb : Returns n s j) :
    Taken n (performRejoin s j).1 (performRejoin s j).2 := by
  obtain ⟨hle, hids, hactive, hdealer, hbroke⟩ := hk
  refine ⟨hle, ?_, hactive, ?_, fun r hr hstatus => ?_⟩
  · apply List.Nodup.map_on _ (List.Nodup.of_map _ hids)
    intro r hr q hq heq
    rcases uniqueID_performRejoin hb.fresh (List.mem_of_mem_take hr) (List.mem_of_mem_take hq) heq with hsame | hsame
    · exact hsame
    · exact List.inj_on_of_nodup_map hids hr hq hsame
  · simp only [performRejoin, Game.replaceDealer]
    split_ifs with hold
    · exact List.mem_map.mpr ⟨j.seat, hb.taken, performRejoin_self s j⟩
    · obtain ⟨r, hr, hid⟩ := List.mem_map.mp hdealer
      have hne : r ≠ j.seat := by
        rintro rfl
        exact hold hid.symm
      exact List.mem_map.mpr ⟨r, hr, (performRejoin_of_ne s hne).trans hid⟩
  · rw [(performRejoin_player s j r).1] at hstatus
    rw [(performRejoin_player s j r).2.1]
    exact hbroke r hr hstatus

theorem Joined.seat (hj : Joined maxPlayers (sendGameData s.1 s.2 n) me cg) {i : Nat}
    (hr : ((s.2.seatsList.take n).rotate cg.origGuiPlayerNum)[i]? = some r) :
    ∃ type guid, cg.table.players i = Player.create (s.2.uniqueID r) type guid (s.2.players r).myCash true := by
  apply hj.player i (s.2.uniqueID r, (s.2.players r).myCash)
  rw [sendGameData, ← List.map_rotate, List.getElem?_map, hr]
  rfl

theorem length_taken (hk : Taken n s.1 s.2) : (s.2.seatsList.take n).length = n := by
  rw [List.length_take]
  exact Nat.min_eq_left hk.le

theorem length_data (hk : Taken n s.1 s.2) : (sendGameData s.1 s.2 n).rejoinPlayerData.length = n := by
  rw [sendGameData, List.length_map, length_taken hk]

/-- The client finds a player by his id on the seat that the rotation gives him: the id is on no seat before. -/
theorem Joined.finds (hk : Taken n s.1 s.2) (hmax : n ≤ maxPlayers) (hr : r ∈ s.2.seatsList.take n)
    (hj : Joined maxPlayers (sendGameData s.1 s.2 n) me cg) :
    ∃ i, findPlayer cg.table.players cg.table.seatsList (s.2.uniqueID r) = some i ∧
      ((s.2.seatsList.take n).rotate cg.origGuiPlayerNum)[i]? = some r := by
  obtain ⟨i, hi⟩ := List.mem_iff_getElem?.mp (List.mem_rotate.mpr hr)
  have hlt := (List.getElem?_eq_some_iff.mp hi).1
  rw [List.length_rotate, length_taken hk] at hlt
  obtain ⟨_, _, hplayer⟩ := hj.seat hi
  obtain ⟨q, hq⟩ : ∃ q, findPlayer cg.table.players cg.table.seatsList (s.2.uniqueID r) = some q := by
    refine findPlayer_isSome ⟨i, hj.seatsList ▸ List.mem_range.mpr (hlt.trans_le hmax), ?_⟩
    rw [hplayer]
    rfl
  refine ⟨q, hq, ?_⟩
  have hid := (findPlayer_some hq).2
  rw [hj.seatsList, findPlayer, List.find?_range_eq_some] at hq
  have hle : q ≤ i := by
    by_contra hgt
    have hno := hq.2.2 i (Nat.not_le.mp hgt)
    rw [hplayer] at hno
    simp [Player.create] at hno
  have hqlt : q < ((s.2.seatsList.take n).rotate cg.origGuiPlayerNum).length := by
    rw [List.length_rotate, length_taken hk]
    exact hle.trans_lt hlt
  obtain ⟨_, _, hseat⟩ := hj.seat (List.getElem?_eq_getElem hqlt)
  rw [hseat] at hid
  have hmem := List.mem_rotate.mp (List.getElem_mem hqlt)
  rw [List.getElem?_eq_getElem hqlt, List.inj_on_of_nodup_map hk.ids hmem hr hid]

/-- On the renamed seat is the player with his new id, and on the other seats nothing changes. -/
theorem Joined.seat_renamed {i k : Nat} (hk : Taken n s.1 s.2) (hj : Joined maxPlayers (sendGameData s.1 s.2 n) me cg)
    (hi : ((s.2.seatsList.take n).rotate cg.origGuiPlayerNum)[i]? = some j.seat)
    (hr : ((s.2.seatsList.take n).rotate cg.origGuiPlayerNum)[k]? = some r) :
    ∃ type guid, updatePlayer cg.table.players i (fun p => { p with myUniqueID := j.newPlayerId }) k =
      Player.create ((performRejoin s j).2.uniqueID r) type guid (s.2.players r).myCash true := by
  have hnodup : ((s.2.seatsList.take n).rotate cg.origGuiPlayerNum).Nodup :=
    List.nodup_rotate.mpr (List.Nodup.of_map _ hk.ids)
  obtain ⟨type, guid, hbefore⟩ := hj.seat hr
  refine ⟨type, guid, ?_⟩
  by_cases hki : k = i
  · subst hki
    cases Option.some.inj (hr.symm.trans hi)
    rw [performRejoin_self, updatePlayer, Function.update_self, hbefore]
    rfl
  · have hne : r ≠ j.seat := by
      rintro rfl
      exact hki ((List.getElem?_inj (List.getElem?_eq_some_iff.mp hr).1 hnodup).mp (hr.trans hi.symm))
    rw [performRejoin_of_ne s hne, updatePlayer, Function.update_of_ne hki, hbefore]

/-- A client who has been told of the new id has the game as if the player had come back before. -/
theorem Joined.playerIdChanged (hk : Taken n s.1 s.2) (hmax : n ≤ maxPlayers) (hb : Returns n s j)
    (hother : s.2.uniqueID j.seat ≠ me) (hj : Joined maxPlayers (sendGameData s.1 s.2 n) me cg) :
    ∃ cg', playerIdChanged cg (s.2.uniqueID j.seat) j.newPlayerId = some cg' ∧
      Joined maxPlayers (sendGameData (performRejoin s j).1 (performRejoin s j).2 n) me cg' := by
  obtain ⟨i, hfind, hi⟩ := hj.finds hk hmax hb.taken
  have hlt := (List.getElem?_eq_some_iff.mp hi).1
  rw [List.length_rotate, length_taken hk] at hlt
  have hdata := length_data hk
  have hdata' := length_data (taken_performRejoin hk hb)
  simp only [RejoinTable.playerIdChanged, hfind]
  refine ⟨_, rfl, ⟨?_, ?_, ?_, ?_, ?_, hj.seatsList, ?_, fun k seat hseat => ?_, fun k hk => ?_⟩⟩
  · rw [hdata', ← hdata]
    exact hj.lt
  · have hown := hj.own
    rw [sendGameData, List.map_map, List.getElem?_map] at hown
    obtain ⟨r, hr, hid⟩ := Option.map_eq_some_iff.mp hown
    have hne : r ≠ j.seat := by
      rintro rfl
      exact hother hid
    rw [sendGameData, List.map_map, List.getElem?_map]
    refine Option.map_eq_some_iff.mpr ⟨r, hr, ?_⟩
    exact (performRejoin_of_ne s hne).trans hid
  · have hid := hj.handID
    simp only [sendGameData, performRejoin, Game.replaceDealer] at hid ⊢
    split_ifs <;> exact hid
  · have hdealer := hj.dealer
    simp only [sendGameData] at hdealer
    simp only [sendGameData, performRejoin, Game.replaceDealer, hdealer]
    split_ifs
    · rfl
    · exact hdealer
  · have hquantity := hj.quantity.trans (hdata.trans hdata'.symm)
    simp only [Game.replaceDealer]
    split_ifs <;> exact hquantity
  · rw [hdata', ← hdata]
    exact hj.active
  · rw [sendGameData, ← List.map_rotate, List.getElem?_map] at hseat
    obtain ⟨r, hr, rfl⟩ := Option.map_eq_some_iff.mp hseat
    rw [(performRejoin_player s j r).2.1]
    exact hj.seat_renamed hk hi hr
  · rw [hdata'] at hk
    have hki : k ≠ i := by omega
    dsimp only
    rw [updatePlayer, Function.update_of_ne hki]
    exact hj.empty k (hdata.symm ▸ hk)

theorem Joined.own_mem (hj : Joined maxPlayers (sendGameData s.1 s.2 n) me cg) :
    ∃ r ∈ s.2.seatsList, s.2.uniqueID r = me := by
  obtain ⟨r, hr, hid⟩ := List.mem_map.mp (List.mem_of_getElem? hj.own)
  obtain ⟨q, hq, rfl⟩ := List.mem_map.mp hr
  exact ⟨q, List.mem_of_mem_take hq, hid⟩

theorem ready_later {later : List Rejoin} (hr : Ready maxPlayers s.2) (hk : Taken n s.1 s.2) (hall : AllReturn n s later) :
    Ready maxPlayers (later.foldl performRejoin s).2 ∧
      Taken n (later.foldl performRejoin s).1 (later.foldl performRejoin s).2 := by
  induction later generalizing s with
  | nil => exact ⟨hr, hk⟩
  | cons j later ih => exact ih (ready_performRejoin hr hall.1) (taken_performRejoin hk hall.1) hall.2

theorem Joined.idsChanged {later : List Rejoin} (hmax : n ≤ maxPlayers) (hk : Taken n s.1 s.2) (hall : AllReturn n s later)
    (hother : ∀ j ∈ later, s.2.uniqueID j.seat ≠ me) (hj : Joined maxPlayers (sendGameData s.1 s.2 n) me cg) :
    ∃ cg', idsChanged s later cg = some cg' ∧
      Joined maxPlayers (sendGameData (later.foldl performRejoin s).1 (later.foldl performRejoin s).2 n) me cg' := by
  induction later generalizing s cg with
  | nil => exact ⟨cg, rfl, hj⟩
  | cons j later ih =>
      obtain ⟨hb, hrest⟩ := hall
      obtain ⟨cg', hchanged, hj'⟩ := Joined.playerIdChanged hk hmax hb (hother j List.mem_cons_self) hj
      have hlater : ∀ i ∈ later, (performRejoin s j).2.uniqueID i.seat ≠ me := by
        intro i hi
        by_cases hseat : i.seat = j.seat
        · obtain ⟨r, hr, rfl⟩ := hj.own_mem
          rw [hseat, performRejoin_self]
          exact (hb.fresh r hr).symm
        · rw [performRejoin_of_ne s hseat]
          exact hother i (List.mem_cons_of_mem _ hi)
      obtain ⟨cg'', hrun, hj''⟩ := ih (taken_performRejoin hk hb) hrest hlater hj'
      refine ⟨cg'', ?_, hj''⟩
      rw [RejoinTable.idsChanged, hchanged]
      exact hrun

end

section

variable {maxPlayers n : Nat} {s : Game × Table} {c : ClientThread} {later : List Rejoin} {cg cg' : ClientGame} {g' game : Game}
  {h : Hand} {client : Client} {v : Nat → Nat} {elapsed : Int}

theorem gameStartRejoin_quantity {msg : GameStartRejoinMessage} (hrun : gameStartRejoin maxPlayers c msg = some cg) :
    cg.game.startQuantityPlayers = (setSlots 0 msg.rejoinPlayerData c.playerDataList).length := by
  simp only [gameStartRejoin] at hrun
  split_ifs at hrun
  split at hrun
  · cases hrun
  · split at hrun
    · cases hrun
    · next hcreate =>
        cases hrun
        simp only [Game.create] at hcreate
        split_ifs at hcreate
        cases hcreate
        simp only [mapPlayerDataList, List.length_insertionSort, List.length_map]

theorem idsChanged_quantity (hrun : idsChanged s later cg = some cg') :
    cg'.game.startQuantityPlayers = cg.game.startQuantityPlayers := by
  induction later generalizing s cg with
  | nil =>
      cases hrun
      rfl
  | cons j later ih =>
      obtain ⟨cg₁, hfirst, hrest⟩ := Option.bind_eq_some_iff.mp hrun
      refine (ih hrest).trans ?_
      simp only [playerIdChanged] at hfirst
      split at hfirst
      · cases hfirst
      · cases hfirst
        simp only [Game.replaceDealer]
        split_ifs <;> rfl

theorem handStart_quantity {clock : Int} {msg : HandStartMessage} (hrun : handStart clock cg msg = some (game, client)) :
    game.startQuantityPlayers = cg.game.startQuantityPlayers := by
  obtain ⟨_, _, _, rfl⟩ := handStart_eq hrun
  exact (raiseBlinds_fixed clock _).2.2

theorem handStart_of_rejoined {clock : Int} (hrun : rejoined maxPlayers n c s later clock h = some (cg, game, client)) :
    ∃ cg₀, gameStartRejoin maxPlayers c (sendGameData s.1 s.2 n) = some cg₀ ∧ idsChanged s later cg₀ = some cg ∧
      handStart clock cg (createNetPacketHandStart h n) = some (game, client) := by
  obtain ⟨cg₀, hfirst, hrun⟩ := Option.bind_eq_some_iff.mp hrun
  obtain ⟨cg₁, hlater, hrun⟩ := Option.bind_eq_some_iff.mp hrun
  obtain ⟨⟨game₁, client₁⟩, hstart, heq⟩ := Option.map_eq_some_iff.mp hrun
  cases heq
  exact ⟨cg₀, hfirst, hlater, hstart⟩

/-- A client that lists a player without a seat gets more seats than the server has. -/
theorem allSeated_of_length (hk : Taken n s.1 s.2)
    (hlength : (setSlots 0 (sendGameData s.1 s.2 n).rejoinPlayerData c.playerDataList).length = n) :
    AllSeated n s.2 c := by
  have hseats : (sendGameData s.1 s.2 n).rejoinPlayerData.map Prod.fst = (s.2.seatsList.take n).map s.2.uniqueID :=
    List.map_map
  have hsub : (s.2.seatsList.take n).map s.2.uniqueID ⊆
      ids (setSlots 0 (sendGameData s.1 s.2 n).rejoinPlayerData c.playerDataList) := by
    intro x hx
    rw [mem_ids_setSlots, hseats]
    exact .inr hx
  have hperm := (List.subperm_of_subset hk.ids hsub).perm_of_length_le <| by
    rw [ids, List.length_map, List.length_map, hlength, List.length_take, Nat.min_eq_left hk.le]
  intro x hx
  exact hperm.mem_iff.mpr (mem_ids_setSlots.mpr (.inl hx))

/-- A client gets the table of the server exactly when every player on its list has a seat. -/
theorem sameTable_rejoined_iff (hr : Ready maxPlayers s.2) (hk : Taken n s.1 s.2) (hall : AllReturn n s later)
    (hdeal : (later.foldl performRejoin s).1.initHand v elapsed (later.foldl performRejoin s).2 = .ok (g', h))
    (hl : Listed n s.2 c) (hother : ∀ j ∈ later, s.2.uniqueID j.seat ≠ c.guiPlayerId) (clock : Int) :
    (∃ cg game client, rejoined maxPlayers n c s later clock h = some (cg, game, client) ∧
      SameTable n cg.origGuiPlayerNum c.guiPlayerId g' h game client) ↔ AllSeated n s.2 c := by
  have hseats : (sendGameData s.1 s.2 n).rejoinPlayerData.map Prod.fst = (s.2.seatsList.take n).map s.2.uniqueID :=
    List.map_map
  constructor
  · rintro ⟨cg, game, client, hrun, hsame⟩
    obtain ⟨cg₀, hfirst, hlater, hstart⟩ := handStart_of_rejoined hrun
    apply allSeated_of_length hk
    calc (setSlots 0 (sendGameData s.1 s.2 n).rejoinPlayerData c.playerDataList).length
        = cg₀.game.startQuantityPlayers := (gameStartRejoin_quantity hfirst).symm
      _ = cg.game.startQuantityPlayers := (idsChanged_quantity hlater).symm
      _ = game.startQuantityPlayers := (handStart_quantity hstart).symm
      _ = n := hsame.quantity
  · intro hseated
    obtain ⟨hr', hk'⟩ := ready_later hr hk hall
    obtain ⟨cg₀, hfirst, hj⟩ := @joined_gameStartRejoin maxPlayers c (sendGameData s.1 s.2 n) hl.nodup
      (hseats ▸ hk.ids) (hseats ▸ hseated) (hseats ▸ hl.own) (hseats ▸ hk.dealer) (by
        intro seat hseat
        obtain ⟨r, hmem, rfl⟩ := List.mem_map.mp hseat
        exact hr.cash_nonneg r (List.mem_of_mem_take hmem))
    obtain ⟨cg, hlater, hj'⟩ := hj.idsChanged (hk.le.trans hr.seats) hk hall hother
    obtain ⟨game, client, hstart, hsame⟩ := sameTable_handStart hr' hk' hdeal hj' clock
    refine ⟨cg, game, client, ?_, hsame⟩
    simp only [rejoined, hfirst, Option.bind_some, hlater, hstart, Option.map_some]

theorem gameStartRejoin_created {msg : GameStartRejoinMessage} (hrun : gameStartRejoin maxPlayers c msg = some cg) :
    ∃ list dealer game, Game.create maxPlayers list c.gameData
        ⟨dealer, (setSlots 0 msg.rejoinPlayerData c.playerDataList).length⟩ = .ok (game, cg.table) ∧
      cg.game = { game with currentHandID := msg.handNum } := by
  simp only [gameStartRejoin] at hrun
  split_ifs at hrun
  split at hrun
  · cases hrun
  · split at hrun
    · cases hrun
    · next hcreate =>
        cases hrun
        simp only [mapPlayerDataList, List.length_insertionSort, List.length_map] at hcreate
        exact ⟨_, _, _, hcreate, rfl⟩

theorem Begins.onSchedule {d : GameData} {k : Int} (hb : Begins maxPlayers n d k cg) :
    OnSchedule d n ⟨k, 1, 0, 0⟩ cg.game := by
  cases hb with
  | initial hrun =>
      have hzero : ({ cg.game with currentHandID := 0 } : Game) = cg.game := by
        simp only [Game.create] at hrun
        split_ifs at hrun
        have hgame := congrArg Prod.fst (Except.ok.inj hrun)
        dsimp only at hgame
        rw [← hgame]
      exact hzero ▸ onSchedule_create hrun 0
  | @rejoin c g t _ hdata hready htaken hl hseated hrun =>
      obtain ⟨list, dealer, game, hcreate, hgame⟩ := gameStartRejoin_created hrun
      have hseats : (sendGameData g t n).rejoinPlayerData.map Prod.fst = (t.seatsList.take n).map t.uniqueID :=
        List.map_map
      have hlength : (setSlots 0 (sendGameData g t n).rejoinPlayerData c.playerDataList).length = n := by
        have hperm := (ids_perm hl.nodup (hseats ▸ htaken.ids) (hseats ▸ hseated)).length_eq
        rw [hseats, List.length_map, List.length_take, Nat.min_eq_left htaken.le, ids, List.length_map] at hperm
        exact hperm
      rw [hlength, hdata] at hcreate
      rw [hgame]
      exact onSchedule_create hcreate _

theorem OnSchedule.clientHands {d : GameData} {k : Int} {cg₀ : ClientGame} {clocks : List Int}
    (hs : OnSchedule d n ⟨k, 1, 0, 0⟩ cg₀.game) (hhands : ClientHands cg₀ clocks cg) :
    OnSchedule d n (blindCount d k clocks) cg.game := by
  induction hhands with
  | start => exact hs
  | changed _ hrun ih =>
      simp only [playerIdChanged] at hrun
      split at hrun
      · cases hrun
      · cases hrun
        exact ih.replaceDealer _ _
  | hand _ hrun ih =>
      obtain ⟨_, x, _, hgame⟩ := handStart_eq hrun
      rw [blindCount_snoc]
      dsimp only
      rw [hgame]
      exact (ih.raisedGame _).dealer x

theorem OnSchedule.returns {d : GameData} {b : BlindCount} (hs : OnSchedule d n b s.1) :
    OnSchedule d n b (later.foldl performRejoin s).1 := by
  induction later generalizing s with
  | nil => exact hs
  | cons j later ih =>
      have hback : OnSchedule d n b (performRejoin s j).1 := hs.replaceDealer _ _
      exact ih hback

/-- Clients who come back have the table of the server, as long as nobody waits for a seat. Every client has the limits
of the server in a hand if it has raised its blinds as often, counted from the hand number and on the clock with which
it has begun. -/
theorem table_and_limits_known (hr : Ready maxPlayers s.2) (hk : Taken n s.1 s.2) (hall : AllReturn n s later)
    (hdeal : (later.foldl performRejoin s).1.initHand v elapsed (later.foldl performRejoin s).2 = .ok (g', h)) :
    (∀ c clock, Listed n s.2 c → (∀ j ∈ later, s.2.uniqueID j.seat ≠ c.guiPlayerId) →
      ((∃ cg game client, rejoined maxPlayers n c s later clock h = some (cg, game, client) ∧
        SameTable n cg.origGuiPlayerNum c.guiPlayerId g' h game client) ↔ AllSeated n s.2 c)) ∧
    ∀ d list dealer g₀ t₀ times, Game.create maxPlayers list d ⟨dealer, n⟩ = .ok (g₀, t₀) → Hands g₀ times s.1 →
      ∀ k cg₀ clocks cg clock game client hist u, Begins maxPlayers n d k cg₀ → ClientHands cg₀ clocks cg →
        handStart clock cg (createNetPacketHandStart h n) = some (game, client) →
        (blindCount d k (clocks ++ [clock])).raises = (blindCount d 0 (times ++ [elapsed])).raises →
        Runs.History (Sends maxPlayers) (ComputerRun.first ⟨h.skipFirstRunGui.start, .loop⟩) hist u →
        Runs.Each (LimitsKnown client) (opening h.skipFirstRunGui.start ++ hist) := by
  refine ⟨fun c clock hl hother => sameTable_rejoined_iff hr hk hall hdeal hl hother clock, ?_⟩
  intro d list dealer g₀ t₀ times hcreate hhands k cg₀ clocks cg clock game client hist u hbegins hclient hstart hcount
    hhist
  have hready := (ready_later hr hk hall).1
  have hfirst : OnSchedule d n ⟨0, 1, 0, 0⟩ g₀ := (@Begins.initial _ _ _ ⟨g₀, t₀, 0⟩ _ _ hcreate).onSchedule
  have hserver := (@OnSchedule.returns _ _ later _ _ (hfirst.hands hhands)).raisedGame elapsed
  have hown := (hbegins.onSchedule.clientHands hclient).raisedGame clock
  refine limits_handStart hready hdeal hstart ?_ hhist
  calc (raisedGame clock cg.game).currentSmallBlind
      = (raisedTimes d n ((blindCount d k clocks).next d clock).raises).currentSmallBlind := hown.blind
    _ = (raisedTimes d n ((blindCount d 0 times).next d elapsed).raises).currentSmallBlind := by
        rw [← blindCount_snoc, hcount, blindCount_snoc]
    _ = h.smallBlind := by
        rw [(initHand_spec hready hdeal).2]
        exact hserver.blind.symm

end

def everyHand : Game :=
  { twoPlayersGame with gameData := { twoPlayersGame.gameData with raiseSmallBlindEveryHandsValue := 1 } }

theorem create_everyHand : ∃ list t, Game.create 2 list everyHand.gameData ⟨1, 2⟩ = .ok (everyHand, t) :=
  ⟨[⟨1, .human, "", -1⟩, ⟨2, .human, "", -1⟩], _, rfl⟩

def afterHands : Nat → Option Game
  | 0 => some everyHand
  | n + 1 => (afterHands n).bind fun g => (g.initHand (fun _ => 0) 0 twoPlayers).toOption.map Prod.fst

theorem ok_of_toOption {ε α : Type} {x : Except ε α} {a : α} (hx : x.toOption = some a) : x = .ok a := by
  cases x with
  | error e => cases hx
  | ok b => exact congrArg Except.ok (Option.some.inj hx)

theorem hands_afterHands {n : Nat} {g : Game} (hafter : afterHands n = some g) :
    Hands everyHand (List.replicate n 0) g := by
  induction n generalizing g with
  | zero =>
      cases hafter
      exact .start
  | succ n ih =>
      obtain ⟨u, hu, hmap⟩ := Option.bind_eq_some_iff.mp hafter
      obtain ⟨⟨g', h⟩, hdeal, rfl⟩ := Option.map_eq_some_iff.mp hmap
      rw [List.replicate_succ']
      exact (ih hu).hand (ok_of_toOption hdeal)

def comesBack (ids : List Nat) : ClientThread where
  guiPlayerId := 2
  gameData := everyHand.gameData
  playerDataList := ids.map fun id => { uniqueId := id, type := .human, guid := "", startCash := 0, number := 0 }

theorem taken_twoPlayers {g : Game} (hdealer : g.dealerPosition ∈ (twoPlayers.seatsList.take 2).map twoPlayers.uniqueID) :
    Taken 2 g twoPlayers :=
  ⟨by decide, by decide, by decide, hdealer, by decide⟩

/-- A hand after `n` others that a computation finds, with the client that has come back and what it makes of the run. -/
theorem exists_rejoined (n : Nat) (later : List Rejoin) (es : List HandServer.Event)
    (check : List Sent → Client → Bool)
    (hplay : ((afterHands n).bind fun g =>
      if g.dealerPosition ∈ (twoPlayers.seatsList.take 2).map twoPlayers.uniqueID then
        ((later.foldl performRejoin (g, twoPlayers)).1.initHand (fun _ => 0) 0
          (later.foldl performRejoin (g, twoPlayers)).2).toOption.bind fun (_, h) =>
        (rejoined 2 2 (comesBack [1, 2]) (g, twoPlayers) later 0 h).bind fun (_, _, client) =>
          (play 2 (ComputerRun.first ⟨h.skipFirstRunGui.start, .loop⟩) es).bind fun (_, rest) =>
            (client.handlePackets ((opening h.skipFirstRunGui.start ++ rest).map Sent.msg)).toOption.map fun d =>
              check (opening h.skipFirstRunGui.start ++ rest) d
      else none) = some true) :
    ∃ g g' h cg game client hist u d, Hands everyHand (List.replicate n 0) g ∧ Taken 2 g twoPlayers ∧
      (later.foldl performRejoin (g, twoPlayers)).1.initHand (fun _ => 0) 0
        (later.foldl performRejoin (g, twoPlayers)).2 = .ok (g', h) ∧
      rejoined 2 2 (comesBack [1, 2]) (g, twoPlayers) later 0 h = some (cg, game, client) ∧
      Runs.History (Sends 2) (ComputerRun.first ⟨h.skipFirstRunGui.start, .loop⟩) hist u ∧
      client.handlePackets ((opening h.skipFirstRunGui.start ++ hist).map Sent.msg) = .ok d ∧
      check (opening h.skipFirstRunGui.start ++ hist) d = true := by
  obtain ⟨g, hafter, hplay⟩ := Option.bind_eq_some_iff.mp hplay
  split_ifs at hplay with hdealer
  obtain ⟨⟨g', h⟩, hdeal, hplay⟩ := Option.bind_eq_some_iff.mp hplay
  obtain ⟨⟨cg, game, client⟩, hrejoined, hplay⟩ := Option.bind_eq_some_iff.mp hplay
  obtain ⟨⟨u, rest⟩, hrest, hplay⟩ := Option.bind_eq_some_iff.mp hplay
  obtain ⟨d, hd, hcheck⟩ := Option.map_eq_some_iff.mp hplay
  have hrun := play_history (.start : Runs.History (Sends 2) (ComputerRun.first ⟨h.skipFirstRunGui.start, .loop⟩) [] _) hrest
  exact ⟨g, g', h, cg, game, client, rest, u, d, hands_afterHands hafter, taken_twoPlayers hdealer,
    ok_of_toOption hdeal, hrejoined, hrun, ok_of_toOption hd, hcheck⟩

theorem listed_comesBack : Listed 2 twoPlayers (comesBack [1, 2]) ∧ AllSeated 2 twoPlayers (comesBack [1, 2]) := by
  refine ⟨⟨by decide, by decide⟩, fun id hid => ?_⟩
  have hall : ∀ id ∈ [1, 2], id ∈ (twoPlayers.seatsList.take 2).map twoPlayers.uniqueID := by decide
  exact hall id hid

def flopTurn (m : Sent) : Bool :=
  match m.msg with
  | .playersTurn _ gameState => gameState == .flop
  | _ => false

theorem ClientHands.idsChanged {s : Game × Table} {later : List Rejoin} {cgₛ cg₀ cg : ClientGame} {clocks : List Int}
    (hhands : ClientHands cgₛ clocks cg₀) (hrun : idsChanged s later cg₀ = some cg) : ClientHands cgₛ clocks cg := by
  induction later generalizing s cg₀ with
  | nil =>
      cases hrun
      exact hhands
  | cons j later ih =>
      obtain ⟨cg', hchanged, hrest⟩ := Option.bind_eq_some_iff.mp hrun
      exact ih (hhands.changed hchanged) hrest

/-- Both players come back before the second hand, the one with the id 1 as 3, and the blinds are raised. On the flop
the client with the id 2 still has the limits of the server. -/
theorem table_and_limits_known_both : ∃ (g g' : Game) (h : Hand) (cg : ClientGame) (game : Game) (client : Client)
    (hist : List Sent), Hands everyHand [0] g ∧
      rejoined 2 2 (comesBack [1, 2]) (g, twoPlayers) [⟨0, 3, ""⟩] 0 h = some (cg, game, client) ∧
      SameTable 2 cg.origGuiPlayerNum 2 g' h game client ∧
      (opening h.skipFirstRunGui.start ++ hist).getLast?.any flopTurn = true ∧
      Runs.Each (LimitsKnown client) (opening h.skipFirstRunGui.start ++ hist) := by
  obtain ⟨g, g', h, cg, game, client, hist, u, d, hhands, htaken, hdeal, hrejoined, hrun, hd, hcheck⟩ := exists_rejoined 1
    [⟨0, 3, ""⟩] [.loopTimer true, .request 2 ⟨1, 0, .call, 10⟩, .loopTimer true, .request 3 ⟨1, 0, .check, 0⟩,
      .loopTimer true, .loopTimer true] (fun msgs _ => msgs.getLast?.any flopTurn) (by decide +kernel)
  obtain ⟨list, t, hcreate⟩ := create_everyHand
  have htold : ∀ q ∈ twoPlayers.seatsList, twoPlayers.uniqueID q ≠ 3 := by decide
  have hseat : 0 ∈ twoPlayers.seatsList.take 2 := by decide
  have hreturns : AllReturn 2 (g, twoPlayers) [⟨0, 3, ""⟩] := ⟨⟨hseat, htold⟩, trivial⟩
  have hother : ∀ j ∈ [(⟨0, 3, ""⟩ : Rejoin)], twoPlayers.uniqueID j.seat ≠ (comesBack [1, 2]).guiPlayerId := by decide
  have hall := table_and_limits_known ready_twoPlayers htaken hreturns hdeal
  obtain ⟨cg₀, hfirst, hlater, hstart⟩ := handStart_of_rejoined hrejoined
  have hbegins : Begins 2 2 everyHand.gameData g.currentHandID cg₀ :=
    .rejoin rfl ready_twoPlayers htaken listed_comesBack.1 listed_comesBack.2 hfirst
  obtain ⟨cg', game', client', hrun', hsame⟩ :=
    (hall.1 (comesBack [1, 2]) 0 listed_comesBack.1 hother).mpr listed_comesBack.2
  cases Option.some.inj (hrejoined.symm.trans hrun')
  have hid : g.currentHandID = 1 :=
    ((@Begins.initial _ _ _ ⟨everyHand, t, 0⟩ _ _ hcreate).onSchedule.hands hhands).handID
  have hraises : (blindCount everyHand.gameData g.currentHandID ([] ++ [0])).raises =
      (blindCount everyHand.gameData 0 ([0] ++ [0])).raises := by
    rw [hid]
    exact @raises_eq everyHand.gameData [0] [0] [0] rfl (by decide) rfl
  refine ⟨g, g', h, cg, game, client, hist, hhands, hrejoined, hsame, hcheck, ?_⟩
  exact hall.2 everyHand.gameData list 1 everyHand t [0] hcreate hhands g.currentHandID cg₀ [] cg 0 game client hist u
    hbegins (ClientHands.start.idsChanged hlater) hstart hraises hrun

/-- A client that comes back before the third hand starts its schedule anew. On the flop its limits are wrong. -/
theorem limits_lost : ∃ (g g' : Game) (h : Hand) (cg : ClientGame) (game : Game) (client : Client) (hist : List Sent)
    (u : ComputerRun.State), Hands everyHand [0, 0] g ∧ Ready 2 twoPlayers ∧ Taken 2 g twoPlayers ∧
      g.initHand (fun _ => 0) 0 twoPlayers = .ok (g', h) ∧ Listed 2 twoPlayers (comesBack [1, 2]) ∧
      AllSeated 2 twoPlayers (comesBack [1, 2]) ∧
      rejoined 2 2 (comesBack [1, 2]) (g, twoPlayers) [] 0 h = some (cg, game, client) ∧
      Runs.History (Sends 2) (ComputerRun.first ⟨h.skipFirstRunGui.start, .loop⟩) hist u ∧
      ¬ Runs.Each (LimitsKnown client) (opening h.skipFirstRunGui.start ++ hist) := by
  obtain ⟨g, g', h, cg, game, client, hist, u, d, hhands, htaken, hdeal, hrejoined, hrun, hd, hcheck⟩ := exists_rejoined 2
    [] [.loopTimer true, .request 1 ⟨1, 0, .call, 20⟩, .loopTimer true, .request 2 ⟨1, 0, .check, 0⟩, .loopTimer true,
      .loopTimer true]
    (fun msgs d => msgs.getLast?.any fun m => flopTurn m &&
      d.hand.getCurrentBeRo.minimumRaise != m.hand.getCurrentBeRo.minimumRaise) (by decide +kernel)
  refine ⟨g, g', h, cg, game, client, hist, u, hhands, ready_twoPlayers, htaken, hdeal, listed_comesBack.1,
    listed_comesBack.2, hrejoined, hrun, fun hknown => ?_⟩
  obtain ⟨m, hlast, hwrong⟩ := (Option.any_eq_true _ _).mp hcheck
  obtain ⟨before, heq⟩ := List.getLast?_eq_some_iff.mp hlast
  rw [Bool.and_eq_true, flopTurn, bne_iff_ne] at hwrong
  obtain ⟨hturn, hwrong⟩ := hwrong
  split at hturn
  · next id gameState hmsg =>
      rw [heq] at hd
      exact hwrong (hknown before m [] heq id gameState hmsg d hd).2
  · cases hturn

end RejoinTable

end PokerTH
