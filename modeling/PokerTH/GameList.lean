import PokerTH.GameMap

namespace PokerTH.GameList

inductive GameMode
  | created | started | closed
  deriving DecidableEq, Repr

structure OpenGame extends LobbyGame where
  adminPlayerId : Nat
  isRunning : Bool
  playerIdList : List Nat
  deriving DecidableEq, Repr

structure GameListNewMessage where
  gameId : Nat
  adminPlayerId : Nat
  gameMode : GameMode
  gameInfo : NetGameInfo
  gameName : List UInt8
  isPrivate : Bool
  playerIds : List Nat
  deriving DecidableEq, Repr

inductive ListMsg
  | new (m : GameListNewMessage)
  | update (gameId : Nat) (gameMode : GameMode)
  | playerJoined (gameId playerId : Nat)
  | playerLeft (gameId playerId : Nat)
  | adminChanged (gameId newAdminPlayerId : Nat)
  deriving DecidableEq, Repr

def createNetPacketGameListNew (g : OpenGame) : ListMsg :=
  .new ⟨g.id, g.adminPlayerId, if g.isRunning then .started else .created, NetPacket.setGameData g.gameData, g.name,
    g.password != "", g.playerIdList⟩

structure GameInfo where
  players : List Nat
  adminPlayerId : Nat
  isPasswordProtected : Bool
  mode : GameMode
  name : List UInt8
  data : GameSettings
  deriving DecidableEq, Repr

abbrev GameInfoMap := List (Nat × GameInfo)

section

variable (m : GameInfoMap) (gameId : Nat)

/-- An insertion leaves a game with the same id alone. -/
def addGameInfo (info : GameInfo) : GameInfoMap :=
  if m.any fun e => e.1 == gameId then m else m ++ [(gameId, info)]

def modifyGameInfo (f : GameInfo → GameInfo) : GameInfoMap :=
  m.map fun e => if e.1 = gameId then (e.1, f e.2) else e

def updateGameInfoMode (mode : GameMode) : GameInfoMap := modifyGameInfo m gameId fun info => { info with mode }

def updateGameInfoAdmin (adminPlayerId : Nat) : GameInfoMap :=
  modifyGameInfo m gameId fun info => { info with adminPlayerId }

def modifyGameInfoAddPlayer (playerId : Nat) : GameInfoMap :=
  modifyGameInfo m gameId fun info => { info with players := info.players ++ [playerId] }

def modifyGameInfoRemovePlayer (playerId : Nat) : GameInfoMap :=
  modifyGameInfo m gameId fun info => { info with players := info.players.filter fun p => p != playerId }

def removeGameInfo : GameInfoMap := m.filter fun e => e.1 != gameId

end

def handlePacket (m : GameInfoMap) : ListMsg → GameInfoMap
  | .new msg => addGameInfo m msg.gameId ⟨msg.playerIds, msg.adminPlayerId, msg.isPrivate, msg.gameMode, msg.gameName,
      NetPacket.getGameData msg.gameInfo GameSettings.new⟩
  | .update gameId gameMode =>
      if gameMode = .closed then removeGameInfo m gameId else updateGameInfoMode m gameId gameMode
  | .playerJoined gameId playerId => modifyGameInfoAddPlayer m gameId playerId
  | .playerLeft gameId playerId => modifyGameInfoRemovePlayer m gameId playerId
  | .adminChanged gameId newAdminPlayerId => updateGameInfoAdmin m gameId newAdminPlayerId

structure Server where
  games : List OpenGame
  curGameId : Nat
  deriving DecidableEq, Repr

namespace Server

variable (s : Server)

def modify (gameId : Nat) (f : OpenGame → OpenGame) : Server :=
  { s with games := s.games.map fun g => if g.id = gameId then f g else g }

/-- What happens to the games. A player comes at any position of the list, which goes by the sessions. -/
inductive Change
  | createGame (name : List UInt8) (password : String) (gameData : GameSettings) (adminPlayerId : Nat)
  | internalRemoveGame (gameId : Nat) (computerPlayers : List Nat)
  | acceptNewSession (gameId playerId position : Nat)
  | removePlayerData (gameId playerId : Nat) (newAdmin : Option Nat)
  | sendStartEvent (gameId : Nat)
  | internalStartGame (gameId : Nat)
  | internalEndGame (gameId : Nat)
  | reopen (gameId : Nat)

/-- The games after a change, and what the lobby is told. Nobody comes to a game that he is in. -/
def change : Change → Option (Server × List ListMsg)
  | .createGame name password gameData adminPlayerId =>
      let g : OpenGame := ⟨⟨s.curGameId + 1, name, password, gameData⟩, adminPlayerId, false, []⟩
      some (⟨s.games ++ [g], s.curGameId + 1⟩, [createNetPacketGameListNew g])
  | .internalRemoveGame gameId computerPlayers =>
      if s.games.any fun g => g.id == gameId then
        some ({ s with games := s.games.filter fun g => g.id != gameId },
          (computerPlayers.map fun playerId => .playerLeft gameId playerId) ++ [.update gameId .closed])
      else some (s, [])
  | .acceptNewSession gameId playerId position =>
      if ∀ g ∈ s.games, g.id = gameId → playerId ∉ g.playerIdList then
        some (s.modify gameId fun g =>
          { g with playerIdList := g.playerIdList.insertIdx (min position g.playerIdList.length) playerId },
          [.playerJoined gameId playerId])
      else none
  | .removePlayerData gameId playerId newAdmin =>
      some (s.modify gameId fun g =>
        { g with adminPlayerId := newAdmin.getD g.adminPlayerId, playerIdList := g.playerIdList.erase playerId },
        (newAdmin.toList.map fun adminPlayerId => .adminChanged gameId adminPlayerId) ++ [.playerLeft gameId playerId])
  | .sendStartEvent gameId => some (s, [.update gameId .started])
  | .internalStartGame gameId => some (s.modify gameId fun g => { g with isRunning := true }, [])
  | .internalEndGame gameId => some (s.modify gameId fun g => { g with isRunning := false }, [])
  | .reopen gameId => some (s, [.update gameId .created])

end Server

/-- The client shows the game. The mode is left out: a client that comes between the start event of a game and its
start is told that it is still open. -/
structure Shows (g : OpenGame) (e : Nat × GameInfo) : Prop where
  id : e.1 = g.id
  name : e.2.name = g.name
  adminPlayerId : e.2.adminPlayerId = g.adminPlayerId
  isPasswordProtected : e.2.isPasswordProtected = (g.password != "")
  data : e.2.data = g.gameData.received
  players : e.2.players.Perm g.playerIdList

def Mirrors (games : List OpenGame) (m : GameInfoMap) : Prop := List.Forall₂ Shows games m

structure Apart (s : Server) : Prop where
  ids : (s.games.map (·.id)).Nodup
  bounded : ∀ g ∈ s.games, g.id ≤ s.curGameId
  players : ∀ g ∈ s.games, g.playerIdList.Nodup

variable {s s' : Server} {games : List OpenGame} {m : GameInfoMap} {gameId : Nat} {g : OpenGame} {msgs : List ListMsg}

theorem Mirrors.exists_game (h : Mirrors games m) {e : Nat × GameInfo} (he : e ∈ m) : ∃ g ∈ games, e.1 = g.id := by
  induction h with
  | nil => cases he
  | cons hshows _ ih =>
      rcases List.mem_cons.mp he with rfl | he
      · exact ⟨_, List.mem_cons_self .., hshows.id⟩
      · obtain ⟨g, hg, hid⟩ := ih he
        exact ⟨g, List.mem_cons_of_mem _ hg, hid⟩

theorem Mirrors.new (h : Mirrors games m) (hfresh : ∀ g' ∈ games, g'.id ≠ g.id) :
    Mirrors (games ++ [g]) (handlePacket m (createNetPacketGameListNew g)) := by
  have hnone : ¬ m.any (fun e => e.1 == g.id) = true := by
    rw [List.any_eq_true]
    rintro ⟨e, he, hid⟩
    obtain ⟨g', hg', hid'⟩ := h.exists_game he
    exact hfresh g' hg' (hid'.symm.trans (beq_iff_eq.mp hid))
  simp only [handlePacket, createNetPacketGameListNew, addGameInfo, if_neg hnone]
  refine List.rel_append h (.cons ?_ .nil)
  exact ⟨rfl, rfl, rfl, rfl, rfl, List.Perm.refl _⟩

theorem Mirrors.list {rest : List OpenGame} (h : Mirrors games m) (hids : ((games ++ rest).map (·.id)).Nodup) :
    Mirrors (games ++ rest) ((rest.map createNetPacketGameListNew).foldl handlePacket m) := by
  induction rest generalizing games m with
  | nil => rwa [List.append_nil]
  | cons g rest ih =>
      have hfresh (g' : OpenGame) (hg' : g' ∈ games) : g'.id ≠ g.id := by
        rw [List.map_append, List.nodup_append] at hids
        exact hids.2.2 _ (List.mem_map_of_mem hg') _ (List.mem_map_of_mem (List.mem_cons_self ..))
      rw [List.append_cons] at hids ⊢
      exact ih (h.new hfresh) hids

theorem Mirrors.modify (h : Mirrors games m) {f : OpenGame → OpenGame} {k : GameInfo → GameInfo}
    (hshows : ∀ g ∈ games, ∀ e, g.id = gameId → Shows g e → Shows (f g) (e.1, k e.2)) :
    Mirrors (games.map fun g => if g.id = gameId then f g else g) (modifyGameInfo m gameId k) := by
  induction h with
  | nil => exact .nil
  | @cons g e games m hfirst _ ih =>
      refine .cons ?_ (ih fun g' hg' => hshows g' (List.mem_cons_of_mem _ hg'))
      by_cases hid : g.id = gameId
      · simp only [if_pos hid, if_pos (hfirst.id.trans hid)]
        exact hshows g (List.mem_cons_self ..) e hid hfirst
      · have hid' : ¬ e.1 = gameId := fun heq => hid (hfirst.id ▸ heq)
        simp only [if_neg hid, if_neg hid']
        exact hfirst

theorem Mirrors.remove (h : Mirrors games m) (gameId : Nat) :
    Mirrors (games.filter fun g => g.id != gameId) (removeGameInfo m gameId) := by
  induction h with
  | nil => exact .nil
  | @cons g e games m hfirst _ ih =>
      rw [removeGameInfo, List.filter_cons, List.filter_cons, hfirst.id]
      split_ifs
      · exact .cons hfirst ih
      · exact ih

theorem removeGameInfo_modifyGameInfo (m : GameInfoMap) (gameId : Nat) (k : GameInfo → GameInfo) :
    removeGameInfo (modifyGameInfo m gameId k) gameId = removeGameInfo m gameId := by
  induction m with
  | nil => rfl
  | cons e m ih =>
      simp only [removeGameInfo, modifyGameInfo] at ih ⊢
      by_cases hid : e.1 = gameId <;> simpa [hid] using ih

/-- Players who leave a game before its end do not change what is left without it. -/
theorem removeGameInfo_left (players : List Nat) :
    removeGameInfo ((players.map fun playerId => ListMsg.playerLeft gameId playerId).foldl handlePacket m) gameId =
      removeGameInfo m gameId := by
  induction players generalizing m with
  | nil => rfl
  | cons playerId players ih =>
      rw [List.map_cons, List.foldl_cons, ih, handlePacket, modifyGameInfoRemovePlayer]
      exact removeGameInfo_modifyGameInfo m gameId _

theorem Mirrors.mode (h : Mirrors games m) {mode : GameMode} : Mirrors games (updateGameInfoMode m gameId mode) := by
  have hmodify : Mirrors (games.map fun g => if g.id = gameId then g else g) (updateGameInfoMode m gameId mode) := by
    refine h.modify fun g _ e _ hshows => ?_
    exact ⟨hshows.id, hshows.name, hshows.adminPlayerId, hshows.isPasswordProtected, hshows.data, hshows.players⟩
  simpa using hmodify

theorem Mirrors.untold (h : Mirrors games m) {f : OpenGame → OpenGame} (hshows : ∀ g e, Shows g e → Shows (f g) e) :
    Mirrors (games.map fun g => if g.id = gameId then f g else g) m := by
  have hmodify : Mirrors (games.map fun g => if g.id = gameId then f g else g)
      (modifyGameInfo m gameId fun info => info) := h.modify fun g _ e _ => hshows g e
  have hsame : modifyGameInfo m gameId (fun info => info) = m := by simp [modifyGameInfo]
  rwa [hsame] at hmodify

theorem Apart.modify (h : Apart s) {f : OpenGame → OpenGame} (hid : ∀ g, (f g).id = g.id)
    (hplayers : ∀ g ∈ s.games, g.id = gameId → (f g).playerIdList.Nodup) : Apart (s.modify gameId f) := by
  have hsame (g : OpenGame) : (if g.id = gameId then f g else g).id = g.id := by
    split_ifs
    · exact hid g
    · rfl
  refine ⟨?_, ?_, ?_⟩
  · have hids : (s.modify gameId f).games.map (·.id) = s.games.map (·.id) := by
      simp only [Server.modify, List.map_map]
      exact List.map_congr_left fun g _ => hsame g
    rw [hids]
    exact h.ids
  · intro g hg
    obtain ⟨g', hg', rfl⟩ := List.mem_map.mp hg
    rw [hsame]
    exact h.bounded g' hg'
  · intro g hg
    obtain ⟨g', hg', rfl⟩ := List.mem_map.mp hg
    split_ifs with heq
    · exact hplayers g' hg' heq
    · exact h.players g' hg'

theorem players_joined {position playerId : Nat} : (g.playerIdList.insertIdx (min position g.playerIdList.length)
    playerId).Perm (playerId :: g.playerIdList) :=
  List.perm_insertIdx _ _ (Nat.min_le_right ..)

/-- What the lobby is told of a change is enough: a client that has the games has them after the messages. -/
theorem Server.change_mirrors {c : Server.Change} (h : Apart s) (hchange : s.change c = some (s', msgs)) :
    Apart s' ∧ ∀ m, Mirrors s.games m → Mirrors s'.games (msgs.foldl handlePacket m) := by
  cases c with
  | createGame name password gameData adminPlayerId =>
      cases hchange
      have hfresh (g : OpenGame) (hg : g ∈ s.games) : g.id ≠ s.curGameId + 1 := by
        have hle := h.bounded g hg
        omega
      refine ⟨⟨?_, ?_, ?_⟩, fun m hm => hm.new hfresh⟩
      · rw [List.map_append, List.nodup_append]
        refine ⟨h.ids, by simp, ?_⟩
        intro id hid id' hid'
        obtain ⟨g, hg, rfl⟩ := List.mem_map.mp hid
        rw [List.map_singleton, List.mem_singleton] at hid'
        rw [hid']
        exact hfresh g hg
      · intro g hg
        rcases List.mem_append.mp hg with hg | hg
        · exact Nat.le_succ_of_le (h.bounded g hg)
        · rw [List.mem_singleton.mp hg]
      · intro g hg
        rcases List.mem_append.mp hg with hg | hg
        · exact h.players g hg
        · rw [List.mem_singleton.mp hg]
          exact List.nodup_nil
  | internalRemoveGame gameId computerPlayers =>
      simp only [change] at hchange
      split_ifs at hchange
      · cases hchange
        have hsub : (s.games.filter fun g => g.id != gameId).Sublist s.games := List.filter_sublist
        refine ⟨⟨h.ids.sublist (hsub.map _), fun g hg => h.bounded g (hsub.subset hg),
          fun g hg => h.players g (hsub.subset hg)⟩, fun m hm => ?_⟩
        rw [List.foldl_append]
        simp only [List.foldl_cons, List.foldl_nil, handlePacket, if_true]
        rw [removeGameInfo_left]
        exact hm.remove gameId
      · cases hchange
        exact ⟨h, fun m hm => hm⟩
  | acceptNewSession gameId playerId position =>
      simp only [change] at hchange
      split_ifs at hchange with hfree
      cases hchange
      refine ⟨h.modify (fun _ => rfl) fun g hg hid => ?_, fun m hm => ?_⟩
      · exact players_joined.nodup_iff.mpr (List.nodup_cons.mpr ⟨hfree g hg hid, h.players g hg⟩)
      · change Mirrors _ (modifyGameInfo m gameId fun info => { info with players := info.players ++ [playerId] })
        refine hm.modify fun g _ e _ hshows => ?_
        refine ⟨hshows.id, hshows.name, hshows.adminPlayerId, hshows.isPasswordProtected, hshows.data, ?_⟩
        exact (List.perm_append_singleton ..).trans ((hshows.players.cons playerId).trans players_joined.symm)
  | removePlayerData gameId playerId newAdmin =>
      cases hchange
      refine ⟨h.modify (fun _ => rfl) fun g hg _ => (h.players g hg).erase playerId, fun m hm => ?_⟩
      have hleft (g : OpenGame) (hg : g ∈ s.games) (e : Nat × GameInfo) (hshows : Shows g e) :
          (e.2.players.filter fun p => p != playerId).Perm (g.playerIdList.erase playerId) := by
        rw [(h.players g hg).erase_eq_filter]
        exact hshows.players.filter _
      cases newAdmin with
      | none =>
          change Mirrors _ (modifyGameInfo m gameId fun info =>
            { info with players := info.players.filter fun p => p != playerId })
          refine hm.modify fun g hg e _ hshows => ?_
          exact ⟨hshows.id, hshows.name, hshows.adminPlayerId, hshows.isPasswordProtected, hshows.data,
            hleft g hg e hshows⟩
      | some adminPlayerId =>
          have hboth : ([ListMsg.adminChanged gameId adminPlayerId, .playerLeft gameId playerId].foldl handlePacket m) =
              modifyGameInfo m gameId fun info =>
                { info with adminPlayerId, players := info.players.filter fun p => p != playerId } := by
            simp only [List.foldl_cons, List.foldl_nil, handlePacket, updateGameInfoAdmin,
              modifyGameInfoRemovePlayer, modifyGameInfo, List.map_map]
            refine List.map_congr_left fun e _ => ?_
            by_cases hid : e.1 = gameId <;> simp [hid]
          change Mirrors _
            ([ListMsg.adminChanged gameId adminPlayerId, .playerLeft gameId playerId].foldl handlePacket m)
          rw [hboth]
          refine hm.modify fun g hg e _ hshows => ?_
          exact ⟨hshows.id, hshows.name, rfl, hshows.isPasswordProtected, hshows.data, hleft g hg e hshows⟩
  | sendStartEvent gameId =>
      cases hchange
      exact ⟨h, fun m hm => hm.mode⟩
  | reopen gameId =>
      cases hchange
      exact ⟨h, fun m hm => hm.mode⟩
  | internalStartGame gameId | internalEndGame gameId =>
      cases hchange
      refine ⟨h.modify (fun _ => rfl) fun g hg _ => h.players g hg, fun m hm => hm.untold fun g e hshows => ?_⟩
      exact ⟨hshows.id, hshows.name, hshows.adminPlayerId, hshows.isPasswordProtected, hshows.data, hshows.players⟩

end PokerTH.GameList
