import PokerTH.GameNames
import PokerTH.GameDataWire
import PokerTH.Runs

namespace PokerTH

structure LobbyGame where
  id : Nat
  name : List UInt8
  password : String
  gameData : GameSettings
  deriving DecidableEq, Repr

structure GameMap where
  gameMap : List LobbyGame
  curGameId : Nat
  numberOfGamesOpen : Nat
  maxGamesOpen : Nat
  totalGamesEverCreated : Nat
  deriving DecidableEq, Repr

structure NewGame where
  gameName : List UInt8
  password : String
  gameInfo : GameSettings

inductive JoinGameFailed
  | badName | nameInUse | invalidSettings | ipBlocked | serverFull
  deriving DecidableEq, Repr

/-- The games that a player may start in a time, by the two numbers of the configuration: how many, and in how many
minutes. Without numbers no player may. -/
def isPlayerAllowedToJoinCreateLimitRank (limitRank : Option (Int × Int)) (now : Int) (lastGames : List Int) : Bool :=
  match limitRank with
  | none => false
  | some (maxGames, periodMinutes) =>
      decide (((lastGames.countP fun ts => decide (now - periodMinutes * 60 < ts) : Nat) : Int) < maxGames)

namespace GameMap

/-- The counters at the start are those of the statistics file. -/
def start (maxGamesOpen totalGamesEverCreated : Nat) : GameMap := ⟨[], 0, 0, maxGamesOpen, totalGamesEverCreated⟩

section

variable (m : GameMap)

def isGameNameInUse (gameName : List UInt8) : Bool := m.gameMap.any fun g => g.name == gameName

def getNextGameId : Option Nat := if 2 ^ 32 - 1 - 100 ≤ m.curGameId then none else some (m.curGameId + 1)

/-- The games after an insertion, which leaves a game with the same id alone. -/
def insert (game : LobbyGame) : List LobbyGame :=
  if m.gameMap.any fun g => g.id == game.id then m.gameMap else m.gameMap ++ [game]

def internalAddGame (game : LobbyGame) : GameMap :=
  { m with
    gameMap := m.insert game
    totalGamesEverCreated := (m.totalGamesEverCreated + 1) % 2 ^ 32
    numberOfGamesOpen := (m.numberOfGamesOpen + 1) % 2 ^ 32
    maxGamesOpen := if m.maxGamesOpen < (m.insert game).length then (m.insert game).length else m.maxGamesOpen }

def internalRemoveGame (gameId : Nat) : GameMap :=
  if m.gameMap.any fun g => g.id == gameId then
    { m with
      gameMap := m.gameMap.eraseP fun g => g.id == gameId
      numberOfGamesOpen := m.numberOfGamesOpen - 1 }
  else m

def handleNetPacketCreateGame (isBadGameName : List UInt8 → Bool) (mode : ServerMode) (limitRank : Option (Int × Int))
    (now : Int) (lastGames : Option (List Int)) (newGame : NewGame) : Except JoinGameFailed GameMap :=
  let gameName := GameName.cleanName newGame.gameName
  if !GameName.validGameName gameName then .error .badName
  else if m.isGameNameInUse gameName then .error .nameInUse
  else if isBadGameName gameName then .error .badName
  else if !ServerGame.checkSettings newGame.gameInfo.gameType newGame.gameInfo.toGameData newGame.password mode then
    .error .invalidSettings
  else
    match lastGames with
    | none => .error .invalidSettings
    | some lastGames =>
        if !isPlayerAllowedToJoinCreateLimitRank limitRank now lastGames && newGame.gameInfo.gameType = .ranking then
          .error .ipBlocked
        else
          match m.getNextGameId with
          | none => .error .serverFull
          | some id =>
              .ok ({ m with curGameId := id }.internalAddGame ⟨id, gameName, newGame.password, newGame.gameInfo⟩)

end

inductive Event
  | createGame (now : Int) (lastGames : Option (List Int)) (newGame : NewGame)
  | removeGame (gameId : Nat)

def fire (isBadGameName : List UInt8 → Bool) (mode : ServerMode) (limitRank : Option (Int × Int)) (m : GameMap) :
    Event → Option GameMap
  | .createGame now lastGames newGame =>
      match m.handleNetPacketCreateGame isBadGameName mode limitRank now lastGames newGame with
      | .ok m' => some m'
      | .error _ => some m
  | .removeGame gameId => some (m.internalRemoveGame gameId)

/-- What the lobby has checked of a game. -/
structure Accepted (isBadGameName : List UInt8 → Bool) (mode : ServerMode) (g : LobbyGame) : Prop where
  name : g.name.length ≤ 64 ∧ ∃ words, GameName.Spelled words g.name
  clean : GameName.cleanName g.name = g.name
  good : isBadGameName g.name = false
  settings : ServerGame.checkSettings g.gameData.gameType g.gameData.toGameData g.password mode = true

structure Sound (isBadGameName : List UInt8 → Bool) (mode : ServerMode) (m : GameMap) : Prop where
  ids : (m.gameMap.map (·.id)).Nodup
  names : (m.gameMap.map (·.name)).Nodup
  accepted : ∀ g ∈ m.gameMap, Accepted isBadGameName mode g
  bounded : ∀ g ∈ m.gameMap, 0 < g.id ∧ g.id ≤ m.curGameId
  few : m.gameMap.length ≤ m.curGameId
  counter : m.curGameId ≤ 2 ^ 32 - 1 - 100
  open_eq : m.numberOfGamesOpen = m.gameMap.length
  open_le : m.gameMap.length ≤ m.maxGamesOpen

variable {isBadGameName : List UInt8 → Bool} {mode : ServerMode} {limitRank : Option (Int × Int)} {m m' : GameMap}
  {g game : LobbyGame} {gameId : Nat}

theorem getNextGameId_eq_some {id : Nat} (h : m.getNextGameId = some id) :
    m.curGameId + 1 ≤ 2 ^ 32 - 1 - 100 ∧ id = m.curGameId + 1 := by
  rw [getNextGameId] at h
  split_ifs at h with hfull
  cases h
  omega

/-- A game that the lobby accepts has the next id, and all the checks behind it. -/
theorem create_eq_ok {now : Int} {lastGames : Option (List Int)} {newGame : NewGame}
    (hcreate : m.handleNetPacketCreateGame isBadGameName mode limitRank now lastGames newGame = .ok m') :
    ∃ game, game.id = m.curGameId + 1 ∧ game.gameData = newGame.gameInfo ∧ m.curGameId + 1 ≤ 2 ^ 32 - 1 - 100 ∧
      Accepted isBadGameName mode game ∧ m.isGameNameInUse game.name = false ∧
      m' = { m with curGameId := m.curGameId + 1 }.internalAddGame game := by
  simp only [handleNetPacketCreateGame] at hcreate
  generalize hnext : m.getNextGameId = next at hcreate
  split_ifs at hcreate with hvalid hused hbad hsettings
  cases lastGames with
  | none => cases hcreate
  | some lastGames =>
      dsimp only at hcreate
      split_ifs at hcreate
      cases next with
      | none => cases hcreate
      | some id =>
          obtain ⟨hcounter, rfl⟩ := getNextGameId_eq_some hnext
          rw [Bool.not_eq_true', Bool.not_eq_false] at hvalid hsettings
          refine ⟨⟨m.curGameId + 1, GameName.cleanName newGame.gameName, newGame.password, newGame.gameInfo⟩, rfl,
            rfl, hcounter, ?_, by simpa using hused, (Except.ok.inj hcreate).symm⟩
          exact ⟨GameName.exists_spelled hvalid, GameName.cleanName_cleanName _, by simpa using hbad, hsettings⟩

theorem not_inUse_iff {gameName : List UInt8} :
    m.isGameNameInUse gameName = false ↔ gameName ∉ m.gameMap.map (·.name) := by
  simp [isGameNameInUse]

theorem insert_fresh (hfresh : ∀ g ∈ m.gameMap, g.id ≠ game.id) : m.insert game = m.gameMap ++ [game] := by
  rw [insert, if_neg]
  simpa using hfresh

theorem Sound.add (h : Sound isBadGameName mode m) (hid : game.id = m.curGameId + 1)
    (hcounter : m.curGameId + 1 ≤ 2 ^ 32 - 1 - 100) (haccepted : Accepted isBadGameName mode game)
    (hname : m.isGameNameInUse game.name = false) :
    Sound isBadGameName mode ({ m with curGameId := m.curGameId + 1 }.internalAddGame game) ∧
      ({ m with curGameId := m.curGameId + 1 }.internalAddGame game).gameMap = m.gameMap ++ [game] := by
  have hfresh (g : LobbyGame) (hg : g ∈ m.gameMap) : g.id ≠ game.id := by
    have hle := (h.bounded g hg).2
    omega
  have hinsert : GameMap.insert { m with curGameId := m.curGameId + 1 } game = m.gameMap ++ [game] :=
    insert_fresh hfresh
  have hmap : ({ m with curGameId := m.curGameId + 1 }.internalAddGame game).gameMap = m.gameMap ++ [game] := hinsert
  refine ⟨?_, hmap⟩
  have hlength : (m.gameMap ++ [game]).length = m.gameMap.length + 1 := by simp
  have hfew := h.few
  constructor
  · rw [hmap, List.map_append, List.nodup_append]
    refine ⟨h.ids, by simp, ?_⟩
    intro id hid' id' hgame
    obtain ⟨g, hg, rfl⟩ := List.mem_map.mp hid'
    rw [List.map_singleton, List.mem_singleton] at hgame
    rw [hgame]
    exact hfresh g hg
  · rw [hmap, List.map_append, List.nodup_append]
    refine ⟨h.names, by simp, ?_⟩
    intro name hname' name' hgame
    rw [List.map_singleton, List.mem_singleton] at hgame
    rintro rfl
    exact not_inUse_iff.mp hname (hgame ▸ hname')
  · intro g hg
    rw [hmap, List.mem_append, List.mem_singleton] at hg
    rcases hg with hg | rfl
    · exact h.accepted g hg
    · exact haccepted
  · intro g hg
    rw [hmap, List.mem_append, List.mem_singleton] at hg
    simp only [internalAddGame]
    rcases hg with hg | rfl
    · exact ⟨(h.bounded g hg).1, Nat.le_succ_of_le (h.bounded g hg).2⟩
    · omega
  · rw [hmap, hlength]
    simp only [internalAddGame]
    omega
  · exact hcounter
  · rw [hmap, hlength]
    simp only [internalAddGame]
    rw [h.open_eq, Nat.mod_eq_of_lt (by omega)]
  · simp only [internalAddGame, hinsert]
    split_ifs with hless
    · exact Nat.le_refl _
    · exact Nat.le_of_not_lt hless

theorem Sound.remove (h : Sound isBadGameName mode m) (gameId : Nat) :
    Sound isBadGameName mode (m.internalRemoveGame gameId) := by
  rw [internalRemoveGame]
  split_ifs with hany
  · have hsub : (m.gameMap.eraseP fun g => g.id == gameId).Sublist m.gameMap := List.eraseP_sublist
    have hlength : (m.gameMap.eraseP fun g => g.id == gameId).length = m.gameMap.length - 1 := by
      obtain ⟨g, hg, heq⟩ := List.any_eq_true.mp hany
      exact List.length_eraseP_of_mem hg heq
    refine ⟨(h.ids.sublist (hsub.map _)), (h.names.sublist (hsub.map _)), fun g hg => h.accepted g (hsub.subset hg),
      fun g hg => h.bounded g (hsub.subset hg), Nat.le_trans hsub.length_le h.few, h.counter, ?_,
      Nat.le_trans hsub.length_le h.open_le⟩
    simp only [hlength, h.open_eq]
  · exact h

theorem sound_start (maxGamesOpen totalGamesEverCreated : Nat) :
    Sound isBadGameName mode (start maxGamesOpen totalGamesEverCreated) := by
  refine ⟨List.nodup_nil, List.nodup_nil, ?_, ?_, Nat.le_refl _, Nat.zero_le _, rfl, Nat.zero_le _⟩
  all_goals
    intro g hg
    cases hg

theorem Sound.same (h : Sound isBadGameName mode m) {g' : LobbyGame} (hg : g ∈ m.gameMap) (hg' : g' ∈ m.gameMap)
    (hid : g.id = g'.id) : g = g' :=
  List.inj_on_of_nodup_map h.ids hg hg' hid

theorem maxGamesOpen_internalAddGame : (m.internalAddGame game).maxGamesOpen =
    max m.maxGamesOpen (m.internalAddGame game).gameMap.length := by
  simp only [internalAddGame]
  split_ifs with hless
  · exact (max_eq_right hless.le).symm
  · exact (max_eq_left (Nat.le_of_not_lt hless)).symm

theorem Sound.maxGamesOpen_remove (h : Sound isBadGameName mode m) (gameId : Nat) :
    (m.internalRemoveGame gameId).maxGamesOpen =
      max m.maxGamesOpen (m.internalRemoveGame gameId).gameMap.length := by
  have hle := h.open_le
  rw [internalRemoveGame]
  split_ifs
  · exact (max_eq_left (List.eraseP_sublist.length_le.trans hle)).symm
  · exact (max_eq_left hle).symm

/-- What an event does: no game changes, and a new one is past all others that there have been. -/
theorem Sound.fire {e : Event} (h : Sound isBadGameName mode m)
    (hfire : fire isBadGameName mode limitRank m e = some m') :
    Sound isBadGameName mode m' ∧ m.curGameId ≤ m'.curGameId ∧
      (∀ g ∈ m'.gameMap, g ∈ m.gameMap ∨ m.curGameId < g.id) ∧
      (∀ id, m.curGameId < id → id ≤ m'.curGameId → id ∈ m'.gameMap.map (·.id)) ∧
      (m.totalGamesEverCreated + m'.curGameId) % 2 ^ 32 = (m'.totalGamesEverCreated + m.curGameId) % 2 ^ 32 ∧
      m'.maxGamesOpen = max m.maxGamesOpen m'.gameMap.length := by
  cases e with
  | createGame now lastGames newGame =>
      simp only [GameMap.fire] at hfire
      cases hcreate : m.handleNetPacketCreateGame isBadGameName mode limitRank now lastGames newGame with
      | error failure =>
          rw [hcreate] at hfire
          cases hfire
          exact ⟨h, Nat.le_refl _, fun g hg => .inl hg, by omega, rfl, (max_eq_left h.open_le).symm⟩
      | ok next =>
          rw [hcreate] at hfire
          cases hfire
          obtain ⟨game, hid, -, hcounter, haccepted, hname, rfl⟩ := create_eq_ok hcreate
          obtain ⟨hsound, hmap⟩ := h.add hid hcounter haccepted hname
          refine ⟨hsound, Nat.le_succ _, fun g hg => ?_, fun id hlt hle => ?_, ?_, maxGamesOpen_internalAddGame⟩
          · rw [hmap, List.mem_append, List.mem_singleton] at hg
            refine hg.imp_right ?_
            rintro rfl
            omega
          · have hnew : id = game.id := by
              simp only [internalAddGame] at hle
              omega
            rw [hmap, hnew]
            simp
          · simp only [internalAddGame]
            omega
  | removeGame gameId =>
      cases hfire
      have hsub : (m.internalRemoveGame gameId).gameMap ⊆ m.gameMap := by
        rw [internalRemoveGame]
        split_ifs
        · exact List.eraseP_subset
        · exact List.Subset.refl _
      have hcounters : (m.internalRemoveGame gameId).curGameId = m.curGameId ∧
          (m.internalRemoveGame gameId).totalGamesEverCreated = m.totalGamesEverCreated := by
        rw [internalRemoveGame]
        split_ifs <;> exact ⟨rfl, rfl⟩
      rw [hcounters.1, hcounters.2]
      exact ⟨h.remove gameId, Nat.le_refl _, fun g hg => .inl (hsub hg), by omega, rfl, h.maxGamesOpen_remove gameId⟩

def Distinct (hist : List (GameMap × Event)) (m : GameMap) : Prop :=
  ∀ x ∈ hist, ∀ g ∈ x.1.gameMap, g.id ≤ m.curGameId ∧ ∀ g' ∈ m.gameMap, g.id = g'.id → g = g'

theorem Distinct.snoc {hist : List (GameMap × Event)} {e : Event} (h : Distinct hist m)
    (hsound : Sound isBadGameName mode m) (hcounter : m.curGameId ≤ m'.curGameId)
    (hgames : ∀ g ∈ m'.gameMap, g ∈ m.gameMap ∨ m.curGameId < g.id) : Distinct (hist ++ [(m, e)]) m' := by
  have hold (g : LobbyGame) (hle : g.id ≤ m.curGameId) (hsame : ∀ g' ∈ m.gameMap, g.id = g'.id → g = g') :
      g.id ≤ m'.curGameId ∧ ∀ g' ∈ m'.gameMap, g.id = g'.id → g = g' := by
    refine ⟨Nat.le_trans hle hcounter, fun g' hg' hid => ?_⟩
    rcases hgames g' hg' with hg' | hlt
    · exact hsame g' hg' hid
    · omega
  intro x hx g hg
  rcases List.mem_append.mp hx with hx | hx
  · exact hold g (h x hx g hg).1 (h x hx g hg).2
  · rw [List.mem_singleton] at hx
    subst hx
    exact hold g (hsound.bounded g hg).2 fun g' hg' => hsound.same hg hg'

def Numbered (hist : List (GameMap × Event)) (m : GameMap) : Prop :=
  ∀ id, 0 < id → id ≤ m.curGameId → ∃ m' ∈ hist.map (·.1) ++ [m], id ∈ m'.gameMap.map (·.id)

theorem Numbered.snoc {hist : List (GameMap × Event)} {e : Event} (h : Numbered hist m)
    (hnew : ∀ id, m.curGameId < id → id ≤ m'.curGameId → id ∈ m'.gameMap.map (·.id)) :
    Numbered (hist ++ [(m, e)]) m' := by
  intro id hpos hle
  rw [List.map_append, List.map_singleton]
  by_cases hold : id ≤ m.curGameId
  · obtain ⟨u, hu, hid⟩ := h id hpos hold
    exact ⟨u, List.mem_append_left _ hu, hid⟩
  · exact ⟨m', List.mem_append_right _ (List.mem_singleton_self m'), hnew id (by omega) hle⟩

def Counted (total : Nat) (m : GameMap) : Prop := m.totalGamesEverCreated % 2 ^ 32 = (total + m.curGameId) % 2 ^ 32

def mostOpen (hist : List (GameMap × Event)) (m : GameMap) : Nat :=
  (hist.map fun x => x.1.gameMap.length).foldr max m.gameMap.length

theorem foldr_max (l : List Nat) (a b : Nat) : l.foldr max (max a b) = max (l.foldr max a) b := by
  induction l with
  | nil => rfl
  | cons x l ih => rw [List.foldr_cons, List.foldr_cons, ih, max_assoc]

theorem mostOpen_snoc (hist : List (GameMap × Event)) (e : Event) (m m' : GameMap) :
    mostOpen (hist ++ [(m, e)]) m' = max (mostOpen hist m) m'.gameMap.length := by
  rw [mostOpen, List.map_append, List.foldr_append]
  exact foldr_max _ _ _

/-- In every run of requests and removals, the games of the lobby differ in id and name, each is as the lobby has
checked it, an id stands for one game for ever, and the counters tell the truth. -/
theorem games_sound {maxGamesOpen totalGamesEverCreated : Nat} {hist : List (GameMap × Event)}
    (hrun : Runs.Trace (GameMap.fire isBadGameName mode limitRank) (fun _ _ => True)
      (start maxGamesOpen totalGamesEverCreated) hist m) :
    Sound isBadGameName mode m ∧ Distinct hist m ∧ Numbered hist m ∧ Counted totalGamesEverCreated m ∧
      m.maxGamesOpen = max maxGamesOpen (mostOpen hist m) := by
  induction hrun with
  | start =>
      refine ⟨sound_start .., ?_, ?_, rfl, ?_⟩
      · intro x hx
        cases hx
      · intro id hpos hle
        exact absurd hpos hle.not_gt
      · exact (max_eq_left (Nat.zero_le _)).symm
  | step _ hfire _ ih =>
      obtain ⟨hsound, hdistinct, hnumbered, htotal, hmost⟩ := ih
      obtain ⟨hsound', hcounter, hgames, hnew, hcreated, hopen⟩ := hsound.fire hfire
      refine ⟨hsound', hdistinct.snoc hsound hcounter hgames, hnumbered.snoc hnew, ?_, ?_⟩
      · rw [Counted] at htotal ⊢
        omega
      · rw [hopen, hmost, mostOpen_snoc, max_assoc]

def home : GameMap := ⟨[⟨1, [72, 111, 109, 101], "", GameSettings.idleList⟩], 1, 1, 1, 8⟩

/-- A game called "Home", with blanks around it, and its end. -/
theorem games_sound_home : ∃ hist, Sound (fun _ => false) .lan ⟨[], 1, 0, 1, 8⟩ ∧
    Distinct hist ⟨[], 1, 0, 1, 8⟩ ∧ Numbered hist ⟨[], 1, 0, 1, 8⟩ ∧ Counted 7 ⟨[], 1, 0, 1, 8⟩ ∧
      1 = max 0 (mostOpen hist ⟨[], 1, 0, 1, 8⟩) ∧ hist.map (·.1) = [start 0 7, home] := by
  have hcreate : Runs.Trace (GameMap.fire (fun _ => false) .lan (some (3, 60))) (fun _ _ => True) (start 0 7)
      ([] ++ [(start 0 7, .createGame 1000 (some [10, 20, 30])
        ⟨[32, 72, 111, 109, 101, 10], "", GameSettings.idleList⟩)]) home := .step .start rfl trivial
  have hremove := hcreate.step (show GameMap.fire (fun _ => false) .lan (some (3, 60)) home (.removeGame 1) =
    some ⟨[], 1, 0, 1, 8⟩ from rfl) trivial
  obtain ⟨hsound, hdistinct, hnumbered, hcounted, hmost⟩ := games_sound hremove
  exact ⟨_, hsound, hdistinct, hnumbered, hcounted, hmost, rfl⟩

end GameMap

end PokerTH
