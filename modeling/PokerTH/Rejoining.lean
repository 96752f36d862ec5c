import PokerTH.Credential

namespace PokerTH

/-- The games of the lobby in the order of their ids, and the logins that it has acknowledged, the latest one last. -/
structure RejoinServer where
  games : List (Nat × ServerGame)
  curGameId : Nat
  logins : List Login

namespace RejoinServer

open ServerGame

variable {w w' : RejoinServer} {g : ServerGame} {gameId : Nat} {name guid : String} {l : Login}

def rejoinPlayerId (g : ServerGame) (playerName guid : String) : Option Nat :=
  g.playing.bind fun p => (getPlayerByName p playerName).bind fun r =>
    let tmpPlayer := p.betting.hand.players r
    if tmpPlayer.myGuid = guid ∧ tmpPlayer.myCash > 0 then some tmpPlayer.myUniqueID else none

def getRejoinGameIdForPlayer (w : RejoinServer) (playerName guid : String) : Option (Nat × Nat) :=
  if guid = "" then none
  else w.games.findSome? fun x => (rejoinPlayerId x.2 playerName guid).map fun playerId => (x.1, playerId)

def setGame (w : RejoinServer) (gameId : Nat) (g : ServerGame) : RejoinServer :=
  { w with games := w.games.map fun x => if x.1 = gameId then (gameId, g) else x }

def createGame (w : RejoinServer) (mode : ServerMode) (gameType : GameType) (gameData : GameData)
    (adminPlayerId curUniquePlayerId : Nat) : RejoinServer :=
  { w with
    games := w.games ++
      [(w.curGameId + 1, create (w.curGameId + 1) mode gameType gameData adminPlayerId curUniquePlayerId)]
    curGameId := w.curGameId + 1 }

/-- A session logs in, a game is created or removed, or something happens to a game. -/
inductive Event
  | login (l : Login)
  | createGame (mode : ServerMode) (gameType : GameType) (gameData : GameData) (adminPlayerId curUniquePlayerId : Nat)
  | game (gameId : Nat) (e : ServerGame.Event)
  | removeGame (gameId : Nat)

/-- Player ids and session ids are generated anew for each login. -/
def fire (w : RejoinServer) : Event → Option RejoinServer
  | .login l =>
      if l.guid = "" ∨ w.logins.any fun k => k.playerId == l.playerId || k.guid == l.guid then none
      else some { w with logins := w.logins ++ [l] }
  | .createGame mode gameType gameData adminPlayerId curUniquePlayerId =>
      some (w.createGame mode gameType gameData adminPlayerId curUniquePlayerId)
  | .game gameId e =>
      match w.games.find? fun x => x.1 == gameId with
      | none => none
      | some x => if e.loggedIn w.logins then (x.2.fire e).map (w.setGame gameId) else none
  | .removeGame gameId => some { w with games := w.games.filter fun x => x.1 ≠ gameId }

def initial : RejoinServer := ⟨[], 0, []⟩

def lastLogin (w : RejoinServer) (name : String) : Option Login := (w.logins.filter fun l => l.name == name).getLast?

structure Booked (w : RejoinServer) : Prop where
  recorded : ∀ x ∈ w.games, Recorded w.logins x.2
  ids : (w.games.map Prod.fst).Nodup
  bound : ∀ x ∈ w.games, x.1 ≤ w.curGameId
  given : ∀ l ∈ w.logins, l.guid ≠ ""
  once : ∀ k ∈ w.logins, ∀ l ∈ w.logins, k.playerId = l.playerId ∨ k.guid = l.guid → k = l

theorem booked_initial : Booked initial :=
  ⟨by simp [initial], List.nodup_nil, by simp [initial], by simp [initial], by simp [initial]⟩

theorem Booked.login (hb : Booked w) (hguid : l.guid ≠ "")
    (hnew : ∀ k ∈ w.logins, ¬ (k.playerId = l.playerId ∨ k.guid = l.guid)) :
    Booked { w with logins := w.logins ++ [l] } := by
  refine ⟨fun x hx => (hb.recorded x hx).more [l], hb.ids, hb.bound, ?_, ?_⟩
  · intro k hk
    rcases List.mem_append.mp hk with hk | hk
    · exact hb.given k hk
    · rw [List.mem_singleton.mp hk]
      exact hguid
  · intro k hk k' hk' hsame
    rcases List.mem_append.mp hk with hk | hk
    · rcases List.mem_append.mp hk' with hk' | hk'
      · exact hb.once k hk k' hk' hsame
      · rw [List.mem_singleton.mp hk'] at hsame
        exact absurd hsame (hnew k hk)
    · rcases List.mem_append.mp hk' with hk' | hk'
      · rw [List.mem_singleton.mp hk] at hsame
        exact absurd (hsame.imp Eq.symm Eq.symm) (hnew k' hk')
      · rw [List.mem_singleton.mp hk, List.mem_singleton.mp hk']

theorem Booked.createGame (hb : Booked w) (mode : ServerMode) (gameType : GameType) (gameData : GameData)
    (adminPlayerId curUniquePlayerId : Nat) : Booked (w.createGame mode gameType gameData adminPlayerId curUniquePlayerId) := by
  refine ⟨?_, ?_, ?_, hb.given, hb.once⟩
  · intro x hx
    rcases List.mem_append.mp hx with hx | hx
    · exact hb.recorded x hx
    · rw [List.mem_singleton.mp hx]
      exact recorded_create _ _ _ _ _ _ _
  · simp only [RejoinServer.createGame, List.map_append, List.map_cons, List.map_nil]
    rw [List.nodup_append]
    refine ⟨hb.ids, List.nodup_singleton _, ?_⟩
    intro id hid id' hid'
    obtain ⟨x, hx, rfl⟩ := List.mem_map.mp hid
    have hle := hb.bound x hx
    rw [List.mem_singleton.mp hid']
    omega
  · intro x hx
    rcases List.mem_append.mp hx with hx | hx
    · exact (hb.bound x hx).trans (Nat.le_succ _)
    · rw [List.mem_singleton.mp hx]
      exact le_refl _

theorem Booked.setGame (hb : Booked w) (hg : Recorded w.logins g) (gameId : Nat)
    (hid : ∃ x ∈ w.games, x.1 = gameId) : Booked (w.setGame gameId g) := by
  have hmem : ∀ x ∈ (w.setGame gameId g).games, x ∈ w.games ∨ x = (gameId, g) := by
    intro x hx
    obtain ⟨y, hy, rfl⟩ := List.mem_map.mp hx
    split_ifs
    · exact .inr rfl
    · exact .inl hy
  refine ⟨?_, ?_, ?_, hb.given, hb.once⟩
  · intro x hx
    rcases hmem x hx with hx | rfl
    · exact hb.recorded x hx
    · exact hg
  · have hids : (w.setGame gameId g).games.map Prod.fst = w.games.map Prod.fst := by
      simp only [RejoinServer.setGame, List.map_map]
      apply List.map_congr_left
      intro x _
      simp only [Function.comp_apply]
      split_ifs with h
      · exact h.symm
      · rfl
    rw [hids]
    exact hb.ids
  · intro x hx
    rcases hmem x hx with hx | rfl
    · exact hb.bound x hx
    · obtain ⟨y, hy, rfl⟩ := hid
      exact hb.bound y hy

theorem booked_fire {e : Event} (hb : Booked w) (hfire : w.fire e = some w') : Booked w' := by
  cases e with
  | login l =>
      simp only [fire] at hfire
      split_ifs at hfire with hold
      cases hfire
      simp only [not_or, List.any_eq_true, Bool.or_eq_true, beq_iff_eq, not_exists, not_and] at hold
      exact hb.login hold.1 fun k hk => not_or.mpr (hold.2 k hk)
  | createGame mode gameType gameData adminPlayerId curUniquePlayerId =>
      cases hfire
      exact hb.createGame mode gameType gameData adminPlayerId curUniquePlayerId
  | game gameId e =>
      simp only [fire] at hfire
      split at hfire
      · cases hfire
      · next x hx =>
          split_ifs at hfire with hlogin
          obtain ⟨g, hg, rfl⟩ := Option.map_eq_some_iff.mp hfire
          have hmem := List.mem_of_find?_eq_some hx
          exact hb.setGame ((hb.recorded x hmem).fire hg hlogin) gameId ⟨x, hmem, by simpa using List.find?_some hx⟩
  | removeGame gameId =>
      cases hfire
      exact ⟨fun x hx => hb.recorded x (List.mem_filter.mp hx).1, hb.ids.sublist (List.filter_sublist.map _),
        fun x hx => hb.bound x (List.mem_filter.mp hx).1, hb.given, hb.once⟩

/-- The player's seat in this game may be taken again, and has the player id of this login. -/
def Holds (g : ServerGame) (name : String) (playerId : Nat) : Prop :=
  ∃ p r, g.playing = some p ∧ getPlayerByName p name = some r ∧ (p.betting.hand.players r).myGuid ≠ "" ∧
    0 < (p.betting.hand.players r).myCash ∧ (p.betting.hand.players r).myUniqueID = playerId

theorem getPlayerByName_some {p : Playing} {r : Ref} (h : getPlayerByName p name = some r) :
    r ∈ p.betting.hand.seatsList ∧ p.names r = name := by
  simp only [getPlayerByName] at h
  split_ifs at h
  exact ⟨List.mem_of_find?_eq_some h, by simpa using List.find?_some h⟩

/-- A seat that may be taken again has the session id of the login with its player id. -/
theorem Booked.guid_iff (hb : Booked w) (hmem : (gameId, g) ∈ w.games) {p : Playing} {r : Ref} (hp : g.playing = some p)
    (hseat : getPlayerByName p name = some r) (hguid : (p.betting.hand.players r).myGuid ≠ "") (hl : l ∈ w.logins) :
    (p.betting.hand.players r).myGuid = l.guid ↔ (p.betting.hand.players r).myUniqueID = l.playerId := by
  obtain ⟨hr, hname⟩ := getPlayerByName_some hseat
  rcases (hb.recorded _ hmem).seats p hp r hr with ⟨hnone, -⟩ | hlogin
  · exact absurd hnone hguid
  · constructor
    · intro h
      exact congrArg Login.playerId (hb.once _ hlogin l hl (.inr h))
    · intro h
      exact congrArg Login.guid (hb.once _ hlogin l hl (.inl h))

theorem rejoinPlayerId_isSome_iff (hb : Booked w) (hmem : (gameId, g) ∈ w.games) (hl : l ∈ w.logins) :
    (rejoinPlayerId g name l.guid).isSome ↔ Holds g name l.playerId := by
  simp only [rejoinPlayerId]
  constructor
  · intro h
    obtain ⟨playerId, hid⟩ := Option.isSome_iff_exists.mp h
    obtain ⟨p, hp, hid⟩ := Option.bind_eq_some_iff.mp hid
    obtain ⟨r, hr, hid⟩ := Option.bind_eq_some_iff.mp hid
    split_ifs at hid with hseat
    have hguid : (p.betting.hand.players r).myGuid ≠ "" := by
      rw [hseat.1]
      exact hb.given l hl
    exact ⟨p, r, hp, hr, hguid, hseat.2, (hb.guid_iff hmem hp hr hguid hl).mp hseat.1⟩
  · rintro ⟨p, r, hp, hr, hguid, hcash, hid⟩
    have hsame := (hb.guid_iff hmem hp hr hguid hl).mpr hid
    simp [hp, hr, hsame, hcash]

/-- The lookup returns this game for a session id exactly when the game itself and none before it has the seat. -/
theorem getRejoinGameIdForPlayer_iff (hb : Booked w) {before after : List (Nat × ServerGame)}
    (hgames : w.games = before ++ (gameId, g) :: after) (hl : l ∈ w.logins) (playerId : Nat) :
    w.getRejoinGameIdForPlayer name l.guid = some (gameId, playerId) ↔
      rejoinPlayerId g name l.guid = some playerId ∧ ∀ x ∈ before, ¬ Holds x.2 name l.playerId := by
  have hmem (x : Nat × ServerGame) (hx : x ∈ before ++ (gameId, g) :: after) : x ∈ w.games := hgames ▸ hx
  have hself : (gameId, g) ∈ w.games := hmem _ (by simp)
  have hfirst (x : Nat × ServerGame) (hx : x ∈ before) : x.1 ≠ gameId := by
    have hids := hb.ids
    rw [hgames, List.map_append, List.map_cons, List.nodup_append] at hids
    intro h
    exact hids.2.2 x.1 (List.mem_map_of_mem hx) gameId (by simp) h
  have hholds (x : Nat × ServerGame) (hx : x ∈ before) :
      (rejoinPlayerId x.2 name l.guid).isSome ↔ Holds x.2 name l.playerId :=
    rejoinPlayerId_isSome_iff hb (hmem x (by simp [hx])) hl
  rw [getRejoinGameIdForPlayer, if_neg (hb.given l hl), hgames, List.findSome?_append, List.findSome?_cons]
  by_cases hany : ∃ x ∈ before, Holds x.2 name l.playerId
  · constructor
    · intro h
      obtain ⟨x, hx, hx'⟩ := hany
      rw [Option.or_eq_some_iff] at h
      rcases h with h | ⟨h, -⟩
      · obtain ⟨y, hy, h⟩ := List.exists_of_findSome?_eq_some h
        obtain ⟨id, _, hid⟩ := Option.map_eq_some_iff.mp h
        exact absurd (congrArg Prod.fst hid) (hfirst y hy)
      · have hnone := List.findSome?_eq_none_iff.mp h x hx
        rw [Option.map_eq_none_iff] at hnone
        have hsome := (hholds x hx).mpr hx'
        rw [hnone] at hsome
        cases hsome
    · rintro ⟨-, hnot⟩
      obtain ⟨x, hx, hx'⟩ := hany
      exact absurd hx' (hnot x hx)
  · have hnot : ∀ x ∈ before, ¬ Holds x.2 name l.playerId := fun x hx h => hany ⟨x, hx, h⟩
    have hnone : before.findSome? (fun x => (rejoinPlayerId x.2 name l.guid).map fun playerId => (x.1, playerId)) =
        none := by
      rw [List.findSome?_eq_none_iff]
      intro x hx
      rw [Option.map_eq_none_iff, ← Option.not_isSome_iff_eq_none]
      exact fun h => hnot x hx ((hholds x hx).mp h)
    rw [hnone, Option.none_or]
    constructor
    · intro h
      refine ⟨?_, hnot⟩
      cases hid : rejoinPlayerId g name l.guid with
      | none =>
          rw [hid] at h
          obtain ⟨y, hy, h⟩ := List.exists_of_findSome?_eq_some h
          obtain ⟨id, _, hy'⟩ := Option.map_eq_some_iff.mp h
          have hids := hb.ids
          rw [hgames, List.map_append, List.nodup_append] at hids
          have hcons := hids.2.1
          rw [List.map_cons, List.nodup_cons] at hcons
          exact absurd (congrArg Prod.fst hy' ▸ List.mem_map_of_mem hy) hcons.1
      | some id =>
          rw [hid] at h
          cases h
          rfl
    · rintro ⟨hid, -⟩
      rw [hid]
      rfl

theorem accepts_of_running (hrunning : g.Running) (s : PlayerSession) : g.accepts s = g.mayRejoin s := by
  rcases hrunning with hs | hs | hs <;> simp only [accepts, hs]

/-- The session id of a player's latest login gives him his seat back exactly when that login has the seat, and no game
before this one has another seat for it. A session id that he never got is not accepted. -/
theorem rejoin_credential {hist : List (RejoinServer × Event)} {before after : List (Nat × ServerGame)} {p : Playing}
    {r : Ref} (hrun : Runs.Trace fire (fun _ _ => True) initial hist w)
    (hgames : w.games = before ++ (gameId, g) :: after) (hrunning : g.Running) (hp : g.playing = some p)
    (hseat : getPlayerByName p name = some r) (hhuman : (p.betting.hand.players r).myType = .human)
    (hcash : 0 < (p.betting.hand.players r).myCash) (hkicked : (p.betting.hand.players r).isKicked = false)
    (hlast : w.lastLogin name = some l) :
    ((w.getRejoinGameIdForPlayer name l.guid = some (gameId, (p.betting.hand.players r).myUniqueID) ∧
        ∀ s : PlayerSession, s.name = name → s.oldGuid = l.guid → g.accepts s = true) ↔
      (p.betting.hand.players r).myUniqueID = l.playerId ∧ ∀ x ∈ before, ¬ Holds x.2 name l.playerId) ∧
    ∀ s : PlayerSession, s.name = name → (∀ k ∈ w.logins, k.name = name → k.guid ≠ s.oldGuid) →
      g.accepts s = false := by
  have hb : Booked w := by
    apply @Runs.Trace.invariant _ _ _ _ _ _ _ (fun _ w => Booked w) booked_initial _ hrun
    exact fun _ _ _ _ hb hfire _ => booked_fire hb hfire
  have hl : l ∈ w.logins := (List.mem_filter.mp (List.mem_of_getLast? hlast)).1
  have hmem : (gameId, g) ∈ w.games := by simp [hgames]
  obtain ⟨hr, hname⟩ := getPlayerByName_some hseat
  have hlogin : (⟨name, (p.betting.hand.players r).myUniqueID, (p.betting.hand.players r).myGuid⟩ : Login) ∈
      w.logins := by
    rcases (hb.recorded _ hmem).seats p hp r hr with ⟨-, hcomputer | hout⟩ | hlogin
    · rw [hhuman] at hcomputer
      cases hcomputer
    · rw [hkicked] at hout
      cases hout
    · rwa [hname] at hlogin
  have hguid : (p.betting.hand.players r).myGuid ≠ "" := hb.given _ hlogin
  have hrejoin (s : PlayerSession) (hs : s.name = name) :
      g.accepts s = true ↔ (p.betting.hand.players r).myGuid = s.oldGuid := by
    rw [accepts_of_running hrunning, mayRejoin, hp, Option.any_some, hs, hseat, Option.any_some, beq_iff_eq]
  constructor
  · rw [getRejoinGameIdForPlayer_iff hb hgames hl]
    constructor
    · rintro ⟨⟨hid, hbefore⟩, -⟩
      refine ⟨(hb.guid_iff hmem hp hseat hguid hl).mp ?_, hbefore⟩
      simp only [rejoinPlayerId, hp, hseat, Option.bind_some] at hid
      split_ifs at hid with hsame
      exact hsame.1
    · rintro ⟨hid, hbefore⟩
      have hsame := (hb.guid_iff hmem hp hseat hguid hl).mpr hid
      refine ⟨⟨?_, hbefore⟩, ?_⟩
      · simp [rejoinPlayerId, hp, hseat, hsame, hcash]
      · intro s hs hold
        exact (hrejoin s hs).mpr (hsame.trans hold.symm)
  · intro s hs hnever
    rw [Bool.eq_false_iff]
    intro haccepts
    exact hnever _ hlogin rfl ((hrejoin s hs).mp haccepts)

def seatedEvents : List Event :=
  [.login ⟨"a", 1, "a"⟩, .login ⟨"b", 2, "b"⟩, .createGame .lan .normal (headsUp 10) 1 2] ++
    openingEvents.map fun e => .game 1 e

def testSeat (w : RejoinServer) (test : ServerGame → Player → Bool) : Bool :=
  match w.games with
  | [(gameId, g)] => gameId == 1 && g.playing.any fun p =>
      (getPlayerByName p "b").any fun r => test g (p.betting.hand.players r)
  | _ => false

theorem exists_seat {test : ServerGame → Player → Bool} (h : w.testSeat test = true) : ∃ g p r,
    w.games = [(1, g)] ∧ g.playing = some p ∧ getPlayerByName p "b" = some r ∧
      test g (p.betting.hand.players r) = true := by
  simp only [testSeat] at h
  split at h
  · next gameId g hg =>
      simp only [Bool.and_eq_true, beq_iff_eq, Option.any_eq_true] at h
      obtain ⟨rfl, p, hp, r, hr, htest⟩ := h
      exact ⟨g, p, r, hg, hp, hr, htest⟩
  · cases h

theorem running_of_waitPlayerAction (hs : g.state = .waitPlayerAction) : g.Running := .inr (.inl hs)

/-- The second player loses his connection during a hand, comes back for the next one and loses it again. -/
theorem rejoin_credential_seated : ∃ hist w g p r,
    Runs.Trace fire (fun _ _ => True) initial hist w ∧ w.games = [(1, g)] ∧ g.sessions.length = 1 ∧
      g.playing = some p ∧ (p.betting.hand.players r).myUniqueID = 3 ∧
      w.getRejoinGameIdForPlayer "b" "c" = some (1, 3) ∧ w.getRejoinGameIdForPlayer "b" "b" = none := by
  obtain ⟨hist, w, hrun, htest⟩ := Runs.exists_trace fire (fun _ _ => True) (fun _ _ => true) initial
    (seatedEvents ++ [.game 1 (.removeSession 2), .login ⟨"b", 3, "c"⟩,
      .game 1 (.newPlayer ⟨3, 3, "b", "c", "b", false, false⟩ false),
      .game 1 (.packet 1 (.myActionRequest ⟨1, 0, .fold, 0⟩) plainDraws), .game 1 (.timer1 plainDraws),
      .game 1 (.timer1 plainDraws), .game 1 (.timer1 plainDraws), .game 1 (.removeSession 3)])
    (fun w => w.lastLogin "b" == some ⟨"b", 3, "c"⟩ && w.getRejoinGameIdForPlayer "b" "b" == none &&
      w.testSeat fun g p => g.state == .waitPlayerAction && g.sessions.length == 1 && p.myType == .human &&
        decide (0 < p.myCash) && !p.isKicked && p.myUniqueID == 3)
    (by decide +kernel) (fun _ _ _ => trivial)
  simp only [Bool.and_eq_true, beq_iff_eq] at htest
  obtain ⟨g, p, r, hg, hp, hr, hseat⟩ := exists_seat htest.2
  simp only [Bool.and_eq_true, beq_iff_eq, decide_eq_true_eq, Bool.not_eq_true'] at hseat
  obtain ⟨⟨⟨⟨⟨hstate, halone⟩, hhuman⟩, hcash⟩, hkicked⟩, hid⟩ := hseat
  have h := @rejoin_credential w g 1 "b" _ hist [] [] p r hrun hg (running_of_waitPlayerAction hstate) hp hr hhuman
    hcash hkicked htest.1.1
  have hback := (h.1.mpr ⟨hid, by simp⟩).1
  rw [hid] at hback
  exact ⟨hist, w, g, p, r, hrun, hg, halone, hp, hid, hback, htest.1.2⟩

/-- The second player leaves during a hand and logs in again, which gives him another session id, and the connection is
lost before the next hand. -/
theorem rejoin_credential_lost : ∃ hist w g p r,
    Runs.Trace fire (fun _ _ => True) initial hist w ∧ w.games = [(1, g)] ∧ g.Running ∧ g.playing = some p ∧
      getPlayerByName p "b" = some r ∧ (p.betting.hand.players r).myType = .human ∧
      0 < (p.betting.hand.players r).myCash ∧ (p.betting.hand.players r).isKicked = false ∧
      w.lastLogin "b" = some ⟨"b", 3, "c"⟩ ∧ w.getRejoinGameIdForPlayer "b" "c" = none ∧
      g.accepts ⟨4, 4, "b", "d", "c", false, false⟩ = false := by
  obtain ⟨hist, w, hrun, htest⟩ := Runs.exists_trace fire (fun _ _ => True) (fun _ _ => true) initial
    (seatedEvents ++ [.game 1 (.removeSession 2), .login ⟨"b", 3, "c"⟩,
      .game 1 (.newPlayer ⟨3, 3, "b", "c", "b", false, false⟩ false), .game 1 (.removeSession 3)])
    (fun w => w.lastLogin "b" == some ⟨"b", 3, "c"⟩ && w.getRejoinGameIdForPlayer "b" "c" == none &&
      w.testSeat fun g p => g.state == .waitPlayerAction && p.myType == .human && decide (0 < p.myCash) &&
        !p.isKicked && !g.accepts ⟨4, 4, "b", "d", "c", false, false⟩)
    (by decide +kernel) (fun _ _ _ => trivial)
  simp only [Bool.and_eq_true, beq_iff_eq] at htest
  obtain ⟨g, p, r, hg, hp, hr, hseat⟩ := exists_seat htest.2
  simp only [Bool.and_eq_true, beq_iff_eq, decide_eq_true_eq, Bool.not_eq_true'] at hseat
  obtain ⟨⟨⟨⟨hstate, hhuman⟩, hcash⟩, hkicked⟩, hrefused⟩ := hseat
  exact ⟨hist, w, g, p, r, hrun, hg, running_of_waitPlayerAction hstate, hp, hr, hhuman, hcash, hkicked, htest.1.1,
    htest.1.2, hrefused⟩

end RejoinServer

end PokerTH
