import PokerTH.GameListRun

namespace PokerTH.GameList

/-- A session of the lobby with its client, and the messages between them. -/
structure Client where
  established : Bool
  wantsLobbyMsg : Bool
  toClient : List ListMsg
  toServer : List SubscriptionAction
  gameInfoMap : GameInfoMap
  subscribeLobbyMsg : Bool
  deriving DecidableEq, Repr

def Listing.client (l : Listing) : Client :=
  ⟨l.established, l.wantsLobbyMsg, l.toClient, l.toServer, l.gameInfoMap, l.subscribeLobbyMsg⟩

/-- The server with all its clients. The mode that the lobby was last told of a game is kept beside them. -/
structure Views where
  server : Server
  clients : Nat → Client
  announced : Nat → GameMode

def announce (announced : Nat → GameMode) : ListMsg → Nat → GameMode
  | .new m => Function.update announced m.gameId m.gameMode
  | .update gameId gameMode => Function.update announced gameId gameMode
  | .playerJoined .. | .playerLeft .. | .adminChanged .. => announced

namespace Views

inductive ClientEvent
  | establishSession | handleRequest | handlePacket | unsubscribe | resubscribe
  deriving DecidableEq, Repr

def ClientEvent.toEvent : ClientEvent → Listing.Event
  | .establishSession => .establishSession
  | .handleRequest => .handleRequest
  | .handlePacket => .handlePacket
  | .unsubscribe => .unsubscribe
  | .resubscribe => .resubscribe

inductive Event
  | change (c : Server.Change)
  | client (i : Nat) (e : ClientEvent)

def start : Views := ⟨Listing.start.server, fun _ => Listing.start.client, fun _ => .created⟩

variable (w : Views)

def listing (i : Nat) : Listing :=
  ⟨w.server, (w.clients i).established, (w.clients i).wantsLobbyMsg, (w.clients i).toClient, (w.clients i).toServer,
    (w.clients i).gameInfoMap, (w.clients i).subscribeLobbyMsg⟩

def tell (server : Server) (msgs : List ListMsg) : Views where
  server
  clients i := ({ w.listing i with server }.sendLobbyMsg msgs).client
  announced := msgs.foldl announce w.announced

def fire : Event → Option Views
  | .change c => (w.server.change c).map fun next => w.tell next.1 next.2
  | .client i e => ((w.listing i).fire e.toEvent).map fun l => { w with clients := Function.update w.clients i l.client }

def mode (g : OpenGame) : GameMode := if g.isRunning then .started else .created

/-- No game is between its start event and its start, or between its end and its reopening. -/
def Settled : Prop := ∀ g ∈ w.server.games, mode g = w.announced g.id

/-- The server sends its list of games: to a new client, or for the last request of a client that resubscribes. -/
def SendsList (l : Listing) : ClientEvent → Prop
  | .establishSession => True
  | .handleRequest => l.toServer = [.resubscribeGameList]
  | .handlePacket | .unsubscribe | .resubscribe => False

/-- The list is sent while no game starts or ends, and to a client that keeps no game of the time before, when all has
come that is on its way. -/
def Timely : Event → Prop
  | .change _ => True
  | .client i e => SendsList (w.listing i) e → w.Settled ∧ (w.listing i).shown = []

/-- A subscribed client that has handled all that was sent to it. -/
structure UpToDate (i : Nat) : Prop where
  established : (w.clients i).established = true
  subscribed : (w.clients i).subscribeLobbyMsg = true
  toServer : (w.clients i).toServer = []
  toClient : (w.clients i).toClient = []

instance : Decidable w.Settled := inferInstanceAs (Decidable (∀ g ∈ w.server.games, mode g = w.announced g.id))

instance (l : Listing) : (e : ClientEvent) → Decidable (SendsList l e)
  | .establishSession => inferInstanceAs (Decidable True)
  | .handleRequest => inferInstanceAs (Decidable (l.toServer = [.resubscribeGameList]))
  | .handlePacket | .unsubscribe | .resubscribe => inferInstanceAs (Decidable False)

instance : (e : Event) → Decidable (w.Timely e)
  | .change _ => inferInstanceAs (Decidable True)
  | .client i e => inferInstanceAs (Decidable (SendsList (w.listing i) e → w.Settled ∧ (w.listing i).shown = []))

instance (i : Nat) : Decidable (w.UpToDate i) :=
  decidable_of_iff ((w.clients i).established = true ∧ (w.clients i).subscribeLobbyMsg = true ∧
    (w.clients i).toServer = [] ∧ (w.clients i).toClient = [])
    ⟨fun ⟨h, h', h'', h'''⟩ => ⟨h, h', h'', h'''⟩, fun ⟨h, h', h'', h'''⟩ => ⟨h, h', h'', h'''⟩⟩

/-- What two clients hold of one game. -/
structure SameInfo (e e' : Nat × GameInfo) : Prop where
  id : e.1 = e'.1
  players : e.2.players.Perm e'.2.players
  adminPlayerId : e.2.adminPlayerId = e'.2.adminPlayerId
  mode : e.2.mode = e'.2.mode

variable {w} {w' : Views} {i j : Nat} {l l' : Listing} {e : Event} {hist : List (Views × Event)} {m : GameInfoMap}
  {announced : Nat → GameMode} {s s' : Server} {msgs : List ListMsg} {games : List OpenGame}

/-- Every game of the client has the mode that the lobby was last told. -/
def Told (announced : Nat → GameMode) (m : GameInfoMap) : Prop := ∀ e ∈ m, e.2.mode = announced e.1

theorem Told.modify {gameId : Nat} {f : GameInfo → GameInfo} (h : Told announced m) (hmode : ∀ info, (f info).mode = info.mode) :
    Told announced (modifyGameInfo m gameId f) := by
  intro e he
  obtain ⟨e', he', rfl⟩ := List.mem_map.mp he
  split_ifs
  · exact (hmode e'.2).trans (h e' he')
  · exact h e' he'

theorem Told.handlePacket {msg : ListMsg} (h : Told announced m)
    (hfresh : ∀ info, msg = .new info → ∀ e ∈ m, e.1 ≠ info.gameId) :
    Told (announce announced msg) (GameList.handlePacket m msg) := by
  cases msg with
  | new info =>
      have hnew := hfresh info rfl
      have hnone : ¬ m.any (fun e => e.1 == info.gameId) = true := by
        rw [List.any_eq_true]
        rintro ⟨e, he, hid⟩
        exact hnew e he (beq_iff_eq.mp hid)
      simp only [GameList.handlePacket, addGameInfo, if_neg hnone, announce]
      intro e he
      rcases List.mem_append.mp he with he | he
      · rw [Function.update_of_ne (hnew e he)]
        exact h e he
      · rw [List.mem_singleton.mp he, Function.update_self]
  | update gameId gameMode =>
      simp only [GameList.handlePacket, announce]
      split_ifs with hclosed
      · intro e he
        obtain ⟨he, hid⟩ := List.mem_filter.mp he
        rw [Function.update_of_ne (by simpa using hid)]
        exact h e he
      · intro e he
        obtain ⟨e', he', rfl⟩ := List.mem_map.mp he
        split_ifs with hid
        · rw [hid, Function.update_self]
        · rw [Function.update_of_ne hid]
          exact h e' he'
  | playerJoined gameId playerId =>
      simp only [GameList.handlePacket, modifyGameInfoAddPlayer, announce]
      exact h.modify fun _ => rfl
  | playerLeft gameId playerId =>
      simp only [GameList.handlePacket, modifyGameInfoRemovePlayer, announce]
      exact h.modify fun _ => rfl
  | adminChanged gameId newAdminPlayerId =>
      simp only [GameList.handlePacket, updateGameInfoAdmin, announce]
      exact h.modify fun _ => rfl

theorem Told.handlePackets (h : Told announced m) (hold : ∀ info, ListMsg.new info ∉ msgs) :
    Told (msgs.foldl announce announced) (msgs.foldl GameList.handlePacket m) := by
  induction msgs generalizing announced m with
  | nil => exact h
  | cons msg msgs ih =>
      have hfirst (info : GameListNewMessage) : msg ≠ .new info := by
        rintro rfl
        exact hold info List.mem_cons_self
      have hnext : Told (announce announced msg) (GameList.handlePacket m msg) :=
        h.handlePacket fun info heq => absurd heq (hfirst info)
      exact ih hnext fun info hmem => hold info (List.mem_cons_of_mem _ hmem)

/-- A change is told to the clients so that their modes stay those that the lobby was told. -/
theorem told_change {c : Server.Change} (happart : Apart s) (hm : Mirrors s.games m) (h : Told announced m)
    (hchange : s.change c = some (s', msgs)) : Told (msgs.foldl announce announced) (msgs.foldl GameList.handlePacket m) := by
  cases c with
  | createGame name password gameData adminPlayerId =>
      cases hchange
      simp only [List.foldl_cons, List.foldl_nil]
      apply h.handlePacket
      intro info heq e he hid
      obtain ⟨g, hg, hgid⟩ := hm.exists_game he
      have hle := happart.bounded g hg
      cases heq
      rw [hgid] at hid
      rw [hid] at hle
      exact absurd hle (Nat.not_succ_le_self _)
  | internalRemoveGame gameId computerPlayers =>
      simp only [Server.change] at hchange
      split_ifs at hchange <;> cases hchange
      · exact h.handlePackets (by simp)
      · exact h
  | acceptNewSession gameId playerId position =>
      simp only [Server.change] at hchange
      split_ifs at hchange
      cases hchange
      exact h.handlePackets (by simp)
  | removePlayerData gameId playerId newAdmin =>
      cases hchange
      exact h.handlePackets (by simp)
  | sendStartEvent gameId | reopen gameId =>
      cases hchange
      exact h.handlePackets (by simp)
  | internalStartGame gameId | internalEndGame gameId =>
      cases hchange
      exact h

/-- The list of games that the server sends has the modes of its games. -/
theorem told_list (hmode : ∀ g ∈ games, mode g = announced g.id) (h : Told announced m) :
    Told announced ((games.map createNetPacketGameListNew).foldl GameList.handlePacket m) := by
  induction games generalizing m with
  | nil => exact h
  | cons g games ih =>
      apply ih fun g' hg' => hmode g' (List.mem_cons_of_mem _ hg')
      simp only [GameList.handlePacket, createNetPacketGameListNew, addGameInfo]
      by_cases hin : m.any (fun e => e.1 == g.id) = true
      · rw [if_pos hin]
        exact h
      · rw [if_neg hin]
        intro e he
        rcases List.mem_append.mp he with he | he
        · exact h e he
        · rw [List.mem_singleton.mp he]
          exact hmode g List.mem_cons_self

/-- The subscription in force on the server, the requests on their way to it and what the client asks for last. -/
def Pending : Bool → List SubscriptionAction → Bool → Prop
  | wants, [], subscribed => wants = subscribed
  | wants, .unsubscribeGameList :: rest, subscribed => wants = true ∧ Pending false rest subscribed
  | wants, .resubscribeGameList :: rest, subscribed => wants = false ∧ Pending true rest subscribed

theorem Pending.unsubscribe {wants : Bool} {requests : List SubscriptionAction} (h : Pending wants requests true) :
    Pending wants (requests ++ [.unsubscribeGameList]) false := by
  induction requests generalizing wants with
  | nil => exact ⟨h, rfl⟩
  | cons request requests ih => cases request <;> exact ⟨h.1, ih h.2⟩

theorem Pending.resubscribe {wants : Bool} {requests : List SubscriptionAction} (h : Pending wants requests false) :
    Pending wants (requests ++ [.resubscribeGameList]) true := by
  induction requests generalizing wants with
  | nil => exact ⟨h, rfl⟩
  | cons request requests ih => cases request <;> exact ⟨h.1, ih h.2⟩

/-- The client is subscribed, and the server has handled all its requests. -/
def Listening (l : Listing) : Prop := l.established = true ∧ l.subscribeLobbyMsg = true ∧ l.toServer = []

structure Viewed (announced : Nat → GameMode) (l : Listing) : Prop where
  pending : Pending l.wantsLobbyMsg l.toServer l.subscribeLobbyMsg
  mirrors : Listening l → Mirrors l.server.games l.shown
  told : Listening l → Told announced l.shown

theorem Viewed.wants (h : Viewed announced l) (hlistening : Listening l) : l.wantsLobbyMsg = true := by
  have hpending := h.pending
  rw [hlistening.2.1, hlistening.2.2] at hpending
  exact hpending

theorem Viewed.change {c : Server.Change} (h : Viewed announced l) (happart : Apart l.server)
    (hchange : l.server.change c = some (s', msgs)) :
    Viewed (msgs.foldl announce announced) ({ l with server := s' }.sendLobbyMsg msgs) := by
  by_cases hon : (l.established && l.wantsLobbyMsg) = true
  · have hshown : ({ l with server := s', toClient := l.toClient ++ msgs } : Listing).shown =
        msgs.foldl GameList.handlePacket l.shown := by
      rw [Listing.shown, Listing.shown, List.foldl_append]
    rw [Listing.sendLobbyMsg, if_pos hon]
    refine ⟨h.pending, fun hlistening => ?_, fun hlistening => ?_⟩ <;> rw [hshown]
    · exact (Server.change_mirrors happart hchange).2 _ (h.mirrors hlistening)
    · exact told_change happart (h.mirrors hlistening) (h.told hlistening) hchange
  · -- a client that hears nothing does not listen
    have hoff (hlistening : Listening l) : False := hon (by rw [hlistening.1, h.wants hlistening]; rfl)
    rw [Listing.sendLobbyMsg, if_neg hon]
    exact ⟨h.pending, fun hlistening => (hoff hlistening).elim, fun hlistening => (hoff hlistening).elim⟩

theorem shown_sendGameList (happart : Apart l.server) (hempty : l.shown = [])
    (hmode : ∀ g ∈ l.server.games, mode g = announced g.id) :
    Mirrors l.server.games l.sendGameList.shown ∧ Told announced l.sendGameList.shown := by
  have hshown : l.sendGameList.shown = (l.server.games.map createNetPacketGameListNew).foldl GameList.handlePacket [] := by
    rw [Listing.shown, Listing.sendGameList, List.foldl_append]
    exact congrArg (List.foldl GameList.handlePacket · _) hempty
  have hnone : Told announced [] := by
    intro e he
    cases he
  rw [hshown]
  exact ⟨Listing.mirrors_list happart, told_list hmode hnone⟩

/-- What a client does keeps its view, if the list of games is sent to it in time. -/
theorem Viewed.client {e : ClientEvent} (h : Viewed announced l) (happart : Apart l.server)
    (hfire : l.fire e.toEvent = some l')
    (htimely : SendsList l e → (∀ g ∈ l.server.games, mode g = announced g.id) ∧ l.shown = []) : Viewed announced l' := by
  cases e with
  | establishSession =>
      obtain ⟨hmode, hempty⟩ := htimely trivial
      obtain ⟨hmirrors, htold⟩ := shown_sendGameList happart hempty hmode
      simp only [ClientEvent.toEvent, Listing.fire] at hfire
      split_ifs at hfire
      cases hfire
      exact ⟨h.pending, fun _ => hmirrors, fun _ => htold⟩
  | handleRequest =>
      have hpending := h.pending
      simp only [ClientEvent.toEvent, Listing.fire] at hfire
      cases hserver : l.toServer with
      | nil =>
          rw [hserver] at hfire
          cases hfire
      | cons request rest =>
          rw [hserver] at hfire hpending
          cases request with
          | unsubscribeGameList =>
              cases hfire
              have hnot (hlistening : Listening { l with toServer := rest, wantsLobbyMsg := false }) : False := by
                have hlast := hpending.2
                obtain ⟨-, hsubscribe, hrest⟩ := hlistening
                dsimp only at hsubscribe hrest
                rw [hsubscribe, hrest] at hlast
                cases hlast
              exact ⟨hpending.2, fun hlistening => (hnot hlistening).elim, fun hlistening => (hnot hlistening).elim⟩
          | resubscribeGameList =>
              cases hfire
              rw [Listing.internalResubscribeMsg, if_neg (by simp [hpending.1])]
              have hsent (hrest : rest = []) := @shown_sendGameList { l with toServer := rest, wantsLobbyMsg := true }
                announced happart (htimely (by rw [SendsList, hserver, hrest])).2
                (htimely (by rw [SendsList, hserver, hrest])).1
              exact ⟨hpending.2, fun hlistening => (hsent hlistening.2.2).1, fun hlistening => (hsent hlistening.2.2).2⟩
  | handlePacket =>
      simp only [ClientEvent.toEvent, Listing.fire] at hfire
      cases hclient : l.toClient with
      | nil =>
          rw [hclient] at hfire
          cases hfire
      | cons msg toClient =>
          rw [hclient] at hfire
          cases hfire
          -- what the client shows in the end is the same
          have hmirrors := h.mirrors
          have htold := h.told
          rw [Listing.shown, hclient] at hmirrors htold
          exact ⟨h.pending, hmirrors, htold⟩
  | unsubscribe =>
      simp only [ClientEvent.toEvent, Listing.fire, Listing.unsubscribeLobbyMsg] at hfire
      split_ifs at hfire with _ hsubscribe <;> cases hfire
      · have hpending := h.pending
        rw [hsubscribe] at hpending
        refine ⟨hpending.unsubscribe, fun hlistening => ?_, fun hlistening => ?_⟩ <;> cases hlistening.2.1
      · exact h
  | resubscribe =>
      simp only [ClientEvent.toEvent, Listing.fire, Listing.resubscribeLobbyMsg] at hfire
      split_ifs at hfire with _ hsubscribe <;> cases hfire
      · exact h
      · have hpending := h.pending
        rw [Bool.eq_false_iff.mpr hsubscribe] at hpending
        refine ⟨hpending.resubscribe, fun hlistening => ?_, fun hlistening => ?_⟩ <;>
          exact absurd hlistening.2.2 (List.append_ne_nil_of_right_ne_nil _ (List.cons_ne_nil _ _))

theorem server_sendLobbyMsg : (l.sendLobbyMsg msgs).server = l.server := by
  rw [Listing.sendLobbyMsg]
  split_ifs <;> rfl

theorem server_client {e : ClientEvent} (hfire : l.fire e.toEvent = some l') : l'.server = l.server := by
  cases e with
  | establishSession =>
      simp only [ClientEvent.toEvent, Listing.fire] at hfire
      split_ifs at hfire
      cases hfire
      rfl
  | handleRequest =>
      simp only [ClientEvent.toEvent, Listing.fire] at hfire
      split at hfire
      · cases hfire
      · cases hfire
        rfl
      · cases hfire
        rw [Listing.internalResubscribeMsg]
        split_ifs <;> rfl
  | handlePacket =>
      simp only [ClientEvent.toEvent, Listing.fire] at hfire
      split at hfire <;> cases hfire
      rfl
  | unsubscribe =>
      simp only [ClientEvent.toEvent, Listing.fire, Listing.unsubscribeLobbyMsg] at hfire
      split_ifs at hfire <;> cases hfire <;> rfl
  | resubscribe =>
      simp only [ClientEvent.toEvent, Listing.fire, Listing.resubscribeLobbyMsg] at hfire
      split_ifs at hfire <;> cases hfire <;> rfl

theorem listing_tell (i : Nat) : (w.tell s msgs).listing i = { w.listing i with server := s }.sendLobbyMsg msgs := by
  have hserver : ({ w.listing i with server := s }.sendLobbyMsg msgs).server = s := server_sendLobbyMsg
  generalize hl : { w.listing i with server := s }.sendLobbyMsg msgs = l at hserver
  subst hserver
  simp only [listing, tell] at hl ⊢
  rw [hl]
  rfl

theorem listing_update_self (hserver : l.server = w.server) :
    listing { w with clients := Function.update w.clients i l.client } i = l := by
  simp only [listing, Function.update_self, Listing.client, ← hserver]

theorem listing_update_of_ne (hne : j ≠ i) :
    listing { w with clients := Function.update w.clients i l.client } j = w.listing j := by
  simp only [listing, Function.update_of_ne hne]

structure Sound (w : Views) : Prop where
  apart : Apart w.server
  viewed : ∀ i, Viewed w.announced (w.listing i)

theorem sound_start : Sound start := by
  refine ⟨Listing.apart_start, fun i => ⟨rfl, fun hlistening => ?_, fun hlistening => ?_⟩⟩ <;> cases hlistening.1

theorem Sound.fire (h : Sound w) (hfire : w.fire e = some w') (htimely : w.Timely e) : Sound w' := by
  cases e with
  | change c =>
      obtain ⟨⟨s', msgs⟩, hchange, rfl⟩ := Option.map_eq_some_iff.mp hfire
      refine ⟨(Server.change_mirrors h.apart hchange).1, fun i => ?_⟩
      rw [listing_tell]
      exact (h.viewed i).change h.apart hchange
  | client i e =>
      obtain ⟨l, hl, rfl⟩ := Option.map_eq_some_iff.mp hfire
      refine ⟨h.apart, fun j => ?_⟩
      by_cases hij : j = i
      · subst hij
        rw [listing_update_self (server_client hl)]
        exact (h.viewed j).client h.apart hl htimely
      · rw [listing_update_of_ne hij]
        exact h.viewed j

theorem Sound.upToDate (h : Sound w) (hi : w.UpToDate i) :
    Mirrors w.server.games (w.clients i).gameInfoMap ∧ Told w.announced (w.clients i).gameInfoMap := by
  have hlistening : Listening (w.listing i) := ⟨hi.established, hi.subscribed, hi.toServer⟩
  have hshown : (w.listing i).shown = (w.clients i).gameInfoMap := by
    simp only [Listing.shown, listing, hi.toClient, List.foldl_nil]
  rw [← hshown]
  exact ⟨(h.viewed i).mirrors hlistening, (h.viewed i).told hlistening⟩

/-- Two clients that show the same games, with the modes that were told, hold the same of each. -/
theorem sameInfo_of_told {m' : GameInfoMap} (hm : Mirrors games m) (hm' : Mirrors games m') (h : Told announced m)
    (h' : Told announced m') : List.Forall₂ SameInfo m m' := by
  induction hm generalizing m' with
  | nil =>
      cases hm'
      exact .nil
  | @cons g e games m hfirst _ ih =>
      cases hm' with
      | @cons _ e' _ m' hfirst' hrest' =>
          have hid : e.1 = e'.1 := hfirst.id.trans hfirst'.id.symm
          refine .cons ⟨hid, hfirst.players.trans hfirst'.players.symm,
            hfirst.adminPlayerId.trans hfirst'.adminPlayerId.symm, ?_⟩
            (ih hrest' (fun e he => h e (List.mem_cons_of_mem _ he)) fun e he => h' e (List.mem_cons_of_mem _ he))
          rw [h e List.mem_cons_self, h' e' List.mem_cons_self, hid]

/-- Clients that are up to date show the games of the server, and all hold the same of each of them. -/
theorem views_agree (hrun : Runs.Trace fire Timely start hist w) (hi : w.UpToDate i) (hj : w.UpToDate j) :
    Mirrors w.server.games (w.clients i).gameInfoMap ∧
      List.Forall₂ SameInfo (w.clients i).gameInfoMap (w.clients j).gameInfoMap := by
  have hsound : Sound w := @Runs.Trace.invariant _ _ _ _ _ _ _ (fun _ w => Sound w) sound_start
    (fun _ _ _ _ h hfire htimely => h.fire hfire htimely) hrun
  obtain ⟨hm, htold⟩ := hsound.upToDate hi
  obtain ⟨hm', htold'⟩ := hsound.upToDate hj
  exact ⟨hm, sameInfo_of_told hm hm' htold htold'⟩

def opening : List Event :=
  [.client 0 .establishSession, .change (.createGame [65] "" GameSettings.idleList 7),
    .change (.acceptNewSession 1 7 0)]

/-- A client comes before the start event of a game, and resubscribes when the game runs. -/
theorem views_agree_started : ∃ w : Views, (w.clients 1).gameInfoMap.map (fun e => e.2.mode) = [.started] ∧
    Mirrors w.server.games (w.clients 1).gameInfoMap ∧
    List.Forall₂ SameInfo (w.clients 1).gameInfoMap (w.clients 0).gameInfoMap := by
  obtain ⟨hist, w, hrun, htest⟩ := Runs.exists_trace fire Timely (fun w e => decide (w.Timely e)) start
    (opening ++ [.client 1 .establishSession, .client 1 .handlePacket, .change (.sendStartEvent 1), .client 1 .handlePacket,
      .client 1 .unsubscribe, .client 1 .handleRequest, .change (.internalStartGame 1), .client 1 .resubscribe,
      .client 1 .handleRequest, .client 1 .handlePacket, .client 0 .handlePacket, .client 0 .handlePacket,
      .client 0 .handlePacket])
    (fun w => decide (w.UpToDate 0 ∧ w.UpToDate 1 ∧ (w.clients 1).gameInfoMap.map (fun e => e.2.mode) = [.started]))
    (by decide +kernel) (fun _ _ => of_decide_eq_true)
  obtain ⟨hfirst, hsecond, hmode⟩ := of_decide_eq_true htest
  exact ⟨w, hmode, views_agree hrun hsecond hfirst⟩

/-- A client that comes between the start event of a game and its start holds that the game is open, when all others
hold that it has started. A client in a hurry keeps a game that is gone. -/
theorem views_differ :
    (∃ hist w, Runs.Trace fire (fun _ _ => True) start hist w ∧ w.UpToDate 0 ∧ w.UpToDate 1 ∧
      (w.clients 0).gameInfoMap.map (fun e => (e.1, e.2.mode)) = [(1, .started)] ∧
      (w.clients 1).gameInfoMap.map (fun e => (e.1, e.2.mode)) = [(1, .created)]) ∧
    ∃ hist w, Runs.Trace fire (fun _ _ => True) start hist w ∧ w.UpToDate 0 ∧ w.server.games = [] ∧
      (w.clients 0).gameInfoMap.map (fun e => e.1) = [1] := by
  constructor
  · obtain ⟨hist, w, hrun, htest⟩ := Runs.exists_trace fire (fun _ _ => True) (fun _ _ => true) start
      (opening ++ [.change (.sendStartEvent 1), .client 1 .establishSession, .change (.internalStartGame 1),
        .client 0 .handlePacket, .client 0 .handlePacket, .client 0 .handlePacket, .client 1 .handlePacket])
      (fun w => decide (w.UpToDate 0 ∧ w.UpToDate 1 ∧
        (w.clients 0).gameInfoMap.map (fun e => (e.1, e.2.mode)) = [(1, .started)] ∧
        (w.clients 1).gameInfoMap.map (fun e => (e.1, e.2.mode)) = [(1, .created)]))
      (by decide +kernel) fun _ _ _ => trivial
    exact ⟨hist, w, hrun, of_decide_eq_true htest⟩
  · obtain ⟨hist, w, hrun, htest⟩ := Runs.exists_trace fire (fun _ _ => True) (fun _ _ => true) start
      [.client 0 .establishSession, .change (.createGame [65] "" GameSettings.idleList 7), .client 0 .unsubscribe,
        .client 0 .resubscribe, .client 0 .handlePacket, .client 0 .handleRequest, .change (.internalRemoveGame 1 []),
        .client 0 .handleRequest]
      (fun w => decide (w.UpToDate 0 ∧ w.server.games = [] ∧ (w.clients 0).gameInfoMap.map (fun e => e.1) = [1]))
      (by decide +kernel) fun _ _ _ => trivial
    exact ⟨hist, w, hrun, of_decide_eq_true htest⟩

end Views

end PokerTH.GameList
