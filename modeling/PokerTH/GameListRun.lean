import PokerTH.GameList

namespace PokerTH.GameList

inductive SubscriptionAction
  | unsubscribeGameList | resubscribeGameList
  deriving DecidableEq, Repr

/-- The server and one of its clients, with the messages between them. The session is in the lobby or in a game once
it is `established`. -/
structure Listing where
  server : Server
  established : Bool
  wantsLobbyMsg : Bool
  toClient : List ListMsg
  toServer : List SubscriptionAction
  gameInfoMap : GameInfoMap
  subscribeLobbyMsg : Bool
  deriving DecidableEq, Repr

namespace Listing

def start : Listing := ⟨⟨[], 0⟩, false, true, [], [], [], true⟩

section

variable (l : Listing)

def sendGameList : Listing := { l with toClient := l.toClient ++ l.server.games.map createNetPacketGameListNew }

def sendLobbyMsg (msgs : List ListMsg) : Listing :=
  if l.established && l.wantsLobbyMsg then { l with toClient := l.toClient ++ msgs } else l

def internalResubscribeMsg : Listing :=
  if l.wantsLobbyMsg then l else { l with wantsLobbyMsg := true }.sendGameList

def unsubscribeLobbyMsg : Listing :=
  if l.subscribeLobbyMsg then
    { l with toServer := l.toServer ++ [.unsubscribeGameList], subscribeLobbyMsg := false }
  else l

def resubscribeLobbyMsg : Listing :=
  if l.subscribeLobbyMsg then l
  else
    { l with toServer := l.toServer ++ [.resubscribeGameList], gameInfoMap := [], subscribeLobbyMsg := true }

end

inductive Event
  | change (c : Server.Change)
  | establishSession
  | handleRequest
  | handlePacket
  | unsubscribe
  | resubscribe

def fire (l : Listing) : Event → Option Listing
  | .change c => (l.server.change c).map fun next => { l with server := next.1 }.sendLobbyMsg next.2
  | .establishSession => if l.established then none else some { l.sendGameList with established := true }
  | .handleRequest =>
      match l.toServer with
      | [] => none
      | .unsubscribeGameList :: toServer => some { l with toServer, wantsLobbyMsg := false }
      | .resubscribeGameList :: toServer => some { l with toServer }.internalResubscribeMsg
  | .handlePacket =>
      match l.toClient with
      | [] => none
      | msg :: toClient => some { l with toClient, gameInfoMap := GameList.handlePacket l.gameInfoMap msg }
  | .unsubscribe => if l.established then some l.unsubscribeLobbyMsg else none
  | .resubscribe => if l.established then some l.resubscribeLobbyMsg else none

/-- The client does not resubscribe while something of the time before is on its way. -/
def Patient (l : Listing) : Event → Prop
  | .resubscribe => l.subscribeLobbyMsg = false → l.toServer = [] ∧ l.toClient = []
  | _ => True

instance (l : Listing) : (e : Event) → Decidable (Patient l e)
  | .resubscribe => inferInstanceAs (Decidable (l.subscribeLobbyMsg = false → l.toServer = [] ∧ l.toClient = []))
  | .change _ | .establishSession | .handleRequest | .handlePacket | .unsubscribe => inferInstanceAs (Decidable True)

def shown (l : Listing) : GameInfoMap := l.toClient.foldl GameList.handlePacket l.gameInfoMap

inductive Phase (l : Listing) : Prop
  | entering (hestablished : l.established = false) (hsubscribe : l.subscribeLobbyMsg = true)
      (hwants : l.wantsLobbyMsg = true) (hserver : l.toServer = []) (hclient : l.toClient = [])
      (hmap : l.gameInfoMap = [])
  | listening (hestablished : l.established = true) (hsubscribe : l.subscribeLobbyMsg = true)
      (hwants : l.wantsLobbyMsg = true) (hserver : l.toServer = []) (hshown : Mirrors l.server.games l.shown)
  | leaving (hestablished : l.established = true) (hsubscribe : l.subscribeLobbyMsg = false)
      (hwants : l.wantsLobbyMsg = true) (hserver : l.toServer = [.unsubscribeGameList])
  | away (hestablished : l.established = true) (hsubscribe : l.subscribeLobbyMsg = false)
      (hwants : l.wantsLobbyMsg = false) (hserver : l.toServer = [])
  | returning (hestablished : l.established = true) (hsubscribe : l.subscribeLobbyMsg = true)
      (hwants : l.wantsLobbyMsg = false) (hserver : l.toServer = [.resubscribeGameList]) (hclient : l.toClient = [])
      (hmap : l.gameInfoMap = [])
  | turning (hestablished : l.established = true) (hsubscribe : l.subscribeLobbyMsg = false)
      (hwants : l.wantsLobbyMsg = false) (hserver : l.toServer = [.resubscribeGameList, .unsubscribeGameList])

variable {l l' : Listing} {e : Event} {hist : List (Listing × Event)} {s s' : Server} {msgs : List ListMsg}

theorem mirrors_list (h : Apart s) :
    Mirrors s.games ((s.games.map createNetPacketGameListNew).foldl GameList.handlePacket []) :=
  Mirrors.list .nil h.ids

theorem sendLobbyMsg_off (hoff : (l.established && l.wantsLobbyMsg) = false) : l.sendLobbyMsg msgs = l := by
  rw [sendLobbyMsg, hoff]
  rfl

theorem sendLobbyMsg_on (hon : (l.established && l.wantsLobbyMsg) = true) :
    l.sendLobbyMsg msgs = { l with toClient := l.toClient ++ msgs } := by
  rw [sendLobbyMsg, if_pos hon]

theorem Phase.change {c : Server.Change} (h : Phase l) (happart : Apart l.server)
    (hchange : l.server.change c = some (s', msgs)) : Phase ({ l with server := s' }.sendLobbyMsg msgs) := by
  cases h with
  | entering hestablished hsubscribe hwants hserver hclient hmap =>
      rw [sendLobbyMsg_off (by simp [hestablished])]
      exact .entering hestablished hsubscribe hwants hserver hclient hmap
  | listening hestablished hsubscribe hwants hserver hshown =>
      rw [sendLobbyMsg_on (by simp [hestablished, hwants])]
      refine .listening hestablished hsubscribe hwants hserver ?_
      change Mirrors s'.games ((l.toClient ++ msgs).foldl GameList.handlePacket l.gameInfoMap)
      rw [List.foldl_append]
      exact (Server.change_mirrors happart hchange).2 _ hshown
  | leaving hestablished hsubscribe hwants hserver =>
      rw [sendLobbyMsg_on (by simp [hestablished, hwants])]
      exact .leaving hestablished hsubscribe hwants hserver
  | away hestablished hsubscribe hwants hserver =>
      rw [sendLobbyMsg_off (by simp [hwants])]
      exact .away hestablished hsubscribe hwants hserver
  | returning hestablished hsubscribe hwants hserver hclient hmap =>
      rw [sendLobbyMsg_off (by simp [hwants])]
      exact .returning hestablished hsubscribe hwants hserver hclient hmap
  | turning hestablished hsubscribe hwants hserver =>
      rw [sendLobbyMsg_off (by simp [hwants])]
      exact .turning hestablished hsubscribe hwants hserver

theorem Phase.handleRequest (h : Phase l) (happart : Apart l.server) (hfire : l.fire .handleRequest = some l') :
    Phase l' := by
  simp only [fire] at hfire
  cases h with
  | entering _ _ _ hserver | listening _ _ _ hserver | away _ _ _ hserver =>
      rw [hserver] at hfire
      cases hfire
  | leaving hestablished hsubscribe _ hserver =>
      rw [hserver] at hfire
      cases hfire
      exact .away hestablished hsubscribe rfl rfl
  | returning hestablished hsubscribe hwants hserver hclient hmap =>
      rw [hserver] at hfire
      cases hfire
      simp only [internalResubscribeMsg, hwants, sendGameList]
      refine .listening hestablished hsubscribe rfl rfl ?_
      simp only [shown, hclient, hmap, List.nil_append]
      exact mirrors_list happart
  | turning hestablished hsubscribe hwants hserver =>
      rw [hserver] at hfire
      cases hfire
      simp only [internalResubscribeMsg, hwants, sendGameList]
      exact .leaving hestablished hsubscribe rfl rfl

theorem Phase.handlePacket (h : Phase l) (hfire : l.fire .handlePacket = some l') : Phase l' := by
  simp only [fire] at hfire
  cases hclient : l.toClient with
  | nil =>
      rw [hclient] at hfire
      cases hfire
  | cons msg toClient =>
      rw [hclient] at hfire
      cases hfire
      cases h with
      | entering _ _ _ _ hnone | returning _ _ _ _ hnone =>
          rw [hnone] at hclient
          cases hclient
      | listening hestablished hsubscribe hwants hserver hshown =>
          refine .listening hestablished hsubscribe hwants hserver ?_
          rw [shown, hclient] at hshown
          exact hshown
      | leaving hestablished hsubscribe hwants hserver => exact .leaving hestablished hsubscribe hwants hserver
      | away hestablished hsubscribe hwants hserver => exact .away hestablished hsubscribe hwants hserver
      | turning hestablished hsubscribe hwants hserver => exact .turning hestablished hsubscribe hwants hserver

theorem Phase.unsubscribe (h : Phase l) (hestablished : l.established = true) : Phase l.unsubscribeLobbyMsg := by
  rw [unsubscribeLobbyMsg]
  split_ifs with hsubscribe
  · cases h with
    | entering hnot =>
        rw [hestablished] at hnot
        cases hnot
    | listening _ _ hwants hserver => exact .leaving hestablished rfl hwants (by rw [hserver]; rfl)
    | leaving _ hnot | away _ hnot | turning _ hnot =>
        rw [hsubscribe] at hnot
        cases hnot
    | returning _ _ hwants hserver => exact .turning hestablished rfl hwants (by rw [hserver]; rfl)
  · exact h

theorem Phase.resubscribe (h : Phase l) (hestablished : l.established = true) (hpatient : Patient l .resubscribe) :
    Phase l.resubscribeLobbyMsg := by
  rw [resubscribeLobbyMsg]
  split_ifs with hsubscribe
  · exact h
  · rw [Bool.not_eq_true] at hsubscribe
    obtain ⟨hserver, hclient⟩ := hpatient hsubscribe
    cases h with
    | entering hnot =>
        rw [hestablished] at hnot
        cases hnot
    | listening _ hnot | returning _ hnot =>
        rw [hsubscribe] at hnot
        cases hnot
    | leaving _ _ _ hnot | turning _ _ _ hnot =>
        rw [hserver] at hnot
        cases hnot
    | away _ _ hwants _ => exact .returning hestablished rfl hwants (by rw [hserver]; rfl) hclient rfl

theorem Phase.establish (h : Phase l) (happart : Apart l.server) (hnew : l.established = false) :
    Phase { l.sendGameList with established := true } := by
  cases h with
  | entering _ hsubscribe hwants hserver hclient hmap =>
      refine .listening rfl hsubscribe hwants hserver ?_
      simp only [shown, sendGameList, hclient, hmap, List.nil_append]
      exact mirrors_list happart
  | listening hnot | leaving hnot | away hnot | returning hnot | turning hnot =>
      rw [hnew] at hnot
      cases hnot

theorem apart_start : Apart start.server := by
  refine ⟨List.nodup_nil, ?_, ?_⟩
  all_goals
    intro g hg
    cases hg

theorem Phase.fire (hphase : Phase l) (happart : Apart l.server) (hfire : l.fire e = some l')
    (hpatient : Patient l e) : Apart l'.server ∧ Phase l' := by
  cases e with
  | change c =>
      obtain ⟨⟨s', msgs⟩, hchange, rfl⟩ := Option.map_eq_some_iff.mp hfire
      refine ⟨?_, hphase.change happart hchange⟩
      rw [sendLobbyMsg]
      split_ifs <;> exact (Server.change_mirrors happart hchange).1
  | establishSession =>
      simp only [Listing.fire] at hfire
      split_ifs at hfire with hold
      cases hfire
      exact ⟨happart, hphase.establish happart (by simpa using hold)⟩
  | handleRequest =>
      refine ⟨?_, hphase.handleRequest happart hfire⟩
      simp only [Listing.fire] at hfire
      split at hfire
      · cases hfire
      · cases hfire
        exact happart
      · cases hfire
        rw [internalResubscribeMsg]
        split_ifs <;> exact happart
  | handlePacket =>
      refine ⟨?_, hphase.handlePacket hfire⟩
      simp only [Listing.fire] at hfire
      split at hfire <;> cases hfire
      exact happart
  | unsubscribe =>
      simp only [Listing.fire] at hfire
      split_ifs at hfire with hestablished
      cases hfire
      refine ⟨?_, hphase.unsubscribe hestablished⟩
      rw [unsubscribeLobbyMsg]
      split_ifs <;> exact happart
  | resubscribe =>
      simp only [Listing.fire] at hfire
      split_ifs at hfire with hestablished
      cases hfire
      refine ⟨?_, hphase.resubscribe hestablished hpatient⟩
      rw [resubscribeLobbyMsg]
      split_ifs <;> exact happart

theorem run_phase (hrun : Runs.Trace Listing.fire Patient start hist l) : Apart l.server ∧ Phase l := by
  induction hrun with
  | start => exact ⟨apart_start, .entering rfl rfl rfl rfl rfl rfl⟩
  | step _ hfire hpatient ih => exact ih.2.fire ih.1 hfire hpatient

/-- A client that listens to the lobby has its games: those that it shows, after the messages on their way, are the
games of the server, with their settings, their admins and their players. -/
theorem listed (hrun : Runs.Trace Listing.fire Patient start hist l) (hestablished : l.established = true)
    (hsubscribe : l.subscribeLobbyMsg = true) (hserver : l.toServer = []) : Mirrors l.server.games l.shown := by
  cases (run_phase hrun).2 with
  | entering hnot =>
      rw [hestablished] at hnot
      cases hnot
  | listening _ _ _ _ hshown => exact hshown
  | leaving _ hnot | away _ hnot | turning _ hnot =>
      rw [hsubscribe] at hnot
      cases hnot
  | returning _ _ _ hnot =>
      rw [hserver] at hnot
      cases hnot

def evening : List Event :=
  [.change (.createGame [65] "" GameSettings.idleList 7), .establishSession, .change (.acceptNewSession 1 7 0),
    .handlePacket, .handlePacket, .unsubscribe, .handleRequest, .change (.createGame [66] "" GameSettings.idleList 8),
    .change (.internalRemoveGame 1 []), .resubscribe, .handleRequest, .change (.acceptNewSession 2 8 0)]

theorem listed_evening : ∃ l : Listing, l.server.games.length = 1 ∧ l.toClient.length = 2 ∧
    Mirrors l.server.games l.shown := by
  obtain ⟨hist, l, hrun, htest⟩ := Runs.exists_trace Listing.fire Patient
    (fun l e => decide (Patient l e)) start evening
    (fun l => decide (l.established = true ∧ l.subscribeLobbyMsg = true ∧ l.toServer = [] ∧
      l.server.games.length = 1 ∧ l.toClient.length = 2)) (by decide) (fun l e => of_decide_eq_true)
  obtain ⟨hestablished, hsubscribe, hserver, hgames, hclient⟩ := of_decide_eq_true htest
  exact ⟨l, hgames, hclient, listed hrun hestablished hsubscribe hserver⟩

/-- A client that is in a hurry keeps a game that has ended: the message about it comes after the games are dropped. -/
def hurry : List Event :=
  [.establishSession, .change (.createGame [65] "" GameSettings.idleList 7), .unsubscribe, .resubscribe, .handlePacket,
    .handleRequest, .change (.internalRemoveGame 1 []), .handleRequest]

theorem hurry_ghost : ∃ hist l, Runs.Trace Listing.fire (fun _ _ => True) start hist l ∧ l.established = true ∧
    l.subscribeLobbyMsg = true ∧ l.toServer = [] ∧ l.toClient = [] ∧ l.server.games = [] ∧
      l.gameInfoMap.map (·.1) = [1] := by
  obtain ⟨hist, l, hrun, htest⟩ := Runs.exists_trace Listing.fire (fun _ _ => True) (fun _ _ => true) start hurry
    (fun l => decide (l.established = true ∧ l.subscribeLobbyMsg = true ∧ l.toServer = [] ∧ l.toClient = [] ∧
      l.server.games = [] ∧ l.gameInfoMap.map (·.1) = [1])) (by decide) fun _ _ _ => trivial
  exact ⟨hist, l, hrun, of_decide_eq_true htest⟩

end Listing

end PokerTH.GameList
