import PokerTH.Admin
import PokerTH.Kin

namespace PokerTH

/-- A login that the server has acknowledged: the name, the player id and the session id that it gave out. -/
structure Login where
  name : String
  playerId : Nat
  guid : String
  deriving DecidableEq

def PlayerSession.login (s : PlayerSession) : Login := ⟨s.name, s.uniqueId, s.guid⟩

/-- A seat has the session id of a login of its player, or none if it is a computer player's or a kicked player's. -/
def SeatsKnown (logins : List Login) (names : Ref → String) (t : Table) : Prop :=
  ∀ r ∈ t.seatsList,
    (t.players r).myGuid = "" ∧ ((t.players r).myType = .computer ∨ (t.players r).isKicked = true) ∨
      (⟨names r, (t.players r).myUniqueID, (t.players r).myGuid⟩ : Login) ∈ logins

variable {logins : List Login} {names : Ref → String} {t t' : Table}

theorem SeatsKnown.same (hk : SeatsKnown logins names t) (hs : SameSeats t t') : SeatsKnown logins names t' := by
  intro r hr
  rw [hs.seatsList] at hr
  have hkin := hs.kin r
  simp only [Player.kin, Prod.mk.injEq] at hkin
  obtain ⟨hid, hguid, htype, hkicked⟩ := hkin
  rw [hid, hguid, htype, hkicked]
  exact hk r hr

theorem SeatsKnown.players (hk : SeatsKnown logins names t) {players : Players}
    (hp : ∀ r, (players r).kin = (t.players r).kin ∨ (players r).myGuid = "" ∧ (players r).isKicked = true) :
    SeatsKnown logins names { t with players } := by
  intro r hr
  rcases hp r with hkin | ⟨hguid, hkicked⟩
  · simp only [Player.kin, Prod.mk.injEq] at hkin
    obtain ⟨hid, hguid, htype, hkicked⟩ := hkin
    simp only [hid, hguid, htype, hkicked]
    exact hk r hr
  · exact .inl ⟨hguid, .inr hkicked⟩

theorem SeatsKnown.more (hk : SeatsKnown logins names t) (more : List Login) :
    SeatsKnown (logins ++ more) names t := by
  intro r hr
  rcases hk r hr with hnone | hlogin
  · exact .inl hnone
  · exact .inr (List.mem_append_left _ hlogin)

namespace ServerGame

open Roster

variable {g g' : ServerGame} {state : ServerState} {sid playerId : Nat} {s : PlayerSession} {d : Draws} {msg : GameMsg}
  {e : Event} {r r' : Roster}

theorem updateByUniqueId_cases {f : Player → Player} (uniqueId : Nat) (t : Table) (r : Ref) :
    updateByUniqueId uniqueId f t r = t.players r ∨ updateByUniqueId uniqueId f t r = f (t.players r) := by
  simp only [updateByUniqueId]
  cases findPlayer t.players t.seatsList uniqueId with
  | none => exact .inl rfl
  | some q =>
      by_cases hr : r = q
      · subst hr
        exact .inr (by simp [updatePlayer])
      · exact .inl (by simp [updatePlayer, hr])

theorem seatsKnown_markAsKicked (hk : SeatsKnown logins names t) (uniqueId : Nat) :
    SeatsKnown logins names { t with players := updateByUniqueId uniqueId markAsKicked t } := by
  apply hk.players
  intro r
  rcases @updateByUniqueId_cases markAsKicked uniqueId t r with h | h
  · rw [h]
    exact .inl rfl
  · rw [h]
    exact .inr ⟨rfl, rfl⟩

theorem seatsKnown_setActive (hk : SeatsKnown logins names t) (uniqueId : Nat) (b : Bool) :
    SeatsKnown logins names
      { t with players := updateByUniqueId uniqueId (fun p => { p with isSessionActive := b }) t } := by
  apply hk.players
  intro r
  rcases @updateByUniqueId_cases (fun p => { p with isSessionActive := b }) uniqueId t r with h | h
  · rw [h]
    exact .inl rfl
  · rw [h]
    exact .inl rfl

/-- Everybody who is in the game has logged in, and so has everybody who has a seat in it. -/
structure Recorded (logins : List Login) (g : ServerGame) : Prop where
  guests : ∀ s ∈ g.sessions, s.login ∈ logins
  computers : ∀ p ∈ g.computerPlayers, p.type = .computer ∧ p.guid = ""
  seats : ∀ p, g.playing = some p → SeatsKnown logins p.names p.betting.hand.toTable

theorem guests_leaves (hleaves : Leaves r r') (hguests : ∀ s ∈ r.sessions, s.login ∈ logins) :
    ∀ s ∈ r'.sessions, s.login ∈ logins := by
  apply @Runs.invariant _ _ (fun r : Roster => ∀ s ∈ r.sessions, s.login ∈ logins) _ _ hguests _ hleaves
  intro r r' hguests hleave s hs
  cases hleave with
  | member => exact hguests s (mem_others.mp hs).1
  | admin =>
      obtain ⟨p, hp, rfl⟩ := List.mem_map.mp hs
      have hlogin := hguests p (mem_others.mp hp).1
      simp only [mark]
      split_ifs
      · exact hlogin
      · exact hlogin
  | ready f =>
      obtain ⟨p, hp, rfl⟩ := List.mem_map.mp hs
      exact hguests p hp
  | clear => cases hs

def room (g : ServerGame) : List Participant × Option Playing := (g.computerPlayers, g.playing)

theorem Recorded.leaves (hr : Recorded logins g) (hleaves : Leaves g.roster g'.roster) (hroom : g'.room = g.room) :
    Recorded logins g' := by
  simp only [room, Prod.mk.injEq] at hroom
  refine ⟨guests_leaves hleaves hr.guests, ?_, ?_⟩
  · rw [hroom.1]
    exact hr.computers
  · rw [hroom.2]
    exact hr.seats

theorem Recorded.more (hr : Recorded logins g) (more : List Login) : Recorded (logins ++ more) g :=
  ⟨fun s hs => List.mem_append_left _ (hr.guests s hs), hr.computers, fun p hp => (hr.seats p hp).more more⟩

@[simp] theorem room_registerAdminTimer : g.registerAdminTimer.room = g.room := by
  simp only [registerAdminTimer]
  split_ifs <;> rfl

@[simp] theorem room_enter : g.enter.room = g.room := by
  simp only [enter]
  split
  · exact room_registerAdminTimer
  · rfl
  · rfl
  · split_ifs <;> rfl
  · rfl
  · rfl

@[simp] theorem room_setState : (g.setState state).room = g.room := by
  have hexit : g.exit.room = g.room := by
    simp only [exit]
    split <;> rfl
  rw [setState, room_enter]
  exact hexit

theorem Recorded.setState (hr : Recorded logins g) : Recorded logins (g.setState state) :=
  hr.leaves (by rw [roster_setState]; exact .refl) room_setState

theorem room_removePlayerData (g : ServerGame) (s : PlayerSession) : (g.removePlayerData s).room = g.room := by
  have hremoved (u : ServerGame) : u.notifySessionRemoved.room = u.room := by
    simp only [notifySessionRemoved]
    split_ifs <;> rfl
  have hadmin (u : ServerGame) : u.notifyGameAdminChanged.room = u.room := by
    simp only [notifyGameAdminChanged]
    split_ifs
    · exact room_registerAdminTimer
    · rfl
  simp only [removePlayerData, hremoved]
  split_ifs
  · split
    · rfl
    · rw [hadmin]
      rfl
  · rfl

theorem room_removeSession (g : ServerGame) (sid : Nat) : (g.removeSession sid).room = g.room := by
  simp only [removeSession]
  split
  · rfl
  · exact room_removePlayerData _ _

theorem Recorded.removeSession (hr : Recorded logins g) (sid : Nat) : Recorded logins (g.removeSession sid) :=
  hr.leaves (leaves_removeSession g sid) (room_removeSession g sid)

theorem Recorded.kickSession (hr : Recorded logins g) (playerId : Nat) : Recorded logins (g.kickSession playerId) := by
  simp only [ServerGame.kickSession]
  split
  · exact hr
  · exact hr.removeSession _

theorem Recorded.removePlayer (hr : Recorded logins g) (playerId : Nat) : Recorded logins (g.removePlayer playerId) := by
  simp only [ServerGame.removePlayer]
  split
  · exact hr
  · exact hr.removeSession _

theorem Recorded.modifyTable (hr : Recorded logins g) {f : Table → Players}
    (hf : ∀ names t, SeatsKnown logins names t → SeatsKnown logins names { t with players := f t }) :
    Recorded logins (g.modifyTable f) := by
  refine ⟨hr.guests, hr.computers, ?_⟩
  intro p hp
  obtain ⟨q, hq, rfl⟩ := Option.map_eq_some_iff.mp hp
  exact hf q.names _ (hr.seats q hq)

theorem Recorded.kickPlayer (hr : Recorded logins g) (playerId : Nat) : Recorded logins (g.kickPlayer playerId) :=
  (hr.modifyTable fun _ _ hk => seatsKnown_markAsKicked hk playerId).kickSession playerId

theorem Recorded.removeAllSessions (hr : Recorded logins g) : Recorded logins g.removeAllSessions :=
  hr.leaves (leaves_removeAllSessions g) (by rw [ServerGame.removeAllSessions, room_setState]; rfl)

theorem Recorded.setHand (hr : Recorded logins g) {p : Playing} {h : Hand}
    (hp : SeatsKnown logins p.names h.toTable) : Recorded logins (g.setHand p h) := by
  refine ⟨hr.guests, hr.computers, ?_⟩
  rintro q ⟨⟩
  exact hp

theorem Recorded.resetAllReadyFlags (hr : Recorded logins g) : Recorded logins g.resetAllReadyFlags :=
  hr.leaves (leaves_resetAllReadyFlags g) rfl

theorem Recorded.reopen (hr : Recorded logins g) : Recorded logins g.reopen := by
  have hauto : Recorded logins g.removeAutoLeavePlayers :=
    List.foldlRecOn (motive := ServerGame.Recorded logins) g.autoLeavePlayers ServerGame.kickSession
      ⟨hr.guests, hr.computers, hr.seats⟩ fun _ hu playerId _ => hu.kickSession playerId
  have hclear : Recorded logins { g.removeAutoLeavePlayers with computerPlayers := [] } :=
    ⟨hauto.guests, by simp, hauto.seats⟩
  exact hclear.setState

theorem Recorded.addComputerPlayers {n i : Nat} (hr : Recorded logins g) (hrun : addComputerPlayers n i g = .ok g') :
    Recorded logins g' := by
  induction n generalizing i g with
  | zero =>
      cases hrun
      exact hr
  | succ n ih =>
      simp only [ServerGame.addComputerPlayers, addComputerPlayer] at hrun
      split_ifs at hrun
      · cases hrun
      · obtain ⟨u, hu, hrun⟩ := Hand.bind_ok hrun
        cases hu
        refine ih ?_ hrun
        refine ⟨hr.guests, ?_, hr.seats⟩
        intro p hp
        rcases List.mem_append.mp hp with hp | hp
        · exact hr.computers p hp
        · rw [List.mem_singleton.mp hp]
          exact ⟨rfl, rfl⟩

theorem Recorded.sendStartEvent {fill : Bool} (hr : Recorded logins g) (hrun : g.sendStartEvent fill = .ok g') :
    Recorded logins g' := by
  simp only [ServerGame.sendStartEvent] at hrun
  split_ifs at hrun
  · cases hadd : ServerGame.addComputerPlayers g.remainingSlots 1 g with
    | error e =>
        rw [hadd] at hrun
        cases hrun
    | ok u =>
        rw [hadd] at hrun
        cases hrun
        exact (hr.addComputerPlayers hadd).setState
  · cases hrun
    exact hr.setState

namespace Interval

variable {v v' : Interval}

/-- Between two hands the seats are those of the table. -/
structure Recorded (logins : List Login) (v : Interval) : Prop where
  guests : ∀ s ∈ v.server.sessions, s.login ∈ logins
  computers : ∀ p ∈ v.server.computerPlayers, p.type = .computer ∧ p.guid = ""
  seats : SeatsKnown logins v.names v.table

theorem Recorded.reactivatePlayers (hr : Recorded logins v) : Recorded logins v.reactivatePlayers := by
  refine ⟨hr.guests, hr.computers, ?_⟩
  exact List.foldlRecOn (motive := SeatsKnown logins v.names) v.server.reactivatePlayers _ hr.seats
    fun t hk uniqueId _ => seatsKnown_setActive hk uniqueId true

theorem Recorded.leaves (hr : Recorded logins v) (hleaves : Leaves v.server.roster v'.server.roster)
    (hcomputers : v'.server.computerPlayers = v.server.computerPlayers) (hseats : SeatsKnown logins v'.names v'.table) :
    Recorded logins v' := by
  refine ⟨guests_leaves hleaves hr.guests, ?_, hseats⟩
  rw [hcomputers]
  exact hr.computers

/-- The seat that a player takes again gets the session id of his login. -/
theorem Recorded.rejoin (hr : Recorded logins v) (uniqueId : Nat) : Recorded logins (v.rejoin uniqueId) := by
  simp only [Interval.rejoin]
  split
  · exact hr
  · next s hs =>
      have hmem : s ∈ v.server.sessions := List.mem_of_find?_eq_some hs
      simp only [performRejoin]
      split
      · exact hr.leaves (leaves_removeSession v.server s.id) (congrArg Prod.fst (room_removeSession v.server s.id)) hr.seats
      · next q hq =>
          refine ⟨hr.guests, hr.computers, ?_⟩
          intro r hseat
          by_cases hrq : r = q
          · subst hrq
            simp only [Interval.getPlayerByName] at hq
            split_ifs at hq
            have hname : v.names r = s.name := by simpa using List.find?_some hq
            right
            simp only [updatePlayer, Function.update_self, hname]
            exact hr.guests s hmem
          · simpa [updatePlayer, hrq] using hr.seats r hseat

theorem Recorded.checkTimeout (secs : Ref → Int) (hr : Recorded logins v) (r : Ref) :
    Recorded logins (checkTimeout secs v r) := by
  have hinactive : SeatsKnown logins v.names
      { v.table with players := updatePlayer v.table.players r fun p => { p with isSessionActive := false } } := by
    apply hr.seats.players
    intro q
    left
    by_cases hq : q = r
    · subst hq
      simp only [updatePlayer, Function.update_self]
      rfl
    · simp [updatePlayer, hq]
  have hkick (playerId : Nat) : (v.server.kickSession playerId).room = v.server.room := by
    simp only [kickSession]
    split
    · rfl
    · exact room_removeSession _ _
  simp only [Interval.checkTimeout]
  split_ifs
  · exact hr.leaves (leaves_kickSession v.server _) (congrArg Prod.fst (hkick _)) (seatsKnown_markAsKicked hinactive _)
  · exact ⟨hr.guests, hr.computers, hinactive⟩
  · exact hr

theorem Recorded.startNewHand (hr : Recorded logins v) (hrun : v.startNewHand d = .ok g') :
    ServerGame.Recorded logins g' := by
  have hreact := hr.reactivatePlayers
  have hrejoin : Recorded logins v.reactivatePlayers.initRejoiningPlayers :=
    List.foldlRecOn (motive := Recorded logins) v.reactivatePlayers.server.rejoinPlayers Interval.rejoin
      ⟨hreact.guests, hreact.computers, hreact.seats⟩ fun _ hu uniqueId _ => hu.rejoin uniqueId
  have htimeouts : Recorded logins (v.reactivatePlayers.initRejoiningPlayers.checkPlayerTimeouts d.secsSinceAction) := by
    simp only [checkPlayerTimeouts]
    split_ifs
    · exact List.foldlRecOn (motive := Recorded logins) _ _ hrejoin fun _ hu r _ => hu.checkTimeout d.secsSinceAction r
    · exact hrejoin
  simp only [Interval.startNewHand] at hrun
  split at hrun
  · cases hrun
  · next game h hdeal =>
      cases hrun
      have hseats := htimeouts.seats.same
        ((Hand.sameSeats_initHand hdeal).trans (sameSeats_of_frame (Hand.frame_start h)))
      have hcards (l : List Nat) (u : ServerGame)
          (hu : (∀ s ∈ u.sessions, s.login ∈ logins) ∧ ∀ p ∈ u.computerPlayers, p.type = .computer ∧ p.guid = "") :
          (∀ s ∈ (l.foldl (sendCards d.encrypts) u).sessions, s.login ∈ logins) ∧
            ∀ p ∈ (l.foldl (sendCards d.encrypts) u).computerPlayers, p.type = .computer ∧ p.guid = "" := by
        refine List.foldlRecOn (motive := fun u : ServerGame => (∀ s ∈ u.sessions, s.login ∈ logins) ∧
          ∀ p ∈ u.computerPlayers, p.type = .computer ∧ p.guid = "") l _ hu fun u hu uniqueId _ => ?_
        refine ⟨guests_leaves (leaves_sendCards d.encrypts u uniqueId) hu.1, ?_⟩
        have hroom : (sendCards d.encrypts u uniqueId).room = u.room := by
          simp only [sendCards]
          split
          · rfl
          · split_ifs
            · rfl
            · simp only [removePlayer]
              split
              · rfl
              · exact room_removeSession _ _
        have hcomputers : (sendCards d.encrypts u uniqueId).computerPlayers = u.computerPlayers := congrArg Prod.fst hroom
        rw [hcomputers]
        exact hu.2
      obtain ⟨hguests, hcomputers⟩ := hcards (h.seatsList.map h.uniqueID) _ ⟨htimeouts.guests, htimeouts.computers⟩
      refine ⟨hguests, hcomputers, ?_⟩
      rintro p ⟨⟩
      exact hseats

end Interval

theorem Recorded.internalStartGame {v : Interval} (hr : Recorded logins g) (hrun : g.internalStartGame d = .ok v) :
    Interval.Recorded logins v := by
  have hplayers : ∀ p ∈ d.shuffle g.players, p.guid = "" ∧ p.type = .computer ∨
      (⟨p.name, p.uniqueId, p.guid⟩ : Login) ∈ logins := by
    intro p hp
    rcases List.mem_append.mp ((d.shuffle_perm g.players).mem_iff.mp hp) with hp | hp
    · obtain ⟨s, hs, rfl⟩ := List.mem_map.mp hp
      exact .inr (hr.guests s hs)
    · exact .inl ⟨(hr.computers p hp).2, (hr.computers p hp).1⟩
  simp only [ServerGame.internalStartGame] at hrun
  split_ifs at hrun
  split at hrun
  · cases hrun
  · next game table hcreate =>
      cases hrun
      refine ⟨hr.guests, hr.computers, ?_⟩
      simp only [Game.create] at hcreate
      split_ifs at hcreate
      cases hcreate
      intro r _
      simp only [Game.newPlayer, List.getElem?_map]
      cases hget : (d.shuffle g.players)[r]? with
      | none => exact .inl ⟨rfl, .inl rfl⟩
      | some p =>
          rcases hplayers p (List.mem_of_getElem? hget) with ⟨hguid, htype⟩ | hlogin
          · exact .inl ⟨hguid, .inl htype⟩
          · exact .inr hlogin

theorem Recorded.doStart (hr : Recorded logins g) (hrun : g.doStart d = .ok g') : Recorded logins g' := by
  simp only [ServerGame.doStart] at hrun
  split_ifs at hrun
  · split at hrun
    · cases hrun
      exact hr
    · cases hrun
      exact hr.kickSession _
  · obtain ⟨v, hv, hrun⟩ := Hand.bind_ok hrun
    obtain ⟨u, hu, hrun⟩ := Hand.bind_ok hrun
    cases hrun
    exact ((hr.internalStartGame hv).startNewHand hu).setState

theorem Recorded.endOfHand (hr : Recorded logins g) {p : Playing} {h : Hand}
    (hp : SeatsKnown logins p.names h.toTable) : Recorded logins (g.endOfHand p h) := by
  have hremoved : SeatsKnown logins p.names
      { h.toTable with players := updateAll h.players h.seatsList g.removeDisconnected } := by
    apply hp.players
    intro r
    simp only [updateAll]
    split_ifs
    · simp only [removeDisconnected]
      split_ifs with _ hgone
      · by_cases hkicked : (h.players r).isKicked = true
        · exact .inr ⟨rfl, hkicked⟩
        · left
          have hguid := hgone.resolve_left hkicked
          simp only [Player.kin, hguid]
      · exact .inl rfl
      · exact .inl rfl
    · exact .inl rfl
  have hhand (h' : Hand) (hh : h'.toTable = { h.toTable with players := updateAll h.players h.seatsList g.removeDisconnected }) :
      Recorded logins (g.setHand p h') := hr.setHand (by rw [hh]; exact hremoved)
  have hended (u : ServerGame) (hu : Recorded logins u) : Recorded logins u.internalEndGame :=
    ⟨hu.guests, hu.computers, by rintro q ⟨⟩⟩
  have hset := hhand (h.setPlayers (updateAll h.players h.seatsList g.removeDisconnected)) rfl
  simp only [ServerGame.endOfHand]
  split
  · exact (hended _ hset).reopen
  · exact ⟨hset.guests, hset.computers, by rintro q ⟨⟩⟩
  · exact hset.setState

theorem Recorded.engineLoop {p : Playing} (hr : Recorded logins g)
    (hp : SeatsKnown logins p.names p.betting.hand.toTable) (hrun : g.engineLoop p = .ok g') : Recorded logins g' := by
  simp only [ServerGame.engineLoop] at hrun
  split at hrun
  · cases hrun
  · next h showCards hloop =>
      cases hrun
      have hset := @Recorded.setHand _ _ hr p h (hp.same (Hand.sameSeats_engineLoop hloop))
      exact ⟨hset.guests, hset.computers, hset.seats⟩
  · next h r hloop =>
      have hh := hp.same (Hand.sameSeats_engineLoop hloop)
      have hset := @Recorded.setHand _ _ hr p h hh
      split_ifs at hrun
      · cases hrun
        exact ⟨hset.guests, hset.computers, hset.seats⟩
      · cases hrun
        have hfold := @Recorded.setHand _ _ hr p (h.performPlayerAction r .fold 0)
          (hh.same (sameSeats_of_frame (Hand.frame_performPlayerAction h r .fold 0)))
        exact ⟨hfold.guests, hfold.computers, hfold.seats⟩
      · cases hrun
        exact hset.setState
  · next h hloop =>
      cases hrun
      exact hr.endOfHand (hp.same (Hand.sameSeats_engineLoop hloop))

theorem Recorded.handleTimer {timer : Timer} (hr : Recorded logins g) (hrun : g.handleTimer d timer = .ok g') :
    Recorded logins g' := by
  simp only [ServerGame.handleTimer] at hrun
  split_ifs at hrun
  · cases hrun
    exact hr
  · split at hrun
    · cases hrun
      exact ⟨hr.guests, hr.computers, hr.seats⟩
    · cases hrun
      exact hr.kickSession _
    · exact hr.resetAllReadyFlags.doStart hrun
    · cases hrun
      exact hr.reopen
    · cases hrun
    · next p hp _ => exact hr.engineLoop (hr.seats p hp) hrun
    · cases hrun
      exact ⟨hr.guests, hr.computers, hr.seats⟩
    · next p hp _ =>
        split at hrun
        · cases hrun
        · next r _ =>
            have hsits := Betting.sits_action p.betting r d.mind
            exact hr.engineLoop (p := { p with betting := p.betting.action r d.mind }) ((hr.seats p hp).same hsits) hrun
    · next p hp _ =>
        split at hrun
        · cases hrun
        · cases hrun
          exact (hr.setHand ((hr.seats p hp).same (Hand.sameSeats_timeoutAction _ _))).setState
    · next p hp _ =>
        obtain ⟨u, hu, hrun⟩ := Hand.bind_ok hrun
        cases hrun
        have hv : Interval.Recorded logins ⟨g, p.game, p.names, p.betting.hand.toTable⟩ :=
          ⟨hr.guests, hr.computers, hr.seats p hp⟩
        exact (hv.startNewHand hu).setState

theorem Recorded.myAction {p : Playing} {req : MyActionRequest} (hr : Recorded logins g) (hp : g.playing = some p)
    (hrun : g.myAction p s req = .ok g') : Recorded logins g' := by
  simp only [ServerGame.myAction] at hrun
  split at hrun
  · cases hrun
  · split at hrun
    · cases hrun
    · next code filled h haction =>
        split_ifs at hrun with hvalid
        · cases hrun
          subst hvalid
          exact (hr.setHand ((hr.seats p hp).same (Hand.sameSeats_handleMyAction haction))).setState
        · cases hrun
          exact hr

theorem Recorded.internalProcessPacket (hr : Recorded logins g) (hrun : g.internalProcessPacket d s msg = .ok g') :
    Recorded logins g' := by
  simp only [ServerGame.internalProcessPacket] at hrun
  split at hrun
  · split_ifs at hrun
    · exact hr.sendStartEvent hrun
    · cases hrun
      exact hr.removeSession _
  iterate 3
    · cases hrun
      exact hr
  · cases hrun
    split_ifs
    · exact hr.leaves (by rw [roster_registerAdminTimer]; exact .refl) room_registerAdminTimer
    · exact hr
  · cases hrun
    exact hr.removeSession _
  · have hready : Recorded logins (g.setReadyFlag s.id) := hr.leaves (leaves_setReadyFlag g s.id) rfl
    split_ifs at hrun
    · exact hready.resetAllReadyFlags.doStart hrun
    · cases hrun
      exact hready
  iterate 3
    · cases hrun
      exact ⟨hr.guests, hr.computers, hr.seats⟩
  · split_ifs at hrun
    · cases hrun
      exact hr
    · split at hrun
      · cases hrun
      · next p hp => exact hr.myAction hp hrun
  · split_ifs at hrun
    · cases hrun
      exact hr
  · cases hrun
    exact hr

theorem Recorded.handlePacket (hr : Recorded logins g) (hrun : g.handlePacket d s msg = .ok g') :
    Recorded logins g' := by
  simp only [ServerGame.handlePacket] at hrun
  split at hrun
  · cases hrun
    exact hr
  · cases hrun
    exact hr.removeSession _
  · split_ifs at hrun
    · cases hrun
      exact hr.kickPlayer _
    · cases hrun
      exact hr
  iterate 9
    · cases hrun
      exact hr
  · exact hr.internalProcessPacket hrun

theorem Recorded.acceptNewSession (hr : Recorded logins g) (hlogin : s.login ∈ logins) :
    Recorded logins (g.acceptNewSession s) := by
  refine ⟨?_, hr.computers, hr.seats⟩
  intro p hp
  simp only [ServerGame.acceptNewSession, List.mem_orderedInsert] at hp
  rcases hp with rfl | hp
  · exact hlogin
  · exact hr.guests p hp

theorem Recorded.handleNewPlayer (hr : Recorded logins g) (hlogin : s.login ∈ logins) :
    Recorded logins (g.handleNewPlayer s) := by
  have hjoin : Recorded logins (g.addPlayerToNumJoinsPerPlayer s.name) := ⟨hr.guests, hr.computers, hr.seats⟩
  have hinit := hjoin.acceptNewSession hlogin
  have haccept := hr.acceptNewSession hlogin
  simp only [ServerGame.handleNewPlayer]
  split
  · split_ifs
    · exact hr
    · exact ⟨hinit.guests, hinit.computers, hinit.seats⟩
    · exact hinit
  iterate 3
    · split_ifs
      · exact ⟨haccept.guests, haccept.computers, haccept.seats⟩
      · exact hr
  · exact hr
  · exact hr

def Event.loggedIn (logins : List Login) : Event → Bool
  | .newPlayer s _ => s.login ∈ logins
  | _ => true

theorem Recorded.fire (hr : Recorded logins g) (hfire : g.fire e = some g') (hlogin : e.loggedIn logins = true) :
    Recorded logins g' := by
  cases e with
  | packet sid msg d =>
      simp only [ServerGame.fire, Option.map_eq_some_iff] at hfire
      obtain ⟨s, -, rfl⟩ := hfire
      simp only [dispatchPacket]
      cases hrun : g.handlePacket d s msg with
      | error e => exact hr.removeAllSessions
      | ok g' => exact hr.handlePacket hrun
  | newPlayer s autoLeave =>
      have hnew := hr.handleNewPlayer (of_decide_eq_true hlogin)
      simp only [ServerGame.fire] at hfire
      split_ifs at hfire
      · cases hfire
        exact ⟨hnew.guests, hnew.computers, hnew.seats⟩
      · cases hfire
        exact hnew
  | removeSession sid =>
      cases hfire
      exact hr.removeSession sid
  | kickPlayer playerId =>
      cases hfire
      exact hr.kickPlayer playerId
  | markPlayerAsInactive playerId =>
      cases hfire
      exact hr.modifyTable fun _ _ hk => seatsKnown_setActive hk playerId false
  | timer1 d =>
      simp only [ServerGame.fire, Option.map_eq_some_iff] at hfire
      obtain ⟨timer, -, rfl⟩ := hfire
      have hnone : Recorded logins { g with timer1 := none } := ⟨hr.guests, hr.computers, hr.seats⟩
      simp only [fireTimer]
      cases hrun : { g with timer1 := none }.handleTimer d timer with
      | error e => exact hr.removeAllSessions
      | ok g' => exact hnone.handleTimer hrun
  | timer2 =>
      simp only [ServerGame.fire] at hfire
      split_ifs at hfire
      split at hfire
      · next hrun =>
          cases hfire
          exact @Recorded.sendStartEvent _ { g with timer2 := false } _ _ ⟨hr.guests, hr.computers, hr.seats⟩ hrun
      · cases hfire
        exact hr.removeAllSessions
  | newPlayerId =>
      cases hfire
      exact ⟨hr.guests, hr.computers, hr.seats⟩
  | removeAllSessions =>
      cases hfire
      exact hr.removeAllSessions

theorem recorded_create (logins : List Login) (id : Nat) (mode : ServerMode) (gameType : GameType) (gameData : GameData)
    (adminPlayerId curUniquePlayerId : Nat) :
    Recorded logins (create id mode gameType gameData adminPlayerId curUniquePlayerId) := by
  rw [create]
  refine Recorded.leaves (g := ⟨id, mode, gameType, gameData, adminPlayerId, [adminPlayerId], .init, none, false, [], [],
    fun _ => 0, [], [], [], curUniquePlayerId, 0, none⟩) ⟨?_, ?_, ?_⟩ ?_ room_enter
  · simp
  · simp
  · simp
  · rw [roster_enter]
    exact .refl

end ServerGame

end PokerTH
