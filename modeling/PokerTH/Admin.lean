import PokerTH.Progress

namespace PokerTH

/-- Who is in a game, whom the game holds as its admin, and whom the messages about it have named. -/
structure Roster where
  sessions : List PlayerSession
  adminPlayerId : Nat
  adminNotices : List Nat

namespace Roster

variable {r r' : Roster} {s : PlayerSession}

def others (r : Roster) (s : PlayerSession) : List PlayerSession := r.sessions.filter fun p => p.id ≠ s.id

def mark (sid : Nat) (p : PlayerSession) : PlayerSession := if p.id = sid then { p with isGameAdmin := true } else p

/-- How sessions leave a game or change while they are in it. -/
inductive Leave (r : Roster) : Roster → Prop
  | member {s : PlayerSession} (hs : s ∈ r.sessions)
      (hlast : s.isGameAdmin = true → ∀ p ∈ r.others s, p.uniqueId = s.uniqueId) :
      Leave r { r with sessions := r.others s }
  | admin {s q : PlayerSession} (hs : s ∈ r.sessions) (hadmin : s.isGameAdmin = true) (hq : q ∈ r.others s)
      (hne : q.uniqueId ≠ s.uniqueId) :
      Leave r ⟨(r.others s).map (mark q.id), q.uniqueId, r.adminNotices ++ [q.uniqueId]⟩
  | ready (f : PlayerSession → Bool) :
      Leave r { r with sessions := r.sessions.map fun s => { s with ready := f s } }
  | clear : Leave r { r with sessions := [] }

def Leaves : Roster → Roster → Prop := Relation.ReflTransGen Leave

/-- The player whom the game holds as its admin is the only one in it with the flag, and was named last. -/
structure Led (r : Roster) : Prop where
  ids : (r.sessions.map fun s => s.id).Nodup
  uniqueIds : (r.sessions.map fun s => s.uniqueId).Nodup
  flag : ∀ s ∈ r.sessions, s.isGameAdmin = true ↔ s.uniqueId = r.adminPlayerId
  led : r.sessions ≠ [] → ∃ s ∈ r.sessions, s.uniqueId = r.adminPlayerId
  notice : r.adminNotices.getLast? = some r.adminPlayerId

theorem Led.eq_of_id (hl : Led r) {p q : PlayerSession} (hp : p ∈ r.sessions) (hq : q ∈ r.sessions)
    (hid : p.id = q.id) : p = q :=
  List.inj_on_of_nodup_map hl.ids hp hq hid

theorem Led.eq_of_uniqueId (hl : Led r) {p q : PlayerSession} (hp : p ∈ r.sessions) (hq : q ∈ r.sessions)
    (hid : p.uniqueId = q.uniqueId) : p = q :=
  List.inj_on_of_nodup_map hl.uniqueIds hp hq hid

@[simp] theorem mem_others {p : PlayerSession} : p ∈ r.others s ↔ p ∈ r.sessions ∧ p.id ≠ s.id := by
  simp [others]

theorem others_map {β : Type} (f : PlayerSession → β) : ((r.others s).map f).Sublist (r.sessions.map f) :=
  List.Sublist.map f List.filter_sublist

@[simp] theorem mark_id (sid : Nat) (p : PlayerSession) : (mark sid p).id = p.id := by
  simp only [mark]
  split_ifs <;> rfl

@[simp] theorem mark_uniqueId (sid : Nat) (p : PlayerSession) : (mark sid p).uniqueId = p.uniqueId := by
  simp only [mark]
  split_ifs <;> rfl

theorem Led.leave (hl : Led r) (h : Leave r r') : Led r' := by
  cases h with
  | @member s hs hlast =>
      refine ⟨hl.ids.sublist (others_map _), hl.uniqueIds.sublist (others_map _), ?_, ?_, hl.notice⟩
      · intro p hp
        exact hl.flag p (mem_others.mp hp).1
      · intro hne
        obtain ⟨q, hq⟩ := List.exists_mem_of_ne_nil _ hne
        obtain ⟨hqs, hid⟩ := mem_others.mp hq
        obtain ⟨a, ha, hadmin⟩ := hl.led (List.ne_nil_of_mem hs)
        refine ⟨a, mem_others.mpr ⟨ha, fun haid => hid ?_⟩, hadmin⟩
        -- the admin himself only leaves a game that he leaves empty
        obtain rfl := hl.eq_of_id ha hs haid
        have hu := hlast ((hl.flag a ha).mpr hadmin) q hq
        rw [hl.eq_of_uniqueId hqs ha hu]
  | @admin s q hs hadmin hq hne =>
      have hmap {β : Type} (f : PlayerSession → β) (hf : ∀ p, f (mark q.id p) = f p) :
          ((r.others s).map (mark q.id)).map f = (r.others s).map f := by
        rw [List.map_map]
        exact List.map_congr_left fun p _ => hf p
      obtain ⟨hqs, hid⟩ := mem_others.mp hq
      refine ⟨?_, ?_, ?_, ?_, by simp⟩
      · rw [hmap _ (mark_id q.id)]
        exact hl.ids.sublist (others_map _)
      · rw [hmap _ (mark_uniqueId q.id)]
        exact hl.uniqueIds.sublist (others_map _)
      · intro p hp
        obtain ⟨p, hpo, rfl⟩ := List.mem_map.mp hp
        obtain ⟨hps, hpid⟩ := mem_others.mp hpo
        rw [mark_uniqueId]
        by_cases hpq : p = q
        · subst hpq
          simp [mark]
        · have hneq : p.id ≠ q.id := fun h => hpq (hl.eq_of_id hps hqs h)
          have hnuq : p.uniqueId ≠ q.uniqueId := fun h => hpq (hl.eq_of_uniqueId hps hqs h)
          -- the flag of the others was only with the one who left
          have hnot : ¬ p.isGameAdmin = true := by
            intro hflag
            have hsame := ((hl.flag p hps).mp hflag).trans ((hl.flag s hs).mp hadmin).symm
            exact hpid (congrArg PlayerSession.id (hl.eq_of_uniqueId hps hs hsame))
          simp [mark, hneq, hnuq, hnot]
      · intro _
        exact ⟨mark q.id q, List.mem_map_of_mem hq, mark_uniqueId _ _⟩
  | ready f =>
      have hmem : ∀ s ∈ (r.sessions.map fun s => { s with ready := f s }), ∃ p ∈ r.sessions,
          s.uniqueId = p.uniqueId ∧ s.isGameAdmin = p.isGameAdmin := by
        intro s hs
        obtain ⟨p, hp, rfl⟩ := List.mem_map.mp hs
        exact ⟨p, hp, rfl, rfl⟩
      refine ⟨?_, ?_, ?_, ?_, hl.notice⟩
      · rw [List.map_map]
        exact hl.ids
      · rw [List.map_map]
        exact hl.uniqueIds
      · intro s hs
        obtain ⟨p, hp, hid, hflag⟩ := hmem s hs
        rw [hid, hflag]
        exact hl.flag p hp
      · intro hne
        obtain ⟨a, ha, hadmin⟩ := hl.led (fun hnil => hne (by rw [hnil, List.map_nil]))
        exact ⟨_, List.mem_map_of_mem ha, hadmin⟩
  | clear => exact ⟨List.nodup_nil, List.nodup_nil, by simp, by simp, hl.notice⟩

theorem Led.leaves (hl : Led r) (h : Leaves r r') : Led r' := Runs.invariant hl (fun _ _ hl h => hl.leave h) h

/-- The session gets the flag if its player is the one whom the game holds as its admin. -/
def flagged (r : Roster) (s : PlayerSession) : PlayerSession :=
  { s with isGameAdmin := decide (s.uniqueId = r.adminPlayerId) }

def join (r : Roster) (s : PlayerSession) : Roster :=
  { r with sessions := List.orderedInsert (fun p q => p.id ≤ q.id) (r.flagged s) r.sessions }

theorem Led.join (hl : Led r) (hfresh : ∀ p ∈ r.sessions, p.id ≠ s.id ∧ p.uniqueId ≠ s.uniqueId)
    (hfirst : r.sessions = [] → s.uniqueId = r.adminPlayerId) : Led (r.join s) := by
  have hperm : (r.join s).sessions.Perm (r.flagged s :: r.sessions) := List.perm_orderedInsert _ _ _
  have hmem : ∀ p, p ∈ (r.join s).sessions ↔ p = r.flagged s ∨ p ∈ r.sessions := by
    intro p
    exact hperm.mem_iff.trans List.mem_cons
  refine ⟨?_, ?_, ?_, ?_, hl.notice⟩
  · apply (hperm.map fun p => p.id).nodup_iff.mpr
    rw [List.map_cons, List.nodup_cons]
    refine ⟨?_, hl.ids⟩
    rw [List.mem_map]
    rintro ⟨p, hp, hid⟩
    exact (hfresh p hp).1 hid
  · apply (hperm.map fun p => p.uniqueId).nodup_iff.mpr
    rw [List.map_cons, List.nodup_cons]
    refine ⟨?_, hl.uniqueIds⟩
    rw [List.mem_map]
    rintro ⟨p, hp, hid⟩
    exact (hfresh p hp).2 hid
  · intro p hp
    rcases (hmem p).mp hp with rfl | hp
    · exact decide_eq_true_iff
    · exact hl.flag p hp
  · intro _
    by_cases hnil : r.sessions = []
    · exact ⟨_, (hmem _).mpr (.inl rfl), hfirst hnil⟩
    · obtain ⟨a, ha, hadmin⟩ := hl.led hnil
      exact ⟨a, (hmem a).mpr (.inr ha), hadmin⟩

end Roster

namespace ServerGame

open Roster

variable {g g' : ServerGame} {state : ServerState} {sid playerId : Nat} {s : PlayerSession} {d : Draws} {msg : GameMsg}
  {e : Event}

def roster (g : ServerGame) : Roster := ⟨g.sessions, g.adminPlayerId, g.adminNotices⟩

@[simp] theorem roster_registerAdminTimer : g.registerAdminTimer.roster = g.roster := by
  simp only [registerAdminTimer]
  split_ifs <;> rfl

@[simp] theorem roster_exit : g.exit.roster = g.roster := by
  simp only [exit]
  split <;> rfl

@[simp] theorem roster_enter : g.enter.roster = g.roster := by
  simp only [enter]
  split
  · exact roster_registerAdminTimer
  · rfl
  · rfl
  · split_ifs <;> rfl
  · rfl
  · rfl

@[simp] theorem roster_setState : (g.setState state).roster = g.roster := by
  rw [setState, roster_enter]
  exact roster_exit

@[simp] theorem roster_notifySessionRemoved : g.notifySessionRemoved.roster = g.roster := by
  simp only [notifySessionRemoved]
  split_ifs <;> rfl

@[simp] theorem roster_notifyGameAdminChanged : g.notifyGameAdminChanged.roster = g.roster := by
  simp only [notifyGameAdminChanged]
  split_ifs
  · exact roster_registerAdminTimer
  · rfl

theorem leaves_removeSession (g : ServerGame) (sid : Nat) : Leaves g.roster (g.removeSession sid).roster := by
  simp only [removeSession]
  split
  · exact .refl
  · next s hs =>
      have hmem : s ∈ g.roster.sessions := List.mem_of_find?_eq_some hs
      have hsid : s.id = sid := by simpa using List.find?_some hs
      subst hsid
      apply Relation.ReflTransGen.single
      simp only [removePlayerData, roster_notifySessionRemoved]
      split_ifs with hadmin
      · split
        · next hnone =>
            apply Leave.member hmem
            intro _ p hp
            simpa using List.filter_eq_nil_iff.mp (List.head?_eq_none_iff.mp hnone) p hp
        · next q hq =>
            rw [roster_notifyGameAdminChanged]
            obtain ⟨hothers, hne⟩ := List.mem_filter.mp (List.mem_of_head? hq)
            exact Leave.admin hmem hadmin hothers (by simpa using hne)
      · exact Leave.member hmem fun h => absurd h hadmin

theorem leaves_kickSession (g : ServerGame) (playerId : Nat) : Leaves g.roster (g.kickSession playerId).roster := by
  simp only [kickSession]
  split
  · exact .refl
  · exact leaves_removeSession g _

theorem leaves_removePlayer (g : ServerGame) (playerId : Nat) : Leaves g.roster (g.removePlayer playerId).roster := by
  simp only [removePlayer]
  split
  · exact .refl
  · exact leaves_removeSession g _

theorem leaves_kickPlayer (g : ServerGame) (playerId : Nat) : Leaves g.roster (g.kickPlayer playerId).roster :=
  leaves_kickSession (g.modifyTable _) playerId

theorem leaves_removeAllSessions (g : ServerGame) : Leaves g.roster g.removeAllSessions.roster := by
  rw [removeAllSessions, roster_setState]
  exact .single .clear

theorem leaves_setReadyFlag (g : ServerGame) (sid : Nat) : Leaves g.roster (g.setReadyFlag sid).roster := by
  have hmap : (g.setReadyFlag sid).sessions =
      g.sessions.map fun s => { s with ready := if s.id = sid then true else s.ready } := by
    simp only [setReadyFlag]
    apply List.map_congr_left
    intro s _
    split_ifs <;> rfl
  have hready : Leave g.roster ⟨(g.setReadyFlag sid).sessions, g.adminPlayerId, g.adminNotices⟩ := by
    rw [hmap]
    exact .ready fun s => if s.id = sid then true else s.ready
  exact .single hready

theorem leaves_resetAllReadyFlags (g : ServerGame) : Leaves g.roster g.resetAllReadyFlags.roster :=
  .single (.ready fun _ => false)

theorem leaves_foldl {σ β : Type} (view : σ → ServerGame) {f : σ → β → σ}
    (hf : ∀ u b, Leaves (view u).roster (view (f u b)).roster) (l : List β) (u : σ) :
    Leaves (view u).roster (view (l.foldl f u)).roster := by
  exact List.foldlRecOn (motive := fun w => Leaves (view u).roster (view w).roster) l f .refl
    fun w hw b _ => hw.trans (hf w b)

namespace Interval

variable {v : Interval}

theorem leaves_rejoin (v : Interval) (uniqueId : Nat) : Leaves v.server.roster (v.rejoin uniqueId).server.roster := by
  simp only [rejoin]
  split
  · exact .refl
  · simp only [performRejoin]
    split
    · exact leaves_removeSession _ _
    · exact .refl

theorem leaves_checkTimeout (secs : Ref → Int) (v : Interval) (r : Ref) :
    Leaves v.server.roster (checkTimeout secs v r).server.roster := by
  simp only [checkTimeout]
  split_ifs
  · exact leaves_kickSession _ _
  · exact .refl
  · exact .refl

theorem leaves_checkPlayerTimeouts (v : Interval) (secs : Ref → Int) :
    Leaves v.server.roster (v.checkPlayerTimeouts secs).server.roster := by
  simp only [checkPlayerTimeouts]
  split_ifs
  · exact leaves_foldl (fun v : Interval => v.server) (leaves_checkTimeout secs) _ v
  · exact .refl

theorem leaves_sendCards (encrypts : Nat → Bool) (g : ServerGame) (uniqueId : Nat) :
    Leaves g.roster (sendCards encrypts g uniqueId).roster := by
  simp only [sendCards]
  split
  · exact .refl
  · split_ifs
    · exact .refl
    · exact leaves_removePlayer g uniqueId

theorem leaves_startNewHand (hrun : v.startNewHand d = .ok g') : Leaves v.server.roster g'.roster := by
  simp only [startNewHand] at hrun
  split at hrun
  · cases hrun
  · cases hrun
    have hrejoin := leaves_foldl (fun v : Interval => v.server) leaves_rejoin v.reactivatePlayers.server.rejoinPlayers
      { v.reactivatePlayers with server := { v.reactivatePlayers.server with rejoinPlayers := [] } }
    have htimeouts := leaves_checkPlayerTimeouts v.reactivatePlayers.initRejoiningPlayers d.secsSinceAction
    exact (hrejoin.trans htimeouts).trans (leaves_foldl (fun g : ServerGame => g) (leaves_sendCards d.encrypts) _ _)

end Interval

theorem roster_addComputerPlayers {n i : Nat} (hrun : addComputerPlayers n i g = .ok g') : g'.roster = g.roster := by
  induction n generalizing i g with
  | zero =>
      cases hrun
      rfl
  | succ n ih =>
      simp only [addComputerPlayers, addComputerPlayer] at hrun
      split_ifs at hrun
      · cases hrun
      · obtain ⟨u, hu, hrun⟩ := Hand.bind_ok hrun
        cases hu
        exact (@ih _ _ hrun).trans rfl

theorem roster_sendStartEvent {fill : Bool} (hrun : g.sendStartEvent fill = .ok g') : g'.roster = g.roster := by
  simp only [sendStartEvent] at hrun
  split_ifs at hrun
  · cases hadd : addComputerPlayers g.remainingSlots 1 g with
    | error e =>
        rw [hadd] at hrun
        cases hrun
    | ok u =>
        rw [hadd] at hrun
        cases hrun
        rw [roster_setState, roster_addComputerPlayers hadd]
  · cases hrun
    exact roster_setState

theorem leaves_doStart (hrun : g.doStart d = .ok g') : Leaves g.roster g'.roster := by
  simp only [doStart] at hrun
  split_ifs at hrun
  · split at hrun
    · cases hrun
      exact .refl
    · cases hrun
      exact leaves_kickSession g _
  · obtain ⟨v, hv, hrun⟩ := Hand.bind_ok hrun
    obtain ⟨u, hu, hrun⟩ := Hand.bind_ok hrun
    cases hrun
    rw [roster_setState]
    simp only [internalStartGame] at hv
    split_ifs at hv
    split at hv
    · cases hv
    · cases hv
      exact Interval.leaves_startNewHand hu

theorem leaves_reopen (g : ServerGame) : Leaves g.roster g.reopen.roster := by
  rw [reopen, roster_setState]
  exact leaves_foldl (fun g : ServerGame => g) leaves_kickSession g.autoLeavePlayers { g with autoLeavePlayers := [] }

theorem leaves_endOfHand (g : ServerGame) (p : Playing) (h : Hand) : Leaves g.roster (g.endOfHand p h).roster := by
  simp only [endOfHand]
  split
  · exact leaves_reopen (internalEndGame _)
  · exact .refl
  · rw [roster_setState]
    exact .refl

theorem leaves_engineLoop {p : Playing} (hrun : g.engineLoop p = .ok g') : Leaves g.roster g'.roster := by
  simp only [engineLoop] at hrun
  split at hrun
  · cases hrun
  · cases hrun
    exact .refl
  · split_ifs at hrun
    · cases hrun
      exact .refl
    · cases hrun
      exact .refl
    · cases hrun
      rw [roster_setState]
      exact .refl
  · cases hrun
    exact leaves_endOfHand g p _

theorem leaves_handleTimer {timer : Timer} (hrun : g.handleTimer d timer = .ok g') : Leaves g.roster g'.roster := by
  simp only [handleTimer] at hrun
  split_ifs at hrun
  · cases hrun
    exact .refl
  · split at hrun
    · cases hrun
      exact .refl
    · cases hrun
      exact leaves_kickSession g _
    · exact (leaves_resetAllReadyFlags g).trans (leaves_doStart hrun)
    · cases hrun
      exact leaves_reopen g
    · cases hrun
    · exact leaves_engineLoop hrun
    · cases hrun
      exact .refl
    · split at hrun
      · cases hrun
      · exact leaves_engineLoop hrun
    · split at hrun
      · cases hrun
      · cases hrun
        rw [roster_setState]
        exact .refl
    · obtain ⟨u, hu, hrun⟩ := Hand.bind_ok hrun
      cases hrun
      rw [roster_setState]
      exact Interval.leaves_startNewHand hu

theorem roster_myAction {p : Playing} {req : MyActionRequest} (hrun : g.myAction p s req = .ok g') :
    g'.roster = g.roster := by
  simp only [myAction] at hrun
  split at hrun
  · cases hrun
  · split at hrun
    · cases hrun
    · split_ifs at hrun
      · cases hrun
        exact roster_setState
      · cases hrun
        rfl

theorem leaves_internalProcessPacket (hrun : g.internalProcessPacket d s msg = .ok g') :
    Leaves g.roster g'.roster := by
  simp only [internalProcessPacket] at hrun
  split at hrun
  · split_ifs at hrun
    · rw [roster_sendStartEvent hrun]
      exact .refl
    · cases hrun
      exact leaves_removeSession g _
  iterate 3
    · cases hrun
      exact .refl
  · cases hrun
    split_ifs
    · rw [roster_registerAdminTimer]
      exact .refl
    · exact .refl
  · cases hrun
    exact leaves_removeSession g _
  · have hready := leaves_setReadyFlag g s.id
    split_ifs at hrun
    · exact (hready.trans (leaves_resetAllReadyFlags _)).trans (leaves_doStart hrun)
    · cases hrun
      exact hready
  iterate 3
    · cases hrun
      exact .refl
  · split_ifs at hrun
    · cases hrun
      exact .refl
    · split at hrun
      · cases hrun
      · rw [roster_myAction hrun]
        exact .refl
  · split_ifs at hrun
    · cases hrun
      exact .refl
  · cases hrun
    exact .refl

theorem leaves_handlePacket (hrun : g.handlePacket d s msg = .ok g') : Leaves g.roster g'.roster := by
  simp only [handlePacket] at hrun
  split at hrun
  · cases hrun
    exact .refl
  · cases hrun
    exact leaves_removeSession g _
  · split_ifs at hrun
    · cases hrun
      exact leaves_kickPlayer g _
    · cases hrun
      exact .refl
  iterate 9
    · cases hrun
      exact .refl
  · exact leaves_internalProcessPacket hrun

def accepts (g : ServerGame) (s : PlayerSession) : Bool :=
  match g.state with
  | .init =>
      ¬ (g.players.length ≥ g.gameData.maxNumberOfPlayers ∨ g.numJoinsPerPlayer s.name ≥ GAME_MAX_NUM_JOINS_PER_PLAYER)
  | .hand | .waitPlayerAction | .waitNextHand => g.mayRejoin s
  | .startGame | .final => false

theorem roster_handleNewPlayer (g : ServerGame) (s : PlayerSession) :
    (g.handleNewPlayer s).roster = if g.accepts s then g.roster.join s else g.roster := by
  cases hs : g.state with
  | init =>
      simp only [handleNewPlayer, accepts, hs, decide_not, Bool.not_eq_eq_eq_not, Bool.not_true, decide_eq_false_iff_not]
      split_ifs <;> rfl
  | startGame | final =>
      simp only [handleNewPlayer, accepts, hs]
      rfl
  | hand | waitPlayerAction | waitNextHand =>
      simp only [handleNewPlayer, accepts, hs]
      split_ifs <;> rfl

/-- What may happen to a game, and the list of games that a client gets at its login. -/
inductive AdminEvent
  | game (e : Event)
  | gameListNew

def fireAdmin (g : ServerGame) : AdminEvent → Option ServerGame
  | .game e => g.fire e
  | .gameListNew => some { g with adminNotices := g.adminNotices ++ [g.adminPlayerId] }

/-- Nobody is taken into a game that all have left, unless the game still holds him as its admin. -/
def Headed (g : ServerGame) : AdminEvent → Prop
  | .game (.newPlayer s _) => g.sessions = [] → g.accepts s → s.uniqueId = g.adminPlayerId
  | _ => True

theorem led_newPlayer {autoLeave : Bool} (hl : Led g.roster) (hfire : g.fire (.newPlayer s autoLeave) = some g')
    (hheaded : g.sessions = [] → g.accepts s → s.uniqueId = g.adminPlayerId) : Led g'.roster := by
  have hjoined (hnone : ¬ (g.sessions.any fun p => p.id == s.id || p.uniqueId == s.uniqueId) = true) :
      Led (g.handleNewPlayer s).roster := by
    rw [roster_handleNewPlayer]
    split_ifs with haccepts
    · apply hl.join
      · intro p hp
        simp only [Bool.not_eq_true, List.any_eq_false, Bool.or_eq_true, beq_iff_eq, not_or] at hnone
        exact hnone p hp
      · exact fun hnil => hheaded hnil haccepts
    · exact hl
  simp only [fire] at hfire
  split_ifs at hfire with hany
  · cases hfire
    exact hjoined hany
  · cases hfire
    exact hjoined hany

theorem leaves_fire (hfire : g.fire e = some g') (hold : ∀ s autoLeave, e ≠ .newPlayer s autoLeave) :
    Leaves g.roster g'.roster := by
  cases e with
  | packet sid msg d =>
      simp only [fire, Option.map_eq_some_iff] at hfire
      obtain ⟨s, -, rfl⟩ := hfire
      simp only [dispatchPacket]
      cases hrun : g.handlePacket d s msg with
      | error e => exact leaves_removeAllSessions g
      | ok g' => exact leaves_handlePacket hrun
  | newPlayer s autoLeave => exact absurd rfl (hold s autoLeave)
  | removeSession sid =>
      cases hfire
      exact leaves_removeSession g sid
  | kickPlayer playerId =>
      cases hfire
      exact leaves_kickPlayer g playerId
  | markPlayerAsInactive playerId =>
      cases hfire
      exact .refl
  | timer1 d =>
      simp only [fire, Option.map_eq_some_iff] at hfire
      obtain ⟨timer, -, rfl⟩ := hfire
      simp only [fireTimer]
      cases hrun : { g with timer1 := none }.handleTimer d timer with
      | error e => exact leaves_removeAllSessions g
      | ok g' => exact @leaves_handleTimer { g with timer1 := none } g' d timer hrun
  | timer2 =>
      simp only [fire] at hfire
      split_ifs at hfire
      split at hfire
      · next hrun =>
          cases hfire
          rw [roster_sendStartEvent hrun]
          exact .refl
      · cases hfire
        exact leaves_removeAllSessions g
  | newPlayerId =>
      cases hfire
      exact .refl
  | removeAllSessions =>
      cases hfire
      exact leaves_removeAllSessions g

theorem led_fire (hl : Led g.roster) (hfire : g.fire e = some g') (hheaded : Headed g (.game e)) : Led g'.roster := by
  by_cases hnew : ∃ s autoLeave, e = .newPlayer s autoLeave
  · obtain ⟨s, autoLeave, rfl⟩ := hnew
    exact led_newPlayer hl hfire hheaded
  · exact hl.leaves (leaves_fire hfire fun s autoLeave h => hnew ⟨s, autoLeave, h⟩)

theorem led_create (id : Nat) (mode : ServerMode) (gameType : GameType) (gameData : GameData)
    (adminPlayerId curUniquePlayerId : Nat) :
    Led (create id mode gameType gameData adminPlayerId curUniquePlayerId).roster := by
  rw [create, roster_enter]
  exact ⟨List.nodup_nil, List.nodup_nil, by simp [roster], fun h => absurd rfl h, rfl⟩

/-- As long as nobody else comes into an empty game, a game that somebody is in has one admin, and all were told
so. -/
theorem one_game_admin {id : Nat} {mode : ServerMode} {gameType : GameType} {gameData : GameData}
    {adminPlayerId curUniquePlayerId : Nat} {hist : List (ServerGame × AdminEvent)}
    (hrun : Runs.Trace fireAdmin Headed (create id mode gameType gameData adminPlayerId curUniquePlayerId) hist g)
    (hne : g.sessions ≠ []) :
    ∃ s ∈ g.sessions, s.isGameAdmin = true ∧ (∀ p ∈ g.sessions, p.isGameAdmin = true → p = s) ∧
      s.uniqueId = g.adminPlayerId ∧ g.adminNotices.getLast? = some s.uniqueId := by
  have hl : Led g.roster := by
    apply @Runs.Trace.invariant _ _ _ _ _ _ _ (fun _ g => Led g.roster) (led_create _ _ _ _ _ _) _ hrun
    intro _ g e g' hl hfire hheaded
    cases e with
    | game e => exact led_fire hl hfire hheaded
    | gameListNew =>
        cases hfire
        exact ⟨hl.ids, hl.uniqueIds, hl.flag, hl.led, by simp [roster]⟩
  obtain ⟨s, hs, hadmin⟩ := hl.led hne
  refine ⟨s, hs, (hl.flag s hs).mpr hadmin, ?_, hadmin, ?_⟩
  · intro p hp hflag
    exact hl.eq_of_uniqueId hp hs (((hl.flag p hp).mp hflag).trans hadmin.symm)
  · rw [hadmin]
    exact hl.notice

/-- The admin leaves the running hand, and the other player follows him. -/
theorem one_game_admin_successor : ∃ hist g,
    Runs.Trace fireAdmin Headed (create 1 .lan .normal (headsUp 10) 1 2) hist g ∧ ∃ s ∈ g.sessions,
      s.isGameAdmin = true ∧ (∀ p ∈ g.sessions, p.isGameAdmin = true → p = s) ∧ s.uniqueId = g.adminPlayerId ∧
        g.adminNotices.getLast? = some s.uniqueId := by
  obtain ⟨hist, g, hrun, htest⟩ := Runs.exists_trace fireAdmin Headed
    (fun g e => match e with
      | .game (.newPlayer s _) => !g.sessions.isEmpty || s.uniqueId == g.adminPlayerId
      | _ => true)
    (create 1 .lan .normal (headsUp 10) 1 2)
    ((openingEvents.map AdminEvent.game) ++ [.game (.packet 1 .leaveGameRequest plainDraws), .gameListNew])
    (fun g => !g.sessions.isEmpty) (by decide +kernel) (by
      intro g e hcheck
      cases e with
      | gameListNew => trivial
      | game e =>
          cases e with
          | newPlayer s autoLeave =>
              intro hnil _
              simpa [hnil] using hcheck
          | _ => trivial)
  exact ⟨hist, g, hrun, one_game_admin hrun (by simpa using htest)⟩

/-- The admin leaves the game that only he is in, and another player joins it before it is removed. -/
theorem game_without_admin : checkSettings .normal (headsUp 10) "" .lan = true ∧ ∃ hist g,
    Runs.Trace fireAdmin (fun _ _ => True) (create 1 .lan .normal (headsUp 10) 1 2) hist g ∧ g.sessions ≠ [] ∧
      (∀ s ∈ g.sessions, s.isGameAdmin = false ∧ s.uniqueId ≠ g.adminPlayerId) := by
  refine ⟨by decide, ?_⟩
  obtain ⟨hist, g, hrun, htest⟩ := Runs.exists_trace fireAdmin (fun _ _ => True) (fun _ _ => true)
    (create 1 .lan .normal (headsUp 10) 1 2)
    [.game (.newPlayer (guest 1 "a") false), .game (.packet 1 .leaveGameRequest plainDraws),
      .game (.newPlayer (guest 2 "b") false)]
    (fun g => !g.sessions.isEmpty && g.sessions.all fun s => !s.isGameAdmin && s.uniqueId != g.adminPlayerId)
    (by decide +kernel) (fun _ _ _ => trivial)
  rw [Bool.and_eq_true, List.all_eq_true] at htest
  refine ⟨hist, g, hrun, by simpa using htest.1, ?_⟩
  intro s hs
  simpa using htest.2 s hs

end ServerGame

end PokerTH
