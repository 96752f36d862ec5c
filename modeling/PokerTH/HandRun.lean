import PokerTH.Distribute
import PokerTH.Game
import PokerTH.Perform
import PokerTH.Runs

namespace PokerTH

/-- Where a hand stands between two handlers of the server: its loop timer is armed, it waits for
the action of the current player, or it is over. -/
inductive Phase
  | loop | waitPlayerAction | handOver
  deriving DecidableEq, Repr

namespace HandRun

open Board Hand

structure State where
  hand : Hand
  phase : Phase

inductive Step (maxPlayers : Nat) : State → State → Prop
  | nextRound {h h' : Hand} {showCards : Bool} (hrun : h.engineLoop maxPlayers = .ok (.nextRound h' showCards)) :
      Step maxPlayers ⟨h, .loop⟩ ⟨h', .loop⟩
  | playersTurn {h h' : Hand} {r : Ref} (hrun : h.engineLoop maxPlayers = .ok (.playersTurn h' r)) :
      Step maxPlayers ⟨h, .loop⟩ ⟨h', .waitPlayerAction⟩
  | foldDisconnected {h h' : Hand} {r : Ref} (hrun : h.engineLoop maxPlayers = .ok (.playersTurn h' r)) :
      Step maxPlayers ⟨h, .loop⟩ ⟨h'.performPlayerAction r .fold 0, .loop⟩
  | endOfHand {h h' : Hand} (hrun : h.engineLoop maxPlayers = .ok (.endOfHand h')) :
      Step maxPlayers ⟨h, .loop⟩ ⟨h', .handOver⟩
  | accepted {h h' : Hand} {id : Nat} {r : Ref} {req filled : MyActionRequest}
      (hplayer : h.getPlayerByUniqueId id = some r)
      (hrun : h.handleMyAction r req = .ok (.valid, filled, h')) :
      Step maxPlayers ⟨h, .waitPlayerAction⟩ ⟨h', .loop⟩
  | timeout {h : Hand} {r : Ref} (hplayer : h.getCurrentPlayer = .ok r) :
      Step maxPlayers ⟨h, .waitPlayerAction⟩ ⟨h.timeoutAction r, .loop⟩

structure Ready (maxPlayers : Nat) (t : Table) : Prop where
  ids : DistinctIDs t.seatsList t.players
  seats : t.seatsList.length ≤ maxPlayers
  active : t.activePlayerList = t.seatsList.filter fun r => (t.players r).myActiveStatus
  cash_nonneg : ∀ r ∈ t.seatsList, 0 ≤ (t.players r).myCash
  set_zero : ∀ r ∈ t.seatsList, (t.players r).mySet = 0
  pot_zero : t.board.pot = 0

structure Start (maxPlayers : Nat) (g : Game) (t : Table) (s : State) : Prop where
  ready : Ready maxPlayers t
  dealt : ∃ (cardsValueInt : Nat → Nat) (elapsedMinutes : Int) (g' : Game) (h : Hand),
    g.initHand cardsValueInt elapsedMinutes t = .ok (g', h) ∧ s = ⟨h.skipFirstRunGui.start, .loop⟩

def Reachable (maxPlayers : Nat) (s t : State) : Prop := Relation.ReflTransGen (Step maxPlayers) s t

/-- The steps whose accepted requests are all allowed ones. -/
inductive StepWhere (allowed : Hand → Ref → MyActionRequest → Prop) (maxPlayers : Nat) : State → State → Prop
  | engine {s s' : State} (hloop : s.phase = .loop) (hstep : Step maxPlayers s s') :
      StepWhere allowed maxPlayers s s'
  | accepted {h h' : Hand} {id : Nat} {r : Ref} {req filled : MyActionRequest}
      (hplayer : h.getPlayerByUniqueId id = some r)
      (hrun : h.handleMyAction r req = .ok (.valid, filled, h')) (hallowed : allowed h r req) :
      StepWhere allowed maxPlayers ⟨h, .waitPlayerAction⟩ ⟨h', .loop⟩
  | timeout {h : Hand} {r : Ref} (hplayer : h.getCurrentPlayer = .ok r) :
      StepWhere allowed maxPlayers ⟨h, .waitPlayerAction⟩ ⟨h.timeoutAction r, .loop⟩

def ReachableWhere (allowed : Hand → Ref → MyActionRequest → Prop) (maxPlayers : Nat) (s t : State) : Prop :=
  Relation.ReflTransGen (StepWhere allowed maxPlayers) s t

theorem StepWhere.step {allowed : Hand → Ref → MyActionRequest → Prop} {maxPlayers : Nat} {s s' : State}
    (hstep : StepWhere allowed maxPlayers s s') : Step maxPlayers s s' := by
  cases hstep with
  | engine _ hstep => exact hstep
  | accepted hplayer hrun _ => exact .accepted hplayer hrun
  | timeout hplayer => exact .timeout hplayer

/-- The inputs of a hand without disconnects: the loop timer, a request, the action timer. -/
inductive Event
  | loopTimer
  | request (id : Nat) (req : MyActionRequest)
  | actionTimer

def fire (maxPlayers : Nat) (s : State) : Event → Option State
  | .loopTimer =>
      match s.phase, s.hand.engineLoop maxPlayers with
      | .loop, .ok (.nextRound h _) => some ⟨h, .loop⟩
      | .loop, .ok (.playersTurn h _) => some ⟨h, .waitPlayerAction⟩
      | .loop, .ok (.endOfHand h) => some ⟨h, .handOver⟩
      | _, _ => none
  | .request id req =>
      match s.phase, s.hand.getPlayerByUniqueId id with
      | .waitPlayerAction, some r =>
          match s.hand.handleMyAction r req with
          | .ok (.valid, _, h) => some ⟨h, .loop⟩
          | _ => none
      | _, _ => none
  | .actionTimer =>
      match s.phase, s.hand.getCurrentPlayer with
      | .waitPlayerAction, .ok r => some ⟨s.hand.timeoutAction r, .loop⟩
      | _, _ => none

def play (maxPlayers : Nat) : State → List Event → Option State
  | s, [] => some s
  | s, e :: es => (fire maxPlayers s e).bind fun s => play maxPlayers s es

theorem fire_step {maxPlayers : Nat} {s s' : State} {e : Event} (hfire : fire maxPlayers s e = some s') :
    Step maxPlayers s s' := by
  obtain ⟨h, phase⟩ := s
  cases e with
  | loopTimer =>
      simp only [fire] at hfire
      split at hfire
      · next hrun =>
          cases hfire
          exact .nextRound hrun
      · next hrun =>
          cases hfire
          exact .playersTurn hrun
      · next hrun =>
          cases hfire
          exact .endOfHand hrun
      · cases hfire
  | request id req =>
      simp only [fire] at hfire
      split at hfire
      · next hplayer =>
          split at hfire
          · next hrun =>
              cases hfire
              exact .accepted hplayer hrun
          · cases hfire
      · cases hfire
  | actionTimer =>
      simp only [fire] at hfire
      split at hfire
      · next hplayer =>
          cases hfire
          exact .timeout hplayer
      · cases hfire

theorem play_reachable {maxPlayers : Nat} {s s' : State} {es : List Event}
    (hplay : play maxPlayers s es = some s') : Reachable maxPlayers s s' := by
  induction es generalizing s with
  | nil =>
      cases hplay
      exact .refl
  | cons e es ih =>
      obtain ⟨u, hu, hrest⟩ := Option.bind_eq_some_iff.mp hplay
      exact .head (fire_step hu) (ih hrest)

def deal (g : Game) (cardsValueInt : Nat → Nat) (elapsedMinutes : Int) (t : Table) : Option State :=
  match g.initHand cardsValueInt elapsedMinutes t with
  | .ok (_, h) => some ⟨h.skipFirstRunGui.start, .loop⟩
  | .error _ => none

theorem deal_start {maxPlayers : Nat} {g : Game} {v : Nat → Nat} {elapsed : Int} {t : Table} {s : State}
    (hr : Ready maxPlayers t) (hdeal : deal g v elapsed t = some s) : Start maxPlayers g t s := by
  simp only [deal] at hdeal
  split at hdeal
  · next g' h hrun =>
      cases hdeal
      exact ⟨hr, v, elapsed, g', h, hrun, rfl⟩
  · cases hdeal

theorem exists_reachable {maxPlayers : Nat} {t : Table} (hr : Ready maxPlayers t) (g : Game) (v : Nat → Nat)
    (es : List Event) (check : State → Bool)
    (hplay : ((deal g v 0 t).bind fun s => play maxPlayers s es).any check) :
    ∃ s s', Start maxPlayers g t s ∧ Reachable maxPlayers s s' ∧ check s' := by
  obtain ⟨s', hs', hcheck⟩ := (Option.any_eq_true _ _).mp hplay
  obtain ⟨s, hs, hrun⟩ := Option.bind_eq_some_iff.mp hs'
  exact ⟨s, s', deal_start hr hs, play_reachable hrun, hcheck⟩

def permits (check : Hand → Ref → MyActionRequest → Bool) (s : State) : Event → Bool
  | .request id req => (s.hand.getPlayerByUniqueId id).any fun r => check s.hand r req
  | _ => true

theorem fire_stepWhere {allowed : Hand → Ref → MyActionRequest → Prop} {check : Hand → Ref → MyActionRequest → Bool}
    {maxPlayers : Nat} {s s' : State} {e : Event} (hcheck : ∀ h r req, check h r req = true → allowed h r req)
    (hpermits : permits check s e = true) (hfire : fire maxPlayers s e = some s') :
    StepWhere allowed maxPlayers s s' := by
  cases e with
  | loopTimer =>
      refine .engine ?_ (fire_step hfire)
      simp only [fire] at hfire
      split at hfire <;> first | assumption | cases hfire
  | request id req =>
      obtain ⟨h, phase⟩ := s
      simp only [fire] at hfire
      split at hfire
      · next r hplayer =>
          split at hfire
          · next hrun =>
              cases hfire
              rw [permits, hplayer, Option.any_some] at hpermits
              exact .accepted hplayer hrun (hcheck h r req hpermits)
          · cases hfire
      · cases hfire
  | actionTimer =>
      obtain ⟨h, phase⟩ := s
      simp only [fire] at hfire
      split at hfire
      · next hplayer =>
          cases hfire
          exact .timeout hplayer
      · cases hfire

theorem exists_reachableWhere (allowed : Hand → Ref → MyActionRequest → Prop) {maxPlayers : Nat} {t : Table}
    (hr : Ready maxPlayers t) (g : Game) (v : Nat → Nat) (es : List Event) (check : Hand → Ref → MyActionRequest → Bool)
    (hcheck : ∀ h r req, check h r req = true → allowed h r req) (test : State → Bool)
    (hplay : ((deal g v 0 t).bind fun s => Runs.play (fire maxPlayers) (permits check) s es).any test) :
    ∃ s s', Start maxPlayers g t s ∧ ReachableWhere allowed maxPlayers s s' ∧ test s' := by
  obtain ⟨s', hs', htest⟩ := (Option.any_eq_true _ _).mp hplay
  obtain ⟨s, hs, hrun⟩ := Option.bind_eq_some_iff.mp hs'
  exact ⟨s, s', deal_start hr hs, Runs.reachable_of_play (fun _ _ _ => fire_stepWhere hcheck) hrun, htest⟩

end HandRun

end PokerTH
