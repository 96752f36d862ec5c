import Mathlib.Logic.Function.Basic
import PokerTH.Runs

namespace PokerTH

def SERVER_INIT_SESSION_TIMEOUT_SEC : Nat := 60
def SERVER_TIMEOUT_WARNING_REMAINING_SEC : Nat := 60
def SERVER_SESSION_ACTIVITY_TIMEOUT_SEC : Nat := 1800
def SERVER_SESSION_FORCED_TIMEOUT_SEC : Nat := 86400

namespace SessionTimers

inductive Timer
  | initTimeout | globalTimeout | activityTimeout
  deriving DecidableEq, Repr

inductive Handler
  | timerInitTimeout | timerSessionTimeout | timerActivityWarning
  deriving DecidableEq, Repr

/-- A session of the server with its timers. A timer that is armed has a time and a handler; once it has run out, its
handler waits for its turn and is no longer cancelled. -/
structure Session where
  now : Nat
  inInit : Bool
  armed : Timer → Option (Nat × Handler)
  handlers : List (Timer × Handler)
  timedOut : Option Nat
  closed : Bool

namespace Session

variable (s : Session)

/-- Arming a timer replaces what it was armed for. -/
def expiresAfter (timer : Timer) (sec : Nat) (handler : Handler) : Session :=
  { s with armed := Function.update s.armed timer (some (s.now + sec, handler)) }

def startTimerInitTimeout (timeoutSec : Nat) : Session := s.expiresAfter .initTimeout timeoutSec .timerInitTimeout

def startTimerGlobalTimeout (timeoutSec : Nat) : Session :=
  s.expiresAfter .globalTimeout timeoutSec .timerSessionTimeout

def resetActivityTimer : Session :=
  s.expiresAfter .activityTimeout (SERVER_SESSION_ACTIVITY_TIMEOUT_SEC - SERVER_TIMEOUT_WARNING_REMAINING_SEC)
    .timerActivityWarning

def closeSession : Session := { s with armed := fun _ => none, closed := true }

/-- `SessionError` with the error that the session has timed out. -/
def sessionTimedOut : Session := { s with timedOut := some s.now }.closeSession

def timerInitTimeout : Session := if s.inInit then s.sessionTimedOut else s

def timerSessionTimeout : Session := s.sessionTimedOut

def timerActivityWarning : Session :=
  s.expiresAfter .activityTimeout SERVER_TIMEOUT_WARNING_REMAINING_SEC .timerSessionTimeout

def handle : Handler → Session
  | .timerInitTimeout => s.timerInitTimeout
  | .timerSessionTimeout => s.timerSessionTimeout
  | .timerActivityWarning => s.timerActivityWarning

end Session

/-- The session of a new connection. The activity timer is armed as it is for every packet after. -/
def addConnection : Session :=
  (((⟨0, true, fun _ => none, [], none, false⟩ : Session).startTimerInitTimeout
    SERVER_INIT_SESSION_TIMEOUT_SEC).startTimerGlobalTimeout SERVER_SESSION_FORCED_TIMEOUT_SEC).resetActivityTimer

inductive Event
  | clock (elapsed : Nat)
  | timeout (timer : Timer)
  | handler (timer : Timer) (handler : Handler)
  | clientActivity
  | leaveInit
  | closeSession
  deriving DecidableEq, Repr

def fire (s : Session) : Event → Option Session
  | .clock elapsed => some { s with now := s.now + elapsed }
  | .timeout timer =>
      match s.armed timer with
      | none => none
      | some (t, h) =>
          if t ≤ s.now then
            some { s with armed := Function.update s.armed timer none, handlers := s.handlers ++ [(timer, h)] }
          else none
  | .handler timer h =>
      if (timer, h) ∈ s.handlers then some ({ s with handlers := s.handlers.erase (timer, h) }.handle h) else none
  | .clientActivity => some s.resetActivityTimer
  | .leaveInit => some { s with inInit := false }
  | .closeSession => some s.closeSession

/-- The runs of an open session on a server that keeps up: a handler that waits runs before anything else happens, and
the clock does not pass a timer. -/
def Prompt (s : Session) (e : Event) : Prop :=
  s.closed = false ∧
    match e with
    | .handler _ _ => True
    | .clock elapsed => s.handlers = [] ∧ ∀ timer t h, s.armed timer = some (t, h) → s.now + elapsed ≤ t
    | _ => s.handlers = []

def lastActivity (hist : List (Session × Event)) : Nat :=
  hist.foldl (fun t x => if x.2 = .clientActivity then x.1.now else t) 0

/-- The handler comes at the time `t`: the timer is armed for it, or it has run out and the handler waits. -/
inductive Comes (s : Session) (timer : Timer) (t : Nat) (h : Handler) : Prop
  | armed (harmed : s.armed timer = some (t, h)) (hnow : s.now ≤ t) (hwaits : ∀ k, (timer, k) ∉ s.handlers)
  | waits (harmed : s.armed timer = none) (hnow : s.now = t) (hwaits : s.handlers = [(timer, h)])

/-- An open session has a day, a minute to leave its first state, and half an hour from the last packet, the last minute
of it after a warning. -/
structure Open (last : Nat) (s : Session) : Prop where
  alive : s.timedOut = none
  init : Comes s .initTimeout SERVER_INIT_SESSION_TIMEOUT_SEC .timerInitTimeout ∨
    s.inInit = false ∧ s.armed .initTimeout = none ∧ ∀ k, (Timer.initTimeout, k) ∉ s.handlers
  global : Comes s .globalTimeout SERVER_SESSION_FORCED_TIMEOUT_SEC .timerSessionTimeout
  activity : Comes s .activityTimeout
      (last + (SERVER_SESSION_ACTIVITY_TIMEOUT_SEC - SERVER_TIMEOUT_WARNING_REMAINING_SEC)) .timerActivityWarning ∨
    Comes s .activityTimeout (last + SERVER_SESSION_ACTIVITY_TIMEOUT_SEC) .timerSessionTimeout

variable {s s' : Session} {e : Event} {hist : List (Session × Event)} {timer other : Timer} {t last : Nat} {h : Handler}

theorem lastActivity_snoc (hist : List (Session × Event)) (s : Session) (e : Event) :
    lastActivity (hist ++ [(s, e)]) = if e = .clientActivity then s.now else lastActivity hist := by
  simp [lastActivity]

theorem Comes.le (hc : Comes s timer t h) : s.now ≤ t := by
  cases hc with
  | armed _ hnow => exact hnow
  | waits _ hnow => exact Nat.le_of_eq hnow

theorem Comes.congr (hc : Comes s timer t h) (harmed : s'.armed timer = s.armed timer) (hnow : s'.now = s.now)
    (hhandlers : s'.handlers = s.handlers) : Comes s' timer t h := by
  cases hc with
  | armed ha hn hw => exact .armed (harmed.trans ha) (hnow ▸ hn) (hhandlers ▸ hw)
  | waits ha hn hw => exact .waits (harmed.trans ha) (hnow.trans hn) (hhandlers.trans hw)

theorem Comes.of_mem {k : Handler} (hc : Comes s timer t h) (hmem : (timer, k) ∈ s.handlers) :
    k = h ∧ s.now = t ∧ s.handlers = [(timer, h)] ∧ s.armed timer = none := by
  cases hc with
  | armed _ _ hw => exact absurd hmem (hw k)
  | waits ha hn hw =>
      rw [hw, List.mem_singleton, Prod.mk.injEq] at hmem
      exact ⟨hmem.2, hn, hw, ha⟩

theorem Comes.clock {elapsed : Nat} (hc : Comes s timer t h) (hempty : s.handlers = [])
    (htime : ∀ timer t h, s.armed timer = some (t, h) → s.now + elapsed ≤ t) :
    Comes { s with now := s.now + elapsed } timer t h := by
  cases hc with
  | armed ha _ hw => exact .armed ha (htime timer t h ha) hw
  | waits _ _ hw =>
      rw [hempty] at hw
      cases hw

/-- A timer that runs out: its own handler waits now, and the other timers stay as they are. -/
theorem Comes.timeout {k : Handler} {u : Nat} (hc : Comes s timer t h) (hempty : s.handlers = [])
    (harmed : s.armed other = some (u, k)) (hdue : u ≤ s.now) :
    Comes { s with armed := Function.update s.armed other none, handlers := s.handlers ++ [(other, k)] } timer t h := by
  cases hc with
  | waits _ _ hw =>
      rw [hempty] at hw
      cases hw
  | armed ha hn hw =>
      by_cases heq : timer = other
      · subst heq
        rw [ha, Option.some.injEq, Prod.mk.injEq] at harmed
        obtain ⟨rfl, rfl⟩ := harmed
        exact .waits (Function.update_self ..) (Nat.le_antisymm hn hdue) (by rw [hempty, List.nil_append])
      · refine .armed ((Function.update_of_ne heq ..).trans ha) hn fun k' hmem => ?_
        rw [hempty, List.nil_append, List.mem_singleton, Prod.mk.injEq] at hmem
        exact heq hmem.1

theorem Comes.frame {k : Handler} (hc : Comes s timer t h) (hmem : (other, k) ∈ s.handlers) (hne : timer ≠ other)
    (harmed : s'.armed timer = s.armed timer) (hnow : s'.now = s.now)
    (hhandlers : s'.handlers = s.handlers.erase (other, k)) : Comes s' timer t h := by
  cases hc with
  | waits _ _ hw =>
      rw [hw, List.mem_singleton, Prod.mk.injEq] at hmem
      exact absurd hmem.1.symm hne
  | armed ha hn hw =>
      refine .armed (harmed.trans ha) (hnow ▸ hn) fun k' hmem' => hw k' ?_
      rw [hhandlers] at hmem'
      exact List.mem_of_mem_erase hmem'

def Expired (last : Nat) (s : Session) : Prop :=
  s.now = SERVER_SESSION_FORCED_TIMEOUT_SEC ∨ s.now = last + SERVER_SESSION_ACTIVITY_TIMEOUT_SEC ∨
    s.inInit = true ∧ s.now = SERVER_INIT_SESSION_TIMEOUT_SEC

/-- A step leaves the session open, or closes it for its time, or for something else. -/
inductive Stepped (last : Nat) (s : Session) : Prop
  | stays (hopen : s.closed = false) (ho : Open last s)
  | expires (hclosed : s.closed = true) (hout : s.timedOut = some s.now) (hexpired : Expired last s)
  | closes (hclosed : s.closed = true) (hout : s.timedOut = none)

theorem Open.timeout {k : Handler} {u : Nat} (ho : Open last s) (hempty : s.handlers = [])
    (harmed : s.armed timer = some (u, k)) (hdue : u ≤ s.now) :
    Open last { s with armed := Function.update s.armed timer none, handlers := s.handlers ++ [(timer, k)] } where
  alive := ho.alive
  init := by
    rcases ho.init with hinit | ⟨hleft, hnone, hwaits⟩
    · exact .inl (hinit.timeout hempty harmed hdue)
    · have hne : Timer.initTimeout ≠ timer := by
        rintro rfl
        rw [hnone] at harmed
        cases harmed
      refine .inr ⟨hleft, (Function.update_of_ne hne ..).trans hnone, fun k' hmem => ?_⟩
      rw [hempty, List.nil_append, List.mem_singleton, Prod.mk.injEq] at hmem
      exact hne hmem.1
  global := ho.global.timeout hempty harmed hdue
  activity := ho.activity.imp (Comes.timeout · hempty harmed hdue) (Comes.timeout · hempty harmed hdue)

/-- The handlers of an open session: the first one does nothing once the session has left its first state, the warning
arms the last minute, and all others close the session. -/
theorem Open.handler (ho : Open last s) (hopen : s.closed = false) (hmem : (timer, h) ∈ s.handlers) :
    Stepped last ({ s with handlers := s.handlers.erase (timer, h) }.handle h) := by
  cases timer with
  | initTimeout =>
      rcases ho.init with hinit | ⟨-, -, hwaits⟩
      · obtain ⟨rfl, hnow, hall, hnone⟩ := hinit.of_mem hmem
        simp only [Session.handle, Session.timerInitTimeout]
        split_ifs with hleft
        · exact .expires rfl rfl (.inr (.inr ⟨hleft, hnow⟩))
        · refine .stays hopen ⟨ho.alive, .inr ⟨by simpa using hleft, hnone, fun k hk => ?_⟩,
            ho.global.frame hmem (by decide) rfl rfl rfl,
            ho.activity.imp (Comes.frame · hmem (by decide) rfl rfl rfl) (Comes.frame · hmem (by decide) rfl rfl rfl)⟩
          simp [hall] at hk
      · exact absurd hmem (hwaits h)
  | globalTimeout =>
      obtain ⟨rfl, hnow, -, -⟩ := ho.global.of_mem hmem
      exact .expires rfl rfl (.inl hnow)
  | activityTimeout =>
      rcases ho.activity with hwarning | htimeout
      · obtain ⟨rfl, hnow, hall, -⟩ := hwarning.of_mem hmem
        have hne (timer : Timer) (hne : timer ≠ .activityTimeout) :
            ({ s with handlers := s.handlers.erase (.activityTimeout, .timerActivityWarning) }.handle
              .timerActivityWarning).armed timer = s.armed timer := Function.update_of_ne hne ..
        refine .stays hopen ⟨ho.alive, ?_, ho.global.frame hmem (by decide) (hne _ (by decide)) rfl rfl, .inr ?_⟩
        · rcases ho.init with hinit | ⟨hleft, hnone, hwaits⟩
          · exact .inl (hinit.frame hmem (by decide) (hne _ (by decide)) rfl rfl)
          · exact .inr ⟨hleft, (hne _ (by decide)).trans hnone, fun k hk => hwaits k (List.mem_of_mem_erase hk)⟩
        · refine .armed ?_ ?_ fun k hk => ?_
          · simp only [Session.handle, Session.timerActivityWarning, Session.expiresAfter, Function.update_self, hnow,
              SERVER_TIMEOUT_WARNING_REMAINING_SEC, SERVER_SESSION_ACTIVITY_TIMEOUT_SEC]
          · change s.now ≤ _
            rw [hnow]
            simp only [SERVER_TIMEOUT_WARNING_REMAINING_SEC, SERVER_SESSION_ACTIVITY_TIMEOUT_SEC]
            omega
          · change _ ∈ s.handlers.erase _ at hk
            simp [hall] at hk
      · obtain ⟨rfl, hnow, -, -⟩ := htimeout.of_mem hmem
        exact .expires rfl rfl (.inr (.inl hnow))

theorem Open.fire (ho : Open last s) (hprompt : Prompt s e) (hfire : fire s e = some s') :
    Stepped (if e = .clientActivity then s.now else last) s' := by
  obtain ⟨hopen, hprompt⟩ := hprompt
  cases e with
  | clock elapsed =>
      cases hfire
      obtain ⟨hempty, htime⟩ := hprompt
      rw [if_neg (by simp)]
      exact .stays hopen ⟨ho.alive, ho.init.imp_left (Comes.clock · hempty htime), ho.global.clock hempty htime,
        ho.activity.imp (Comes.clock · hempty htime) (Comes.clock · hempty htime)⟩
  | timeout timer =>
      simp only [SessionTimers.fire] at hfire
      cases harmed : s.armed timer with
      | none =>
          rw [harmed] at hfire
          cases hfire
      | some wait =>
          rw [harmed] at hfire
          dsimp only at hfire
          split_ifs at hfire with hdue
          cases hfire
          rw [if_neg (by simp)]
          exact .stays hopen (ho.timeout hprompt harmed hdue)
  | handler timer h =>
      simp only [SessionTimers.fire] at hfire
      split_ifs at hfire with hmem
      cases hfire
      rw [if_neg (by simp)]
      exact ho.handler hopen hmem
  | clientActivity =>
      cases hfire
      have hne (timer : Timer) (hne : timer ≠ .activityTimeout) :
          s.resetActivityTimer.armed timer = s.armed timer := Function.update_of_ne hne ..
      rw [if_pos rfl]
      refine .stays hopen ⟨ho.alive, ?_, ho.global.congr (hne _ (by decide)) rfl rfl, .inl ?_⟩
      · rcases ho.init with hinit | ⟨hleft, hnone, hwaits⟩
        · exact .inl (hinit.congr (hne _ (by decide)) rfl rfl)
        · exact .inr ⟨hleft, (hne _ (by decide)).trans hnone, hwaits⟩
      · refine .armed ?_ (Nat.le_add_right ..) fun k hk => ?_
        · simp only [Session.resetActivityTimer, Session.expiresAfter, Function.update_self]
        · rw [show s.resetActivityTimer.handlers = [] from hprompt] at hk
          cases hk
  | leaveInit =>
      cases hfire
      rw [if_neg (by simp)]
      refine .stays hopen ⟨ho.alive, ?_, ho.global.congr rfl rfl rfl,
        ho.activity.imp (fun hc => hc.congr rfl rfl rfl) fun hc => hc.congr rfl rfl rfl⟩
      rcases ho.init with hinit | ⟨-, hnone, hwaits⟩
      · exact .inl (hinit.congr rfl rfl rfl)
      · exact .inr ⟨rfl, hnone, hwaits⟩
  | closeSession =>
      cases hfire
      exact .closes rfl ho.alive

theorem open_addConnection : Open 0 addConnection where
  alive := rfl
  init := .inl (.armed rfl (Nat.zero_le _) fun _ hk => by cases hk)
  global := .armed rfl (Nat.zero_le _) fun _ hk => by cases hk
  activity := .inl (.armed rfl (Nat.zero_le _) fun _ hk => by cases hk)

theorem run_stepped (hrun : Runs.Trace fire Prompt addConnection hist s) : Stepped (lastActivity hist) s := by
  induction hrun with
  | start => exact .stays rfl open_addConnection
  | @step hist s s' e _ hfire hprompt ih =>
      rw [lastActivity_snoc]
      cases ih with
      | stays _ ho => exact ho.fire hprompt hfire
      | expires hclosed => exact absurd hprompt.1 (by simp [hclosed])
      | closes hclosed => exact absurd hprompt.1 (by simp [hclosed])

/-- On a server that keeps up, a session stays open for a day at most, for a minute at most in its first state, and for
half an hour at most after the last packet that counts; one that is closed for its time is closed at the end of one of
these times, no sooner and no later. -/
theorem timed_out (hrun : Runs.Trace fire Prompt addConnection hist s) :
    (s.closed = false → s.timedOut = none ∧ s.now ≤ SERVER_SESSION_FORCED_TIMEOUT_SEC ∧
      s.now ≤ lastActivity hist + SERVER_SESSION_ACTIVITY_TIMEOUT_SEC ∧
        (s.inInit = true → s.now ≤ SERVER_INIT_SESSION_TIMEOUT_SEC)) ∧
      ∀ t, s.timedOut = some t → s.closed = true ∧ t = s.now ∧ Expired (lastActivity hist) s := by
  cases run_stepped hrun with
  | stays hopen ho =>
      refine ⟨fun _ => ⟨ho.alive, ho.global.le, ?_, fun hfirst => ?_⟩, fun t ht => ?_⟩
      · rcases ho.activity with hwarning | htimeout
        · exact Nat.le_trans hwarning.le (Nat.add_le_add_left (Nat.sub_le ..) _)
        · exact htimeout.le
      · rcases ho.init with hinit | ⟨hleft, -⟩
        · exact hinit.le
        · rw [hleft] at hfirst
          cases hfirst
      · rw [ho.alive] at ht
        cases ht
  | expires hclosed hout hexpired =>
      refine ⟨fun hopen => ?_, fun t ht => ?_⟩
      · rw [hclosed] at hopen
        cases hopen
      · rw [hout, Option.some.injEq] at ht
        exact ⟨hclosed, ht.symm, hexpired⟩
  | closes hclosed hout =>
      refine ⟨fun hopen => ?_, fun t ht => ?_⟩
      · rw [hclosed] at hopen
        cases hopen
      · rw [hout] at ht
        cases ht

instance (s : Session) (t : Nat) : Decidable (∀ timer u h, s.armed timer = some (u, h) → t ≤ u) :=
  decidable_of_iff (∀ timer ∈ [Timer.initTimeout, .globalTimeout, .activityTimeout],
      ∀ w ∈ s.armed timer, t ≤ w.1)
    ⟨fun hall timer u h harmed => hall timer (by cases timer <;> simp) (u, h) harmed,
      fun hall timer _ w hw => hall timer w.1 w.2 hw⟩

def prompt (s : Session) (e : Event) : Bool :=
  !s.closed &&
    match e with
    | .handler _ _ => true
    | .clock elapsed => decide (s.handlers = [] ∧ ∀ timer u h, s.armed timer = some (u, h) → s.now + elapsed ≤ u)
    | _ => decide (s.handlers = [])

theorem prompt_of_prompt (s : Session) (e : Event) (hcheck : prompt s e = true) : Prompt s e := by
  simp only [prompt, Bool.and_eq_true, Bool.not_eq_true'] at hcheck
  refine ⟨hcheck.1, ?_⟩
  cases e with
  | handler timer h => trivial
  | clock elapsed => exact of_decide_eq_true hcheck.2
  | timeout timer => exact of_decide_eq_true hcheck.2
  | clientActivity => exact of_decide_eq_true hcheck.2
  | leaveInit => exact of_decide_eq_true hcheck.2
  | closeSession => exact of_decide_eq_true hcheck.2

/-- A client that logs in, sends its last packet in the first minute and does not answer the warning. -/
def idle : List Event :=
  [.leaveInit, .clock 40, .clientActivity, .clock 20, .timeout .initTimeout, .handler .initTimeout .timerInitTimeout,
    .clock 1720, .timeout .activityTimeout, .handler .activityTimeout .timerActivityWarning, .clock 60,
    .timeout .activityTimeout, .handler .activityTimeout .timerSessionTimeout]

theorem timed_out_idle : ∃ hist s, Runs.Trace fire Prompt addConnection hist s ∧ s.timedOut = some 1840 ∧
    Expired (lastActivity hist) s := by
  obtain ⟨hist, s, hrun, htest⟩ := Runs.exists_trace fire Prompt prompt addConnection idle
    (fun s => decide (s.timedOut = some 1840)) (by decide) prompt_of_prompt
  have hout := of_decide_eq_true htest
  exact ⟨hist, s, hrun, hout, ((timed_out hrun).2 1840 hout).2.2⟩

def trail : Session → List Event → List (Session × Event)
  | _, [] => []
  | s, e :: es => (s, e) :: ((fire s e).map fun s' => trail s' es).getD []

theorem trace_trail (hrun : Runs.Trace fire (fun _ _ => True) addConnection hist s) {es : List Event}
    (hplay : Runs.play fire (fun _ _ => true) s es = some s') :
    Runs.Trace fire (fun _ _ => True) addConnection (hist ++ trail s es) s' := by
  induction es generalizing s hist with
  | nil =>
      cases hplay
      rwa [trail, List.append_nil]
  | cons e es ih =>
      rw [Runs.play, if_pos rfl] at hplay
      obtain ⟨t, hfire, hrest⟩ := Option.bind_eq_some_iff.mp hplay
      have hall := ih (hrun.step hfire trivial) hrest
      rw [List.append_assoc] at hall
      rw [trail, hfire]
      exact hall

/-- On a server that is late with a warning, a packet that comes before it is lost on the timer: the session is closed
a minute after. -/
def late : List Event :=
  [.leaveInit, .clock 60, .timeout .initTimeout, .handler .initTimeout .timerInitTimeout, .clock 1680,
    .timeout .activityTimeout, .clientActivity, .handler .activityTimeout .timerActivityWarning, .clock 60,
    .timeout .activityTimeout, .handler .activityTimeout .timerSessionTimeout]

theorem timed_out_late : ∃ hist s, Runs.Trace fire (fun _ _ => True) addConnection hist s ∧ s.timedOut = some 1800 ∧
    lastActivity hist = 1740 := by
  have hend : ((Runs.play fire (fun _ _ => true) addConnection late).map fun s => s.timedOut) = some (some 1800) := by
    decide
  obtain ⟨s, hplay, hout⟩ := Option.map_eq_some_iff.mp hend
  exact ⟨_, s, trace_trail .start hplay, hout, by decide⟩

end SessionTimers

end PokerTH
