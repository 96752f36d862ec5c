import PokerTH.CleanerServer

namespace PokerTH.CleanerServer

variable {C : Config} {s s' : Server} {c : Connection} {e : Event} {auth : Bool} {bytes : List UInt8}

theorem handleMessages_eq (s : Server) : handleMessages C s =
    match (framing C).next s.recvBuf with
    | none => (s, false)
    | some (.message msg, rest) =>
        if refuses C s.authenticated msg then (handleMessage C { s with recvBuf := rest } msg, true)
        else handleMessages C (handleMessage C { s with recvBuf := rest } msg)
    | some (_, _) => ({ s with recvBuf := [] }, true) := by
  rw [handleMessages]
  simp only [framing, prefixed, readFrame]
  by_cases hheader : s.recvBuf.length < CLEANER_NET_HEADER_SIZE
  · rw [if_neg (by omega), if_pos hheader]
  · rw [if_pos (by omega), if_neg hheader]
    split_ifs with hsize hbody hshort hshort
    · rfl
    · omega
    · cases C.parse _ <;> rfl
    · rfl
    · omega

def Vouched (C : Config) (c : Connection) : Prop :=
  ∀ p ∈ c.checked, p.1 ++ [.cleanerChatRequest p.2] <+: c.handled ∧ ∃ msg ∈ p.1, validInit C msg

theorem vouched_handle {msg : ChatCleanerMessage} (hc : Vouched C c)
    (hauth : auth → ∃ m ∈ c.handled, validInit C m) : Vouched C (c.handle auth msg) := by
  have hmore : ∀ p ∈ c.checked, p.1 ++ [.cleanerChatRequest p.2] <+: c.handled ++ [msg] ∧
      ∃ m ∈ p.1, validInit C m := fun p hp => ⟨(hc p hp).1.trans (List.prefix_append _ _), (hc p hp).2⟩
  cases msg with
  | cleanerInit version secret => exact hmore
  | other => exact hmore
  | cleanerChatRequest req =>
      intro p hp
      simp only [Connection.handle] at hp ⊢
      split_ifs at hp with ha
      · rcases List.mem_append.mp hp with hp | hp
        · exact hmore p hp
        · rw [List.mem_singleton] at hp
          subst hp
          exact ⟨List.prefix_rfl, hauth ha⟩
      · exact hmore p hp

theorem handle_handled (msg : ChatCleanerMessage) (c : Connection) :
    (c.handle auth msg).handled = c.handled ++ [msg] ∧ (c.handle auth msg).bytes = c.bytes := by
  cases msg <;> exact ⟨rfl, rfl⟩

structure Handled (C : Config) (s : Server) (c : Connection) (r : Server × Bool) : Prop where
  socket : ∃ c', r.1.tcpSocket = some c' ∧ c'.bytes = c.bytes ∧
    c'.handled = c.handled ++ messages C s.authenticated ((framing C).frames s.recvBuf) ∧
    (Vouched C c → (s.authenticated → ∃ m ∈ c.handled, validInit C m) →
      Vouched C c' ∧ (r.1.authenticated → ∃ m ∈ c'.handled, validInit C m))
  error : r.2 = (authenticates C s.authenticated ((framing C).frames s.recvBuf)).isNone
  goes : ∀ a, authenticates C s.authenticated ((framing C).frames s.recvBuf) = some a →
    r.1.authenticated = a ∧ r.1.recvBuf = (framing C).pending s.recvBuf
  accepting : r.1.accepting = s.accepting
  blockConnection : r.1.blockConnection = s.blockConnection
  ended : r.1.ended = s.ended

theorem handled_invalid {f : Frame} {rest : List UInt8} (hnext : (framing C).next s.recvBuf = some (f, rest))
    (hf : f.invalid) (hs : s.tcpSocket = some c) : Handled C s c (handleMessages C s) := by
  have hframes := (framing C).frames_of_final hnext hf
  have hloop : handleMessages C s = ({ s with recvBuf := [] }, true) := by
    rw [handleMessages_eq, hnext]
    cases f <;> first | rfl | cases hf
  have hnone : authenticates C s.authenticated [f] = none := by cases f <;> first | rfl | cases hf
  have hmsgs : messages C s.authenticated [f] = [] := by cases f <;> first | rfl | cases hf
  rw [hloop]
  exact {
    socket := ⟨c, hs, rfl, by rw [hframes, hmsgs, List.append_nil], fun hv ha => ⟨hv, ha⟩⟩
    error := by rw [hframes, hnone]; rfl
    goes := by
      intro a ha
      rw [hframes, hnone] at ha
      cases ha
    accepting := rfl
    blockConnection := rfl
    ended := rfl }

theorem authenticated_handle {msg : ChatCleanerMessage} (hs : s.authenticated → ∃ m ∈ c.handled, validInit C m)
    (ha : s.authenticated || validInit C msg) : ∃ m ∈ (c.handle s.authenticated msg).handled, validInit C m := by
  rw [(handle_handled msg c).1]
  rcases Bool.or_eq_true_iff.mp ha with ha | ha
  · obtain ⟨m, hm, hv⟩ := hs ha
    exact ⟨m, List.mem_append_left _ hm, hv⟩
  · exact ⟨msg, List.mem_append_right _ (List.mem_singleton.mpr rfl), ha⟩

theorem handled_handleMessages (hs : s.tcpSocket = some c) : Handled C s c (handleMessages C s) := by
  generalize hdata : s.recvBuf = data
  induction data using (framing C).frames_induction generalizing s c with
  | hnone data hnext =>
      rw [← hdata] at hnext
      have hframes := (framing C).frames_of_none hnext
      rw [handleMessages_eq, hnext]
      exact {
        socket := ⟨c, hs, rfl, by rw [hframes]; simp [messages], fun hv ha => ⟨hv, ha⟩⟩
        error := by rw [hframes]; rfl
        goes := by
          intro a ha
          rw [hframes] at ha
          exact ⟨Option.some.inj ha, ((framing C).pending_of_none hnext).symm⟩
        accepting := rfl
        blockConnection := rfl
        ended := rfl }
  | hfinal data f rest hnext hf =>
      rw [← hdata] at hnext
      exact handled_invalid hnext hf hs
  | hnext data f rest hnext hf ih =>
      rw [← hdata] at hnext
      have hframes := (framing C).frames_of_next hnext hf
      have hpending := (framing C).pending_of_next hnext hf
      cases f with
      | unparseable => cases hf
      | badSize => cases hf
      | message msg =>
          have hsocket : (handleMessage C { s with recvBuf := rest } msg).tcpSocket =
              some (c.handle s.authenticated msg) := by simp [handleMessage, hs]
          obtain ⟨hhandled, hbytes⟩ := @handle_handled s.authenticated msg c
          rw [handleMessages_eq, hnext]
          dsimp only
          by_cases hrefuse : refuses C s.authenticated msg = true
          · rw [if_pos hrefuse]
            exact {
              socket := ⟨_, hsocket, hbytes, by rw [hhandled, hframes]; simp [messages, hrefuse],
                fun hv ha => ⟨vouched_handle hv ha, authenticated_handle ha⟩⟩
              error := by rw [hframes]; simp [authenticates, hrefuse]
              goes := by
                intro a ha
                rw [hframes] at ha
                simp [authenticates, hrefuse] at ha
              accepting := rfl
              blockConnection := rfl
              ended := rfl }
          · rw [if_neg hrefuse]
            have hloop := ih hsocket rfl
            obtain ⟨c', hc', hb', hh', hv'⟩ := hloop.socket
            have hgoes : authenticates C s.authenticated ((framing C).frames s.recvBuf) =
                authenticates C (s.authenticated || validInit C msg) ((framing C).frames rest) := by
              rw [hframes]
              simp [authenticates, hrefuse]
            exact {
              socket := ⟨c', hc', hb'.trans hbytes, by
                  rw [hh', hhandled, hframes]
                  simp [messages, hrefuse, handleMessage],
                fun hv ha => hv' (vouched_handle hv ha) (authenticated_handle ha)⟩
              error := hgoes ▸ hloop.error
              goes := fun a ha => hpending ▸ hloop.goes a (hgoes ▸ ha)
              accepting := hloop.accepting
              blockConnection := hloop.blockConnection
              ended := hloop.ended }

theorem authenticates_append (auth : Bool) (fs gs : List Frame) :
    authenticates C auth (fs ++ gs) = (authenticates C auth fs).bind fun a => authenticates C a gs := by
  induction fs generalizing auth with
  | nil => rfl
  | cons f fs ih =>
      cases f with
      | unparseable => rfl
      | badSize => rfl
      | message msg =>
          simp only [List.cons_append, authenticates]
          split_ifs
          · rfl
          · exact ih _

theorem messages_append {a : Bool} (fs gs : List Frame) (hfs : authenticates C auth fs = some a) :
    messages C auth (fs ++ gs) = messages C auth fs ++ messages C a gs := by
  induction fs generalizing auth with
  | nil =>
      cases hfs
      rfl
  | cons f fs ih =>
      cases f with
      | unparseable => cases hfs
      | badSize => cases hfs
      | message msg =>
          simp only [authenticates] at hfs
          split_ifs at hfs with hrefuse
          simp only [List.cons_append, messages, hrefuse, if_false, ih hfs, Bool.false_eq_true]

theorem not_ended_of_authenticates {a : Bool} (ha : authenticates C auth ((framing C).frames bytes) = some a) :
    ¬ (framing C).Ended bytes := by
  rintro ⟨f, hf, hfinal⟩
  generalize (framing C).frames bytes = fs at ha hf
  induction fs generalizing auth with
  | nil => cases hf
  | cons g fs ih =>
      cases g with
      | unparseable => cases ha
      | badSize => cases ha
      | message msg =>
          simp only [authenticates] at ha
          split_ifs at ha
          rcases List.mem_cons.mp hf with rfl | hf
          · cases hfinal
          · exact ih ha hf

/-- The server keeps its connections apart: what it knows comes from the open connection alone. -/
structure Apart (C : Config) (s : Server) : Prop where
  blockConnection : s.blockConnection = s.tcpSocket.isSome
  accepting : s.accepting = s.tcpSocket.isNone
  authenticated : ∀ c, s.tcpSocket = some c →
    authenticates C false ((framing C).frames c.bytes) = some s.authenticated
  recvBuf : ∀ c, s.tcpSocket = some c → s.recvBuf = (framing C).pending c.bytes
  vouched : ∀ c, s.tcpSocket = some c → s.authenticated → ∃ msg ∈ c.handled, validInit C msg
  own : ∀ c ∈ connections s, c.handled = ownMessages C c.bytes ∧ Vouched C c

theorem Apart.independent (ha : Apart C s) : Independent C s where
  own := fun c hc => (ha.own c hc).1
  checked := fun c hc => (ha.own c hc).2
  accepting := fun hs => by simp [ha.accepting, hs]

theorem apart_start : Apart C {} where
  blockConnection := rfl
  accepting := rfl
  authenticated := by simp
  recvBuf := by simp
  vouched := by simp
  own := by simp [connections]

/-- What a step may not do: open a connection on the bytes that another one has left, fail to read, or read what
makes an error. -/
def Allowed (C : Config) (s : Server) : Event → Prop
  | .connect => s.recvBuf = []
  | .read bytes => bytes ≠ [] ∧ ∀ c, s.tcpSocket = some c → Faultless C (c.bytes ++ bytes)
  | .disconnect => True

theorem frames_nil : (framing C).frames [] = [] :=
  (framing C).frames_of_none (by simp [framing, prefixed, CLEANER_NET_HEADER_SIZE])

theorem pending_nil : (framing C).pending [] = [] :=
  (framing C).pending_of_none (by simp [framing, prefixed, CLEANER_NET_HEADER_SIZE])

theorem connections_closeSocket (s : Server) : connections (closeSocket s) = connections s := by
  simp [connections, closeSocket]

theorem apart_connect (ha : Apart C s) (hempty : s.recvBuf = []) (hfire : fire C s .connect = some s') :
    Apart C s' := by
  simp only [fire] at hfire
  split_ifs at hfire with haccept
  have hnone : s.tcpSocket = none := by
    rw [ha.accepting, Option.isNone_iff_eq_none] at haccept
    exact haccept
  have hopen : s.blockConnection = false := by rw [ha.blockConnection, hnone]; rfl
  simp only [newCon, hopen, Bool.false_eq_true, if_false, Option.some.injEq] at hfire
  subst hfire
  refine ⟨rfl, rfl, ?_, ?_, ?_, ?_⟩
  · rintro c ⟨⟩
    rw [frames_nil]
    rfl
  · rintro c ⟨⟩
    rw [pending_nil]
    exact hempty
  · rintro c ⟨⟩ hauth
    cases hauth
  · intro c hc
    simp only [connections, closeSocket, hnone, Option.toList_none, List.append_nil, Option.toList_some,
      List.mem_append, List.mem_singleton] at hc
    rcases hc with hc | rfl
    · exact ha.own c (List.mem_append_left _ hc)
    · refine ⟨?_, by simp [Vouched]⟩
      rw [ownMessages, frames_nil]
      rfl

theorem apart_disconnect (ha : Apart C s) (hfire : fire C s .disconnect = some s') : Apart C s' := by
  simp only [fire] at hfire
  split_ifs at hfire
  cases hfire
  refine ⟨rfl, rfl, by rintro c ⟨⟩, by rintro c ⟨⟩, by rintro c ⟨⟩, ?_⟩
  exact fun c hc => ha.own c (connections_closeSocket s ▸ hc)

/-- A read that makes no error takes the frames of the open connection up to it. -/
theorem onRead_eq (ha : Apart C s) (hs : s.tcpSocket = some c) (hbytes : bytes ≠ []) :
    onRead C bytes s =
      if Faultless C (c.bytes ++ bytes) then
        (handleMessages C
          { s with tcpSocket := some { c with bytes := c.bytes ++ bytes }, recvBuf := s.recvBuf ++ bytes }).1
      else
        closeOnError (handleMessages C
          { s with tcpSocket := some { c with bytes := c.bytes ++ bytes }, recvBuf := s.recvBuf ++ bytes }).1 := by
  have hauth := ha.authenticated c hs
  have hended := not_ended_of_authenticates hauth
  have hroom : ¬ s.recvBuf.length ≥ recvBufSize := by
    have hshort := length_of_prefixed_none (by decide) ((framing C).next_pending hended)
    rw [← ha.recvBuf c hs] at hshort
    have hsize : MAX_CLEANER_PACKET_SIZE + CLEANER_NET_HEADER_SIZE < recvBufSize := by decide
    omega
  have hloop := @handled_handleMessages C
    { s with tcpSocket := some { c with bytes := c.bytes ++ bytes }, recvBuf := s.recvBuf ++ bytes } _ rfl
  have hfaultless : Faultless C (c.bytes ++ bytes) ↔
      (authenticates C s.authenticated ((framing C).frames (s.recvBuf ++ bytes))).isSome := by
    rw [Faultless, (framing C).frames_append hended, authenticates_append, hauth, ha.recvBuf c hs]
    rfl
  have herror := hloop.error
  simp only [onRead, hs, if_neg hroom, if_neg hbytes]
  split_ifs with hflag hok hok
  · rw [herror, Option.isNone_iff_eq_none] at hflag
    rw [hfaultless, hflag] at hok
    cases hok
  · rfl
  · rfl
  · rw [herror, Option.isNone_iff_eq_none, ← Option.not_isSome_iff_eq_none, not_not] at hflag
    exact absurd (hfaultless.mpr hflag) hok

theorem apart_read (ha : Apart C s) (hallowed : Allowed C s (.read bytes))
    (hfire : fire C s (.read bytes) = some s') : Apart C s' := by
  simp only [fire] at hfire
  split_ifs at hfire with hread
  cases hfire
  obtain ⟨c, hs⟩ := Option.isSome_iff_exists.mp hread.1
  have hok := hallowed.2 c hs
  obtain ⟨a, hauths⟩ := Option.isSome_iff_exists.mp hok
  have hauth := ha.authenticated c hs
  have hended := not_ended_of_authenticates hauth
  have hloop := @handled_handleMessages C
    { s with tcpSocket := some { c with bytes := c.bytes ++ bytes }, recvBuf := s.recvBuf ++ bytes } _ rfl
  obtain ⟨c', hc', hb', hh', hv'⟩ := hloop.socket
  have hframes : (framing C).frames (c.bytes ++ bytes) =
      (framing C).frames c.bytes ++ (framing C).frames (s.recvBuf ++ bytes) := by
    rw [(framing C).frames_append hended, ha.recvBuf c hs]
  obtain ⟨hauth', hbuf'⟩ := hloop.goes a (by
    rw [hframes, authenticates_append, hauth] at hauths
    exact hauths)
  have hown := ha.own c (by simp [connections, hs])
  have hvouched := hv' hown.2 (ha.vouched c hs)
  rw [onRead_eq ha hs hallowed.1, if_pos hok]
  refine ⟨?_, ?_, ?_, ?_, ?_, ?_⟩
  · rw [hloop.blockConnection, hc', ha.blockConnection, hs]
    rfl
  · rw [hloop.accepting, hc', ha.accepting, hs]
    rfl
  · intro d hd
    rw [hc'] at hd
    cases hd
    rw [hb', hauths, hauth']
  · intro d hd
    rw [hc'] at hd
    cases hd
    rw [hb', hbuf', (framing C).pending_append hended, ← ha.recvBuf c hs]
  · intro d hd
    rw [hc'] at hd
    cases hd
    exact hvouched.2
  · intro d hd
    rw [connections, hc', hloop.ended, List.mem_append] at hd
    rcases hd with hd | hd
    · exact ha.own d (List.mem_append_left _ hd)
    · rw [Option.toList_some, List.mem_singleton] at hd
      subst hd
      refine ⟨?_, hvouched.1⟩
      rw [hh', hb', hown.1, ownMessages, ownMessages, hframes, messages_append _ _ hauth]

theorem apart_fire (ha : Apart C s) (hfire : fire C s e = some s') (hallowed : Allowed C s e) : Apart C s' := by
  cases e with
  | connect => exact apart_connect ha hallowed hfire
  | read bytes => exact apart_read ha hallowed hfire
  | disconnect => exact apart_disconnect ha hfire

/-- After an error the server has no connection, and does not accept one. -/
theorem not_independent_of_error (ha : Apart C s) (hfire : fire C s (.read bytes) = some s')
    (hallowed : ¬ Allowed C s (.read bytes)) : ¬ Independent C s' := by
  simp only [fire] at hfire
  split_ifs at hfire with hread
  cases hfire
  obtain ⟨c, hs⟩ := Option.isSome_iff_exists.mp hread.1
  have hpaused : s.accepting = false := by rw [ha.accepting, hs]; rfl
  suffices hstop : (onRead C bytes s).tcpSocket = none ∧ (onRead C bytes s).accepting = false by
    intro hi
    have haccept := hi.accepting hstop.1
    rw [hstop.2] at haccept
    cases haccept
  by_cases hbytes : bytes = []
  · subst hbytes
    have hended := not_ended_of_authenticates (ha.authenticated c hs)
    have hshort := length_of_prefixed_none (by decide) ((framing C).next_pending hended)
    rw [← ha.recvBuf c hs] at hshort
    have hsize : MAX_CLEANER_PACKET_SIZE + CLEANER_NET_HEADER_SIZE < recvBufSize := by decide
    simp only [onRead, hs]
    rw [if_neg (by omega), if_pos trivial]
    exact ⟨rfl, hpaused⟩
  · have hfault : ¬ Faultless C (c.bytes ++ bytes) := by
      intro hok
      apply hallowed
      refine ⟨hbytes, fun d hd => ?_⟩
      rw [hs] at hd
      cases hd
      exact hok
    rw [onRead_eq ha hs hbytes, if_neg hfault]
    refine ⟨rfl, ?_⟩
    exact (@handled_handleMessages C
      { s with tcpSocket := some { c with bytes := c.bytes ++ bytes }, recvBuf := s.recvBuf ++ bytes } _ rfl).accepting.trans
      hpaused

/-- Connections that leave no unfinished frame behind and make no error do not depend on each other. -/
theorem connections_independent {hist : List (Server × Event)}
    (hrun : Runs.Trace (fire C) (Allowed C) {} hist s) :
    Independent C s ∧
      ∀ bytes s', fire C s (.read bytes) = some s' → (Independent C s' ↔ Allowed C s (.read bytes)) := by
  have ha : Apart C s :=
    @Runs.Trace.invariant _ _ _ _ _ _ _ (fun _ s => Apart C s) apart_start
      (fun _ _ _ _ ha hf hok => apart_fire ha hf hok) hrun
  refine ⟨ha.independent, fun bytes s' hfire => ⟨fun hi => ?_, fun hok => (apart_fire ha hfire hok).independent⟩⟩
  by_contra hallowed
  exact not_independent_of_error ha hfire hallowed hi

def noSecret : Config where
  clientSecret := []
  parse body :=
    if body = [8, 2] then some .other
    else if body = [8, 1, 18, 4, 8, 2, 18, 0] then some (.cleanerInit 2 [])
    else none

def check (C : Config) (s : Server) : Event → Bool
  | .connect => s.recvBuf == []
  | .read bytes => bytes != [] && s.tcpSocket.all fun c => decide (Faultless C (c.bytes ++ bytes))
  | .disconnect => true

theorem allowed_of_check {C : Config} (s : Server) (e : Event) (hcheck : check C s e = true) : Allowed C s e := by
  cases e with
  | connect => exact eq_of_beq hcheck
  | disconnect => trivial
  | read bytes =>
      simp only [check, Bool.and_eq_true, bne_iff_ne] at hcheck
      refine ⟨hcheck.1, fun c hc => ?_⟩
      rw [hc] at hcheck
      exact of_decide_eq_true hcheck.2

theorem connections_independent_handshake : ∃ hist s, Runs.Trace (fire noSecret) (Allowed noSecret) {} hist s ∧
    s.ended.length = 1 ∧ s.authenticated = true ∧ Independent noSecret s := by
  obtain ⟨hist, s, hrun, htest⟩ := Runs.exists_trace (fire noSecret) (Allowed noSecret) (check noSecret) {}
    [.connect, .read [0, 0, 0, 2, 8], .read [2], .disconnect,
      .connect, .read [0, 0, 0, 8, 8, 1, 18, 4, 8, 2, 18, 0, 0]]
    (fun s => s.ended.length == 1 && s.authenticated) (by decide +kernel) allowed_of_check
  rw [Bool.and_eq_true, beq_iff_eq] at htest
  exact ⟨hist, s, hrun, htest.1, htest.2, (connections_independent hrun).1⟩

/-- After a frame of no length the server accepts no more. What one connection leaves unfinished is read before the
bytes of the next one. -/
theorem connections_dependent :
    (∃ hist s, Runs.Trace (fire noSecret) (fun _ _ => True) {} hist s ∧
      s.tcpSocket = none ∧ s.accepting = false) ∧
    ∃ hist s, Runs.Trace (fire noSecret) (fun _ _ => True) {} hist s ∧
      ∃ c ∈ connections s, c.handled = [] ∧ ownMessages noSecret c.bytes = [.other] := by
  constructor
  · obtain ⟨hist, s, hrun, htest⟩ := Runs.exists_trace (fire noSecret) (fun _ _ => True) (fun _ _ => true) {}
      [.connect, .read [0, 0, 0, 0]] (fun s => s.tcpSocket.isNone && !s.accepting) (by decide +kernel)
      (fun _ _ _ => trivial)
    rw [Bool.and_eq_true, Option.isNone_iff_eq_none, Bool.not_eq_true'] at htest
    exact ⟨hist, s, hrun, htest⟩
  · obtain ⟨hist, s, hrun, htest⟩ := Runs.exists_trace (fire noSecret) (fun _ _ => True) (fun _ _ => true) {}
      [.connect, .read [0, 0], .disconnect, .connect, .read [0, 0, 0, 2, 8, 2]]
      (fun s => (connections s).any fun c => c.handled == [] && ownMessages noSecret c.bytes == [.other])
      (by decide +kernel) (fun _ _ _ => trivial)
    obtain ⟨c, hc, hown⟩ := List.any_eq_true.mp htest
    rw [Bool.and_eq_true, beq_iff_eq, beq_iff_eq] at hown
    exact ⟨hist, s, hrun, c, hc, hown⟩

end PokerTH.CleanerServer
