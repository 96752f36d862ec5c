import PokerTH.Assoc
import PokerTH.Runs

namespace PokerTH.ChatRate

abbrev ChatRateMap := List (Nat × List Int)

def MAX_CHAT_TEXT_SIZE : Nat := 128

def MAX_CHAT_RATE_MESSAGES : Nat := 10

def MAX_CHAT_RATE_WINDOW_SEC : Int := 10

def CLEANUP_THRESHOLD : Nat := 1000

inductive ChatOutcome
  | empty | tooLong | rateLimited | passed
  deriving DecidableEq, Repr

section

variable (m : ChatRateMap)

def messageTimes (playerId : Nat) : List Int := (m.lookup playerId).getD []

def recent (cutoff : Int) (times : List Int) : List Int := times.filter fun t => decide (cutoff ≤ t)

/-- A map that has grown drops the players without a recent message. -/
def cleanup (cutoff : Int) : ChatRateMap :=
  if CLEANUP_THRESHOLD < m.length then
    m.filter fun e => !(e.2.isEmpty || e.2.all fun t => decide (t < cutoff))
  else m

def handleNetPacketChatRequest (playerId : Nat) (chatMsg : List UInt8) (now : Int) : ChatOutcome × ChatRateMap :=
  if chatMsg.isEmpty then (.empty, m)
  else if MAX_CHAT_TEXT_SIZE ≤ chatMsg.length then (.tooLong, m)
  else
    let cutoff := now - MAX_CHAT_RATE_WINDOW_SEC
    let times := recent cutoff (messageTimes m playerId)
    if MAX_CHAT_RATE_MESSAGES ≤ times.length then (.rateLimited, Assoc.put m playerId times)
    else (.passed, cleanup (Assoc.put m playerId (times ++ [now])) cutoff)

/-- Every now and then, what is older than ten minutes goes. -/
def timerCleanupRateMaps (now : Int) : ChatRateMap :=
  (m.map fun e => (e.1, recent (now - 600) e.2)).filter fun e => !e.2.isEmpty

end

structure State where
  chatRateMap : ChatRateMap
  clock : Int

inductive Event
  | chat (playerId : Nat) (chatMsg : List UInt8) (now : Int)
  | timer (now : Int)

def Event.now : Event → Int
  | .chat _ _ now => now
  | .timer now => now

def fire (s : State) : Event → Option State
  | .chat playerId chatMsg now => some ⟨(handleNetPacketChatRequest s.chatRateMap playerId chatMsg now).2, now⟩
  | .timer now => some ⟨timerCleanupRateMaps s.chatRateMap now, now⟩

def Forward (s : State) (e : Event) : Prop := s.clock ≤ e.now

def passes (playerId : Nat) (x : State × Event) : Option Int :=
  match x.2 with
  | .chat player chatMsg now =>
      if player = playerId ∧ (handleNetPacketChatRequest x.1.chatRateMap player chatMsg now).1 = .passed then some now
      else none
  | .timer _ => none

def passed (playerId : Nat) (hist : List (State × Event)) : List Int := hist.filterMap (passes playerId)

variable {m : ChatRateMap} {playerId : Nat} {chatMsg : List UInt8} {now cutoff c : Int} {times : List Int}

theorem recent_recent (h : cutoff ≤ c) : recent c (recent cutoff times) = recent c times := by
  rw [recent, recent, recent, List.filter_filter]
  refine List.filter_congr fun t _ => ?_
  by_cases ht : c ≤ t
  · have hcut : cutoff ≤ t := by omega
    simp [ht, hcut]
  · simp [ht]

theorem recent_append (c : Int) (times more : List Int) : recent c (times ++ more) = recent c times ++ recent c more :=
  List.filter_append ..

theorem recent_old (h : cutoff ≤ c) (hold : ∀ t ∈ times, t < cutoff) : recent c times = [] := by
  refine List.filter_eq_nil_iff.mpr fun t ht => ?_
  have hlt := hold t ht
  simp only [decide_eq_true_eq]
  omega

theorem messageTimes_put (h : Assoc.Keyed m) (player : Nat) :
    messageTimes (Assoc.put m playerId times) player = if player = playerId then times else messageTimes m player := by
  rw [messageTimes]
  split_ifs with heq
  · rw [heq, Assoc.lookup_put_self]
    rfl
  · rw [Assoc.lookup_put_of_ne h heq]
    rfl

theorem recent_filter {keep : List Int → Bool} (hkeep : ∀ times, keep times = false → recent c times = [])
    (times : Option (List Int)) : recent c ((times.filter keep).getD []) = recent c (times.getD []) := by
  cases times with
  | none => rfl
  | some times =>
      rw [Option.filter_some]
      cases hk : keep times with
      | true => rfl
      | false => exact (hkeep times hk).symm

theorem recent_cleanup (h : Assoc.Keyed m) (hc : cutoff ≤ c) :
    recent c (messageTimes (cleanup m cutoff) playerId) = recent c (messageTimes m playerId) := by
  rw [cleanup]
  split_ifs
  · rw [messageTimes, Assoc.lookup_filter h]
    refine recent_filter (fun times hdrop => recent_old hc fun t ht => ?_) (m.lookup playerId)
    simp only [Bool.not_eq_false', Bool.or_eq_true] at hdrop
    rcases hdrop with hempty | hall
    · rw [List.isEmpty_iff.mp hempty] at ht
      cases ht
    · exact of_decide_eq_true (List.all_eq_true.mp hall t ht)
  · rfl

theorem recent_timer (h : Assoc.Keyed m) (hc : now - 600 ≤ c) :
    recent c (messageTimes (timerCleanupRateMaps m now) playerId) = recent c (messageTimes m playerId) := by
  rw [messageTimes, timerCleanupRateMaps, Assoc.lookup_filter (h.mapValues _), Assoc.lookup_mapValues]
  rw [recent_filter (fun times hdrop => ?_) ((m.lookup playerId).map fun times => recent (now - 600) times)]
  · rw [messageTimes]
    cases m.lookup playerId with
    | none => rfl
    | some times => exact recent_recent hc
  · simp only [Bool.not_eq_false', List.isEmpty_iff] at hdrop
    rw [hdrop]
    rfl

theorem Keyed.cleanup (h : Assoc.Keyed m) : Assoc.Keyed (cleanup m cutoff) := by
  rw [ChatRate.cleanup]
  split_ifs
  · exact h.filter _
  · exact h

variable {s s' : State} {e : Event} {hist : List (State × Event)}

theorem passed_snoc (playerId : Nat) (s : State) (e : Event) :
    passed playerId (hist ++ [(s, e)]) = passed playerId hist ++ (passes playerId (s, e)).toList := by
  rw [passed, List.filterMap_append, passed]
  cases h : passes playerId (s, e) <;> simp [h]

/-- What a request does: the player's times lose the old ones, and get a new one if the message passes. -/
theorem chat_spec (h : Assoc.Keyed m) (player : Nat) (hc : now - MAX_CHAT_RATE_WINDOW_SEC ≤ c) :
    Assoc.Keyed (handleNetPacketChatRequest m playerId chatMsg now).2 ∧
      recent c (messageTimes (handleNetPacketChatRequest m playerId chatMsg now).2 player) =
        recent c (messageTimes m player ++
          if playerId = player ∧ (handleNetPacketChatRequest m playerId chatMsg now).1 = .passed then [now]
          else []) := by
  rw [handleNetPacketChatRequest]
  by_cases hempty : chatMsg.isEmpty = true
  · simp [hempty, h]
  by_cases hlong : MAX_CHAT_TEXT_SIZE ≤ chatMsg.length
  · simp [hempty, hlong, h]
  simp only [if_neg hempty, if_neg hlong]
  by_cases hlimit : MAX_CHAT_RATE_MESSAGES ≤
      (recent (now - MAX_CHAT_RATE_WINDOW_SEC) (messageTimes m playerId)).length
  · simp only [if_pos hlimit]
    refine ⟨h.put, ?_⟩
    simp only [reduceCtorEq, and_false, if_false, List.append_nil]
    rw [messageTimes_put h]
    split_ifs with heq
    · rw [heq, recent_recent hc]
    · rfl
  · simp only [if_neg hlimit]
    refine ⟨Keyed.cleanup h.put, ?_⟩
    simp only [and_true]
    rw [recent_cleanup h.put hc, messageTimes_put h]
    by_cases heq : player = playerId
    · rw [if_pos heq, if_pos heq.symm, heq, recent_append, recent_append, recent_recent hc]
    · rw [if_neg heq, if_neg (Ne.symm heq), List.append_nil]

/-- The message of a player does not pass if he has too many recent ones. -/
theorem chat_passed_iff : (handleNetPacketChatRequest m playerId chatMsg now).1 = .passed ↔
    chatMsg ≠ [] ∧ chatMsg.length < MAX_CHAT_TEXT_SIZE ∧
      (recent (now - MAX_CHAT_RATE_WINDOW_SEC) (messageTimes m playerId)).length < MAX_CHAT_RATE_MESSAGES := by
  rw [handleNetPacketChatRequest]
  by_cases hempty : chatMsg.isEmpty = true
  · simp [List.isEmpty_iff.mp hempty]
  have hne : chatMsg ≠ [] := by simpa using hempty
  by_cases hlong : MAX_CHAT_TEXT_SIZE ≤ chatMsg.length
  · simp [hne, hlong, Nat.not_lt.mpr hlong]
  simp only [if_neg hempty, if_neg hlong]
  by_cases hlimit : MAX_CHAT_RATE_MESSAGES ≤
      (recent (now - MAX_CHAT_RATE_WINDOW_SEC) (messageTimes m playerId)).length
  · simp [hlimit, Nat.not_lt.mpr hlimit]
  · simp only [if_neg hlimit, true_iff]
    exact ⟨hne, Nat.lt_of_not_le hlong, Nat.lt_of_not_le hlimit⟩

/-- The times of the map are those of the run, as far as they count at the clock or later. -/
structure Synced (hist : List (State × Event)) (s : State) : Prop where
  keyed : Assoc.Keyed s.chatRateMap
  times : ∀ playerId c, s.clock - MAX_CHAT_RATE_WINDOW_SEC ≤ c →
    recent c (messageTimes s.chatRateMap playerId) = recent c (passed playerId hist)
  old : ∀ playerId, ∀ t ∈ passed playerId hist, t ≤ s.clock
  few : ∀ playerId a, ((passed playerId hist).filter fun t =>
    decide (a ≤ t ∧ t ≤ a + MAX_CHAT_RATE_WINDOW_SEC)).length ≤ MAX_CHAT_RATE_MESSAGES

theorem Synced.passed_iff (h : Synced hist s) (hnow : s.clock ≤ now) :
    (handleNetPacketChatRequest s.chatRateMap playerId chatMsg now).1 = .passed ↔
      chatMsg ≠ [] ∧ chatMsg.length < MAX_CHAT_TEXT_SIZE ∧
        (recent (now - MAX_CHAT_RATE_WINDOW_SEC) (passed playerId hist)).length < MAX_CHAT_RATE_MESSAGES := by
  rw [chat_passed_iff, h.times playerId _ (by omega)]

/-- A window with the new message has room for it: what is in it counts for the message. -/
theorem room_of_passed
    (hless : (recent (now - MAX_CHAT_RATE_WINDOW_SEC) (passed playerId hist)).length < MAX_CHAT_RATE_MESSAGES)
    {a : Int} (ha : now ≤ a + MAX_CHAT_RATE_WINDOW_SEC) :
    ((passed playerId hist).filter fun t => decide (a ≤ t ∧ t ≤ a + MAX_CHAT_RATE_WINDOW_SEC)).length <
      MAX_CHAT_RATE_MESSAGES := by
  refine Nat.lt_of_le_of_lt ?_ hless
  refine (List.monotone_filter_right _ fun t ht => ?_).length_le
  simp only [decide_eq_true_eq] at ht ⊢
  omega

theorem toList_passes (player : Nat) : (passes player (s, .chat playerId chatMsg now)).toList =
    if playerId = player ∧ (handleNetPacketChatRequest s.chatRateMap playerId chatMsg now).1 = .passed then [now]
    else [] := by
  have hchat : passes player (s, .chat playerId chatMsg now) =
      if playerId = player ∧ (handleNetPacketChatRequest s.chatRateMap playerId chatMsg now).1 = .passed then some now
      else none := rfl
  rw [hchat]
  split_ifs <;> rfl

theorem Synced.chat (h : Synced hist s) (hnow : s.clock ≤ now) :
    Synced (hist ++ [(s, .chat playerId chatMsg now)])
      ⟨(handleNetPacketChatRequest s.chatRateMap playerId chatMsg now).2, now⟩ := by
  refine ⟨(chat_spec h.keyed playerId (Int.le_refl _)).1, ?_, ?_, ?_⟩
  · intro player c hc
    rw [(chat_spec h.keyed player hc).2, passed_snoc, toList_passes, recent_append, recent_append,
      h.times player c (Int.le_trans (Int.sub_le_sub_right hnow _) hc)]
  · intro player t ht
    rw [passed_snoc, toList_passes, List.mem_append] at ht
    rcases ht with ht | ht
    · exact Int.le_trans (h.old player t ht) hnow
    · split_ifs at ht
      · exact Int.le_of_eq (List.mem_singleton.mp ht)
      · cases ht
  · intro player a
    rw [passed_snoc, toList_passes, List.filter_append, List.length_append]
    have hfew := h.few player a
    split_ifs with hpasses
    · obtain ⟨rfl, hpasses⟩ := hpasses
      by_cases hin : a ≤ now ∧ now ≤ a + MAX_CHAT_RATE_WINDOW_SEC
      · rw [List.filter_cons_of_pos (by simpa using hin)]
        exact room_of_passed ((h.passed_iff hnow).mp hpasses).2.2 hin.2
      · rw [List.filter_cons_of_neg (by simpa using hin)]
        exact hfew
    · exact hfew

theorem Synced.timer (h : Synced hist s) (hnow : s.clock ≤ now) :
    Synced (hist ++ [(s, .timer now)]) ⟨timerCleanupRateMaps s.chatRateMap now, now⟩ := by
  have hsame (player : Nat) : passed player (hist ++ [(s, .timer now)]) = passed player hist := by
    rw [passed_snoc]
    exact List.append_nil _
  refine ⟨(h.keyed.mapValues _).filter _, ?_, ?_, ?_⟩
  · intro player c hc
    have hlate : now - 600 ≤ c := by
      simp only [MAX_CHAT_RATE_WINDOW_SEC] at hc
      omega
    rw [hsame, recent_timer h.keyed hlate]
    exact h.times player c (Int.le_trans (Int.sub_le_sub_right hnow _) hc)
  · intro player t ht
    rw [hsame] at ht
    exact Int.le_trans (h.old player t ht) hnow
  · intro player a
    rw [hsame]
    exact h.few player a

/-- Whatever is cleaned up, a message passes if fewer than ten of the player's have passed in the last ten seconds, and
so he never has more than ten in such a time. -/
theorem chat_window {clock : Int} (hrun : Runs.Trace fire Forward ⟨[], clock⟩ hist s) :
    (∀ playerId chatMsg now, s.clock ≤ now →
      ((handleNetPacketChatRequest s.chatRateMap playerId chatMsg now).1 = .passed ↔
        chatMsg ≠ [] ∧ chatMsg.length < MAX_CHAT_TEXT_SIZE ∧
          (recent (now - MAX_CHAT_RATE_WINDOW_SEC) (passed playerId hist)).length < MAX_CHAT_RATE_MESSAGES)) ∧
      ∀ playerId a, ((passed playerId hist).filter fun t =>
        decide (a ≤ t ∧ t ≤ a + MAX_CHAT_RATE_WINDOW_SEC)).length ≤ MAX_CHAT_RATE_MESSAGES := by
  have h : Synced hist s := by
    induction hrun with
    | start =>
        refine ⟨List.nodup_nil, fun _ _ _ => rfl, ?_, fun _ _ => Nat.zero_le _⟩
        intro playerId t ht
        cases ht
    | @step hist s s' e _ hfire hforward ih =>
        cases e with
        | chat playerId chatMsg now =>
            cases hfire
            exact ih.chat hforward
        | timer now =>
            cases hfire
            exact ih.timer hforward
  exact ⟨fun playerId chatMsg now hnow => h.passed_iff hnow, h.few⟩

/-- After a message and a cleanup. -/
theorem chat_window_hello :
    (handleNetPacketChatRequest (timerCleanupRateMaps (handleNetPacketChatRequest [] 3 [72, 105] 100).2 105) 3 [33]
      110).1 = .passed := by
  have hhello : Runs.Trace fire Forward ⟨[], 0⟩ ([] ++ [(⟨[], 0⟩, .chat 3 [72, 105] 100)])
      ⟨(handleNetPacketChatRequest [] 3 [72, 105] 100).2, 100⟩ :=
    Runs.Trace.start.step rfl (show (0 : Int) ≤ 100 by decide)
  have hforward : Forward ⟨(handleNetPacketChatRequest [] 3 [72, 105] 100).2, 100⟩ (.timer 105) :=
    show (100 : Int) ≤ 105 by decide
  have hrun := hhello.step rfl hforward
  exact ((chat_window hrun).1 3 [33] 110 (by decide)).mpr ⟨by decide, by decide, by decide⟩

end PokerTH.ChatRate
