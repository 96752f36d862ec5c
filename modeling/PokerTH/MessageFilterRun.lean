import PokerTH.MessageFilter

namespace PokerTH.MessageFilter

open Runs (Each)

variable {f f' : MessageFilter} {m : ChatMessage} {offence : OffenceType} {action : ActionType} {e : Event}
  {es : List Event} {recs : List Note} {id : Nat} {nick : String}

inductive Punished (m : ChatMessage) (offence : OffenceType) (f f' : MessageFilter) : ActionType → Prop
  | first (hold : f.myClientWarnLevelList m.playerId = none)
      (hwarn : f'.myClientWarnLevelList = Function.update f.myClientWarnLevelList m.playerId (some ⟨m.nick, offence, 1⟩))
      (hkick : f'.myClientKickCounterList = f.myClientKickCounterList) : Punished m offence f f' .warn
  | again (i : ClientWarnInfos) (hold : f.myClientWarnLevelList m.playerId = some i)
      (hlimit : i.warnLevel ≠ f.warnLevelToKick)
      (hwarn : f'.myClientWarnLevelList =
        Function.update f.myClientWarnLevelList m.playerId (some ⟨m.nick, offence, i.warnLevel + 1⟩))
      (hkick : f'.myClientKickCounterList = f.myClientKickCounterList) : Punished m offence f f' .warn
  | mute (i : ClientWarnInfos) (hold : f.myClientWarnLevelList m.playerId = some i) (hgame : m.gameId ≠ 0)
      (hwarn : f'.myClientWarnLevelList = Function.update f.myClientWarnLevelList m.playerId none)
      (hkick : f'.myClientKickCounterList = f.myClientKickCounterList) : Punished m offence f f' .mute
  | kick (i : ClientWarnInfos) (hold : f.myClientWarnLevelList m.playerId = some i) (hgame : m.gameId = 0)
      (hwarn : f'.myClientWarnLevelList = Function.update f.myClientWarnLevelList m.playerId none)
      (hlimit : ∀ j, f.myClientKickCounterList m.nick = some j → j.kickNumber ≠ f.kickNumberToBan)
      (hkick : f'.myClientKickCounterList = Function.update f.myClientKickCounterList m.nick
        (some ⟨m.now, (f.myClientKickCounterList m.nick).elim 0 (fun j => j.kickNumber) + 1⟩)) : Punished m offence f f' .kick
  | kickban (i : ClientWarnInfos) (hold : f.myClientWarnLevelList m.playerId = some i) (hgame : m.gameId = 0)
      (hwarn : f'.myClientWarnLevelList = Function.update f.myClientWarnLevelList m.playerId none)
      (hkick : f'.myClientKickCounterList = Function.update f.myClientKickCounterList m.nick none) :
      Punished m offence f f' .kickban

theorem punish_cases (f : MessageFilter) (m : ChatMessage) (offence : OffenceType) :
    Punished m offence f (f.punish m offence).2 (f.punish m offence).1 := by
  simp only [punish]
  cases hold : f.myClientWarnLevelList m.playerId with
  | none => exact .first hold rfl rfl
  | some i =>
      dsimp only
      split_ifs with hlimit hgame
      · exact .mute i hold hgame rfl rfl
      · rw [not_not] at hgame
        have hsame : (f.removePlayer m.playerId).myClientKickCounterList = f.myClientKickCounterList := rfl
        simp only [countKick, hsame]
        cases hkick : f.myClientKickCounterList m.nick with
        | none =>
            refine .kick i hold hgame rfl ?_ ?_
            · simp [hkick]
            · simp [hkick, putKick, hsame]
        | some j =>
            dsimp only
            split_ifs with hban
            · exact .kickban i hold hgame rfl rfl
            · refine .kick i hold hgame rfl ?_ ?_
              · rw [hkick]
                rintro j' hj'
                cases hj'
                exact hban
              · simp [hkick, putKick, hsame]
      · rw [not_or] at hlimit
        exact .again i hold hlimit.1 rfl rfl

theorem punish_config (f : MessageFilter) (m : ChatMessage) (offence : OffenceType) :
    (f.punish m offence).2.warnLevelToKick = f.warnLevelToKick ∧ (f.punish m offence).2.kickNumberToBan = f.kickNumberToBan := by
  simp only [punish]
  cases f.myClientWarnLevelList m.playerId with
  | none => exact ⟨rfl, rfl⟩
  | some i =>
      dsimp only
      split_ifs
      · exact ⟨rfl, rfl⟩
      · simp only [countKick]
        split
        · exact ⟨rfl, rfl⟩
        · split_ifs <;> exact ⟨rfl, rfl⟩
      · exact ⟨rfl, rfl⟩

def tallyWarning (playerId : Nat) (n : Int) : Note → Int
  | .verdict v =>
      if v.message.playerId = playerId then
        match v.action with
        | .nothing => n
        | .warn => n + 1
        | .kick | .kickban | .mute => 0
      else n
  | .forgot _ _ => n

def warnings (playerId : Nat) (recs : List Note) : Int := recs.foldl (tallyWarning playerId) 0

/-- The kicks of a nick one after the other with the time of the last. A ban ends them, and they are forgotten when the last
one is more than the forgetting time ago. -/
def tallyKick (nick : String) (k : Option ClientKickInfos) : Note → Option ClientKickInfos
  | .verdict v =>
      if v.message.nick = nick then
        match v.action with
        | .kick => some ⟨v.message.now, k.elim 0 (fun j => j.kickNumber) + 1⟩
        | .kickban => none
        | .nothing | .warn | .mute => k
      else k
  | .forgot now forgetSeconds => k.filter fun j => decide (now - j.lastKickTimestamp ≤ forgetSeconds)

def kicks (nick : String) (recs : List Note) : Option ClientKickInfos := recs.foldl (tallyKick nick) none

theorem warnings_snoc (recs : List Note) (n : Note) : warnings id (recs ++ [n]) = tallyWarning id (warnings id recs) n := by
  rw [warnings, List.foldl_append]
  rfl

theorem kicks_snoc (recs : List Note) (n : Note) : kicks nick (recs ++ [n]) = tallyKick nick (kicks nick recs) n := by
  rw [kicks, List.foldl_append]
  rfl

structure Known (recs : List Note) (f : MessageFilter) : Prop where
  warn : ∀ id, (f.myClientWarnLevelList id).elim 0 (fun i => i.warnLevel) = warnings id recs
  kick : ∀ nick, f.myClientKickCounterList nick = kicks nick recs

structure Bounded (f : MessageFilter) : Prop where
  warnLimit : 1 ≤ f.warnLevelToKick
  kickLimit : 1 ≤ f.kickNumberToBan
  warn : ∀ id i, f.myClientWarnLevelList id = some i → 1 ≤ i.warnLevel ∧ i.warnLevel ≤ f.warnLevelToKick
  kick : ∀ nick j, f.myClientKickCounterList nick = some j → 1 ≤ j.kickNumber ∧ j.kickNumber ≤ f.kickNumberToBan

theorem elim_update (g : ClientWarnInfos → Int) (l : Nat → Option ClientWarnInfos) (playerId id : Nat)
    (infos : Option ClientWarnInfos) : (Function.update l playerId infos id).elim 0 g =
      if playerId = id then infos.elim 0 g else (l id).elim 0 g := by
  by_cases hid : id = playerId
  · subst hid
    rw [Function.update_self, if_pos rfl]
  · rw [Function.update_of_ne hid, if_neg (Ne.symm hid)]

theorem Known.punished {v : Verdict} (hk : Known recs f) (hp : Punished v.message v.offence f f' v.action) :
    Known (recs ++ [.verdict v]) f' := by
  obtain ⟨m, offence, action, texts, warnLimit, kickLimit⟩ := v
  dsimp only at hp
  have hkicks (nick : String) (infos : Option ClientKickInfos) :
      Function.update f.myClientKickCounterList m.nick infos nick =
        if m.nick = nick then infos else f.myClientKickCounterList nick := by
    by_cases hnick : nick = m.nick
    · subst hnick
      rw [Function.update_self, if_pos rfl]
    · rw [Function.update_of_ne hnick, if_neg (Ne.symm hnick)]
  constructor
  · intro id
    rw [warnings_snoc, ← hk.warn id]
    simp only [tallyWarning]
    cases hp with
    | first hold hwarn =>
        rw [hwarn, elim_update]
        split_ifs with hid
        · subst hid
          rw [hold]
          rfl
        · rfl
    | again i hold hlimit hwarn =>
        rw [hwarn, elim_update]
        split_ifs with hid
        · subst hid
          rw [hold]
          rfl
        · rfl
    | mute i hold hgame hwarn =>
        rw [hwarn, elim_update]
        rfl
    | kick i hold hgame hwarn =>
        rw [hwarn, elim_update]
        rfl
    | kickban i hold hgame hwarn =>
        rw [hwarn, elim_update]
        rfl
  · intro nick
    rw [kicks_snoc, ← hk.kick nick]
    simp only [tallyKick]
    cases hp with
    | first hold hwarn hkick => rw [hkick, ite_self]
    | again i hold hlimit hwarn hkick => rw [hkick, ite_self]
    | mute i hold hgame hwarn hkick => rw [hkick, ite_self]
    | kick i hold hgame hwarn hlimit hkick =>
        rw [hkick, hkicks]
        split_ifs with hnick
        · rw [hnick]
        · rfl
    | kickban i hold hgame hwarn hkick => rw [hkick, hkicks]

/-- A punishment that the levels of the player call for. -/
structure Fair (before : List Note) (v : Verdict) : Prop where
  warned : v.action = .warn → warnings v.message.playerId before + 1 ≤ v.warnLevelToKick
  notFirst : v.action ≠ .nothing → v.action ≠ .warn → 1 ≤ warnings v.message.playerId before
  limit : v.offence ≠ .none → v.warnLevelToKick ≤ warnings v.message.playerId before →
    if v.message.gameId = 0 then v.action = .kick ∨ v.action = .kickban else v.action = .mute
  noticed : v.offence ≠ .none → v.action ≠ .nothing
  kicked : v.action = .kick → (kicks v.message.nick before).elim 0 (fun j => j.kickNumber) + 1 ≤ v.kickNumberToBan

theorem Punished.fair {v : Verdict} (hk : Known recs f) (hb : Bounded f) (hp : Punished v.message v.offence f f' v.action)
    (hwarnLimit : v.warnLevelToKick = f.warnLevelToKick) (hkickLimit : v.kickNumberToBan = f.kickNumberToBan) :
    Fair recs v := by
  obtain ⟨m, offence, action, texts, warnLimit, kickLimit⟩ := v
  dsimp only at hp hwarnLimit hkickLimit
  have hwarn := hk.warn m.playerId
  have hlevel (i : ClientWarnInfos) (hold : f.myClientWarnLevelList m.playerId = some i) :
      warnings m.playerId recs = i.warnLevel ∧ 1 ≤ i.warnLevel ∧ i.warnLevel ≤ f.warnLevelToKick := by
    rw [hold] at hwarn
    exact ⟨hwarn.symm, hb.warn _ i hold⟩
  have hone := hb.warnLimit
  cases hp with
  | first hold =>
      rw [hold] at hwarn
      simp only [Option.elim_none] at hwarn
      refine ⟨fun _ => ?_, fun _ h => absurd rfl h, fun _ h => ?_, fun _ => nofun, nofun⟩
      · dsimp only
        omega
      · dsimp only at h
        omega
  | again i hold hlimit =>
      obtain ⟨hsame, hpos, hle⟩ := hlevel i hold
      refine ⟨fun _ => ?_, fun _ h => absurd rfl h, fun _ h => ?_, fun _ => nofun, nofun⟩
      · dsimp only
        omega
      · dsimp only at h
        omega
  | mute i hold hgame =>
      obtain ⟨hsame, hpos, hle⟩ := hlevel i hold
      exact ⟨nofun, fun _ _ => hsame ▸ hpos, fun _ _ => by rw [if_neg hgame], fun _ => nofun, nofun⟩
  | kick i hold hgame _ hlimit =>
      obtain ⟨hsame, hpos, hle⟩ := hlevel i hold
      refine ⟨nofun, fun _ _ => hsame ▸ hpos, fun _ _ => by rw [if_pos hgame]; exact .inl rfl, fun _ => nofun, fun _ => ?_⟩
      dsimp only
      rw [← hk.kick, hkickLimit]
      have hkickOne := hb.kickLimit
      cases hj : f.myClientKickCounterList m.nick with
      | none =>
          simp only [Option.elim_none]
          omega
      | some j =>
          have hne := hlimit j hj
          have hle := (hb.kick m.nick j hj).2
          simp only [Option.elim_some]
          omega
  | kickban i hold hgame =>
      obtain ⟨hsame, hpos, hle⟩ := hlevel i hold
      exact ⟨nofun, fun _ _ => hsame ▸ hpos, fun _ _ => by rw [if_pos hgame]; exact .inr rfl, fun _ => nofun, nofun⟩

theorem Punished.bounded (hb : Bounded f) (hp : Punished m offence f f' action)
    (hwarnLimit : f'.warnLevelToKick = f.warnLevelToKick) (hkickLimit : f'.kickNumberToBan = f.kickNumberToBan) :
    Bounded f' := by
  have hone := hb.warnLimit
  have hkickOne := hb.kickLimit
  have hremoved (id : Nat) (i : ClientWarnInfos)
      (hi : Function.update f.myClientWarnLevelList m.playerId none id = some i) :
      1 ≤ i.warnLevel ∧ i.warnLevel ≤ f.warnLevelToKick := by
    by_cases hid : id = m.playerId
    · rw [hid, Function.update_self] at hi
      cases hi
    · rw [Function.update_of_ne hid] at hi
      exact hb.warn id i hi
  have hset (infos : ClientWarnInfos) (hinfos : 1 ≤ infos.warnLevel ∧ infos.warnLevel ≤ f.warnLevelToKick) (id : Nat)
      (i : ClientWarnInfos) (hi : Function.update f.myClientWarnLevelList m.playerId (some infos) id = some i) :
      1 ≤ i.warnLevel ∧ i.warnLevel ≤ f.warnLevelToKick := by
    by_cases hid : id = m.playerId
    · rw [hid, Function.update_self] at hi
      cases hi
      exact hinfos
    · rw [Function.update_of_ne hid] at hi
      exact hb.warn id i hi
  refine ⟨hwarnLimit ▸ hone, hkickLimit ▸ hkickOne, ?_, ?_⟩
  · rw [hwarnLimit]
    cases hp with
    | first hold hwarn =>
        rw [hwarn]
        exact hset _ ⟨Int.le_refl 1, hone⟩
    | again i hold hlimit hwarn =>
        have hle := hb.warn _ i hold
        rw [hwarn]
        refine hset _ ⟨?_, ?_⟩
        · dsimp only
          omega
        · dsimp only
          omega
    | mute i hold hgame hwarn =>
        rw [hwarn]
        exact hremoved
    | kick i hold hgame hwarn =>
        rw [hwarn]
        exact hremoved
    | kickban i hold hgame hwarn =>
        rw [hwarn]
        exact hremoved
  · rw [hkickLimit]
    cases hp with
    | first _ _ hkick => exact hkick ▸ hb.kick
    | again _ _ _ _ hkick => exact hkick ▸ hb.kick
    | mute _ _ _ _ hkick => exact hkick ▸ hb.kick
    | kick i hold hgame hwarn hlimit hkick =>
        intro nick j hj
        rw [hkick] at hj
        by_cases hnick : nick = m.nick
        · rw [hnick, Function.update_self] at hj
          cases hj
          dsimp only
          cases hold' : f.myClientKickCounterList m.nick with
          | none =>
              simp only [Option.elim_none]
              omega
          | some j =>
              have hne := hlimit j hold'
              have hle := hb.kick m.nick j hold'
              simp only [Option.elim_some]
              omega
        · rw [Function.update_of_ne hnick] at hj
          exact hb.kick nick j hj
    | kickban i hold hgame hwarn hkick =>
        intro nick j hj
        rw [hkick] at hj
        by_cases hnick : nick = m.nick
        · rw [hnick, Function.update_self] at hj
          cases hj
        · rw [Function.update_of_ne hnick] at hj
          exact hb.kick nick j hj

/-- The limits are at least 1, and are not lowered below a level that somebody has reached. -/
def Allowed (f : MessageFilter) : Event → Prop
  | .refreshConfig c => 1 ≤ c.warnLevelToKick ∧ 1 ≤ c.kickNumberToBan ∧
      (∀ id i, f.myClientWarnLevelList id = some i → i.warnLevel ≤ c.warnLevelToKick) ∧
      ∀ nick j, f.myClientKickCounterList nick = some j → j.kickNumber ≤ c.kickNumberToBan
  | _ => True

def Steady : MessageFilter → List Event → Prop
  | _, [] => True
  | f, e :: es => Allowed f e ∧ Steady (f.fire e).2 es

def FairNote (before : List Note) : Note → Prop
  | .verdict v => Fair before v
  | .forgot _ _ => True

theorem check_spec (hk : Known recs f) (hb : Bounded f) (m : ChatMessage) :
    Known (recs ++ [.verdict (f.check m).1]) (f.check m).2 ∧ Bounded (f.check m).2 ∧ Fair recs (f.check m).1 := by
  simp only [check]
  split_ifs with hnone
  · dsimp only
    rw [hnone]
    refine ⟨⟨fun id => ?_, fun nick => ?_⟩, ⟨hb.warnLimit, hb.kickLimit, hb.warn, hb.kick⟩, ?_⟩
    · rw [warnings_snoc, ← hk.warn id]
      simp [tallyWarning]
    · rw [kicks_snoc, ← hk.kick nick]
      simp [tallyKick]
    · exact ⟨nofun, fun h => absurd rfl h, fun h => absurd rfl h, fun h => absurd rfl h, nofun⟩
  · generalize hf : { f with myTextFloodCheck := (f.myTextFloodCheck.run m.playerId m.floodNow).2 } = f₁
    have hk₁ : Known recs f₁ := by
      subst hf
      exact ⟨hk.warn, hk.kick⟩
    have hb₁ : Bounded f₁ := by
      subst hf
      exact ⟨hb.warnLimit, hb.kickLimit, hb.warn, hb.kick⟩
    have hlimits : f.warnLevelToKick = f₁.warnLevelToKick ∧ f.kickNumberToBan = f₁.kickNumberToBan := by
      subst hf
      exact ⟨rfl, rfl⟩
    generalize f.offenceOf m.msg (f.myTextFloodCheck.run m.playerId m.floodNow).1 = offence
    have hp := punish_cases f₁ m offence
    have hconfig := punish_config f₁ m offence
    exact ⟨hk₁.punished (v := ⟨m, offence, _, _, _, _⟩) hp, hp.bounded hb₁ hconfig.1 hconfig.2,
      hp.fair (v := ⟨m, offence, _, _, _, _⟩) hk₁ hb₁ hlimits.1 hlimits.2⟩

theorem Known.forgot (hk : Known recs f) (now forgetSeconds : Int) :
    Known (recs ++ [.forgot now forgetSeconds]) (f.cleanKickCounterList now forgetSeconds) := by
  refine ⟨fun id => ?_, fun nick => ?_⟩
  · rw [warnings_snoc]
    exact hk.warn id
  · rw [kicks_snoc, ← hk.kick nick]
    rfl

theorem Bounded.forgot (hb : Bounded f) (now forgetSeconds : Int) : Bounded (f.cleanKickCounterList now forgetSeconds) := by
  refine ⟨hb.warnLimit, hb.kickLimit, hb.warn, fun nick j hj => ?_⟩
  exact hb.kick nick j (Option.filter_eq_some_iff.mp hj).1

theorem Bounded.refreshConfig {c : FilterConfig} (hb : Bounded f) (hallowed : Allowed f (.refreshConfig c)) :
    Bounded (f.refreshConfig c) := by
  obtain ⟨hwarn, hkick, hlevels, hnumbers⟩ := hallowed
  exact ⟨hwarn, hkick, fun id i hi => ⟨(hb.warn id i hi).1, hlevels id i hi⟩,
    fun nick j hj => ⟨(hb.kick nick j hj).1, hnumbers nick j hj⟩⟩

theorem fire_spec (hk : Known recs f) (hb : Bounded f) (hallowed : Allowed f e) :
    Known (recs ++ (f.fire e).1) (f.fire e).2 ∧ Bounded (f.fire e).2 ∧
      ((f.fire e).1 = [] ∨ ∃ n, (f.fire e).1 = [n] ∧ FairNote recs n) := by
  cases e with
  | message m =>
      obtain ⟨hk', hb', hfair⟩ := check_spec hk hb m
      exact ⟨hk', hb', .inr ⟨_, rfl, hfair⟩⟩
  | refreshConfig c =>
      refine ⟨?_, hb.refreshConfig hallowed, .inl rfl⟩
      simp only [fire, List.append_nil]
      exact ⟨hk.warn, hk.kick⟩
  | cleanKickCounterList now forgetSeconds =>
      exact ⟨hk.forgot now forgetSeconds, hb.forgot now forgetSeconds, .inr ⟨_, rfl, trivial⟩⟩
  | cleanMsgTimesList now =>
      refine ⟨?_, ⟨hb.warnLimit, hb.kickLimit, hb.warn, hb.kick⟩, .inl rfl⟩
      simp only [fire, List.append_nil]
      exact ⟨hk.warn, hk.kick⟩

theorem each_fair (hk : Known recs f) (hb : Bounded f) (hall : Each FairNote recs) (hs : Steady f es) :
    Each FairNote (recs ++ notes f es) := by
  induction es generalizing f recs with
  | nil =>
      rw [notes, List.append_nil]
      exact hall
  | cons e es ih =>
      obtain ⟨hallowed, hrest⟩ := hs
      obtain ⟨hk', hb', hnotes⟩ := fire_spec hk hb hallowed
      rw [notes, ← List.append_assoc]
      refine ih hk' hb' ?_ hrest
      rcases hnotes with hnil | ⟨n, hn, hfair⟩
      · rw [hnil, List.append_nil]
        exact hall
      · rw [hn]
        exact hall.snoc hfair

def OneNick (nickOf : Nat → String) (es : List Event) : Prop := ∀ m, .message m ∈ es → m.nick = nickOf m.playerId

def concerns (playerId : Nat) (nick : String) : Event → Bool
  | .message m => m.playerId == playerId || m.nick == nick
  | _ => true

def about (nick : String) : Note → Bool
  | .verdict v => v.message.nick == nick
  | .forgot _ _ => true

structure Agree (nickOf : Nat → String) (nick : String) (f g : MessageFilter) : Prop where
  checks : g.checks = f.checks
  trigger : g.myTextFloodCheck.textFloodLevelToTrigger = f.myTextFloodCheck.textFloodLevelToTrigger
  flood : ∀ id, nickOf id = nick → g.myTextFloodCheck.msgTimesList id = f.myTextFloodCheck.msgTimesList id
  warn : ∀ id, nickOf id = nick → g.myClientWarnLevelList id = f.myClientWarnLevelList id
  kick : g.myClientKickCounterList nick = f.myClientKickCounterList nick
  warnLimit : g.warnLevelToKick = f.warnLevelToKick
  kickLimit : g.kickNumberToBan = f.kickNumberToBan

variable {g : MessageFilter} {nickOf : Nat → String}

theorem Agree.refl (f : MessageFilter) : Agree nickOf nick f f := ⟨rfl, rfl, fun _ _ => rfl, fun _ _ => rfl, rfl, rfl, rfl⟩

theorem Agree.trans (h : Agree nickOf nick f g) {k : MessageFilter} (h' : Agree nickOf nick g k) : Agree nickOf nick f k :=
  ⟨h'.checks.trans h.checks, h'.trigger.trans h.trigger, fun id hid => (h'.flood id hid).trans (h.flood id hid),
    fun id hid => (h'.warn id hid).trans (h.warn id hid), h'.kick.trans h.kick, h'.warnLimit.trans h.warnLimit,
    h'.kickLimit.trans h.kickLimit⟩

theorem Agree.symm (h : Agree nickOf nick f g) : Agree nickOf nick g f :=
  ⟨h.checks.symm, h.trigger.symm, fun id hid => (h.flood id hid).symm, fun id hid => (h.warn id hid).symm, h.kick.symm,
    h.warnLimit.symm, h.kickLimit.symm⟩

theorem update_eq {κ ν : Type} [DecidableEq κ] {l l' : κ → ν} {k : κ} (hsame : l' k = l k) (j : κ) (x : ν) :
    Function.update l' j x k = Function.update l j x k := by
  by_cases hk : k = j
  · rw [hk, Function.update_self, Function.update_self]
  · rw [Function.update_of_ne hk, Function.update_of_ne hk, hsame]

theorem Agree.putWarn (h : Agree nickOf nick f g) (playerId : Nat) (infos : Option ClientWarnInfos) :
    Agree nickOf nick (f.putWarn playerId infos) (g.putWarn playerId infos) :=
  ⟨h.checks, h.trigger, h.flood, fun id hid => update_eq (h.warn id hid) playerId infos, h.kick, h.warnLimit, h.kickLimit⟩

theorem Agree.putKick (h : Agree nickOf nick f g) (nick' : String) (infos : Option ClientKickInfos) :
    Agree nickOf nick (f.putKick nick' infos) (g.putKick nick' infos) :=
  ⟨h.checks, h.trigger, h.flood, h.warn, update_eq h.kick nick' infos, h.warnLimit, h.kickLimit⟩

theorem Agree.removePlayer (h : Agree nickOf nick f g) (playerId : Nat) :
    Agree nickOf nick (f.removePlayer playerId) (g.removePlayer playerId) :=
  ⟨h.checks, h.trigger, fun id hid => update_eq (h.flood id hid) playerId none,
    fun id hid => update_eq (h.warn id hid) playerId none, h.kick, h.warnLimit, h.kickLimit⟩

theorem ne_of_nick {playerId : Nat} (hne : nickOf playerId ≠ nick) (hid : nickOf id = nick) : id ≠ playerId := by
  rintro rfl
  exact hne hid

theorem agree_putWarn (f : MessageFilter) {playerId : Nat} (hne : nickOf playerId ≠ nick) (infos : Option ClientWarnInfos) :
    Agree nickOf nick f (f.putWarn playerId infos) :=
  ⟨rfl, rfl, fun _ _ => rfl, fun _ hid => Function.update_of_ne (ne_of_nick hne hid) _ _, rfl, rfl, rfl⟩

theorem agree_putKick (f : MessageFilter) {nick' : String} (hne : nick' ≠ nick) (infos : Option ClientKickInfos) :
    Agree nickOf nick f (f.putKick nick' infos) :=
  ⟨rfl, rfl, fun _ _ => rfl, fun _ _ => rfl, Function.update_of_ne hne.symm _ _, rfl, rfl⟩

theorem agree_removePlayer (f : MessageFilter) {playerId : Nat} (hne : nickOf playerId ≠ nick) :
    Agree nickOf nick f (f.removePlayer playerId) :=
  ⟨rfl, rfl, fun _ hid => Function.update_of_ne (ne_of_nick hne hid) _ _,
    fun _ hid => Function.update_of_ne (ne_of_nick hne hid) _ _, rfl, rfl, rfl⟩

theorem run_other (t : TextFloodCheck) (playerId : Nat) (now : Int) :
    (t.run playerId now).2.textFloodLevelToTrigger = t.textFloodLevelToTrigger ∧
      ∀ id, id ≠ playerId → (t.run playerId now).2.msgTimesList id = t.msgTimesList id := by
  simp only [TextFloodCheck.run]
  split
  · exact ⟨rfl, fun id hid => Function.update_of_ne hid _ _⟩
  · split_ifs <;> exact ⟨rfl, fun id hid => Function.update_of_ne hid _ _⟩

theorem run_congr {t u : TextFloodCheck} {playerId : Nat} (now : Int)
    (htrigger : u.textFloodLevelToTrigger = t.textFloodLevelToTrigger)
    (hsame : u.msgTimesList playerId = t.msgTimesList playerId) :
    (u.run playerId now).1 = (t.run playerId now).1 ∧
      (u.run playerId now).2.msgTimesList playerId = (t.run playerId now).2.msgTimesList playerId := by
  simp only [TextFloodCheck.run, hsame, htrigger]
  cases t.msgTimesList playerId with
  | none => exact ⟨rfl, by simp [TextFloodCheck.put]⟩
  | some i =>
      dsimp only
      split_ifs <;> exact ⟨rfl, by simp [TextFloodCheck.put]⟩

theorem agree_punish (f : MessageFilter) {m : ChatMessage} (hm : nickOf m.playerId ≠ nick) (hne : m.nick ≠ nick)
    (offence : OffenceType) : Agree nickOf nick f (f.punish m offence).2 := by
  simp only [punish]
  split
  · exact agree_putWarn f hm _
  · split_ifs
    · exact agree_removePlayer f hm
    · have hremove : Agree nickOf nick f (f.removePlayer m.playerId) := agree_removePlayer f hm
      simp only [countKick]
      split
      · exact hremove.trans (agree_putKick _ hne _)
      · split_ifs
        · exact hremove.trans (agree_putKick _ hne _)
        · exact hremove.trans (agree_putKick _ hne _)
    · exact agree_putWarn f hm _

theorem Agree.countKick (h : Agree nickOf nick f g) (now : Int) : (g.countKick nick now).1 = (f.countKick nick now).1 ∧
    Agree nickOf nick (f.countKick nick now).2 (g.countKick nick now).2 := by
  simp only [MessageFilter.countKick, h.kick, h.kickLimit]
  cases f.myClientKickCounterList nick with
  | none => exact ⟨rfl, h.putKick _ _⟩
  | some j =>
      dsimp only
      split_ifs
      · exact ⟨rfl, h.putKick _ _⟩
      · exact ⟨rfl, h.putKick _ _⟩

theorem Agree.punish (h : Agree nickOf nick f g) {m : ChatMessage} (hm : nickOf m.playerId = nick) (hnick : m.nick = nick)
    (offence : OffenceType) : (g.punish m offence).1 = (f.punish m offence).1 ∧
      Agree nickOf nick (f.punish m offence).2 (g.punish m offence).2 := by
  simp only [MessageFilter.punish, h.warn m.playerId hm, h.warnLimit, hnick]
  cases f.myClientWarnLevelList m.playerId with
  | none => exact ⟨rfl, h.putWarn _ _⟩
  | some i =>
      dsimp only
      split_ifs
      · exact ⟨rfl, h.removePlayer _⟩
      · exact (h.removePlayer m.playerId).countKick m.now
      · exact ⟨rfl, h.putWarn _ _⟩

/-- A message leaves everything alone that is about players of other nicks. -/
theorem agree_check (f : MessageFilter) {m : ChatMessage} (hm : nickOf m.playerId ≠ nick) (hne : m.nick ≠ nick) :
    Agree nickOf nick f (f.check m).2 := by
  obtain ⟨htrigger, hother⟩ := run_other f.myTextFloodCheck m.playerId m.floodNow
  have hflood : Agree nickOf nick f { f with myTextFloodCheck := (f.myTextFloodCheck.run m.playerId m.floodNow).2 } :=
    ⟨rfl, htrigger, fun id hid => hother id (ne_of_nick hm hid), fun _ _ => rfl, rfl, rfl, rfl⟩
  simp only [check]
  split_ifs
  · exact hflood
  · exact hflood.trans (agree_punish _ hm hne _)

/-- Filters that agree about a nick give its messages the same verdict, and agree afterwards. -/
theorem Agree.check (h : Agree nickOf nick f g) {m : ChatMessage} (hm : nickOf m.playerId = nick) (hnick : m.nick = nick) :
    (g.check m).1 = (f.check m).1 ∧ Agree nickOf nick (f.check m).2 (g.check m).2 := by
  obtain ⟨hfound, hsame⟩ := run_congr m.floodNow h.trigger (h.flood m.playerId hm)
  obtain ⟨htf, hf⟩ := run_other f.myTextFloodCheck m.playerId m.floodNow
  obtain ⟨htg, hg⟩ := run_other g.myTextFloodCheck m.playerId m.floodNow
  have hflood : Agree nickOf nick { f with myTextFloodCheck := (f.myTextFloodCheck.run m.playerId m.floodNow).2 }
      { g with myTextFloodCheck := (g.myTextFloodCheck.run m.playerId m.floodNow).2 } := by
    refine ⟨h.checks, htg.trans (h.trigger.trans htf.symm), fun id hid => ?_, h.warn, h.kick, h.warnLimit, h.kickLimit⟩
    by_cases hid' : id = m.playerId
    · rw [hid']
      exact hsame
    · exact (hg id hid').trans ((h.flood id hid).trans (hf id hid').symm)
  have hoffence (b : Bool) : g.offenceOf m.msg b = f.offenceOf m.msg b := by
    rw [offenceOf, offenceOf, h.checks]
  simp only [MessageFilter.check, hfound, hoffence]
  split_ifs
  · exact ⟨by rw [h.warnLimit, h.kickLimit], hflood⟩
  · obtain ⟨haction, hagree⟩ := hflood.punish hm hnick (f.offenceOf m.msg (f.myTextFloodCheck.run m.playerId m.floodNow).1)
    exact ⟨by rw [haction, h.warnLimit, h.kickLimit], hagree⟩

/-- Dropping the messages of players with another id and nick changes nothing for the players of a nick. -/
theorem Agree.notes (h : Agree nickOf (nickOf id) f g) (hone : OneNick nickOf es) :
    (notes f es).filter (about (nickOf id)) =
      (notes g (es.filter (concerns id (nickOf id)))).filter (about (nickOf id)) := by
  induction es generalizing f g with
  | nil => rfl
  | cons e es ih =>
      have hrest : OneNick nickOf es := fun m hm => hone m (List.mem_cons_of_mem _ hm)
      cases e with
      | message m =>
          have hm := hone m List.mem_cons_self
          by_cases hnick : m.nick = nickOf id
          · obtain ⟨hverdict, hagree⟩ := h.check (hm.symm.trans hnick) hnick
            have hkeep : concerns id (nickOf id) (.message m) = true := by simp [concerns, hnick]
            rw [List.filter_cons_of_pos hkeep, MessageFilter.notes, MessageFilter.notes, List.filter_append,
              List.filter_append]
            simp only [fire, hverdict]
            rw [ih hagree hrest]
          · have hdrop : ¬ concerns id (nickOf id) (.message m) = true := by
              have hid : m.playerId ≠ id := fun he => hnick (hm.trans (he ▸ rfl))
              simp [concerns, hnick, hid]
            have hagree := (agree_check f (hm ▸ hnick) hnick).symm.trans h
            have hother : (fire f (.message m)).1.filter (about (nickOf id)) = [] := by
              have hverdict : (f.check m).1.message = m := by
                simp only [MessageFilter.check]
              rw [List.filter_eq_nil_iff]
              intro n hn
              rw [fire, List.mem_singleton] at hn
              simp [hn, about, hverdict, hnick]
            rw [List.filter_cons_of_neg hdrop, MessageFilter.notes, List.filter_append, hother, List.nil_append]
            exact ih hagree hrest
      | refreshConfig c =>
          refine ih ⟨rfl, rfl, h.flood, h.warn, h.kick, rfl, rfl⟩ hrest
      | cleanKickCounterList now forgetSeconds =>
          have hkick := congrArg (Option.filter fun j => decide (now - j.lastKickTimestamp ≤ forgetSeconds)) h.kick
          exact congrArg (Note.forgot now forgetSeconds :: ·)
            (ih ⟨h.checks, h.trigger, h.flood, h.warn, hkick, h.warnLimit, h.kickLimit⟩ hrest)
      | cleanMsgTimesList now =>
          refine ih ⟨h.checks, h.trigger, fun id hid => ?_, h.warn, h.kick, h.warnLimit, h.kickLimit⟩ hrest
          simp only [TextFloodCheck.cleanMsgTimesList, fire, h.flood id hid]

theorem known_create (checks : TextChecks) : Known [] (create checks) := ⟨fun _ => rfl, fun _ => rfl⟩

theorem bounded_create (checks : TextChecks) : Bounded (create checks) where
  warnLimit := (by decide : (1 : Int) ≤ 3)
  kickLimit := (by decide : (1 : Int) ≤ 3)
  warn _ _ h := nomatch h
  kick _ _ h := nomatch h

/-- As long as no limit is lowered below a level that has been reached, every verdict is fair. The verdicts on the players of a
nick do not depend on the messages of others. -/
theorem moderation (checks : TextChecks) (hs : Steady (create checks) es) :
    Each FairNote (notes (create checks) es) ∧ ∀ nickOf id, OneNick nickOf es →
      (notes (create checks) es).filter (about (nickOf id)) =
        (notes (create checks) (es.filter (concerns id (nickOf id)))).filter (about (nickOf id)) :=
  ⟨each_fair (known_create checks) (bounded_create checks) .nil hs, fun _ _ hone => (Agree.refl _).notes hone⟩

def fourWords : TextChecks := ⟨(· == "bad"), (· == "CAPS"), (· == "aaaa"), (· == "url")⟩

def chat (msg : String) (now : Int) : Event := .message ⟨0, 1, "anna", msg, now, now⟩

def limits (warnLevelToKick kickNumberToBan : Int) : Event :=
  .refreshConfig ⟨warnLevelToKick, kickNumberToBan, 3, fourWords⟩

def otherChat (msg : String) (now : Int) : Event := .message ⟨0, 2, "bert", msg, now, now⟩

def twoChatters : List Event :=
  [limits 1 1, chat "bad" 10, otherChat "bad" 15, chat "CAPS" 20, otherChat "url" 25, chat "url" 30, chat "url" 40]

/-- A warning and a kick, a warning and a ban, and the same without the other player. -/
theorem moderation_anna : Each FairNote (notes (create fourWords) twoChatters) ∧
    (notes (create fourWords) twoChatters).filter (about "anna") =
      (notes (create fourWords) [limits 1 1, chat "bad" 10, chat "CAPS" 20, chat "url" 30, chat "url" 40]).filter
        (about "anna") := by
  have hlimits : Allowed (create fourWords) (limits 1 1) :=
    ⟨by decide, by decide, nofun, nofun⟩
  have hs : Steady (create fourWords) twoChatters :=
    ⟨hlimits, trivial, trivial, trivial, trivial, trivial, trivial, trivial⟩
  have hmoderated := moderation fourWords hs
  refine ⟨hmoderated.1, hmoderated.2 (fun id => if id = 1 then "anna" else "bert") 1 ?_⟩
  simp [OneNick, twoChatters, limits, chat, otherChat]

/-- When the limits are lowered below the levels, neither the warnings nor the kicks of a player come to an end: four warnings and
five kicks where no limit was ever above 3. -/
theorem not_moderated :
    warnings 1 (notes (create fourWords) [chat "bad" 10, chat "CAPS" 20, limits 1 1, chat "aaaa" 30, chat "url" 40]) = 4 ∧
    kicks "anna" (notes (create fourWords)
      [chat "bad" 10, chat "bad" 20, chat "bad" 30, chat "bad" 40, limits 1 1, chat "bad" 50, chat "bad" 60, chat "bad" 70,
        chat "bad" 80, chat "bad" 90, chat "bad" 100]) = some ⟨100, 5⟩ ∧
    ¬ Each FairNote (notes (create fourWords) [chat "bad" 10, chat "CAPS" 20, limits 1 1, chat "aaaa" 30]) := by
  refine ⟨by decide +kernel, by decide +kernel, fun hall => ?_⟩
  have hfair : Fair (notes (create fourWords) [chat "bad" 10, chat "CAPS" 20]) ⟨⟨0, 1, "anna", "aaaa", 30, 30⟩,
      .letterRepeating, .warn, ("warn", "anna" ++ warning .letterRepeating), 1, 1⟩ :=
    hall _ (.verdict _) [] (by decide +kernel)
  have hnext := hfair.limit (by decide) (by decide +kernel)
  simp at hnext

end PokerTH.MessageFilter
