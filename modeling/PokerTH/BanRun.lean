import PokerTH.BanManager

namespace PokerTH

namespace BanManager

variable {Regex : Type}

abbrev Ban (Regex : Type) := TimedPlayerBan Regex ⊕ TimedIPBan

def timerOf : Ban Regex → Option Int
  | .inl b => b.timer
  | .inr b => b.timer

def Listed (m : BanManager Regex) (id : Nat) : Ban Regex → Prop
  | .inl b => (id, b) ∈ m.banPlayerNameMap
  | .inr b => (id, b) ∈ m.banIPAddressMap

variable {m m' : BanManager Regex} {id : Nat} {b : Ban Regex} {t : Int}

theorem used_eq_true : m.used id = true ↔ ∃ b, m.Listed id b := by
  simp only [used, Bool.or_eq_true, List.any_eq_true, beq_iff_eq]
  constructor
  · rintro (⟨⟨i, b⟩, hb, rfl⟩ | ⟨⟨i, b⟩, hb, rfl⟩)
    · exact ⟨.inl b, hb⟩
    · exact ⟨.inr b, hb⟩
  · rintro ⟨b | b, hb⟩
    · exact .inl ⟨_, hb, rfl⟩
    · exact .inr ⟨_, hb, rfl⟩

theorem mem_bans {timer : Option Int} : (id, timer) ∈ m.bans ↔ ∃ b, m.Listed id b ∧ timerOf b = timer := by
  simp only [bans, List.mem_append, List.mem_map, Prod.mk.injEq]
  constructor
  · rintro (⟨⟨i, b⟩, hb, rfl, rfl⟩ | ⟨⟨i, b⟩, hb, rfl, rfl⟩)
    · exact ⟨.inl b, hb, rfl⟩
    · exact ⟨.inr b, hb, rfl⟩
  · rintro ⟨b | b, hb, rfl⟩
    · exact .inl ⟨_, hb, rfl, rfl⟩
    · exact .inr ⟨_, hb, rfl, rfl⟩

/-- An id has one ban, and one that ends has a wait or a handler that is queued. What is queued for an id that has a
ban again or still is over. -/
structure Kept (m : BanManager Regex) : Prop where
  single : ∀ id b b', m.Listed id b → m.Listed id b' → b = b'
  bounded : ∀ id b, m.Listed id b → id ≤ m.curBanId
  waiting : ∀ id t, (id, t) ∈ m.waits → ∃ b, m.Listed id b ∧ timerOf b = some t
  stale : ∀ id ∈ m.handlers, id ≤ m.curBanId ∧ ∀ b, m.Listed id b → ∃ t, timerOf b = some t ∧ t ≤ m.now
  timed : ∀ id b t, m.Listed id b → timerOf b = some t → (id, t) ∈ m.waits ∨ id ∈ m.handlers

theorem kept_start (now : Int) : Kept (start now : BanManager Regex) := by
  refine ⟨?_, ?_, ?_, ?_, ?_⟩
  · rintro id (b | b) _ hb <;> cases hb
  · rintro id (b | b) hb <;> cases hb
  · intro id t ht
    cases ht
  · intro id hid
    cases hid
  · rintro id (b | b) t hb <;> cases hb

structure Adds (b : Ban Regex) (m m' : BanManager Regex) : Prop where
  listed : ∀ id x, m'.Listed id x ↔ m.Listed id x ∨ id = m.curBanId + 1 ∧ x = b
  waits : ∀ id t, (id, t) ∈ m'.waits ↔ (id, t) ∈ m.waits ∨ id = m.curBanId + 1 ∧ timerOf b = some t
  curBanId : m'.curBanId = m.curBanId + 1
  handlers : m'.handlers = m.handlers
  now : m'.now = m.now

structure Lifts (P : Nat → Prop) (m m' : BanManager Regex) : Prop where
  listed : ∀ id x, m'.Listed id x ↔ m.Listed id x ∧ ¬ P id
  waits : ∀ id t, (id, t) ∈ m'.waits ↔ (id, t) ∈ m.waits ∧ ¬ P id
  curBanId : m'.curBanId = m.curBanId
  handlers : m'.handlers = m.handlers
  now : m'.now = m.now

theorem Kept.adds (h : Kept m) (hadds : Adds b m m') : Kept m' := by
  have hfresh {id : Nat} {x : Ban Regex} (hx : m.Listed id x) : id ≠ m.curBanId + 1 := by
    have hid := h.bounded id x hx
    omega
  refine ⟨?_, ?_, ?_, ?_, ?_⟩
  · intro id x y hx hy
    rcases (hadds.listed id x).mp hx with hx | ⟨hid, rfl⟩ <;> rcases (hadds.listed id y).mp hy with hy | ⟨hid', rfl⟩
    · exact h.single id x y hx hy
    · exact absurd hid' (hfresh hx)
    · exact absurd hid (hfresh hy)
    · rfl
  · intro id x hx
    rw [hadds.curBanId]
    rcases (hadds.listed id x).mp hx with hx | ⟨rfl, -⟩
    · exact Nat.le_succ_of_le (h.bounded id x hx)
    · exact Nat.le_refl _
  · intro id t ht
    rcases (hadds.waits id t).mp ht with hwait | ⟨rfl, htimer⟩
    · obtain ⟨x, hx, htimer⟩ := h.waiting id t hwait
      exact ⟨x, (hadds.listed id x).mpr (.inl hx), htimer⟩
    · exact ⟨b, (hadds.listed _ b).mpr (.inr ⟨rfl, rfl⟩), htimer⟩
  · intro id hid
    rw [hadds.handlers] at hid
    obtain ⟨hle, hover⟩ := h.stale id hid
    rw [hadds.curBanId, hadds.now]
    refine ⟨Nat.le_succ_of_le hle, fun x hx => ?_⟩
    rcases (hadds.listed id x).mp hx with hx | ⟨rfl, -⟩
    · exact hover x hx
    · omega
  · intro id x t hx ht
    rw [hadds.handlers, hadds.waits]
    rcases (hadds.listed id x).mp hx with hx | ⟨hid, rfl⟩
    · exact (h.timed id x t hx ht).imp_left .inl
    · exact .inl (.inr ⟨hid, ht⟩)

theorem Kept.lifts {P : Nat → Prop} (h : Kept m) (hlifts : Lifts P m m') : Kept m' := by
  refine ⟨?_, ?_, ?_, ?_, ?_⟩
  · intro id x y hx hy
    exact h.single id x y ((hlifts.listed id x).mp hx).1 ((hlifts.listed id y).mp hy).1
  · intro id x hx
    rw [hlifts.curBanId]
    exact h.bounded id x ((hlifts.listed id x).mp hx).1
  · intro id t ht
    obtain ⟨hwait, hid⟩ := (hlifts.waits id t).mp ht
    obtain ⟨x, hx, htimer⟩ := h.waiting id t hwait
    exact ⟨x, (hlifts.listed id x).mpr ⟨hx, hid⟩, htimer⟩
  · intro id hid
    rw [hlifts.handlers] at hid
    rw [hlifts.curBanId, hlifts.now]
    exact ⟨(h.stale id hid).1, fun x hx => (h.stale id hid).2 x ((hlifts.listed id x).mp hx).1⟩
  · intro id x t hx ht
    obtain ⟨hx, hid⟩ := (hlifts.listed id x).mp hx
    rw [hlifts.handlers, hlifts.waits]
    exact (h.timed id x t hx ht).imp_left fun hwait => ⟨hwait, hid⟩

theorem Kept.getNextBanId (h : Kept m) (hcur : m.curBanId + 1 < 2 ^ 32) :
    BanManager.getNextBanId m.used (2 ^ 32 - 1) m.curBanId = (m.curBanId + 1, true) := by
  have hnext : nextId m.curBanId = m.curBanId + 1 := by rw [nextId, if_neg (by omega)]
  have hused : ¬ m.used (nextId m.curBanId) = true := by
    rw [hnext, used_eq_true]
    rintro ⟨b, hb⟩
    have hid := h.bounded _ b hb
    omega
  rw [show 2 ^ 32 - 1 = 2 ^ 32 - 2 + 1 by omega, BanManager.getNextBanId, if_neg hused, hnext]

theorem exists_registered (m : BanManager Regex) (banId durationHours : Nat) : ∃ waits,
    m.internalRegisterTimedBan banId durationHours = { m with waits } ∧
      ∀ id t, (id, t) ∈ waits ↔ (id, t) ∈ m.waits ∨ id = banId ∧ m.expiry durationHours = some t := by
  rw [internalRegisterTimedBan]
  cases hexpiry : m.expiry durationHours with
  | none => exact ⟨m.waits, rfl, by simp⟩
  | some u => exact ⟨m.waits ++ [(banId, u)], rfl, by simp [eq_comm]⟩

theorem Kept.addBan (h : Kept m) (hcur : m.curBanId + 1 < 2 ^ 32) (durationHours : Nat)
    (insert : Nat → Option Int → BanManager Regex → BanManager Regex) : ∃ waits,
    m.addBan durationHours insert =
        insert (m.curBanId + 1) (m.expiry durationHours) { m with waits, curBanId := m.curBanId + 1 } ∧
      ∀ id t, (id, t) ∈ waits ↔ (id, t) ∈ m.waits ∨ id = m.curBanId + 1 ∧ m.expiry durationHours = some t := by
  obtain ⟨waits, heq, hwaits⟩ :=
    exists_registered { m with curBanId := m.curBanId + 1 } (m.curBanId + 1) durationHours
  refine ⟨waits, ?_, hwaits⟩
  rw [BanManager.addBan, h.getNextBanId hcur]
  change insert _ _ (internalRegisterTimedBan { m with curBanId := m.curBanId + 1 } _ _) = _
  rw [heq]

theorem unBan_lifts (h : Kept m) (banId : Nat) : Lifts (· = banId) m (m.unBan banId).1 := by
  have hwait {id : Nat} {t : Int} {b : Ban Regex} (ht : (id, t) ∈ m.waits) (hb : m.Listed id b) :
      timerOf b = some t := by
    obtain ⟨x, hx, htimer⟩ := h.waiting id t ht
    rwa [h.single id b x hb hx]
  have hcancel {b : Ban Regex} (hb : m.Listed banId b) (id : Nat) (t : Int) :
      (id, t) ∈ m.cancel banId (timerOf b) ↔ (id, t) ∈ m.waits ∧ ¬ id = banId := by
    cases htimer : timerOf b with
    | none =>
        refine ⟨fun ht => ⟨ht, ?_⟩, fun ht => ht.1⟩
        rintro rfl
        rw [hwait ht hb] at htimer
        cases htimer
    | some u => simp [cancel]
  rw [unBan]
  cases hname : m.banPlayerNameMap.find? fun b => b.1 == banId with
  | some entry =>
      obtain ⟨i, b⟩ := entry
      have hid : i = banId := by simpa using List.find?_some hname
      subst hid
      have hb : m.Listed i (.inl b) := List.mem_of_find?_eq_some hname
      refine ⟨?_, hcancel hb, rfl, rfl, rfl⟩
      rintro id (x | x)
      · simp [Listed]
      · refine ⟨fun hx => ⟨hx, ?_⟩, fun hx => hx.1⟩
        rintro rfl
        cases h.single id _ _ hb (show m.Listed id (.inr x) from hx)
  | none =>
      have hnone (x : TimedPlayerBan Regex) : ¬ m.Listed banId (.inl x) := by
        intro hx
        have hnot := List.find?_eq_none.mp hname _ hx
        simp at hnot
      cases hip : m.banIPAddressMap.find? fun b => b.1 == banId with
      | some entry =>
          obtain ⟨i, b⟩ := entry
          have hid : i = banId := by simpa using List.find?_some hip
          subst hid
          have hb : m.Listed i (.inr b) := List.mem_of_find?_eq_some hip
          refine ⟨?_, hcancel hb, rfl, rfl, rfl⟩
          rintro id (x | x)
          · refine ⟨fun hx => ⟨hx, ?_⟩, fun hx => hx.1⟩
            rintro rfl
            exact hnone x hx
          · simp [Listed]
      | none =>
          have hfree (b : Ban Regex) : ¬ m.Listed banId b := by
            intro hb
            cases b with
            | inl x => exact hnone x hb
            | inr x =>
                have hnot := List.find?_eq_none.mp hip _ hb
                simp at hnot
          refine ⟨?_, ?_, rfl, rfl, rfl⟩
          · refine fun id x => ⟨fun hx => ⟨hx, ?_⟩, fun hx => hx.1⟩
            rintro rfl
            exact hfree x hx
          · refine fun id t => ⟨fun ht => ⟨ht, ?_⟩, fun ht => ht.1⟩
            rintro rfl
            obtain ⟨x, hx, -⟩ := h.waiting id t ht
            exact hfree x hx

theorem clearBanList_lifts (h : Kept m) : Lifts (fun _ => True) m m.clearBanList := by
  refine ⟨?_, ?_, rfl, rfl, rfl⟩
  · rintro id (x | x) <;> simp [Listed, clearBanList]
  · intro id t
    refine ⟨fun ht => ?_, fun ht => absurd trivial ht.2⟩
    obtain ⟨ht, hnot⟩ := List.mem_filter.mp ht
    obtain ⟨b, hb, htimer⟩ := h.waiting id t ht
    have hmem : (id, some t) ∈ m.bans := mem_bans.mpr ⟨b, hb, htimer⟩
    simp only [Bool.not_eq_true', List.any_eq_false] at hnot
    exact absurd (by simp) (hnot _ hmem)

section

variable {noRegex : Regex} {compile : String → Option Regex} {e : Event} {hist : List (BanManager Regex × Event)}

def Event.issued (noRegex : Regex) (compile : String → Option Regex) (m : BanManager Regex) :
    Event → Option (Ban Regex)
  | .banPlayerName playerName durationHours => some (.inl ⟨m.expiry durationHours, playerName, noRegex⟩)
  | .banPlayerRegex playerRegex durationHours =>
      (compile playerRegex).map fun nameRegex => .inl ⟨m.expiry durationHours, "", nameRegex⟩
  | .banIPAddress ipAddress durationHours => some (.inr ⟨m.expiry durationHours, ipAddress⟩)
  | _ => none

def Event.lifts (id : Nat) : Event → Prop
  | .unBan banId => id = banId
  | .clearBanList => True
  | _ => False

def Counted (noRegex : Regex) (compile : String → Option Regex) (m : BanManager Regex) (e : Event) : Prop :=
  ∀ b, e.issued noRegex compile m = some b → m.curBanId + 1 < 2 ^ 32

/-- An event without a new ban: the others stay if they are not taken back or over. -/
structure Drops (e : Event) (m m' : BanManager Regex) : Prop where
  kept : Kept m'
  old : ∀ id x, m'.Listed id x → m.Listed id x ∧ ¬ e.lifts id
  stays : ∀ id x, m.Listed id x → ¬ e.lifts id → m'.Listed id x ∨ ∃ t, timerOf x = some t ∧ t ≤ m.now
  now : m.now ≤ m'.now

theorem Kept.issue (h : Kept m) (hcounted : Counted noRegex compile m e) (hfire : fire noRegex compile m e = some m')
    (hissued : e.issued noRegex compile m = some b) : Adds b m m' := by
  have hcur := hcounted b hissued
  cases e with
  | banPlayerName playerName durationHours =>
      cases hissued
      cases hfire
      rw [banPlayerName]
      obtain ⟨waits, heq, hwaits⟩ := h.addBan hcur durationHours fun banId timer m =>
        { m with banPlayerNameMap := m.banPlayerNameMap ++ [(banId, ⟨timer, playerName, noRegex⟩)] }
      rw [heq]
      refine ⟨?_, hwaits, rfl, rfl, rfl⟩
      rintro id (x | x) <;> simp [Listed]
  | banPlayerRegex playerRegex durationHours =>
      cases hregex : compile playerRegex with
      | none => simp [Event.issued, hregex] at hissued
      | some nameRegex =>
          simp only [Event.issued, hregex, Option.map_some, Option.some.injEq] at hissued
          subst hissued
          simp only [fire, banPlayerRegex, hregex, Option.some.injEq] at hfire
          subst hfire
          obtain ⟨waits, heq, hwaits⟩ := h.addBan hcur durationHours fun banId timer m =>
            { m with banPlayerNameMap := m.banPlayerNameMap ++ [(banId, ⟨timer, "", nameRegex⟩)] }
          rw [heq]
          refine ⟨?_, hwaits, rfl, rfl, rfl⟩
          rintro id (x | x) <;> simp [Listed]
  | banIPAddress ipAddress durationHours =>
      cases hissued
      cases hfire
      rw [banIPAddress]
      obtain ⟨waits, heq, hwaits⟩ := h.addBan hcur durationHours fun banId timer m =>
        { m with banIPAddressMap := m.banIPAddressMap ++ [(banId, ⟨timer, ipAddress⟩)] }
      rw [heq]
      refine ⟨?_, hwaits, rfl, rfl, rfl⟩
      rintro id (x | x) <;> simp [Listed]
  | unBan | clearBanList | clock | timeout | timerRemoveBan => cases hissued

theorem Kept.timeout (h : Kept m) {banId : Nat} (hwait : (banId, t) ∈ m.waits) (ht : t ≤ m.now) :
    Kept { m with waits := m.waits.erase (banId, t), handlers := m.handlers ++ [banId] } := by
  refine ⟨h.single, h.bounded, ?_, ?_, ?_⟩
  · exact fun id u hu => h.waiting id u (List.mem_of_mem_erase hu)
  · intro id hid
    rcases List.mem_append.mp hid with hid | hid
    · exact h.stale id hid
    · rw [List.mem_singleton] at hid
      subst hid
      obtain ⟨x, hx, htimer⟩ := h.waiting id t hwait
      refine ⟨h.bounded id x hx, fun y hy => ⟨t, ?_, ht⟩⟩
      rwa [← h.single id x y hx hy]
  · intro id x u hx hu
    rcases h.timed id x u hx hu with hmem | hmem
    · by_cases heq : (id, u) = (banId, t)
      · rw [Prod.mk.injEq] at heq
        exact .inr (List.mem_append_right _ (List.mem_singleton.mpr heq.1))
      · exact .inl ((List.mem_erase_of_ne heq).mpr hmem)
    · exact .inr (List.mem_append_left _ hmem)

theorem Kept.handled (h : Kept m) {banId : Nat} (hfree : ∀ x, ¬ m.Listed banId x) :
    Kept { m with handlers := m.handlers.erase banId } := by
  refine ⟨h.single, h.bounded, h.waiting, fun id hid => h.stale id (List.mem_of_mem_erase hid), ?_⟩
  intro id x u hx hu
  refine (h.timed id x u hx hu).imp_right fun hmem => (List.mem_erase_of_ne ?_).mpr hmem
  rintro rfl
  exact hfree x hx

theorem unBan_handlers (m : BanManager Regex) (handlers : List Nat) (banId : Nat) :
    ({ m with handlers }.unBan banId).1 = { (m.unBan banId).1 with handlers } := by
  simp only [unBan]
  cases m.banPlayerNameMap.find? fun b => b.1 == banId with
  | some b => rfl
  | none => cases m.banIPAddressMap.find? fun b => b.1 == banId <;> rfl

theorem Kept.liftDrops (h : Kept m) {P : Nat → Prop} (hlifts : Lifts P m m') (hids : ∀ id, P id ↔ e.lifts id) :
    Drops e m m' := by
  refine ⟨h.lifts hlifts, fun id x hx => ?_, fun id x hx hid => .inl ?_, Int.le_of_eq hlifts.now.symm⟩
  · rw [← hids id]
    exact (hlifts.listed id x).mp hx
  · exact (hlifts.listed id x).mpr ⟨hx, (hids id).not.mpr hid⟩

theorem Kept.drops (h : Kept m) (hfire : fire noRegex compile m e = some m')
    (hissued : e.issued noRegex compile m = none) : Drops e m m' := by
  cases e with
  | banPlayerName | banIPAddress => cases hissued
  | banPlayerRegex playerRegex durationHours =>
      have hregex : compile playerRegex = none := by simpa [Event.issued] using hissued
      simp only [fire, banPlayerRegex, hregex, Option.some.injEq] at hfire
      subst hfire
      exact ⟨h, fun id x hx => ⟨hx, not_false⟩, fun id x hx _ => .inl hx, Int.le_refl _⟩
  | unBan banId =>
      cases hfire
      exact h.liftDrops (unBan_lifts h banId) fun _ => Iff.rfl
  | clearBanList =>
      cases hfire
      exact h.liftDrops (clearBanList_lifts h) fun _ => Iff.rfl
  | clock elapsed =>
      cases hfire
      refine ⟨⟨h.single, h.bounded, h.waiting, ?_, h.timed⟩, fun id x hx => ⟨hx, not_false⟩,
        fun id x hx _ => .inl hx, ?_⟩
      · intro id hid
        refine ⟨(h.stale id hid).1, fun x hx => ?_⟩
        obtain ⟨t, htimer, ht⟩ := (h.stale id hid).2 x hx
        exact ⟨t, htimer, by simp only; omega⟩
      · simp only
        omega
  | timeout banId t =>
      simp only [fire, Option.ite_none_right_eq_some, Option.some.injEq] at hfire
      obtain ⟨⟨hwait, ht⟩, rfl⟩ := hfire
      exact ⟨h.timeout hwait ht, fun id x hx => ⟨hx, not_false⟩, fun id x hx _ => .inl hx, Int.le_refl _⟩
  | timerRemoveBan banId =>
      simp only [fire, Option.ite_none_right_eq_some, Option.some.injEq] at hfire
      obtain ⟨hmem, rfl⟩ := hfire
      rw [unBan_handlers]
      have hlifts := unBan_lifts h banId
      refine ⟨?_, fun id x hx => ⟨((hlifts.listed id x).mp hx).1, not_false⟩, fun id x hx _ => ?_, ?_⟩
      · rw [← hlifts.handlers]
        exact (h.lifts hlifts).handled fun x hx => ((hlifts.listed banId x).mp hx).2 rfl
      · by_cases hid : id = banId
        · subst hid
          exact .inr ((h.stale id hmem).2 x hx)
        · exact .inl ((hlifts.listed id x).mpr ⟨hx, hid⟩)
      · exact Int.le_of_eq hlifts.now.symm

/-- The ban was made in the run, and nobody has taken it back. -/
def Issued (noRegex : Regex) (compile : String → Option Regex) (hist : List (BanManager Regex × Event)) (id : Nat)
    (b : Ban Regex) : Prop :=
  ∃ before s e after, hist = before ++ (s, e) :: after ∧ e.issued noRegex compile s = some b ∧ id = s.curBanId + 1 ∧
    ∀ x ∈ after, ¬ x.2.lifts id

theorem issued_snoc : Issued noRegex compile (hist ++ [(m, e)]) id b ↔
    e.issued noRegex compile m = some b ∧ id = m.curBanId + 1 ∨ Issued noRegex compile hist id b ∧ ¬ e.lifts id := by
  constructor
  · rintro ⟨before, s, e', after, heq, hissued, hid, hlifts⟩
    rcases List.eq_nil_or_concat after with rfl | ⟨after, last, rfl⟩
    · obtain ⟨-, hlast⟩ := List.append_inj' heq rfl
      cases hlast
      exact .inl ⟨hissued, hid⟩
    · rw [List.concat_eq_append, ← List.cons_append, ← List.append_assoc] at heq
      obtain ⟨rfl, hlast⟩ := List.append_inj' heq rfl
      cases hlast
      refine .inr ⟨⟨before, s, e', after, rfl, hissued, hid, fun x hx => hlifts x ?_⟩, hlifts (m, e) ?_⟩ <;> simp [*]
  · rintro (⟨hissued, hid⟩ | ⟨⟨before, s, e', after, rfl, hissued, hid, hlifts⟩, hlast⟩)
    · exact ⟨hist, m, e, [], rfl, hissued, hid, by simp⟩
    · refine ⟨before, s, e', after ++ [(m, e)], by simp, hissued, hid, fun x hx => ?_⟩
      rcases List.mem_append.mp hx with hx | hx
      · exact hlifts x hx
      · rw [List.mem_singleton] at hx
        rwa [hx]

def Unexpired (now : Int) (b : Ban Regex) : Prop := ∀ t, timerOf b = some t → now < t

def Recalled (noRegex : Regex) (compile : String → Option Regex) (hist : List (BanManager Regex × Event))
    (m : BanManager Regex) : Prop :=
  Kept m ∧ (∀ id b, Issued noRegex compile hist id b → Unexpired m.now b → m.Listed id b) ∧
    ∀ id b, m.Listed id b → Issued noRegex compile hist id b

theorem Recalled.fire (h : Recalled noRegex compile hist m) (hfire : fire noRegex compile m e = some m')
    (hcounted : Counted noRegex compile m e) : Recalled noRegex compile (hist ++ [(m, e)]) m' := by
  obtain ⟨hkept, hstands, hissued⟩ := h
  cases hnew : e.issued noRegex compile m with
  | some b =>
      have hadds := hkept.issue hcounted hfire hnew
      have hlifts (id : Nat) : ¬ e.lifts id := by
        cases e <;> first | exact not_false | cases hnew
      refine ⟨hkept.adds hadds, fun id x hx hnow => ?_, fun id x hx => ?_⟩
      · rw [hadds.now] at hnow
        rcases issued_snoc.mp hx with ⟨hx, hid⟩ | ⟨hx, -⟩
        · rw [hnew, Option.some.injEq] at hx
          exact (hadds.listed id x).mpr (.inr ⟨hid, hx.symm⟩)
        · exact (hadds.listed id x).mpr (.inl (hstands id x hx hnow))
      · rcases (hadds.listed id x).mp hx with hx | ⟨hid, rfl⟩
        · exact issued_snoc.mpr (.inr ⟨hissued id x hx, hlifts id⟩)
        · exact issued_snoc.mpr (.inl ⟨hnew, hid⟩)
  | none =>
      have hdrops := hkept.drops hfire hnew
      refine ⟨hdrops.kept, fun id x hx hnow => ?_, fun id x hx => ?_⟩
      · have hthen : Unexpired m.now x := fun t ht => Int.lt_of_le_of_lt hdrops.now (hnow t ht)
        rcases issued_snoc.mp hx with ⟨hx, -⟩ | ⟨hx, hid⟩
        · rw [hnew] at hx
          cases hx
        · rcases hdrops.stays id x (hstands id x hx hthen) hid with hx | ⟨t, htimer, ht⟩
          · exact hx
          · exact absurd (hthen t htimer) (by omega)
      · obtain ⟨hx, hid⟩ := hdrops.old id x hx
        exact issued_snoc.mpr (.inr ⟨hissued id x hx, hid⟩)

theorem recalled {now : Int}
    (hrun : Runs.Trace (BanManager.fire noRegex compile) (Counted noRegex compile) (start now) hist m) :
    Recalled noRegex compile hist m := by
  refine hrun.invariant ⟨kept_start now, ?_, ?_⟩ fun hist s e s' h hfire hcounted => h.fire hfire hcounted
  · rintro id b ⟨before, s, e, after, heq, -⟩
    simp at heq
  · rintro id (b | b) hb <;> cases hb

theorem isPlayerBanned_of_listed {regexMatch : String → Regex → Bool} {name : String} {x : TimedPlayerBan Regex}
    (hx : m.Listed id (.inl x))
    (hmatch : (if x.nameStr = "" then regexMatch name x.nameRegex else name == x.nameStr) = true) :
    m.isPlayerBanned regexMatch name = true :=
  List.any_eq_true.mpr ⟨(id, x), hx, hmatch⟩

theorem expiry_hours {durationHours : Nat} (hpos : durationHours ≠ 0) (hhours : durationHours ≤ 2562047) :
    m.expiry durationHours = some (min (m.now + durationHours * 3600000000000) (2 ^ 63 - 1)) := by
  have hduration : duration durationHours = durationHours * 3600000000000 := by
    have hnat : (BitVec.ofNat 64 (durationHours * 3600000000000)).toNat = durationHours * 3600000000000 := by
      rw [BitVec.toNat_ofNat, Nat.mod_eq_of_lt (by omega)]
    rw [duration, BitVec.toInt_eq_toNat_of_lt (by omega), hnat, Int.natCast_mul]
    rfl
  rw [expiry, if_neg hpos, hduration]

/-- A ban for some hours holds for these hours if nobody takes it back, whatever other bans come and go. -/
theorem ban_holds {now : Int} {before after : List (BanManager Regex × Event)} {s : BanManager Regex}
    {durationHours : Nat} (regexMatch : String → Regex → Bool)
    (hrun : Runs.Trace (BanManager.fire noRegex compile) (Counted noRegex compile) (start now)
      (before ++ (s, e) :: after) m)
    (hkept : ∀ x ∈ after, ¬ x.2.lifts (s.curBanId + 1))
    (hhours : durationHours = 0 ∨ durationHours ≤ 2562047 ∧ m.now < s.now + durationHours * 3600000000000 ∧
      m.now < 2 ^ 63 - 1) :
    (∀ ipAddress, e = .banIPAddress ipAddress durationHours → m.isIPAddressBanned ipAddress = true) ∧
      (∀ name, name ≠ "" → e = .banPlayerName name durationHours → m.isPlayerBanned regexMatch name = true) ∧
      ∀ playerRegex nameRegex name, compile playerRegex = some nameRegex → regexMatch name nameRegex = true →
        e = .banPlayerRegex playerRegex durationHours → m.isPlayerBanned regexMatch name = true := by
  have hlisted (b : Ban Regex) (hb : e.issued noRegex compile s = some b)
      (htimer : timerOf b = s.expiry durationHours) : m.Listed (s.curBanId + 1) b := by
    refine (recalled hrun).2.1 _ b ⟨before, s, e, after, rfl, hb, rfl, hkept⟩ fun t ht => ?_
    rw [htimer] at ht
    by_cases hpos : durationHours = 0
    · simp [expiry, hpos] at ht
    · rw [expiry_hours hpos (by omega), Option.some.injEq] at ht
      omega
  refine ⟨?_, ?_, ?_⟩
  · rintro ipAddress rfl
    exact List.any_eq_true.mpr ⟨_, hlisted (.inr _) rfl rfl, beq_self_eq_true ipAddress⟩
  · rintro name hname rfl
    refine isPlayerBanned_of_listed (hlisted (.inl _) rfl rfl) ?_
    rw [if_neg hname]
    exact beq_self_eq_true name
  · rintro playerRegex nameRegex name hregex hmatch rfl
    refine isPlayerBanned_of_listed
      (hlisted (.inl ⟨s.expiry durationHours, "", nameRegex⟩) (by simp [Event.issued, hregex]) rfl) ?_
    rwa [if_pos rfl]

theorem ban_holds_hour : ∃ m : BanManager Unit,
    fire () (fun _ => none) ((start 0).banIPAddress "10.0.0.7" 1) (.clock 5) = some m ∧
      m.isIPAddressBanned "10.0.0.7" = true := by
  refine ⟨_, rfl, ?_⟩
  have hban : Runs.Trace (fire () fun _ => none) (Counted () fun _ => none) (start 0)
      ([] ++ [(start 0, .banIPAddress "10.0.0.7" 1)]) ((start 0).banIPAddress "10.0.0.7" 1) :=
    Runs.Trace.start.step rfl fun b _ => by decide
  have hclock : Runs.Trace (fire () fun _ => none) (Counted () fun _ => none) (start 0)
      ([] ++ (start 0, .banIPAddress "10.0.0.7" 1) :: [((start 0).banIPAddress "10.0.0.7" 1, .clock 5)]) _ :=
    hban.step rfl fun b hb => by cases hb
  have hhours : 1 ≤ 2562047 ∧ (5 : Int) < 0 + (1 : Nat) * 3600000000000 ∧ (5 : Int) < 2 ^ 63 - 1 := by decide
  exact (ban_holds (fun _ _ => false) hclock (by simp [Event.lifts]) (.inr hhours)).1 _ rfl

/-- Every timer that is over has been served. -/
def Quiet (m : BanManager Regex) : Prop := m.handlers = [] ∧ ∀ w ∈ m.waits, m.now < w.2

theorem Recalled.listed_iff (h : Recalled noRegex compile hist m) (hquiet : Quiet m) :
    m.Listed id b ↔ Issued noRegex compile hist id b ∧ Unexpired m.now b := by
  obtain ⟨hkept, hstands, hissued⟩ := h
  refine ⟨fun hb => ⟨hissued id b hb, fun t ht => ?_⟩, fun hb => hstands id b hb.1 hb.2⟩
  rcases hkept.timed id b t hb ht with hwait | hhandler
  · exact hquiet.2 _ hwait
  · rw [hquiet.1] at hhandler
    cases hhandler

/-- Between its handlers the server refuses exactly those whom a ban of the run names that nobody has taken back and
that is not over. -/
theorem banned_iff {now : Int} (regexMatch : String → Regex → Bool)
    (hrun : Runs.Trace (BanManager.fire noRegex compile) (Counted noRegex compile) (start now) hist m)
    (hquiet : Quiet m) :
    (∀ ipAddress, m.isIPAddressBanned ipAddress = true ↔
      ∃ id timer, Issued noRegex compile hist id (.inr ⟨timer, ipAddress⟩) ∧ ∀ t, timer = some t → m.now < t) ∧
      ∀ name, m.isPlayerBanned regexMatch name = true ↔
        ∃ id x, Issued noRegex compile hist id (.inl x) ∧ (∀ t, x.timer = some t → m.now < t) ∧
          (if x.nameStr = "" then regexMatch name x.nameRegex = true else name = x.nameStr) := by
  have h := recalled hrun
  refine ⟨fun ipAddress => ?_, fun name => ?_⟩
  · rw [isIPAddressBanned, List.any_eq_true]
    constructor
    · rintro ⟨⟨id, x⟩, hx, heq⟩
      obtain ⟨hissued, hnow⟩ := (h.listed_iff hquiet (b := .inr x)).mp hx
      rw [beq_iff_eq] at heq
      exact ⟨id, x.timer, heq ▸ hissued, hnow⟩
    · rintro ⟨id, timer, hissued, hnow⟩
      exact ⟨_, (h.listed_iff hquiet (b := .inr ⟨timer, ipAddress⟩)).mpr ⟨hissued, hnow⟩, beq_self_eq_true ipAddress⟩
  · constructor
    · intro hbanned
      obtain ⟨⟨id, x⟩, hx, hmatch⟩ := List.any_eq_true.mp hbanned
      obtain ⟨hissued, hnow⟩ := (h.listed_iff hquiet (b := .inl x)).mp hx
      refine ⟨id, x, hissued, hnow, ?_⟩
      split_ifs at hmatch ⊢ with hempty
      · exact hmatch
      · exact beq_iff_eq.mp hmatch
    · rintro ⟨id, x, hissued, hnow, hmatch⟩
      refine isPlayerBanned_of_listed ((h.listed_iff hquiet).mpr ⟨hissued, hnow⟩) ?_
      split_ifs at hmatch ⊢ with hempty
      · exact hmatch
      · exact beq_iff_eq.mpr hmatch

/-- After two hours one of two bans is over. -/
theorem banned_iff_hour : ∃ hist, ∃ m : BanManager Unit,
    Runs.Trace (fire () fun _ => none) (Counted () fun _ => none) (start 0) hist m ∧
      m.isIPAddressBanned "10.0.0.7" = false ∧ m.isIPAddressBanned "10.0.0.8" = true ∧
      (¬ ∃ id timer, Issued () (fun _ => none) hist id (.inr ⟨timer, "10.0.0.7"⟩) ∧ ∀ t, timer = some t → m.now < t) ∧
      ∃ id timer, Issued () (fun _ => none) hist id (.inr ⟨timer, "10.0.0.8"⟩) ∧ ∀ t, timer = some t → m.now < t := by
  obtain ⟨hist, m, hrun, htest⟩ := Runs.exists_trace (fire () fun _ => none) (Counted () fun _ => none)
    (fun m _ => decide (m.curBanId + 1 < 2 ^ 32)) (start 0)
    [.banIPAddress "10.0.0.7" 1, .banIPAddress "10.0.0.8" 3, .clock 7200000000000, .timeout 1 3600000000000, .timerRemoveBan 1]
    (fun m => !m.isIPAddressBanned "10.0.0.7" && m.isIPAddressBanned "10.0.0.8" && m.handlers.isEmpty &&
      m.waits.all fun w => decide (m.now < w.2)) (by decide +kernel) (fun _ _ hcheck _ _ => of_decide_eq_true hcheck)
  simp only [Bool.and_eq_true, Bool.not_eq_true', List.isEmpty_iff, List.all_eq_true, decide_eq_true_eq] at htest
  obtain ⟨⟨⟨hover, hforce⟩, hhandlers⟩, hwaits⟩ := htest
  have hiff := (banned_iff (fun _ _ => false) hrun ⟨hhandlers, hwaits⟩).1
  refine ⟨hist, m, hrun, hover, hforce, ?_, (hiff _).mp hforce⟩
  rw [← hiff, hover]
  exact Bool.false_ne_true

end

end BanManager

end PokerTH
