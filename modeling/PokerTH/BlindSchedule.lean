import PokerTH.NewHand

namespace PokerTH

def IsInt (x : Int) : Prop := -2 ^ 31 ≤ x ∧ x < 2 ^ 31

def IsLong (x : Int) : Prop := -2 ^ 63 ≤ x ∧ x < 2 ^ 63

instance (x : Int) : Decidable (IsInt x) := inferInstanceAs (Decidable (_ ∧ _))

def IsMinutes (x : Int) : Prop := 0 ≤ x ∧ x * 60 < 2 ^ 63

namespace Game

def countHand (elapsedMinutes : Int) (g : Game) : Game :=
  raiseBlinds elapsedMinutes { g with currentHandID := g.currentHandID + 1 }

/-- The values that a new hand computes, with the types they are computed in. -/
structure NoOverflow (elapsedMinutes : Int) (g : Game) : Prop where
  handID : IsInt (g.currentHandID + 1)
  hands : g.gameData.raiseIntervalMode = .raiseOnHandNumber →
    IsInt (g.lastHandBlindsRaised + g.gameData.raiseSmallBlindEveryHandsValue)
  minutes : IsLong (g.lastTimeBlindsRaised + g.gameData.raiseSmallBlindEveryMinutesValue)
  cash : IsLong (g.startQuantityPlayers * g.startCash)
  twice : IsLong (g.currentSmallBlind * 2)
  sum : IsLong (g.currentSmallBlind + g.gameData.afterMBAlwaysRaiseValue)
  raised : IsInt g.raisedBlind.1
  blind : IsInt (g.countHand elapsedMinutes).currentSmallBlind

/-- The game after `n` more hands. Between them the dealer's id may change. -/
inductive Dealt (g₀ : Game) : Nat → Game → Prop
  | none : Dealt g₀ 0 g₀
  | hand {n : Nat} {g g' : Game} {h : Hand} {t : Table} {v : Nat → Nat} {elapsed : Int} (dealer : Nat)
      (hbefore : Dealt g₀ n g) (htime : IsMinutes elapsed)
      (hrun : { g with dealerPosition := dealer }.initHand v elapsed t = .ok (g', h)) : Dealt g₀ (n + 1) g'

variable {g g' g₀ : Game} {n k : Nat} {elapsed : Int}

theorem doubledBlind_eq (_ : 0 ≤ g.currentSmallBlind) (_ : 0 ≤ g.maxBlind) :
    g.doubledBlind = min g.maxBlind (g.currentSmallBlind * 2) := by
  simp only [doubledBlind]
  split_ifs <;> omega

structure SameGame (g g' : Game) : Prop where
  gameData : g'.gameData = g.gameData
  startQuantityPlayers : g'.startQuantityPlayers = g.startQuantityPlayers
  startCash : g'.startCash = g.startCash

theorem SameGame.maxBlind (hs : SameGame g g') : g'.maxBlind = g.maxBlind := by
  rw [Game.maxBlind, Game.maxBlind, hs.startQuantityPlayers, hs.startCash]

theorem SameGame.trans (hs : SameGame g₀ g) (hs' : SameGame g g') : SameGame g₀ g' :=
  ⟨hs'.gameData.trans hs.gameData, hs'.startQuantityPlayers.trans hs.startQuantityPlayers,
    hs'.startCash.trans hs.startCash⟩

inductive Counts (elapsed : Int) (g : Game) : Game → Prop
  | stays {g' : Game} (hblind : g'.currentSmallBlind = g.currentSmallBlind) (hlist : g'.blindsList = g.blindsList)
      (hhand : g'.lastHandBlindsRaised = g.lastHandBlindsRaised) (htime : g'.lastTimeBlindsRaised = g.lastTimeBlindsRaised)
      (hlate : g.gameData.raiseIntervalMode = .raiseOnHandNumber →
        g.currentHandID + 1 < g.lastHandBlindsRaised + g.gameData.raiseSmallBlindEveryHandsValue) : Counts elapsed g g'
  | raises {g' : Game} (hblind : g'.currentSmallBlind = min g.raisedBlind.1 g.maxBlind)
      (hlist : g'.blindsList = g.raisedBlind.2)
      (hhand : g'.lastHandBlindsRaised = g.lastHandBlindsRaised ∨ g'.lastHandBlindsRaised = g.currentHandID + 1)
      (htime : g'.lastTimeBlindsRaised = g.lastTimeBlindsRaised ∨ g'.lastTimeBlindsRaised = elapsed)
      (hnow : g.gameData.raiseIntervalMode = .raiseOnHandNumber →
        g.lastHandBlindsRaised + g.gameData.raiseSmallBlindEveryHandsValue ≤ g.currentHandID + 1 ∧
          g'.lastHandBlindsRaised = g.currentHandID + 1) : Counts elapsed g g'

theorem countHand_same (elapsed : Int) (g : Game) : SameGame g (g.countHand elapsed) ∧
    (g.countHand elapsed).currentHandID = g.currentHandID + 1 := by
  simp only [countHand, raiseBlinds, setRaisedBlind]
  split <;> split_ifs <;> exact ⟨⟨rfl, rfl, rfl⟩, rfl⟩

theorem countHand_counts (elapsed : Int) (g : Game) : Counts elapsed g (g.countHand elapsed) := by
  simp only [countHand, raiseBlinds, setRaisedBlind]
  split
  · next hmode =>
      split_ifs with hnow
      · exact .raises rfl rfl (.inr rfl) (.inl rfl) fun _ => ⟨hnow, rfl⟩
      · exact .stays rfl rfl rfl rfl fun _ => not_le.mp hnow
  · next hmode =>
      have hne (h : g.gameData.raiseIntervalMode = .raiseOnHandNumber) : False := by
        rw [h] at hmode
        cases hmode
      split_ifs
      · exact .raises rfl rfl (.inl rfl) (.inr rfl) fun h => (hne h).elim
      · exact .stays rfl rfl rfl rfl fun h => (hne h).elim

theorem initHand_countHand {t : Table} {v : Nat → Nat} {h : Hand} {dealer : Nat}
    (hrun : { g with dealerPosition := dealer }.initHand v elapsed t = .ok (g', h)) :
    ∃ d, g' = { g.countHand elapsed with dealerPosition := d } := by
  obtain ⟨_, d, rfl, _, _, rfl⟩ := Hand.initHand_cases hrun
  refine ⟨d, ?_⟩
  simp only [countHand, raiseBlinds, setRaisedBlind]
  split <;> split_ifs <;> rfl

theorem counts_of_initHand {t : Table} {v : Nat → Nat} {h : Hand} {dealer : Nat}
    (hrun : { g with dealerPosition := dealer }.initHand v elapsed t = .ok (g', h)) :
    Counts elapsed g g' ∧ SameGame g g' ∧ g'.currentHandID = g.currentHandID + 1 := by
  obtain ⟨d, rfl⟩ := initHand_countHand hrun
  obtain ⟨⟨hdata, hquantity, hcash⟩, hid⟩ := countHand_same elapsed g
  refine ⟨?_, ⟨hdata, hquantity, hcash⟩, hid⟩
  cases countHand_counts elapsed g with
  | stays hblind hlist hhand htime hlate => exact .stays hblind hlist hhand htime hlate
  | raises hblind hlist hhand htime hnow => exact .raises hblind hlist hhand htime hnow

theorem raisedBlind_cases (g : Game) :
    ((g.gameData.raiseMode = .manualBlindsOrder → g.blindsList = []) ∧ g.raisedBlind = (g.doubledBlind, g.blindsList)) ∨
    (g.gameData.raiseMode = .manualBlindsOrder ∧ ∃ b rest, g.blindsList = b :: rest ∧ g.raisedBlind = (b, rest)) ∨
    (g.gameData.raiseMode = .manualBlindsOrder ∧ g.gameData.afterManualBlindsMode = .raiseAbout ∧ g.blindsList = [] ∧
      g.raisedBlind = (min (g.currentSmallBlind + g.gameData.afterMBAlwaysRaiseValue) g.maxBlind, [])) ∨
    (g.gameData.raiseMode = .manualBlindsOrder ∧ g.blindsList = [] ∧ g.raisedBlind = (g.currentSmallBlind, [])) := by
  simp only [raisedBlind]
  cases hmode : g.gameData.raiseMode with
  | doubleBlinds => exact .inl ⟨by simp, rfl⟩
  | manualBlindsOrder =>
      cases hlist : g.blindsList with
      | cons b rest => exact .inr (.inl ⟨rfl, b, rest, rfl, rfl⟩)
      | nil =>
          cases hafter : g.gameData.afterManualBlindsMode with
          | doubleBlinds => exact .inl ⟨fun _ => rfl, rfl⟩
          | raiseAbout =>
              refine .inr (.inr (.inl ⟨rfl, rfl, rfl, ?_⟩))
              simp only [min_def]
          | stayAtLastBlind => exact .inr (.inr (.inr ⟨rfl, rfl, rfl⟩))

/-- The manual blinds do not go down, and neither does the value that is added after them. -/
def Ascending (d : GameData) : Prop :=
  d.raiseMode = .manualBlindsOrder →
    (d.firstSmallBlind :: d.manualBlindsList).Pairwise (· ≤ ·) ∧
      (d.afterManualBlindsMode = .raiseAbout → 0 ≤ d.afterMBAlwaysRaiseValue)

def Nonneg (d : GameData) : Prop :=
  d.raiseMode = .manualBlindsOrder →
    (∀ b ∈ d.manualBlindsList, 0 ≤ b) ∧ (d.afterManualBlindsMode = .raiseAbout → 0 ≤ d.afterMBAlwaysRaiseValue)

structure Opened (g : Game) : Prop where
  pos : 1 ≤ g.gameData.firstSmallBlind
  blind : g.currentSmallBlind = g.gameData.firstSmallBlind
  max : g.gameData.firstSmallBlind ≤ g.maxBlind
  hand : g.currentHandID = 0
  last : g.lastHandBlindsRaised = 1
  lastTime : g.lastTimeBlindsRaised = 0
  list : g.blindsList = g.gameData.manualBlindsList

theorem opened_of_create {maxPlayers : Nat} {playerDataList : List PlayerData} {d : GameData} {startData : StartData}
    {t : Table} (hcreate : create maxPlayers playerDataList d startData = .ok (g, t))
    (hpos : 1 ≤ d.firstSmallBlind) (hmax : d.firstSmallBlind ≤ g.maxBlind) : Opened g ∧ g.gameData = d := by
  simp only [create] at hcreate
  split_ifs at hcreate
  cases hcreate
  exact ⟨⟨hpos, rfl, hmax, rfl, rfl, rfl, rfl⟩, rfl⟩

theorem Dealt.same (hn : Dealt g₀ n g) : SameGame g₀ g ∧ g.currentHandID = g₀.currentHandID + n := by
  induction hn with
  | none => exact ⟨⟨rfl, rfl, rfl⟩, by simp⟩
  | hand dealer _ _ hrun ih =>
      obtain ⟨_, hs, hid⟩ := counts_of_initHand hrun
      refine ⟨ih.1.trans hs, ?_⟩
      rw [hid, ih.2]
      push_cast
      ring

theorem Opened.le_maxBlind (ho : Opened g) : g.currentSmallBlind ≤ g.maxBlind := by
  rw [ho.blind]
  exact ho.max

theorem Dealt.le_maxBlind (hle : g₀.currentSmallBlind ≤ g₀.maxBlind) (hn : Dealt g₀ n g) :
    g.currentSmallBlind ≤ g.maxBlind := by
  induction hn with
  | none => exact hle
  | hand dealer _ _ hrun ih =>
      obtain ⟨hcounts, hs, _⟩ := counts_of_initHand hrun
      rw [hs.maxBlind]
      cases hcounts with
      | stays hblind => rw [hblind]; exact ih
      | raises hblind => rw [hblind]; exact min_le_right _ _

def Climbs (g : Game) : Prop :=
  1 ≤ g.currentSmallBlind ∧
    (g.gameData.raiseMode = .manualBlindsOrder → (g.currentSmallBlind :: g.blindsList).Pairwise (· ≤ ·))

theorem Climbs.counts (hc : Climbs g) (ha : Ascending g.gameData) (hle : g.currentSmallBlind ≤ g.maxBlind)
    (hcounts : Counts elapsed g g') (hs : SameGame g g') :
    Climbs g' ∧ g.currentSmallBlind ≤ g'.currentSmallBlind := by
  obtain ⟨hpos, hlist⟩ := hc
  rw [Climbs, hs.gameData]
  cases hcounts with
  | stays hblind hrest =>
      rw [hblind, hrest]
      exact ⟨⟨hpos, hlist⟩, le_refl _⟩
  | raises hblind hrest =>
      rw [hblind, hrest]
      obtain ⟨hempty, hr⟩ | ⟨hmode, b, rest, hb, hr⟩ | ⟨hmode, hafter, hb, hr⟩ | ⟨hmode, hb, hr⟩ := raisedBlind_cases g
      · rw [hr, doubledBlind_eq (by omega) (by omega)]
        have hup : g.currentSmallBlind ≤ min (min g.maxBlind (g.currentSmallBlind * 2)) g.maxBlind := by omega
        refine ⟨⟨by omega, fun hmode => ?_⟩, hup⟩
        simp only [hempty hmode]
        exact List.pairwise_singleton _ _
      · have hsorted := hlist hmode
        rw [hb, List.pairwise_cons] at hsorted
        have hup : g.currentSmallBlind ≤ min b g.maxBlind := le_min (hsorted.1 b (by simp)) hle
        rw [hr]
        refine ⟨⟨by omega, fun _ => ?_⟩, hup⟩
        have hrest := List.pairwise_cons.mp hsorted.2
        exact List.pairwise_cons.mpr ⟨fun x hx => (min_le_left _ _).trans (hrest.1 x hx), hrest.2⟩
      · have hvalue := (ha hmode).2 hafter
        rw [hr]
        exact ⟨⟨by omega, fun _ => List.pairwise_singleton _ _⟩, by omega⟩
      · rw [hr]
        exact ⟨⟨by omega, fun _ => List.pairwise_singleton _ _⟩, by omega⟩

theorem Opened.climbs (ho : Opened g₀) (ha : Ascending g₀.gameData) : Climbs g₀ := by
  rw [Climbs, ho.blind, ho.list]
  exact ⟨ho.pos, fun hmode => (ha hmode).1⟩

theorem Dealt.climbs (hc : Climbs g₀) (ha : Ascending g₀.gameData) (hle : g₀.currentSmallBlind ≤ g₀.maxBlind)
    (hn : Dealt g₀ n g) : Climbs g ∧ g₀.currentSmallBlind ≤ g.currentSmallBlind := by
  induction hn with
  | none => exact ⟨hc, le_refl _⟩
  | hand dealer hbefore _ hrun ih =>
      obtain ⟨hcounts, hs, _⟩ := counts_of_initHand hrun
      have hdata := hbefore.same.1.gameData
      obtain ⟨hclimbs, hup⟩ := ih.1.counts (hdata ▸ ha) (hbefore.le_maxBlind hle) hcounts hs
      exact ⟨hclimbs, ih.2.trans hup⟩

def Plays (g : Game) : Prop :=
  0 ≤ g.currentSmallBlind ∧ (g.gameData.raiseMode = .manualBlindsOrder → ∀ b ∈ g.blindsList, 0 ≤ b)

theorem Opened.plays (ho : Opened g) (hv : Nonneg g.gameData) : Plays g := by
  have hpos := ho.pos
  rw [Plays, ho.blind, ho.list]
  exact ⟨by omega, fun hmode => (hv hmode).1⟩

theorem Plays.counts (hp : Plays g) (hv : Nonneg g.gameData) (hle : g.currentSmallBlind ≤ g.maxBlind)
    (hcounts : Counts elapsed g g') (hs : SameGame g g') : Plays g' := by
  obtain ⟨hpos, hlist⟩ := hp
  rw [Plays, hs.gameData]
  cases hcounts with
  | stays hblind hrest =>
      rw [hblind, hrest]
      exact ⟨hpos, hlist⟩
  | raises hblind hrest =>
      rw [hblind, hrest]
      obtain ⟨hempty, hr⟩ | ⟨hmode, b, rest, hb, hr⟩ | ⟨hmode, hafter, hb, hr⟩ | ⟨hmode, hb, hr⟩ := raisedBlind_cases g
      · rw [hr, doubledBlind_eq (by omega) (by omega)]
        exact ⟨by omega, hlist⟩
      · have hall := hlist hmode
        rw [hb] at hall
        rw [hr]
        exact ⟨le_min (hall b (by simp)) (by omega), fun _ x hx => hall x (by simp [hx])⟩
      · have hvalue := (hv hmode).2 hafter
        rw [hr]
        exact ⟨by omega, fun _ => by simp⟩
      · rw [hr]
        exact ⟨by omega, fun _ => by simp⟩

theorem Dealt.plays (hp : Plays g₀) (hv : Nonneg g₀.gameData) (hle : g₀.currentSmallBlind ≤ g₀.maxBlind)
    (hn : Dealt g₀ n g) : Plays g := by
  induction hn with
  | none => exact hp
  | hand dealer hbefore _ hrun ih =>
      obtain ⟨hcounts, hs, _⟩ := counts_of_initHand hrun
      exact ih.counts (hbefore.same.1.gameData ▸ hv) (hbefore.le_maxBlind hle) hcounts hs

/-- The settings of a game are values of the type `int`. -/
structure FitsTypes (g : Game) : Prop where
  players : (g.startQuantityPlayers : Int) < 2 ^ 31
  cash : IsInt g.startCash
  hands : IsInt g.gameData.raiseSmallBlindEveryHandsValue
  minutes : IsInt g.gameData.raiseSmallBlindEveryMinutesValue
  about : IsInt g.gameData.afterMBAlwaysRaiseValue
  list : ∀ b ∈ g.gameData.manualBlindsList, IsInt b

theorem SameGame.fitsTypes (hs : SameGame g g') (hf : FitsTypes g) : FitsTypes g' where
  players := by rw [hs.startQuantityPlayers]; exact hf.players
  cash := by rw [hs.startCash]; exact hf.cash
  hands := by rw [hs.gameData]; exact hf.hands
  minutes := by rw [hs.gameData]; exact hf.minutes
  about := by rw [hs.gameData]; exact hf.about
  list := by rw [hs.gameData]; exact hf.list

structure Counters (g : Game) : Prop where
  hand : 0 ≤ g.currentHandID
  pos : 1 ≤ g.lastHandBlindsRaised
  last : g.lastHandBlindsRaised ≤ max 1 g.currentHandID
  time : IsMinutes g.lastTimeBlindsRaised
  list : g.blindsList ⊆ g.gameData.manualBlindsList

theorem Opened.counters (ho : Opened g) : Counters g where
  hand := by rw [ho.hand]
  pos := by rw [ho.last]
  last := by rw [ho.last, ho.hand]; decide
  time := by rw [ho.lastTime]; exact ⟨by decide, by decide⟩
  list := by rw [ho.list]; exact List.Subset.refl _

theorem raisedBlind_subset (g : Game) : g.raisedBlind.2 ⊆ g.blindsList := by
  obtain ⟨_, hr⟩ | ⟨_, b, rest, hb, hr⟩ | ⟨_, _, _, hr⟩ | ⟨_, _, hr⟩ := raisedBlind_cases g
  · rw [hr]
    exact List.Subset.refl _
  · rw [hr, hb]
    exact List.subset_cons_self b rest
  · rw [hr]
    exact List.nil_subset _
  · rw [hr]
    exact List.nil_subset _

theorem Counters.counts (hc : Counters g) (htime : IsMinutes elapsed) (hcounts : Counts elapsed g g')
    (hs : SameGame g g') (hid : g'.currentHandID = g.currentHandID + 1) : Counters g' := by
  have hhand := hc.hand
  have hpos := hc.pos
  have hlast := hc.last
  cases hcounts with
  | stays _ hlist hraised hraisedTime =>
      refine ⟨by omega, by omega, by omega, ?_, ?_⟩
      · rw [hraisedTime]
        exact hc.time
      · rw [hlist, hs.gameData]
        exact hc.list
  | raises _ hlist hraised hraisedTime =>
      refine ⟨by omega, by omega, by omega, ?_, ?_⟩
      · rcases hraisedTime with he | he
        · rw [he]
          exact hc.time
        · rw [he]
          exact htime
      · rw [hlist, hs.gameData]
        exact List.Subset.trans (raisedBlind_subset g) hc.list

theorem Dealt.counters (hc : Counters g₀) (hn : Dealt g₀ n g) : Counters g := by
  induction hn with
  | none => exact hc
  | hand dealer _ htime hrun ih =>
      obtain ⟨hcounts, hs, hid⟩ := counts_of_initHand hrun
      exact ih.counts htime hcounts hs hid

theorem maxBlind_le (g : Game) : g.maxBlind ≤ INT_MAX := min_le_right _ _

/-- A hand that the game still can count raises the blind without an overflow. -/
theorem Plays.noOverflow (hp : Plays g) (hc : Counters g) (hf : FitsTypes g) (hv : Nonneg g.gameData)
    (hone : 1 ≤ g.maxBlind) (hle : g.currentSmallBlind ≤ g.maxBlind) (hid : g.currentHandID + 1 ≤ INT_MAX)
    (hroom : g.currentHandID + 1 + g.gameData.raiseSmallBlindEveryHandsValue ≤ INT_MAX) :
    NoOverflow elapsed g := by
  obtain ⟨hfirst, hsecond⟩ := hp
  have hmax := maxBlind_le g
  obtain ⟨hhands, hhands'⟩ := hf.hands
  obtain ⟨hminutes, hminutes'⟩ := hf.minutes
  obtain ⟨habout, habout'⟩ := hf.about
  obtain ⟨htime, htime'⟩ := hc.time
  have hhand := hc.hand
  have hpos := hc.pos
  have hlast := hc.last
  rw [INT_MAX] at *
  refine ⟨⟨by omega, by omega⟩, fun _ => ⟨by omega, by omega⟩, ⟨by omega, by omega⟩, ?_, ⟨by omega, by omega⟩,
    ⟨by omega, by omega⟩, ?_, ?_⟩
  · have hcash : 2 ≤ g.startQuantityPlayers * g.startCash := by
      rw [maxBlind] at hone
      omega
    have hupper : g.startQuantityPlayers * g.startCash ≤ 2 ^ 31 * 2 ^ 31 :=
      mul_le_mul hf.players.le hf.cash.2.le (by by_contra hneg; nlinarith) (by decide)
    exact ⟨by omega, by omega⟩
  · obtain ⟨hempty, hr⟩ | ⟨hmode, b, rest, hb, hr⟩ | ⟨hmode, hafter, hb, hr⟩ | ⟨hmode, hb, hr⟩ := raisedBlind_cases g
    · rw [hr, doubledBlind_eq (by omega) (by omega)]
      exact ⟨by omega, by omega⟩
    · rw [hr]
      exact hf.list b (hc.list (by simp [hb]))
    · have hvalue := (hv hmode).2 hafter
      rw [hr]
      exact ⟨by omega, by omega⟩
    · rw [hr]
      exact ⟨by omega, by omega⟩
  · have hs := countHand_same elapsed g
    have hcounts := countHand_counts elapsed g
    have hplays := Plays.counts ⟨hfirst, hsecond⟩ hv hle hcounts hs.1
    have hbound : (g.countHand elapsed).currentSmallBlind ≤ g.maxBlind := by
      cases hcounts with
      | stays hblind => rw [hblind]; exact hle
      | raises hblind => rw [hblind]; exact min_le_right _ _
    have hzero := hplays.1
    exact ⟨by omega, by omega⟩

structure Doubling (k n : Nat) (g : Game) : Prop where
  hand : g.currentHandID = n
  last : g.lastHandBlindsRaised = 1 + k * ((n - 1) / k : Nat)
  blind : g.currentSmallBlind = min g.maxBlind (g.gameData.firstSmallBlind * 2 ^ ((n - 1) / k))

theorem Opened.doubling (ho : Opened g) (k : Nat) : Doubling k 0 g where
  hand := ho.hand
  last := by simp [ho.last]
  blind := by simpa [ho.blind] using (min_eq_right ho.max).symm

/-- The next hand is the first of a new interval when the old interval has passed. -/
theorem next_interval {k : Nat} (hk : 1 ≤ k) (n : Nat) (hpassed : k * ((n - 1) / k) + k ≤ n) :
    n / k = (n - 1) / k + 1 ∧ k * (n / k) = n := by
  have hlt := Nat.lt_mul_div_succ (n - 1) hk
  rw [Nat.mul_succ] at hlt
  have hn : n = k * ((n - 1) / k + 1) := by
    rw [Nat.mul_succ]
    omega
  have hdiv : n / k = (n - 1) / k + 1 := Nat.div_eq_of_eq_mul_right hk hn
  exact ⟨hdiv, by rw [hdiv]; exact hn.symm⟩

theorem same_interval {k : Nat} (n : Nat) (hlate : n < k * ((n - 1) / k) + k) :
    n / k = (n - 1) / k := by
  have hle := Nat.mul_div_le (n - 1) k
  exact Nat.div_eq_of_lt_le (by rw [Nat.mul_comm]; omega) (by rw [Nat.mul_comm, Nat.mul_succ]; exact hlate)

theorem Doubling.counts {k : Nat} (hk : 1 ≤ k) (hd : Doubling k n g)
    (hmode : g.gameData.raiseIntervalMode = .raiseOnHandNumber)
    (hvalue : g.gameData.raiseSmallBlindEveryHandsValue = k) (hdouble : g.gameData.raiseMode = .doubleBlinds)
    (hone : 1 ≤ g.maxBlind) (hpos : 1 ≤ g.gameData.firstSmallBlind)
    (hcounts : Counts elapsed g g') (hs : SameGame g g') (hid : g'.currentHandID = g.currentHandID + 1) :
    Doubling k (n + 1) g' := by
  have hhand : g'.currentHandID = (n + 1 : Nat) := by
    rw [hid, hd.hand]
    push_cast
    rfl
  cases hcounts with
  | stays hblind _ hraised _ hlate =>
      have hsame : n / k = (n - 1) / k := by
        refine same_interval n ?_
        have hlate := hlate hmode
        rw [hd.hand, hd.last, hvalue] at hlate
        omega
      refine ⟨hhand, ?_, ?_⟩
      · rw [hraised, hd.last, Nat.add_sub_cancel, hsame]
      · rw [hblind, hd.blind, hs.maxBlind, hs.gameData, Nat.add_sub_cancel, hsame]
  | raises hblind _ _ _ hnow =>
      obtain ⟨hpassed, hraised⟩ := hnow hmode
      obtain ⟨hnext, hfull⟩ : n / k = (n - 1) / k + 1 ∧ k * (n / k) = n := by
        refine next_interval hk n ?_
        rw [hd.hand, hd.last, hvalue] at hpassed
        omega
      refine ⟨hhand, ?_, ?_⟩
      · rw [hraised, hd.hand, Nat.add_sub_cancel, ← Nat.cast_mul, hfull, add_comm]
      · have hpow : (0 : Int) ≤ g.gameData.firstSmallBlind * 2 ^ ((n - 1) / k) := by positivity
        have hold := hd.blind
        have hr : g.raisedBlind.1 = g.doubledBlind := by rw [raisedBlind, hdouble]
        rw [hblind, hr, hs.maxBlind, hs.gameData, Nat.add_sub_cancel, hnext, pow_succ, ← mul_assoc,
          doubledBlind_eq (by omega) (by omega)]
        omega

theorem Dealt.doubling {k : Nat} (hk : 1 ≤ k) (ho : Opened g₀)
    (hmode : g₀.gameData.raiseIntervalMode = .raiseOnHandNumber)
    (hvalue : g₀.gameData.raiseSmallBlindEveryHandsValue = k) (hdouble : g₀.gameData.raiseMode = .doubleBlinds)
    (hn : Dealt g₀ n g) : Doubling k n g := by
  induction hn with
  | none => exact ho.doubling k
  | hand dealer hbefore _ hrun ih =>
      obtain ⟨hcounts, hs, hid⟩ := counts_of_initHand hrun
      have hsame := hbefore.same.1
      have hone := ho.pos.trans ho.max
      refine ih.counts hk ?_ ?_ ?_ ?_ ?_ hcounts hs hid
      · rw [hsame.gameData]; exact hmode
      · rw [hsame.gameData]; exact hvalue
      · rw [hsame.gameData]; exact hdouble
      · rw [hsame.maxBlind]; exact hone
      · rw [hsame.gameData]; exact ho.pos

/-- No hand raises the blind above `maxBlind`. The blind never falls, no value overflows and, where it is doubled every
`k` hands, it is a power of two times the first, each under what the settings and the counters have to be for it. -/
theorem blind_schedule {maxPlayers : Nat} {playerDataList : List PlayerData} {d : GameData} {startData : StartData}
    {t : Table} (hcreate : create maxPlayers playerDataList d startData = .ok (g₀, t))
    (hpos : 1 ≤ d.firstSmallBlind) (hmax : d.firstSmallBlind ≤ g₀.maxBlind) (hn : Dealt g₀ n g) :
    g.currentSmallBlind ≤ g₀.maxBlind ∧
    (Ascending d → ∀ m g', Dealt g m g' → g.currentSmallBlind ≤ g'.currentSmallBlind) ∧
    (FitsTypes g₀ → Nonneg d → (n : Int) + 1 ≤ INT_MAX → (n : Int) + 1 + d.raiseSmallBlindEveryHandsValue ≤ INT_MAX →
      ∀ elapsed, NoOverflow elapsed g) ∧
    (∀ k : Nat, 1 ≤ k → d.raiseIntervalMode = .raiseOnHandNumber → d.raiseSmallBlindEveryHandsValue = k →
      d.raiseMode = .doubleBlinds → (n : Int) + k ≤ INT_MAX →
      g.currentSmallBlind = min g₀.maxBlind (d.firstSmallBlind * 2 ^ ((n - 1) / k))) := by
  obtain ⟨ho, hdata⟩ := opened_of_create hcreate hpos hmax
  subst hdata
  obtain ⟨hs, hid⟩ := hn.same
  have hle := hn.le_maxBlind ho.le_maxBlind
  refine ⟨hs.maxBlind ▸ hle, fun ha m g' hm => ?_, fun hf hv hcount hroom elapsed => ?_,
    fun k hk hmode hvalue hdouble _ => ?_⟩
  · have hclimbs := (hn.climbs (ho.climbs ha) ha ho.le_maxBlind).1
    exact (hm.climbs hclimbs (hs.gameData ▸ ha) hle).2
  · have hplays := hn.plays (ho.plays hv) hv ho.le_maxBlind
    have hone : 1 ≤ g.maxBlind := by
      rw [hs.maxBlind]
      exact hpos.trans hmax
    rw [ho.hand, zero_add] at hid
    refine hplays.noOverflow (hn.counters ho.counters) (hs.fitsTypes hf) (hs.gameData ▸ hv) hone hle ?_ ?_
    · rw [hid]
      exact hcount
    · rw [hid, hs.gameData]
      exact hroom
  · have hd := hn.doubling hk ho hmode hvalue hdouble
    rw [hd.blind, hs.maxBlind, hs.gameData]

def twoSeats : List PlayerData := [⟨1, .human, "", -1⟩, ⟨2, .human, "", -1⟩]

def everyHand (interval : Int) (raiseMode : RaiseMode) (blinds : List Int) : GameData :=
  ⟨2, 1000, 10, .raiseOnHandNumber, interval, 0, raiseMode, blinds, .stayAtLastBlind, 0, 0, 20⟩

def twoSeatsTable : Table where
  players := newPlayer 1000 2 twoSeats
  seatsList := [0, 1]
  activePlayerList := [0, 1]
  runningPlayerList := [0, 1]
  board := newBoard

def twoSeatsGame (d : GameData) : Game := ⟨d, 2, 1000, 10, 0, 1, 1, 0, d.manualBlindsList⟩

theorem dealt_twoSeats (hn : Dealt g₀ n g) : ∃ d, Dealt g₀ (n + 1) { g.countHand 0 with dealerPosition := d } := by
  have hd : Dealable twoSeatsTable 1 := ⟨by decide, by decide, by decide, by decide, by decide, by decide⟩
  obtain ⟨g', h, hrun⟩ := initHand_isOk (fun _ => 0) 0 { g with dealerPosition := 1 } hd
  obtain ⟨d, rfl⟩ := initHand_countHand hrun
  exact ⟨d, .hand 1 hn ⟨by decide, by decide⟩ hrun⟩

theorem blind_schedule_twoSeats :
    ∃ g, Dealt (twoSeatsGame (everyHand 1 .doubleBlinds [])) 3 g ∧ g.currentSmallBlind ≤ 1000 ∧
      NoOverflow 0 g ∧ g.currentSmallBlind = 40 := by
  obtain ⟨_, h1⟩ := dealt_twoSeats (@Dealt.none (twoSeatsGame (everyHand 1 .doubleBlinds [])))
  obtain ⟨_, h2⟩ := dealt_twoSeats h1
  obtain ⟨_, h3⟩ := dealt_twoSeats h2
  obtain ⟨hmax, -, hoverflow, hblind⟩ := @blind_schedule _ _ 3 2 twoSeats (everyHand 1 .doubleBlinds []) ⟨1, 2⟩ _ rfl
    (by decide) (by decide) h3
  have hfits : FitsTypes (twoSeatsGame (everyHand 1 .doubleBlinds [])) :=
    ⟨by decide, by decide, by decide, by decide, by decide, by decide⟩
  exact ⟨_, h3, hmax, hoverflow hfits nofun (by decide) (by decide) 0,
    (hblind 1 (by decide) rfl rfl rfl (by decide)).trans (by decide)⟩

/-- A list of manual blinds that begins below the first blind lowers it, and the first hand of an interval of `INT_MAX` hands
overflows. -/
theorem blind_schedule_not_ascending :
    (∃ t g g', create 2 twoSeats (everyHand 1 .manualBlindsOrder [5]) ⟨1, 2⟩ =
        .ok (twoSeatsGame (everyHand 1 .manualBlindsOrder [5]), t) ∧
      Dealt (twoSeatsGame (everyHand 1 .manualBlindsOrder [5])) 1 g ∧ Dealt g 1 g' ∧
      g.currentSmallBlind = 10 ∧ g'.currentSmallBlind = 5) ∧
      ∃ t, create 2 twoSeats (everyHand INT_MAX .doubleBlinds []) ⟨1, 2⟩ =
        .ok (twoSeatsGame (everyHand INT_MAX .doubleBlinds []), t) ∧
      ¬ NoOverflow 0 (twoSeatsGame (everyHand INT_MAX .doubleBlinds [])) := by
  refine ⟨?_, ?_⟩
  · obtain ⟨_, h1⟩ := dealt_twoSeats (@Dealt.none (twoSeatsGame (everyHand 1 .manualBlindsOrder [5])))
    obtain ⟨_, h2⟩ := dealt_twoSeats (@Dealt.none { (twoSeatsGame (everyHand 1 .manualBlindsOrder [5])).countHand 0 with
      dealerPosition := _ })
    refine ⟨_, _, _, rfl, h1, h2, rfl, ?_⟩
    simp [countHand, raiseBlinds, setRaisedBlind, raisedBlind, twoSeatsGame, everyHand, maxBlind, INT_MAX]
  · refine ⟨_, rfl, fun hn => ?_⟩
    have hhands := (hn.hands rfl).2
    revert hhands
    decide

end Game

end PokerTH
