import Mathlib.Logic.Relation
import Mathlib.Tactic.SplitIfs

namespace PokerTH.Runs

open Relation

variable {σ : Type} {Step : σ → σ → Prop}

/-- What holds at the start and is kept by every step holds in every state reached. -/
theorem invariant {Inv : σ → Prop} {s t : σ} (h0 : Inv s) (hstep : ∀ s t, Inv s → Step s t → Inv t)
    (hrun : ReflTransGen Step s t) : Inv t := by
  induction hrun with
  | refl => exact h0
  | tail _ hlast ih => exact hstep _ _ ih hlast

section

variable {ε : Type} {fire : σ → ε → Option σ} {allowed : σ → ε → Prop} {s₀ s s' : σ} {e : ε} {hist : List (σ × ε)}

/-- The runs on allowed inputs, each with the states in which its inputs came. -/
inductive Trace (fire : σ → ε → Option σ) (allowed : σ → ε → Prop) (s₀ : σ) : List (σ × ε) → σ → Prop
  | start : Trace fire allowed s₀ [] s₀
  | step {hist : List (σ × ε)} {s s' : σ} {e : ε} (hrun : Trace fire allowed s₀ hist s)
      (hfire : fire s e = some s') (hallowed : allowed s e) : Trace fire allowed s₀ (hist ++ [(s, e)]) s'

theorem Trace.invariant {Inv : List (σ × ε) → σ → Prop} (h0 : Inv [] s₀)
    (hstep : ∀ hist s e s', Inv hist s → fire s e = some s' → allowed s e → Inv (hist ++ [(s, e)]) s')
    (hrun : Trace fire allowed s₀ hist s) : Inv hist s := by
  induction hrun with
  | start => exact h0
  | step _ hfire hallowed ih => exact hstep _ _ _ _ ih hfire hallowed

def play (fire : σ → ε → Option σ) (check : σ → ε → Bool) : σ → List ε → Option σ
  | s, [] => some s
  | s, e :: es => if check s e then (fire s e).bind fun s' => play fire check s' es else none

theorem reachable_of_play {check : σ → ε → Bool} {es : List ε}
    (hstep : ∀ s e s', check s e = true → fire s e = some s' → Step s s') (hplay : play fire check s es = some s') :
    ReflTransGen Step s s' := by
  induction es generalizing s with
  | nil =>
      cases hplay
      exact .refl
  | cons e es ih =>
      simp only [Runs.play] at hplay
      split_ifs at hplay with hc
      obtain ⟨t, hfire, hrest⟩ := Option.bind_eq_some_iff.mp hplay
      exact .head (hstep s e t hc hfire) (ih hrest)

/-- An invariant may help to see that the steps of a run that is played out are allowed. -/
theorem Trace.play {check : σ → ε → Bool} {Inv : σ → Prop}
    (hinv : ∀ s e s', Inv s → allowed s e → fire s e = some s' → Inv s')
    (hcheck : ∀ s e, Inv s → check s e = true → allowed s e) (hs : Inv s) (hrun : Trace fire allowed s₀ hist s)
    {es : List ε} (hplay : play fire check s es = some s') : ∃ hist', Trace fire allowed s₀ hist' s' := by
  induction es generalizing s hist with
  | nil =>
      cases hplay
      exact ⟨hist, hrun⟩
  | cons e es ih =>
      simp only [Runs.play] at hplay
      split_ifs at hplay with hc
      obtain ⟨t, hfire, hrest⟩ := Option.bind_eq_some_iff.mp hplay
      have hallowed := hcheck s e hs hc
      exact ih (hinv s e t hs hallowed hfire) (hrun.step hfire hallowed) hrest

theorem exists_trace_of_inv (fire : σ → ε → Option σ) (allowed : σ → ε → Prop) (check : σ → ε → Bool) (s₀ : σ)
    (es : List ε) (test : σ → Bool) (hplay : (play fire check s₀ es).any test = true) (Inv : σ → Prop) (h0 : Inv s₀)
    (hinv : ∀ s e s', Inv s → allowed s e → fire s e = some s' → Inv s')
    (hcheck : ∀ s e, Inv s → check s e = true → allowed s e) : ∃ hist s, Trace fire allowed s₀ hist s ∧ test s = true := by
  cases hs : play fire check s₀ es with
  | none =>
      rw [hs] at hplay
      cases hplay
  | some s =>
      obtain ⟨hist, hrun⟩ := Trace.start.play hinv hcheck h0 hs
      rw [hs] at hplay
      exact ⟨hist, s, hrun, hplay⟩

theorem exists_trace (fire : σ → ε → Option σ) (allowed : σ → ε → Prop) (check : σ → ε → Bool) (s₀ : σ)
    (es : List ε) (test : σ → Bool) (hplay : (play fire check s₀ es).any test = true)
    (hcheck : ∀ s e, check s e = true → allowed s e) : ∃ hist s, Trace fire allowed s₀ hist s ∧ test s = true :=
  exists_trace_of_inv fire allowed check s₀ es test hplay (fun _ => True) trivial (fun _ _ _ _ _ _ => trivial)
    fun s e _ => hcheck s e

end

section

variable {ν : Type} {Noted : σ → List ν → σ → Prop} {s₀ s s' : σ} {hist : List ν}

/-- The runs whose steps leave notes. -/
inductive History (Noted : σ → List ν → σ → Prop) (s₀ : σ) : List ν → σ → Prop
  | start : History Noted s₀ [] s₀
  | step {hist notes : List ν} {s s' : σ} (hrun : History Noted s₀ hist s) (hstep : Noted s notes s') :
      History Noted s₀ (hist ++ notes) s'

theorem History.invariant {Inv : List ν → σ → Prop} (h0 : Inv [] s₀)
    (hstep : ∀ hist notes s s', Inv hist s → Noted s notes s' → Inv (hist ++ notes) s')
    (hrun : History Noted s₀ hist s) : Inv hist s := by
  induction hrun with
  | start => exact h0
  | step _ hlast ih => exact hstep _ _ _ _ ih hlast

theorem History.reachable (hnoted : ∀ s notes s', Noted s notes s' → Step s s') (hrun : History Noted s₀ hist s) :
    ReflTransGen Step s₀ s := by
  induction hrun with
  | start => exact .refl
  | step _ hlast ih => exact ih.tail (hnoted _ _ _ hlast)

theorem exists_history (hnoted : ∀ s s', Step s s' → ∃ notes, Noted s notes s') (hrun : ReflTransGen Step s₀ s) :
    ∃ hist, History Noted s₀ hist s := by
  induction hrun with
  | refl => exact ⟨[], .start⟩
  | tail _ hlast ih =>
      obtain ⟨hist, hh⟩ := ih
      obtain ⟨notes, hn⟩ := hnoted _ _ hlast
      exact ⟨hist ++ notes, .step hh hn⟩

def Each (P : List ν → ν → Prop) (hist : List ν) : Prop :=
  ∀ before note after, hist = before ++ note :: after → P before note

theorem Each.nil {P : List ν → ν → Prop} : Each P [] := by
  intro before note after h
  cases before <;> cases h

theorem Each.left {P : List ν → ν → Prop} {hist rest : List ν} (hall : Each P (hist ++ rest)) : Each P hist := by
  intro before note after h
  apply hall before note (after ++ rest)
  rw [h, List.append_assoc, List.cons_append]

theorem Each.snoc {P : List ν → ν → Prop} {note : ν} (hhist : Each P hist) (hnote : P hist note) :
    Each P (hist ++ [note]) := by
  intro before n after h
  rcases List.eq_nil_or_concat after with rfl | ⟨after, last, rfl⟩
  · obtain ⟨rfl, hn⟩ := List.append_inj' h rfl
    cases hn
    exact hnote
  · apply hhist before n after
    rw [List.concat_eq_append, ← List.cons_append, ← List.append_assoc] at h
    exact (List.append_inj' h rfl).1

end

section

variable {α ν : Type} {Says : α → ν → α → Prop} {a b c : α} {n : ν} {ns before : List ν}

/-- Notes one after the other, each of them about the step from one state to the next. -/
inductive Told (Says : α → ν → α → Prop) : α → List ν → α → Prop
  | nil {a : α} : Told Says a [] a
  | cons {a b c : α} {n : ν} {ns : List ν} (htold : Says a n b) (hrest : Told Says b ns c) : Told Says a (n :: ns) c

theorem Told.single (htold : Says a n b) : Told Says a [n] b := .cons htold .nil

variable {Follows : List ν → α → Prop} {P Q : List ν → ν → Prop}

/-- Who follows each note, as long as the notes are as `Q` says, follows all of them. -/
theorem Told.each (htold : Told Says a ns b)
    (hstep : ∀ before a n b, Follows before a → Says a n b → Q before n → Follows (before ++ [n]) b ∧ P before n)
    (hf : Follows before a) (hP : Each P before) (hQ : Each Q (before ++ ns)) :
    Follows (before ++ ns) b ∧ Each P (before ++ ns) := by
  induction htold generalizing before with
  | nil =>
      rw [List.append_nil]
      exact ⟨hf, hP⟩
  | @cons a b c n ns htold _ ih =>
      obtain ⟨hnext, hnote⟩ := hstep before a n b hf htold (hQ before n ns rfl)
      rw [List.append_cons] at hQ ⊢
      exact ih hnext (hP.snoc hnote) hQ

/-- The same over the history of a run. `View` is what the notes tell of a state. -/
theorem History.each {σ : Type} {Noted : σ → List ν → σ → Prop} {s₀ s : σ} {hist : List ν}
    (hrun : History Noted s₀ hist s) (View : σ → α → Prop)
    (hstep : ∀ before a n b, Follows before a → Says a n b → Q before n → Follows (before ++ [n]) b ∧ P before n)
    (hnoted : ∀ s a notes s', View s a → Noted s notes s' → ∃ b, View s' b ∧ Told Says a notes b)
    (hview : View s₀ a) (hf : Follows before a) (hP : Each P before) (hQ : Each Q (before ++ hist)) :
    ∃ b, View s b ∧ Follows (before ++ hist) b ∧ Each P (before ++ hist) := by
  induction hrun with
  | start =>
      rw [List.append_nil]
      exact ⟨a, hview, hf, hP⟩
  | @step hist notes s s' _ hlast ih =>
      rw [← List.append_assoc] at hQ ⊢
      obtain ⟨b, hb, hfollows, hall⟩ := ih hQ.left
      obtain ⟨c, hc, htold⟩ := hnoted s b notes s' hb hlast
      exact ⟨c, hc, htold.each hstep hfollows hall hQ⟩

end

end PokerTH.Runs
