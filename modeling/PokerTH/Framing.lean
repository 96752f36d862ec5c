import Mathlib.Data.List.Basic

namespace PokerTH

/-- How a byte stream is cut into frames: `next` reads the frame a stream starts with. What it reads
does not depend on the bytes behind the frame, and nothing is read behind a `final` frame. -/
structure Framing (β φ : Type) where
  next : List β → Option (φ × List β)
  final : φ → Bool
  shorter : ∀ {s f rest}, next s = some (f, rest) → rest.length < s.length
  next_append : ∀ {s f rest} (t : List β), next s = some (f, rest) → next (s ++ t) = some (f, rest ++ t)

namespace Framing

variable {β φ : Type} (F : Framing β φ) {f : φ} {s t rest : List β}

def split (s : List β) : List φ × List β :=
  match _hs : F.next s with
  | none => ([], s)
  | some (f, rest) =>
      if F.final f then ([f], rest)
      else ((f :: (split rest).1), (split rest).2)
termination_by s.length
decreasing_by all_goals exact F.shorter _hs

def frames (s : List β) : List φ := (F.split s).1

def pending (s : List β) : List β := (F.split s).2

def Ended (s : List β) : Prop := ∃ f ∈ F.frames s, F.final f = true

theorem frames_of_none (hs : F.next s = none) : F.frames s = [] := by
  rw [frames, split]
  split
  · rfl
  · next he => rw [hs] at he; cases he

theorem pending_of_none (hs : F.next s = none) : F.pending s = s := by
  rw [pending, split]
  split
  · rfl
  · next he => rw [hs] at he; cases he

theorem frames_of_final (hs : F.next s = some (f, rest)) (hf : F.final f = true) : F.frames s = [f] := by
  rw [frames, split]
  split
  · next he => rw [hs] at he; cases he
  · next he =>
      rw [hs] at he
      cases he
      rw [if_pos hf]

theorem frames_of_next (hs : F.next s = some (f, rest)) (hf : F.final f = false) :
    F.frames s = f :: F.frames rest := by
  rw [frames, split]
  split
  · next he => rw [hs] at he; cases he
  · next he =>
      rw [hs] at he
      cases he
      rw [if_neg (by simp [hf]), frames]

theorem pending_of_next (hs : F.next s = some (f, rest)) (hf : F.final f = false) :
    F.pending s = F.pending rest := by
  rw [pending, split]
  split
  · next he => rw [hs] at he; cases he
  · next he =>
      rw [hs] at he
      cases he
      rw [if_neg (by simp [hf]), pending]

theorem frames_induction {P : List β → Prop} (hnone : ∀ s, F.next s = none → P s)
    (hfinal : ∀ s f rest, F.next s = some (f, rest) → F.final f = true → P s)
    (hnext : ∀ s f rest, F.next s = some (f, rest) → F.final f = false → P rest → P s) (s : List β) : P s := by
  cases hs : F.next s with
  | none => exact hnone s hs
  | some p =>
      obtain ⟨f, rest⟩ := p
      cases hf : F.final f with
      | true => exact hfinal s f rest hs hf
      | false => exact hnext s f rest hs hf (frames_induction hnone hfinal hnext rest)
termination_by s.length
decreasing_by exact F.shorter hs

theorem frames_append_ended (he : F.Ended s) (t : List β) : F.frames (s ++ t) = F.frames s := by
  induction s using F.frames_induction with
  | hnone s hs =>
      obtain ⟨f, hf, _⟩ := he
      rw [F.frames_of_none hs] at hf
      cases hf
  | hfinal s f rest hs hf => rw [F.frames_of_final hs hf, F.frames_of_final (F.next_append t hs) hf]
  | hnext s f rest hs hf ih =>
      rw [F.frames_of_next hs hf, F.frames_of_next (F.next_append t hs) hf, ih]
      obtain ⟨g, hg, hend⟩ := he
      rw [F.frames_of_next hs hf, List.mem_cons] at hg
      rcases hg with rfl | hg
      · rw [hf] at hend
        cases hend
      · exact ⟨g, hg, hend⟩

theorem not_ended_rest (hs : F.next s = some (f, rest)) (hf : F.final f = false) (he : ¬ F.Ended s) :
    ¬ F.Ended rest := by
  rintro ⟨g, hg, hend⟩
  exact he ⟨g, by rw [F.frames_of_next hs hf]; exact List.mem_cons_of_mem f hg, hend⟩

theorem not_final (hs : F.next s = some (f, rest)) (he : ¬ F.Ended s) : F.final f = false := by
  cases hf : F.final f with
  | false => rfl
  | true => exact absurd ⟨f, by simp [F.frames_of_final hs hf], hf⟩ he

theorem frames_append (he : ¬ F.Ended s) (t : List β) :
    F.frames (s ++ t) = F.frames s ++ F.frames (F.pending s ++ t) := by
  induction s using F.frames_induction with
  | hnone s hs => rw [F.frames_of_none hs, F.pending_of_none hs, List.nil_append]
  | hfinal s f rest hs hf => exact absurd (F.not_final hs he) (by simp [hf])
  | hnext s f rest hs hf ih =>
      rw [F.frames_of_next hs hf, F.frames_of_next (F.next_append t hs) hf, F.pending_of_next hs hf,
        ih (F.not_ended_rest hs hf he), List.cons_append]

theorem frames_extend (s t : List β) : F.frames s <+: F.frames (s ++ t) := by
  by_cases he : F.Ended s
  · exact ⟨[], by rw [List.append_nil, F.frames_append_ended he]⟩
  · rw [F.frames_append he]
    exact List.prefix_append _ _

theorem pending_append (he : ¬ F.Ended s) (t : List β) : F.pending (s ++ t) = F.pending (F.pending s ++ t) := by
  induction s using F.frames_induction with
  | hnone s hs => rw [F.pending_of_none hs]
  | hfinal s f rest hs hf => exact absurd (F.not_final hs he) (by simp [hf])
  | hnext s f rest hs hf ih =>
      rw [F.pending_of_next hs hf, F.pending_of_next (F.next_append t hs) hf, ih (F.not_ended_rest hs hf he)]

theorem next_pending (he : ¬ F.Ended s) : F.next (F.pending s) = none := by
  induction s using F.frames_induction with
  | hnone s hs => rwa [F.pending_of_none hs]
  | hfinal s f rest hs hf => exact absurd (F.not_final hs he) (by simp [hf])
  | hnext s f rest hs hf ih =>
      rw [F.pending_of_next hs hf]
      exact ih (F.not_ended_rest hs hf he)

theorem next_none_iff (s : List β) : F.next s = none ↔ F.frames s = [] := by
  constructor
  · exact F.frames_of_none
  · intro he
    cases hs : F.next s with
    | none => rfl
    | some p =>
        obtain ⟨f, rest⟩ := p
        cases hf : F.final f with
        | true => simp [F.frames_of_final hs hf] at he
        | false => simp [F.frames_of_next hs hf] at he

end Framing

section

variable {β φ : Type} (header max : Nat) (size : List β → Nat) (bad : φ) (body : List β → φ)

/-- Frames whose header gives the length of their body. A length of nothing or of too much is a `bad` frame. -/
def prefixed (s : List β) : Option (φ × List β) :=
  if s.length < header then none
  else
    let n := size (s.take header)
    if n = 0 ∨ n > max then some (bad, s.drop header)
    else if s.length < n + header then none
    else some (body ((s.drop header).take n), s.drop (n + header))

variable {header max size bad body} {s rest : List β} {f : φ}

theorem prefixed_append (t : List β) (hs : prefixed header max size bad body s = some (f, rest)) :
    prefixed header max size bad body (s ++ t) = some (f, rest ++ t) := by
  simp only [prefixed] at hs ⊢
  split_ifs at hs with hheader hsize hbody
  · cases hs
    rw [Nat.not_lt] at hheader
    rw [if_neg (by simp; omega), List.take_append_of_le_length hheader, if_pos hsize,
      List.drop_append_of_le_length hheader]
  · cases hs
    rw [Nat.not_lt] at hheader hbody
    rw [if_neg (by simp; omega), List.take_append_of_le_length hheader, if_neg hsize, if_neg (by simp; omega),
      List.drop_append_of_le_length hheader, List.drop_append_of_le_length hbody,
      List.take_append_of_le_length (by simp; omega)]

theorem prefixed_shorter (hpos : 0 < header) (hs : prefixed header max size bad body s = some (f, rest)) :
    rest.length < s.length := by
  simp only [prefixed] at hs
  split_ifs at hs
  · cases hs
    simp only [List.length_drop]
    omega
  · cases hs
    simp only [List.length_drop]
    omega

theorem length_of_prefixed_none (hmax : 0 < max) (hs : prefixed header max size bad body s = none) :
    s.length < max + header := by
  simp only [prefixed] at hs
  split_ifs at hs <;> omega

end

end PokerTH
