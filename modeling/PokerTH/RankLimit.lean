import PokerTH.GameMap

namespace PokerTH

namespace RankLimit

def MAX_LAST_GAMES : Nat := 100

def addPlayerLastGame (lastGames : List Int) (lastGame : Int) : List Int :=
  if MAX_LAST_GAMES < (lastGames ++ [lastGame]).length then
    (lastGames ++ [lastGame]).drop ((lastGames ++ [lastGame]).length - MAX_LAST_GAMES)
  else lastGames ++ [lastGame]

/-- The list of a player whose games have started at these times, from the list that the database had of him. -/
def started (lastGames times : List Int) : List Int := times.foldl addPlayerLastGame lastGames

variable {lastGames times l : List Int}

theorem started_drop (lastGames times : List Int) : ∃ k, started lastGames times = (lastGames ++ times).drop k ∧
    (k = 0 ∨ MAX_LAST_GAMES ≤ (started lastGames times).length) := by
  induction times using List.reverseRecOn with
  | nil => exact ⟨0, by simp [started], .inl rfl⟩
  | append_singleton times t ih =>
      obtain ⟨k, hdrop, hfull⟩ := ih
      have hk : k ≤ (lastGames ++ times).length := by
        rcases hfull with rfl | hfull
        · exact Nat.zero_le _
        · rw [hdrop, List.length_drop, MAX_LAST_GAMES] at hfull
          omega
      have hnext : started lastGames (times ++ [t]) = addPlayerLastGame (started lastGames times) t := by
        simp [started]
      have happend : started lastGames times ++ [t] = (lastGames ++ (times ++ [t])).drop k := by
        rw [hdrop, ← List.append_assoc, List.drop_append_of_le_length hk]
      rw [hnext, addPlayerLastGame, happend]
      split_ifs with hlong
      · refine ⟨k + (((lastGames ++ (times ++ [t])).drop k).length - MAX_LAST_GAMES), List.drop_drop .., .inr ?_⟩
        rw [List.length_drop]
        omega
      · refine ⟨k, rfl, hfull.imp_right fun hfull => ?_⟩
        rw [← happend, List.length_append]
        omega

theorem countP_late (hsorted : l.Pairwise (· ≤ ·)) (begins : Int) (k : Nat) :
    l.countP (fun ts => decide (begins < ts)) = (l.drop k).countP (fun ts => decide (begins < ts)) ∨
      (l.drop k).countP (fun ts => decide (begins < ts)) = (l.drop k).length := by
  by_cases hold : ∀ x ∈ l.take k, ¬begins < x
  · left
    have hzero : (l.take k).countP (fun ts => decide (begins < ts)) = 0 := by
      rw [List.countP_eq_zero]
      intro x hx
      simpa using hold x hx
    conv_lhs => rw [← List.take_append_drop k l, List.countP_append, hzero, Nat.zero_add]
  · right
    obtain ⟨x, hx, hlt⟩ : ∃ x ∈ l.take k, begins < x := by simpa using hold
    rw [List.countP_eq_length]
    intro y hy
    rw [← List.take_append_drop k l, List.pairwise_append] at hsorted
    have hle := hsorted.2.2 x hx y hy
    simp only [decide_eq_true_eq]
    omega

/-- The list that is cut to its last games decides as all games of the player would, for a limit of at most as many;
with a greater limit a player with a cut list is never refused. -/
theorem allowed_iff {maxGames periodMinutes now : Int} (hsorted : (lastGames ++ times).Pairwise (· ≤ ·)) :
    (maxGames ≤ MAX_LAST_GAMES →
      (isPlayerAllowedToJoinCreateLimitRank (some (maxGames, periodMinutes)) now (started lastGames times) = true ↔
        ((lastGames ++ times).countP fun ts => decide (now - periodMinutes * 60 < ts) : Int) < maxGames)) ∧
      ((started lastGames times).length ≤ MAX_LAST_GAMES → (MAX_LAST_GAMES : Int) < maxGames →
        isPlayerAllowedToJoinCreateLimitRank (some (maxGames, periodMinutes)) now
          (started lastGames times) = true) := by
  obtain ⟨k, hdrop, hfull⟩ := started_drop lastGames times
  simp only [isPlayerAllowedToJoinCreateLimitRank, decide_eq_true_eq]
  refine ⟨fun hlimit => ?_, fun hshort hlimit => ?_⟩
  · rcases countP_late hsorted (now - periodMinutes * 60) k with hsame | hall
    · rw [hdrop, hsame]
    · have hle := List.Sublist.countP_le (p := fun ts => decide (now - periodMinutes * 60 < ts))
        (List.drop_sublist k (lastGames ++ times))
      rcases hfull with rfl | hfull
      · rw [hdrop, List.drop_zero]
      · rw [hdrop] at hfull ⊢
        omega
  · have hle := List.countP_le_length (p := fun ts => decide (now - periodMinutes * 60 < ts))
      (l := started lastGames times)
    omega

/-- The list of 120 games is cut to 100, all of which were in the last hour. -/
theorem allowed_iff_evening : (started (List.replicate 60 4000) (List.replicate 60 4500)).length = 100 ∧
    isPlayerAllowedToJoinCreateLimitRank (some (100, 60)) 5000
      (started (List.replicate 60 4000) (List.replicate 60 4500)) = false := by
  have hsorted : (List.replicate 60 4000 ++ List.replicate 60 4500 : List Int).Pairwise (· ≤ ·) := by decide +kernel
  refine ⟨by decide +kernel, ?_⟩
  rw [← Bool.not_eq_true, (allowed_iff hsorted).1 (by decide)]
  decide +kernel

end RankLimit

end PokerTH
