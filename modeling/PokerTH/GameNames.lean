import Mathlib.Data.List.DropRight
import PokerTH.ServerGame

namespace PokerTH.GameName

/-- `std::isspace` of the classic locale. -/
def isSpace (c : UInt8) : Bool := c == 32 || (9 ≤ c && c ≤ 13)

def isPrint (c : UInt8) : Bool := 32 ≤ c && c ≤ 126

def trim (s : List UInt8) : List UInt8 := (s.dropWhile isSpace).rdropWhile isSpace

/-- `boost::replace_all` of one character by a blank. -/
def replaceAll (c : UInt8) (s : List UInt8) : List UInt8 := s.map fun d => if d = c then 32 else d

def cleanName (gameName : List UInt8) : List UInt8 :=
  trim (replaceAll 12 (replaceAll 11 (replaceAll 9 (replaceAll 13 (replaceAll 10 (trim gameName))))))

def doubleBlank : List UInt8 → Bool
  | c :: d :: s => (c == 32 && d == 32) || doubleBlank (d :: s)
  | _ => false

def validGameName (gameName : List UInt8) : Bool :=
  !gameName.isEmpty && decide (gameName.length ≤ 64) && gameName.all isPrint && !doubleBlank gameName

/-- Words of visible characters, with one blank between two of them. -/
structure Spelled (words : List (List UInt8)) (s : List UInt8) : Prop where
  some : words ≠ []
  nonempty : ∀ w ∈ words, w ≠ []
  visible : ∀ w ∈ words, ∀ c ∈ w, 33 ≤ c ∧ c ≤ 126
  text : s = List.intercalate [32] words

variable {s : List UInt8} {c : UInt8} {words : List (List UInt8)}

theorem visible_of_print (hprint : isPrint c = true) (hne : c ≠ 32) : 33 ≤ c ∧ c ≤ 126 := by
  simp only [isPrint, Bool.and_eq_true, decide_eq_true_eq] at hprint
  refine ⟨?_, hprint.2⟩
  rw [UInt8.le_iff_toNat_le] at hprint ⊢
  have hval : c.toNat ≠ 32 := fun heq => hne (UInt8.toNat_inj.mp heq)
  have hlow := hprint.1
  simp only [UInt8.reduceToNat] at hlow ⊢
  omega

/-- The words of a text that does not end in a blank, after a blank at most. -/
theorem exists_words (hne : s ≠ []) (hprint : s.all isPrint = true) (hblank : doubleBlank s = false)
    (hlast : s.getLast? ≠ some 32) : ∃ words, Spelled words s ∨ ∃ s', s = 32 :: s' ∧ Spelled words s' := by
  induction s with
  | nil => exact absurd rfl hne
  | cons c s ih =>
      rw [List.all_cons, Bool.and_eq_true] at hprint
      cases s with
      | nil =>
          have hc : c ≠ 32 := by simpa using hlast
          refine ⟨[[c]], .inl ⟨by simp, by simp, ?_, by simp [List.intercalate]⟩⟩
          intro w hw d hd
          rw [List.mem_singleton] at hw
          rw [hw, List.mem_singleton] at hd
          rw [hd]
          exact visible_of_print hprint.1 hc
      | cons d s =>
          rw [doubleBlank, Bool.or_eq_false_iff] at hblank
          obtain ⟨words, hwords⟩ := ih (by simp) hprint.2 hblank.2 (by simpa [List.getLast?_cons_cons] using hlast)
          by_cases hc : c = 32
          · rcases hwords with hwords | ⟨s', heq, -⟩
            · exact ⟨words, .inr ⟨d :: s, by rw [hc], hwords⟩⟩
            · rw [List.cons.injEq] at heq
              simp [hc, heq.1] at hblank
          · have hvisible := visible_of_print hprint.1 hc
            rcases hwords with ⟨hsome, hnonempty, hall, htext⟩ | ⟨s', heq, hsome, hnonempty, hall, htext⟩
            · -- the character goes on with the first word
              cases words with
              | nil => exact absurd rfl hsome
              | cons w words =>
                  refine ⟨(c :: w) :: words, .inl ⟨by simp, ?_, ?_, ?_⟩⟩
                  · intro x hx
                    rcases List.mem_cons.mp hx with rfl | hx
                    · simp
                    · exact hnonempty x (List.mem_cons_of_mem _ hx)
                  · intro x hx e he
                    rcases List.mem_cons.mp hx with rfl | hx
                    · rcases List.mem_cons.mp he with rfl | he
                      · exact hvisible
                      · exact hall w (List.mem_cons_self ..) e he
                    · exact hall x (List.mem_cons_of_mem _ hx) e he
                  · rw [htext]
                    cases words with
                    | nil => simp [List.intercalate]
                    | cons x words => simp [List.intercalate]
            · -- and is a word of its own before a blank
              refine ⟨[c] :: words, .inl ⟨by simp, ?_, ?_, ?_⟩⟩
              · intro x hx
                rcases List.mem_cons.mp hx with rfl | hx
                · simp
                · exact hnonempty x hx
              · intro x hx e he
                rcases List.mem_cons.mp hx with rfl | hx
                · rw [List.mem_singleton] at he
                  rw [he]
                  exact hvisible
                · exact hall x hx e he
              · rw [heq, htext]
                cases words with
                | nil => exact absurd rfl hsome
                | cons x words => simp [List.intercalate]

theorem doubleBlank_cons (hc : c ≠ 32) : doubleBlank (c :: s) = doubleBlank s := by
  cases s with
  | nil => rfl
  | cons d s => simp [doubleBlank, hc]

theorem doubleBlank_word {w : List UInt8} (hw : ∀ c ∈ w, 33 ≤ c ∧ c ≤ 126) (s : List UInt8) :
    doubleBlank (w ++ s) = doubleBlank s := by
  induction w with
  | nil => rfl
  | cons c w ih =>
      have hc : c ≠ 32 := fun heq => absurd (hw c (List.mem_cons_self ..)).1 (by rw [heq]; decide)
      rw [List.cons_append, doubleBlank_cons hc]
      exact ih fun d hd => hw d (List.mem_cons_of_mem _ hd)

theorem print_of_visible (h : 33 ≤ c ∧ c ≤ 126) : isPrint c = true := by
  have hlow : (32 : UInt8) ≤ c := UInt8.le_trans (by decide) h.1
  simp [isPrint, hlow, h.2]

theorem Spelled.valid (h : Spelled words s) :
    s.isEmpty = false ∧ s.all isPrint = true ∧ doubleBlank s = false := by
  obtain ⟨hsome, hnonempty, hvisible, rfl⟩ := h
  induction words with
  | nil => exact absurd rfl hsome
  | cons w words ih =>
      have hw := hvisible w (List.mem_cons_self ..)
      have hprint : w.all isPrint = true := List.all_eq_true.mpr fun c hc => print_of_visible (hw c hc)
      have hwne := hnonempty w (List.mem_cons_self ..)
      cases words with
      | nil =>
          have htext : List.intercalate [32] [w] = w := by simp [List.intercalate]
          rw [htext]
          refine ⟨List.isEmpty_eq_false_iff.mpr hwne, hprint, ?_⟩
          have hdouble := doubleBlank_word hw []
          rwa [List.append_nil] at hdouble
      | cons x words =>
          obtain ⟨hempty, hall, hdouble⟩ := ih (by simp) (fun y hy => hnonempty y (List.mem_cons_of_mem _ hy))
            fun y hy => hvisible y (List.mem_cons_of_mem _ hy)
          have htext : List.intercalate [32] (w :: x :: words) = w ++ 32 :: List.intercalate [32] (x :: words) := by
            simp [List.intercalate]
          rw [htext]
          refine ⟨by simp, ?_, ?_⟩
          · rw [List.all_append, List.all_cons, hprint, hall]
            decide
          · rw [doubleBlank_word hw]
            cases x with
            | nil => exact absurd rfl (hnonempty [] (by simp))
            | cons d x =>
                have hd : d ≠ 32 := fun heq =>
                  absurd (hvisible (d :: x) (by simp) d (List.mem_cons_self ..)).1 (by rw [heq]; decide)
                have hnext : List.intercalate [32] ((d :: x) :: words) =
                    d :: (x ++ (List.intercalate [32] ((d :: x) :: words)).drop (x.length + 1)) := by
                  cases words with
                  | nil => simp [List.intercalate]
                  | cons y words => simp [List.intercalate]
                rw [hnext] at hdouble ⊢
                simp only [doubleBlank, hdouble, Bool.or_false, Bool.and_eq_false_iff, beq_eq_false_iff_ne]
                exact .inr hd

theorem trim_ends (s : List UInt8) : trim s = [] ∨
    (∃ c t, trim s = c :: t ∧ isSpace c = false) ∧ ∃ c t, trim s = t ++ [c] ∧ isSpace c = false := by
  by_cases hempty : trim s = []
  · exact .inl hempty
  · refine .inr ⟨?_, ?_⟩
    · cases hdrop : s.dropWhile isSpace with
      | nil =>
          rw [trim, hdrop] at hempty
          exact absurd rfl hempty
      | cons c t =>
          have hc : isSpace c = false := by
            have hhead := List.head_dropWhile_not isSpace (l := s) (by rw [hdrop]; simp)
            simpa [hdrop] using hhead
          obtain ⟨u, hu⟩ := List.rdropWhile_prefix isSpace (l := c :: t)
          rw [trim, hdrop] at hempty ⊢
          cases hr : (c :: t).rdropWhile isSpace with
          | nil => exact absurd hr hempty
          | cons d v =>
              rw [hr, List.cons_append, List.cons.injEq] at hu
              exact ⟨d, v, rfl, hu.1 ▸ hc⟩
    · refine ⟨(trim s).getLast hempty, (trim s).dropLast, (List.dropLast_append_getLast hempty).symm, ?_⟩
      have hlast := List.rdropWhile_last_not isSpace (s.dropWhile isSpace) hempty
      simpa [trim] using hlast

theorem trim_of_ends {d : UInt8} {t u : List UInt8} (hfirst : s = c :: t) (hc : isSpace c = false)
    (hlast : s = u ++ [d]) (hd : isSpace d = false) : trim s = s := by
  have hdrop : s.dropWhile isSpace = s := by
    rw [hfirst, List.dropWhile_cons_of_neg (by simp [hc])]
  rw [trim, hdrop, hlast, List.rdropWhile_concat_neg _ _ _ (by simp [hd])]

theorem trim_trim (s : List UInt8) : trim (trim s) = trim s := by
  rcases trim_ends s with hempty | ⟨⟨c, t, hfirst, hc⟩, d, u, hlast, hd⟩
  · rw [hempty]
    rfl
  · exact trim_of_ends hfirst hc hlast hd

theorem mem_of_mem_trim (h : c ∈ trim s) : c ∈ s :=
  (List.dropWhile_sublist _).subset ((List.rdropWhile_prefix isSpace _).subset h)

theorem replaceAll_of_not_mem {d : UInt8} (h : d ∉ s) : replaceAll d s = s := by
  rw [replaceAll]
  refine (List.map_congr_left fun c hc => ?_).trans (List.map_id s)
  have hne : c ≠ d := fun heq => h (heq ▸ hc)
  rw [if_neg hne, id]

theorem not_mem_replaceAll {d : UInt8} (hd : d ≠ 32) : d ∉ replaceAll d s := by
  rw [replaceAll, List.mem_map]
  rintro ⟨c, -, hc⟩
  split_ifs at hc with heq
  · exact hd hc.symm
  · exact heq hc

theorem mem_replaceAll_of_ne {d e : UInt8} (he : e ≠ 32) (h : e ∈ replaceAll d s) : e ∈ s := by
  rw [replaceAll, List.mem_map] at h
  obtain ⟨c, hc, heq⟩ := h
  split_ifs at heq
  · exact absurd heq.symm he
  · exact heq ▸ hc

theorem not_mem_cleanName (gameName : List UInt8) :
    10 ∉ cleanName gameName ∧ 13 ∉ cleanName gameName ∧ 9 ∉ cleanName gameName ∧ 11 ∉ cleanName gameName ∧
      12 ∉ cleanName gameName := by
  refine ⟨fun h => ?_, fun h => ?_, fun h => ?_, fun h => ?_, fun h => ?_⟩
  all_goals have h := mem_of_mem_trim h
  · refine not_mem_replaceAll (by decide) (mem_replaceAll_of_ne (by decide) (mem_replaceAll_of_ne (by decide)
      (mem_replaceAll_of_ne (by decide) (mem_replaceAll_of_ne (by decide) h))))
  · exact not_mem_replaceAll (by decide) (mem_replaceAll_of_ne (by decide) (mem_replaceAll_of_ne (by decide)
      (mem_replaceAll_of_ne (by decide) h)))
  · exact not_mem_replaceAll (by decide) (mem_replaceAll_of_ne (by decide) (mem_replaceAll_of_ne (by decide) h))
  · exact not_mem_replaceAll (by decide) (mem_replaceAll_of_ne (by decide) h)
  · exact not_mem_replaceAll (by decide) h

theorem cleanName_cleanName (gameName : List UInt8) : cleanName (cleanName gameName) = cleanName gameName := by
  obtain ⟨h10, h13, h9, h11, h12⟩ := not_mem_cleanName gameName
  have htrim : trim (cleanName gameName) = cleanName gameName := trim_trim _
  rw [cleanName, htrim, replaceAll_of_not_mem h10, replaceAll_of_not_mem h13, replaceAll_of_not_mem h9,
    replaceAll_of_not_mem h11, replaceAll_of_not_mem h12, htrim]

theorem cleanName_ends (gameName : List UInt8) (hne : cleanName gameName ≠ []) :
    (∃ c t, cleanName gameName = c :: t ∧ isSpace c = false) ∧
      ∃ c t, cleanName gameName = t ++ [c] ∧ isSpace c = false :=
  (trim_ends _).resolve_left hne

theorem exists_spelled {gameName : List UInt8} (hvalid : validGameName (cleanName gameName) = true) :
    (cleanName gameName).length ≤ 64 ∧ ∃ words, Spelled words (cleanName gameName) := by
  simp only [validGameName, Bool.and_eq_true, Bool.not_eq_true', decide_eq_true_eq] at hvalid
  obtain ⟨⟨⟨hempty, hlength⟩, hprint⟩, hblank⟩ := hvalid
  refine ⟨hlength, ?_⟩
  have hne := List.isEmpty_eq_false_iff.mp hempty
  obtain ⟨⟨c, t, hfirst, hc⟩, d, u, hlast, hd⟩ := cleanName_ends gameName hne
  have hend : (cleanName gameName).getLast? ≠ some 32 := by
    rw [hlast, List.getLast?_concat]
    intro heq
    rw [Option.some.inj heq] at hd
    exact absurd hd (by decide)
  obtain ⟨words, hwords | ⟨s', hblankFirst, -⟩⟩ := exists_words hne hprint hblank hend
  · exact ⟨words, hwords⟩
  · rw [hfirst, List.cons.injEq] at hblankFirst
    rw [hblankFirst.1] at hc
    exact absurd hc (by decide)

/-- A cleaned name is clean, and it is accepted if it consists of visible words with single blanks between them, and is
not too long. -/
theorem cleanName_spec (gameName : List UInt8) : cleanName (cleanName gameName) = cleanName gameName ∧
    (validGameName (cleanName gameName) = true ↔
      (cleanName gameName).length ≤ 64 ∧ ∃ words, Spelled words (cleanName gameName)) := by
  refine ⟨cleanName_cleanName gameName, exists_spelled, ?_⟩
  rintro ⟨hlength, words, hwords⟩
  obtain ⟨hempty, hprint, hblank⟩ := hwords.valid
  simp [validGameName, hempty, hlength, hprint, hblank]

end PokerTH.GameName
