import PokerTH.HandCodes

namespace PokerTH.CardsValue

variable {x y : String} {v w d : Int} {c : String} {cs cs' : List String} {levels : List (Int × String)}
  {shown : List Int} {k f s t u r s' t' u' r' : Nat} {activePlayerList : List Player}

def others (v : Int) (activePlayerList : List Player) : List Int :=
  ((activePlayerList.filter fun p => p.myAction ≠ .fold).map Player.myCardsValueInt).erase v

theorem named_eq_some (hx : named v shown cs k d levels = some x) : ∃ rest, x = String.join (cs.take k) ++ rest ∧
    kickers v levels (shown.filter fun x => x.tdiv d = v.tdiv d) (cs.drop k) = some rest := by
  obtain ⟨title, htitle, hx⟩ := Option.bind_eq_some_iff.mp hx
  obtain ⟨rest, hrest, hx⟩ := Option.bind_eq_some_iff.mp hx
  rw [titled] at htitle
  split_ifs at htitle
  obtain rfl := Option.some.inj htitle
  exact ⟨rest, (Option.some.inj hx).symm, hrest⟩

theorem named_nil : named v shown cs k d [] = titled k cs := by
  rw [named, titled]
  split_ifs
  · simp [kickers]
  · rfl

theorem named_some (hlength : k + levels.length ≤ cs.length) (hcs : ∀ c ∈ cs, Plain c)
    (hwords : ∀ level ∈ levels, Plain level.2) : ∃ x, named v shown cs k d levels = some x ∧ Plain x := by
  have hdrop : levels.length ≤ (cs.drop k).length := by
    rw [List.length_drop]
    omega
  obtain ⟨rest, hrest, hplain⟩ := @kickers_some v (cs.drop k) levels (shown.filter fun x => x.tdiv d = v.tdiv d) hdrop
    (fun s hs => hcs s (List.mem_of_mem_drop hs)) hwords
  refine ⟨String.join (cs.take k) ++ rest, ?_, (Plain.join fun s hs => hcs s (List.mem_of_mem_take hs)).append hplain⟩
  rw [named, titled, if_pos (by omega), hrest]
  rfl

theorem named_cons (hx : named v shown (c :: cs) (k + 1) d levels = some x) : ∃ y, x = c ++ y := by
  obtain ⟨rest, rfl, -⟩ := named_eq_some hx
  exact ⟨String.join (cs.take k) ++ rest, by rw [List.take_succ_cons, String.join_cons, String.append_assoc]⟩

/-- Two hands of a kind, shown to each other: their names differ in front of the kickers, or a kicker tells. -/
theorem named_ne (hv : v ∈ others w activePlayerList) (hw : w ∈ others v activePlayerList)
    (hsame : v.tdiv d = w.tdiv d → cs.take k = cs'.take k ∧ Told v w levels (cs.drop k) (cs'.drop k))
    (hne : v.tdiv d ≠ w.tdiv d → Apart (String.join (cs.take k)) (String.join (cs'.take k)))
    (hx : named v (others v activePlayerList) cs k d levels = some x)
    (hy : named w (others w activePlayerList) cs' k d levels = some y) : x ≠ y := by
  obtain ⟨rest, rfl, hrest⟩ := named_eq_some hx
  obtain ⟨rest', rfl, hrest'⟩ := named_eq_some hy
  by_cases hd : v.tdiv d = w.tdiv d
  · obtain ⟨htitle, htold⟩ := hsame hd
    have hkickers : rest ≠ rest' := by
      refine kickers_ne htold ?_ ?_ (fun z hzv hzw => ?_) hrest hrest'
      · simpa [hd] using hw
      · simpa [hd] using hv
      · simp only [List.mem_filter, hd, others, List.mem_erase_of_ne hzv, List.mem_erase_of_ne hzw]
    rw [htitle]
    exact fun heq => hkickers (String.append_right_inj _ |>.mp heq)
  · exact ((hne hd).append rest rest').ne

/-- What is named of a hand of the kind `f`: the strings in front of the kickers, the part of the code that they
stand for, and the kickers. -/
def layout : Nat → Nat × Int × List (Int × String)
  | 9 => (1, 100000000, [])
  | 8 => (2, 1000000, [])
  | 7 => (2, 1000000, [(10000, ", fifth card ")])
  | 6 => (3, 10000, [])
  | 5 => (2, 1000000,
      [(10000, ", second card "), (100, ", third card "), (10, ", fourth card "), (1, ", fifth card ")])
  | 4 => (2, 1000000, [])
  | 3 => (2, 1000000, [(10000, ", fourth card "), (100, ", fifth card ")])
  | 2 => (3, 10000, [(100, ", fifth card ")])
  | 1 => (2, 1000000, [(10000, ", third card "), (100, ", fourth card "), (1, ", fifth card ")])
  | _ => (2, 1000000,
      [(10000, ", second card "), (100, ", third card "), (10, ", fourth card "), (1, ", fifth card ")])

def strings (f s t u r : Nat) : List String := cardString f s t u r (r / 10 : Nat) (r % 10 : Nat)

theorem translate_code (h : Small s t u r) : translateCardsValueCode (code f s t u r) = strings f s t u r := by
  simp only [translateCardsValueCode, strings, code_tdiv_kind h, code_tdiv_first h, code_tdiv_second h,
    code_tdiv_third h, code_tdiv_fourth h]
  rw [code_cast]
  congr 1 <;> omega

theorem determineHandName_code (h : Coded f s t u r) :
    determineHandName (code f s t u r) activePlayerList = named (code f s t u r)
      (others (code f s t u r) activePlayerList) (strings f s t u r) (layout f).1 (layout f).2.1 (layout f).2.2 := by
  simp only [determineHandName, translate_code h.small, code_tdiv_kind h.small]
  cases h with
  | royalFlush =>
      rw [layout, named_nil]
      rfl
  | straightFlush =>
      rw [layout, named_nil]
      rfl
  | fourOfAKind => rfl
  | fullHouse =>
      rw [layout, named_nil]
      rfl
  | flush => rfl
  | straight =>
      rw [layout, named_nil]
      rfl
  | threeOfAKind => rfl
  | twoPairs => rfl
  | pair => rfl
  | highCard => rfl

def kind : Nat → String
  | 9 => "Royal Flush"
  | 8 => "Straight Flush, "
  | 7 => "Four of a Kind, "
  | 6 => "Full House, "
  | 5 => "Flush, "
  | 4 => "Straight, "
  | 3 => "Three of a Kind, "
  | 2 => "Two Pair, "
  | 1 => "One Pair, "
  | _ => "High Card, "

theorem kind_apart : ∀ f < 10, ∀ f' < 10, f ≠ f' → Apart (kind f) (kind f') := by decide

theorem Coded.kind_lt (h : Coded f s t u r) : f < 10 := by
  cases h <;> decide

theorem name_kind (h : Coded f s t u r) (hx : determineHandName (code f s t u r) activePlayerList = some x) :
    ∃ y, x = kind f ++ y := by
  rw [determineHandName_code h] at hx
  cases h <;> exact named_cons hx

theorem names_ranks : Names ranks := ⟨by decide, by decide⟩

theorem names_lowRanks : Names (ranks.take 10) := ⟨by decide, by decide⟩

theorem names_pluralRanks : Names pluralRanks := ⟨by decide, by decide⟩

theorem names_fullOf : Names (pluralRanks.map (· ++ " full of ")) := ⟨by decide, by decide⟩

theorem names_and : Names (pluralRanks.map (· ++ " and ")) := ⟨by decide, by decide⟩

theorem names_flush : Names ((ranks.map (· ++ " high")).drop 4) := ⟨by decide, by decide⟩

theorem names_straight : Names ((ranks.map (· ++ " high")).drop 3) := ⟨by decide, by decide⟩

theorem names_straightFlush : Names (((ranks.map (· ++ " high")).take 12).drop 3) := ⟨by decide, by decide⟩

theorem names_highCard : Names ("Deuces" :: ranks.drop 1) := ⟨by decide, by decide⟩

theorem Names.plain_cons {names : List String} (hnames : Names names) {first p : Nat} (hlow : first ≤ p)
    (hp : p < first + names.length) (hcs : ∀ c ∈ cs, Plain c) : ∀ c ∈ switch names first p :: cs, Plain c :=
  List.forall_mem_cons.mpr ⟨switch_plain hnames.plain hlow hp, hcs⟩

theorem plain_kind : ∀ f < 10, f ≠ 9 → Plain (kind f) := by decide

theorem plain_strings (h : Coded f s t u r) (hf : f ≠ 9) : ∀ c ∈ strings f s t u r, Plain c := by
  have hnil : ∀ c ∈ ([] : List String), Plain c := by simp
  have hkind := plain_kind f h.kind_lt hf
  cases h with
  | royalFlush => exact absurd rfl hf
  | straightFlush hlow hs =>
      exact List.forall_mem_cons.mpr ⟨hkind, names_straightFlush.plain_cons hlow (Nat.lt_succ_of_le hs) hnil⟩
  | fourOfAKind hs ht =>
      exact List.forall_mem_cons.mpr ⟨hkind, names_pluralRanks.plain_cons (Nat.zero_le _) (Nat.lt_succ_of_le hs) <|
        names_ranks.plain_cons (Nat.zero_le _) (Nat.lt_succ_of_le ht) hnil⟩
  | fullHouse hs ht =>
      exact List.forall_mem_cons.mpr ⟨hkind, names_fullOf.plain_cons (Nat.zero_le _) (Nat.lt_succ_of_le hs) <|
        names_pluralRanks.plain_cons (Nat.zero_le _) (Nat.lt_succ_of_le ht) hnil⟩
  | flush hlow hs ht hu hr =>
      have hten : r / 10 < 10 := by omega
      exact List.forall_mem_cons.mpr ⟨hkind, names_flush.plain_cons hlow (Nat.lt_succ_of_le hs) <|
        names_ranks.plain_cons (Nat.zero_le _) (Nat.lt_succ_of_le ht) <|
        names_ranks.plain_cons (Nat.zero_le _) (Nat.lt_succ_of_le hu) <|
        names_lowRanks.plain_cons (Nat.zero_le _) hten <|
        names_lowRanks.plain_cons (Nat.zero_le _) (Nat.mod_lt _ (by decide)) hnil⟩
  | straight hlow hs =>
      exact List.forall_mem_cons.mpr ⟨hkind, names_straight.plain_cons hlow (Nat.lt_succ_of_le hs) hnil⟩
  | threeOfAKind hs ht hu =>
      exact List.forall_mem_cons.mpr ⟨hkind, names_pluralRanks.plain_cons (Nat.zero_le _) (Nat.lt_succ_of_le hs) <|
        names_ranks.plain_cons (Nat.zero_le _) (Nat.lt_succ_of_le ht) <|
        names_ranks.plain_cons (Nat.zero_le _) (Nat.lt_succ_of_le hu) hnil⟩
  | twoPairs hs ht hu =>
      exact List.forall_mem_cons.mpr ⟨hkind, names_and.plain_cons (Nat.zero_le _) (Nat.lt_succ_of_le hs) <|
        names_pluralRanks.plain_cons (Nat.zero_le _) (Nat.lt_succ_of_le ht) <|
        names_ranks.plain_cons (Nat.zero_le _) (Nat.lt_succ_of_le hu) hnil⟩
  | pair hs ht hu hr =>
      exact List.forall_mem_cons.mpr ⟨hkind, names_pluralRanks.plain_cons (Nat.zero_le _) (Nat.lt_succ_of_le hs) <|
        names_ranks.plain_cons (Nat.zero_le _) (Nat.lt_succ_of_le ht) <|
        names_ranks.plain_cons (Nat.zero_le _) (Nat.lt_succ_of_le hu) <|
        names_ranks.plain_cons (Nat.zero_le _) (Nat.lt_succ_of_le hr) hnil⟩
  | highCard hs ht hu hr =>
      have hten : r / 10 < 10 := by omega
      exact List.forall_mem_cons.mpr ⟨hkind, names_highCard.plain_cons (Nat.zero_le _) (Nat.lt_succ_of_le hs) <|
        names_ranks.plain_cons (Nat.zero_le _) (Nat.lt_succ_of_le ht) <|
        names_ranks.plain_cons (Nat.zero_le _) (Nat.lt_succ_of_le hu) <|
        names_lowRanks.plain_cons (Nat.zero_le _) hten <|
        names_lowRanks.plain_cons (Nat.zero_le _) (Nat.mod_lt _ (by decide)) hnil⟩

theorem plain_words : ∀ f < 10, ∀ level ∈ (layout f).2.2, Plain level.2 := by decide

theorem length_strings (h : Coded f s t u r) : (layout f).1 + (layout f).2.2.length = (strings f s t u r).length := by
  cases h <;> rfl

theorem IsCode.name_some {v : Nat} (hv : IsCode v) (activePlayerList : List Player) :
    ∃ x, determineHandName v activePlayerList = some x ∧ ¬ "ERROR".toList <:+: x.toList := by
  obtain ⟨f, s, t, u, r, h, rfl⟩ := hv
  by_cases hf : f = 9
  · subst hf
    cases h
    exact ⟨"Royal Flush", rfl, by decide⟩
  · obtain ⟨x, hx, hplain⟩ := @named_some (code f s t u r) (layout f).2.1 (strings f s t u r) (layout f).2.2
      (others (code f s t u r) activePlayerList) (layout f).1 (length_strings h).le (plain_strings h hf)
      (plain_words f h.kind_lt)
    exact ⟨x, (determineHandName_code h).trans hx, hplain.no_error⟩

section

variable (h : Small s t u r) (h' : Small s' t' u' r')

include h h'

theorem tdiv_first_iff : (code f s t u r : Int).tdiv 1000000 = (code f s' t' u' r' : Int).tdiv 1000000 ↔ s = s' := by
  rw [code_tdiv_first h, code_tdiv_first h']
  omega

theorem tdiv_second_iff :
    (code f s t u r : Int).tdiv 10000 = (code f s' t' u' r' : Int).tdiv 10000 ↔ s = s' ∧ t = t' := by
  obtain ⟨hs, ht, hu, hr⟩ := h
  obtain ⟨hs', ht', hu', hr'⟩ := h'
  rw [code_tdiv_second ⟨hs, ht, hu, hr⟩, code_tdiv_second ⟨hs', ht', hu', hr'⟩]
  omega

theorem tdiv_third_iff :
    (code f s t u r : Int).tdiv 100 = (code f s' t' u' r' : Int).tdiv 100 ↔ s = s' ∧ t = t' ∧ u = u' := by
  obtain ⟨hs, ht, hu, hr⟩ := h
  obtain ⟨hs', ht', hu', hr'⟩ := h'
  rw [code_tdiv_third ⟨hs, ht, hu, hr⟩, code_tdiv_third ⟨hs', ht', hu', hr'⟩]
  omega

end

theorem tdiv_fourth_iff (h : Small s t u r) (h' : Small s t u r') :
    (code f s t u r : Int).tdiv 10 = (code f s t u r' : Int).tdiv 10 ↔ r / 10 = r' / 10 := by
  rw [code_tdiv_fourth h, code_tdiv_fourth h']
  omega

theorem tdiv_last_iff : (code f s t u r : Int).tdiv 1 = (code f s t u r' : Int).tdiv 1 ↔ r = r' := by
  rw [Int.tdiv_one, Int.tdiv_one, code_cast, code_cast]
  omega

end PokerTH.CardsValue
