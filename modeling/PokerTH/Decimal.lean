import Mathlib.Tactic.SplitIfs
import Mathlib.Tactic.IntervalCases
import Mathlib.Data.List.TakeWhile

namespace PokerTH.Decimal

/-- The text that `<<` writes for a number. -/
def digits (n : Nat) : List UInt8 :=
  if n < 10 then [(48 + n).toUInt8] else digits (n / 10) ++ [(48 + n % 10).toUInt8]

def isDigit (byte : UInt8) : Bool := 48 ≤ byte.toNat && byte.toNat ≤ 57

def isSpace (byte : UInt8) : Bool := byte == 32 || (9 ≤ byte.toNat && byte.toNat ≤ 13)

def value (text : List UInt8) : Nat := text.foldl (fun n byte => n * 10 + (byte.toNat - 48)) 0

/-- The sign, the number and the text behind it, where the text starts with a number. -/
def readNumber (text : List UInt8) : Option (Bool × Nat × List UInt8) :=
  let text := text.dropWhile isSpace
  let (negative, text) :=
    match text with
    | 45 :: rest => (true, rest)
    | 43 :: rest => (false, rest)
    | rest => (false, rest)
  if text.takeWhile isDigit = [] then none
  else some (negative, value (text.takeWhile isDigit), text.dropWhile isDigit)

/-- `>>` into an unsigned number. A stream that has failed leaves the number as it is. -/
def getUnsigned (old : Nat) : Option (List UInt8) → Nat × Option (List UInt8)
  | none => (old, none)
  | some text =>
      match readNumber text with
      | none => (0, none)
      | some (negative, n, rest) =>
          if n > 2 ^ 32 - 1 then (2 ^ 32 - 1, none)
          else (if negative then (2 ^ 32 - n) % 2 ^ 32 else n, some rest)

/-- `>>` into a signed number. -/
def getInt (old : Int) : Option (List UInt8) → Int × Option (List UInt8)
  | none => (old, none)
  | some text =>
      match readNumber text with
      | none => (0, none)
      | some (negative, n, rest) =>
          if negative then if n > 2 ^ 31 then (-2 ^ 31, none) else (-n, some rest)
          else if n > 2 ^ 31 - 1 then (2 ^ 31 - 1, none) else (n, some rest)

theorem toNat_digit {n : Nat} (hn : n < 10) : ((48 + n).toUInt8).toNat = 48 + n := by
  interval_cases n <;> rfl

theorem isDigit_digits (n : Nat) : ∀ byte ∈ digits n, isDigit byte := by
  induction n using digits.induct with
  | case1 n hn =>
      rw [digits, if_pos hn]
      intro byte hb
      rw [List.mem_singleton] at hb
      subst hb
      simp only [isDigit, toNat_digit hn, Bool.and_eq_true, decide_eq_true_eq]
      omega
  | case2 n hn ih =>
      rw [digits, if_neg hn]
      intro byte hb
      rcases List.mem_append.mp hb with hb | hb
      · exact ih byte hb
      · rw [List.mem_singleton] at hb
        subst hb
        have hlast : n % 10 < 10 := Nat.mod_lt n (by decide)
        simp only [isDigit, toNat_digit hlast, Bool.and_eq_true, decide_eq_true_eq]
        omega

theorem digits_ne_nil (n : Nat) : digits n ≠ [] := by
  rw [digits]
  split_ifs <;> simp

theorem value_digits (n : Nat) : value (digits n) = n := by
  induction n using digits.induct with
  | case1 n hn =>
      rw [digits, if_pos hn]
      simp only [value, List.foldl_cons, List.foldl_nil, toNat_digit hn]
      omega
  | case2 n hn ih =>
      have hlast : n % 10 < 10 := Nat.mod_lt n (by decide)
      rw [digits, if_neg hn, value, List.foldl_append, ← value, ih]
      simp only [List.foldl_cons, List.foldl_nil, toNat_digit hlast]
      omega

def Ends (rest : List UInt8) : Prop := ∀ byte, rest.head? = some byte → isDigit byte = false

theorem takeWhile_digits (n : Nat) {rest : List UInt8} (hrest : Ends rest) :
    (digits n ++ rest).takeWhile isDigit = digits n ∧ (digits n ++ rest).dropWhile isDigit = rest := by
  rw [List.takeWhile_append_of_pos (isDigit_digits n), List.dropWhile_append_of_pos (isDigit_digits n)]
  cases rest with
  | nil => simp
  | cons byte rest => simp [hrest byte rfl]

theorem not_space_of_isDigit {byte : UInt8} (hb : isDigit byte) : isSpace byte = false ∧ byte ≠ 45 ∧ byte ≠ 43 := by
  simp only [isDigit, Bool.and_eq_true, decide_eq_true_eq] at hb
  refine ⟨?_, ?_, ?_⟩
  · simp only [isSpace, Bool.or_eq_false_iff, beq_eq_false_iff_ne, Bool.and_eq_false_iff, decide_eq_false_iff_not]
    refine ⟨?_, by omega⟩
    rintro rfl
    exact absurd hb.1 (by decide)
  · rintro rfl
    exact absurd hb.1 (by decide)
  · rintro rfl
    exact absurd hb.1 (by decide)

theorem readNumber_digits (n : Nat) {rest : List UInt8} (hrest : Ends rest) :
    readNumber (digits n ++ rest) = some (false, n, rest) := by
  obtain ⟨byte, tail, hd⟩ := List.exists_cons_of_ne_nil (digits_ne_nil n)
  obtain ⟨hspace, hminus, hplus⟩ := not_space_of_isDigit (isDigit_digits n byte (by simp [hd]))
  obtain ⟨htake, hdrop⟩ := takeWhile_digits n hrest
  have hskip : (digits n ++ rest).dropWhile isSpace = digits n ++ rest := by
    rw [hd, List.cons_append, List.dropWhile_cons_of_neg (by simp [hspace])]
  simp only [readNumber, hskip]
  have hsign : (match digits n ++ rest with
      | 45 :: rest => (true, rest)
      | 43 :: rest => (false, rest)
      | rest => (false, rest)) = (false, digits n ++ rest) := by
    rw [hd, List.cons_append]
    split
    · next he => exact absurd (List.cons.inj he).1 hminus
    · next he => exact absurd (List.cons.inj he).1 hplus
    · rfl
  rw [hsign]
  simp only [htake, hdrop, value_digits, if_neg (digits_ne_nil n)]

theorem readNumber_space (text : List UInt8) : readNumber (32 :: text) = readNumber text := rfl

theorem getUnsigned_digits {old n : Nat} (hn : n < 2 ^ 32) {rest : List UInt8} (hrest : Ends rest) :
    getUnsigned old (some (digits n ++ rest)) = (n, some rest) ∧
      getUnsigned old (some (32 :: (digits n ++ rest))) = (n, some rest) := by
  have hmax : ¬ n > 2 ^ 32 - 1 := by omega
  simp only [getUnsigned, readNumber_space, readNumber_digits n hrest, if_neg hmax, Bool.false_eq_true, if_false,
    and_self]

theorem getInt_digits {old : Int} {n : Nat} (hn : n < 2 ^ 31) {rest : List UInt8} (hrest : Ends rest) :
    getInt old (some (32 :: (digits n ++ rest))) = ((n : Int), some rest) := by
  have hmax : ¬ n > 2 ^ 31 - 1 := by omega
  simp only [getInt, readNumber_space, readNumber_digits n hrest, if_neg hmax, Bool.false_eq_true, if_false]

end PokerTH.Decimal
