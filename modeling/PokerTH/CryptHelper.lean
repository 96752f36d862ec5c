import Mathlib.Algebra.Group.Nat.Defs
import Mathlib.Data.List.TakeWhile
import Mathlib.Tactic.SplitIfs

namespace PokerTH.CryptHelper

def AES_BLOCK_SIZE : Nat := 16

def UINT_MAX : Nat := 2 ^ 32 - 1

/-- The hash and the block cipher in chaining mode of the crypto library. Decryption undoes encryption. -/
structure Library where
  sha1 : List UInt8 → List UInt8
  encrypt : List UInt8 → List UInt8 → List UInt8 → List UInt8
  decrypt : List UInt8 → List UInt8 → List UInt8 → List UInt8
  length_encrypt : ∀ key iv plain, (encrypt key iv plain).length = plain.length
  decrypt_encrypt : ∀ key iv plain, plain.length % AES_BLOCK_SIZE = 0 → decrypt key iv (encrypt key iv plain) = plain

def ADD_PADDING (x : Nat) : Nat := if x ≤ UINT_MAX - 15 then (x + 15) / 16 * 16 else 0

variable (L : Library)

def BytesToKey (keyData : List UInt8) : List UInt8 × List UInt8 :=
  let keyBuf1 := L.sha1 (L.sha1 keyData)
  let keyBuf2 := L.sha1 (L.sha1 (keyBuf1 ++ keyData))
  (keyBuf1.take AES_BLOCK_SIZE,
    keyBuf1.drop AES_BLOCK_SIZE ++ keyBuf2.take (AES_BLOCK_SIZE - (keyBuf1.length - AES_BLOCK_SIZE)))

def AES128Encrypt (keyData plainStr : List UInt8) : Option (List UInt8) :=
  if keyData.length ≥ AES_BLOCK_SIZE ∧ plainStr.length ≠ 0 ∧ plainStr.length ≤ UINT_MAX - 15 then
    let (key, iv) := BytesToKey L keyData
    let paddedPlainSize := ADD_PADDING plainStr.length
    if paddedPlainSize = 0 then none
    else some (L.encrypt key iv (plainStr ++ List.replicate (paddedPlainSize - plainStr.length) 0))
  else none

/-- The padding is taken off at the first zero byte. -/
def AES128Decrypt (keyData cipher : List UInt8) : Option (List UInt8) :=
  if keyData.length ≥ AES_BLOCK_SIZE ∧ cipher.length ≠ 0 ∧ cipher.length % AES_BLOCK_SIZE = 0 then
    let (key, iv) := BytesToKey L keyData
    some ((L.decrypt key iv cipher).takeWhile fun byte => byte ≠ 0)
  else none

variable {L} {keyData plainStr : List UInt8}

theorem AES128Encrypt_none (hkey : keyData.length < AES_BLOCK_SIZE) : AES128Encrypt L keyData plainStr = none := by
  rw [AES128Encrypt, if_neg (by omega)]

/-- A text without zero bytes comes back, whatever the key, if the key has the size of a block. -/
theorem AES128Decrypt_encrypt (hkey : AES_BLOCK_SIZE ≤ keyData.length) (hplain : plainStr ≠ [])
    (hsize : plainStr.length ≤ UINT_MAX - 15) (hzero : ∀ byte ∈ plainStr, byte ≠ 0) :
    ∃ cipher, AES128Encrypt L keyData plainStr = some cipher ∧ cipher ≠ [] ∧
      AES128Decrypt L keyData cipher = some plainStr := by
  have hpos : 0 < plainStr.length := List.length_pos_iff.mpr hplain
  have hpad : ADD_PADDING plainStr.length = (plainStr.length + 15) / 16 * 16 := by rw [ADD_PADDING, if_pos hsize]
  have hlen : (plainStr ++ List.replicate (ADD_PADDING plainStr.length - plainStr.length) (0 : UInt8)).length =
      (plainStr.length + 15) / 16 * 16 := by
    rw [List.length_append, List.length_replicate, hpad]
    omega
  have hblocks : (plainStr.length + 15) / 16 * 16 % AES_BLOCK_SIZE = 0 := Nat.mul_mod_left _ 16
  refine ⟨_, by rw [AES128Encrypt, if_pos ⟨hkey, by omega, hsize⟩]; simp only [hpad]; rw [if_neg (by omega)], ?_, ?_⟩
  · intro he
    have hzeros := congrArg List.length he
    rw [L.length_encrypt, ← hpad, hlen] at hzeros
    simp only [List.length_nil] at hzeros
    omega
  · rw [AES128Decrypt, L.length_encrypt, ← hpad, hlen, if_pos ⟨hkey, by omega, hblocks⟩]
    simp only
    rw [L.decrypt_encrypt _ _ _ (by rw [hlen]; exact hblocks), List.takeWhile_append_of_pos (by simpa using hzero)]
    cases ADD_PADDING plainStr.length - plainStr.length with
    | zero => simp
    | succ n => simp [List.replicate_succ]

end PokerTH.CryptHelper
