import Mathlib.Data.List.ReduceOption
import PokerTH.Chunks
import PokerTH.SendBuffer

namespace PokerTH.SendBuffer

open ReceiveBuffer

variable {Packet : Type} {serialize : Packet → List UInt8} {allowed : Packet → Prop} {b b' : AsioSendBuffer}
  {hist sent waiting notes : List Packet} {data : List UInt8}

theorem ntohl_htonl {n : Nat} (hn : n < 2 ^ 32) : ntohl (htonl n) = n := by
  simp only [ntohl, htonl, List.foldl_cons, List.foldl_nil, UInt8.toNat_ofNat']
  omega

section Receiving

variable (R : PacketReader Packet)

structure Sendable (serialize : Packet → List UInt8) (packet : Packet) : Prop where
  valid : R.isValidPacket packet = true
  nonempty : 1 ≤ (serialize packet).length
  small : (serialize packet).length ≤ maxPacketSize

variable (hparse : ∀ packet, 1 ≤ (serialize packet).length → R.create (serialize packet) = some packet)

include hparse

theorem next_frame {packet : Packet} (hp : Sendable R serialize packet) (t : List UInt8) :
    (framing R).next (frame serialize packet ++ t) = some (.packet packet, t) := by
  change nextFrame R (frame serialize packet ++ t) = some (.packet packet, t)
  have hnonempty := hp.nonempty
  have hsmall := hp.small
  have hsize : ntohl (htonl (serialize packet).length) = (serialize packet).length := by
    simp only [maxPacketSize] at hsmall
    exact ntohl_htonl (by omega)
  have hheader : (htonl (serialize packet).length).length = netHeaderSize := rfl
  have hlen : (frame serialize packet).length = (serialize packet).length + netHeaderSize := by
    rw [frame, List.length_append, hheader, Nat.add_comm]
  have htake : (frame serialize packet ++ t).take netHeaderSize = htonl (serialize packet).length := by
    rw [frame, List.append_assoc]
    exact List.take_left' hheader
  have hdrop : (frame serialize packet ++ t).drop netHeaderSize = serialize packet ++ t := by
    rw [frame, List.append_assoc]
    exact List.drop_left' hheader
  simp only [nextFrame, htake, hsize, hdrop]
  rw [if_neg (by rw [List.length_append, hlen]; omega), if_neg (by omega),
    if_neg (by rw [List.length_append, hlen]; omega), List.take_left' rfl, List.drop_left' hlen, readFrame,
    hparse packet hnonempty]
  simp [hp.valid]

theorem frames_flatMap (hsent : ∀ packet ∈ sent, Sendable R serialize packet) :
    (framing R).frames (sent.flatMap (frame serialize)) = sent.map .packet := by
  induction sent with
  | nil => exact (framing R).frames_of_none rfl
  | cons packet sent ih =>
      have hnext := next_frame R hparse (hsent packet List.mem_cons_self) (sent.flatMap (frame serialize))
      rw [List.flatMap_cons, (framing R).frames_of_next hnext rfl,
        ih fun p hp => hsent p (List.mem_cons_of_mem packet hp), List.map_cons]

theorem received {outcome : Nat → Handling} {reads : List (List UInt8)}
    (hsent : ∀ packet ∈ sent, Sendable R serialize packet) (hreads : reads.flatten = sent.flatMap (frame serialize))
    (hfits : Fits R outcome reads) (hreturn : Returns R outcome reads.flatten) :
    (receive R outcome reads).handled = sent ∧ (receive R outcome reads).closed = false := by
  have hframes := frames_flatMap R hparse hsent
  rw [← hreads] at hframes
  have horderly : OrderlyReads R reads := by
    intro before bytes hp hends
    obtain ⟨later, rfl⟩ := hp
    have hprefix := (framing R).frames_extend (before.flatten ++ bytes) later.flatten
    rw [(framing R).frames_append hends] at hprefix
    have hwhole : (before ++ [bytes] ++ later).flatten = before.flatten ++ bytes ++ later.flatten := by simp
    rw [← hwhole, hframes] at hprefix
    have hsub := (List.sublist_append_right _ _).trans hprefix.sublist
    exact (orderly_map sent).sublist hsub
  have hd := (delivered_iff R hfits hreturn).mpr horderly reads List.prefix_rfl
  refine ⟨?_, ?_⟩
  · rw [hd.handled, packets, hframes, packets_map]
  · rw [hd.closed, hframes]
    simp [Frame.fatal]

end Receiving

end PokerTH.SendBuffer
