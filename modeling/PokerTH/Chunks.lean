import Mathlib.Data.List.Induction
import PokerTH.ReceiveBuffer

namespace PokerTH.ReceiveBuffer

variable {Packet : Type} (R : PacketReader Packet) {s s' : AsioReceiveBuffer Packet} {buf rest bytes : List UInt8}
  {f : Frame Packet} {ps : List Packet} {outcome : Nat → Handling} {reads before : List (List UInt8)}

section Scanning

theorem scanPackets_none (hs : (framing R).next s.recvBuf = none) : scanPackets R s = s := by
  change nextFrame R s.recvBuf = none at hs
  simp only [nextFrame] at hs
  rw [scanPackets]
  split_ifs at hs with hheader hsize hbody
  · rw [if_neg (Nat.not_le.mpr hheader)]
  · rw [if_pos (Nat.not_lt.mp hheader)]
    simp only [hsize, if_false, Nat.not_le.mpr hbody]
    split_ifs with hmax
    · exact absurd hsize (by simp [sizeMax, netHeaderSize, maxPacketSize] at hmax ⊢; omega)
    · rfl

theorem readFrame_ne_badSize (body : List UInt8) : readFrame R body ≠ .badSize := by
  simp only [readFrame]
  split
  · nofun
  · split_ifs <;> nofun

theorem scanPackets_badSize (hs : (framing R).next s.recvBuf = some (.badSize, rest)) :
    scanPackets R s = { s with recvBuf := [], closed := true } := by
  change nextFrame R s.recvBuf = some (.badSize, rest) at hs
  simp only [nextFrame] at hs
  rw [scanPackets]
  split_ifs at hs with hheader hsize hbody
  · rw [if_pos (Nat.not_lt.mp hheader)]
    simp only [hsize, if_true]
  · simp only [Option.some.injEq, Prod.mk.injEq] at hs
    exact absurd hs.1 (readFrame_ne_badSize R _)

def scanFrame (s : AsioReceiveBuffer Packet) (rest : List UInt8) : Frame Packet → AsioReceiveBuffer Packet
  | .packet p => scanPackets R { s with recvBuf := rest, receivedPackets := s.receivedPackets ++ [p] }
  | .unparseable => { s with recvBuf := rest }
  | .rejected | .badSize => { s with recvBuf := rest, closed := true }

theorem scanPackets_frame (hs : (framing R).next s.recvBuf = some (f, rest)) (hf : f ≠ .badSize) :
    scanPackets R s = scanFrame R s rest f := by
  change nextFrame R s.recvBuf = some (f, rest) at hs
  simp only [nextFrame] at hs
  rw [scanPackets]
  split_ifs at hs with hheader hsize hbody
  · cases hs
    exact absurd rfl hf
  · have hmax : ¬ ntohl (s.recvBuf.take netHeaderSize) > sizeMax - netHeaderSize := by
      simp only [sizeMax, netHeaderSize, maxPacketSize] at hsize ⊢
      omega
    rw [if_pos (Nat.not_lt.mp hheader)]
    simp only [hsize, hmax, if_false, Nat.not_lt.mp hbody, if_true]
    simp only [Option.some.injEq, Prod.mk.injEq] at hs
    obtain ⟨rfl, rfl⟩ := hs
    simp only [readFrame]
    cases R.create ((s.recvBuf.drop netHeaderSize).take (ntohl (s.recvBuf.take netHeaderSize))) with
    | none => rfl
    | some p => by_cases hvalid : R.isValidPacket p = true <;> simp [hvalid, scanFrame]

inductive Scanned (s : AsioReceiveBuffer Packet) : AsioReceiveBuffer Packet → Prop
  | all (ps : List Packet) (hframes : (framing R).frames s.recvBuf = ps.map .packet) :
      Scanned s { s with recvBuf := (framing R).pending s.recvBuf, receivedPackets := s.receivedPackets ++ ps }
  | unparseable (ps : List Packet) (rest : List UInt8)
      (hframes : (framing R).frames s.recvBuf = ps.map .packet ++ .unparseable :: (framing R).frames rest)
      (hpending : (framing R).pending s.recvBuf = (framing R).pending rest)
      (hshorter : rest.length < s.recvBuf.length) :
      Scanned s { s with recvBuf := rest, receivedPackets := s.receivedPackets ++ ps }
  | fatal (ps : List Packet) (f : Frame Packet) (rest : List UInt8) (hf : f.fatal = true)
      (hframes : (framing R).frames s.recvBuf = ps.map .packet ++ [f]) :
      Scanned s { s with recvBuf := rest, receivedPackets := s.receivedPackets ++ ps, closed := true }

theorem scanned (s : AsioReceiveBuffer Packet) : Scanned R s (scanPackets R s) := by
  induction hbuf : s.recvBuf using (framing R).frames_induction generalizing s with
  | hnone buf hs =>
      subst hbuf
      rw [scanPackets_none R hs]
      have h := Scanned.all (R := R) (s := s) [] (by simp [(framing R).frames_of_none hs])
      simpa [(framing R).pending_of_none hs] using h
  | hfinal buf f rest hs hf =>
      subst hbuf
      have hframes := (framing R).frames_of_final hs hf
      cases f with
      | packet | unparseable => cases hf
      | badSize =>
          rw [scanPackets_badSize R hs]
          simpa using Scanned.fatal (R := R) (s := s) [] .badSize [] rfl hframes
      | rejected =>
          rw [scanPackets_frame R hs (by simp), scanFrame]
          simpa using Scanned.fatal (R := R) (s := s) [] .rejected rest rfl hframes
  | hnext buf f rest hs hf ih =>
      subst hbuf
      have hframes := (framing R).frames_of_next hs hf
      have hpending := (framing R).pending_of_next hs hf
      have hshorter := (framing R).shorter hs
      cases f with
      | badSize | rejected => cases hf
      | unparseable =>
          rw [scanPackets_frame R hs (by simp), scanFrame]
          simpa using Scanned.unparseable (R := R) (s := s) [] rest hframes hpending hshorter
      | packet p =>
          rw [scanPackets_frame R hs (by simp), scanFrame]
          have hrec := ih { s with recvBuf := rest, receivedPackets := s.receivedPackets ++ [p] } rfl
          generalize scanPackets R { s with recvBuf := rest, receivedPackets := s.receivedPackets ++ [p] } = out at hrec
          cases hrec with
          | all ps hrest =>
              have h := Scanned.all (R := R) (s := s) (p :: ps) (by rw [hframes, hrest, List.map_cons])
              simpa [hpending] using h
          | unparseable ps rest' hrest hpending' hshorter' =>
              have h := Scanned.unparseable (R := R) (s := s) (p :: ps) rest'
                (by rw [hframes, hrest, List.map_cons, List.cons_append]) (hpending.trans hpending')
                (Nat.lt_trans hshorter' hshorter)
              simpa using h
          | fatal ps f rest' hf' hrest =>
              have h := Scanned.fatal (R := R) (s := s) (p :: ps) f rest' hf'
                (by rw [hframes, hrest, List.map_cons, List.cons_append])
              simpa using h

end Scanning

theorem processPackets_returns (hroom : s.recvBuf.length < recvBufSize)
    (hreturn : ∀ n < s.handled.length + ps.length, outcome n = .returns) :
    processPackets outcome ps { s with receivedPackets := ps } =
      { s with receivedPackets := [], handled := s.handled ++ ps } := by
  induction ps generalizing s with
  | nil => simp [processPackets, Nat.not_le.mpr hroom]
  | cons p ps ih =>
      have hnow : outcome s.handled.length = .returns := hreturn _ (by simp)
      simp only [processPackets, hnow]
      rw [ih (s := { s with handled := s.handled ++ [p] }) hroom]
      · simp
      · intro n hn
        refine hreturn n ?_
        simp only [List.length_append, List.length_cons, List.length_nil] at hn ⊢
        omega

inductive ReadOutcome (s : AsioReceiveBuffer Packet) (data : List UInt8) : AsioReceiveBuffer Packet → Prop
  | all (ps : List Packet) (hframes : (framing R).frames data = ps.map .packet) :
      ReadOutcome s data { s with recvBuf := (framing R).pending data, handled := s.handled ++ ps }
  | unparseable (ps : List Packet) (rest : List UInt8)
      (hframes : (framing R).frames data = ps.map .packet ++ .unparseable :: (framing R).frames rest)
      (hpending : (framing R).pending data = (framing R).pending rest) :
      ReadOutcome s data { s with recvBuf := rest, handled := s.handled ++ ps }
  | fatal (ps : List Packet) (f : Frame Packet) (rest : List UInt8) (hf : f.fatal = true)
      (hframes : (framing R).frames data = ps.map .packet ++ [f]) :
      ReadOutcome s data { s with recvBuf := rest, receivedPackets := ps, closed := true }

theorem packets_map (ps : List Packet) : (ps.map Frame.packet).filterMap Frame.packet? = ps := by
  induction ps with
  | nil => rfl
  | cons p ps ih => simp [Frame.packet?, ih]

theorem packet?_of_fatal (hf : f.fatal = true) : f.packet? = none := by
  cases f with
  | packet | unparseable => cases hf
  | rejected | badSize => rfl

theorem packets_skip {fs : List (Frame Packet)} (hf : f.packet? = none) :
    (ps.map Frame.packet ++ f :: fs).filterMap Frame.packet? = ps ++ fs.filterMap Frame.packet? := by
  rw [List.filterMap_append, packets_map, List.filterMap_cons_none hf]

theorem not_ended_map {data : List UInt8} (hframes : (framing R).frames data = ps.map .packet) :
    ¬ (framing R).Ended data := by
  rintro ⟨f, hf, hfinal⟩
  rw [hframes, List.mem_map] at hf
  obtain ⟨p, _, rfl⟩ := hf
  cases hfinal

theorem handleRead_outcome (hempty : s.receivedPackets = []) (hopen : s.closed = false)
    (hroom : s.recvBuf.length < recvBufSize) (hfit : bytes.length ≤ recvBufSize - s.recvBuf.length)
    (hreturn : ∀ n < s.handled.length + (packets R (s.recvBuf ++ bytes)).length, outcome n = .returns) :
    ReadOutcome R s (s.recvBuf ++ bytes) (handleRead R outcome s bytes) := by
  obtain ⟨buf, received, handled, closed⟩ := s
  change received = [] at hempty
  change closed = false at hopen
  subst hempty hopen
  simp only at hroom hfit hreturn ⊢
  have hlen : (buf ++ bytes).length ≤ recvBufSize := by
    rw [List.length_append]
    omega
  have hscan := scanned R ⟨buf ++ bytes, [], handled, false⟩
  rw [handleRead, if_neg (by simp; omega)]
  generalize scanPackets R ⟨buf ++ bytes, [], handled, false⟩ = out at hscan
  have hreturn' (ps : List Packet) (hps : ps.length ≤ (packets R (buf ++ bytes)).length) :
      ∀ n < handled.length + ps.length, outcome n = .returns := fun n hn => hreturn n (by omega)
  cases hscan with
  | all ps hframes =>
      have hnone := (framing R).next_pending (not_ended_map R hframes)
      have hprocess := processPackets_returns (s := ⟨(framing R).pending (buf ++ bytes), [], handled, false⟩)
        (length_of_next_none R hnone) (hreturn' ps (Nat.le_of_eq (by rw [packets, hframes, packets_map])))
      simp only [List.nil_append, Bool.false_eq_true, if_false]
      rw [hprocess]
      exact .all ps hframes
  | unparseable ps rest hframes hpending hshorter =>
      have hprocess := processPackets_returns (s := ⟨rest, [], handled, false⟩) (Nat.lt_of_lt_of_le hshorter hlen)
        (hreturn' ps (by rw [packets, hframes, packets_skip rfl, List.length_append]; omega))
      simp only [List.nil_append, Bool.false_eq_true, if_false]
      rw [hprocess]
      exact .unparseable ps rest hframes hpending
  | fatal ps f rest hf hframes =>
      simp only [List.nil_append, if_true]
      exact .fatal ps f rest hf hframes

/-- The buffer has handed over the packets up to the first fatal frame, the session is closed when there is
one, and an open session has no complete frame waiting. -/
structure Delivered (stream : List UInt8) (s : AsioReceiveBuffer Packet) : Prop where
  handled : s.handled = packets R stream
  closed : s.closed = ((framing R).frames stream).any Frame.fatal
  complete : s.closed = false → (framing R).frames s.recvBuf = []

/-- No frame of a read comes behind one that does not parse, and a fatal frame comes alone. -/
def Orderly (frames : List (Frame Packet)) : Prop :=
  frames.Pairwise fun f g => f.packet?.isSome ∧ g.fatal = false

theorem orderly_map (ps : List Packet) : Orderly (ps.map .packet) := by
  exact List.pairwise_map.mpr (List.pairwise_of_forall fun _ _ => ⟨rfl, rfl⟩)

theorem orderly_unparseable_iff {ps : List Packet} {fs : List (Frame Packet)} :
    Orderly (ps.map .packet ++ .unparseable :: fs) ↔ fs = [] := by
  constructor
  · intro h
    have htail := (List.pairwise_cons.mp (List.pairwise_append.mp h).2.1).1
    cases fs with
    | nil => rfl
    | cons g fs => cases (htail g List.mem_cons_self).1
  · rintro rfl
    refine List.pairwise_append.mpr ⟨orderly_map ps, List.pairwise_singleton _ _, fun f hf g hg => ?_⟩
    rw [List.mem_singleton] at hg
    obtain ⟨p, _, rfl⟩ := List.mem_map.mp hf
    subst hg
    exact ⟨rfl, rfl⟩

theorem orderly_fatal_iff (hf : f.fatal = true) : Orderly (ps.map .packet ++ [f]) ↔ ps = [] := by
  constructor
  · intro h
    have hcross := (List.pairwise_append.mp h).2.2
    cases ps with
    | nil => rfl
    | cons p ps =>
        have hnot := (hcross (.packet p) List.mem_cons_self f (List.mem_singleton_self f)).2
        rw [hf] at hnot
        cases hnot
  · rintro rfl
    exact List.pairwise_singleton _ _

theorem ended_iff_any (stream : List UInt8) :
    (framing R).Ended stream ↔ ((framing R).frames stream).any Frame.fatal = true := by
  rw [List.any_eq_true]
  exact Iff.rfl

theorem packets_append {stream : List UInt8} (he : ¬ (framing R).Ended stream) (bytes : List UInt8) :
    packets R (stream ++ bytes) = packets R stream ++ packets R ((framing R).pending stream ++ bytes) := by
  rw [packets, (framing R).frames_append he, List.filterMap_append]
  rfl

theorem any_fatal_append {stream : List UInt8} (he : ¬ (framing R).Ended stream) (bytes : List UInt8) :
    ((framing R).frames (stream ++ bytes)).any Frame.fatal =
      ((framing R).frames ((framing R).pending stream ++ bytes)).any Frame.fatal := by
  rw [(framing R).frames_append he, List.any_append, Bool.or_eq_right_iff_imp]
  exact fun h => absurd ((ended_iff_any R stream).mpr h) he

inductive Settled (stream : List UInt8) (s : AsioReceiveBuffer Packet) : Prop
  | opened (hopen : s.closed = false) (hends : ¬ (framing R).Ended stream) (hbuf : s.recvBuf = (framing R).pending stream)
      (hempty : s.receivedPackets = []) (hhandled : s.handled = packets R stream)
  | closed (hclosed : s.closed = true) (hends : (framing R).Ended stream) (hhandled : s.handled = packets R stream)

theorem Settled.delivered {stream : List UInt8} (hs : Settled R stream s) : Delivered R stream s := by
  cases hs with
  | opened hopen hends hbuf _ hhandled =>
      refine ⟨hhandled, ?_, fun _ => ?_⟩
      · rw [hopen, eq_comm, Bool.eq_false_iff]
        exact fun h => hends ((ended_iff_any R stream).mpr h)
      · rw [hbuf]
        exact (framing R).frames_of_none ((framing R).next_pending hends)
  | closed hclosed hends hhandled =>
      refine ⟨hhandled, ?_, fun hopen => ?_⟩
      · rw [hclosed, (ended_iff_any R stream).mp hends]
      · rw [hclosed] at hopen
        cases hopen

/-- A read of a settled session delivers what the stream carries exactly if it is orderly. -/
theorem delivered_read_iff {stream : List UInt8} (hopen : s.closed = false) (hends : ¬ (framing R).Ended stream)
    (hbuf : s.recvBuf = (framing R).pending stream) (hempty : s.receivedPackets = [])
    (hhandled : s.handled = packets R stream) (hfit : bytes.length ≤ recvBufSize - s.recvBuf.length)
    (hreturn : ∀ n < (packets R (stream ++ bytes)).length, outcome n = .returns) :
    (Delivered R (stream ++ bytes) (handleRead R outcome s bytes) ↔
      Orderly ((framing R).frames ((framing R).pending stream ++ bytes))) ∧
    (Orderly ((framing R).frames ((framing R).pending stream ++ bytes)) →
      Settled R (stream ++ bytes) (handleRead R outcome s bytes)) := by
  have hroom := length_of_next_none R ((framing R).next_pending hends)
  have hpackets := packets_append R hends bytes
  rw [hpackets, List.length_append, ← hhandled, ← hbuf] at hreturn
  have hread := handleRead_outcome R hempty hopen (by rwa [hbuf]) hfit hreturn
  rw [hbuf] at hread
  have hpending := (framing R).pending_append hends bytes
  have hany := any_fatal_append R hends bytes
  generalize handleRead R outcome s bytes = out at hread
  have key (ho : Orderly ((framing R).frames ((framing R).pending stream ++ bytes))) : Settled R (stream ++ bytes) out := by
    cases hread with
    | all ps hframes =>
        refine .opened hopen ?_ hpending.symm hempty ?_
        · rw [ended_iff_any, hany, ← ended_iff_any]
          exact not_ended_map R hframes
        · rw [hpackets, ← hhandled, packets, hframes, packets_map]
    | unparseable ps rest hframes hrest =>
        have hnone := orderly_unparseable_iff.mp (hframes ▸ ho)
        rw [hnone] at hframes
        refine .opened hopen ?_ ?_ hempty ?_
        · rw [ended_iff_any, hany, hframes]
          simp [Frame.fatal]
        · rw [hpending, hrest]
          exact ((framing R).pending_of_none (((framing R).next_none_iff rest).mpr hnone)).symm
        · rw [hpackets, ← hhandled, packets, hframes, packets_skip rfl]
          simp
    | fatal ps f rest hf hframes =>
        have hnone := (orderly_fatal_iff hf).mp (hframes ▸ ho)
        subst hnone
        refine .closed rfl ?_ ?_
        · rw [ended_iff_any, hany, hframes]
          simp [hf]
        · rw [hpackets, ← hhandled, packets, hframes, packets_skip (packet?_of_fatal hf)]
          simp
  refine ⟨⟨fun hd => ?_, fun ho => (key ho).delivered⟩, key⟩
  cases hread with
  | all ps hframes =>
      rw [hframes]
      exact orderly_map ps
  | unparseable ps rest hframes =>
      rw [hframes, orderly_unparseable_iff]
      exact hd.complete hopen
  | fatal ps f rest hf hframes =>
      rw [hframes, orderly_fatal_iff hf]
      have hsame := hd.handled
      rw [hpackets, ← hhandled, packets, hframes, packets_skip (packet?_of_fatal hf)] at hsame
      simpa using hsame

/-- Every read is orderly, together with the bytes left over from the reads before it. -/
def OrderlyReads (reads : List (List UInt8)) : Prop :=
  ∀ before bytes, before ++ [bytes] <+: reads → ¬ (framing R).Ended before.flatten →
    Orderly ((framing R).frames ((framing R).pending before.flatten ++ bytes))

def Returns (outcome : Nat → Handling) (stream : List UInt8) : Prop :=
  ∀ n < (packets R stream).length, outcome n = .returns

theorem receive_append : receive R outcome (reads ++ [bytes]) =
    if (receive R outcome reads).closed then receive R outcome reads
    else handleRead R outcome (receive R outcome reads) bytes := by
  rw [receive, List.foldl_append]
  rfl

theorem Returns.of_append {stream : List UInt8} (hreturn : Returns R outcome (stream ++ bytes)) :
    Returns R outcome stream := by
  intro n hn
  refine hreturn n (Nat.lt_of_lt_of_le hn ?_)
  by_cases hends : (framing R).Ended stream
  · exact Nat.le_of_eq (by rw [packets, packets, (framing R).frames_append_ended hends])
  · rw [packets_append R hends, List.length_append]
    exact Nat.le_add_right _ _

theorem Fits.mono (hfits : Fits R outcome reads) (hp : before <+: reads) : Fits R outcome before :=
  fun earlier bytes hearlier => hfits earlier bytes (hearlier.trans hp)

theorem OrderlyReads.mono (ho : OrderlyReads R reads) (hp : before <+: reads) : OrderlyReads R before :=
  fun earlier bytes hearlier => ho earlier bytes (hearlier.trans hp)

theorem settled_start : Settled R [] (receive R outcome []) := by
  have hnone : (framing R).next [] = none := rfl
  refine .opened rfl ?_ ((framing R).pending_of_none hnone).symm rfl ?_
  · rw [Framing.Ended, (framing R).frames_of_none hnone]
    rintro ⟨f, hf, _⟩
    cases hf
  · rw [packets, (framing R).frames_of_none hnone]
    rfl

theorem settled_receive (hfits : Fits R outcome reads) (hreturn : Returns R outcome reads.flatten)
    (ho : OrderlyReads R reads) : Settled R reads.flatten (receive R outcome reads) := by
  induction reads using List.reverseRecOn with
  | nil => exact settled_start R
  | append_singleton reads bytes ih =>
      have hp : reads <+: reads ++ [bytes] := List.prefix_append reads [bytes]
      rw [List.flatten_concat] at hreturn ⊢
      have hs := ih (hfits.mono R hp) (hreturn.of_append R) (ho.mono R hp)
      rw [receive_append]
      cases hs with
      | opened hopen hends hbuf hempty hhandled =>
          rw [if_neg (by simp [hopen])]
          exact (delivered_read_iff R hopen hends hbuf hempty hhandled (hfits reads bytes List.prefix_rfl hopen)
            hreturn).2 (ho reads bytes List.prefix_rfl hends)
      | closed hclosed hends hhandled =>
          rw [if_pos hclosed]
          have hframes := (framing R).frames_append_ended hends bytes
          refine .closed hclosed ?_ ?_
          · rwa [Framing.Ended, hframes]
          · rwa [packets, hframes]

theorem orderly_of_delivered (hfits : Fits R outcome reads) (hreturn : Returns R outcome reads.flatten)
    (hd : ∀ before, before <+: reads → Delivered R before.flatten (receive R outcome before)) :
    OrderlyReads R reads := by
  induction reads using List.reverseRecOn with
  | nil =>
      intro before bytes hp
      simp at hp
  | append_singleton reads bytes ih =>
      have hp : reads <+: reads ++ [bytes] := List.prefix_append reads [bytes]
      rw [List.flatten_concat] at hreturn
      have ho := ih (hfits.mono R hp) (hreturn.of_append R) (fun before hb => hd before (hb.trans hp))
      have hs := settled_receive R (hfits.mono R hp) (hreturn.of_append R) ho
      intro before last hlast hends
      rcases List.prefix_concat_iff.mp hlast with heq | hbefore
      · obtain ⟨rfl, hbytes⟩ := List.append_inj' heq rfl
        cases hbytes
        cases hs with
        | closed _ hends' => exact absurd hends' hends
        | opened hopen _ hbuf hempty hhandled =>
            refine (delivered_read_iff R hopen hends hbuf hempty hhandled (hfits _ _ List.prefix_rfl hopen)
              hreturn).1.mp ?_
            have hlast := hd _ List.prefix_rfl
            rwa [receive_append, if_neg (by simp [hopen]), List.flatten_concat] at hlast
      · exact ho before last hbefore hends

/-- After each read the buffer has delivered exactly what the stream carries, however it was cut, if and
only if the reads are orderly. -/
theorem delivered_iff (hfits : Fits R outcome reads) (hreturn : Returns R outcome reads.flatten) :
    (∀ before, before <+: reads → Delivered R before.flatten (receive R outcome before)) ↔ OrderlyReads R reads := by
  constructor
  · exact orderly_of_delivered R hfits hreturn
  · intro ho before hp
    obtain ⟨later, rfl⟩ := hp
    rw [List.flatten_append] at hreturn
    exact (settled_receive R (hfits.mono R (List.prefix_append _ _)) (hreturn.of_append R)
      (ho.mono R (List.prefix_append _ _))).delivered

theorem orderly_cuts_agree {reads' : List (List UInt8)} (hcut : reads'.flatten = reads.flatten)
    (hreturn : Returns R outcome reads.flatten) (hfits : Fits R outcome reads) (hfits' : Fits R outcome reads')
    (ho : OrderlyReads R reads) (ho' : OrderlyReads R reads') :
    (receive R outcome reads').handled = (receive R outcome reads).handled ∧
      (receive R outcome reads').closed = (receive R outcome reads).closed := by
  have hd := (settled_receive R hfits hreturn ho).delivered
  have hd' := (settled_receive R hfits' (hcut ▸ hreturn) ho').delivered
  constructor
  · rw [hd.handled, hd'.handled, hcut]
  · rw [hd.closed, hd'.closed, hcut]

theorem fits_nil : Fits R outcome [] := by
  intro before bytes hp
  simp at hp

theorem Fits.concat (hfits : Fits R outcome reads) (hbytes : (receive R outcome reads).closed = false →
    bytes.length ≤ recvBufSize - (receive R outcome reads).recvBuf.length) : Fits R outcome (reads ++ [bytes]) := by
  intro before last hp
  rcases List.prefix_concat_iff.mp hp with heq | hp
  · obtain ⟨rfl, hlast⟩ := List.append_inj' heq rfl
    cases hlast
    exact hbytes
  · exact hfits before last hp

def resetTimeoutReader : PacketReader Unit where
  create bytes := if bytes = [8, 68] then some () else none
  isValidPacket _ := true

theorem delivered_iff_resetTimeout :
    (∀ before, before <+: [[0, 0, 0], [2, 8, 68]] →
      Delivered resetTimeoutReader before.flatten (receive resetTimeoutReader (fun _ => .returns) before)) ↔
    OrderlyReads resetTimeoutReader [[0, 0, 0], [2, 8, 68]] :=
  delivered_iff resetTimeoutReader
    (((fits_nil resetTimeoutReader).concat _ (by decide +kernel)).concat _ (by decide +kernel)) fun _ _ => rfl

/-- The reset is handed over when two reads bring the bytes, and is not when one read brings them. -/
structure CutsDiffer (first second : List UInt8) : Prop where
  fits : Fits resetTimeoutReader (fun _ => .returns) [first, second]
  fits_one : Fits resetTimeoutReader (fun _ => .returns) [first ++ second]
  delivered : (receive resetTimeoutReader (fun _ => .returns) [first, second]).handled = [()]
  missing : (receive resetTimeoutReader (fun _ => .returns) [first ++ second]).handled = []

/-- The reset comes behind a frame that does not parse, and in front of one whose size is 0. -/
theorem cuts_differ : CutsDiffer [0, 0, 0, 1, 0] [0, 0, 0, 2, 8, 68] ∧ CutsDiffer [0, 0, 0, 2, 8, 68] [0, 0, 0, 0] := by
  have htwo (first second : List UInt8) (h1 : first.length ≤ recvBufSize)
      (h2 : second.length ≤ recvBufSize - (receive resetTimeoutReader (fun _ => .returns) [first]).recvBuf.length) :
      Fits resetTimeoutReader (fun _ => .returns) [first, second] :=
    ((fits_nil resetTimeoutReader).concat _ fun _ => h1).concat _ fun _ => h2
  have hone (first : List UInt8) (h1 : first.length ≤ recvBufSize) :
      Fits resetTimeoutReader (fun _ => .returns) [first] :=
    (fits_nil resetTimeoutReader).concat _ fun _ => h1
  constructor
  · exact ⟨htwo _ _ (by decide) (by decide +kernel), hone _ (by decide), by decide +kernel, by decide +kernel⟩
  · exact ⟨htwo _ _ (by decide) (by decide +kernel), hone _ (by decide), by decide +kernel, by decide +kernel⟩

end PokerTH.ReceiveBuffer
