import TwoWay.Proofs.Datagrams
import TwoWay.Proofs.Records

/-!
# What a reply looks like

**Theorem (`octets_of_redirected`).** The buffer of a redirected frame, octet by octet: the ends
exchanged, the reply over the probe, the checksum in its field, and all else in its place.
-/

namespace TwoWay.Frame

open Checksum Octets

theorem field_block (f : Frame) (start n first count : Nat) (h : first + count ≤ n) :
    (f.block start n).field first count h = f.block (start + first) count := by
  apply Vector.ext
  intro i hi
  simp [Nat.add_assoc]

theorem ofOctets_block (f : Frame) :
    Probe.ofOctets (f.block 42 44) =
      ⟨(f.block 42 4).word32, ⟨(f.block 46 4).word32, (f.block 50 4).word32⟩, ⟨f.word 54⟩⟩ := by
  simp only [Probe.ofOctets, Timestamp.ofOctets, field_block]
  rfl

/-- A buffer cut at the places where a reply differs from its probe. -/
theorem toList_octets_cut (f : Frame) (h : 86 ≤ f.octets.size) :
    f.octets.toList =
      (f.block 0 6).toList ++ (f.block 6 6).toList ++ (f.block 12 14).toList ++
      (f.block 26 4).toList ++ (f.block 30 4).toList ++
      (f.block 34 2).toList ++ (f.block 36 2).toList ++ (f.block 38 2).toList ++
      (f.block 40 2).toList ++ (f.block 42 44).toList ++
      (f.block 86 (f.octets.size - 86)).toList := by
  obtain ⟨k, hk⟩ : ∃ k, f.octets.size =
      6 + (6 + (14 + (4 + (4 + (2 + (2 + (2 + (2 + (44 + k))))))))) :=
    ⟨f.octets.size - 86, by omega⟩
  have hrest : f.octets.size - 86 = k := by omega
  rw [toList_octets, hrest, hk]
  simp only [toList_block_add, List.append_assoc, Nat.reduceAdd]

theorem toList_octets_replied {f : Frame} (record : Octets Reply.size) (h : 86 ≤ f.octets.size) :
    (f.replied record).octets.toList =
      (f.block 6 6).toList ++ (f.block 0 6).toList ++ (f.block 12 14).toList ++
      (f.block 30 4).toList ++ (f.block 26 4).toList ++
      (f.block 36 2).toList ++ (f.block 34 2).toList ++ (f.block 38 2).toList ++
      (ofWord16 (f.revisedCheck record)).toList ++ record.toList ++
      (f.block 86 (f.octets.size - 86)).toList := by
  obtain ⟨hmac, hmac', hip, hip', hport, hport'⟩ := ends_eq_reverse_iff.1 (ends_replied h record)
  rw [word_eq_word_iff] at hport hport'
  have hcheck : (f.replied record).block 40 2 = ofWord16 (f.revisedCheck record) := by
    rw [← word_replied_check record h, ofWord16_word]
  rw [toList_octets_cut _ (by simpa using h), size_octets_replied, hmac, hmac', hip, hip', hport,
    hport', hcheck, block_replied_head record h, block_replied_length record h,
    block_replied_record record h, block_replied_tail record h]

/-- **The buffer of a redirected frame.** With `c₂` and `c₃` the two readings of the clock, piece by
piece, and the reply in it field by field. What the reply has from the probe it has octet for octet,
and all between its fields is zero. -/
theorem octets_of_redirected {σ : Type} [Clock σ] (r : Reflector) (clock : σ) (f : Frame)
    (interface : UInt32) (h : (r.handle clock f).disposition = .redirect interface) :
    let c₂ := (Clock.tick clock).1
    let c₃ := (Clock.tick (Clock.tick clock).2).1
    let reply : Reply :=
      { sequence := (f.block 42 4).word32
        timestamp := r.codec.encode (r.settings.adjust c₃)
        errorEstimate := r.settings.errorEstimate
        receiveTimestamp := r.codec.encode (r.settings.adjust c₂)
        senderSequence := (f.block 42 4).word32
        senderTimestamp := ⟨(f.block 46 4).word32, (f.block 50 4).word32⟩
        senderErrorEstimate := ⟨f.word 54⟩
        senderTtl := f.octet 22 }
    let g := (r.handle clock f).frame
    g.octets.toList =
        (f.block 6 6).toList ++ (f.block 0 6).toList ++ (f.block 12 14).toList ++
        (f.block 30 4).toList ++ (f.block 26 4).toList ++
        (f.block 36 2).toList ++ (f.block 34 2).toList ++ (f.block 38 2).toList ++
        (ofWord16 (f.revisedCheck reply.octets)).toList ++ reply.octets.toList ++
        (f.block 86 (f.octets.size - 86)).toList ∧
      reply.octets.toList =
        (f.block 42 4).toList ++ reply.timestamp.octets.toList ++
        (ofWord16 reply.errorEstimate.bits).toList ++ [0, 0] ++
        reply.receiveTimestamp.octets.toList ++ (f.block 42 14).toList ++ [0, 0] ++
        [f.octet 22] ++ [0, 0, 0] ∧
      (f.word 40 = 0 → g.word 40 = 0) ∧
      (f.word 40 ≠ 0 → Holds f.datagramWords → g.word 40 = g.freshChecksum) := by
  intro c₂ c₃ reply g
  have hprobe := Reflector.isProbe_of_redirect h
  have hsize := hprobe.nested.le_size_octets
  have hreply : r.replyTo clock f = reply := by
    rw [Reflector.replyTo, replyTo, ofOctets_block]
    rfl
  have hg : g = f.replied reply.octets := by
    rw [← hreply]
    show (r.handle clock f).frame = _
    rw [Reflector.handle_of_isProbe r clock hprobe]
  have hkept := checksumKept_replied hprobe.nested reply.octets
  refine ⟨?_, ?_, ?_, ?_⟩
  · rw [hg, toList_octets_replied _ hsize]
  -- What the reply has of the sender are the first three fields of the probe, in their order.
  · have hprobeOctets : (f.block 42 14).toList =
        (f.block 42 4).toList ++ ((f.block 46 4).toList ++ (f.block 50 4).toList ++
          (f.block 54 2).toList) := by
      rw [← toList_block_add f 46 4 4, ← toList_block_add f 46 8 2, ← toList_block_add f 42 4 10]
    rw [Reply.toList_octets, hprobeOctets]
    simp only [reply, Timestamp.toList_octets, ofWord32_word32, ofWord16_word, List.append_assoc]
  · rw [hg]
    exact hkept.absent
  · rw [hg]
    exact hkept.fresh

/-- The sample answered, with the octets to spare still at the end of its buffer. -/
theorem octets_of_redirected_sample :
    let r := Reflector.sample none
    let clock : SteppingClock := ⟨1700000000000000000, 1000⟩
    (r.handle clock sample).disposition = .redirect 7 ∧
      (r.handle clock sample).frame.octets.toList = [
        0x02, 0, 0, 0, 0, 0x0a, 0x02, 0, 0, 0, 0, 0x0b, 0x08, 0,
        0x45, 0, 0, 0x49, 0x12, 0x34, 0x40, 0, 0x40, 0x11, 0x14, 0x6e, 0x0a, 0, 0, 0x02,
        0x0a, 0, 0, 0x01, 0x03, 0x5e, 0x9c, 0x40, 0, 0x35, 0xd4, 0x72,
        0, 0, 0, 0x07, 0xe8, 0xfe, 0x6f, 0x5b, 0, 0, 0x10, 0xd6, 0x8a, 0x03, 0, 0,
        0xe8, 0xfe, 0x6f, 0x5b, 0, 0, 0, 0, 0, 0, 0, 0x07, 0xe8, 0xe8, 0xe8, 0xe8, 0x40, 0, 0, 0,
        0x80, 0x01, 0, 0, 0x40, 0, 0, 0, 0x5a, 0xee, 0xee, 0xee] ∧
      (r.handle clock sample).frame.word 40 = (r.handle clock sample).frame.freshChecksum := by
  intro r clock
  have hredirect : (r.handle clock sample).disposition = .redirect 7 := by
    rw [Reflector.handle_of_isProbe r clock (by decide)]
    rfl
  obtain ⟨hbuffer, -, -, hfresh⟩ := octets_of_redirected r clock sample 7 hredirect
  refine ⟨hredirect, ?_, hfresh (by decide) (by decide)⟩
  rw [hbuffer]
  decide +kernel

end TwoWay.Frame
