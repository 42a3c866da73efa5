import OpenSyncRdk.Pl2rld.Chunks
import OpenSyncRdk.Pl2rl.Wire

/-!
The daemon's end of a connection whose other end may have been closed. What the client has written before
can still be read then, and after it `read` returns 0.
-/

namespace OpenSyncRdk
namespace Pl2rld

open Pl2rl

structure Pipe where
  queue : Stream
  closed : Bool

def Pipe.read (s : Pipe) (count : Nat) : ReadRes × Pipe :=
  if s.closed ∧ s.queue.bytes = [] then
    (.data [], s)
  else
    let res := stream.read s.queue count
    (res.1, { s with queue := res.2 })

theorem Pipe.read_le (s : Pipe) (count : Nat) (bytes : List UInt8) (t : Pipe)
    (hread : s.read count = (.data bytes, t))
    : bytes.length ≤ count := by
  unfold Pipe.read at hread
  split at hread
  . injection hread with hdata
    injection hdata with hdata
    simp [← hdata]
  . injection hread with hdata
    exact stream.read_le s.queue count bytes (stream.read s.queue count).2 (Prod.ext hdata rfl)

def pipe : Socket Pipe :=
  { read := Pipe.read, read_le := Pipe.read_le }

theorem pipe_read_cut {bytes : List UInt8} {count cut : Nat} {cuts : List Nat} (closed : Bool)
    (hcount : 0 < count) (hcut : count ≤ cut) (hbytes : count ≤ bytes.length)
    : pipe.read { queue := { bytes, cuts := cut :: cuts }, closed } count
        =
      (.data (bytes.take count), { queue := { bytes := bytes.drop count, cuts }, closed }) := by
  have hne : bytes ≠ [] := List.ne_nil_of_length_pos (by omega)
  have hread : stream.read { bytes, cuts := cut :: cuts } count = _ :=
    read_cut (by omega) (by omega) hbytes
  rw [Nat.min_eq_right hcut] at hread
  simp only [pipe, Pipe.read]
  rw [if_neg (fun hend => hne hend.2), hread]

theorem stream_read_bytes {s t : Stream} {count : Nat} {res : ReadRes}
    (hread : stream.read s count = (res, t))
    : (res = .again ∧ t.bytes = s.bytes) ∨ ∃ bytes, res = .data bytes ∧ s.bytes = bytes ++ t.bytes := by
  simp only [stream, Stream.read] at hread
  split at hread
  . injection hread with hres ht
    exact .inr ⟨[], hres.symm, by rw [← ht]; rfl⟩
  . split at hread
    . injection hread with hres ht
      exact .inl ⟨hres.symm, by rw [← ht]⟩
    . split at hread
      . injection hread with hres ht
        exact .inl ⟨hres.symm, by rw [← ht]⟩
      . injection hread with hres ht
        refine .inr ⟨_, hres.symm, ?_⟩
        rw [← ht, List.take_append_drop]

theorem pipe_read_bytes {s t : Pipe} {count : Nat} {res : ReadRes}
    (hread : pipe.read s count = (res, t))
    : (res = .again ∧ t.queue.bytes = s.queue.bytes)
        ∨ ∃ bytes, res = .data bytes ∧ s.queue.bytes = bytes ++ t.queue.bytes := by
  simp only [pipe, Pipe.read] at hread
  split at hread
  . injection hread with hres ht
    exact .inr ⟨[], hres.symm, by rw [← ht]; rfl⟩
  . injection hread with hres ht
    rw [← ht, ← hres]
    exact stream_read_bytes rfl

section

variable (lib : LogLib) (buf : Mem) (pc : PClient)

theorem pipe_whole {msg : List UInt8} {cuts cs : List Nat} (rest : List UInt8) (closed : Bool)
    (hmsg : WellFormed msg) (hwhole : HeadWhole msg cuts cs)
    : let recv := clientRecv lib pipe { queue := { bytes := msg ++ rest, cuts }, closed } buf pc
      recv.sock.queue.bytes = rest ∧ (recv.client, recv.out) = handle lib pc (Mem.ofBytes msg) := by
  have hlt := hmsg.hdrSize_lt
  have hle : hdrSize ≤ msg.length := by omega
  have hfits := hmsg.fits
  have hsize : sizeT (msg.length - hdrSize : Int) = msg.length - hdrSize := by
    unfold sizeT clientsBuf at *
    omega
  obtain ⟨c1, c2, hcuts, hc1, hc2⟩ := hwhole
  have hhead
      : pipe.read { queue := { bytes := msg ++ rest, cuts := c1 :: c2 :: cs }, closed } hdrSize
          =
        ( .data (msg.take hdrSize)
        , { queue := { bytes := msg.drop hdrSize ++ rest, cuts := c2 :: cs }, closed }
        ) := by
    rw [pipe_read_cut closed (by decide) hc1 (by rw [List.length_append]; omega)]
    rw [List.take_append_of_le_length hle, List.drop_append_of_le_length hle]
  have hlen : (msg.drop hdrSize).length = msg.length - hdrSize := List.length_drop
  have hbody
      : pipe.read { queue := { bytes := msg.drop hdrSize ++ rest, cuts := c2 :: cs }, closed }
            (sizeT (msg.length - hdrSize : Int))
          =
        (.data (msg.drop hdrSize), { queue := { bytes := rest, cuts := cs }, closed }) := by
    rw [hsize, pipe_read_cut closed (by omega) hc2 (by rw [List.length_append]; omega)]
    rw [← hlen, List.take_left, List.drop_left]
  have hrecv := (clientRecv_rest lib buf pc hle hmsg.msgType_lt hmsg.length hhead hbody).1 rfl
  rw [← handle_store lib pc buf hmsg, hcuts]
  exact ⟨by rw [hrecv.1], hrecv.2⟩

theorem pipe_waits {bytes : List UInt8} (cuts : List Nat) (closed : Bool)
    (hnone : (bytes = [] ∧ closed = false) ∨ (bytes ≠ [] ∧ cuts.headD 0 = 0))
    : let recv := clientRecv lib pipe { queue := { bytes, cuts }, closed } buf pc
      recv.sock.queue.bytes = bytes ∧ recv.client = some pc ∧ recv.out = [] := by
  have hopen : ¬(closed = true ∧ bytes = []) := by
    rcases hnone with ⟨_, hfalse⟩ | ⟨hne, _⟩
    . simp [hfalse]
    . exact fun hend => hne hend.2
  have hagain : stream.read { bytes, cuts } hdrSize = (.again, { bytes, cuts := cuts.tail }) := by
    cases cuts with
    | nil => exact read_nil (by decide)
    | cons cut cuts => exact read_none (by decide) (hnone.imp And.left And.right)
  have hread
      : pipe.read { queue := { bytes, cuts }, closed } hdrSize
          =
        (.again, { queue := { bytes, cuts := cuts.tail }, closed }) := by
    simp only [pipe, Pipe.read]
    rw [if_neg hopen, hagain]
  dsimp only
  unfold clientRecv
  rw [hread]
  exact ⟨rfl, rfl, rfl⟩

theorem pipe_part {msg part : List UInt8} (cuts : List Nat) (hmsg : WellFormed msg)
    (hpart : Part msg part)
    : let recv := clientRecv lib pipe { queue := { bytes := part, cuts }, closed := true } buf pc
      recv.out = []
        ∧ (recv.client = none ∨ (recv.client = some pc ∧ recv.sock.queue.bytes = part)) := by
  have hlt := hmsg.hdrSize_lt
  have hshorter := hpart.shorter
  rcases hhead : pipe.read { queue := { bytes := part, cuts }, closed := true } hdrSize with
    ⟨res, next⟩
  rcases pipe_read_bytes hhead with ⟨hres, hbytes⟩ | ⟨head, hres, hbytes⟩
  . dsimp only
    unfold clientRecv
    rw [hhead, hres]
    exact ⟨rfl, .inr ⟨rfl, hbytes⟩⟩
  . have hlength := congrArg List.length hbytes
    dsimp only at hbytes hlength
    rw [List.length_append] at hlength
    rw [hres] at hhead
    by_cases hsize : head.length = hdrSize
    . have hmsgHead : head = msg.take hdrSize := by
        have hstart := hpart.start
        rw [hbytes] at hstart
        rw [← hsize]
        exact List.prefix_iff_eq_take.mp ((List.prefix_append _ _).trans hstart)
      rw [hmsgHead] at hhead
      rcases hbody : pipe.read next (sizeT (msg.length - hdrSize : Int)) with ⟨res, last⟩
      have hrest :=
        (clientRecv_rest lib buf pc (by omega) hmsg.msgType_lt hmsg.length hhead hbody).2 ?_
      . exact ⟨hrest.2, .inl hrest.1⟩
      intro body hbodyRes
      rcases pipe_read_bytes hbody with ⟨hagain, _⟩ | ⟨bytes, hdata, hleft⟩
      . rw [hagain] at hbodyRes
        contradiction
      . rw [hdata] at hbodyRes
        injection hbodyRes with hbodyRes
        have hleft := congrArg List.length hleft
        rw [List.length_append, hbodyRes] at hleft
        omega
    . dsimp only
      unfold clientRecv
      rw [hhead]
      dsimp only
      rw [if_pos hsize]
      exact ⟨rfl, .inl rfl⟩

end

end Pl2rld
end OpenSyncRdk
