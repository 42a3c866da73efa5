import OpenSyncRdk.Pl2rld.Decode

/-!
A client's stream is read in the pieces that the kernel hands out. The daemon keeps no input from one
wakeup to the next, so the cuts decide which of the client's messages it handles. `wakeup` is
`pl2rld_client_evio_cb`, which is not called any more for a client that was dropped.
-/

namespace OpenSyncRdk
namespace Pl2rld

open Pl2rl

structure Conn where
  sock : Stream
  client : Option PClient
  out : List Output

def accept (fd : Nat) (sock : Stream) : Conn :=
  { sock, client := some (clientAdd fd), out := [] }

def wakeup (lib : LogLib) (conn : Conn) (buf : Mem) : Conn :=
  match conn.client with
  | none => conn
  | some pc =>
    let res := clientRecv lib stream conn.sock buf pc
    { sock := res.sock, client := res.client, out := conn.out ++ res.out }

def wakeups (lib : LogLib) (conn : Conn) (bufs : List Mem) : Conn :=
  bufs.foldl (wakeup lib) conn

def Conn.Complete (conn : Conn) : Prop :=
  conn.sock.bytes = [] ∨ conn.client = none

def HeadWhole (msg : List UInt8) (cuts rest : List Nat) : Prop :=
  ∃ c1 c2, cuts = c1 :: c2 :: rest ∧ hdrSize ≤ c1 ∧ msg.length - hdrSize ≤ c2

def ArrivesWhole : List (List UInt8) → List Nat → Prop
  | [], _ => True
  | _ :: _, [] => False
  | msg :: msgs, 0 :: cuts => ArrivesWhole (msg :: msgs) cuts
  | _ :: _, [_ + 1] => False
  | msg :: msgs, (c1 + 1) :: c2 :: cuts =>
    hdrSize ≤ c1 + 1 ∧ msg.length - hdrSize ≤ c2 ∧ ArrivesWhole msgs cuts

def wholeCuts (msgs : List (List UInt8)) : List Nat :=
  msgs.flatMap (fun msg => [hdrSize, msg.length - hdrSize])

def arrivedWhole (lib : LogLib) (fd : Nat) (msgs : List (List UInt8)) : List Output :=
  (wakeups lib (accept fd { bytes := msgs.flatten, cuts := wholeCuts msgs })
    (msgs.map (fun _ _ => 0))).out

def LogFirst (msgs : List (List UInt8)) : Prop :=
  ∃ msg ∈ msgs.head?, (Mem.ofBytes msg).u16 0 = MsgType.log.toNat

def deliver (lib : LogLib) : Option PClient → List (List UInt8) → List Output
  | none, _ => []
  | some _, [] => []
  | some pc, msg :: msgs =>
    let res := handle lib pc (Mem.ofBytes msg)
    res.2 ++ deliver lib res.1 msgs

@[simp]
theorem wakeups_nil
    : wakeups lib conn [] = conn := by
  rfl

@[simp]
theorem wakeups_cons
    : wakeups lib conn (buf :: bufs) = wakeups lib (wakeup lib conn buf) bufs := by
  rfl

theorem read_nil {bytes : List UInt8} (hcount : count ≠ 0)
    : stream.read { bytes, cuts := [] } count = (.again, { bytes, cuts := [] }) := by
  simp [stream, Stream.read, hcount]

theorem read_none {bytes : List UInt8} (hcount : count ≠ 0) (hnone : bytes = [] ∨ cut = 0)
    : stream.read { bytes, cuts := cut :: cuts } count = (.again, { bytes, cuts }) := by
  have hret : min (min cut count) bytes.length = 0 := by
    rcases hnone with hnone | hnone <;> simp [hnone]
  simp only [stream, Stream.read, hcount, ↓reduceIte, hret]

theorem read_cut {bytes : List UInt8} (hcount : count ≠ 0) (hcut : cut ≠ 0)
    (hbytes : count ≤ bytes.length)
    : stream.read { bytes, cuts := cut :: cuts } count
        =
      (.data (bytes.take (min cut count)), { bytes := bytes.drop (min cut count), cuts }) := by
  have hret : min (min cut count) bytes.length = min cut count := by omega
  have hpos : min cut count ≠ 0 := by omega
  simp only [stream, Stream.read, hcount, ↓reduceIte, hret, hpos]

theorem store_parts (buf : Mem) (hlen : hdrSize ≤ msg.length)
    : (buf.store 0 (msg.take hdrSize)).store hdrSize (msg.drop hdrSize) = buf.store 0 msg := by
  have hparts := Mem.store_store buf 0 (msg.take hdrSize) (msg.drop hdrSize)
  rw [List.take_append_drop, List.length_take, Nat.min_eq_left hlen, Nat.zero_add] at hparts
  exact hparts

theorem u16_take (msg : List UInt8) (hoff : off + 2 ≤ hdrSize)
    : (Mem.ofBytes (msg.take hdrSize)).u16 off = (Mem.ofBytes msg).u16 off := by
  have htake : ∀ idx, idx < hdrSize → Mem.ofBytes (msg.take hdrSize) idx = Mem.ofBytes msg idx := by
    intro idx hidx
    simp only [Mem.ofBytes, List.getD_eq_getElem?_getD]
    rw [List.getElem?_take_of_lt hidx]
  simp only [Mem.u16]
  rw [htake off (by omega), htake (off + 1) (by omega)]

theorem clientRecv_rest (lib : LogLib) (buf : Mem) (pc : PClient) {S : Socket σ} {sock next last : σ}
    (hle : hdrSize ≤ msg.length) (htype : (Mem.ofBytes msg).u16 0 < MsgType.max)
    (hlength : (Mem.ofBytes msg).u16 2 = msg.length)
    (hhead : S.read sock hdrSize = (.data (msg.take hdrSize), next))
    (hbody : S.read next (sizeT (msg.length - hdrSize : Int)) = (res, last))
    : let recv := clientRecv lib S sock buf pc
      (res = .data (msg.drop hdrSize)
          → recv.sock = last ∧ (recv.client, recv.out) = handle lib pc (buf.store 0 msg))
        ∧ ((∀ body, res = .data body → body.length ≠ msg.length - hdrSize)
          → recv.client = none ∧ recv.out = []) := by
  have hlen : (msg.take hdrSize).length = hdrSize := by
    rw [List.length_take]
    omega
  unfold clientRecv
  rw [hhead]
  simp only [hlen, ne_eq, not_true_eq_false, ↓reduceIte]
  rw [u16_head buf _ hlen (by decide), u16_head buf _ hlen (by decide)]
  rw [u16_take msg (by decide), u16_take msg (by decide)]
  rw [hlength, hbody, if_neg (Nat.not_le_of_lt htype)]
  cases res with
  | again => simp
  | error => simp
  | data body =>
    constructor
    . intro hall
      injection hall with hall
      have hint : ((msg.drop hdrSize).length : Int) = msg.length - hdrSize := by
        rw [List.length_drop]
        omega
      simp only [hall, hint, not_true_eq_false, ↓reduceIte]
      rw [store_parts buf hle]
      simp
    . intro hpart
      have hint : ¬((body.length : Int) = msg.length - hdrSize) := by
        have := hpart body rfl
        omega
      simp [hint]

section

variable (lib : LogLib) (buf : Mem) (pc : PClient) (rest : List UInt8) {msg : List UInt8}
  {cuts : List Nat}

theorem clientRecv_waits (hnone : rest = [] ∨ cuts.headD 0 = 0)
    : clientRecv lib stream { bytes := rest, cuts } buf pc
        =
      { sock := { bytes := rest, cuts := cuts.tail }
        client := some pc
        asked := none
        stored := []
        out := []
      } := by
  have hcount : hdrSize ≠ 0 := by decide
  unfold clientRecv
  cases cuts with
  | nil =>
    rw [read_nil hcount]
    rfl
  | cons cut cuts =>
    rw [List.headD_cons] at hnone
    rw [read_none hcount hnone]
    rfl

theorem clientRecv_short (hmsg : WellFormed msg) (hpos : cut ≠ 0) (hcut : cut < hdrSize)
    : (clientRecv lib stream { bytes := msg ++ rest, cuts := cut :: cuts } buf pc).client = none
        ∧ (clientRecv lib stream { bytes := msg ++ rest, cuts := cut :: cuts } buf pc).out = [] := by
  have hlt := hmsg.hdrSize_lt
  have hcount : hdrSize ≠ 0 := by decide
  unfold clientRecv
  rw [read_cut hcount hpos (by rw [List.length_append]; omega)]
  rw [List.take_append_of_le_length (by omega)]
  have hlen : (msg.take (min cut hdrSize)).length ≠ hdrSize := by
    rw [List.length_take]
    omega
  simp only [hlen, ne_eq, not_false_eq_true, ↓reduceIte, and_self]

theorem clientRecv_header (hmsg : WellFormed msg) (hcut : hdrSize ≤ cut)
    (hbody
      : stream.read { bytes := msg.drop hdrSize ++ rest, cuts } (msg.length - hdrSize)
          =
        (res, sock))
    : let recv := clientRecv lib stream { bytes := msg ++ rest, cuts := cut :: cuts } buf pc
      (res = .data (msg.drop hdrSize)
          → recv.sock = sock ∧ (recv.client, recv.out) = handle lib pc (Mem.ofBytes msg))
        ∧ ((∀ body, res = .data body → body.length ≠ msg.length - hdrSize)
          → recv.client = none ∧ recv.out = []) := by
  have hlt := hmsg.hdrSize_lt
  have hle : hdrSize ≤ msg.length := by omega
  have hsize : sizeT (msg.length - hdrSize : Int) = msg.length - hdrSize := by
    have hfits := hmsg.fits
    unfold sizeT clientsBuf at *
    omega
  have hhead
      : stream.read { bytes := msg ++ rest, cuts := cut :: cuts } hdrSize
          =
        (.data (msg.take hdrSize), { bytes := msg.drop hdrSize ++ rest, cuts }) := by
    rw [read_cut (by decide) (by unfold hdrSize at hcut; omega) (by rw [List.length_append]; omega)]
    rw [Nat.min_eq_right hcut]
    rw [List.take_append_of_le_length hle, List.drop_append_of_le_length hle]
  rw [← hsize] at hbody
  rw [← handle_store lib pc buf hmsg]
  exact clientRecv_rest lib buf pc hle hmsg.msgType_lt hmsg.length hhead hbody

theorem clientRecv_whole (hmsg : WellFormed msg) (hwhole : HeadWhole msg cuts cs)
    : let recv := clientRecv lib stream { bytes := msg ++ rest, cuts } buf pc
      recv.sock = { bytes := rest, cuts := cs }
        ∧ (recv.client, recv.out) = handle lib pc (Mem.ofBytes msg) := by
  have hlt := hmsg.hdrSize_lt
  rcases hwhole with ⟨c1, c2, hcuts, hc1, hc2⟩
  have hlen : (msg.drop hdrSize).length = msg.length - hdrSize := List.length_drop
  have hbody
      : stream.read { bytes := msg.drop hdrSize ++ rest, cuts := c2 :: cs } (msg.length - hdrSize)
          =
        (.data (msg.drop hdrSize), { bytes := rest, cuts := cs }) := by
    rw [read_cut (by omega) (by omega) (by rw [List.length_append]; omega)]
    rw [Nat.min_eq_right hc2, ← hlen]
    rw [List.take_left, List.drop_left]
  rw [hcuts]
  exact (clientRecv_header lib buf pc rest hmsg hc1 hbody).1 rfl

theorem clientRecv_pieces (hmsg : WellFormed msg) (hcut : cut ≠ 0)
    (hpieces : ¬∃ cs, HeadWhole msg (cut :: cuts) cs)
    : let recv := clientRecv lib stream { bytes := msg ++ rest, cuts := cut :: cuts } buf pc
      recv.client = none ∧ recv.out = [] := by
  have hlt := hmsg.hdrSize_lt
  by_cases hhead : hdrSize ≤ cut
  . rcases hbody : stream.read { bytes := msg.drop hdrSize ++ rest, cuts } (msg.length - hdrSize)
      with ⟨res, sock⟩
    apply (clientRecv_header lib buf pc rest hmsg hhead hbody).2
    intro body hres
    rw [hres] at hbody
    cases cuts with
    | nil =>
      rw [read_nil (by omega)] at hbody
      simp at hbody
    | cons c2 cs =>
      by_cases hzero : c2 = 0
      . rw [hzero, read_none (by omega) (.inr rfl)] at hbody
        simp at hbody
      . have hless : c2 < msg.length - hdrSize := by
          apply Nat.lt_of_not_le
          intro hall
          exact hpieces ⟨cs, cut, c2, rfl, hhead, hall⟩
        rw [read_cut (by omega) hzero (by rw [List.length_append, List.length_drop]; omega)] at hbody
        injection hbody with hdata
        injection hdata with hdata
        rw [← hdata, List.length_take]
        omega
  . apply clientRecv_short lib buf pc rest hmsg hcut (by omega)

end

theorem HeadWhole.unique (h1 : HeadWhole msg cuts cs) (h2 : HeadWhole msg cuts cs')
    : cs = cs' := by
  rcases h1 with ⟨_, _, h1, _⟩
  rcases h2 with ⟨_, _, h2, _⟩
  rw [h1] at h2
  simp only [List.cons.injEq] at h2
  exact h2.2.2

theorem arrivesWhole_zero
    : ArrivesWhole (msg :: msgs) (0 :: cuts) ↔ ArrivesWhole (msg :: msgs) cuts := by
  rw [ArrivesWhole]

theorem arrivesWhole_cut (hcut : cut ≠ 0)
    : ArrivesWhole (msg :: msgs) (cut :: cuts)
        ↔
      ∃ cs, HeadWhole msg (cut :: cuts) cs ∧ ArrivesWhole msgs cs := by
  cases cut with
  | zero => contradiction
  | succ c1 =>
    cases cuts with
    | nil => simp [ArrivesWhole, HeadWhole]
    | cons c2 cuts =>
      simp only [ArrivesWhole, HeadWhole]
      constructor
      . rintro ⟨hc1, hc2, hrest⟩
        exact ⟨cuts, ⟨c1 + 1, c2, rfl, hc1, hc2⟩, hrest⟩
      . rintro ⟨cs, ⟨c1', c2', hcuts, hc1, hc2⟩, hrest⟩
        simp only [List.cons.injEq] at hcuts
        rcases hcuts with ⟨rfl, rfl, rfl⟩
        exact ⟨hc1, hc2, hrest⟩

theorem wakeup_waits (hnone : bytes = [] ∨ cuts.headD 0 = 0)
    : wakeup lib { sock := { bytes, cuts }, client := some pc, out } buf
        =
      { sock := { bytes, cuts := cuts.tail }, client := some pc, out } := by
  simp only [wakeup]
  rw [clientRecv_waits lib buf pc bytes hnone]
  simp

theorem wakeups_closed (hclosed : conn.client = none)
    : wakeups lib conn bufs = conn := by
  induction bufs with
  | nil => rfl
  | cons buf bufs ih =>
    rw [wakeups_cons]
    have hstep : wakeup lib conn buf = conn := by simp only [wakeup, hclosed]
    rw [hstep]
    exact ih

theorem wakeups_out_iff (lib : LogLib) (bufs : List Mem) (hmsgs : ∀ msg ∈ msgs, WellFormed msg)
    (hready : pc.registered = true ∨ ¬LogFirst msgs)
    (hcomplete : (wakeups lib
      { sock := { bytes := msgs.flatten, cuts }, client := some pc, out } bufs).Complete)
    : (wakeups lib { sock := { bytes := msgs.flatten, cuts }, client := some pc, out } bufs).out
          = out ++ deliver lib (some pc) msgs
        ↔
      ArrivesWhole msgs cuts := by
  induction bufs generalizing msgs cuts pc out with
  | nil =>
    cases msgs with
    | nil => simp [deliver, ArrivesWhole]
    | cons msg msgs =>
      have := (hmsgs msg (by simp)).hdrSize_lt
      rcases hcomplete with hbytes | hnone
      . rw [wakeups_nil] at hbytes
        simp only [List.flatten_cons, List.append_eq_nil_iff] at hbytes
        simp [hbytes.1] at this
      . simp at hnone
  | cons buf bufs ih =>
    rw [wakeups_cons] at hcomplete ⊢
    cases msgs with
    | nil =>
      rw [wakeup_waits (.inl List.flatten_nil)] at hcomplete ⊢
      rw [ih hmsgs hready hcomplete]
      simp only [ArrivesWhole]
    | cons msg msgs =>
      have hmsg := hmsgs msg (by simp)
      have hfirst : pc.registered = true ∨ (Mem.ofBytes msg).u16 0 ≠ MsgType.log.toNat := by
        simpa [LogFirst] using hready
      have ⟨pc', done, hhandle, hreg⟩ := handle_ready lib pc hmsg hfirst
      have hdeliver : deliver lib (some pc) (msg :: msgs) = done :: deliver lib (some pc') msgs := by
        simp only [deliver, hhandle, List.cons_append, List.nil_append]
      cases cuts with
      | nil =>
        rw [wakeup_waits (.inr rfl)] at hcomplete ⊢
        exact ih hmsgs hready hcomplete
      | cons cut cuts =>
        by_cases hcut : cut = 0
        . subst hcut
          rw [wakeup_waits (.inr rfl)] at hcomplete ⊢
          rw [arrivesWhole_zero]
          exact ih hmsgs hready hcomplete
        . rw [arrivesWhole_cut hcut, hdeliver]
          simp only [List.flatten_cons, wakeup] at hcomplete ⊢
          by_cases hwhole : ∃ cs, HeadWhole msg (cut :: cuts) cs
          . rcases hwhole with ⟨cs, hwhole⟩
            have ⟨hsock, hres⟩ := clientRecv_whole lib buf pc msgs.flatten hmsg hwhole
            rw [hhandle, Prod.mk.injEq] at hres
            -- From its first message on the client is registered, so each one shows in the output.
            rw [hsock, hres.1, hres.2] at hcomplete ⊢
            have hnext := ih (fun msg hmem => hmsgs msg (by simp [hmem])) (.inl hreg) hcomplete
            have happend
                : out ++ done :: deliver lib (some pc') msgs
                    =
                  out ++ [done] ++ deliver lib (some pc') msgs := by
              simp
            rw [happend, hnext]
            constructor
            . intro hrest
              exact ⟨cs, hwhole, hrest⟩
            . rintro ⟨cs', hwhole', hrest⟩
              rw [hwhole.unique hwhole']
              exact hrest
          . -- The client is dropped and what is due for this message never comes.
            have ⟨hclient, hout⟩ := clientRecv_pieces lib buf pc msgs.flatten hmsg hcut hwhole
            rw [wakeups_closed hclient, hout]
            constructor
            . intro heq
              simp at heq
            . rintro ⟨cs, hhead, _⟩
              exact absurd ⟨cs, hhead⟩ hwhole

@[simp]
theorem deliver_none
    : deliver lib none msgs = [] := by
  cases msgs <;> rfl

theorem headWhole_wholeCuts (msg : List UInt8) (msgs : List (List UInt8))
    : HeadWhole msg (wholeCuts (msg :: msgs)) (wholeCuts msgs) := by
  refine ⟨hdrSize, msg.length - hdrSize, ?_, Nat.le_refl _, Nat.le_refl _⟩
  simp [wholeCuts]

theorem wakeups_wholeCuts (lib : LogLib) (hmsgs : ∀ msg ∈ msgs, WellFormed msg)
    : (wakeups lib { sock := { bytes := msgs.flatten, cuts := wholeCuts msgs }, client, out }
        (msgs.map (fun _ _ => 0))).out
        =
      out ++ deliver lib client msgs := by
  induction msgs generalizing client out with
  | nil => cases client <;> simp [deliver]
  | cons msg msgs ih =>
    cases client with
    | none => rw [wakeups_closed rfl, deliver_none, List.append_nil]
    | some pc =>
      have hmsg := hmsgs msg (by simp)
      have hwhole := headWhole_wholeCuts msg msgs
      have ⟨hsock, hres⟩ := clientRecv_whole lib (fun _ => 0) pc msgs.flatten hmsg hwhole
      rw [Prod.ext_iff] at hres
      simp only [List.map_cons, wakeups_cons, List.flatten_cons, wakeup, deliver]
      rw [hsock, ih (fun msg hmem => hmsgs msg (by simp [hmem]))]
      rw [← hres.1, ← hres.2, List.append_assoc]

theorem arrivedWhole_eq (lib : LogLib) (fd : Nat) (hmsgs : ∀ msg ∈ msgs, WellFormed msg)
    : arrivedWhole lib fd msgs = deliver lib (some (clientAdd fd)) msgs := by
  simp only [arrivedWhole, accept]
  rw [wakeups_wholeCuts lib hmsgs, List.nil_append]

theorem wakeups_logFirst (lib : LogLib) (bufs : List Mem) (hmsgs : ∀ msg ∈ msgs, WellFormed msg)
    (hreg : pc.registered = false) (hlog : LogFirst msgs)
    : (wakeups lib { sock := { bytes := msgs.flatten, cuts }, client := some pc, out } bufs).out
        =
      out := by
  cases msgs with
  | nil => simp [LogFirst] at hlog
  | cons msg msgs =>
    have hmsg := hmsgs msg (by simp)
    have hhandle := handle_unregistered lib pc hreg (by simpa [LogFirst] using hlog)
    induction bufs generalizing cuts with
    | nil => rfl
    | cons buf bufs ih =>
      rw [wakeups_cons]
      by_cases hcut : cuts.headD 0 = 0
      . rw [wakeup_waits (.inr hcut)]
        exact ih
      . cases cuts with
        | nil => simp at hcut
        | cons cut cuts =>
          rw [List.headD_cons] at hcut
          simp only [List.flatten_cons, wakeup]
          by_cases hwhole : ∃ cs, HeadWhole msg (cut :: cuts) cs
          . rcases hwhole with ⟨cs, hwhole⟩
            have ⟨_, hres⟩ := clientRecv_whole lib buf pc msgs.flatten hmsg hwhole
            rw [hhandle, Prod.mk.injEq] at hres
            rw [wakeups_closed hres.1, hres.2, List.append_nil]
          . have ⟨hclient, hout⟩ := clientRecv_pieces lib buf pc msgs.flatten hmsg hcut hwhole
            rw [wakeups_closed hclient, hout, List.append_nil]

/--
Over a run that reads all of a client's messages or drops the client, the daemon does what it does
where every message arrives whole if and only if every message does arrive whole, or the client sends
a LOG message first.
-/
theorem wakeups_eq_arrivedWhole_iff (lib : LogLib) (fd : Nat) (msgs : List (List UInt8))
    (hmsgs : ∀ msg ∈ msgs, WellFormed msg) (cuts : List Nat) (bufs : List Mem)
    (hcomplete : (wakeups lib (accept fd { bytes := msgs.flatten, cuts }) bufs).Complete)
    : (wakeups lib (accept fd { bytes := msgs.flatten, cuts }) bufs).out = arrivedWhole lib fd msgs
        ↔
      ArrivesWhole msgs cuts ∨ LogFirst msgs := by
  rw [arrivedWhole_eq lib fd hmsgs]
  unfold accept at *
  by_cases hlog : LogFirst msgs
  . have hdeliver : deliver lib (some (clientAdd fd)) msgs = [] := by
      rcases hlog with ⟨msg, hhead, hlog⟩
      cases msgs with
      | nil => simp at hhead
      | cons msg' msgs =>
        simp only [List.head?_cons, Option.mem_def, Option.some.injEq] at hhead
        rw [← hhead] at hlog
        simp only [deliver, handle_unregistered lib (clientAdd fd) rfl hlog, deliver_none,
          List.append_nil]
    rw [wakeups_logFirst lib bufs hmsgs rfl hlog, hdeliver]
    simp [hlog]
  . rw [← wakeups_out_iff lib bufs hmsgs (.inr hlog) hcomplete]
    simp [hlog]

theorem wakeups_eq_arrivedWhole_iff_register
    : let proc := { pid := 100, name := cstr "wm" }
      let lib := { severity := fun _ => none, moduleStr := fun _ => [] }
      (wakeups lib (accept 5 { bytes := [registerMsg proc].flatten, cuts := [0, 4, 36] })
          [fun _ => 0, fun _ => 0]).out
        =
      arrivedWhole lib 5 [registerMsg proc] := by
  intro proc lib
  rw [wakeups_eq_arrivedWhole_iff]
  . exact .inl (by simp [ArrivesWhole, hdrSize, regDataSize, nameLen])
  . simpa using registerMsg_wellFormed proc
  . exact .inl (by decide +kernel)

theorem wakeups_ne_arrivedWhole_pieces
    : ¬∀ (lib : LogLib) (fd : Nat) (msgs : List (List UInt8)) (cuts : List Nat) (bufs : List Mem),
        (∀ msg ∈ msgs, WellFormed msg)
          → (wakeups lib (accept fd { bytes := msgs.flatten, cuts }) bufs).Complete
          → (wakeups lib (accept fd { bytes := msgs.flatten, cuts }) bufs).out
              =
            arrivedWhole lib fd msgs := by
  intro hall
  have heq := hall { severity := fun _ => none, moduleStr := fun _ => [] } 5
    [registerMsg { pid := 100, name := cstr "wm" }] [4, 20, 16] [fun _ => 0]
    (by simpa using registerMsg_wellFormed _) (.inr (by decide +kernel))
  exact absurd heq (by decide +kernel)

end Pl2rld
end OpenSyncRdk
