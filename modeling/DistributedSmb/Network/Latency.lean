import DistributedSmb.Library.DelayQueue
import DistributedSmb.Library.Fallible
import DistributedSmb.Shared.Config
import Mathlib.Algebra.Order.Field.Rat
import Mathlib.Data.List.Induction
import Mathlib.Tactic.Linarith

/-!
# Artificial latency

The sending half of `network/transport/udp.py`. A handler with an artificial latency keeps its
packets in a heap, and looks into it only when it is given another packet that is not dropped.
-/

namespace DistributedSmb

open Library

structure Packet where
  payload : ByteArray
  remoteHost : Ip
  remotePort : ℕ

/-- The heap is kept in the order in which it is popped. `wire` has what the socket was given. -/
structure UdpHandler where
  artificialLatencyMs : ℕ
  outgoingQueue : DelayQueue ℚ Packet := []
  sendCounter : ℕ := 0
  wire : List Packet := []

/-- A call of `send_packet_nowait`: whether the packet is dropped, and the clock before the flush
and after it. -/
structure SendCall where
  packet : Packet
  dropped : Bool := false
  flushedAt : ℚ
  sentAt : ℚ

namespace UdpHandler

def flushOutgoing (h : UdpHandler) (now : ℚ) : UdpHandler :=
  let (out, waiting) := h.outgoingQueue.flush now
  { h with
    outgoingQueue := waiting
    wire := h.wire ++ out }

/-- `artificial_latency_ms / 1000.0` -/
def latency (h : UdpHandler) : ℚ := h.artificialLatencyMs / 1000

/-- A dropped packet does not flush the queue either. -/
def sendPacketNowait (h : UdpHandler) (c : SendCall) : UdpHandler :=
  if c.dropped then h
  else if h.artificialLatencyMs = 0 then { h with wire := h.wire ++ [c.packet] }
  else
    let h := h.flushOutgoing c.flushedAt
    let sendCounter := h.sendCounter + 1
    { h with
      sendCounter := sendCounter
      outgoingQueue := h.outgoingQueue.push ⟨c.sentAt + h.latency, sendCounter, c.packet⟩ }

def run (h : UdpHandler) (calls : List SendCall) : UdpHandler := calls.foldl sendPacketNowait h

/-- What was pushed by the calls, each entry with the count of those before it. -/
def pushed (latency : ℚ) (calls : List SendCall) : DelayQueue ℚ Packet :=
  calls.zipIdx.map fun (c, n) => ⟨c.sentAt + latency, n + 1, c.packet⟩

/-- `time.monotonic()` does not go back, from the flush to the push and from one call to the
next. -/
structure Clocked (calls : List SendCall) : Prop where
  within : ∀ c ∈ calls, c.flushedAt ≤ c.sentAt
  between : calls.Pairwise fun c c' => c.sentAt ≤ c'.flushedAt

@[simp] theorem pushed_concat (latency : ℚ) (calls : List SendCall) (c : SendCall) :
    pushed latency (calls ++ [c]) =
      pushed latency calls ++ [⟨c.sentAt + latency, calls.length + 1, c.packet⟩] := by
  simp [pushed, List.zipIdx_append]

theorem pushed_items (latency : ℚ) (calls : List SendCall) :
    (pushed latency calls).map Delayed.item = calls.map SendCall.packet := by
  induction calls using List.reverseRecOn with
  | nil => rfl
  | append_singleton calls c ih => simp [ih]

theorem pushed_due (latency now : ℚ) (calls : List SendCall) :
    ((pushed latency calls).filter fun e => e.due ≤ now).map Delayed.item =
      (calls.filter fun c => c.sentAt + latency ≤ now).map SendCall.packet := by
  induction calls using List.reverseRecOn with
  | nil => rfl
  | append_singleton calls c ih =>
    rw [pushed_concat, List.filter_append, List.map_append, ih, List.filter_append, List.map_append]
    by_cases hdue : c.sentAt + latency ≤ now <;> simp [hdue]

theorem mem_pushed {latency : ℚ} {calls : List SendCall} {e : Delayed ℚ Packet}
    (he : e ∈ pushed latency calls) :
    ∃ c ∈ calls, e.due = c.sentAt + latency ∧ e.ticket ≤ calls.length := by
  obtain ⟨⟨c, n⟩, hmem, rfl⟩ := List.mem_map.mp he
  have hn := List.snd_lt_of_mem_zipIdx hmem
  exact ⟨c, List.fst_mem_of_mem_zipIdx hmem, rfl, Nat.succ_le_of_lt (by simpa using hn)⟩

theorem Clocked.concat {calls : List SendCall} {c : SendCall} (h : Clocked (calls ++ [c])) :
    Clocked calls ∧ c.flushedAt ≤ c.sentAt ∧ ∀ c' ∈ calls, c'.sentAt ≤ c.flushedAt := by
  obtain ⟨hwithin, hbetween⟩ := h
  rw [List.pairwise_append] at hbetween
  refine ⟨⟨fun c' hc' => hwithin c' (by simp [hc']), hbetween.1⟩, hwithin c (by simp), ?_⟩
  intro c' hc'
  exact hbetween.2.2 c' hc' c (by simp)

theorem pushed_sorted (latency : ℚ) {calls : List SendCall} (h : Clocked calls) :
    (pushed latency calls).Pairwise fun e e' => e.due ≤ e'.due := by
  induction calls using List.reverseRecOn with
  | nil => exact .nil
  | append_singleton calls c ih =>
    obtain ⟨hcalls, hwithin, hbefore⟩ := h.concat
    rw [pushed_concat, List.pairwise_append]
    refine ⟨ih hcalls, by simp, ?_⟩
    intro e he e' he'
    obtain ⟨c', hc', hdue, -⟩ := mem_pushed he
    have := hbefore c' hc'
    obtain rfl := List.mem_singleton.mp he'
    rw [hdue]
    linarith

/-- A time of the last flush that is not after the next call. -/
theorem Clocked.last_flush {calls : List SendCall} {c : SendCall} (h : Clocked (calls ++ [c])) :
    ∃ now ≤ c.flushedAt, ∀ last ∈ calls.getLast?, now = last.flushedAt := by
  obtain ⟨hcalls, -, hbefore⟩ := h.concat
  cases hlast : calls.getLast? with
  | none => exact ⟨c.flushedAt, le_rfl, by simp⟩
  | some last =>
    have hmem := List.mem_of_getLast? hlast
    exact ⟨last.flushedAt, (hcalls.within last hmem).trans (hbefore last hmem), by simp⟩

/-- A handler after some calls has flushed what they pushed, at the time of the last of them. -/
structure Follows (h : UdpHandler) (ms : ℕ) (calls : List SendCall) : Prop where
  latency : h.artificialLatencyMs = ms
  counter : h.sendCounter = calls.length
  flushed : ∀ now, (∀ last ∈ calls.getLast?, now = last.flushedAt) →
    (pushed h.latency calls).flush now = (h.wire, h.outgoingQueue)

theorem Follows.send {h : UdpHandler} {ms : ℕ} {calls : List SendCall} {c : SendCall}
    (hh : h.Follows ms calls) (hms : ms ≠ 0) (hdropped : c.dropped = false)
    (clocked : Clocked (calls ++ [c])) : (h.sendPacketNowait c).Follows ms (calls ++ [c]) := by
  obtain ⟨hlatency, hcounter, hflushed⟩ := hh
  obtain ⟨now, hnow, hlast⟩ := clocked.last_flush
  obtain ⟨hcalls, hwithin, hbefore⟩ := clocked.concat
  have hpos : 0 < h.latency := by
    unfold UdpHandler.latency
    have : (0 : ℚ) < h.artificialLatencyMs := by
      exact_mod_cast (by omega : 0 < h.artificialLatencyMs)
    linarith
  -- What the call flushes, beside what was flushed before it.
  have hflush : (pushed h.latency calls).flush c.flushedAt =
      (h.wire ++ (h.outgoingQueue.flush c.flushedAt).1, (h.outgoingQueue.flush c.flushedAt).2) := by
    rw [DelayQueue.flush_flush hnow, hflushed now hlast]
  -- What it pushes goes to the end of what is left.
  have hpush : (h.outgoingQueue.flush c.flushedAt).2.push
      ⟨c.sentAt + h.latency, h.sendCounter + 1, c.packet⟩ =
      (h.outgoingQueue.flush c.flushedAt).2 ++
        [⟨c.sentAt + h.latency, h.sendCounter + 1, c.packet⟩] := by
    refine DelayQueue.push_last fun e he => ?_
    have hwaits : e ∈ pushed h.latency calls :=
      (DelayQueue.flush_suffix c.flushedAt (pushed h.latency calls)).subset (by rwa [hflush])
    obtain ⟨c', hc', hdue, hticket⟩ := mem_pushed hwaits
    have := hbefore c' hc'
    constructor
    · rw [hdue]
      linarith
    · change e.ticket < h.sendCounter + 1
      omega
  have hnot : ¬ c.sentAt + h.latency ≤ c.flushedAt := by linarith
  have hsend : h.sendPacketNowait c =
      { h with
        sendCounter := h.sendCounter + 1
        outgoingQueue := (h.outgoingQueue.flush c.flushedAt).2 ++
          [⟨c.sentAt + h.latency, h.sendCounter + 1, c.packet⟩]
        wire := h.wire ++ (h.outgoingQueue.flush c.flushedAt).1 } := by
    rw [sendPacketNowait, if_neg (by simp [hdropped]), if_neg (by omega), ← hpush]
    rfl
  rw [hsend]
  refine ⟨hlatency, by simp [hcounter], fun now' hnow' => ?_⟩
  obtain rfl : now' = c.flushedAt := by simpa using hnow'
  rw [pushed_concat, ← hcounter]
  have happend := DelayQueue.flush_append
    (e := ⟨c.sentAt + h.latency, h.sendCounter + 1, c.packet⟩) hnot (pushed h.latency calls)
  rw [hflush] at happend
  exact happend

theorem Follows.items {h : UdpHandler} {ms : ℕ} {calls : List SendCall} (hh : h.Follows ms calls) :
    h.wire ++ h.outgoingQueue.map Delayed.item = calls.map SendCall.packet := by
  obtain ⟨now, hlast⟩ : ∃ now, ∀ last ∈ calls.getLast?, now = last.flushedAt := by
    cases calls.getLast? with
    | none => exact ⟨0, by simp⟩
    | some last => exact ⟨last.flushedAt, by simp⟩
  have hitems := DelayQueue.flush_items now (pushed h.latency calls)
  rw [hh.flushed now hlast] at hitems
  exact hitems.trans (pushed_items _ _)

/-- The calls that the draw of `_should_drop_packet` lets through. -/
def kept (calls : List SendCall) : List SendCall := calls.filter fun c => !c.dropped

theorem run_follows {ms : ℕ} (hms : ms ≠ 0) (calls : List SendCall)
    (clocked : Clocked (kept calls)) :
    (run { artificialLatencyMs := ms } calls).Follows ms (kept calls) := by
  induction calls using List.reverseRecOn with
  | nil => exact ⟨rfl, rfl, fun _ _ => rfl⟩
  | append_singleton calls c ih =>
    rw [run, List.foldl_append]
    change Follows (sendPacketNowait (run { artificialLatencyMs := ms } calls) c) ms _
    cases hdropped : c.dropped
    case true =>
      have hkept : kept (calls ++ [c]) = kept calls := by simp [kept, hdropped]
      rw [hkept] at clocked ⊢
      rw [sendPacketNowait, if_pos hdropped]
      exact ih clocked
    case false =>
      have hkept : kept (calls ++ [c]) = kept calls ++ [c] := by simp [kept, hdropped]
      rw [hkept] at clocked ⊢
      exact (ih clocked.concat.1).send hms hdropped clocked

theorem run_immediate (calls : List SendCall) :
    run { artificialLatencyMs := 0 } calls =
      { artificialLatencyMs := 0, wire := (kept calls).map SendCall.packet } := by
  induction calls using List.reverseRecOn with
  | nil => rfl
  | append_singleton calls c ih =>
    rw [run, List.foldl_append]
    change sendPacketNowait (run { artificialLatencyMs := 0 } calls) c = _
    rw [ih]
    cases hdropped : c.dropped <;> simp [sendPacketNowait, kept, hdropped]

/-- Every packet that is not dropped is sent once and in order: at once without a latency, else at
the first call that comes after its latency and is not dropped itself. -/
theorem run_wire (ms : ℕ) (calls : List SendCall) (clocked : Clocked (kept calls)) :
    let h := run { artificialLatencyMs := ms } calls
    h.wire ++ h.outgoingQueue.map Delayed.item = (kept calls).map SendCall.packet ∧
    (ms = 0 → h.outgoingQueue = []) ∧
    (ms ≠ 0 → ∀ last ∈ (kept calls).getLast?,
      h.wire = ((kept calls).filter fun c => c.sentAt + ms / 1000 ≤ last.flushedAt).map
        SendCall.packet) := by
  obtain rfl | hms := eq_or_ne ms 0
  · rw [run_immediate]
    exact ⟨by simp, fun _ => rfl, fun h => absurd rfl h⟩
  · intro h
    have hfollows : h.Follows ms (kept calls) := run_follows hms calls clocked
    refine ⟨hfollows.items, fun h0 => absurd h0 hms, ?_⟩
    intro _ last hlast
    have hflush := hfollows.flushed last.flushedAt (by simp [Option.mem_def.mp hlast])
    have hsorted := DelayQueue.flush_sorted (pushed_sorted h.latency clocked) last.flushedAt
    rw [hflush, pushed_due] at hsorted
    have hms : h.latency = ms / 1000 := by rw [UdpHandler.latency, hfollows.latency]
    rw [hms] at hsorted
    exact hsorted

/-- With a latency of 100 ms, the first of two packets leaves at the second call, and the second
stays. -/
theorem run_wire_two :
    let first : Packet := ⟨.empty, "10.0.0.1", 5000⟩
    let second : Packet := ⟨.empty, "10.0.0.2", 5000⟩
    let h := run { artificialLatencyMs := 100 }
      [⟨first, false, 0, 0⟩, ⟨second, true, 1, 1⟩, ⟨second, false, 2, 2⟩]
    h.wire = [first] ∧ h.wire ++ h.outgoingQueue.map Delayed.item = [first, second] := by
  intro first second h
  have hwire := run_wire 100 [⟨first, false, 0, 0⟩, ⟨second, true, 1, 1⟩, ⟨second, false, 2, 2⟩]
    ⟨by simp [kept], by simp [kept]⟩
  refine ⟨?_, hwire.1⟩
  have hfirst := hwire.2.2 (by decide) ⟨second, false, 2, 2⟩ rfl
  norm_num [kept] at hfirst
  exact hfirst

end UdpHandler

end DistributedSmb
