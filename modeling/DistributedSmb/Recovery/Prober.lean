import DistributedSmb.Network.DecodeErrors

/-!
# Probing for the current host

`RecoveryProber.find_current_host`: the cached peers are asked one after the other, and the first
one that identifies a host of the session is believed. A reply is what the socket yields for the
probe of a peer; `none` is a timeout or a socket error.
-/

namespace DistributedSmb

open Library Fallible

section
variable (text : JsonText) (py : Runtime) (sessionId : String)

def probePeers : List (Option ByteArray) → Except PyError (Option Ip)
  | [] => .ok none
  | none :: rest => probePeers rest
  | some payload :: rest =>
    match text.decodeMessage py payload with
    | .error e => if e.isValueError then probePeers rest else .error e
    | .ok (some (.hostIdentityResponse response)) =>
      if response.sessionId ≠ sessionId then probePeers rest else .ok (some response.hostIp)
    | .ok _ => probePeers rest

/-- The probe is built once, and only if there is a peer to send it to. -/
def findCurrentHost (requesterIp : Ip) (replies : List (Option ByteArray)) :
    Except PyError (Option Ip) :=
  if replies.isEmpty then .ok none
  else do
    let _ ← HostDiscoveryProbe.checked ⟨sessionId, requesterIp⟩
    probePeers text py sessionId replies

/-- The host that a reply identifies, if it is a response for the session. -/
def hostNamed (reply : Option ByteArray) : Option Ip :=
  match reply.map (text.decodeMessage py) with
  | some (.ok (some (.hostIdentityResponse response))) =>
    if response.sessionId = sessionId then some response.hostIp else none
  | _ => none

/-- A reply whose document, if it is one, has the shape its decoder expects. -/
def ReplyReadable (reply : Option ByteArray) : Prop :=
  ∀ payload, reply = some payload → ∀ document, text.decode payload = .ok document →
    UdpReadable py document

variable {text py sessionId}

theorem replyReadable_some {payload : ByteArray} :
    ReplyReadable text py (some payload) ↔
      RaisesOnly (Caught False) (text.decodeMessage py payload) := by
  simp [ReplyReadable, text.raisesOnly_decodeMessage]

/-- A readable reply either ends the search with the host it names, or the search goes on. -/
theorem probePeers_of_readable {payload : ByteArray} {rest : List (Option ByteArray)}
    (h : ReplyReadable text py (some payload)) :
    probePeers text py sessionId (some payload :: rest) =
      match hostNamed text py sessionId (some payload) with
      | some hostIp => .ok (some hostIp)
      | none => probePeers text py sessionId rest := by
  rw [replyReadable_some] at h
  rw [probePeers, hostNamed, Option.map_some]
  cases hdecode : text.decodeMessage py payload with
  | error e =>
    have hvalue : e.isValueError = true := by
      have := h e hdecode
      simpa [Caught] using this
    simp [hvalue]
  | ok message =>
    cases message with
    | none => rfl
    | some message =>
      cases message with
      | hostIdentityResponse response =>
        by_cases hsession : response.sessionId = sessionId <;> simp [hsession]
      | _ => rfl

/-- Any other reply ends it with an exception. -/
theorem probePeers_of_unreadable {payload : ByteArray} {rest : List (Option ByteArray)}
    (h : ¬ ReplyReadable text py (some payload)) :
    ∃ e, probePeers text py sessionId (some payload :: rest) = .error e := by
  rw [replyReadable_some] at h
  cases hdecode : text.decodeMessage py payload with
  | error e =>
    refine ⟨e, ?_⟩
    have hescapes : ¬ e.isValueError = true := by simpa [hdecode, Caught] using h
    simp [probePeers, hdecode, hescapes]
  | ok message => simp [hdecode] at h

/-- Replies after the one that names the host are not waited for. -/
theorem probePeers_eq_iff {replies : List (Option ByteArray)} :
    probePeers text py sessionId replies = .ok (replies.findSome? (hostNamed text py sessionId)) ↔
      UpToFirst (fun reply => hostNamed text py sessionId reply = none) (ReplyReadable text py)
        replies := by
  induction replies with
  | nil => simp [probePeers, UpToFirst]
  | cons reply rest ih =>
    cases reply with
    | none =>
      have hnamed : hostNamed text py sessionId none = none := rfl
      simp [probePeers, UpToFirst, hnamed, ih, ReplyReadable]
    | some payload =>
      by_cases hread : ReplyReadable text py (some payload)
      · rw [probePeers_of_readable hread, UpToFirst, List.findSome?_cons]
        cases hnamed : hostNamed text py sessionId (some payload) with
        | none => simp [hread, ih]
        | some hostIp => simp [hread]
      · obtain ⟨e, he⟩ : ∃ e, probePeers text py sessionId (some payload :: rest) = .error e :=
          probePeers_of_unreadable hread
        simp [he, UpToFirst, hread]

theorem findCurrentHost_eq_iff {requesterIp : Ip} {replies : List (Option ByteArray)} :
    findCurrentHost text py sessionId requesterIp replies =
        .ok (replies.findSome? (hostNamed text py sessionId)) ↔
      (replies ≠ [] → sessionId ≠ "" ∧ requesterIp ≠ "") ∧
        UpToFirst (fun reply => hostNamed text py sessionId reply = none) (ReplyReadable text py)
          replies := by
  rw [← probePeers_eq_iff]
  cases replies with
  | nil => simp [findCurrentHost, probePeers]
  | cons reply rest =>
    by_cases hsession : sessionId = ""
    · simp [findCurrentHost, HostDiscoveryProbe.checked, requireText, hsession]
    · by_cases hip : requesterIp = ""
      · simp [findCurrentHost, HostDiscoveryProbe.checked, requireText, hsession, hip]
      · simp [findCurrentHost, HostDiscoveryProbe.checked, requireText, hsession, hip]

end

/-! ## What callers survive -/

/-- Exactly the readable documents leave the decoders through a message or through an exception
that their callers catch, and the search for the host goes on past exactly the readable replies. -/
theorem decoding_survived_iff (text : JsonText) (py : Runtime) :
    (∀ document, RaisesOnly (Caught True) (decodeWsMessage py document) ↔ WsReadable document) ∧
    (∀ payload, RaisesOnly (Caught False) (text.decodeMessage py payload) ↔
      ∀ document, text.decode payload = .ok document → UdpReadable py document) ∧
    ∀ sessionId requesterIp replies,
      findCurrentHost text py sessionId requesterIp replies =
          .ok (replies.findSome? (hostNamed text py sessionId)) ↔
        (replies ≠ [] → sessionId ≠ "" ∧ requesterIp ≠ "") ∧
          UpToFirst (fun reply => hostNamed text py sessionId reply = none)
            (ReplyReadable text py) replies :=
  ⟨raisesOnly_decodeWsMessage py, text.raisesOnly_decodeMessage py,
    fun _ _ _ => findCurrentHost_eq_iff⟩

/-! ## World states without characters -/

def emptySync : Json :=
  .obj [("message_type", .str "initial_state_sync"), ("world_state", .obj [])]

def emptySnapshot : Json :=
  .obj [("message_type", .str "world_state"), ("sequence_number", .num 1),
    ("world_state", .obj [])]

def emptySnapshotText : String :=
  "\x7b\"message_type\": \"world_state\", \"sequence_number\": 1, \"world_state\": \x7b\x7d\x7d"

def hostResponse : UdpMessage := .hostIdentityResponse ⟨"s", "10.0.0.2"⟩

def hostResponseText : String :=
  "\x7b\"session_id\": \"s\", \"host_ip\": \"10.0.0.2\", " ++
    "\"message_type\": \"host_identity_response\"\x7d"

/-- The texts of these two datagrams. -/
def probeTexts : JsonText where
  dumps _ := hostResponseText
  loads string :=
    if string = emptySnapshotText then .ok emptySnapshot
    else .ok (encodeMessage sortedOrder hostResponse)
  loads_error string e h := by split at h <;> cases h

/-- A world state without characters leaves both decoders with a `KeyError`, and one reply of that
kind hides the host that the next peer names. -/
theorem decoding_not_survived :
    ¬ RaisesOnly (Caught True) (decodeWsMessage strictRuntime emptySync) ∧
    ¬ RaisesOnly (Caught False)
      (probeTexts.decodeMessage strictRuntime emptySnapshotText.toUTF8) ∧
    [some emptySnapshotText.toUTF8, some hostResponseText.toUTF8].findSome?
      (hostNamed probeTexts strictRuntime "s") = some "10.0.0.2" ∧
    findCurrentHost probeTexts strictRuntime "s" "10.0.0.3"
      [some emptySnapshotText.toUTF8, some hostResponseText.toUTF8] =
        .error (.keyError "characters") := by
  have hsnapshot : probeTexts.decodeMessage strictRuntime emptySnapshotText.toUTF8 =
      .error (.keyError "characters") := by
    rw [JsonText.decodeMessage, JsonText.decode_toUTF8]
    rfl
  have hresponse : probeTexts.decodeMessage strictRuntime hostResponseText.toUTF8 =
      .ok (some hostResponse) := by
    rw [JsonText.decodeMessage, JsonText.decode_toUTF8]
    rfl
  generalize emptySnapshotText.toUTF8 = snapshotPayload at hsnapshot ⊢
  generalize hostResponseText.toUTF8 = responsePayload at hresponse ⊢
  refine ⟨?_, ?_, ?_, ?_⟩
  · intro h
    exact not_caught_keyError "characters" (h _ rfl)
  · rw [hsnapshot]
    simp
  · simp [hostNamed, hsnapshot, hresponse, hostResponse]
  · simp [findCurrentHost, HostDiscoveryProbe.checked, requireText, probePeers, hsnapshot,
      PyError.isValueError]

end DistributedSmb
