import DistributedSmb.Lobby.Manager

/-!
# Session metadata

`shared/session_metadata.py`: the file from which a client that was closed finds its session again,
and the roster that `_try_recover_session` builds from it. The reader checks the types of what it
finds; the roster checks the values once more.
-/

namespace DistributedSmb

open Library

structure CachedPeer where
  playerId : PlayerId
  ip : Ip
  joinIndex : ℤ
  deriving DecidableEq, Repr

structure SessionMetadata where
  sessionId : String
  localPlayerId : PlayerId
  peers : List CachedPeer
  joinIndex : Option ℤ := none
  deriving DecidableEq, Repr

/-! ## Documents -/

/-- What `json.load` builds. Nothing looks into a float. -/
inductive PyValue where
  | null
  | bool (b : Bool)
  | int (z : ℤ)
  | float
  | str (s : String)
  | list (items : List PyValue)
  | dict (members : List (String × PyValue))

namespace PyValue

def str? : PyValue → Option String
  | str s => some s
  | _ => none

/-- `isinstance(value, int)` holds of booleans too, which count as 0 and 1. -/
def int? : PyValue → Option ℤ
  | int z => some z
  | bool b => some (if b then 1 else 0)
  | _ => none

def list? : PyValue → Option (List PyValue)
  | list items => some items
  | _ => none

def dict? : PyValue → Option (Dict String PyValue)
  | dict members => some (Dict.ofList members)
  | _ => none

end PyValue

/-- `str.isdigit` and `int`, which go by the Unicode tables of the interpreter. A string that is no
numeral is refused with a `ValueError`. -/
structure Numerals where
  isdigit : String → Bool
  int : String → Except PyError ℤ
  int_error : ∀ s e, int s = .error e → e.isValueError

/-- The `json` module on these documents; `loads` refuses a text with a `ValueError`. -/
structure DocumentText where
  dumps : PyValue → String
  loads : String → Except PyError PyValue
  loads_error : ∀ text e, loads text = .error e → e.isValueError

/-- `dumps` loses nothing of this document. -/
def DocumentText.Lossless (text : DocumentText) (document : PyValue) : Prop :=
  text.loads (text.dumps document) = .ok document

/-- The file is opened as UTF-8. -/
def DocumentText.load (text : DocumentText) (content : ByteArray) : Except PyError PyValue :=
  match String.fromUTF8? content with
  | some string => text.loads string
  | none => .error (.valueError "'utf-8' codec can't decode")

/-- What is found at the path of `session_metadata.json`; opening it may raise an `OSError`. -/
inductive StoredFile where
  | missing
  | unreadable
  | content (bytes : ByteArray)

/-! ## Reading and writing -/

def CachedPeer.read (peer : PyValue) : Option CachedPeer := do
  let peer ← peer.dict?
  let playerId ← (peer.get? "player_id").bind PyValue.str?
  let ip ← (peer.get? "ip").bind PyValue.str?
  let joinIndex ← (peer.get? "join_index").bind PyValue.int?
  some ⟨playerId, ip, joinIndex⟩

/-- A player id that begins with `player`, without that. -/
def playerSuffix (playerId : PlayerId) : Option String :=
  if "player".toList.isPrefixOf playerId.toList then some (String.ofList (playerId.toList.drop 6))
  else none

/-- Files of an older version have no join index; it is then the one of the player id. -/
def legacySlot (py : Numerals) (localPlayerId : PlayerId) : Except PyError (Option ℤ) :=
  match playerSuffix localPlayerId with
  | none => .ok none
  | some suffix =>
    if py.isdigit suffix then do
      let n ← py.int suffix
      .ok (if 0 < n ∧ n ≤ maxPlayers then some (n - 1) else none)
    else .ok none

/-- The join index that the file gives, unless it is refused. -/
def readSlot (py : Numerals) (joinIndex : Option PyValue) (localPlayerId : PlayerId) :
    Except PyError (Option (Option ℤ)) :=
  match joinIndex with
  | some (.int z) => .ok (if 0 ≤ z ∧ z < maxPlayers then some (some z) else none)
  | none | some .null => do
    let slot ← legacySlot py localPlayerId
    .ok (some slot)
  | some _ => .ok none

namespace SessionMetadata

/-- The player id is the one of the join index. -/
def OwnsSlot (m : SessionMetadata) : Prop := ∀ i ∈ m.joinIndex, m.localPlayerId = playerIdFor i

instance (m : SessionMetadata) : Decidable m.OwnsSlot :=
  inferInstanceAs (Decidable (∀ i ∈ m.joinIndex, m.localPlayerId = playerIdFor i))

/-- `raw.get` does not exist unless the document is an object. -/
def parse (py : Numerals) (raw : PyValue) : Except PyError (Option SessionMetadata) :=
  match raw.dict? with
  | none => .error (.attributeError "get")
  | some raw =>
    match (raw.get? "peers").bind PyValue.list? with
    | none => .ok none
    | some items =>
      match items.mapM CachedPeer.read, (raw.get? "session_id").bind PyValue.str?,
        (raw.get? "local_player_id").bind PyValue.str? with
      | some peers, some sessionId, some localPlayerId => do
        let slot ← readSlot py (raw.get? "join_index") localPlayerId
        .ok (slot.bind fun joinIndex =>
          let m : SessionMetadata := ⟨sessionId, localPlayerId, peers, joinIndex⟩
          if m.OwnsSlot then some m else none)
      | _, _, _ => .ok none

end SessionMetadata

/-- `except (OSError, JSONDecodeError, ValueError, TypeError)` -/
def readSessionMetadata (text : DocumentText) (py : Numerals) :
    StoredFile → Except PyError (Option SessionMetadata)
  | .missing | .unreadable => .ok none
  | .content bytes =>
    match text.load bytes >>= SessionMetadata.parse py with
    | .ok metadata => .ok metadata
    | .error e => if e.isValueError || e = .typeError then .ok none else .error e

def CachedPeer.asdict (peer : CachedPeer) : PyValue :=
  .dict [("player_id", .str peer.playerId), ("ip", .str peer.ip),
    ("join_index", .int peer.joinIndex)]

def SessionMetadata.asdict (m : SessionMetadata) : PyValue :=
  .dict
    [("session_id", .str m.sessionId), ("local_player_id", .str m.localPlayerId),
      ("peers", .list (m.peers.map CachedPeer.asdict)),
      ("join_index", match m.joinIndex with
        | some i => .int i
        | none => .null)]

def writeSessionMetadata (text : DocumentText) (m : SessionMetadata) : StoredFile :=
  .content (text.dumps m.asdict).toUTF8

/-! ## Recovery -/

def addCachedPeer (roster : GlobalRoster) (peer : CachedPeer) : Except PyError GlobalRoster := do
  let entry ← SlotEntry.toRosterEntry
    ⟨peer.playerId, peer.ip, hostUdpPort, peer.joinIndex, .connected, false⟩
  roster.addPlayer entry

/-- The roster that `_try_recover_session` shows while it looks for the host. -/
def SessionMetadata.cachedRoster (m : SessionMetadata) : Except PyError GlobalRoster :=
  m.peers.foldlM addCachedPeer {}

/-! ## What is accepted -/

/-- The roster takes these peers. -/
def CachedPeer.Usable (peers : List CachedPeer) : Prop :=
  (∀ p ∈ peers, p.playerId ≠ "" ∧ p.ip ≠ "" ∧ 0 ≤ p.joinIndex) ∧
    (peers.map CachedPeer.joinIndex).Nodup

theorem exists_toRosterEntry_iff {p : CachedPeer} :
    (∃ e, SlotEntry.toRosterEntry
      ⟨p.playerId, p.ip, hostUdpPort, p.joinIndex, .connected, false⟩ = .ok e) ↔
      p.playerId ≠ "" ∧ p.ip ≠ "" ∧ 0 ≤ p.joinIndex := by
  have hport : ¬¬(1024 ≤ hostUdpPort ∧ hostUdpPort ≤ 65535) := by decide
  unfold SlotEntry.toRosterEntry
  by_cases hplayer : p.playerId = ""
  · simp [hplayer]
  by_cases hip : p.ip = ""
  · simp [hplayer, hip]
  by_cases hindex : p.joinIndex < 0
  · simp [hplayer, hip, hindex, hport]
  · simp only [if_neg hplayer, if_neg hip, if_neg hport, if_neg hindex]
    exact iff_of_true ⟨_, rfl⟩ ⟨hplayer, hip, by omega⟩

theorem toRosterEntry_joinIndex {e : SlotEntry} {entry : RosterEntry}
    (h : e.toRosterEntry = .ok entry) : (entry.joinIndex : ℤ) = e.joinIndex := by
  unfold SlotEntry.toRosterEntry at h
  split_ifs at h
  cases h
  simp only
  omega

/-- A peer is refused with a bad value, or with a join index that is taken. -/
theorem exists_addCachedPeer_iff {roster : GlobalRoster} {p : CachedPeer} :
    (∃ r, addCachedPeer roster p = .ok r) ↔
      (p.playerId ≠ "" ∧ p.ip ≠ "" ∧ 0 ≤ p.joinIndex) ∧
        ∀ e ∈ roster.players, (e.joinIndex : ℤ) ≠ p.joinIndex := by
  rw [← exists_toRosterEntry_iff]
  constructor
  · rintro ⟨r, h⟩
    obtain ⟨entry, hentry, hadd⟩ := Fallible.bind_eq_ok.mp h
    refine ⟨⟨entry, hentry⟩, fun e he hsame => ?_⟩
    have hindex : (entry.joinIndex : ℤ) = p.joinIndex := toRosterEntry_joinIndex hentry
    have htaken : roster.players.any (fun e => e.joinIndex = entry.joinIndex) = true :=
      List.any_eq_true.mpr ⟨e, he, by simp only [decide_eq_true_eq]; omega⟩
    rw [GlobalRoster.addPlayer, if_pos htaken] at hadd
    cases hadd
  · rintro ⟨⟨entry, hentry⟩, hfree⟩
    have hindex : (entry.joinIndex : ℤ) = p.joinIndex := toRosterEntry_joinIndex hentry
    have hfree' : ∀ e ∈ roster.players, e.joinIndex ≠ entry.joinIndex :=
      fun e he hsame => hfree e he (by omega)
    exact ⟨_, Fallible.bind_eq_ok.mpr ⟨entry, hentry, GlobalRoster.addPlayer_succeeds hfree'⟩⟩

theorem addCachedPeer_players {roster r : GlobalRoster} {p : CachedPeer}
    (h : addCachedPeer roster p = .ok r) :
    r.players.map (fun e => (e.joinIndex : ℤ)) =
      roster.players.map (fun e => (e.joinIndex : ℤ)) ++ [p.joinIndex] := by
  obtain ⟨entry, hentry, hadd⟩ := Fallible.bind_eq_ok.mp h
  have hindex : (entry.joinIndex : ℤ) = p.joinIndex := toRosterEntry_joinIndex hentry
  rw [GlobalRoster.addPlayer_eq_ok hadd, List.map_append, ← hindex]
  rfl

theorem exists_addCachedPeers_iff {peers : List CachedPeer} {roster : GlobalRoster} :
    (∃ r, peers.foldlM addCachedPeer roster = .ok r) ↔ CachedPeer.Usable peers ∧
      ∀ p ∈ peers, p.joinIndex ∉ roster.players.map fun e => (e.joinIndex : ℤ) := by
  induction peers generalizing roster with
  | nil => simp [CachedPeer.Usable, pure, Except.pure]
  | cons p peers ih =>
    constructor
    · rintro ⟨r, h⟩
      rw [List.foldlM_cons] at h
      obtain ⟨roster', hadd, h⟩ := Fallible.bind_eq_ok.mp h
      obtain ⟨hvalid, hfree⟩ := exists_addCachedPeer_iff.mp ⟨roster', hadd⟩
      obtain ⟨⟨hvalids, hnodup⟩, hnew⟩ := ih.mp ⟨r, h⟩
      rw [addCachedPeer_players hadd] at hnew
      simp only [List.mem_append, List.mem_singleton, not_or] at hnew
      refine ⟨⟨List.forall_mem_cons.mpr ⟨hvalid, hvalids⟩, ?_⟩,
        List.forall_mem_cons.mpr ⟨?_, fun q hq => (hnew q hq).1⟩⟩
      · refine List.nodup_cons.mpr ⟨fun hmem => ?_, hnodup⟩
        obtain ⟨q, hq, hsame⟩ := List.mem_map.mp hmem
        exact (hnew q hq).2 hsame
      · intro hmem
        obtain ⟨e, he, hsame⟩ := List.mem_map.mp hmem
        exact hfree e he hsame
    · rintro ⟨⟨hvalids, hnodup⟩, hnew⟩
      obtain ⟨hvalid, hvalids⟩ := List.forall_mem_cons.mp hvalids
      obtain ⟨hfree, hnew⟩ := List.forall_mem_cons.mp hnew
      obtain ⟨hfirst, hnodup⟩ := List.nodup_cons.mp hnodup
      obtain ⟨roster', hadd⟩ := exists_addCachedPeer_iff.mpr
        ⟨hvalid, fun e he hsame => hfree (List.mem_map.mpr ⟨e, he, hsame⟩)⟩
      have hnew' : ∀ q ∈ peers, q.joinIndex ∉ roster'.players.map fun e => (e.joinIndex : ℤ) := by
        intro q hq
        rw [addCachedPeer_players hadd, List.mem_append, List.mem_singleton, not_or]
        exact ⟨hnew q hq, fun hsame => hfirst (hsame ▸ List.mem_map_of_mem hq)⟩
      obtain ⟨r, h⟩ := ih.mpr ⟨⟨hvalids, hnodup⟩, hnew'⟩
      exact ⟨r, by rw [List.foldlM_cons]; exact Fallible.bind_eq_ok.mpr ⟨roster', hadd, h⟩⟩

/-- The second validator accepts exactly the usable peers. -/
theorem exists_cachedRoster_iff {m : SessionMetadata} :
    (∃ r, m.cachedRoster = .ok r) ↔ CachedPeer.Usable m.peers := by
  rw [SessionMetadata.cachedRoster, exists_addCachedPeers_iff]
  simp

/-! ## What is read -/

/-- The document that the file holds, if it holds one. -/
def StoredFile.document (text : DocumentText) : StoredFile → Option PyValue
  | .missing | .unreadable => none
  | .content bytes => (text.load bytes).toOption

/-- The join index is given as a whole number in range, or it is left to the player id. -/
def GivesSlot (py : Numerals) (joinIndex : Option PyValue) (m : SessionMetadata) : Prop :=
  (∃ i, joinIndex = some (.int i) ∧ IsSlot i ∧ m.joinIndex = some i) ∨
    ((joinIndex = none ∨ joinIndex = some .null) ∧ legacySlot py m.localPlayerId = .ok m.joinIndex)

/-- The members of the document have the right types, and these values. -/
def Describes (py : Numerals) (document : PyValue) (m : SessionMetadata) : Prop :=
  ∃ raw items, document.dict? = some raw ∧ raw.get? "peers" = some (.list items) ∧
    items.mapM CachedPeer.read = some m.peers ∧ raw.get? "session_id" = some (.str m.sessionId) ∧
    raw.get? "local_player_id" = some (.str m.localPlayerId) ∧
    GivesSlot py (raw.get? "join_index") m ∧ m.OwnsSlot

theorem bind_str?_eq_some {v : Option PyValue} {s : String} :
    v.bind PyValue.str? = some s ↔ v = some (.str s) := by
  constructor
  · intro h
    obtain ⟨value, rfl, hvalue⟩ := Option.bind_eq_some_iff.mp h
    cases value with
    | str s' => exact congrArg (fun s => some (PyValue.str s)) (Option.some.inj hvalue)
    | _ => cases hvalue
  · rintro rfl
    rfl

theorem bind_list?_eq_some {v : Option PyValue} {items : List PyValue} :
    v.bind PyValue.list? = some items ↔ v = some (.list items) := by
  constructor
  · intro h
    obtain ⟨value, rfl, hvalue⟩ := Option.bind_eq_some_iff.mp h
    cases value with
    | list items' => exact congrArg (fun l => some (PyValue.list l)) (Option.some.inj hvalue)
    | _ => cases hvalue
  · rintro rfl
    rfl

theorem readSlot_eq_some_iff {py : Numerals} {joinIndex : Option PyValue} {m : SessionMetadata} :
    readSlot py joinIndex m.localPlayerId = .ok (some m.joinIndex) ↔ GivesSlot py joinIndex m := by
  have hlegacy : (do
      let slot ← legacySlot py m.localPlayerId
      .ok (some slot)) = (.ok (some m.joinIndex) : Except PyError _) ↔
      legacySlot py m.localPlayerId = .ok m.joinIndex := by
    constructor
    · intro h
      obtain ⟨slot, hslot, h⟩ := Fallible.bind_eq_ok.mp h
      rw [hslot, Option.some.inj (Except.ok.inj h)]
    · intro h
      exact Fallible.bind_eq_ok.mpr ⟨_, h, rfl⟩
  unfold readSlot GivesSlot
  split
  case h_1 z =>
    by_cases hslot : 0 ≤ z ∧ z < maxPlayers
    · simp only [if_pos hslot, Except.ok.injEq, Option.some.injEq, PyValue.int.injEq]
      constructor
      · intro h
        exact .inl ⟨z, rfl, hslot, h.symm⟩
      · rintro (⟨i, rfl, -, h⟩ | ⟨h | h, -⟩)
        · exact h.symm
        · cases h
        · cases h
    · simp only [if_neg hslot, Except.ok.injEq, reduceCtorEq, Option.some.injEq, PyValue.int.injEq,
        false_iff]
      rintro (⟨i, rfl, hi, -⟩ | ⟨h | h, -⟩)
      · exact hslot hi
      · cases h
      · cases h
  case h_2 => simpa using hlegacy
  case h_3 => simpa using hlegacy
  case h_4 value hint hnull =>
    simp only [Except.ok.injEq, reduceCtorEq, Option.some.injEq, false_iff]
    rintro (⟨i, rfl, -⟩ | ⟨h | rfl, -⟩)
    · exact hint i rfl
    · cases h
    · exact hnull rfl

theorem parse_eq_some_iff {py : Numerals} {document : PyValue} {m : SessionMetadata} :
    SessionMetadata.parse py document = .ok (some m) ↔ Describes py document m := by
  constructor
  · intro h
    unfold SessionMetadata.parse at h
    split at h
    case h_1 => cases h
    case h_2 raw hraw =>
      split at h
      case h_1 => cases h
      case h_2 items hitems =>
        split at h
        case h_1 peers sessionId localPlayerId hpeers hsession hlocal =>
          obtain ⟨slot, hslot, hok⟩ := Fallible.bind_eq_ok.mp h
          obtain ⟨joinIndex, rfl, hm⟩ := Option.bind_eq_some_iff.mp (Except.ok.inj hok)
          dsimp only at hm
          split_ifs at hm with howns
          obtain rfl := Option.some.inj hm
          exact ⟨raw, items, hraw, bind_list?_eq_some.mp hitems, hpeers,
            bind_str?_eq_some.mp hsession,
            bind_str?_eq_some.mp hlocal, readSlot_eq_some_iff.mp hslot, howns⟩
        case h_2 => cases h
  · rintro ⟨raw, items, hraw, hitems, hpeers, hsession, hlocal, hslot, howns⟩
    have hread := readSlot_eq_some_iff.mpr hslot
    simp only [SessionMetadata.parse, hraw, bind_list?_eq_some.mpr hitems, hpeers,
      bind_str?_eq_some.mpr hsession, bind_str?_eq_some.mpr hlocal, hread, Fallible.ok_bind,
      Option.bind_some, if_pos howns]

theorem legacySlot_error {py : Numerals} {pid : PlayerId} {e : PyError}
    (h : legacySlot py pid = .error e) : e.isValueError := by
  unfold legacySlot at h
  split at h
  · cases h
  split at h
  case isTrue =>
    cases hint : py.int _ with
    | ok n =>
      rw [hint] at h
      cases h
    | error e' =>
      rw [hint] at h
      cases h
      exact py.int_error _ _ hint
  case isFalse => cases h

/-- Only a document that is no object is refused with an error that is not caught. -/
theorem parse_error {py : Numerals} {document : PyValue} {e : PyError}
    (object : document.dict?.isSome)
    (h : SessionMetadata.parse py document = .error e) : e.isValueError := by
  obtain ⟨raw, hraw⟩ := Option.isSome_iff_exists.mp object
  simp only [SessionMetadata.parse, hraw] at h
  split at h
  · cases h
  split at h
  case h_1 =>
    rename_i localPlayerId _ _ _
    cases hslot : readSlot py (raw.get? "join_index") localPlayerId with
    | ok slot =>
      rw [hslot] at h
      cases h
    | error e' =>
      rw [hslot] at h
      cases h
      unfold readSlot at hslot
      have hlegacy : ∀ e, (do
          let slot ← legacySlot py localPlayerId
          .ok (some slot)) = (.error e : Except PyError (Option (Option ℤ))) → e.isValueError := by
        intro e he
        cases hslot' : legacySlot py localPlayerId with
        | ok slot =>
          rw [hslot'] at he
          cases he
        | error e'' =>
          rw [hslot'] at he
          cases he
          exact legacySlot_error hslot'
      split at hslot
      · cases hslot
      · exact hlegacy _ hslot
      · exact hlegacy _ hslot
      · cases hslot
  case h_2 => cases h

theorem load_error {text : DocumentText} {bytes : ByteArray} {e : PyError}
    (h : text.load bytes = .error e) : e.isValueError := by
  unfold DocumentText.load at h
  split at h
  · exact text.loads_error _ _ h
  · cases h
    rfl

/-- A file whose document is an object, or which has none, is read without an error. -/
theorem readSessionMetadata_eq {text : DocumentText} (py : Numerals) {file : StoredFile}
    (object : ∀ document ∈ file.document text, document.dict?.isSome) :
    ∃ result, readSessionMetadata text py file = .ok result ∧
      ∀ m, result = some m ↔ ∃ document ∈ file.document text, Describes py document m := by
  cases file with
  | missing => exact ⟨none, rfl, by simp [StoredFile.document]⟩
  | unreadable => exact ⟨none, rfl, by simp [StoredFile.document]⟩
  | content bytes =>
    cases hload : text.load bytes with
    | error e =>
      have hcaught : e.isValueError = true := load_error hload
      refine ⟨none, by simp [readSessionMetadata, hload, hcaught], ?_⟩
      simp [StoredFile.document, hload, Except.toOption]
    | ok document =>
      have hdocument : (StoredFile.content bytes).document text = some document := by
        simp [StoredFile.document, hload, Except.toOption]
      simp only [hdocument, Option.mem_def, Option.some.injEq, exists_eq_left'] at object ⊢
      have hobject := object document rfl
      cases hparse : SessionMetadata.parse py document with
      | error e =>
        have hcaught : e.isValueError = true := parse_error hobject hparse
        refine ⟨none, by simp [readSessionMetadata, hload, hparse, hcaught], fun m => ?_⟩
        rw [← parse_eq_some_iff, hparse]
        simp
      | ok result =>
        refine ⟨result, by simp [readSessionMetadata, hload, hparse], fun m => ?_⟩
        rw [← parse_eq_some_iff, hparse, Except.ok.injEq]

/-- Any other document makes the reader raise. -/
theorem readSessionMetadata_error {text : DocumentText} {py : Numerals} {file : StoredFile}
    {document : PyValue} (h : document ∈ file.document text) (value : document.dict? = none) :
    readSessionMetadata text py file = .error (.attributeError "get") := by
  cases file with
  | missing => cases h
  | unreadable => cases h
  | content bytes =>
    cases hload : text.load bytes with
    | error e => simp [StoredFile.document, hload, Except.toOption] at h
    | ok document' =>
      obtain rfl : document' = document := by
        simpa [StoredFile.document, hload, Except.toOption] using h
      have hparse : SessionMetadata.parse py document' = .error (.attributeError "get") := by
        simp [SessionMetadata.parse, value]
      simp [readSessionMetadata, hload, hparse, PyError.isValueError]

/-! ## Recovering -/

/-- The file is read without an error, and what is read has a slot of its own, if any, and peers
that the recovery can show. -/
def Recovers (text : DocumentText) (py : Numerals) (file : StoredFile) : Prop :=
  ∃ result, readSessionMetadata text py file = .ok result ∧ ∀ m ∈ result,
    (∀ i ∈ m.joinIndex, IsSlot i ∧ m.localPlayerId = playerIdFor i) ∧
      ∃ roster, m.cachedRoster = .ok roster

/-- The document, if the file has one, is an object, and if its members have the right types then
the peers among them have names, addresses and join indices of their own. -/
def Recoverable (text : DocumentText) (py : Numerals) (file : StoredFile) : Prop :=
  ∀ document ∈ file.document text, document.dict?.isSome ∧
    ∀ m, Describes py document m → CachedPeer.Usable m.peers

theorem legacySlot_isSlot {py : Numerals} {pid : PlayerId} {i : ℤ}
    (h : legacySlot py pid = .ok (some i)) : IsSlot i := by
  unfold legacySlot at h
  split at h
  · cases h
  split at h
  · obtain ⟨n, -, h⟩ := Fallible.bind_eq_ok.mp h
    have hslot := Except.ok.inj h
    split_ifs at hslot with hrange
    obtain rfl := Option.some.inj hslot
    exact ⟨by omega, by omega⟩
  · cases h

theorem Describes.slot {py : Numerals} {document : PyValue} {m : SessionMetadata}
    (h : Describes py document m) :
    ∀ i ∈ m.joinIndex, IsSlot i ∧ m.localPlayerId = playerIdFor i := by
  obtain ⟨raw, items, -, -, -, -, -, hgives, howns⟩ := h
  intro i hi
  refine ⟨?_, howns i hi⟩
  rcases hgives with ⟨z, -, hslot, hz⟩ | ⟨-, hlegacy⟩
  · exact Option.some.inj (hz.symm.trans hi) ▸ hslot
  · exact legacySlot_isSlot (hlegacy.trans (congrArg Except.ok hi))

theorem recovers_iff {text : DocumentText} {py : Numerals} {file : StoredFile} :
    Recovers text py file ↔ Recoverable text py file := by
  constructor
  · rintro ⟨result, hread, husable⟩ document hdocument
    have hobject : document.dict?.isSome := by
      cases hvalue : document.dict? with
      | some raw => rfl
      | none =>
        have hraises : readSessionMetadata text py file = .error (.attributeError "get") :=
          readSessionMetadata_error hdocument hvalue
        cases hraises.symm.trans hread
    refine ⟨hobject, fun m hm => ?_⟩
    have hobjects : ∀ d ∈ file.document text, d.dict?.isSome :=
      fun d hd => Option.some.inj (hdocument.symm.trans hd) ▸ hobject
    obtain ⟨result', hread', hdescribes⟩ := readSessionMetadata_eq py hobjects
    obtain rfl : result' = result := Except.ok.inj (hread'.symm.trans hread)
    have hresult := (hdescribes m).mpr ⟨document, hdocument, hm⟩
    exact exists_cachedRoster_iff.mp (husable m hresult).2
  · intro hrecoverable
    obtain ⟨result, hread, hdescribes⟩ := readSessionMetadata_eq py
      fun d hd => (hrecoverable d hd).1
    refine ⟨result, hread, fun m hm => ?_⟩
    obtain ⟨document, hdocument, hm⟩ := (hdescribes m).mp hm
    exact ⟨hm.slot, exists_cachedRoster_iff.mpr ((hrecoverable document hdocument).2 m hm)⟩

/-! ## The round trip -/

theorem DocumentText.load_toUTF8 (text : DocumentText) (string : String) :
    text.load string.toUTF8 = text.loads string := by
  have hread : String.fromUTF8? string.toUTF8 = some string := by
    rw [String.fromUTF8?, dif_pos (show string.toUTF8.IsValidUTF8 from string.isValidUTF8)]
    rfl
  rw [load, hread]

theorem CachedPeer.read_asdict (peer : CachedPeer) : CachedPeer.read peer.asdict = some peer := rfl

theorem describes_asdict {py : Numerals} {m : SessionMetadata} {i : ℤ} (hi : m.joinIndex = some i)
    (slot : IsSlot i) (owns : m.localPlayerId = playerIdFor i) : Describes py m.asdict m := by
  have hpeers : (m.peers.map CachedPeer.asdict).mapM CachedPeer.read = some m.peers := by
    induction m.peers with
    | nil => rfl
    | cons peer peers ih => simp [List.mapM_cons, CachedPeer.read_asdict, ih]
  refine ⟨_, _, rfl, rfl, hpeers, rfl, rfl, .inl ⟨i, ?_, slot, hi⟩, fun j hj => ?_⟩
  · rw [hi]
    rfl
  · rw [owns, Option.some.inj (hi.symm.trans hj)]

/-- A file can be recovered from exactly if its document, should it have one, is an object whose
peers are usable; and what was written for a player in its slot is read back as it was. -/
theorem metadata_usable_iff (text : DocumentText) (py : Numerals) :
    (∀ file, Recovers text py file ↔ Recoverable text py file) ∧
    ∀ sessionId peers i, IsSlot i →
      text.Lossless (SessionMetadata.asdict ⟨sessionId, playerIdFor i, peers, some i⟩) →
      readSessionMetadata text py
        (writeSessionMetadata text ⟨sessionId, playerIdFor i, peers, some i⟩) =
          .ok (some ⟨sessionId, playerIdFor i, peers, some i⟩) := by
  refine ⟨fun file => recovers_iff, fun sessionId peers i hslot hlossless => ?_⟩
  have hparse : SessionMetadata.parse py
      (SessionMetadata.asdict ⟨sessionId, playerIdFor i, peers, some i⟩) =
        .ok (some ⟨sessionId, playerIdFor i, peers, some i⟩) :=
    parse_eq_some_iff.mpr (describes_asdict rfl hslot rfl)
  rw [writeSessionMetadata, readSessionMetadata, text.load_toUTF8, hlossless,
    Fallible.ok_bind, hparse]

/-! ### Files -/

/-- The text of one document. -/
def documentTextOf (string : String) (document : PyValue) : DocumentText where
  dumps _ := string
  loads _ := .ok document
  loads_error _ _ h := by cases h

def asciiNumerals : Numerals where
  isdigit s := !s.isEmpty && s.all Char.isDigit
  int s :=
    match s.toInt? with
    | some n => .ok n
    | none => .error (.valueError s!"invalid literal for int() with base 10: '{s}'")
  int_error s e h := by
    split at h
    · cases h
    · cases h
      rfl

def guestMetadata : SessionMetadata := ⟨"s", "player2", [⟨"player1", "10.0.0.1", 0⟩], some 1⟩

def guestText : DocumentText :=
  documentTextOf
    ("\x7b\"session_id\": \"s\", \"local_player_id\": \"player2\", \"peers\": " ++
      "[\x7b\"player_id\": \"player1\", \"ip\": \"10.0.0.1\", \"join_index\": 0\x7d], " ++
      "\"join_index\": 1\x7d") guestMetadata.asdict

theorem guest_metadata_survives :
    readSessionMetadata guestText asciiNumerals (writeSessionMetadata guestText guestMetadata) =
      .ok (some guestMetadata) :=
  (metadata_usable_iff guestText asciiNumerals).2 "s" [⟨"player1", "10.0.0.1", 0⟩] 1
    (by decide) rfl

/-- The file of a client whose host had no address. -/
def namelessText : DocumentText :=
  documentTextOf
    ("\x7b\"session_id\": \"s\", \"local_player_id\": \"player2\", \"peers\": " ++
      "[\x7b\"player_id\": \"player1\", \"ip\": \"\", \"join_index\": 0\x7d], " ++
      "\"join_index\": 1\x7d")
    (SessionMetadata.asdict ⟨"s", "player2", [⟨"player1", "", 0⟩], some 1⟩)

/-- An empty list makes the reader raise, and a peer without an address gets past it. -/
theorem odd_files_are_not_survived :
    readSessionMetadata (documentTextOf "[]" (.list [])) asciiNumerals (.content "[]".toUTF8) =
      .error (.attributeError "get") ∧
    ∃ m, readSessionMetadata namelessText asciiNumerals
        (.content (namelessText.dumps .null).toUTF8) = .ok (some m) ∧
      m.cachedRoster = .error (.rosterValidationError "Invalid host: ") := by
  refine ⟨?_, ⟨"s", "player2", [⟨"player1", "", 0⟩], some 1⟩, ?_, rfl⟩
  · rw [readSessionMetadata, DocumentText.load_toUTF8]
    rfl
  · rw [readSessionMetadata, DocumentText.load_toUTF8]
    rfl

end DistributedSmb
