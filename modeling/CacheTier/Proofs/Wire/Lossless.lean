import CacheTier.Proofs.Json.Records
import CacheTier.Wire.Message

/-!
# The wire loses nothing

Every message is read back from its text, and from its text with the fields of its objects in
another order.  What is assumed is that each float and each instant in the message is read back
from its own text.
-/

namespace CacheTier

open Json

/-- The text of an instant is read as the instant. -/
def Instant.ReadsBack (t : Instant) : Prop := Timestamp.read (Timestamp.write t) = some t

theorem Instant.reads {t : Instant} (h : t.ReadsBack) : Reads Instant.fromValue t.toDoc t := by
  refine Reads.bind (reads_text _) _ ?_
  rw [h]
  rfl

theorem NodeId.reads (id : NodeId) : Reads NodeId.fromValue id.toDoc id :=
  (reads_text id.text).map NodeId.mk

theorem PolicyKind.reads (kind : PolicyKind) : Reads fromValue kind.toDoc kind := by
  intro e he
  cases kind with
  | lru =>
      cases he
      rfl
  | lfu =>
      cases he
      rfl

/-! ## Records -/

theorem Json.reads_only {α : Type} {read : Value → Reading α} {name : String} {d : Doc} {a : α}
    (h : Reads read d a) : Reads (Value.readOnly name read) (.object [(name, d)]) a := by
  have hfind : [RecordField.of name id (fun _ x => some x) read].find? (·.name == name) =
      some (.of name id (fun _ x => some x) read) :=
    List.find?_cons_of_pos (beq_self_eq_true name)
  have hkeys : ([(name, d)].map Prod.fst).Nodup := List.nodup_singleton name
  exact Reads.bind (reads_record (List.pairwise_singleton _ _) hkeys
    (.cons hfind rfl (h.map some) .nil)) required rfl

theorem CapacityReport.reads {r : CapacityReport} (h : r.reportedAt.ReadsBack) :
    Reads fromValue r.toDoc r :=
  Reads.bind (reads_record (by simp [wireFields, RecordField.Apart.of]) (by simp)
    (.cons rfl rfl ((reads_word r.totalBytes).map _) <|
      .cons rfl rfl ((reads_word r.usedBytes).map _) <|
      .cons rfl rfl ((reads_word r.fileCount).map _) <|
      .cons rfl rfl ((Instant.reads h).map _) .nil)) _ rfl

/-- What a node's record holds is read back from its own text. -/
structure NodeRecord.ReadsBack (r : NodeRecord) : Prop where
  lastUpdate : r.lastUpdate.ReadsBack
  priority : FloatReadsBack r.priority

theorem NodeRecord.readsBack_of_mem {rs : List NodeRecord}
    (hfloats : ∀ x ∈ rs.map priority, FloatReadsBack x)
    (hinstants : ∀ t ∈ rs.map lastUpdate, t.ReadsBack) (r : NodeRecord) (hr : r ∈ rs) :
    r.ReadsBack :=
  ⟨hinstants _ (List.mem_map_of_mem hr), hfloats _ (List.mem_map_of_mem hr)⟩

theorem NodeRecord.reads {r : NodeRecord} (h : r.ReadsBack) : Reads fromValue r.toDoc r :=
  Reads.bind (reads_record (by simp [wireFields, RecordField.Apart.of]) (by simp)
    (.cons rfl rfl ((NodeId.reads r.id).map _) <|
      .cons rfl rfl ((reads_word r.totalBytes).map _) <|
      .cons rfl rfl ((reads_word r.usedBytes).map _) <|
      .cons rfl rfl ((reads_word r.fileCount).map _) <|
      .cons rfl rfl ((Instant.reads h.lastUpdate).map _) <|
      .cons rfl rfl ((reads_float h.priority).map _) .nil)) _ rfl

theorem Snapshot.reads {s : Snapshot} (h : ∀ r ∈ s.nodes, r.ReadsBack) :
    Reads fromValue s.toDoc s :=
  Reads.bind (reads_record (by simp [wireFields, RecordField.Apart.of]) (by simp)
    (.cons rfl rfl ((reads_text s.checksum).map _) <|
      .cons rfl rfl ((reads_list fun r hr => NodeRecord.reads (h r hr)).map _) .nil)) _ rfl

theorem NodeRecord.itemFloats_map_toDoc (rs : List NodeRecord) :
    itemFloats (rs.map toDoc) = rs.map priority := by
  induction rs with
  | nil => rfl
  | cons r rs ih =>
      rw [List.map_cons, itemFloats, ih]
      rfl

theorem Snapshot.floats_toDoc (s : Snapshot) :
    s.toDoc.floats = s.nodes.map NodeRecord.priority := by
  rw [← NodeRecord.itemFloats_map_toDoc]
  exact List.append_nil _

theorem PulseRequest.reads {r : PulseRequest} (h : r.report.reportedAt.ReadsBack) :
    Reads fromValue r.toDoc r :=
  Reads.bind (reads_record (by simp [wireFields, RecordField.Apart.of]) (by simp)
    (.cons rfl rfl ((NodeId.reads r.nodeId).map _) <|
      .cons rfl rfl ((CapacityReport.reads h).map _) .nil)) _ rfl

theorem SnapshotQuery.reads (q : SnapshotQuery) : Reads fromValue q.toDoc q := by
  have hchecksum : Reads (Value.readOption Value.readText) (.ofOption .text q.checksum)
      q.checksum := by
    cases q.checksum with
    | none => exact reads_none
    | some checksum => exact reads_some nofun (reads_text checksum)
  exact Reads.bind (reads_record (List.pairwise_singleton _ _) (by simp)
    (.cons rfl rfl (hchecksum.map some) .nil)) _ rfl

theorem PeersResponse.reads (r : PeersResponse) : Reads fromValue r.toDoc r :=
  (reads_only (reads_list fun s _ => reads_text s)).map mk

theorem LocateResponse.reads (r : LocateResponse) : Reads fromValue r.toDoc r :=
  Reads.bind (reads_record (by simp [wireFields, RecordField.Apart.of]) (by simp)
    (.cons rfl rfl ((reads_text r.key).map _) <|
      .cons rfl rfl ((NodeId.reads r.nodeId).map _) <|
      .cons rfl rfl ((reads_text r.checksum).map _) .nil)) _ rfl

theorem HealthResponse.reads (r : HealthResponse) : Reads fromValue r.toDoc r :=
  Reads.bind (reads_record (by simp [wireFields, RecordField.Apart.of]) (by simp)
    (.cons rfl rfl ((reads_text r.status).map _) <|
      .cons rfl rfl ((reads_text r.version).map _) .nil)) _ rfl

theorem ErrorResponse.reads (r : ErrorResponse) : Reads fromValue r.toDoc r := by
  rcases r with ⟨error, message, _ | id⟩
  · exact Reads.bind (reads_record (by simp [wireFields, RecordField.Apart.of]) (by simp)
      (.cons rfl rfl ((reads_text error).map _) <|
        .cons rfl rfl ((reads_text message).map _) .nil)) _ rfl
  · have hid : Reads (Value.readOption Value.readText) (.text id) (some id) :=
      reads_some nofun (reads_text id)
    exact Reads.bind (reads_record (by simp [wireFields, RecordField.Apart.of]) (by simp)
      (.cons rfl rfl ((reads_text error).map _) <|
        .cons rfl rfl ((reads_text message).map _) <|
        .cons rfl rfl (hid.map _) .nil)) _ rfl

/-! ## Taking in a tagged record -/

section Plain

variable (depth : Nat)

theorem Json.isPlain_text (s : String) : (Doc.text s).tree.isPlain depth = true := by
  rw [Doc.tree, Value.isPlain.eq_def]

theorem Json.isPlain_word (w : UInt64) : (Doc.word w).tree.isPlain depth = true := by
  rw [Doc.word, Doc.tree, Value.isPlain.eq_def]
  simp only [Numeral.value?_ofInt_word]
  rfl

theorem Json.isPlain_float {x : Float} (h : FloatReadsBack x) :
    (Doc.float x).tree.isPlain depth = true := by
  have hread := h.numeral?_eq.2
  rw [Doc.tree, Value.isPlain.eq_def]
  cases hvalue : (floatNumeral x).value? with
  | none =>
      rw [Value.readFloat] at hread
      simp only [hvalue] at hread
      cases hread
  | some number =>
      simp only [hvalue]
      rfl

theorem Json.isPlain_object (fields : List (String × Doc)) :
    (Doc.object fields).tree.isPlain (depth + 1) =
      fields.all fun field => field.2.tree.isPlain depth := by
  rw [Doc.tree, Value.isPlain, Bool.true_and, fieldsArePlain_eq_all, fieldTrees_eq_map,
    List.all_map]
  rfl

theorem Json.isPlain_array (xs : List Doc) :
    (Doc.array xs).tree.isPlain (depth + 1) = xs.all fun x => x.tree.isPlain depth := by
  rw [Doc.tree, Value.isPlain, Bool.true_and]
  induction xs with
  | nil => rfl
  | cons x xs ih => rw [trees, Value.arePlain, ih, List.all_cons]

theorem NodeRecord.isPlain_toDoc {r : NodeRecord} (h : r.ReadsBack) :
    r.toDoc.tree.isPlain (depth + 1) = true := by
  simp only [toDoc, NodeId.toDoc, Instant.toDoc, isPlain_object, List.all_cons, List.all_nil,
    isPlain_text, isPlain_word, isPlain_float depth h.priority, Bool.and_self]

end Plain

/-! ## Replies, outcomes and events -/

/-- The nodes that a reply tells of. -/
def SnapshotReply.nodes : SnapshotReply → List NodeRecord
  | unchanged _ => []
  | full s => s.nodes

theorem SnapshotReply.floats_toDoc (reply : SnapshotReply) :
    reply.toDoc.floats = reply.nodes.map NodeRecord.priority := by
  cases reply with
  | unchanged checksum => rfl
  | full s => exact s.floats_toDoc

theorem SnapshotReply.reads {reply : SnapshotReply} (h : ∀ r ∈ reply.nodes, r.ReadsBack) :
    Reads fromValue reply.toDoc reply := by
  cases reply with
  | unchanged checksum =>
      refine reads_tagged ?_ rfl (by simp) ((reads_only (reads_text checksum)).map unchanged)
      simp [isPlain_object, isPlain_text, Value.depthLimit]
  | full s =>
      refine reads_tagged ?_ rfl (by simp [Snapshot.docFields]) ((Snapshot.reads h).map full)
      have hnodes : ∀ r ∈ s.nodes, r.toDoc.tree.isPlain 125 = true := fun r hr =>
        NodeRecord.isPlain_toDoc 124 (h r hr)
      simpa [Snapshot.docFields, isPlain_object, isPlain_text, isPlain_array,
        Value.depthLimit] using hnodes

theorem PulseOutcome.reads {outcome : PulseOutcome}
    (h : ∀ x ∈ outcome.toDoc.floats, FloatReadsBack x) :
    Reads fromValue outcome.toDoc outcome := by
  cases outcome with
  | joined weight =>
      have hweight : FloatReadsBack weight := h weight List.mem_cons_self
      refine reads_tagged ?_ rfl (by simp) ((reads_only (reads_float hweight)).map joined)
      simp [isPlain_object, isPlain_text, isPlain_float _ hweight, Value.depthLimit]
  | updated =>
      refine reads_tagged ?_ rfl (by simp) reads_unit
      simp [isPlain_object, isPlain_text, Value.depthLimit]
  | stale =>
      refine reads_tagged ?_ rfl (by simp) reads_unit
      simp [isPlain_object, isPlain_text, Value.depthLimit]

/-- The instants that an event names. -/
def RegistryEvent.instants : RegistryEvent → List Instant
  | staleIgnored _ reportedAt lastUpdate => [reportedAt, lastUpdate]
  | _ => []

theorem RegistryEvent.reads {event : RegistryEvent}
    (hfloats : ∀ x ∈ event.toDoc.floats, FloatReadsBack x)
    (hinstants : ∀ t ∈ event.instants, t.ReadsBack) :
    Reads fromValue event.toDoc event := by
  cases event with
  | joined id weight =>
      have hweight : FloatReadsBack weight := hfloats weight List.mem_cons_self
      exact reads_variant rfl <| Reads.bind (reads_record
        (by simp [idField, weightField, RecordField.Apart.of]) (by simp)
        (.cons rfl rfl ((NodeId.reads id).map _) <|
          .cons rfl rfl ((reads_float hweight).map _) .nil)) _ rfl
  | updated id => exact reads_variant rfl ((reads_only (NodeId.reads id)).map updated)
  | expired id idleSeconds =>
      exact reads_variant rfl <| Reads.bind (reads_record
        (by simp [idField, idleField, RecordField.Apart.of]) (by simp)
        (.cons rfl rfl ((NodeId.reads id).map _) <|
          .cons rfl rfl ((reads_int idleSeconds).map _) .nil)) _ rfl
  | removed id => exact reads_variant rfl ((reads_only (NodeId.reads id)).map removed)
  | staleIgnored id reportedAt lastUpdate =>
      have hreported : reportedAt.ReadsBack := hinstants _ List.mem_cons_self
      have hupdate : lastUpdate.ReadsBack :=
        hinstants _ (List.mem_cons_of_mem _ List.mem_cons_self)
      exact reads_variant rfl <| Reads.bind (reads_record
        (by simp [idField, reportedField, updatedField, RecordField.Apart.of]) (by simp)
        (.cons rfl rfl ((NodeId.reads id).map _) <|
          .cons rfl rfl ((Instant.reads hreported).map _) <|
          .cons rfl rfl ((Instant.reads hupdate).map _) .nil)) _ rfl

/-! ## Messages -/

namespace Message

/-- The kind that a message is read as. -/
def kind : Message → MessageKind
  | capacityReport _ => .capacityReport
  | nodeRecord _ => .nodeRecord
  | nodeId _ => .nodeId
  | policyKind _ => .policyKind
  | snapshot _ => .snapshot
  | snapshotReply _ => .snapshotReply
  | pulseOutcome _ => .pulseOutcome
  | registryEvent _ => .registryEvent
  | pulseRequest _ => .pulseRequest
  | snapshotQuery _ => .snapshotQuery
  | peersResponse _ => .peersResponse
  | locateResponse _ => .locateResponse
  | healthResponse _ => .healthResponse
  | errorResponse _ => .errorResponse

/-- The instants in a message. -/
def instants : Message → List Instant
  | capacityReport r => [r.reportedAt]
  | nodeRecord r => [r.lastUpdate]
  | snapshot s => s.nodes.map NodeRecord.lastUpdate
  | snapshotReply reply => reply.nodes.map NodeRecord.lastUpdate
  | registryEvent event => event.instants
  | pulseRequest r => [r.report.reportedAt]
  | _ => []

/-- A message is read from its document in any order. -/
theorem reads {m : Message} (hfloats : ∀ x ∈ m.toDoc.floats, FloatReadsBack x)
    (hinstants : ∀ t ∈ m.instants, t.ReadsBack) :
    Reads (fun v => read v m.kind) m.toDoc m := by
  cases m with
  | capacityReport r => exact (CapacityReport.reads (hinstants _ List.mem_cons_self)).map _
  | nodeRecord r =>
      have hback : r.ReadsBack :=
        ⟨hinstants _ List.mem_cons_self, hfloats _ List.mem_cons_self⟩
      exact (NodeRecord.reads hback).map _
  | nodeId id => exact (NodeId.reads id).map _
  | policyKind kind => exact (PolicyKind.reads kind).map _
  | snapshot s =>
      rw [toDoc, Snapshot.floats_toDoc] at hfloats
      exact (Snapshot.reads (NodeRecord.readsBack_of_mem hfloats hinstants)).map _
  | snapshotReply reply =>
      rw [toDoc, SnapshotReply.floats_toDoc] at hfloats
      exact (SnapshotReply.reads (NodeRecord.readsBack_of_mem hfloats hinstants)).map _
  | pulseOutcome outcome => exact (PulseOutcome.reads hfloats).map _
  | registryEvent event => exact (RegistryEvent.reads hfloats hinstants).map _
  | pulseRequest r => exact (PulseRequest.reads (hinstants _ List.mem_cons_self)).map _
  | snapshotQuery q => exact (SnapshotQuery.reads q).map _
  | peersResponse r => exact (PeersResponse.reads r).map _
  | locateResponse r => exact (LocateResponse.reads r).map _
  | healthResponse r => exact (HealthResponse.reads r).map _
  | errorResponse r => exact (ErrorResponse.reads r).map _

/-- Nothing is lost on the wire: a message is read back from its text, and also when the fields
of its objects stand in another order. -/
theorem lossless {m : Message} (hfloats : ∀ x ∈ m.toDoc.floats, FloatReadsBack x)
    (hinstants : ∀ t ∈ m.instants, t.ReadsBack) :
    readAll (fun v => read v m.kind) m.toDoc.render.toList = .ok m ∧
      ∀ d, Rearranged m.toDoc d →
        readAll (fun v => read v m.kind) d.render.toList = .ok m := by
  have hany : ∀ d, Rearranged m.toDoc d →
      readAll (fun v => read v m.kind) d.render.toList = .ok m := by
    intro d hd
    have hback : ∀ x ∈ d.floats, FloatReadsBack x := fun x hx => hfloats x (hd.mem_floats hx)
    rw [Doc.render, String.toList_ofList, readAll_chars _ hback]
    exact reads hfloats hinstants d hd
  exact ⟨hany _ (Rearranged.refl _), hany⟩

/-- A node whose identifier is written with escapes. -/
def quotedNode : NodeRecord :=
  { id := ⟨"a\"b\n"⟩, totalBytes := 18446744073709551615, usedBytes := 0, fileCount := 3,
    lastUpdate := ⟨1700000000, 500000000⟩, priority := 1.5 }

theorem lossless_quotedNode :
    let reply := snapshotReply (.full ⟨"c", [quotedNode]⟩)
    let tagLast : Doc := .object [("nodes", .array [quotedNode.toDoc]), ("checksum", .text "c"),
      ("status", .text "full")]
    readAll (fun v => read v .snapshotReply) reply.toDoc.render.toList = .ok reply ∧
      readAll (fun v => read v .snapshotReply) tagLast.render.toList = .ok reply := by
  intro reply tagLast
  have hfloats : ∀ x ∈ reply.toDoc.floats, FloatReadsBack x := by
    intro x hx
    rw [List.mem_singleton.mp (show x ∈ [(1.5 : Float)] from hx)]
    rfl
  have hinstants : ∀ t ∈ reply.instants, t.ReadsBack := by
    intro t ht
    rw [List.mem_singleton.mp (show t ∈ [quotedNode.lastUpdate] from ht)]
    exact (by decide +kernel : Timestamp.read (Timestamp.write quotedNode.lastUpdate) =
      some quotedNode.lastUpdate)
  have hrearranged : Rearranged reply.toDoc tagLast :=
    .object (RearrangedFields.refl _) (List.reverse_perm _).symm
  obtain ⟨hread, hany⟩ := lossless hfloats hinstants
  exact ⟨hread, hany tagLast hrearranged⟩

end Message
end CacheTier
