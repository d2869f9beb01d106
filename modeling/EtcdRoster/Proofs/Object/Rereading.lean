import EtcdRoster.Object.Config
import EtcdRoster.Object.Etcd
import EtcdRoster.Proofs.Json.Parsing
import EtcdRoster.Proofs.Json.Reading

/-!
# Objects that are read as they were written

For each type of document, its reader takes what its writer wrote for the same value. `X.reads` sets
the members a writer leaves out against those a reader can do without, one member after another, and
`X.plain` says that the document is sorted and flat enough to be read from its text as well. Objects
of the cluster differ in their specification and status only (`objectJson`).

Metadata is a type of the cluster, not one of these. It is read as it was written if the times and
the managed documents in it are (`ObjectMeta.reads`), and what is said of objects rests on no more
than `Schema.MetadataReturns`.

* `Schema.returns` — one value through its document and through its text.
* `Schema.written_returns` — **what is written is read as it was**, for all types.
-/

namespace EtcdRoster

open Json Json.Record

/-! ## Metadata -/

theorem OwnerReference.reads (r : OwnerReference) : Reads OwnerReference.decode r.toJson r := by
  refine reads_decoder (by simp) ?_
  rintro members ⟨hversion, hblock, hcontroller, hkind, hname, huid⟩
  exact (finds_lenient hversion (reads_text _)).map OwnerReference.mk
    |>.seq (finds_lenient hkind (reads_text _))
    |>.seq (finds_lenient hname (reads_text _))
    |>.seq (finds_lenient huid (reads_text _))
    |>.seq (finds_optional hcontroller fun b _ => reads_flag b)
    |>.seq (finds_optional hblock fun b _ => reads_flag b)

/-- A point in time is read as it was written, if its text is. -/
theorem Timestamp.reads {t : Timestamp} (h : parse? t.text = some t) :
    Reads Timestamp.decode t.toJson t :=
  ⟨nofun, by simp only [Timestamp.decode, Timestamp.toJson, h]⟩

/-- Nothing in an entry is read otherwise than it was written: a managed document is none that would
be read as an absent one, and the time is that of its text. -/
structure ManagedFieldsEntry.Returning (e : ManagedFieldsEntry) : Prop where
  fields : ∀ d ∈ e.fieldsV1, d.json ≠ .null
  time : ∀ t ∈ e.time, Timestamp.parse? t.text = some t

theorem ManagedFieldsEntry.reads {e : ManagedFieldsEntry} (h : e.Returning) :
    Reads ManagedFieldsEntry.decode e.toJson e := by
  refine reads_decoder (by simp) ?_
  rintro members ⟨hversion, htype, hfields, hmanager, hoperation, hsubresource, htime⟩
  exact (finds_optional_text hversion).map ManagedFieldsEntry.mk
    |>.seq (finds_optional_text htype)
    |>.seq (finds_optional hfields fun d hd => ⟨h.fields d hd, congrArg Except.ok d.ofJson_json⟩)
    |>.seq (finds_optional_text hmanager)
    |>.seq (finds_optional_text hoperation)
    |>.seq (finds_optional_text hsubresource)
    |>.seq (finds_optional htime fun t ht => Timestamp.reads (h.time t ht))

theorem ObjectMeta.reads_strings (texts : List String) :
    Reads (list text) (ObjectMeta.strings texts) texts :=
  reads_list fun s _ => reads_text s

theorem ObjectMeta.reads_dictionary (d : Dict String) :
    Reads (dict text) (ObjectMeta.dictionary d) d :=
  reads_dict fun e _ => reads_text e.2

/-- Metadata in which the times and the managed documents are read as they were written. -/
structure ObjectMeta.Returning (m : ObjectMeta) : Prop where
  creation : ∀ t ∈ m.creationTimestamp, Timestamp.parse? t.text = some t
  deletion : ∀ t ∈ m.deletionTimestamp, Timestamp.parse? t.text = some t
  managed : ∀ entries ∈ m.managedFields, ∀ e ∈ entries, e.Returning

/-- Metadata is read as it was written, if its times and managed documents are. -/
theorem ObjectMeta.reads {m : ObjectMeta} (h : m.Returning) :
    Reads ObjectMeta.decode m.toJson m := by
  refine reads_decoder (by simp) ?_
  rintro members ⟨hannotations, hcreation, hgrace, hdeletion, hfinalizers, hgenerate, hgeneration,
    hlabels, hmanaged, hname, hnamespace, howners, hversion, hlink, huid⟩
  exact (finds_optional_text hname).map ObjectMeta.mk
    |>.seq (finds_optional_text hgenerate)
    |>.seq (finds_optional_text hnamespace)
    |>.seq (finds_optional hlabels fun d _ => reads_dictionary d)
    |>.seq (finds_optional hannotations fun d _ => reads_dictionary d)
    |>.seq (finds_optional_text hversion)
    |>.seq (finds_optional_text huid)
    |>.seq (finds_optional hgeneration fun n _ => reads_int64 n)
    |>.seq (finds_optional hfinalizers fun texts _ => reads_strings texts)
    |>.seq (finds_optional howners fun rs _ => reads_list fun r _ => r.reads)
    |>.seq (finds_optional hcreation fun t ht => Timestamp.reads (h.creation t ht))
    |>.seq (finds_optional hdeletion fun t ht => Timestamp.reads (h.deletion t ht))
    |>.seq (finds_optional hgrace fun n _ => reads_int64 n)
    |>.seq (finds_optional hmanaged fun es hes =>
      reads_list fun e he => ManagedFieldsEntry.reads (h.managed es hes e he))
    |>.seq (finds_optional_text hlink)

theorem OwnerReference.plain {depth : ℕ} (r : OwnerReference) : Plain (depth + 1) r.toJson := by
  refine plain_record ?_
  -- A flag is treated like any other member, not in two cases.
  simp [-Bool.exists_bool, -Bool.forall_bool, Plain.str, Plain.bool]

theorem ObjectMeta.plain_strings {depth : ℕ} (texts : List String) :
    Plain (depth + 1) (ObjectMeta.strings texts) :=
  plain_arr_map (fun s => .str s) texts

theorem ObjectMeta.plain_dictionary {depth : ℕ} (d : Dict String) :
    Plain (depth + 1) (ObjectMeta.dictionary d) := by
  refine .obj (List.pairwise_map.mpr d.sorted) fun e he => ?_
  obtain ⟨entry, -, rfl⟩ := List.mem_map.mp he
  exact .str entry.2

/-- The managed documents are plain, and nest at most so deep. -/
def ObjectMeta.ManagedPlain (depth : ℕ) (m : ObjectMeta) : Prop :=
  ∀ entries ∈ m.managedFields, ∀ e ∈ entries, ∀ d ∈ e.fieldsV1, Plain depth d.json

theorem ManagedFieldsEntry.plain {depth : ℕ} {e : ManagedFieldsEntry}
    (h : ∀ d ∈ e.fieldsV1, Plain depth d.json) : Plain (depth + 1) e.toJson := by
  refine plain_record ?_
  simpa [Plain.str, Timestamp.toJson] using h

theorem ObjectMeta.plain {depth : ℕ} {m : ObjectMeta} (h : m.ManagedPlain depth) :
    Plain (depth + 3) m.toJson := by
  have hmanaged : ∀ entries, m.managedFields = some entries →
      Plain (depth + 2) (.arr (entries.map ManagedFieldsEntry.toJson)) := by
    refine fun entries hentries => .arr fun item hitem => ?_
    obtain ⟨e, he, rfl⟩ := List.mem_map.mp hitem
    exact ManagedFieldsEntry.plain (h entries hentries e he)
  refine plain_record ?_
  simpa [Plain.str, Timestamp.toJson, plain_int64, plain_strings, plain_dictionary,
    plain_arr_map OwnerReference.plain] using hmanaged

/-! ## Objects -/

section Objects

variable {α σ τ : Type} {decodeSpec : Decoder σ} {decodeStatus : Decoder τ} {writeSpec : σ → Json}
  {writeStatus : τ → Json} {name apiVersion kind : String} {m : ObjectMeta} {spec : σ}
  {status : Option τ}

/-- An object of the cluster as it is written; the status is left out until someone reports one. -/
def objectJson (writeSpec : σ → Json) (writeStatus : τ → Json) (apiVersion kind : String)
    (m : ObjectMeta) (spec : σ) (status : Option τ) : Json :=
  Json.record [
    ("apiVersion", some (.str apiVersion)),
    ("kind", some (.str kind)),
    ("metadata", some m.toJson),
    ("spec", some (writeSpec spec)),
    ("status", status.map writeStatus)]

theorem reads_object (make : ObjectMeta → σ → Option τ → α)
    (hmetadata : ObjectMeta.decode m.toJson = .ok m)
    (hspec : Reads decodeSpec (writeSpec spec) spec)
    (hstatus : ∀ s ∈ status, Reads decodeStatus (writeStatus s) s) :
    Reads (listDecoder name (make <$> required ObjectMeta.decode "metadata"
        <*> required decodeSpec "spec" <*> optional decodeStatus "status"))
      (objectJson writeSpec writeStatus apiVersion kind m spec status) (make m spec status) := by
  refine reads_listDecoder (by simp) ?_
  rintro members ⟨-, -, hm, hs, ht⟩
  exact (finds_required hm ⟨nofun, hmetadata⟩).map make
    |>.seq (finds_required hs hspec)
    |>.seq (finds_optional ht hstatus)

theorem plain_object {depth : ℕ} (hmetadata : m.ManagedPlain depth)
    (hspec : Plain (depth + 3) (writeSpec spec))
    (hstatus : ∀ s ∈ status, Plain (depth + 3) (writeStatus s)) :
    Plain (depth + 4) (objectJson writeSpec writeStatus apiVersion kind m spec status) := by
  refine plain_record ?_
  simpa [Plain.str, ObjectMeta.plain hmetadata, hspec] using hstatus

end Objects

/-! ## Conditions -/

theorem Condition.reads (c : Condition) : Reads Condition.decode c.toJson c := by
  refine reads_listDecoder (by simp) ?_
  rintro members ⟨htime, hmessage, hreason, hstatus, htype⟩
  exact (finds_required htype (reads_text _)).map Condition.mk
    |>.seq (finds_required hstatus (reads_text _))
    |>.seq (finds_optional_text hreason)
    |>.seq (finds_optional_text hmessage)
    |>.seq (finds_optional_text htime)

theorem Condition.plain {depth : ℕ} (c : Condition) : Plain (depth + 1) c.toJson := by
  refine plain_record ?_
  simp [Plain.str]

/-! ## Networks -/

theorem ClusterNetworkEntry.reads (e : ClusterNetworkEntry) :
    Reads ClusterNetworkEntry.decode e.toJson e := by
  refine reads_listDecoder (by simp) ?_
  rintro members ⟨hcidr, hprefix⟩
  exact (finds_required hcidr (reads_text _)).map ClusterNetworkEntry.mk
    |>.seq (finds_optional hprefix fun n _ => reads_uint32 n)

theorem ClusterNetworkEntry.plain {depth : ℕ} (e : ClusterNetworkEntry) :
    Plain (depth + 1) e.toJson := by
  refine plain_record ?_
  simp [Plain.str, plain_uint32]

theorem reads_clusterNetwork (entries : List ClusterNetworkEntry) :
    Reads (list ClusterNetworkEntry.decode) (clusterNetworkJson entries) entries :=
  reads_list fun e _ => e.reads

theorem plain_clusterNetwork {depth : ℕ} (entries : List ClusterNetworkEntry) :
    Plain (depth + 2) (clusterNetworkJson entries) :=
  plain_arr_map ClusterNetworkEntry.plain entries

theorem NetworkSpec.reads (s : NetworkSpec) : Reads NetworkSpec.decode s.toJson s := by
  refine reads_listDecoder (by simp) ?_
  rintro members ⟨hcluster, htype, hservice⟩
  exact (finds_defaulted hcluster (reads_clusterNetwork _)).map NetworkSpec.mk
    |>.seq (finds_defaulted hservice (ObjectMeta.reads_strings _))
    |>.seq (finds_optional_text htype)

theorem NetworkSpec.plain {depth : ℕ} (s : NetworkSpec) : Plain (depth + 3) s.toJson := by
  refine plain_record ?_
  simp [Plain.str, plain_clusterNetwork, ObjectMeta.plain_strings]

theorem NetworkStatus.reads (s : NetworkStatus) : Reads NetworkStatus.decode s.toJson s := by
  refine reads_listDecoder (by simp) ?_
  rintro members ⟨hcluster, hmtu, htype, hservice⟩
  exact (finds_defaulted hcluster (reads_clusterNetwork _)).map NetworkStatus.mk
    |>.seq (finds_defaulted hservice (ObjectMeta.reads_strings _))
    |>.seq (finds_optional_text htype)
    |>.seq (finds_optional hmtu fun n _ => reads_int32 n)

theorem NetworkStatus.plain {depth : ℕ} (s : NetworkStatus) : Plain (depth + 3) s.toJson := by
  refine plain_record ?_
  simp [Plain.str, plain_clusterNetwork, ObjectMeta.plain_strings, plain_int32]

theorem Network.reads {n : Network} (h : ObjectMeta.decode n.metadata.toJson = .ok n.metadata) :
    Reads Network.decode n.toJson n :=
  reads_object Network.mk h n.spec.reads fun s _ => s.reads

theorem Network.plain {depth : ℕ} {n : Network} (h : n.metadata.ManagedPlain depth) :
    Plain (depth + 4) n.toJson :=
  plain_object h n.spec.plain fun s _ => s.plain

/-! ## Infrastructure -/

theorem ConfigMapFileReference.reads (r : ConfigMapFileReference) :
    Reads ConfigMapFileReference.decode r.toJson r := by
  refine reads_listDecoder (by simp) ?_
  rintro members ⟨hkey, hname⟩
  exact (finds_required hname (reads_text _)).map ConfigMapFileReference.mk
    |>.seq (finds_optional_text hkey)

theorem ConfigMapFileReference.plain {depth : ℕ} (r : ConfigMapFileReference) :
    Plain (depth + 1) r.toJson := by
  refine plain_record ?_
  simp [Plain.str]

theorem InfrastructureSpec.reads (s : InfrastructureSpec) :
    Reads InfrastructureSpec.decode s.toJson s := by
  refine reads_listDecoder (by simp) ?_
  intro members hcloud
  exact (finds_optional hcloud fun r _ => r.reads).map InfrastructureSpec.mk

theorem InfrastructureSpec.plain {depth : ℕ} (s : InfrastructureSpec) :
    Plain (depth + 2) s.toJson := by
  refine plain_record ?_
  simp [ConfigMapFileReference.plain]

theorem InfrastructureStatus.reads (s : InfrastructureStatus) :
    Reads InfrastructureStatus.decode s.toJson s := by
  refine reads_listDecoder (by simp) ?_
  rintro members ⟨hinternal, hserver, hdomain, hname, hplatform⟩
  exact (finds_optional_text hname).map InfrastructureStatus.mk
    |>.seq (finds_optional_text hplatform)
    |>.seq (finds_optional_text hdomain)
    |>.seq (finds_optional_text hserver)
    |>.seq (finds_optional_text hinternal)

theorem InfrastructureStatus.plain {depth : ℕ} (s : InfrastructureStatus) :
    Plain (depth + 1) s.toJson := by
  refine plain_record ?_
  simp [Plain.str]

theorem Infrastructure.reads {i : Infrastructure}
    (h : ObjectMeta.decode i.metadata.toJson = .ok i.metadata) :
    Reads Infrastructure.decode i.toJson i :=
  reads_object Infrastructure.mk h i.spec.reads fun s _ => s.reads

theorem Infrastructure.plain {depth : ℕ} {i : Infrastructure} (h : i.metadata.ManagedPlain depth) :
    Plain (depth + 4) i.toJson :=
  plain_object h i.spec.plain fun s _ => s.plain

/-! ## The operator -/

theorem EtcdSpec.reads (s : EtcdSpec) : Reads EtcdSpec.decode s.toJson s := by
  refine reads_listDecoder (by simp) ?_
  rintro members ⟨hlevel, hmanagement, hoperator⟩
  exact (finds_optional_text hmanagement).map EtcdSpec.mk
    |>.seq (finds_optional_text hlevel)
    |>.seq (finds_optional_text hoperator)

theorem EtcdSpec.plain {depth : ℕ} (s : EtcdSpec) : Plain (depth + 1) s.toJson := by
  refine plain_record ?_
  simp [Plain.str]

theorem EtcdStatus.reads (s : EtcdStatus) : Reads EtcdStatus.decode s.toJson s := by
  refine reads_listDecoder (by simp) ?_
  rintro members ⟨hconditions, hgeneration, hready⟩
  exact (finds_defaulted hconditions (reads_list fun c _ => c.reads)).map EtcdStatus.mk
    |>.seq (finds_optional hgeneration fun n _ => reads_int64 n)
    |>.seq (finds_optional hready fun n _ => reads_int32 n)

theorem EtcdStatus.plain {depth : ℕ} (s : EtcdStatus) : Plain (depth + 3) s.toJson := by
  refine plain_record ?_
  simp [plain_arr_map Condition.plain, plain_int32, plain_int64]

theorem Etcd.reads {e : Etcd} (h : ObjectMeta.decode e.metadata.toJson = .ok e.metadata) :
    Reads Etcd.decode e.toJson e :=
  reads_object Etcd.mk h e.spec.reads fun s _ => s.reads

theorem Etcd.plain {depth : ℕ} {e : Etcd} (h : e.metadata.ManagedPlain depth) :
    Plain (depth + 4) e.toJson :=
  plain_object h e.spec.plain fun s _ => s.plain

/-! ## All types of documents -/

/-- The documents whose members are named here: conditions, the configuration of the cluster and the
operator, with their parts. -/
inductive Schema
  | condition
  | clusterNetworkEntry
  | networkSpec
  | networkStatus
  | network
  | configMapFileReference
  | infrastructureSpec
  | infrastructureStatus
  | infrastructure
  | etcdSpec
  | etcdStatus
  | etcd

namespace Schema

abbrev Value : Schema → Type
  | condition => Condition
  | clusterNetworkEntry => ClusterNetworkEntry
  | networkSpec => NetworkSpec
  | networkStatus => NetworkStatus
  | network => Network
  | configMapFileReference => ConfigMapFileReference
  | infrastructureSpec => InfrastructureSpec
  | infrastructureStatus => InfrastructureStatus
  | infrastructure => Infrastructure
  | etcdSpec => EtcdSpec
  | etcdStatus => EtcdStatus
  | etcd => Etcd

def read : (s : Schema) → Json.Decoder s.Value
  | condition => Condition.decode
  | clusterNetworkEntry => ClusterNetworkEntry.decode
  | networkSpec => NetworkSpec.decode
  | networkStatus => NetworkStatus.decode
  | network => Network.decode
  | configMapFileReference => ConfigMapFileReference.decode
  | infrastructureSpec => InfrastructureSpec.decode
  | infrastructureStatus => InfrastructureStatus.decode
  | infrastructure => Infrastructure.decode
  | etcdSpec => EtcdSpec.decode
  | etcdStatus => EtcdStatus.decode
  | etcd => Etcd.decode

def write : (s : Schema) → s.Value → Json
  | condition => Condition.toJson
  | clusterNetworkEntry => ClusterNetworkEntry.toJson
  | networkSpec => NetworkSpec.toJson
  | networkStatus => NetworkStatus.toJson
  | network => Network.toJson
  | configMapFileReference => ConfigMapFileReference.toJson
  | infrastructureSpec => InfrastructureSpec.toJson
  | infrastructureStatus => InfrastructureStatus.toJson
  | infrastructure => Infrastructure.toJson
  | etcdSpec => EtcdSpec.toJson
  | etcdStatus => EtcdStatus.toJson
  | etcd => Etcd.toJson

/-- The metadata of an object; parts of objects have none. -/
def metadata? : (s : Schema) → s.Value → Option ObjectMeta
  | network, n => some (Network.metadata n)
  | infrastructure, i => some (Infrastructure.metadata i)
  | etcd, e => some (Etcd.metadata e)
  | _, _ => none

/-- Reads a value from a text. -/
def readText? (s : Schema) (text : String) : Option s.Value :=
  (Json.parse? text).bind fun j => (s.read j).toOption

/-- Writes a value as a text. -/
def writeText (s : Schema) (v : s.Value) : String := (s.write v).print

variable {s : Schema} {v : s.Value}

/-- Metadata, which the cluster defines, is read as it was written. -/
def MetadataReads (s : Schema) (v : s.Value) : Prop :=
  ∀ m ∈ s.metadata? v, ObjectMeta.decode m.toJson = .ok m

/-- Metadata is read as it was written from its text as well. This has to be said for the managed
documents only, as nothing else in it holds numbers that may be read otherwise or nests too deep. -/
structure MetadataReturns (s : Schema) (v : s.Value) : Prop where
  document : s.MetadataReads v
  text : ∀ m ∈ s.metadata? v, m.ManagedPlain (Reader.maxDepth - 4)

theorem reads (h : s.MetadataReads v) : Reads s.read (s.write v) v := by
  cases s with
  | condition => exact Condition.reads v
  | clusterNetworkEntry => exact ClusterNetworkEntry.reads v
  | networkSpec => exact NetworkSpec.reads v
  | networkStatus => exact NetworkStatus.reads v
  | network => exact Network.reads (h _ rfl)
  | configMapFileReference => exact ConfigMapFileReference.reads v
  | infrastructureSpec => exact InfrastructureSpec.reads v
  | infrastructureStatus => exact InfrastructureStatus.reads v
  | infrastructure => exact Infrastructure.reads (h _ rfl)
  | etcdSpec => exact EtcdSpec.reads v
  | etcdStatus => exact EtcdStatus.reads v
  | etcd => exact Etcd.reads (h _ rfl)

theorem plain (h : s.MetadataReturns v) : Plain Reader.maxDepth (s.write v) := by
  cases s with
  | condition => exact Condition.plain v
  | clusterNetworkEntry => exact ClusterNetworkEntry.plain v
  | networkSpec => exact NetworkSpec.plain v
  | networkStatus => exact NetworkStatus.plain v
  | network => exact Network.plain (h.text _ rfl)
  | configMapFileReference => exact ConfigMapFileReference.plain v
  | infrastructureSpec => exact InfrastructureSpec.plain v
  | infrastructureStatus => exact InfrastructureStatus.plain v
  | infrastructure => exact Infrastructure.plain (h.text _ rfl)
  | etcdSpec => exact EtcdSpec.plain v
  | etcdStatus => exact EtcdStatus.plain v
  | etcd => exact Etcd.plain (h.text _ rfl)

/-- What is written of a value is read as this value, as a document and as a text. -/
structure Returns (s : Schema) (v : s.Value) : Prop where
  document : s.read (s.write v) = .ok v
  text : s.readText? (s.writeText v) = some v

theorem returns (h : s.MetadataReturns v) : s.Returns v := by
  have hread := (reads h.document).decoded
  refine ⟨hread, ?_⟩
  rw [readText?, writeText, parse?_print (plain h), Option.bind_some, hread]
  rfl

/-- **What is written is read as it was.** So what has been read of a document or a text, in
whatever form it was given there, is written in a form that no more reading and writing changes. -/
theorem written_returns (s : Schema) :
    (∀ v, s.MetadataReads v → s.read (s.write v) = .ok v) ∧
    (∀ v, s.MetadataReturns v → s.Returns v) ∧
    (∀ j v, s.read j = .ok v → s.MetadataReads v →
      ∃ w, s.read (s.write v) = .ok w ∧ w = v ∧ s.write w = s.write v) ∧
    (∀ text v, s.readText? text = some v → s.MetadataReturns v →
      ∃ w, s.readText? (s.writeText v) = some w ∧ w = v ∧ s.writeText w = s.writeText v) :=
  ⟨fun _ h => (reads h).decoded, fun _ h => returns h,
    fun _ v _ h => ⟨v, (reads h).decoded, rfl, rfl⟩,
    fun _ v _ h => ⟨v, (returns h).text, rfl, rfl⟩⟩

/-- The note that somebody manages the specification of an object. -/
def specManaged : ManagedFieldsEntry :=
  { manager := some "operator", fieldsV1 := some (.ofJson (.obj [("f:spec", .obj [])])) }

theorem returning_specManaged : specManaged.Returning where
  fields := by
    rintro d ⟨⟩
    nofun
  time := nofun

def ovn : Network where
  metadata :=
    { name := some "cluster"
      creationTimestamp := some ⟨1735689600⟩
      managedFields := some [specManaged] }
  spec := { networkType := some "OVNKubernetes" }
  status := some {
    clusterNetwork := [⟨"10.128.0.0/14", some 23⟩]
    clusterNetworkMtu := some 1400 }

/-- A record may be given as the list of its members. -/
def ovnListed : Json :=
  .arr [
    .obj [
      ("name", .str "cluster"),
      ("creationTimestamp", .str "2025-01-01T01:00:00+01:00"),
      ("managedFields", .arr [
        .obj [("manager", .str "operator"), ("fieldsV1", .obj [("f:spec", .obj [])])]])],
    .arr [.arr [], .arr [], .str "OVNKubernetes"],
    .obj [
      ("clusterNetwork", .arr [.arr [.str "10.128.0.0/14", .int 23]]),
      ("clusterNetworkMTU", .int 1400)]]

/-- Members in another order, an escape, a member that means nothing and an explicit `null`. -/
def ovnText : String :=
  "\x7b\"status\": [[[\"10.128.0.0\\/14\", 23]], [], null, 1400], \"kind\": 7, " ++
  "\"spec\": [[], [], \"OVNKubernetes\"], \"metadata\": \x7b\"name\": \"cluster\", " ++
  "\"managedFields\": [\x7b\"fieldsV1\": \x7b\"f:spec\": \x7b\x7d\x7d, " ++
  "\"manager\": \"operator\"\x7d], " ++
  "\"creationTimestamp\": \"2025-01-01T00:00:00Z\"\x7d\x7d"

theorem ovn_returns :
    network.MetadataReturns ovn ∧ network.Returns ovn ∧
    network.read ovnListed = .ok ovn ∧
    (∃ w, network.read (network.write ovn) = .ok w ∧ w = ovn ∧
      network.write w = network.write ovn) ∧
    network.readText? ovnText = some ovn ∧
    (∃ w, network.readText? (network.writeText ovn) = some w ∧ w = ovn ∧
      network.writeText w = network.writeText ovn) := by
  have hcreation : ∀ t ∈ ovn.metadata.creationTimestamp, Timestamp.parse? t.text = some t := by
    decide +kernel
  have hmanaged : ∀ entries ∈ ovn.metadata.managedFields, ∀ e ∈ entries, e = specManaged := by
    rintro entries ⟨⟩
    exact List.forall_mem_singleton.mpr rfl
  have hreads : network.MetadataReads ovn := by
    rintro m ⟨⟩
    refine (ObjectMeta.reads ⟨hcreation, nofun, fun entries hentries e he => ?_⟩).decoded
    rw [hmanaged entries hentries e he]
    exact returning_specManaged
  have hmetadata : network.MetadataReturns ovn := by
    refine ⟨hreads, ?_⟩
    rintro m ⟨⟩ entries hentries e he d hd
    rw [hmanaged entries hentries e he] at hd
    obtain rfl := Option.some.inj hd
    exact .obj (List.pairwise_singleton ..)
      (List.forall_mem_singleton.mpr (.obj .nil (List.forall_mem_nil _)))
  have hlisted : network.read ovnListed = .ok ovn := by decide +kernel
  have htext : network.readText? ovnText = some ovn := by decide +kernel
  obtain ⟨-, hvalue, hdocuments, htexts⟩ := written_returns network
  exact ⟨hmetadata, hvalue ovn hmetadata, hlisted, hdocuments _ ovn hlisted hreads, htext,
    htexts _ ovn htext hmetadata⟩

end Schema

end EtcdRoster
