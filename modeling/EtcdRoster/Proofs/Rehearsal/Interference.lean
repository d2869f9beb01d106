import EtcdRoster.Proofs.Rehearsal.Alone
import EtcdRoster.Rehearsal.Cast

/-!
# A sync among other writers

A sync reads the published object twice: once to learn the bootstrap entry, and once more right
before it writes. Somebody else may write the object at any time, each time in a version of its own.
The version that guards the write is that of the second read, but the bootstrap entry comes from the
first one.

* `Shared.replaced_of_interleaved` — the first read decides what a sync writes, and what it
  overwrites is what its last read has found, as the versions promise.
* `overwritten_bootstrap_kept_iff` — the bootstrap entry of what a sync overwrites is kept exactly
  if the first read has found the same entry, or some member has this very address.
* `overwritten_bootstrap_lost` — so a bootstrap entry that arrives between the two reads is lost.
-/

namespace EtcdRoster.Rehearsal

open Dialogue (Holds Leads answering)
open Reconcile (Ask Outcome)
open PublishedStore (version? withVersion)
open Relation (ReflTransGen)

/-- A world that a sync shares with other writers of the published object, and what is remembered
of it. -/
structure Shared where
  world : World
  /-- Every version that the published object has had. -/
  versions : List (Option String)
  /-- What each read of the sync has found, in order. -/
  found : List (Option Endpoints) := []
  /-- What each replacement of the sync has overwritten and written, in order. -/
  replaced : List (Option Endpoints × Option Endpoints) := []

namespace Shared

/-- Before a sync there is nothing to remember but the version. -/
def start (w : World) : Shared where
  world := w
  versions := [version? w.published.object]

/-- What the answer says about the published object. -/
def foundBy : (q : Ask) → q.Answer → List (Option Endpoints)
  | .readEndpoints _ _, .ok e => [e]
  | _, _ => []

/-- What the answer has done to the published object. -/
def replacedBy : (q : Ask) → q.Answer → World → World → List (Option Endpoints × Option Endpoints)
  | .replaceEndpoints _, .ok _, before, after => [(before.published.object, after.published.object)]
  | _, _, _, _ => []

def remember (s : Shared) (q : Ask) (a : q.Answer) (after : World) : Shared where
  world := after
  versions := version? after.published.object :: s.versions
  found := s.found ++ foundBy q a
  replaced := s.replaced ++ replacedBy q a s.world after

/-- Answers as the world does. -/
def answer (q : Ask) (s : Shared) : q.Answer × Shared :=
  ((World.answer q s.world).1,
    s.remember q (World.answer q s.world).1 (World.answer q s.world).2)

/-- Puts another object in the place of the published one. -/
def put (s : Shared) (e : Endpoints) (version : String) : Shared :=
  { s with
    world.published.object := some (withVersion e version)
    versions := some version :: s.versions }

/-- Somebody else writes the published object, in a version that it has never had. -/
def Foreign (s t : Shared) : Prop :=
  ∃ e version, some version ∉ s.versions ∧ t = s.put e version

/-- A sync of the published object among foreign writes, any number of them before each answer, can
end so. -/
def Interleaved (w : World) (scope : String) (r : Except SyncError Outcome) (t : Shared) : Prop :=
  Holds ((answering answer).among Foreign) (Reconcile.syncEndpoints scope).run (start w) r t

/-! ## What others leave alone -/

/-- The circumstances are these, and the version of the object is a known one. -/
structure Sound (c : Circumstances) (s : Shared) : Prop where
  circumstances_eq : s.world.circumstances = c
  alone : s.world.published.foreign = none
  version_mem : version? s.world.published.object ∈ s.versions

variable {c : Circumstances} {s t : Shared} {q : Ask} {a : q.Answer}

theorem Sound.of_foreign (hs : s.Sound c) (h : ReflTransGen Foreign s t) : t.Sound c := by
  induction h with
  | refl => exact hs
  | tail _ hwrite ih =>
    obtain ⟨e, version, -, rfl⟩ := hwrite
    exact ⟨ih.circumstances_eq, ih.alone, List.mem_cons_self ..⟩

/-- Foreign writes do not touch what the sync has found and replaced. -/
theorem memories_of_foreign (h : ReflTransGen Foreign s t) :
    t.found = s.found ∧ t.replaced = s.replaced := by
  induction h with
  | refl => exact ⟨rfl, rfl⟩
  | tail _ hwrite ih =>
    obtain ⟨e, version, -, rfl⟩ := hwrite
    exact ih

theorem versions_of_foreign (h : ReflTransGen Foreign s t) : s.versions ⊆ t.versions := by
  induction h with
  | refl => exact List.Subset.refl _
  | tail _ hwrite ih =>
    obtain ⟨e, version, -, rfl⟩ := hwrite
    exact List.subset_cons_of_subset _ ih

/-- Whoever writes leaves a version that was not there before. -/
theorem eq_or_version_new_of_foreign (h : ReflTransGen Foreign s t) :
    t = s ∨ version? t.world.published.object ∉ s.versions := by
  induction h with
  | refl => exact .inl rfl
  | tail hwrites hwrite _ =>
    obtain ⟨e, version, hnew, rfl⟩ := hwrite
    exact .inr fun hold => hnew (versions_of_foreign hwrites hold)

/-- An answer among others is the world's answer after some foreign writes. -/
theorem among_iff :
    (answering answer).among Foreign q s a t ↔
      ∃ m after, ReflTransGen Foreign s m ∧ World.answer q m.world = (a, after) ∧
        t = m.remember q a after := by
  constructor
  · rintro ⟨m, hwrites, hanswer⟩
    obtain ⟨rfl, rfl⟩ := Prod.mk.inj hanswer
    exact ⟨m, _, hwrites, rfl, rfl⟩
  · rintro ⟨m, after, hwrites, hanswer, rfl⟩
    refine ⟨m, hwrites, ?_⟩
    simp only [answering, answer, hanswer]

theorem Sound.of_among (hs : s.Sound c) (h : (answering answer).among Foreign q s a t) :
    t.Sound c ∧ c.Informs q a := by
  obtain ⟨m, after, hwrites, hanswer, rfl⟩ := among_iff.mp h
  have hm := hs.of_foreign hwrites
  have hinforms := Circumstances.informs_answer q m.world
  have hcircumstances := World.circumstances_answer q m.world
  have halone := World.foreign_answer q hm.alone
  rw [hanswer] at hinforms hcircumstances halone
  rw [hm.circumstances_eq] at hinforms hcircumstances
  exact ⟨⟨hcircumstances, halone, List.mem_cons_self ..⟩, hinforms⟩

/-! ## What the sync finds and replaces -/

theorem replaced_of_among (h : (answering answer).among Foreign q s a t)
    (hq : ∀ before after, replacedBy q a before after = []) : t.replaced = s.replaced := by
  obtain ⟨m, after, hwrites, -, rfl⟩ := among_iff.mp h
  rw [remember, hq, List.append_nil, (memories_of_foreign hwrites).2]

theorem found_of_among (h : (answering answer).among Foreign q s a t) :
    t.found = s.found ++ foundBy q a := by
  obtain ⟨m, after, hwrites, -, rfl⟩ := among_iff.mp h
  rw [remember, (memories_of_foreign hwrites).1]

theorem replacedBy_of_isRead (hq : q.isRead = true) (before after : World) :
    replacedBy q a before after = [] := by
  cases q <;> first | rfl | cases hq

/-- The object that a read has found is the published one. -/
theorem object_of_among_read {name scope : String} {e : Endpoints} (hs : s.Sound c)
    (h : (answering answer).among Foreign (.readEndpoints name scope) s (.ok (some e)) t) :
    t.world.published.object = some e := by
  obtain ⟨m, after, hwrites, hanswer, rfl⟩ := among_iff.mp h
  obtain ⟨hfound, rfl⟩ := World.answer_read_some hanswer
  simp only [remember, World.interfere_eq_self (hs.of_foreign hwrites).alone]
  exact (PublishedStore.find?_eq_some_iff.mp hfound).1

/-- A replacement that carries the version of the published object overwrites this very object, or
it fails: whatever is written before it has another version. -/
theorem replaced_of_among_replace {existing e : Endpoints} (hs : s.Sound c)
    (hobject : s.world.published.object = some existing)
    (hversion : e.metadata.resourceVersion = existing.metadata.resourceVersion)
    (h : (answering answer).among Foreign (.replaceEndpoints e) s (.ok ()) t) :
    ∃ version, t.replaced = s.replaced ++ [(some existing, some (withVersion e version))] := by
  obtain ⟨m, after, hwrites, hanswer, rfl⟩ := among_iff.mp h
  obtain ⟨hstored, rfl⟩ := World.answer_replace_ok hanswer
  have hknown : version? m.world.published.object ∈ s.versions := by
    rw [hstored, hversion]
    have hmem := hs.version_mem
    rwa [hobject] at hmem
  obtain rfl | hnew := eq_or_version_new_of_foreign hwrites
  · simp only [remember, replacedBy, hobject]
    exact ⟨_, rfl⟩
  · exact absurd hknown hnew

/-- Planning replaces nothing. -/
theorem replaced_of_plan {scope : String} {r : Except SyncError (Endpoints × Endpoints)}
    (h : Holds ((answering answer).among Foreign) (Reconcile.plan scope).run s r t) :
    t.replaced = s.replaced := by
  refine h.invariant (I := fun u => u.replaced = s.replaced) ?_ (Reconcile.asks_plan scope) rfl
  intro q u a m hq hu answered
  exact (replaced_of_among answered (replacedBy_of_isRead hq)).trans hu

/-- A plan is made from the first object that the sync has found. -/
theorem first_found_of_plan {scope : String} {first required : Endpoints} (hs : s.Sound c)
    (hstart : s.found = [])
    (h : Holds ((answering answer).among Foreign) (Reconcile.plan scope).run s
      (.ok (first, required)) t) :
    t.Sound c ∧ (∃ between, t.found = some first :: between) ∧
      ∃ domain members, c.Members domain members ∧
        required = wanted scope domain members first := by
  have informs : ∀ q u a m, u.Sound c → (answering answer).among Foreign q u a m →
      m.Sound c ∧ c.Informs q a := fun _ _ _ _ hu answered => hu.of_among answered
  obtain ⟨s₁, domain, members, hread, hleads, hmembers, rfl⟩ :=
    Circumstances.built_of_holds informs hs h
  have hfirst : s₁.found = [some first] := by
    rw [found_of_among hread, hstart]
    rfl
  obtain ⟨ht, hfound⟩ : t.Sound c ∧ ∃ between, t.found = some first :: between := by
    refine hleads.invariant (I := fun u => u.Sound c ∧ ∃ between, u.found = some first :: between)
      ?_ ⟨(hs.of_among hread).1, [], hfirst⟩
    rintro q u a m ⟨hu, between, hfound⟩ answered
    refine ⟨(hu.of_among answered).1, between ++ foundBy q a, ?_⟩
    rw [found_of_among answered, hfound, List.cons_append]
  exact ⟨ht, hfound, domain, members, hmembers, rfl⟩

/-- An application replaces nothing but the object that it has found, and that by its own result. -/
theorem replaced_of_applied {required : Endpoints} {r : Except SyncError Outcome}
    {before after : Option Endpoints} (hs : s.Sound c) (hstart : s.replaced = [])
    (h : Reconcile.Applied ((answering answer).among Foreign) required s r t)
    (replaced : (before, after) ∈ t.replaced) :
    ∃ overwritten version, t.found = s.found ++ [some overwritten] ∧ before = some overwritten ∧
      after = some (withVersion (Difference.reconcile overwritten required).1 version) := by
  -- Questions other than a replacement leave the list empty.
  have hkept : ∀ {q : Ask} {a : q.Answer} {u m : Shared},
      (answering answer).among Foreign q u a m → u.replaced = [] →
      (∀ x y, replacedBy q a x y = []) → m.replaced = [] :=
    fun answered hu hq => (replaced_of_among answered hq).trans hu
  have hnothing : t.replaced = [] → False := by
    intro hnil
    rw [hnil] at replaced
    cases replaced
  cases h with
  | unreadable read => exact (hnothing (hkept read hstart fun _ _ => rfl)).elim
  | created read wrote told counted =>
    have h₁ := hkept read hstart fun _ _ => rfl
    have h₂ := hkept wrote h₁ fun _ _ => rfl
    have h₃ := hkept told h₂ fun _ _ => rfl
    exact (hnothing (hkept counted h₃ fun _ _ => rfl)).elim
  | createFailed read wrote told =>
    have h₁ := hkept read hstart fun _ _ => rfl
    have h₂ := hkept wrote h₁ fun _ _ => rfl
    exact (hnothing (hkept told h₂ fun _ _ => rfl)).elim
  | unchanged read same => exact (hnothing (hkept read hstart fun _ _ => rfl)).elim
  | updateFailed read differs wrote told =>
    have h₁ := hkept read hstart fun _ _ => rfl
    have h₂ := hkept wrote h₁ fun _ _ => rfl
    exact (hnothing (hkept told h₂ fun _ _ => rfl)).elim
  | @updated existing m n o t read differs wrote told counted =>
    have h₁ : m.replaced = [] := hkept read hstart fun _ _ => rfl
    obtain ⟨version, h₂⟩ := replaced_of_among_replace (hs.of_among read).1
      (object_of_among_read hs read) (Difference.resourceVersion_reconcile existing required) wrote
    have h₃ : t.replaced = n.replaced := by
      rw [replaced_of_among counted fun _ _ => rfl, replaced_of_among told fun _ _ => rfl]
    rw [h₃, h₂, h₁, List.nil_append, List.mem_singleton] at replaced
    obtain ⟨rfl, rfl⟩ := Prod.mk.inj replaced
    refine ⟨existing, version, ?_, rfl, rfl⟩
    rw [found_of_among counted, found_of_among told, found_of_among wrote, found_of_among read]
    simp only [foundBy, List.append_nil]

/-- What a sync has replaced comes from its two reads: the first one decides the object to write,
the last one has found what is overwritten. -/
theorem replaced_of_interleaved {w : World} {scope : String} {r : Except SyncError Outcome}
    {before after : Option Endpoints} (alone : w.published.foreign = none)
    (synced : Interleaved w scope r t) (replaced : (before, after) ∈ t.replaced) :
    ∃ first between overwritten version domain members,
      t.found = some first :: (between ++ [some overwritten]) ∧
      w.circumstances.Members domain members ∧ before = some overwritten ∧
      after = some (withVersion
        (Difference.reconcile overwritten (wanted scope domain members first)).1 version) := by
  have hstart : (start w).Sound w.circumstances := ⟨rfl, alone, List.mem_singleton_self _⟩
  obtain ⟨e, hplan, -⟩ | ⟨first, required, m, hplan, hrest⟩ := Reconcile.synced_of_holds synced
  · rw [replaced_of_plan hplan] at replaced
    cases replaced
  have hnone : m.replaced = [] := replaced_of_plan hplan
  obtain ⟨hm, ⟨between, hfound⟩, domain, members, hmembers, rfl⟩ :=
    first_found_of_plan hstart rfl hplan
  obtain ⟨e, happly, -⟩ | ⟨outcome, n, happly, hcounted, -⟩ := hrest
  · obtain ⟨overwritten, version, hlast, hbefore, hafter⟩ :=
      replaced_of_applied hm hnone happly replaced
    refine ⟨first, between, overwritten, version, domain, members, ?_, hmembers, hbefore, hafter⟩
    rw [hlast, hfound, List.cons_append]
  · have hlast : t.found = n.found := (found_of_among hcounted).trans (List.append_nil _)
    rw [replaced_of_among hcounted fun _ _ => rfl] at replaced
    obtain ⟨overwritten, version, hread, hbefore, hafter⟩ :=
      replaced_of_applied hm hnone happly replaced
    refine ⟨first, between, overwritten, version, domain, members, ?_, hmembers, hbefore, hafter⟩
    rw [hlast, hread, hfound, List.cons_append]

end Shared

/-! ## The bootstrap entry of another writer -/

/-- **What becomes of the bootstrap entry of another writer.** However foreign writes are
interleaved with a sync, if the sync overwrites an object, then it keeps the bootstrap entry of that
object exactly if this entry is also the one that its first read has found, or the address of a
member. -/
theorem overwritten_bootstrap_kept_iff {w : World} {scope : String} {t : Shared}
    {r : Except SyncError Outcome} {overwritten result : Endpoints}
    (alone : w.published.foreign = none) (synced : Shared.Interleaved w scope r t)
    (replaced : (some overwritten, some result) ∈ t.replaced) :
    ∃ first domain members, t.found.head? = some (some first) ∧
      t.found.getLast? = some (some overwritten) ∧ w.circumstances.Members domain members ∧
      ∀ b, Desired.bootstrapAddress? overwritten = some b →
        (b ∈ result.firstAddresses ↔ Desired.bootstrapAddress? first = some b ∨ b ∈ members) := by
  obtain ⟨first, between, found, version, domain, members, hreads, hmembers, hbefore, hafter⟩ :=
    Shared.replaced_of_interleaved alone synced replaced
  obtain rfl := Option.some.inj hbefore
  obtain rfl := Option.some.inj hafter
  have hperm := firstAddresses_reconcile_perm overwritten scope domain
    (members ++ (Desired.bootstrapAddress? first).toList)
  refine ⟨first, domain, members, by rw [hreads]; rfl, ?_, hmembers, fun b _ => ?_⟩
  · rw [hreads, ← List.cons_append, List.getLast?_concat]
  · rw [show b ∈ (withVersion _ version).firstAddresses ↔ _ from hperm.mem_iff, List.mem_append,
      Option.mem_toList, or_comm]

/-- Writes this object as somebody else, if the version is one that the object has never had. -/
def Shared.overtake (e : Endpoints) (version : String) (s : Shared) : Shared :=
  if some version ∈ s.versions then s else s.put e version

theorem Shared.foreign_overtake (e : Endpoints) (version : String) (s : Shared) :
    ReflTransGen Foreign s (s.overtake e version) := by
  unfold overtake
  split
  · exact .refl
  · rename_i hnew
    exact .single ⟨e, version, hnew, rfl⟩

/-- A cluster without masters, in which only the bootstrap member is published. -/
def bootstrapping : World where
  topology :=
    { network := some (Cast.network "172.30.0.0/16")
      infrastructure := some (Cast.infrastructure "example.com") }
  published :=
    { object := some (Cast.endpoints [Cast.address "10.0.0.7" Names.bootstrapHost none]) }

/-- The bootstrap member has moved to another address. -/
def moved : Endpoints := Cast.endpoints [Cast.address "10.0.0.8" Names.bootstrapHost none]

/-- The end of the sync if the move is published between its two reads. -/
def overtaken : Except SyncError Outcome × List (Shared → Shared) × Shared :=
  (Reconcile.syncEndpoints Names.defaultScope).run.run (Dialogue.scheduled Shared.answer)
    ([id, Shared.overtake moved "2"], .start bootstrapping)

/-- The move is undone. -/
def undone : Endpoints :=
  { Cast.endpoints [Cast.address "10.0.0.7" Names.bootstrapHost none] with
    metadata :=
      { moved.metadata with
        annotations := some (Dict.empty.insert Names.domainAnnotation "example.com")
        resourceVersion := some "3" } }

theorem interleaved_overtaken :
    Shared.Interleaved bootstrapping Names.defaultScope overtaken.1 overtaken.2.2 := by
  have legal : ∀ move ∈ [id, Shared.overtake moved "2"], ∀ s,
      ReflTransGen Shared.Foreign s (move s) := by
    intro move hmove s
    rcases List.mem_cons.mp hmove with rfl | hmove
    · exact .refl
    · obtain rfl := List.mem_singleton.mp hmove
      exact Shared.foreign_overtake moved "2" s
  exact Dialogue.holds_among_of_run legal rfl

theorem replaced_overtaken :
    overtaken.2.2.replaced = [(some (withVersion moved "2"), some undone)] := by
  decide +kernel

theorem overtaken_kept_iff :
    ∃ first domain members, overtaken.2.2.found.head? = some (some first) ∧
      overtaken.2.2.found.getLast? = some (some (withVersion moved "2")) ∧
      bootstrapping.circumstances.Members domain members ∧
      ∀ b, Desired.bootstrapAddress? (withVersion moved "2") = some b →
        (b ∈ undone.firstAddresses ↔ Desired.bootstrapAddress? first = some b ∨ b ∈ members) :=
  overwritten_bootstrap_kept_iff rfl interleaved_overtaken
    (replaced_overtaken ▸ List.mem_singleton_self _)

/-- **A bootstrap entry that arrives between the two reads is lost**, although the sync reports
success. -/
theorem overwritten_bootstrap_lost :
    ¬ ∀ (w : World) (scope : String) (r : Except SyncError Outcome) (t : Shared),
      w.published.foreign = none → Shared.Interleaved w scope r t →
      ∀ overwritten result, (some overwritten, some result) ∈ t.replaced →
        ∀ b, Desired.bootstrapAddress? overwritten = some b → b ∈ result.firstAddresses := by
  intro hkept
  have hmem := hkept bootstrapping Names.defaultScope overtaken.1 overtaken.2.2 rfl
    interleaved_overtaken (withVersion moved "2") undone
    (replaced_overtaken ▸ List.mem_singleton_self _)
    (Cast.address "10.0.0.8" Names.bootstrapHost none) (by decide +kernel)
  exact absurd hmem (by decide +kernel)

end EtcdRoster.Rehearsal
