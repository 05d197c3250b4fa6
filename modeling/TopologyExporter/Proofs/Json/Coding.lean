import TopologyExporter.Health.Answer
import TopologyExporter.Proofs.Json.Reading
import TopologyExporter.Proofs.Text.Keyed
import TopologyExporter.Proofs.Text.Labels
import TopologyExporter.Target.Group
import TopologyExporter.Topology.Coding

/-!
# Decoding undoes encoding

The types whose values are written as JSON can be read again, and what is read from the text of a
value is that value: every member that is written is a field that is read, what a value lacks is
left out and read as lacking, and a list or a map is read in the order in which it was written.

## Results

* `Reads.ofList`              — items that are read make a list that is read.
* `Instance.reads`, …         — the values of each type are read from their JSON.
* `decoding_undoes_encoding`  — all types, with their lists, from text to value and back to text.
-/

namespace TopologyExporter

open Json (Decoder)
open Json.Decoder (Reads ReadsEntry ReadsField)

namespace Json

/-- How the values of a type are written and read. -/
structure Coding (α : Type) where
  toJson : α → Json
  decoder : Decoder α

namespace Coding

variable {α : Type} (c : Coding α)

/-- The text of a value. -/
def write (a : α) : Bytes := Text.utf8 (c.toJson a).render

/-- The value of a text. -/
def read (bytes : Bytes) : Except DecodeError α := Json.decode c.decoder bytes

/-- The coding of lists. -/
def list : Coding (List α) := ⟨fun as => .list (as.map c.toJson), Decoder.list c.decoder⟩

/-- Whether a value is read back from its text, and what is read has the same text again. -/
def ReadsBack (a : α) : Prop :=
  c.read (c.write a) = .ok a ∧ (c.read (c.write a)).map c.write = .ok (c.write a)

variable {c}

theorem readsBack {a : α} (h : c.decoder.Reads (c.toJson a) a) : c.ReadsBack a := by
  have hRead : c.read (c.write a) = .ok a := h.decode
  refine ⟨hRead, ?_⟩
  rw [hRead]
  rfl

end Coding

/-- Items that are read make a list that is read. -/
theorem Decoder.Reads.ofList {α : Type} {d : Decoder α} {toJson : α → Json} {as : List α}
    (h : ∀ a ∈ as, d.Reads (toJson a) a) :
    (Decoder.list d).Reads (.list (as.map toJson)) as := by
  refine Reads.list ?_
  induction as with
  | nil => exact .nil
  | cons a as ih =>
    rw [List.forall_mem_cons] at h
    exact .cons h.1 (ih h.2)

/-- Values that are read make a map that is read. -/
theorem Decoder.Reads.ofEntries {α : Type} {d : Decoder α} {toJson : α → Json}
    {es : List (String × α)} (h : ∀ e ∈ es, d.Reads (toJson e.2) e.2) :
    (Decoder.map d).Reads (.object (es.map fun e => (e.1, toJson e.2))) es := by
  refine Reads.map ?_
  induction es with
  | nil => exact .nil
  | cons e es ih =>
    rw [List.forall_mem_cons] at h
    exact .cons ⟨rfl, h.1⟩ (ih h.2)

theorem Decoder.reads_texts (ss : List String) :
    (Decoder.list Decoder.text).Reads (.list (ss.map .text)) ss :=
  .ofList fun s _ => reads_text s

end Json

-- ---------------------------------------------------------------------------
-- The topology
-- ---------------------------------------------------------------------------

theorem Workload.reads (p : Workload) : Workload.decoder.Reads p.toJson p := by
  refine Reads.record [p.name] ?_ ?_ rfl
  · exact .cons ⟨_, rfl, Decoder.reads_text p.name⟩ .nil
  · simp

theorem Instance.reads (i : Instance) : Instance.decoder.Reads i.toJson i := by
  refine Reads.record
    [.name i.name, .id i.id, .index i.index, .ips i.ips, .zone i.zone, .processes i.processes]
      ?_ (by simp) rfl
  refine .cons ⟨_, rfl, (Decoder.reads_text i.name).fmap⟩ ?_
  refine .cons ⟨_, rfl, (Decoder.reads_text i.id).fmap⟩ ?_
  refine .cons ⟨_, rfl, (Decoder.reads_text i.index).fmap⟩ ?_
  refine .cons ⟨_, rfl, (Decoder.reads_texts i.ips).fmap⟩ ?_
  refine .cons ⟨_, rfl, (Decoder.reads_text i.zone).fmap⟩ ?_
  exact .cons ⟨_, rfl, (Reads.ofList fun p _ => p.reads).fmap⟩ .nil

theorem Deployment.reads (d : Deployment) : Deployment.decoder.Reads d.toJson d := by
  refine Reads.record [.name d.name, .instances d.instances] ?_ (by simp) rfl
  refine .cons ⟨_, rfl, (Decoder.reads_text d.name).fmap⟩ ?_
  exact .cons ⟨_, rfl, (Reads.ofList fun i _ => i.reads).fmap⟩ .nil

-- ---------------------------------------------------------------------------
-- Target groups
-- ---------------------------------------------------------------------------

theorem TargetGroup.reads (g : TargetGroup) : TargetGroup.decoder.Reads g.toJson g := by
  have hLabels :=
    (Reads.ofEntries fun e (_ : e ∈ g.labels.entries) => Decoder.reads_text e.2).fmap
      (f := fun entries => Member.labels (.ofList entries))
  rw [Labels.ofList_entries] at hLabels
  refine Reads.record [.targets g.targets, .labels g.labels] ?_ (by simp) rfl
  refine .cons ⟨_, rfl, (Decoder.reads_texts g.targets).fmap⟩ ?_
  exact .cons ⟨_, rfl, hLabels⟩ .nil

-- ---------------------------------------------------------------------------
-- Health
-- ---------------------------------------------------------------------------

theorem Status.reads (s : Status) : Status.decoder.Reads s.toJson s := by
  refine Decoder.reads_variant ?_
  cases s with
  | healthy => rfl
  | degraded => rfl
  | unhealthy => rfl

/-- Whether the time of the check is a number of 64 bits. -/
def ComponentHealth.InRange (h : ComponentHealth) : Prop :=
  -2 ^ 63 ≤ h.checkedAt ∧ h.checkedAt < 2 ^ 63

instance (h : ComponentHealth) : Decidable h.InRange := inferInstanceAs (Decidable (_ ∧ _))

theorem ComponentHealth.reads {h : ComponentHealth} (hRange : h.InRange) :
    ComponentHealth.decoder.Reads h.toJson h := by
  obtain ⟨status, message, checkedAt⟩ := h
  have hTime := (Decoder.reads_int64 hRange.1 hRange.2).fmap (f := Member.checkedAt)
  cases message with
  | none =>
    refine Reads.record [.status status, .checkedAt checkedAt] ?_ (by simp) rfl
    refine .cons ⟨_, rfl, status.reads.fmap⟩ ?_
    exact .cons ⟨_, rfl, hTime⟩ .nil
  | some m =>
    refine Reads.record [.status status, .message (some m), .checkedAt checkedAt] ?_ (by simp) rfl
    refine .cons ⟨_, rfl, status.reads.fmap⟩ ?_
    refine .cons ⟨_, rfl, (Decoder.reads_option_text m).fmap⟩ ?_
    exact .cons ⟨_, rfl, hTime⟩ .nil

/-- Whether the times of all checks are numbers of 64 bits. -/
def HealthAnswer.InRange (a : HealthAnswer) : Prop := ∀ h ∈ a.components.values, h.InRange

instance (a : HealthAnswer) : Decidable a.InRange := inferInstanceAs (Decidable (∀ h ∈ _, _))

theorem HealthAnswer.reads {a : HealthAnswer} (hRange : a.InRange) :
    HealthAnswer.decoder.Reads a.toJson a := by
  have hEntries : ∀ e ∈ a.components.entries, ComponentHealth.decoder.Reads e.2.toJson e.2 :=
    fun e he => ComponentHealth.reads (hRange e.2 (List.mem_map_of_mem he))
  have hComponents := (Reads.ofEntries hEntries).fmap
    (f := fun entries => Member.components (.ofList entries))
  rw [Keyed.ofList_entries] at hComponents
  refine Reads.record [.status a.status, .components a.components] ?_ (by simp) rfl
  refine .cons ⟨_, rfl, a.status.reads.fmap⟩ ?_
  exact .cons ⟨_, rfl, hComponents⟩ .nil

theorem ReadinessAnswer.reads (a : ReadinessAnswer) : ReadinessAnswer.decoder.Reads a.toJson a := by
  obtain ⟨ready, reason⟩ := a
  cases reason with
  | none =>
    refine Reads.record [.ready ready] ?_ (by simp) rfl
    exact .cons ⟨_, rfl, (Decoder.reads_boolean ready).fmap⟩ .nil
  | some r =>
    refine Reads.record [.ready ready, .reason (some r)] ?_ (by simp) rfl
    refine .cons ⟨_, rfl, (Decoder.reads_boolean ready).fmap⟩ ?_
    exact .cons ⟨_, rfl, (Decoder.reads_option_text r).fmap⟩ .nil

/-- Whether two answers are the same up to the order of their components. -/
def HealthAnswer.Alike (a b : HealthAnswer) : Prop :=
  a.status = b.status ∧ a.components.entries.Perm b.components.entries

/-- Whether the JSON of two answers is the same up to the order of the members for their
components. -/
def HealthAnswer.WrittenAlike (a b : HealthAnswer) : Prop :=
  ∃ members members' : List (String × Json), members.Perm members' ∧
    a.toJson = .object [("status", a.status.toJson), ("components", .object members)] ∧
    b.toJson = .object [("status", a.status.toJson), ("components", .object members')]

theorem HealthAnswer.Alike.written {a b : HealthAnswer} (h : a.Alike b) : a.WrittenAlike b := by
  refine ⟨_, _, h.2.map fun e => (e.1, e.2.toJson), rfl, ?_⟩
  rw [h.1]
  rfl

theorem HealthAnswer.Alike.inRange {a b : HealthAnswer} (h : a.Alike b) (hRange : b.InRange) :
    a.InRange :=
  fun health hMem => hRange health ((h.2.map Prod.snd).mem_iff.mp hMem)

-- ---------------------------------------------------------------------------
-- All types
-- ---------------------------------------------------------------------------

/-- The coding of processes. -/
def Workload.coding : Json.Coding Workload := ⟨toJson, decoder⟩

/-- The coding of instances. -/
def Instance.coding : Json.Coding Instance := ⟨toJson, decoder⟩

/-- The coding of deployments. -/
def Deployment.coding : Json.Coding Deployment := ⟨toJson, decoder⟩

/-- The coding of target groups. -/
def TargetGroup.coding : Json.Coding TargetGroup := ⟨toJson, decoder⟩

/-- The coding of statuses. -/
def Status.coding : Json.Coding Status := ⟨toJson, decoder⟩

/-- The coding of the health of components. -/
def ComponentHealth.coding : Json.Coding ComponentHealth := ⟨toJson, decoder⟩

/-- The coding of health answers. -/
def HealthAnswer.coding : Json.Coding HealthAnswer := ⟨toJson, decoder⟩

/-- The coding of readiness answers. -/
def ReadinessAnswer.coding : Json.Coding ReadinessAnswer := ⟨toJson, decoder⟩

/-- **Decoding undoes encoding.** A value of any type that is written as JSON is read back from its
text, and what is read has that text again. The components of a health answer have no order of their
own: in whatever order they are written, what is read is that answer, and in whatever order it is
written again, the members are the same. So the service discovery file always stands for the target
groups that it was written from. -/
theorem decoding_undoes_encoding :
    (∀ p, Workload.coding.ReadsBack p) ∧ (∀ ps, Workload.coding.list.ReadsBack ps) ∧
    (∀ i, Instance.coding.ReadsBack i) ∧ (∀ is, Instance.coding.list.ReadsBack is) ∧
    (∀ d, Deployment.coding.ReadsBack d) ∧ (∀ ds, Deployment.coding.list.ReadsBack ds) ∧
    (∀ g, TargetGroup.coding.ReadsBack g) ∧ (∀ gs, TargetGroup.coding.list.ReadsBack gs) ∧
    (∀ s, Status.coding.ReadsBack s) ∧
    (∀ h : ComponentHealth, h.InRange → ComponentHealth.coding.ReadsBack h) ∧
    (∀ a, ReadinessAnswer.coding.ReadsBack a) ∧
    (∀ a written : HealthAnswer, a.InRange → written.Alike a →
      ∃ read, HealthAnswer.coding.read (HealthAnswer.coding.write written) = .ok read ∧
        read.Alike a ∧ ∀ again : HealthAnswer, again.Alike read → again.WrittenAlike written) ∧
    ∀ f s, Json.decode (Decoder.list TargetGroup.decoder)
      (TargetGroup.encodeAll (targetGroups f s)) =
      .ok (targetGroups f s) := by
  refine ⟨?_, ?_, ?_, ?_, ?_, ?_, ?_, ?_, ?_, ?_, ?_, ?_, ?_⟩
  · exact fun p => Json.Coding.readsBack p.reads
  · exact fun ps => Json.Coding.readsBack (Reads.ofList fun p _ => p.reads)
  · exact fun i => Json.Coding.readsBack i.reads
  · exact fun is => Json.Coding.readsBack (Reads.ofList fun i _ => i.reads)
  · exact fun d => Json.Coding.readsBack d.reads
  · exact fun ds => Json.Coding.readsBack (Reads.ofList fun d _ => d.reads)
  · exact fun g => Json.Coding.readsBack g.reads
  · exact fun gs => Json.Coding.readsBack (Reads.ofList fun g _ => g.reads)
  · exact fun s => Json.Coding.readsBack s.reads
  · exact fun h hRange => Json.Coding.readsBack (ComponentHealth.reads hRange)
  · exact fun a => Json.Coding.readsBack a.reads
  · intro a written hRange hAlike
    exact ⟨written, (HealthAnswer.reads (hAlike.inRange hRange)).decode, hAlike,
      fun again h => h.written⟩
  · intro f s
    exact (Reads.ofList fun g _ => g.reads).decode

/-- An answer with strings of every kind of character and the least time there is. -/
def HealthAnswer.motley : HealthAnswer where
  status := .degraded
  components := ⟨[("fetcher", ⟨.healthy, none, 1722000000⟩),
    ("say \"\\\"\n", ⟨.degraded, some "\x00\x1f\x7f é \uffff 😀", -9223372036854775808⟩)],
    by decide⟩

/-- The same answer with its components the other way round. -/
def HealthAnswer.motleyReversed : HealthAnswer where
  status := .degraded
  components := ⟨HealthAnswer.motley.components.entries.reverse, by decide⟩

theorem motley_answer_is_read_back :
    HealthAnswer.motley.InRange ∧ HealthAnswer.motleyReversed.Alike HealthAnswer.motley ∧
      (∀ h ∈ HealthAnswer.motley.components.values, ComponentHealth.coding.ReadsBack h) ∧
      ∃ read, HealthAnswer.coding.read (HealthAnswer.coding.write HealthAnswer.motleyReversed) =
        .ok read ∧
        read.Alike HealthAnswer.motley ∧
        ∀ again : HealthAnswer, again.Alike read →
          again.WrittenAlike HealthAnswer.motleyReversed := by
  have hRange : HealthAnswer.motley.InRange := by decide
  have hAlike : HealthAnswer.motleyReversed.Alike HealthAnswer.motley :=
    ⟨rfl, List.reverse_perm _⟩
  obtain ⟨-, -, -, -, -, -, -, -, -, hComponent, -, hAnswer, -⟩ := decoding_undoes_encoding
  exact ⟨hRange, hAlike, fun h hMem => hComponent h (hRange h hMem), hAnswer _ _ hRange hAlike⟩

end TopologyExporter
