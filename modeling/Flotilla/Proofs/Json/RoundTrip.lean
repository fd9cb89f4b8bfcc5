import Flotilla.Migration
import Flotilla.Proofs.Json.Record
import Flotilla.Proofs.Text.Number
import Flotilla.Proofs.Time.Rfc3339

/-!
# What Is Written Is Read Back

Every kind of value that is written as JSON is read from what was written for it. Values are also
read from other forms: from objects whose members are in another order or that hold more members,
from arrays, from ports that are numbers, from statuses that nobody knows. Writing such a value and
reading it again brings the same value back, so what is written is a normal form of all of these.

- `Json.RecordFormat`: a reader and a writer of records that fit each other.
- `readers_undo_writers`: the main result.
-/

namespace Flotilla

namespace Json

/-! ## §1 Readers and writers that fit each other -/

/-- A reader undoes a writer, on the values that are told. -/
structure Inverse {α : Type} (told : α → Prop) (read : Json → Option α) (write : α → Json) :
    Prop where
  /-- A value is read from what is written for it. -/
  read_write : ∀ x, told x → read (write x) = some x
  /-- So is a value that was read from anything else. -/
  normal : ∀ j x, read j = some x → read (write x) = some x

/-- A reader of records undoes a writer, and takes the other forms of a record for the same. -/
structure RecordFormat {α : Type} (fields : List Field) (told : α → Prop)
    (read : Json → Option α) (write : α → Json) : Prop extends Inverse told read write where
  /-- Of the members of an object only the known ones count, in whatever order they come. -/
  known : ∀ members members' : List (String × Json),
    (members.filter (isKnown fields)).Perm (members'.filter (isKnown fields)) →
      read (.obj members) = read (.obj members')
  /-- An array with a value for every field stands for the object with the names of the fields. -/
  positional : ∀ values : List Json, values.length = fields.length →
    read (.arr values) = read (.obj ((fields.map (·.name)).zip values))

variable {α : Type} {told : α → Prop} {read : Json → Option α} {write : α → Json}

theorem Inverse.of_told (hwrite : ∀ x, told x → read (write x) = some x)
    (htold : ∀ j x, read j = some x → told x) : Inverse told read write :=
  ⟨hwrite, fun j x hread => hwrite x (htold j x hread)⟩

/-- A reader that looks at the values of the fields only fits a writer that it undoes. -/
theorem RecordFormat.of_record? {fields : List Field} (hnames : (fields.map (·.name)).Nodup)
    (hrecord : ∀ j j', record? fields j = record? fields j' → read j = read j')
    (hwrite : ∀ x, told x → read (write x) = some x)
    (htold : ∀ j x, read j = some x → told x) : RecordFormat fields told read write where
  toInverse := .of_told hwrite htold
  known _ _ hperm := hrecord _ _ (members?_known hperm)
  positional _ hlength := hrecord _ _ (record?_positions hnames hlength)

/-- The same if every value is told. -/
theorem RecordFormat.of_total {fields : List Field} (hnames : (fields.map (·.name)).Nodup)
    (hrecord : ∀ j j', record? fields j = record? fields j' → read j = read j')
    (hwrite : ∀ x, read (write x) = some x) : RecordFormat fields (fun _ => True) read write :=
  .of_record? hnames hrecord (fun x _ => hwrite x) fun _ _ _ => trivial

/-! ## §2 Values of fields -/

theorem record?_written {fields : List Field} {values : List (Option Json)}
    (hnames : (fields.map (·.name)).Nodup) (hfits : Fits fields values) :
    record? fields (.obj (written fields values)) = some values :=
  members?_written hnames hfits

theorem all?_map {xs : List α} (hread : ∀ x ∈ xs, read (write x) = some x) :
    all? read (xs.map write) = some xs := by
  -- By induction on the values; each of them is read from what was written for it.
  induction xs with
  | nil => rfl
  | cons x xs ih =>
    simp [all?, hread x List.mem_cons_self, ih fun y hy => hread y (List.mem_cons_of_mem _ hy)]

@[simp] theorem list?_map (hread : ∀ x, read (write x) = some x) (xs : List α) :
    list? read (.arr (xs.map write)) = some xs :=
  all?_map fun x _ => hread x

@[simp] theorem list?_strings (texts : List String) : list? text? (strings texts) = some texts := by
  have hread : ∀ text : String, text? (.str text) = some text := fun _ => rfl
  exact list?_map hread texts

theorem exists_of_need {value : Option Json} {x : α} (hread : need read value = some x) :
    ∃ j, read j = some x := by
  cases value with
  | none => cases hread
  | some j => exact ⟨j, hread⟩

theorem exists_of_maybe {value : Option Json} {x : α} (hread : maybe read value = some (some x)) :
    ∃ j, read j = some x := by
  unfold maybe at hread
  split at hread
  · cases hread
  · cases hread
  · next j _ =>
    -- Neither a missing value nor null is read as something, so there is a value that was read.
    obtain ⟨y, hy, hxy⟩ := Option.map_eq_some_iff.mp hread
    cases hxy
    exact ⟨j, hy⟩

@[simp] theorem maybe_strOrNull (text : Option String) :
    maybe text? (some (strOrNull text)) = some text := by
  cases text <;> rfl

@[simp] theorem maybe_text (text : Option String) : maybe text? (text.map .str) = some text := by
  cases text <;> rfl

end Json

/-! ## §3 Records of texts -/

namespace NodeStatus

theorem ofWord_word (s : NodeStatus) : ofWord s.word = s := by
  cases s <;> rfl

end NodeStatus

namespace Node

/-- Every word is a status. -/
theorem statusOfJson?_word (word : String) :
    statusOfJson? (.str word) =
      some (if word = "connected" then .connected else .disconnected) := rfl

theorem ofJson?_toJson (n : Node) : ofJson? n.toJson = some n := by
  have hwritten : n.toJson = .obj (Json.written fields [some (.str n.id), n.name.map .str,
      some (.str n.status.word), some (.str n.address), n.version.map .str]) := by
    -- The name and the version may be missing, and then their fields are left out.
    obtain ⟨id, name, status, address, version⟩ := n
    cases name <;> cases version <;> rfl
  unfold ofJson?
  rw [hwritten, Json.record?_written (by decide)
    (by simp [Json.Fits, fields, Json.Field.required, Json.Field.optional])]
  simp [Json.need, Json.orDefault, Json.text?, statusOfJson?, Json.bareCase?,
    NodeStatus.ofWord_word]

theorem format : Json.RecordFormat fields (fun _ => True) ofJson? toJson :=
  .of_total (by decide) (fun _ _ hsame => by unfold ofJson?; rw [hsame]) ofJson?_toJson

end Node

namespace Container

theorem ofJson?_toJson (c : Container) : ofJson? c.toJson = some c := by
  have hwritten : c.toJson = .obj (Json.written fields [some (.str c.id), some (.str c.image),
    some (.strings c.names), some (.str c.status), some (.str c.state)]) := rfl
  unfold ofJson?
  rw [hwritten, Json.record?_written (by decide) (by simp [Json.Fits, fields])]
  simp [Json.orDefault, Json.text?]

theorem format : Json.RecordFormat fields (fun _ => True) ofJson? toJson :=
  .of_total (by decide) (fun _ _ hsame => by unfold ofJson?; rw [hsame]) ofJson?_toJson

end Container

namespace Port

theorem number?_decimal (n : UInt16) : number? (Text.decimal n.toNat) = some n := by
  simp [number?, Text.numberBelow?_decimal n.toNat_lt]

/-- A port number is read from its decimal form and from the number itself. -/
theorem numberOfJson?_nat (n : UInt16) : numberOfJson? (.nat n.toNat) = some n := by
  have hlt := n.toNat_lt
  simp [numberOfJson?, Json.nat]
  omega

theorem numberOfJson?_numberToJson (n : UInt16) : numberOfJson? (numberToJson n) = some n := by
  simp [numberOfJson?, numberToJson, Text.trim_decimal, number?_decimal]

theorem ofJson?_toJson (p : Port) : ofJson? p.toJson = some p := by
  have hwritten : p.toJson = .obj (Json.written fields
    [some (numberToJson p.host), some (numberToJson p.container)]) := rfl
  unfold ofJson?
  rw [hwritten, Json.record?_written (by decide) (by simp [Json.Fits, fields])]
  simp [Json.need, numberOfJson?_numberToJson]

theorem format : Json.RecordFormat fields (fun _ => True) ofJson? toJson :=
  .of_total (by decide) (fun _ _ hsame => by unfold ofJson?; rw [hsame]) ofJson?_toJson

end Port

namespace Plan

theorem ofJson?_toJson (p : Plan) : ofJson? p.toJson = some p := by
  have hwritten : p.toJson = .obj (Json.written fields [some (.str p.image), some (.str p.name),
      some (.arr (p.ports.map Port.toJson)), some (.strings p.env), some (.bool p.autoRestart),
      p.restartPolicy.map .str]) := by
    -- A plan without a policy is written without the field.
    obtain ⟨image, name, ports, env, autoRestart, restartPolicy⟩ := p
    cases restartPolicy <;> rfl
  unfold ofJson?
  rw [hwritten, Json.record?_written (by decide) (by simp [Json.Fits, fields, Json.Field.optional])]
  simp [Json.need, Json.text?, Json.bool?, Port.ofJson?_toJson]

theorem format : Json.RecordFormat fields (fun _ => True) ofJson? toJson :=
  .of_total (by decide) (fun _ _ hsame => by unfold ofJson?; rw [hsame]) ofJson?_toJson

end Plan

namespace Overrides

theorem ofJson?_toJson (o : Overrides) : ofJson? o.toJson = some o := by
  have hwritten : o.toJson = .obj (Json.written fields [some (.strOrNull o.image),
    some (.strOrNull o.nameTemplate), some (.strOrNull o.envText), some (.strOrNull o.portsText),
    some (.bool o.autoRestart)]) := rfl
  unfold ofJson?
  rw [hwritten, Json.record?_written (by decide) (by simp [Json.Fits, fields])]
  simp [Json.need, Json.bool?]

theorem format : Json.RecordFormat fields (fun _ => True) ofJson? toJson :=
  .of_total (by decide) (fun _ _ hsame => by unfold ofJson?; rw [hsame]) ofJson?_toJson

end Overrides

namespace Snapshot

theorem ofJson?_toJson (s : Snapshot) : ofJson? s.toJson = some s := by
  have hwritten : s.toJson = .obj (Json.written fields [some (.strOrNull s.name),
    some (.strOrNull s.image), some (.strings s.env), some (.arr (s.ports.map Port.toJson)),
    some (.str s.restartPolicy)]) := rfl
  unfold ofJson?
  rw [hwritten, Json.record?_written (by decide) (by simp [Json.Fits, fields])]
  simp [Json.need, Json.text?, Port.ofJson?_toJson]

theorem format : Json.RecordFormat fields (fun _ => True) ofJson? toJson :=
  .of_total (by decide) (fun _ _ hsame => by unfold ofJson?; rw [hsame]) ofJson?_toJson

end Snapshot

namespace MatchKey

theorem ofJson?_toJson (k : MatchKey) : ofJson? k.toJson = some k := by
  have hwritten : k.toJson = .obj (Json.written fields
    [some (.str k.nodeId), some (.str k.containerId)]) := rfl
  unfold ofJson?
  rw [hwritten, Json.record?_written (by decide) (by simp [Json.Fits, fields])]
  simp [Json.need, Json.text?]

theorem format : Json.RecordFormat fields (fun _ => True) ofJson? toJson :=
  .of_total (by decide) (fun _ _ hsame => by unfold ofJson?; rw [hsame]) ofJson?_toJson

end MatchKey

namespace Match

theorem ofJson?_toJson (m : Match) : ofJson? m.toJson = some m := by
  have hwritten : m.toJson = .obj (Json.written fields [some (.str m.nodeId),
    some (.str m.nodeName), some (.str m.nodeToken), some m.container.toJson]) := rfl
  unfold ofJson?
  rw [hwritten, Json.record?_written (by decide) (by simp [Json.Fits, fields])]
  simp [Json.need, Json.text?, Container.ofJson?_toJson]

theorem format : Json.RecordFormat fields (fun _ => True) ofJson? toJson :=
  .of_total (by decide) (fun _ _ hsame => by unfold ofJson?; rw [hsame]) ofJson?_toJson

end Match

namespace Migration

theorem ofJson?_toJson (m : Migration) : ofJson? m.toJson = some m := by
  have hwritten : m.toJson = .obj (Json.written fields [some (.str m.source),
    some (.str m.target), some (.bool m.keepSource), some (.bool m.confirmed)]) := rfl
  unfold ofJson?
  rw [hwritten, Json.record?_written (by decide) (by simp [Json.Fits, fields])]
  simp [Json.need, Json.orDefault, Json.text?, Json.bool?]

theorem format : Json.RecordFormat fields (fun _ => True) ofJson? toJson :=
  .of_total (by decide) (fun _ _ hsame => by unfold ofJson?; rw [hsame]) ofJson?_toJson

end Migration

namespace Selection

theorem ofJson?_toJson (s : Selection) : ofJson? s.toJson = some s := by
  cases s with
  | connected => rfl
  | all => rfl
  | ids wanted => simp [ofJson?, toJson, Json.object]

theorem format : Json.Inverse (fun _ => True) ofJson? toJson :=
  .of_told (fun s _ => s.ofJson?_toJson) fun _ _ _ => trivial

end Selection

namespace Stage

theorem ofJson?_toJson (s : Stage) : ofJson? s.toJson = some s := by
  cases s <;> rfl

end Stage

namespace Entry

theorem ofJson?_toJson (e : Entry) : ofJson? e.toJson = some e := by
  have hwritten : e.toJson = .obj (Json.written fields [some e.key.toJson, some (.bool e.ok),
    some (.str e.nodeName), some (.str e.containerId), some (.str e.containerName),
    some (.str e.message), some e.stage.toJson]) := rfl
  unfold ofJson?
  rw [hwritten, Json.record?_written (by decide) (by simp [Json.Fits, fields])]
  simp [Json.need, Json.text?, Json.bool?, MatchKey.ofJson?_toJson, Stage.ofJson?_toJson]

theorem format : Json.RecordFormat fields (fun _ => True) ofJson? toJson :=
  .of_total (by decide) (fun _ _ hsame => by unfold ofJson?; rw [hsame]) ofJson?_toJson

end Entry

/-! ## §4 Ledgers -/

namespace Ledger

/-- A ledger whose instants have written forms. -/
def IsTold (l : Ledger) : Prop :=
  l.startedAt.IsTold ∧ ∀ t ∈ l.finishedAt, t.IsTold

theorem instantOfJson?_render {t : Instant} (ht : t.IsTold) :
    instantOfJson? (.str t.render) = some t :=
  Instant.parse?_render ht

theorem maybe_instant {finished : Option Instant} (htold : ∀ t ∈ finished, t.IsTold) :
    Json.maybe instantOfJson? (some (.strOrNull (finished.map Instant.render))) =
      some finished := by
  cases finished with
  | none => rfl
  | some t => simp [Json.strOrNull, Json.maybe, instantOfJson?_render (htold t rfl)]

theorem ofJson?_toJson {l : Ledger} (hl : l.IsTold) : ofJson? l.toJson = some l := by
  have hwritten : l.toJson = .obj (Json.written fields [some (.arr (l.entries.map Entry.toJson)),
    some (.str l.startedAt.render), some (.strOrNull (l.finishedAt.map Instant.render)),
    some (.bool l.cancelled)]) := rfl
  unfold ofJson?
  rw [hwritten, Json.record?_written (by decide) (by simp [Json.Fits, fields])]
  simp [Json.need, Json.bool?, Entry.ofJson?_toJson, instantOfJson?_render hl.1,
    maybe_instant hl.2]

theorem isTold_of_instantOfJson? {j : Json} {t : Instant} (hread : instantOfJson? j = some t) :
    t.IsTold := by
  unfold instantOfJson? at hread
  split at hread
  · exact Instant.isTold_of_parse? hread
  · cases hread

/-- A ledger that is read has only instants that are read. -/
theorem isTold_of_ofJson? {j : Json} {l : Ledger} (hread : ofJson? j = some l) : l.IsTold := by
  unfold ofJson? at hread
  split at hread
  · -- Two of the four fields hold instants.
    simp only [Option.bind_eq_bind, Option.bind_eq_some_iff, Option.pure_def,
      Option.some.injEq] at hread
    obtain ⟨_, -, startedAt, hstarted, finishedAt, hfinished, _, -, rfl⟩ := hread
    constructor
    · -- The beginning is always there, the end only in a ledger that is finished.
      obtain ⟨j, hj⟩ := Json.exists_of_need hstarted
      exact isTold_of_instantOfJson? hj
    · rintro t rfl
      obtain ⟨j, hj⟩ := Json.exists_of_maybe hfinished
      exact isTold_of_instantOfJson? hj
  · cases hread

theorem format : Json.RecordFormat fields IsTold ofJson? toJson :=
  .of_record? (by decide) (fun _ _ hsame => by unfold ofJson?; rw [hsame])
    (fun _ => ofJson?_toJson) fun _ _ => isTold_of_ofJson?

end Ledger

/-! ## §5 All of them -/

/-- **Reading undoes writing, for every kind of value that is written as JSON.** A node, a
container, a port, a plan, a snapshot, overrides, the key of a match, a match, a migration, a
selection of nodes, an entry, and a ledger whose instants are told: each is read from what is
written for it. And a value that was read from anything at all is read from what is written for it.
Other forms that are read are objects whose members are in another order or unknown, and arrays; a
port may be a number there, and a status any word. -/
theorem readers_undo_writers :
    Json.RecordFormat Node.fields (fun _ => True) Node.ofJson? Node.toJson ∧
    Json.RecordFormat Container.fields (fun _ => True) Container.ofJson? Container.toJson ∧
    Json.RecordFormat Port.fields (fun _ => True) Port.ofJson? Port.toJson ∧
    Json.RecordFormat Plan.fields (fun _ => True) Plan.ofJson? Plan.toJson ∧
    Json.RecordFormat Snapshot.fields (fun _ => True) Snapshot.ofJson? Snapshot.toJson ∧
    Json.RecordFormat Overrides.fields (fun _ => True) Overrides.ofJson? Overrides.toJson ∧
    Json.RecordFormat MatchKey.fields (fun _ => True) MatchKey.ofJson? MatchKey.toJson ∧
    Json.RecordFormat Match.fields (fun _ => True) Match.ofJson? Match.toJson ∧
    Json.RecordFormat Migration.fields (fun _ => True) Migration.ofJson? Migration.toJson ∧
    Json.Inverse (fun _ => True) Selection.ofJson? Selection.toJson ∧
    Json.RecordFormat Entry.fields (fun _ => True) Entry.ofJson? Entry.toJson ∧
    Json.RecordFormat Ledger.fields Ledger.IsTold Ledger.ofJson? Ledger.toJson ∧
    (∀ n : UInt16, Port.numberOfJson? (.nat n.toNat) = some n) ∧
    ∀ word : String, Node.statusOfJson? (.str word) =
      some (if word = "connected" then .connected else .disconnected) :=
  ⟨Node.format, Container.format, Port.format, Plan.format, Snapshot.format, Overrides.format,
    MatchKey.format, Match.format, Migration.format, Selection.format, Entry.format, Ledger.format,
    Port.numberOfJson?_nat, Node.statusOfJson?_word⟩

end Flotilla
