import Flotilla.Json.Record
import Mathlib.Data.List.Perm.Basic

/-!
# Records Are Read Back

Reading a record looks up every field by its name. So neither the order of the members of an object
counts, nor what else is in it, and the object that is written for the values of some fields has
these values. A field that may be left out can be left out in writing.

## Main results

- `Json.members?_written`: the values of an object that is written for them.
- `Json.members?_known`: only the known members count, in whatever order.
- `Json.record?_positions`: an array reads like the object with the names of the fields.
-/

namespace Flotilla.Json

/-! ## §1 Known members -/

/-- Whether a member has the name of one of some fields. -/
def isKnown (fields : List Field) (member : String × Json) : Bool :=
  fields.any (·.name = member.1)

theorem isKnown_of_name {fields : List Field} {field : Field} {member : String × Json}
    (hmem : field ∈ fields) (hname : member.1 = field.name) : isKnown fields member := by
  simpa [isKnown] using ⟨field, hmem, hname.symm⟩

/-- The value of a field depends on the members with its name. -/
theorem member?_congr {members members' : List (String × Json)} {field : Field}
    (hsame : members.filter (·.1 = field.name) = members'.filter (·.1 = field.name)) :
    member? members field = member? members' field := by
  unfold member?
  rw [hsame]

theorem member?_perm {members members' : List (String × Json)} (hperm : members.Perm members')
    (field : Field) : member? members field = member? members' field := by
  have hfilter := hperm.filter (·.1 = field.name)
  unfold member?
  generalize members.filter (·.1 = field.name) = found at hfilter ⊢
  generalize members'.filter (·.1 = field.name) = found' at hfilter ⊢
  -- Two lists that differ in their order are equal, or both have a member too many.
  rcases found with _ | ⟨first, _ | ⟨second, rest⟩⟩
  · rw [List.nil_perm.mp hfilter]
  · rw [List.singleton_perm.mp hfilter]
  · rcases found' with _ | ⟨first', _ | ⟨second', rest'⟩⟩
    · simp at hfilter
    · simp at hfilter
    · rfl

theorem members?_congr {members members' : List (String × Json)} {fields : List Field}
    (hsame : ∀ field ∈ fields, member? members field = member? members' field) :
    members? members fields = members? members' fields := by
  induction fields with
  | nil => rfl
  | cons field fields ih =>
    unfold members?
    rw [hsame field List.mem_cons_self, ih fun f hf => hsame f (List.mem_cons_of_mem _ hf)]

/-- **Only the known members of an object count**, in whatever order they come. -/
theorem members?_known {members members' : List (String × Json)} {fields : List Field}
    (hperm : (members.filter (isKnown fields)).Perm (members'.filter (isKnown fields))) :
    members? members fields = members? members' fields := by
  -- The members with the name of a field are known, so the unknown ones can be dropped before.
  have hknown : ∀ members : List (String × Json), ∀ field ∈ fields,
      member? members field = member? (members.filter (isKnown fields)) field := by
    intro members field hmem
    apply member?_congr
    rw [List.filter_filter]
    refine List.filter_congr fun member _ => ?_
    by_cases hname : member.1 = field.name
    · simp [hname, isKnown_of_name hmem hname]
    · simp [hname]
  refine members?_congr fun field hmem => ?_
  rw [hknown members field hmem, hknown members' field hmem]
  exact member?_perm hperm field

/-! ## §2 Written members -/

/-- The members that are written for the values of some fields. -/
def written : List Field → List (Option Json) → List (String × Json)
  | field :: fields, some v :: values => (field.name, v) :: written fields values
  | _ :: fields, none :: values => written fields values
  | _, _ => []

/-- The values fit the fields: only a field that may be absent has none. -/
def Fits (fields : List Field) (values : List (Option Json)) : Prop :=
  List.Forall₂ (fun field value => value = none → field.absent = true) fields values

theorem mem_names_of_mem_written {fields : List Field} {values : List (Option Json)}
    {member : String × Json} (hmem : member ∈ written fields values) :
    member.1 ∈ fields.map (·.name) := by
  -- By induction on the fields; one without a value writes nothing.
  induction fields generalizing values with
  | nil => simp [written] at hmem
  | cons field fields ih =>
    cases values with
    | nil => simp [written] at hmem
    | cons value values =>
      cases value with
      | none => exact List.mem_cons_of_mem _ (ih hmem)
      | some v =>
        obtain rfl | hmem := List.mem_cons.mp hmem
        · exact List.mem_cons_self
        · exact List.mem_cons_of_mem _ (ih hmem)

/-- A name that no field has is not among the written members. -/
theorem filter_written_eq_nil {fields : List Field} {values : List (Option Json)} {name : String}
    (hname : name ∉ fields.map (·.name)) : (written fields values).filter (·.1 = name) = [] := by
  rw [List.filter_eq_nil_iff]
  intro member hmem hsame
  exact hname (of_decide_eq_true hsame ▸ mem_names_of_mem_written hmem)

/-- **The object that is written for the values of its fields has these values.** -/
theorem members?_written {fields : List Field} {values : List (Option Json)}
    (hnames : (fields.map (·.name)).Nodup) (hfits : Fits fields values) :
    members? (written fields values) fields = some values := by
  induction hfits with
  | nil => rfl
  | @cons field value fields values hvalue hfits ih =>
    rw [List.map_cons, List.nodup_cons] at hnames
    obtain ⟨hfresh, hnames⟩ := hnames
    have hrest := ih hnames
    cases value with
    | none =>
      -- The field was left out, and no other field has its name.
      have habsent : member? (written fields values) field = some none := by
        unfold member?
        rw [filter_written_eq_nil hfresh, hvalue rfl]
        rfl
      simp only [written, members?, habsent, hrest]
    | some v =>
      -- The other fields pass over this member, since their names are different.
      have hfound : member? ((field.name, v) :: written fields values) field = some (some v) := by
        unfold member?
        rw [List.filter_cons_of_pos (by simp), filter_written_eq_nil hfresh]
      have hpassed : members? ((field.name, v) :: written fields values) fields =
          members? (written fields values) fields := by
        refine members?_congr fun other hother => member?_congr ?_
        refine List.filter_cons_of_neg fun hsame => hfresh ?_
        have hname : field.name = other.name := of_decide_eq_true hsame
        exact hname ▸ List.mem_map_of_mem hother
      simp only [written, members?, hfound, hpassed, hrest]

/-! ## §3 The positional form -/

theorem positions?_some {fields : List Field} {values : List Json}
    (hlength : values.length = fields.length) :
    positions? fields values = some (values.map some) := by
  induction fields generalizing values with
  | nil => simp_all [positions?]
  | cons field fields ih =>
    cases values with
    | nil => cases hlength
    | cons v values => simp [positions?, ih (Nat.succ.inj hlength)]

theorem written_some (fields : List Field) (values : List Json) :
    written fields (values.map some) = (fields.map (·.name)).zip values := by
  induction fields generalizing values with
  | nil => simp [written]
  | cons field fields ih =>
    cases values with
    | nil => simp [written]
    | cons v values => simp [written, ih]

theorem fits_some {fields : List Field} {values : List Json}
    (hlength : values.length = fields.length) : Fits fields (values.map some) := by
  -- Every field has a value, so it does not matter which of them may be absent.
  induction fields generalizing values with
  | nil =>
    rw [List.eq_nil_of_length_eq_zero hlength]
    exact .nil
  | cons field fields ih =>
    cases values with
    | nil => cases hlength
    | cons v values => exact .cons (by simp) (ih (Nat.succ.inj hlength))

/-- An array with a value for every field reads like the object with the names of the fields. -/
theorem record?_positions {fields : List Field} {values : List Json}
    (hnames : (fields.map (·.name)).Nodup) (hlength : values.length = fields.length) :
    record? fields (.arr values) = record? fields (.obj ((fields.map (·.name)).zip values)) := by
  calc record? fields (.arr values)
      = some (values.map some) := positions?_some hlength
    _ = record? fields (.obj (written fields (values.map some))) :=
        (members?_written hnames (fits_some hlength)).symm
    _ = record? fields (.obj ((fields.map (·.name)).zip values)) := by rw [written_some]

end Flotilla.Json
