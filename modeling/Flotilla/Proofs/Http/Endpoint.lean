import Flotilla.Http.Client
import Flotilla.Proofs.Url.Segments

/-!
# The Paths of Calls

Whether the ids in a call stay single segments of its path, and whether the path tells them.

- `Call.ids`: the ids in a call.
- `Client.KeepsIds`: below the segments of the base URL the path of a call has the segments of the
  call, with a text in the place of each id from which the id can be read back.
- `Client.keepsIds_iff_and_same_request`: for which base URLs and ids this is so, and that calls
  with such ids are told apart by their requests.
-/

namespace Flotilla

/-! ## §1 Ids in calls -/

namespace Call

/-- The ids in a call, the one of the node first. -/
def ids : Call → List String
  | nodes => []
  | list node | create node _ => [node]
  | inspect node id | start node id | stop node id | delete node id => [node, id]

/-- The call with other ids in their places. -/
def withIds (node id : String) : Call → Call
  | nodes => nodes
  | list _ => list node
  | inspect _ _ => inspect node id
  | start _ _ => start node id
  | stop _ _ => stop node id
  | delete _ _ => delete node id
  | create _ plan => create node plan

/-- The call with every id replaced by a function. -/
def mapIds (f : String → String) (call : Call) : Call :=
  call.withIds (f call.node) (f call.subject)

@[simp] theorem ids_mapIds (f : String → String) (call : Call) :
    (call.mapIds f).ids = call.ids.map f := by
  cases call <;> rfl

@[simp] theorem word_withIds (node id : String) (call : Call) :
    (call.withIds node id).word = call.word := by
  cases call <;> rfl

end Call

namespace Http.Client

open Url

@[simp] theorem methodOf_withIds (node id : String) (call : Call) :
    methodOf (call.withIds node id) = methodOf call := by
  cases call <;> rfl

@[simp] theorem length_segmentsOf_withIds (node id : String) (call : Call) :
    (segmentsOf (call.withIds node id)).length = (segmentsOf call).length := by
  cases call <;> rfl

theorem segmentsOf_eq_cons (call : Call) : segmentsOf call = "nodes" :: (segmentsOf call).tail := by
  cases call <;> rfl

/-- The method and the segments tell the call, up to what a creation creates. -/
theorem segmentsOf_inj {call other : Call} (hmethod : methodOf call = methodOf other)
    (h : segmentsOf call = segmentsOf other) : call.word = other.word ∧ call.ids = other.ids := by
  cases call <;> cases other <;> simp_all [segmentsOf, methodOf, Call.word, Call.ids]

/-- The words between the ids fit. -/
theorem fits_of_mem_segmentsOf {call : Call} (hids : ∀ id ∈ call.ids, FitsSegment id) :
    ∀ text ∈ (segmentsOf call).tail, FitsSegment text := by
  have hwords : FitsSegment "containers" ∧ FitsSegment "inspect" ∧ FitsSegment "start" ∧
      FitsSegment "stop" := by decide
  obtain ⟨hcontainers, hinspect, hstart, hstop⟩ := hwords
  cases call <;> simp_all [segmentsOf, Call.ids]

/-- The words between the ids are their own segments. -/
theorem map_segmentText_segmentsOf (special : Bool) (call : Call) :
    (segmentsOf call).tail.map (segmentText special) =
      (segmentsOf (call.mapIds (segmentText special))).tail := by
  have hwords : segmentText special "containers" = "containers" ∧
      segmentText special "inspect" = "inspect" ∧ segmentText special "start" = "start" ∧
      segmentText special "stop" = "stop" := by
    cases special <;> decide
  obtain ⟨hcontainers, hinspect, hstart, hstop⟩ := hwords
  cases call <;>
    simp [segmentsOf, Call.mapIds, Call.withIds, Call.node, Call.subject, hcontainers, hinspect,
      hstart, hstop]

theorem slash_not_mem_segmentsOf_mapIds (special : Bool) (call : Call) :
    ∀ segment ∈ segmentsOf (call.mapIds (segmentText special)), '/' ∉ segment.toList := by
  rw [segmentsOf_eq_cons, ← map_segmentText_segmentsOf]
  intro segment hmem
  -- The first segment is a word, the others are encoded texts.
  rcases List.mem_cons.mp hmem with rfl | htail
  · decide
  · obtain ⟨text, -, rfl⟩ := List.mem_map.mp htail
    exact slash_not_mem_segmentText special text

/-- What relates the texts of a path to its segments relates the ids to what is in their places. -/
theorem forall₂_ids {R : String → String → Prop} {node id : String} {call : Call}
    (h : List.Forall₂ R (segmentsOf call).tail (segmentsOf (call.withIds node id)).tail) :
    List.Forall₂ R call.ids (call.withIds node id).ids := by
  cases call <;> simp_all [segmentsOf, Call.withIds, Call.ids]

/-! ## §2 Reading ids back -/

theorem decoded?_segmentText (special : Bool) (text : String) :
    decoded? (segmentText special text) = some (withoutRemoved text) :=
  decode_segmentText special text

theorem decoded?_of_fits {special : Bool} {text : String} (h : FitsSegment text) :
    decoded? (segmentText special text) = some text := by
  rw [decoded?_segmentText, withoutRemoved_eq_self.mpr h.not_removed]

theorem map_decoded?_of_fits {special : Bool} {ids : List String}
    (h : ∀ id ∈ ids, FitsSegment id) :
    (ids.map (segmentText special)).map decoded? = ids.map some := by
  induction ids with
  | nil => rfl
  | cons id rest ih =>
    rw [List.map_cons, List.map_cons, List.map_cons, decoded?_of_fits (h id (by simp)),
      ih fun other hother => h other (List.mem_cons_of_mem id hother)]

/-- Only a text that fits can be read back from what was placed for it. -/
theorem fits_of_placed {special : Bool} {text segment : String}
    (hplaced : Placed special text segment) (hdecoded : decoded? segment = some text) :
    FitsSegment text := by
  have hself : withoutRemoved text = text := by
    rcases hplaced.segment with rfl | ⟨rfl, hchanged⟩
    · rw [decoded?_segmentText] at hdecoded
      exact Option.some.inj hdecoded
    · -- Nothing is read back from an empty segment, and nothing is removed from an empty text.
      have hempty : decoded? "" = some "" := decoded?_segmentText special ""
      rw [hempty] at hdecoded
      rw [← Option.some.inj hdecoded]
      rfl
  exact ⟨hplaced.no_dot, hplaced.no_dots, withoutRemoved_eq_self.mp hself⟩

theorem fits_of_forall₂_placed {special : Bool} {ids segments : List String}
    (hplaced : List.Forall₂ (Placed special) ids segments)
    (hdecoded : segments.map decoded? = ids.map some) : ∀ id ∈ ids, FitsSegment id := by
  -- Id by id: what was placed for it has to tell it.
  induction hplaced with
  | nil => simp
  | cons hfirst hrest ih =>
    simp only [List.map_cons, List.cons.injEq] at hdecoded
    intro id hmem
    rcases List.mem_cons.mp hmem with rfl | hlater
    · exact fits_of_placed hfirst hdecoded.1
    · exact ih hdecoded.2 id hlater

/-! ## §3 The path of a call -/

/-- The segments of the path of a base URL, without one empty segment at the end. -/
def withoutEmptyLast (base : List String) : List String :=
  if base.getLast? = some "" then base.dropLast else base

/-- The segments of the base URL that are still there in the path of a call. -/
def rootOf (base : List String) : List String :=
  if dropEmptyLast base = [""] then [] else dropEmptyLast base

/-- All segments of the base URL are still there, up to one empty segment at the end, unless its
path is two slashes. -/
theorem rootOf_eq {base : List String} (hbase : base ≠ ["", ""]) :
    rootOf base = withoutEmptyLast base := by
  unfold rootOf withoutEmptyLast
  -- An empty segment at the end is dropped, or else it is all there is and the first word
  -- replaces it.
  by_cases hlast : base.getLast? = some ""
  · obtain ⟨front, hfront⟩ := List.getLast?_eq_some_iff.mp hlast
    rw [if_pos hlast]
    cases front with
    | nil =>
      rw [hfront]
      rfl
    | cons first rest =>
      have hdrop : dropEmptyLast base = first :: rest := by
        unfold dropEmptyLast
        rw [if_pos ⟨by rw [hfront]; simp, hlast⟩, hfront, List.dropLast_concat]
      have hlonger : first :: rest ≠ [""] := by
        intro hone
        rw [hfront, hone] at hbase
        exact hbase rfl
      rw [hdrop, if_neg hlonger, hfront, List.dropLast_concat]
  · have hsame : dropEmptyLast base = base := by
      unfold dropEmptyLast
      exact if_neg fun h => hlast h.2
    have hone : base ≠ [""] := by
      rintro rfl
      exact hlast rfl
    rw [if_neg hlast, hsame, if_neg hone]

/-- The path of a call is made from what is left of the base URL by appending texts. -/
theorem endpoint_path {c : Client} {base : List String} (hbase : c.base.path = .segments base)
    (call : Call) : (c.endpoint call).path =
      .segments ((segmentsOf call).tail.foldl (appendSegment (isSpecial c.base.scheme))
        (rootOf base ++ ["nodes"])) := by
  have hnodes : appendSegment (isSpecial c.base.scheme) (dropEmptyLast base) "nodes" =
      rootOf base ++ ["nodes"] := by
    have hword : segmentText (isSpecial c.base.scheme) "nodes" = "nodes" := by
      cases isSpecial c.base.scheme <;> decide
    have hfits : FitsSegment "nodes" := by decide
    obtain ⟨hone, htwo⟩ := hfits.not_dotForm (isSpecial c.base.scheme)
    unfold appendSegment rootOf
    rw [placeSegment_last, if_neg htwo, if_neg hone, hword]
    simp
  unfold endpoint Url.append
  rw [hbase, segmentsOf_eq_cons call]
  simp only [List.foldl_cons, List.tail_cons, hnodes]

theorem endpoint_path_of_fits {c : Client} {base : List String}
    (hbase : c.base.path = .segments base) {call : Call} (hids : ∀ id ∈ call.ids, FitsSegment id) :
    (c.endpoint call).path = .segments
      (rootOf base ++ segmentsOf (call.mapIds (segmentText (isSpecial c.base.scheme)))) := by
  -- The first word makes a path that is not replaced by what follows.
  have hlong : rootOf base ++ ["nodes"] ≠ [""] := by
    intro hone
    have hlast := congrArg List.getLast? hone
    simp at hlast
  rw [endpoint_path hbase, foldl_appendSegment_of_fits (by simp) hlong
    (fits_of_mem_segmentsOf hids), map_segmentText_segmentsOf, List.append_assoc,
    List.singleton_append, ← segmentsOf_eq_cons]

/-! ## §4 Which ids are kept -/

/-- The path of a call has the segments of the base URL, without one empty segment at the end, and
below them the segments of the call; from what is in the place of an id the id can be read back. -/
def KeepsIds (c : Client) (base : List String) (call : Call) : Prop :=
  ∃ node id, (c.endpoint call).path =
      .segments (withoutEmptyLast base ++ segmentsOf (call.withIds node id)) ∧
    (call.withIds node id).ids.map decoded? = call.ids.map some

section Paths

variable {c : Client} {base : List String} {call other : Call}

theorem keepsIds_of_fits (hbase : c.base.path = .segments base) (hroot : base ≠ ["", ""])
    (hids : ∀ id ∈ call.ids, FitsSegment id) : c.KeepsIds base call := by
  -- In the place of each id stands its encoding.
  refine ⟨segmentText (isSpecial c.base.scheme) call.node,
    segmentText (isSpecial c.base.scheme) call.subject, ?_, ?_⟩
  · rw [endpoint_path_of_fits hbase hids, rootOf_eq hroot]
    rfl
  · show (call.mapIds (segmentText (isSpecial c.base.scheme))).ids.map decoded? =
      call.ids.map some
    rw [Call.ids_mapIds]
    exact map_decoded?_of_fits hids

theorem fits_of_keepsIds (hbase : c.base.path = .segments base) (h : c.KeepsIds base call) :
    base ≠ ["", ""] ∧ ∀ id ∈ call.ids, FitsSegment id := by
  obtain ⟨node, id, hpath, hdecoded⟩ := h
  -- A path that keeps the ids has grown by one segment for each text, so each text was placed.
  rw [endpoint_path hbase, Path.segments.injEq] at hpath
  have hlength := congrArg List.length hpath
  have hnumber := length_segmentsOf_withIds node id call
  rw [segmentsOf_eq_cons call, List.length_cons] at hnumber
  rw [List.length_append, hnumber] at hlength
  have hroot : base ≠ ["", ""] := by
    rintro rfl
    -- One segment is lost already, and nothing makes up for it.
    have hgrowth := length_foldl_appendSegment_le (isSpecial c.base.scheme)
      (rootOf ["", ""] ++ ["nodes"]) (segmentsOf call).tail
    have hleft : (rootOf ["", ""] ++ ["nodes"]).length = 1 := rfl
    have hwanted : (withoutEmptyLast ["", ""]).length = 1 := rfl
    omega
  refine ⟨hroot, ?_⟩
  rw [rootOf_eq hroot] at hpath hlength
  obtain ⟨own, hown, hplaced⟩ := foldl_appendSegment_of_length
    (hlength.trans (by simp only [List.length_append, List.length_singleton]; omega))
  have hsegments : own = (segmentsOf (call.withIds node id)).tail := by
    rw [hown, segmentsOf_eq_cons (call.withIds node id), List.append_assoc] at hpath
    simpa using hpath
  rw [hsegments] at hplaced
  exact fits_of_forall₂_placed (forall₂_ids hplaced) hdecoded

/-- Calls with ids that fit are told apart by the method and the path. -/
theorem word_and_ids_eq_of_pathOf_eq (hbase : c.base.path = .segments base)
    (hids : ∀ id ∈ call.ids, FitsSegment id) (hothers : ∀ id ∈ other.ids, FitsSegment id)
    (hmethod : methodOf call = methodOf other) (hpath : c.pathOf call = c.pathOf other) :
    call.word = other.word ∧ call.ids = other.ids := by
  unfold pathOf at hpath
  rw [endpoint_path_of_fits hbase hids, endpoint_path_of_fits hbase hothers] at hpath
  simp only [Path.render, renderSegments_append] at hpath
  -- Both paths begin with what is left of the base URL.
  have hlists := congrArg String.toList hpath
  rw [String.toList_append, String.toList_append] at hlists
  have hown := renderSegments_inj (slash_not_mem_segmentsOf_mapIds _ call)
    (slash_not_mem_segmentsOf_mapIds _ other)
    (String.toList_inj.mp (List.append_cancel_left hlists))
  -- What is below it tells the words and the segments of the ids, and these tell the ids.
  obtain ⟨hword, hsame⟩ := segmentsOf_inj (by simpa [Call.mapIds] using hmethod) hown
  refine ⟨by simpa [Call.mapIds] using hword, ?_⟩
  rw [Call.ids_mapIds, Call.ids_mapIds] at hsame
  have hread := congrArg (List.map decoded?) hsame
  rw [map_decoded?_of_fits hids, map_decoded?_of_fits hothers] at hread
  exact List.map_inj_right (fun _ _ => Option.some.inj) |>.mp hread

end Paths

/-- **Ids stay single segments** exactly if they are no dot segments, nothing of them is removed,
and the path of the base URL is not two slashes: the path of the call then has the segments of the
base URL, without one empty segment at the end, and below them those of the call, and every id can
be read back from its segment. Two calls with such ids, with whatever base URL, that send the same
method and path are of the same kind and about the same ids. -/
theorem keepsIds_iff_and_same_request (c : Client) {base : List String}
    (hbase : c.base.path = .segments base) :
    (∀ call, c.KeepsIds base call ↔
      base ≠ ["", ""] ∧ ∀ id ∈ call.ids, FitsSegment id) ∧
    ∀ call other, (∀ id ∈ call.ids, FitsSegment id) → (∀ id ∈ other.ids, FitsSegment id) →
      methodOf call = methodOf other → c.pathOf call = c.pathOf other →
      call.word = other.word ∧ call.ids = other.ids := by
  refine ⟨fun call => ⟨fits_of_keepsIds hbase, ?_⟩, ?_⟩
  · rintro ⟨hroot, hids⟩
    exact keepsIds_of_fits hbase hroot hids
  · intro call other hids hothers hmethod hpath
    exact word_and_ids_eq_of_pathOf_eq hbase hids hothers hmethod hpath

/-- A client of a control plane below `/api`. -/
def sample : Client where
  base := ⟨"http", some ⟨"", "", "localhost", some 8080⟩, .segments ["api"], none, none⟩
  token := none
  complaint := fun _ => "unexpected content"

theorem sample_keeps_slashes_not_dots :
    sample.base.path = .segments ["api"] ∧
      sample.KeepsIds ["api"] (.delete "edge 1" "../../nodes") ∧
      ¬sample.KeepsIds ["api"] (.delete "edge 1" "..") ∧
      ¬sample.KeepsIds ["api"] (.delete "edge 1" "a\tb") ∧
      sample.pathOf (.delete "edge 1" "a\tb") = sample.pathOf (.delete "edge 1" "ab") := by
  have hbase : sample.base.path = .segments ["api"] := rfl
  have hkept := (keepsIds_iff_and_same_request sample hbase).1
  refine ⟨hbase, (hkept _).mpr (by decide), ?_, ?_, by decide⟩
  · rw [hkept]
    decide
  · rw [hkept]
    decide

end Http.Client

end Flotilla
