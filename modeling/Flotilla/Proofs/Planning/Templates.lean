import Flotilla.Proofs.Planning.Fields
import Flotilla.Proofs.Text.Search

/-!
# Templates for Names

A template is replaced twice over, first the placeholder of the node and then that of the name. What
is inserted first is searched again. It has no braces, so there is nothing in it to be replaced, and
both together replace every placeholder of the template once. What is inserted last is not searched
any more: a container may have a name that looks like a placeholder.

- `TemplatePart`: a template is texts without braces and placeholders, one after the other.
- `Template.written`, `Template.expanded`: the parts as they are written, and what they stand for.
- `name_template_expands_once`: the main result.
-/

namespace Flotilla

open Text

/-! ## §1 Templates -/

/-- A text in which no placeholder can begin or end. -/
def BraceFree (s : String) : Prop :=
  '\x7b' ∉ s.toList ∧ '\x7d' ∉ s.toList

instance (s : String) : Decidable (BraceFree s) :=
  inferInstanceAs (Decidable ('\x7b' ∉ s.toList ∧ '\x7d' ∉ s.toList))

/-- A part of a template. -/
inductive TemplatePart where
  | literal (text : String) (plain : BraceFree text)
  | node
  | name

namespace TemplatePart

/-- The part as it is written in a template. -/
def written : TemplatePart → String
  | literal text _ => text
  | node => "\x7bnode\x7d"
  | name => "\x7bname\x7d"

/-- What the part stands for. -/
def expanded (token called : String) : TemplatePart → String
  | literal text _ => text
  | node => token
  | name => called

end TemplatePart

/-- A template, part by part. -/
abbrev Template : Type :=
  List TemplatePart

namespace Template

def written (t : Template) : String :=
  String.join (t.map TemplatePart.written)

/-- The parts of the template, each replaced once. -/
def expanded (token called : String) (t : Template) : String :=
  String.join (t.map (TemplatePart.expanded token called))

end Template

theorem join_map_eq_empty {ι : Type} {f : ι → String} {parts : List ι} :
    String.join (parts.map f) = "" ↔ ∀ part ∈ parts, f part = "" := by
  induction parts with
  | nil => simp
  | cons part parts ih =>
    rw [List.map_cons, String.join_cons, String.append_eq_empty_iff, ih, List.forall_mem_cons]

/-! ## §2 One replacement after the other -/

section Replacements

variable {token called : String} {t : Template}

/-- The placeholder of the name is not that of the node. -/
theorem replace_node_name (token rest : String) :
    replace "\x7bnode\x7d" token ("\x7bname\x7d" ++ rest) =
      "\x7bname\x7d" ++ replace "\x7bnode\x7d" token rest := by
  -- Both begin with a brace, and behind that there is nothing for the other one to begin with.
  have hsplit : "\x7bname\x7d" = String.singleton '\x7b' ++ "name\x7d" := rfl
  have hother : ¬"\x7bnode\x7d".toList <+: '\x7b' :: ("name\x7d" ++ rest).toList := by
    simp [List.cons_prefix_cons]
  rw [hsplit, String.append_assoc, replace_singleton_append token hother,
    replace_append_of_not_mem rfl (by decide), String.append_assoc]

/-- The first replacement leaves a template where the placeholder of the name stands for itself. -/
theorem replace_node_written (token : String) (t : Template) :
    replace "\x7bnode\x7d" token t.written = t.expanded token "\x7bname\x7d" := by
  -- A replacement goes through the parts from left to right, and what it puts in is not looked at
  -- again.
  refine replace_join fun part _ rest => ?_
  cases part with
  | literal text plain => exact replace_append_of_not_mem rfl plain.1 token rest
  | node => exact replace_pattern_append (by decide) token rest
  | name => exact replace_node_name token rest

/-- The second replacement finds nothing in what the first one has inserted. -/
theorem replace_name_expanded (htoken : BraceFree token) (called : String) (t : Template) :
    replace "\x7bname\x7d" called (t.expanded token "\x7bname\x7d") =
      t.expanded token called := by
  -- The token stands where the placeholder of the node was, and it has no brace to be found.
  refine replace_join fun part _ rest => ?_
  cases part with
  | literal text plain => exact replace_append_of_not_mem rfl plain.1 called rest
  | node => exact replace_append_of_not_mem rfl htoken.1 called rest
  | name => exact replace_pattern_append (by decide) called rest

/-- Nothing that is written is expanded to nothing. -/
theorem expanded_ne_empty (htoken : token ≠ "") (hcalled : called ≠ "")
    (hwritten : t.written ≠ "") : t.expanded token called ≠ "" := by
  -- If nothing comes out, every part is expanded to nothing, and only empty texts are.
  intro hempty
  refine hwritten (join_map_eq_empty.mpr fun part hpart => ?_)
  have hpartEmpty := join_map_eq_empty.mp hempty part hpart
  cases part with
  | literal text plain => exact hpartEmpty
  | node => exact absurd hpartEmpty htoken
  | name => exact absurd hpartEmpty hcalled

end Replacements

/-! ## §3 Tokens -/

/-- The characters that may stand in a container name. -/
theorem isNameChar_iff {c : Char} :
    isNameChar c = true ↔ c.isAlphanum = true ∨ c ∈ ['_', '.', '-'] := by
  have hranges : c.isAlphanum =
      (decide ('A' ≤ c ∧ c ≤ 'Z') || ('a' ≤ c && c ≤ 'z') || ('0' ≤ c && c ≤ '9')) := rfl
  rw [hranges]
  simp only [isNameChar, Bool.or_eq_true, Bool.and_eq_true, decide_eq_true_eq, beq_iff_eq,
    List.mem_cons, List.not_mem_nil, or_false]
  -- The first two ranges stand in another order.
  tauto

theorem isNameChar_of_mem_sanitize {s : String} {c : Char} (h : c ∈ (sanitize s).toList) :
    isNameChar c = true := by
  rw [sanitize, String.toList_ofList] at h
  obtain ⟨d, -, rfl⟩ := List.mem_map.mp h
  -- What may stand in a name is kept, and everything else becomes a dash.
  by_cases hd : isNameChar d = true
  · rwa [if_pos hd]
  · rw [if_neg hd]
    decide

theorem sanitize_eq_empty {s : String} : sanitize s = "" ↔ s = "" := by
  simp [sanitize]

/-- The token of a node is made of its alias, which is not blank, or of its id, or it is a word. -/
theorem nameToken_ne_empty (node : Node) : node.nameToken ≠ "" := by
  rw [Node.nameToken, ne_eq, sanitize_eq_empty]
  -- An alias that is kept is not blank; without one there is the id, and without that the word.
  cases halias : node.alias? with
  | some kept => exact ne_empty_of_nonBlank halias
  | none =>
    by_cases hid : node.id = ""
    · simp [hid]
    · simp [hid]

/-! ## §4 Names -/

/-- What stands for the name: the first name of the container, or the fallback, or a word. -/
def calledName (container : Container) (fallback : String) : String :=
  firstOf container.primaryName (firstOf fallback "container")

theorem calledName_ne_empty (container : Container) (fallback : String) :
    calledName container fallback ≠ "" := by
  unfold calledName firstOf
  split
  · split
    · decide
    · assumption
  · assumption

/-- A template that is not blank is replaced as it is without blanks at its ends. -/
theorem resolveName_some {template : String} (hsome : trim template ≠ "") (token : String)
    (container : Container) (fallback : String) :
    resolveName (some template) token container fallback =
      replace "\x7bname\x7d" (calledName container fallback)
        (replace "\x7bnode\x7d" token (trim template)) := by
  have hkept : (some template).bind nonBlank? = some (trim template) := by
    rw [Option.bind_some, nonBlank?_eq_some]
    exact ⟨rfl, hsome⟩
  unfold resolveName calledName firstOf
  rw [hkept]
  simp only [ne_eq, ite_not]

/-- **A template for names expands every placeholder once.** The token of a node is not empty, and
it has none but the characters that may stand in a container name. With every token that is not
empty and has no braces, and for every container and fallback, a template expands to its parts one
after the other: whatever stands for the name is inserted as it is, and a name comes out. A template
that is missing gives the fallback. -/
theorem name_template_expands_once :
    (∀ node : Node, node.nameToken ≠ "" ∧
      ∀ c ∈ node.nameToken.toList, c.isAlphanum = true ∨ c ∈ ['_', '.', '-']) ∧
    ∀ (token : String) (container : Container) (fallback : String),
      (BraceFree token → token ≠ "" → ∀ (text : String) (t : Template), trim text = t.written →
        trim text ≠ "" →
          resolveName (some text) token container fallback =
            t.expanded token (calledName container fallback) ∧
          resolveName (some text) token container fallback ≠ "") ∧
      ∀ template, Missing template → resolveName template token container fallback = fallback := by
  refine ⟨fun node => ⟨nameToken_ne_empty node, fun c hc => ?_⟩,
    fun token container fallback => ⟨?_, ?_⟩⟩
  · exact isNameChar_iff.mp (isNameChar_of_mem_sanitize hc)
  · -- The first replacement leaves the placeholders of the name, the second one finds no others.
    intro htoken hsome text t hparts htext
    have hexpanded : resolveName (some text) token container fallback =
        t.expanded token (calledName container fallback) := by
      rw [resolveName_some htext, hparts, replace_node_written, replace_name_expanded htoken]
    refine ⟨hexpanded, ?_⟩
    rw [hexpanded]
    exact expanded_ne_empty hsome (calledName_ne_empty container fallback) (hparts ▸ htext)
  · intro template hmissing
    unfold resolveName
    rw [missing_iff.mp hmissing]

/-- A container whose name is made of placeholders. -/
def Container.sampleBraced : Container :=
  ⟨"1", "nginx", ["/\x7bnode\x7d\x7bname\x7d"], "Up", "running"⟩

/-- The name comes out as it is, twice. -/
theorem sampleBraced_name_template_expands_once :
    BraceFree "eu-1" ∧ "eu-1" ≠ "" ∧
    trim " \x7bname\x7d\x7bnode\x7d.\x7bname\x7d\n" =
      Template.written [.name, .node, .literal "." (by decide), .name] ∧
    trim " \x7bname\x7d\x7bnode\x7d.\x7bname\x7d\n" ≠ "" ∧
    resolveName (some " \x7bname\x7d\x7bnode\x7d.\x7bname\x7d\n") "eu-1" .sampleBraced "old" =
      "\x7bnode\x7d\x7bname\x7deu-1.\x7bnode\x7d\x7bname\x7d" ∧
    resolveName (some " ") "eu-1" .sampleBraced "old" = "old" := by
  have hplain : BraceFree "eu-1" := by decide
  have hparts : trim " \x7bname\x7d\x7bnode\x7d.\x7bname\x7d\n" =
      Template.written [.name, .node, .literal "." (by decide), .name] := by decide
  have hsome : trim " \x7bname\x7d\x7bnode\x7d.\x7bname\x7d\n" ≠ "" := by decide
  obtain ⟨hexpands, hmissing⟩ := name_template_expands_once.2 "eu-1" .sampleBraced "old"
  refine ⟨hplain, by decide, hparts, hsome, ?_, hmissing _ ?_⟩
  · exact (hexpands hplain (by decide) _ _ hparts hsome).1.trans (by decide)
  · rintro _ ⟨⟩
    decide

end Flotilla
