import DesignRules.Proofs.Checks.Attributes
import DesignRules.Proofs.Checks.SharedPorts
import DesignRules.Proofs.Graph.SimplePaths
import Mathlib.Tactic.MkIffOfInductiveProp

/-! # Labels

Two checks read the labels. One reports the entries whose label is blank, the other the labels
that several entries carry. Together they account for every entry: it is reported once if its
label is blank, it belongs to one reported class if it shares its label, and else to none.
-/

namespace DesignRules

/-- A list of distinct elements has at least two if it has another one. -/
theorem two_le_length_iff_of_nodup {α : Type} {l : List α} (hl : l.Nodup) {a : α} (ha : a ∈ l) :
    2 ≤ l.length ↔ ∃ b ∈ l, b ≠ a := by
  constructor
  · intro h
    by_contra hother
    push Not at hother
    have hsame : l = List.replicate l.length a := List.eq_replicate_of_mem hother
    have hle : l.length ≤ 1 := List.nodup_replicate.mp (hsame ▸ hl)
    omega
  · rintro ⟨b, hb, hne⟩
    rcases l with _ | ⟨c, _ | ⟨c', l⟩⟩
    · cases ha
    · exact absurd ((List.mem_singleton.mp hb).trans (List.mem_singleton.mp ha).symm) hne
    · simp

namespace Diagram

variable (d : Diagram)

/-- An entry, as its place in the list of nodes. -/
abbrev Entry : Type := Fin d.nodes.length

def labelAt (i : d.Entry) : String := (d.nodes.get i).label

def idAt (i : d.Entry) : String := (d.nodes.get i).id

/-- The entries with a label, in their order. -/
def carriers (label : String) : List d.Entry :=
  (List.finRange d.nodes.length).filter fun i => d.labelAt i == label

/-- The entries with a blank label, in their order. -/
def unlabelled : List d.Entry :=
  (List.finRange d.nodes.length).filter fun i => Checks.hasBlankLabel (d.nodes.get i)

variable {d} {i : d.Entry} {label : String}

theorem mem_carriers_iff : i ∈ d.carriers label ↔ d.labelAt i = label := by
  simp [carriers]

theorem nodup_carriers (label : String) : (d.carriers label).Nodup :=
  (List.nodup_finRange _).filter _

theorem filter_nodes_eq (p : Node → Bool) : d.nodes.filter p =
    ((List.finRange d.nodes.length).filter fun i => p (d.nodes.get i)).map d.nodes.get := by
  conv_lhs => rw [← List.map_get_finRange d.nodes, List.filter_map]
  rfl

theorem map_idAt_carriers (label : String) :
    (d.carriers label).map d.idAt = (d.nodes.filter (·.label == label)).map (·.id) := by
  rw [filter_nodes_eq, List.map_map]
  rfl

end Diagram

namespace Checks

variable {ctx : Context} {d : Diagram} {i : d.Entry}

/-- The violation reports all entries with a label. -/
structure ReportsLabel (d : Diagram) (v : Violation) (label : String) : Prop where
  ruleId : v.ruleId = Rule.uniqueLabels.code
  location : v.location = label
  components : v.affectedComponents = some ((d.carriers label).map d.idAt)
  nodeIds : v.detail? ["nodeIds"] = some (.texts ((d.carriers label).map d.idAt))
  count : v.number? "duplicateCount" = some ((d.carriers label).length : ℤ)

/-- The violation reports an entry with a blank label. -/
structure ReportsUnlabelled (d : Diagram) (v : Violation) (i : d.Entry) : Prop where
  ruleId : v.ruleId = Rule.requiredLabel.code
  components : v.affectedComponents = some [d.idAt i]
  nodeId : v.detail? ["nodeId"] = some (.text (d.idAt i))

/-- A label that is not blank and that several entries carry. -/
@[mk_iff]
structure IsDuplicate (d : Diagram) (label : String) : Prop where
  visible : ∃ c ∈ label.toList, ¬ Text.isBlank c
  several : 2 ≤ (d.carriers label).length

/-- Every entry is reported once if its label is blank, belongs to one reported class if it shares
its label, and is left out if it has a label of its own. -/
structure Accounts (d : Diagram) (labels : List String) (blanks : List d.Entry) : Prop where
  blank : ∀ i, (∀ c ∈ (d.labelAt i).toList, Text.isBlank c) →
    blanks.count i = 1 ∧ i ∉ labels.flatMap d.carriers
  shared : ∀ i, (∃ c ∈ (d.labelAt i).toList, ¬ Text.isBlank c) →
    (∃ j ≠ i, d.labelAt j = d.labelAt i) → i ∉ blanks ∧ (labels.flatMap d.carriers).count i = 1
  alone : ∀ i, (∃ c ∈ (d.labelAt i).toList, ¬ Text.isBlank c) →
    (∀ j ≠ i, d.labelAt j ≠ d.labelAt i) → i ∉ blanks ∧ i ∉ labels.flatMap d.carriers

/-- The labels that are reported, in the order of their first entries. -/
def duplicates (d : Diagram) : List String :=
  (d.nodes.map (·.label)).eraseDups.filter fun label =>
    !(Text.trim label == "") && decide (1 < (d.carriers label).length)

theorem labelUses_eq (d : Diagram) : labelUses d =
    ((d.nodes.map (·.label)).eraseDups.filter fun label => !(Text.trim label == "")).map
      fun label => (label, (d.carriers label).map d.idAt) := by
  have hlabels : (d.nodes.filter fun n => !hasBlankLabel n).map (·.label) =
      (d.nodes.map (·.label)).filter fun label => !(Text.trim label == "") := by
    rw [List.filter_map]
    rfl
  rw [labelUses, groupBy, hlabels, eraseDups_filter, List.map_map]
  refine List.map_congr_left fun label hlabel => ?_
  have hfilter : (d.nodes.filter fun n => !hasBlankLabel n).filter (·.label == label) =
      d.nodes.filter (·.label == label) := by
    rw [List.filter_filter]
    refine List.filter_congr fun n _ => ?_
    by_cases hn : n.label = label
    · obtain rfl := hn
      simpa [hasBlankLabel] using (List.mem_filter.mp hlabel).2
    · simp [hn]
  simp only [Function.comp_apply, hfilter, Diagram.map_idAt_carriers]

theorem forall₂_uniqueLabels (ctx : Context) :
    List.Forall₂ (ReportsLabel ctx.diagram) (uniqueLabels ctx) (duplicates ctx.diagram) := by
  have huses : (labelUses ctx.diagram).filter (fun use => decide (1 < use.2.length)) =
      (duplicates ctx.diagram).map fun label =>
        (label, (ctx.diagram.carriers label).map ctx.diagram.idAt) := by
    rw [labelUses_eq, List.filter_map, List.filter_filter, duplicates]
    simp only [Function.comp_def, List.length_map, Bool.and_comm]
  rw [uniqueLabels, huses, List.forall₂_map_left_iff, List.forall₂_map_left_iff, List.forall₂_same]
  intro label _
  refine ⟨rfl, rfl, rfl, rfl, ?_⟩
  rw [← List.length_map]
  rfl

theorem forall₂_requiredLabel (ctx : Context) :
    List.Forall₂ (ReportsUnlabelled ctx.diagram) (requiredLabel ctx) ctx.diagram.unlabelled := by
  rw [requiredLabel, Diagram.filter_nodes_eq, List.forall₂_map_left_iff, List.forall₂_map_left_iff,
    ← Diagram.unlabelled, List.forall₂_same]
  exact fun i _ => ⟨rfl, rfl, rfl⟩

theorem isDuplicate_iff_mem {label : String} : IsDuplicate d label ↔
    label ∈ d.nodes.map (·.label) ∧
      (!(Text.trim label == "") && decide (1 < (d.carriers label).length)) = true := by
  have hvisible : Text.trim label ≠ "" ↔ ∃ c ∈ label.toList, ¬ Text.isBlank c := by
    rw [Text.trim, ne_eq, String.ofList_eq_empty_iff, Text.trimChars_eq_nil_iff]
    push Not
    rfl
  have hcarried : 1 < (d.carriers label).length → label ∈ d.nodes.map (·.label) := by
    intro h
    obtain ⟨i, hi⟩ := List.exists_mem_of_length_pos (Nat.zero_lt_of_lt h)
    exact List.mem_map.mpr ⟨_, List.get_mem d.nodes i, Diagram.mem_carriers_iff.mp hi⟩
  rw [isDuplicate_iff, ← hvisible, Bool.and_eq_true, Bool.not_eq_true', beq_eq_false_iff_ne,
    decide_eq_true_iff]
  constructor
  · rintro ⟨hv, hs⟩
    exact ⟨hcarried hs, hv, hs⟩
  · exact And.right

theorem listsFirst_duplicates (d : Diagram) :
    ListsFirst (d.nodes.map (·.label)) (IsDuplicate d) (duplicates d) :=
  listsFirst_filter_eraseDups fun _ => isDuplicate_iff_mem

theorem isDuplicate_labelAt_iff : IsDuplicate d (d.labelAt i) ↔
    (∃ c ∈ (d.labelAt i).toList, ¬ Text.isBlank c) ∧ ∃ j ≠ i, d.labelAt j = d.labelAt i := by
  have hi : i ∈ d.carriers (d.labelAt i) := Diagram.mem_carriers_iff.mpr rfl
  rw [isDuplicate_iff, two_le_length_iff_of_nodup (Diagram.nodup_carriers _) hi]
  simp only [Diagram.mem_carriers_iff, and_comm]

/-- An entry stands in the class of its own label and in no other one. -/
theorem count_classes (d : Diagram) (i : d.Entry) :
    ((duplicates d).flatMap d.carriers).count i = (duplicates d).count (d.labelAt i) := by
  have hother : ∀ label ∈ duplicates d, label ≠ d.labelAt i → (d.carriers label).count i = 0 :=
    fun label _ hne => List.count_eq_zero_of_not_mem fun hi =>
      hne (Diagram.mem_carriers_iff.mp hi).symm
  have hown : (d.carriers (d.labelAt i)).count i = 1 :=
    List.count_eq_one_of_mem (Diagram.nodup_carriers _) (Diagram.mem_carriers_iff.mpr rfl)
  rw [count_flatMap_of_unique hother, hown, Nat.mul_one]

theorem mem_classes_iff (d : Diagram) (i : d.Entry) :
    i ∈ (duplicates d).flatMap d.carriers ↔ IsDuplicate d (d.labelAt i) := by
  rw [← List.count_pos_iff, count_classes, List.count_pos_iff, (listsFirst_duplicates d).mem_iff]

theorem mem_unlabelled_iff :
    i ∈ d.unlabelled ↔ ∀ c ∈ (d.labelAt i).toList, Text.isBlank c := by
  rw [Diagram.unlabelled, List.mem_filter, hasBlankLabel_iff]
  exact and_iff_right (List.mem_finRange i)

theorem accounts_duplicates (d : Diagram) : Accounts d (duplicates d) d.unlabelled where
  blank i hblank := by
    rw [mem_classes_iff, isDuplicate_labelAt_iff]
    refine ⟨?_, fun ⟨⟨c, hc, hvisible⟩, _⟩ => hvisible (hblank c hc)⟩
    exact List.count_eq_one_of_mem ((List.nodup_finRange _).filter _)
      (mem_unlabelled_iff.mpr hblank)
  shared i hvisible hother := by
    have hlabel := isDuplicate_labelAt_iff.mpr ⟨hvisible, hother⟩
    obtain ⟨c, hc, hc'⟩ := hvisible
    refine ⟨fun hblank => hc' (mem_unlabelled_iff.mp hblank c hc), ?_⟩
    rw [count_classes, List.count_eq_one_of_mem (listsFirst_duplicates d).nodup]
    exact ((listsFirst_duplicates d).mem_iff _).mpr hlabel
  alone i hvisible hother := by
    obtain ⟨c, hc, hc'⟩ := hvisible
    refine ⟨fun hblank => hc' (mem_unlabelled_iff.mp hblank c hc), ?_⟩
    rw [mem_classes_iff, isDuplicate_labelAt_iff]
    rintro ⟨-, j, hj, hlabel⟩
    exact hother j hj hlabel

/-- Exactly the labels that are not blank and that several entries carry are reported, each once
with all its entries and in the order of their first ones, and exactly the entries with a blank
label are reported as such, each once and in order. No entry is lost or counted twice. -/
theorem uniqueLabels_exact (ctx : Context) :
    ∃ labels blanks,
      ListsFirst (ctx.diagram.nodes.map (·.label)) (IsDuplicate ctx.diagram) labels ∧
      List.Forall₂ (ReportsLabel ctx.diagram) (uniqueLabels ctx) labels ∧
      List.Forall₂ (ReportsUnlabelled ctx.diagram) (requiredLabel ctx) blanks ∧
      blanks.Pairwise (· < ·) ∧
      Accounts ctx.diagram labels blanks :=
  ⟨_, _, listsFirst_duplicates ctx.diagram, forall₂_uniqueLabels ctx, forall₂_requiredLabel ctx,
    (List.pairwise_lt_finRange _).filter _, accounts_duplicates ctx.diagram⟩

end Checks

end DesignRules
