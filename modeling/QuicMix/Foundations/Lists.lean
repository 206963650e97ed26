import Mathlib.Data.List.Basic

namespace QuicMix
namespace Foundations

universe u v

/-!
# Occupied positions and labelled entries of a list

A table that is written and removed from by position is reasoned about by
splitting it at the position.  A record of entries that carry a label is read
one label at a time.
-/

variable {Entry : Type u}

/-- Writing or removing at an occupied position touches that position only. -/
theorem split_at {entries : List Entry} {index : Nat} {entry : Entry}
    (located : entries[index]? = some entry) :
    exists before after, entries = before ++ entry :: after ∧
      (forall updated, entries.set index updated = before ++ updated :: after) ∧
      entries.eraseIdx index = before ++ after := by
  induction entries generalizing index with
  | nil => simp only [List.getElem?_nil, reduceCtorEq] at located
  | cons head tail inductionHypothesis =>
      cases index with
      | zero =>
          simp only [List.getElem?_cons_zero, Option.some.injEq] at located
          subst located
          exact ⟨[], tail, rfl, fun _ => rfl, rfl⟩
      | succ index =>
          rw [List.getElem?_cons_succ] at located
          rcases inductionHypothesis located with ⟨before, after, split, written, erased⟩
          refine ⟨head :: before, after, ?_, ?_, ?_⟩
          · rw [split, List.cons_append]
          · intro updated
            rw [List.set_cons_succ, written, List.cons_append]
          · rw [List.eraseIdx_cons_succ, erased, List.cons_append]

/-- Removing an occupied position removes one entry from every count. -/
theorem countP_eraseIdx {entries : List Entry} {index : Nat} {entry : Entry}
    (located : entries[index]? = some entry) (counts : Entry -> Bool) :
    entries.countP counts =
      (entries.eraseIdx index).countP counts + if counts entry then 1 else 0 := by
  rcases split_at located with ⟨before, after, split, _, erased⟩
  rw [erased, split]
  simp only [List.countP_append, List.countP_cons]
  omega

theorem getElem?_append_of_some {entries : List Entry} {index : Nat} {entry : Entry}
    (located : entries[index]? = some entry) (more : List Entry) :
    (entries ++ more)[index]? = some entry := by
  rcases List.getElem?_eq_some_iff.mp located with ⟨bound, _⟩
  rw [List.getElem?_append_left bound, located]

/-- What holds of the entry at each position holds after one has been written. -/
theorem forall_getElem?_set {property : Nat -> Entry -> Prop} {entries : List Entry}
    (all : forall (index : Nat) (entry : Entry), entries[index]? = some entry ->
      property index entry)
    {index : Nat} {updated : Entry} (new : property index updated) (other : Nat) (entry : Entry)
    (located : (entries.set index updated)[other]? = some entry) : property other entry := by
  by_cases same : index = other
  · subst same
    have bound : index < entries.length := by
      rw [← @List.length_set _ entries index updated]
      exact (List.getElem?_eq_some_iff.mp located).1
    rw [List.getElem?_set_self bound] at located
    cases located
    exact new
  · rw [List.getElem?_set_ne same] at located
    exact all other entry located

theorem forall_getElem?_concat {property : Nat -> Entry -> Prop} {entries : List Entry}
    (all : forall (index : Nat) (entry : Entry), entries[index]? = some entry ->
      property index entry)
    {last : Entry} (new : property entries.length last) (other : Nat) (entry : Entry)
    (located : (entries ++ [last])[other]? = some entry) : property other entry := by
  rw [List.getElem?_append] at located
  split at located
  · exact all other entry located
  · rename_i outside
    have first : other - entries.length = 0 := by
      have bound := (List.getElem?_eq_some_iff.mp located).1
      rw [List.length_singleton] at bound
      exact Nat.lt_one_iff.mp bound
    have here : other = entries.length := by omega
    rw [first] at located
    cases located
    rw [here]
    exact new

/-- The entries at the positions that pass a test, in order. -/
theorem map_filter_range (entries : List Entry) (test : Entry -> Bool) :
    ((List.range entries.length).filter (fun index => (entries[index]?).any test)).map
        (fun index => entries[index]?) =
      (entries.filter test).map some := by
  induction entries with
  | nil => rfl
  | cons head tail inductionHypothesis =>
      rw [List.length_cons, List.range_succ_eq_map, List.filter_cons, List.filter_cons,
        List.filter_map]
      have shifted : (((List.range tail.length).filter
          ((fun index => ((head :: tail)[index]?).any test) ∘ Nat.succ)).map Nat.succ).map
            (fun index => (head :: tail)[index]?) = (tail.filter test).map some := by
        rw [← inductionHypothesis, List.map_map]
        rfl
      cases passed : test head with
      | true =>
          simp only [List.getElem?_cons_zero, Option.any_some, passed, if_true, List.map_cons]
          rw [shifted]
      | false =>
          simp only [List.getElem?_cons_zero, Option.any_some, passed, Bool.false_eq_true, if_false]
          exact shifted

/-- Lists that agree in a field agree in it at every position. -/
theorem getElem?_of_map_eq {Field : Type v} {first second : List Entry} {field : Entry -> Field}
    (same : second.map field = first.map field) {index : Nat} {entry : Entry}
    (located : first[index]? = some entry) :
    exists other, second[index]? = some other ∧ field other = field entry := by
  have there := congrArg (fun fields => fields[index]?) same
  simp only [List.getElem?_map, located, Option.map_some, Option.map_eq_some_iff] at there
  exact there

/-- Writing does not change a field that it leaves alone. -/
theorem map_set_of_eq {Field : Type v} {entries : List Entry} {index : Nat}
    {entry updated : Entry} (field : Entry -> Field) (located : entries[index]? = some entry)
    (same : field updated = field entry) :
    (entries.set index updated).map field = entries.map field := by
  rcases split_at located with ⟨before, after, split, written, _⟩
  rw [written, split, List.map_append, List.map_append, List.map_cons, List.map_cons, same]

/-- After writing, every other entry differs from the old one in each field that
tells the entries apart. -/
theorem mem_set_distinct {entries : List Entry} {index : Nat} {entry updated other : Entry}
    (located : entries[index]? = some entry) (member : other ∈ entries.set index updated) :
    other = updated ∨ (other ∈ entries ∧
      forall {Field : Type v} (field : Entry -> Field), (entries.map field).Nodup ->
        field other ≠ field entry) := by
  rcases split_at located with ⟨before, after, split, written, _⟩
  rw [written, List.mem_append, List.mem_cons] at member
  rw [split]
  rcases member with early | new | late
  · refine .inr ⟨List.mem_append_left _ early, ?_⟩
    intro Field field distinct same
    rw [List.map_append, List.nodup_append] at distinct
    exact distinct.2.2 (field other) (List.mem_map_of_mem early) (field entry)
      List.mem_cons_self same
  · exact .inl new
  · refine .inr ⟨List.mem_append_right _ (List.mem_cons_of_mem entry late), ?_⟩
    intro Field field distinct same
    rw [List.map_append, List.nodup_append, List.map_cons, List.nodup_cons] at distinct
    exact distinct.2.1.1 (same ▸ List.mem_map_of_mem late)

theorem map_modify_of_eq {Field : Type v} {entries : List Entry} {change : Entry -> Entry}
    (field : Entry -> Field) (index : Nat)
    (same : forall entry, field (change entry) = field entry) :
    (entries.modify index change).map field = entries.map field := by
  induction entries generalizing index with
  | nil => rw [List.modify_nil]
  | cons head tail inductionHypothesis =>
      cases index with
      | zero => rw [List.modify_zero_cons, List.map_cons, List.map_cons, same]
      | succ index =>
          rw [List.modify_succ_cons, List.map_cons, List.map_cons, inductionHypothesis]

variable {Label : Type v} [DecidableEq Label]

/-- The entries under a label, in the order of the record. -/
def labelled (record : List (Label × Entry)) (label : Label) : List Entry :=
  (record.filter (fun entry => decide (entry.1 = label))).map Prod.snd

theorem mem_labelled {record : List (Label × Entry)} {label : Label} {entry : Entry} :
    entry ∈ labelled record label <-> (label, entry) ∈ record := by
  simp only [labelled, List.mem_map, List.mem_filter, decide_eq_true_eq]
  constructor
  · rintro ⟨⟨other, found⟩, ⟨member, rfl⟩, rfl⟩
    exact member
  · intro member
    exact ⟨(label, entry), ⟨member, rfl⟩, rfl⟩

theorem labelled_append (first second : List (Label × Entry)) (label : Label) :
    labelled (first ++ second) label = labelled first label ++ labelled second label := by
  simp only [labelled, List.filter_append, List.map_append]

theorem labelled_self (label : Label) (entries : List Entry) :
    labelled (entries.map (fun entry => (label, entry))) label = entries := by
  simp only [labelled, List.filter_map, Function.comp_def, decide_true, List.filter_true,
    List.map_map, List.map_id_fun', id_eq]

/-- There is nothing under a label that the record does not mention. -/
theorem labelled_eq_nil {record : List (Label × Entry)} {label : Label} :
    labelled record label = [] <-> label ∉ record.map Prod.fst := by
  simp only [labelled, List.map_eq_nil_iff, List.filter_eq_nil_iff, decide_eq_true_eq,
    List.mem_map, not_exists, not_and]

theorem labelled_other {label other : Label} (entries : List Entry) (apart : label ≠ other) :
    labelled (entries.map (fun entry => (label, entry))) other = [] := by
  apply labelled_eq_nil.mpr
  intro member
  rcases List.mem_map.mp member with ⟨entry, listed, same⟩
  rcases List.mem_map.mp listed with ⟨_, _, rfl⟩
  exact apart same

end Foundations
end QuicMix
